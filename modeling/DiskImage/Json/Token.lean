import DiskImage.Config.Fault

/-! The pieces of JSON text: blanks, words, and strings with their escapes. Each reader returns what
is left of the text, which is never longer than what it was given. -/
namespace DiskImage.Json

def isBlank (c : Char) : Bool := c = ' ' || c = '\n' || c = '\t' || c = '\r'

def isDigit (c : Char) : Bool := '0' ≤ c && c ≤ '9'

def skipBlank (s : List Char) : List Char := s.dropWhile isBlank

def readWord : (word : List Char) → List Char → Except ConfigFault (List Char)
  | [], s => .ok s
  | _ :: _, [] => .error .truncated
  | w :: word, c :: s => if c = w then readWord word s else .error .malformed

def hexValue (c : Char) : Option Nat := Text.digitOf 16 c

def utf8Length (s : List Char) : Nat := s.foldr (fun c n => c.utf8Size + n) 0

/-- Four hexadecimal digits. The text counts as too short when fewer than four bytes are left. -/
def readHex4 (s : List Char) : Except ConfigFault (Nat × List Char) :=
  match s with
  | a :: b :: c :: d :: rest =>
    match hexValue a, hexValue b, hexValue c, hexValue d with
    | some a, some b, some c, some d => .ok (((a * 16 + b) * 16 + c) * 16 + d, rest)
    | _, _, _, _ => .error .malformed
  | _ => if utf8Length s < 4 then .error .truncated else .error .malformed

def shortEscape : Char → Option Char
  | '"' => some '"'
  | '\\' => some '\\'
  | '/' => some '/'
  | 'b' => some '\x08'
  | 'f' => some '\x0c'
  | 'n' => some '\n'
  | 'r' => some '\r'
  | 't' => some '\t'
  | _ => none

/-- The second half of a surrogate pair, written as an escape of its own. -/
def readTrail (lead : Nat) : List Char → Except ConfigFault (Char × List Char)
  | [] => .error .truncated
  | '\\' :: [] => .error .truncated
  | '\\' :: 'u' :: s =>
    match readHex4 s with
    | .error fault => .error fault
    | .ok (n, rest) =>
      if 0xdc00 ≤ n ∧ n ≤ 0xdfff then
        .ok (Char.ofNat (0x10000 + (lead - 0xd800) * 0x400 + (n - 0xdc00)), rest)
      else .error .malformed
  | _ => .error .malformed

/-- A code unit in hexadecimal; a surrogate only as the first half of a pair. -/
def readUnit (s : List Char) : Except ConfigFault (Char × List Char) :=
  match readHex4 s with
  | .error fault => .error fault
  | .ok (n, rest) =>
    if 0xdc00 ≤ n ∧ n ≤ 0xdfff then .error .malformed
    else if 0xd800 ≤ n ∧ n ≤ 0xdbff then readTrail n rest
    else .ok (Char.ofNat n, rest)

def readEscape : List Char → Except ConfigFault (Char × List Char)
  | [] => .error .truncated
  | 'u' :: s => readUnit s
  | c :: s =>
    match shortEscape c with
    | some e => .ok (e, s)
    | none => .error .malformed

theorem length_skipBlank (s : List Char) : (skipBlank s).length ≤ s.length :=
  (List.dropWhile_sublist _).length_le

theorem length_of_skipBlank {s rest : List Char} {c : Char} (blank : skipBlank s = c :: rest) :
    rest.length < s.length := by
  have start := length_skipBlank s
  rw [blank] at start
  exact start

theorem length_readWord {word s rest : List Char} (h : readWord word s = .ok rest) :
    rest.length ≤ s.length := by
  induction word generalizing s with
  | nil => cases h; exact Nat.le_refl _
  | cons w word ih =>
    cases s with
    | nil => cases h
    | cons c s =>
      simp only [readWord] at h
      split at h
      · exact Nat.le_succ_of_le (ih h)
      · cases h

theorem length_readWord_of_skipBlank {word s text rest : List Char} {c : Char}
    (blank : skipBlank s = c :: text) (found : readWord word text = .ok rest) :
    rest.length ≤ s.length :=
  Nat.le_trans (length_readWord found) (Nat.le_of_lt (length_of_skipBlank blank))

theorem length_readHex4 {s rest : List Char} {n : Nat} (h : readHex4 s = .ok (n, rest)) :
    rest.length < s.length := by
  unfold readHex4 at h
  split at h
  · split at h
    · cases h; simp only [List.length_cons]; omega
    · cases h
  · split at h <;> cases h

theorem length_readTrail {lead : Nat} {s rest : List Char} {c : Char}
    (h : readTrail lead s = .ok (c, rest)) : rest.length < s.length := by
  unfold readTrail at h
  split at h
  · cases h
  · cases h
  · next s =>
    split at h
    · cases h
    · next hex =>
      have := length_readHex4 hex
      split at h
      · simp only [Except.ok.injEq, Prod.mk.injEq] at h
        simp only [← h.2, List.length_cons]
        omega
      · cases h
  · cases h

theorem length_readUnit {s rest : List Char} {c : Char} (h : readUnit s = .ok (c, rest)) :
    rest.length < s.length := by
  unfold readUnit at h
  split at h
  · cases h
  · next hex =>
    have first := length_readHex4 hex
    split at h
    · cases h
    · split at h
      · exact Nat.lt_trans (length_readTrail h) first
      · cases h; exact first

theorem length_readEscape {s rest : List Char} {c : Char} (h : readEscape s = .ok (c, rest)) :
    rest.length < s.length := by
  unfold readEscape at h
  split at h
  · cases h
  · exact Nat.lt_succ_of_lt (length_readUnit h)
  · split at h
    · cases h; exact Nat.lt_succ_self _
    · cases h

/-- The characters of a string up to its closing quote, the opening one being read already. -/
def readString (s : List Char) : Except ConfigFault (List Char × List Char) :=
  match s with
  | [] => .error .truncated
  | c :: s =>
    if c = '"' then .ok ([], s)
    else if c = '\\' then
      match h : readEscape s with
      | .error fault => .error fault
      | .ok (e, rest) =>
        have := length_readEscape h
        (readString rest).map fun (text, rest) => (e :: text, rest)
    else if c < ' ' then .error .malformed
    else (readString s).map fun (text, rest) => (c :: text, rest)
termination_by s.length
decreasing_by
  · simp only [List.length_cons]; omega
  · simp

theorem length_readString {s text rest : List Char} (h : readString s = .ok (text, rest)) :
    rest.length < s.length := by
  fun_induction readString s generalizing text rest with
  | case1 => cases h
  | case2 => cases h; exact Nat.lt_succ_self _
  | case3 => cases h
  | case4 _ _ left _ shorter _ ih =>
    cases found : readString left with
    | error => simp [found, Except.map] at h
    | ok p =>
      have last := ih found
      simp only [found, Except.map, Except.ok.injEq, Prod.mk.injEq] at h
      simp only [← h.2, List.length_cons]
      omega
  | case5 => cases h
  | case6 _ s _ _ _ ih =>
    cases found : readString s with
    | error => simp [found, Except.map] at h
    | ok p =>
      have last := ih found
      simp only [found, Except.map, Except.ok.injEq, Prod.mk.injEq] at h
      simp only [← h.2, List.length_cons]
      omega

theorem length_readString_of_skipBlank {s text key rest : List Char} {c : Char}
    (blank : skipBlank s = c :: text) (found : readString text = .ok (key, rest)) :
    rest.length ≤ s.length :=
  Nat.le_of_lt (Nat.lt_trans (length_readString found) (length_of_skipBlank blank))

end DiskImage.Json
