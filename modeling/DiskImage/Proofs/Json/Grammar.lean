import DiskImage.Json.Token
import DiskImage.Proofs.Text.Numeral

/-! The grammar of JSON text: which characters may stand for a string, a number or a whole value.
What a string means plays no part here, so an escape may name half a surrogate pair. -/
namespace DiskImage.Json

def Blank (s : List Char) : Prop := ∀ c ∈ s, isBlank c

instance (s : List Char) : Decidable (Blank s) := decidable_of_iff (s.all isBlank) List.all_eq_true

def Digits (s : List Char) : Prop := ∀ c ∈ s, isDigit c

instance (s : List Char) : Decidable (Digits s) := decidable_of_iff (s.all isDigit) List.all_eq_true

def HexDigit (n : Nat) (c : Char) : Prop :=
  n < 16 ∧ (c = Nat.digitChar n ∨ c = (Nat.digitChar n).toUpper)

instance (n : Nat) (c : Char) : Decidable (HexDigit n c) :=
  inferInstanceAs (Decidable (n < 16 ∧ (c = Nat.digitChar n ∨ c = (Nat.digitChar n).toUpper)))

inductive CodeUnit : Nat → List Char → Prop
  | digits {i j k l : Nat} {a b c d : Char} (first : HexDigit i a) (second : HexDigit j b)
    (third : HexDigit k c) (fourth : HexDigit l d) :
    CodeUnit (((i * 16 + j) * 16 + k) * 16 + l) [a, b, c, d]

def letterEscapes : List (Char × Char) :=
  [('"', '"'), ('\\', '\\'), ('/', '/'), ('b', '\x08'), ('f', '\x0c'), ('n', '\n'), ('r', '\r'),
    ('t', '\t')]

structure Plain (c : Char) : Prop where
  quote : c ≠ '"'
  backslash : c ≠ '\\'
  shown : ¬ c < ' '

instance (c : Char) : Decidable (Plain c) :=
  decidable_of_iff (c ≠ '"' ∧ c ≠ '\\' ∧ ¬ c < ' ')
    ⟨fun ⟨quote, backslash, shown⟩ => ⟨quote, backslash, shown⟩,
      fun ⟨quote, backslash, shown⟩ => ⟨quote, backslash, shown⟩⟩

inductive StringPart : List Char → Prop
  | plain {c : Char} (plain : Plain c) : StringPart [c]
  | letter {letter c : Char} (listed : (letter, c) ∈ letterEscapes) : StringPart ['\\', letter]
  | unit {n : Nat} {digits : List Char} (unit : CodeUnit n digits) :
    StringPart ('\\' :: 'u' :: digits)

inductive StringBody : List Char → Prop
  | nil : StringBody []
  | cons {part body : List Char} (first : StringPart part) (others : StringBody body) :
    StringBody (part ++ body)

inductive WholePart : List Char → Prop
  | zero : WholePart ['0']
  | digits {c : Char} {s : List Char} (first : isDigit c) (nonzero : c ≠ '0') (others : Digits s) :
    WholePart (c :: s)

inductive FractionPart : List Char → Prop
  | none : FractionPart []
  | digits {c : Char} {s : List Char} (all : Digits (c :: s)) : FractionPart ('.' :: c :: s)

inductive ExponentPart : List Char → Prop
  | none : ExponentPart []
  | digits {mark c : Char} {sign s : List Char} (marked : mark = 'e' ∨ mark = 'E')
    (signed : sign = [] ∨ sign = ['+'] ∨ sign = ['-']) (all : Digits (c :: s)) :
    ExponentPart (mark :: (sign ++ c :: s))

inductive Number : List Char → Prop
  | parts {sign whole fraction exponent : List Char} (signed : sign = [] ∨ sign = ['-'])
    (before : WholePart whole) (behind : FractionPart fraction) (power : ExponentPart exponent) :
    Number (sign ++ (whole ++ (fraction ++ exponent)))

inductive Symbol
  | value
  /-- An item of a list, with the blanks around it. -/
  | element
  /-- One or more items with commas between them. -/
  | elements
  /-- A key and its value, with the blanks around each. -/
  | member
  /-- One or more members with commas between them. -/
  | members

/-- What each symbol may be written as. -/
inductive Derives : Symbol → List Char → Prop
  | nullWord : Derives .value ['n', 'u', 'l', 'l']
  | trueWord : Derives .value ['t', 'r', 'u', 'e']
  | falseWord : Derives .value ['f', 'a', 'l', 's', 'e']
  | number {s : List Char} (written : Number s) : Derives .value s
  | string {body : List Char} (written : StringBody body) :
    Derives .value ('"' :: (body ++ ['"']))
  | emptyList {gap : List Char} (blank : Blank gap) : Derives .value ('[' :: (gap ++ [']']))
  | list {items : List Char} (written : Derives .elements items) :
    Derives .value ('[' :: (items ++ [']']))
  | emptyObject {gap : List Char} (blank : Blank gap) : Derives .value ('{' :: (gap ++ ['}']))
  | object {members : List Char} (written : Derives .members members) :
    Derives .value ('{' :: (members ++ ['}']))
  | element {before value behind : List Char} (start : Blank before)
    (written : Derives .value value) (stop : Blank behind) :
    Derives .element (before ++ (value ++ behind))
  | lastElement {item : List Char} (last : Derives .element item) : Derives .elements item
  | elements {item items : List Char} (first : Derives .element item)
    (others : Derives .elements items) : Derives .elements (item ++ ',' :: items)
  | member {before key behind item : List Char} (start : Blank before) (named : StringBody key)
    (stop : Blank behind) (written : Derives .element item) :
    Derives .member (before ++ '"' :: (key ++ '"' :: (behind ++ ':' :: item)))
  | lastMember {member : List Char} (last : Derives .member member) : Derives .members member
  | members {member members : List Char} (first : Derives .member member)
    (others : Derives .members members) : Derives .members (member ++ ',' :: members)

theorem Blank.cons {c : Char} {s : List Char} (blank : Blank (c :: s)) : isBlank c ∧ Blank s :=
  List.forall_mem_cons.mp blank

theorem Digits.cons {c : Char} {s : List Char} (digits : Digits (c :: s)) : isDigit c ∧ Digits s :=
  List.forall_mem_cons.mp digits

theorem shortEscape_of_listed :
    ∀ entry ∈ letterEscapes, entry.1 ≠ 'u' ∧ shortEscape entry.1 = some entry.2 := by
  decide

theorem hexValue_of_hexDigit {n : Nat} {c : Char} (digit : HexDigit n c) : hexValue c = some n :=
  Text.digitOf_of_digit (Nat.le_refl 16) digit

theorem readHex4_of_codeUnit {n : Nat} {digits : List Char} (unit : CodeUnit n digits)
    (rest : List Char) : readHex4 (digits ++ rest) = .ok (n, rest) := by
  cases unit with
  | digits first second third fourth =>
    simp only [List.cons_append, List.nil_append, readHex4, hexValue_of_hexDigit first,
      hexValue_of_hexDigit second, hexValue_of_hexDigit third, hexValue_of_hexDigit fourth]

theorem isDigit_ne {c d : Char} (digit : isDigit c) (other : isDigit d = false) : c ≠ d := by
  rintro rfl
  exact absurd digit (by simp [other])

theorem isBlank_of_isDigit {c : Char} (digit : isDigit c) : isBlank c = false := by
  have space : c ≠ ' ' := isDigit_ne digit rfl
  have newline : c ≠ '\n' := isDigit_ne digit rfl
  have tab : c ≠ '\t' := isDigit_ne digit rfl
  have carriage : c ≠ '\r' := isDigit_ne digit rfl
  simp [isBlank, space, newline, tab, carriage]

/-- After its blanks an item starts with a character that cannot end the list. -/
def StartsItem (s : List Char) : Prop :=
  ∃ before c rest, s = before ++ c :: rest ∧ Blank before ∧ isBlank c = false ∧ c ≠ ']'

theorem StartsItem.append {s : List Char} (starts : StartsItem s) (rest : List Char) :
    StartsItem (s ++ rest) := by
  obtain ⟨before, c, s, rfl, blank, shown, other⟩ := starts
  exact ⟨before, c, s ++ rest, by simp, blank, shown, other⟩

theorem WholePart.starts {whole : List Char} (written : WholePart whole) :
    ∃ c rest, whole = c :: rest ∧ isDigit c := by
  cases written with
  | zero => exact ⟨_, _, rfl, rfl⟩
  | digits first => exact ⟨_, _, rfl, first⟩

theorem Number.startsItem {s : List Char} (written : Number s) : StartsItem s := by
  obtain ⟨signed, before, -, -⟩ := written
  obtain ⟨c, digits, rfl, digit⟩ := before.starts
  rcases signed with rfl | rfl
  · exact ⟨[], _, _, rfl, by decide, isBlank_of_isDigit digit, isDigit_ne digit rfl⟩
  · exact ⟨[], _, _, rfl, by decide, rfl, by decide⟩

theorem Derives.value_startsItem {s : List Char} (written : Derives .value s) : StartsItem s := by
  have start {c : Char} (rest : List Char) (shown : isBlank c = false) (other : c ≠ ']') :
      StartsItem (c :: rest) := ⟨[], c, rest, rfl, by decide, shown, other⟩
  cases written with
  | number written => exact written.startsItem
  | _ => exact start _ rfl (by decide)

theorem Derives.element_startsItem {s : List Char} (written : Derives .element s) :
    StartsItem s := by
  cases written with
  | @element before value behind blank written =>
    obtain ⟨gap, c, rest, rfl, inner, shown, other⟩ := written.value_startsItem
    refine ⟨before ++ gap, c, rest ++ behind, by simp, ?_, shown, other⟩
    exact List.forall_mem_append.mpr ⟨blank, inner⟩

theorem Derives.elements_startsItem {s : List Char} (written : Derives .elements s) :
    StartsItem s := by
  cases written with
  | lastElement last => exact last.element_startsItem
  | elements first => exact first.element_startsItem.append _

theorem Derives.members_start {s : List Char} (written : Derives .members s) :
    ∃ before rest, s = before ++ '"' :: rest ∧ Blank before := by
  cases written with
  | lastMember last =>
    cases last with
    | member start => exact ⟨_, _, rfl, start⟩
  | members first =>
    cases first with
    | member start => exact ⟨_, _, by rw [List.append_assoc, List.cons_append], start⟩

end DiskImage.Json
