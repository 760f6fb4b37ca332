import DiskImage.Json.Text
import DiskImage.Proofs.Json.Grammar

/-! What a string of the grammar means. A character may be written as itself, with its one-letter
escape, or by its code units in UTF-16, and is read as the same in each case. -/
namespace DiskImage.Json

variable {c : Char} {text body rest : List Char}

inductive SpellsChar (c : Char) : List Char → Prop
  | plain (plain : Plain c) : SpellsChar c [c]
  | letter {letter : Char} (listed : (letter, c) ∈ letterEscapes) : SpellsChar c ['\\', letter]
  | unit {digits : List Char} (single : c.toNat < 0x10000) (unit : CodeUnit c.toNat digits) :
    SpellsChar c ('\\' :: 'u' :: digits)
  /-- A surrogate pair: the two halves hold ten bits each. -/
  | pair {lead trail : List Char} (double : 0x10000 ≤ c.toNat)
    (first : CodeUnit (0xd800 + (c.toNat - 0x10000) / 0x400) lead)
    (second : CodeUnit (0xdc00 + (c.toNat - 0x10000) % 0x400) trail) :
    SpellsChar c ('\\' :: 'u' :: (lead ++ '\\' :: 'u' :: trail))

/-- `text` may be written as `body` between quotes. -/
inductive Spells : List Char → List Char → Prop
  | nil : Spells [] []
  | cons {c : Char} {text part body : List Char} (first : SpellsChar c part)
    (others : Spells text body) : Spells (c :: text) (part ++ body)

theorem SpellsChar.stringBody {part : List Char} (spelled : SpellsChar c part)
    (others : StringBody body) : StringBody (part ++ body) := by
  cases spelled with
  | plain plain => exact .cons (.plain plain) others
  | letter listed => exact .cons (.letter listed) others
  | unit _ unit => exact .cons (.unit unit) others
  | @pair lead trail _ first second =>
    have halves := StringBody.cons (.unit first) (.cons (.unit second) others)
    rwa [← List.append_assoc] at halves

theorem Spells.stringBody (spelled : Spells text body) : StringBody body := by
  induction spelled with
  | nil => exact .nil
  | cons first _ ih => exact first.stringBody ih

theorem toNat_valid (c : Char) : c.toNat < 0xd800 ∨ 0xdfff < c.toNat ∧ c.toNat < 0x110000 := c.valid

theorem readUnit_of_single {digits : List Char} (single : c.toNat < 0x10000)
    (unit : CodeUnit c.toNat digits) (rest : List Char) :
    readUnit (digits ++ rest) = .ok (c, rest) := by
  have valid := toNat_valid c
  have trail : ¬ (0xdc00 ≤ c.toNat ∧ c.toNat ≤ 0xdfff) := by omega
  have lead : ¬ (0xd800 ≤ c.toNat ∧ c.toNat ≤ 0xdbff) := by omega
  simp only [readUnit, readHex4_of_codeUnit unit, if_neg trail, if_neg lead, Char.ofNat_toNat]

theorem readUnit_of_pair {lead trail : List Char} (double : 0x10000 ≤ c.toNat)
    (first : CodeUnit (0xd800 + (c.toNat - 0x10000) / 0x400) lead)
    (second : CodeUnit (0xdc00 + (c.toNat - 0x10000) % 0x400) trail) (rest : List Char) :
    readUnit (lead ++ '\\' :: 'u' :: (trail ++ rest)) = .ok (c, rest) := by
  have valid := toNat_valid c
  generalize high : (c.toNat - 0x10000) / 0x400 = a at first
  generalize low : (c.toNat - 0x10000) % 0x400 = b at second
  have leads : 0xd800 ≤ 0xd800 + a ∧ 0xd800 + a ≤ 0xdbff := by omega
  have notTrail : ¬ (0xdc00 ≤ 0xd800 + a ∧ 0xd800 + a ≤ 0xdfff) := by omega
  have trails : 0xdc00 ≤ 0xdc00 + b ∧ 0xdc00 + b ≤ 0xdfff := by omega
  have joined : 0x10000 + (0xd800 + a - 0xd800) * 0x400 + (0xdc00 + b - 0xdc00) = c.toNat := by
    omega
  simp only [readUnit, readHex4_of_codeUnit first, if_neg notTrail, if_pos leads, readTrail,
    readHex4_of_codeUnit second, if_pos trails, joined, Char.ofNat_toNat]

theorem readEscape_of_listed {letter : Char} (listed : (letter, c) ∈ letterEscapes)
    (rest : List Char) : readEscape (letter :: rest) = .ok (c, rest) := by
  obtain ⟨notUnit, stands⟩ := shortEscape_of_listed _ listed
  rw [readEscape, stands]
  exact notUnit

theorem readString_quote (s : List Char) : readString ('"' :: s) = .ok ([], s) := by
  rw [readString, if_pos rfl]

theorem readString_of_escape {e : Char} {s rest : List Char}
    (escaped : readEscape s = .ok (e, rest)) :
    readString ('\\' :: s) = (readString rest).map fun (text, rest) => (e :: text, rest) := by
  rw [readString, if_neg (by decide), if_pos rfl]
  split
  · next fault => cases fault.symm.trans escaped
  · next found =>
    cases found.symm.trans escaped
    rfl

theorem readString_of_plain {c : Char} (quote : c ≠ '"') (backslash : c ≠ '\\') (shown : ¬ c < ' ')
    (s : List Char) :
    readString (c :: s) = (readString s).map fun (text, rest) => (c :: text, rest) := by
  rw [readString, if_neg quote, if_neg backslash, if_neg shown]

theorem readString_of_spellsChar {part : List Char} (spelled : SpellsChar c part) (s : List Char) :
    readString (part ++ s) = (readString s).map fun (text, rest) => (c :: text, rest) := by
  cases spelled with
  | plain plain => exact readString_of_plain plain.quote plain.backslash plain.shown s
  | letter listed => exact readString_of_escape (readEscape_of_listed listed s)
  | unit single unit => exact readString_of_escape (readUnit_of_single single unit s)
  | pair double first second =>
    rw [List.cons_append, List.cons_append, List.append_assoc]
    exact readString_of_escape (readUnit_of_pair double first second s)

theorem readString_of_spells (spelled : Spells text body) (rest : List Char) :
    readString (body ++ '"' :: rest) = .ok (text, rest) := by
  induction spelled with
  | nil => exact readString_quote rest
  | cons first _ ih =>
    rw [List.append_assoc, readString_of_spellsChar first, ih]
    rfl

theorem hexDigit_hexDigit (n : Nat) : HexDigit (n % 16) (Text.hexDigit n) :=
  ⟨Nat.mod_lt n (by decide), .inl rfl⟩

theorem hexPadded_four_of_control : ∀ n < ' '.toNat,
    Text.hexPadded 4 n = ['0', '0', Text.hexDigit (n / 16), Text.hexDigit n] := by
  decide

theorem codeUnit_of_control {n : Nat} (control : n < ' '.toNat) :
    CodeUnit n (Text.hexPadded 4 n) := by
  have bound : n < 32 := control
  have zero : HexDigit 0 '0' := ⟨by decide, .inl rfl⟩
  have value : ((0 * 16 + 0) * 16 + n / 16 % 16) * 16 + n % 16 = n := by omega
  have unit := CodeUnit.digits zero zero (hexDigit_hexDigit (n / 16)) (hexDigit_hexDigit n)
  rwa [value, ← hexPadded_four_of_control n control] at unit

theorem spellsChar_escapeChar (c : Char) : SpellsChar c (escapeChar c) := by
  unfold escapeChar
  split
  -- All cases but the last are escapes of one letter.
  case h_8 quote backslash _ _ _ _ _ =>
    split
    · next control =>
      have below : c.toNat < ' '.toNat := control
      exact .unit (Nat.lt_trans below (by decide)) (codeUnit_of_control below)
    · next shown => exact .plain ⟨quote, backslash, shown⟩
  all_goals exact .letter (by decide)

theorem spells_escape (text : List Char) : Spells text (escape text) := by
  induction text with
  | nil => exact .nil
  | cons c text ih => exact .cons (spellsChar_escapeChar c) ih

end DiskImage.Json
