import DiskImage.CommandLine.ByteLiteral
import DiskImage.Proofs.Text.Numeral

/-! The grammar of byte values on the command line. A byte is read from the numerals that denote it, and
everything else is refused. -/
namespace DiskImage.ByteLiteral

open Text (Numeral Unsigned)

/-- A hexadecimal numeral behind its mark, or a decimal one. No decimal numeral starts with a mark, since
no `x` is a decimal digit. -/
inductive Denotes : List Char → Nat → Prop
  | hexadecimal {x : Char} {text : List Char} {n : Nat} (mark : x = 'x' ∨ x = 'X')
    (unsigned : Unsigned 16 text n) : Denotes ('0' :: x :: text) n
  | decimal {text : List Char} {n : Nat} (unsigned : Unsigned 10 text n) : Denotes text n

theorem denotes_marked {x : Char} (mark : x = 'x' ∨ x = 'X') {text : List Char} {n : Nat} :
    Denotes ('0' :: x :: text) n ↔ Unsigned 16 text n := by
  have other : Text.digitOf 10 x = none := by
    rcases mark with rfl | rfl <;> rfl
  constructor
  · intro denotes
    cases denotes with
    | hexadecimal _ unsigned => exact unsigned
    | decimal unsigned =>
      have numeral := (Text.unsigned_of_ne (by simp)).mp unsigned
      exact absurd (by simp) (numeral.not_mem (by decide) other)
  · exact .hexadecimal mark

theorem denotes_bare {text : List Char} {n : Nat}
    (bare : ∀ x rest, text = '0' :: x :: rest → ¬ (x = 'x' ∨ x = 'X')) :
    Denotes text n ↔ Unsigned 10 text n := by
  constructor
  · intro denotes
    cases denotes with
    | hexadecimal mark => exact absurd mark (bare _ _ rfl)
    | decimal unsigned => exact unsigned
  · exact .decimal

theorem read_eq_ok {text : List Char} {n : Nat} :
    read text = .ok n ↔ Denotes text n ∧ n ≤ largest := by
  unfold read
  split
  · rw [Text.readUnsigned_eq_ok (by decide), denotes_marked (.inl rfl)]
  · rw [Text.readUnsigned_eq_ok (by decide), denotes_marked (.inr rfl)]
  · next lower upper =>
    rw [Text.readUnsigned_eq_ok (by decide), denotes_bare]
    rintro x rest rfl (rfl | rfl)
    · exact lower rest rfl
    · exact upper rest rfl

theorem parse_eq_ok {text : String} {b : UInt8} :
    parse text = .ok b ↔ read text.toList = .ok b.toNat := by
  have small {n : Nat} (found : read text.toList = .ok n) : n < 256 :=
    Nat.lt_succ_of_le (read_eq_ok.mp found).2
  unfold parse
  cases found : read text.toList with
  | error fault => simp
  | ok n =>
    have value : (UInt8.ofNat n).toNat = n := UInt8.toNat_ofNat_of_lt' (small found)
    simp only [Except.ok.injEq, ← UInt8.toNat_inj, value]

/-- A text is read as a byte exactly if it denotes that byte. What denotes nothing, or a number past the
largest byte, is refused. -/
theorem parse_iff_denotes (text : String) :
    (∀ b, parse text = .ok b ↔ Denotes text.toList b.toNat) ∧
    ((∃ message, parse text = .error message) ↔ ∀ n, Denotes text.toList n → 255 < n) := by
  have accepted (b : UInt8) : parse text = .ok b ↔ Denotes text.toList b.toNat := by
    have small : b.toNat ≤ largest := Nat.le_of_lt_succ b.toNat_lt
    rw [parse_eq_ok, read_eq_ok, and_iff_left small]
  refine ⟨accepted, ?_⟩
  constructor
  · rintro ⟨message, refused⟩ n denotes
    apply Nat.lt_of_not_le
    intro small
    have value : (UInt8.ofNat n).toNat = n := UInt8.toNat_ofNat_of_lt' (Nat.lt_succ_of_le small)
    rw [← value, ← accepted, refused] at denotes
    cases denotes
  · intro large
    cases answer : parse text with
    | error message => exact ⟨message, rfl⟩
    | ok b =>
      have past := large _ ((accepted b).mp answer)
      exact absurd b.toNat_lt (Nat.not_lt.mpr past)

/-- A mark or a sign alone, a sign that is a minus or stands before the mark, a second mark, and digits of
another script make no byte. -/
example : ["0x", "+", "-1", "+0x1", "0x0x1", "\u0663"].filterMap
    (fun text => (parse text).toOption) = [] := by decide

end DiskImage.ByteLiteral
