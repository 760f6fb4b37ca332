import DiskImage.Except
import DiskImage.Text.Integer

/-! The numerals of a radix up to sixteen and the numbers that they denote. The reader of integers accepts
the numerals up to its largest value and nothing else, and hexadecimal text denotes what it was made
from. -/
namespace DiskImage.Text

/-- The digit `d` of a radix, in either case if it is a letter. -/
def Digit (radix d : Nat) (c : Char) : Prop :=
  d < radix ∧ (c = Nat.digitChar d ∨ c = (Nat.digitChar d).toUpper)

/-- One digit or more, the most significant first, and the number that they denote. -/
inductive Numeral (radix : Nat) : List Char → Nat → Prop
  | digit {d : Nat} {c : Char} (digit : Digit radix d c) : Numeral radix [c] d
  | more {text : List Char} {n d : Nat} {c : Char} (front : Numeral radix text n)
    (last : Digit radix d c) : Numeral radix (text ++ [c]) (n * radix + d)

inductive Unsigned (radix : Nat) : List Char → Nat → Prop
  | plain {text : List Char} {n : Nat} (numeral : Numeral radix text n) : Unsigned radix text n
  | plus {text : List Char} {n : Nat} (numeral : Numeral radix text n) :
    Unsigned radix ('+' :: text) n

section Digit

variable {radix d : Nat} {c : Char}

theorem digitOf_of_digit (small : radix ≤ 16) (digit : Digit radix d c) :
    digitOf radix c = some d := by
  obtain ⟨below, spelled⟩ := digit
  have value : ∀ d < 16, digitValue (Nat.digitChar d) = some d ∧
      digitValue (Nat.digitChar d).toUpper = some d := by decide
  have known : digitValue c = some d := by
    rcases spelled with rfl | rfl
    · exact (value d (by omega)).1
    · exact (value d (by omega)).2
  rw [digitOf, known, Option.filter_some_pos (by simpa using below)]

theorem digit_of_digitValue (value : digitValue c = some d) (below : d < 16) :
    c = Nat.digitChar d ∨ c = (Nat.digitChar d).toUpper := by
  have code : ∀ d < 16, (d < 10 → (Nat.digitChar d).toNat = '0'.toNat + d) ∧
      (10 ≤ d → (Nat.digitChar d).toNat = 'a'.toNat + (d - 10) ∧
        (Nat.digitChar d).toUpper.toNat = 'A'.toNat + (d - 10)) := by decide
  obtain ⟨number, letter⟩ := code d below
  unfold digitValue at value
  split at value
  · next range =>
    have first : '0'.toNat ≤ c.toNat := range.1
    have last : c.toNat ≤ '0'.toNat + 9 := range.2
    cases value
    exact .inl (Char.toNat_inj.mp (by rw [number (by omega)]; omega))
  split at value
  · next range =>
    have first : 'a'.toNat ≤ c.toNat := range.1
    cases value
    exact .inl (Char.toNat_inj.mp (by rw [(letter (by omega)).1]; omega))
  split at value
  · next range =>
    have first : 'A'.toNat ≤ c.toNat := range.1
    cases value
    exact .inr (Char.toNat_inj.mp (by rw [(letter (by omega)).2]; omega))
  · cases value

theorem digitOf_eq_some (small : radix ≤ 16) : digitOf radix c = some d ↔ Digit radix d c := by
  constructor
  · intro found
    obtain ⟨value, below⟩ := Option.filter_eq_some_iff.mp found
    have below : d < radix := by simpa using below
    exact ⟨below, digit_of_digitValue value (by omega)⟩
  · exact digitOf_of_digit small

end Digit

section Reading

variable {radix largest n m : Nat} {text : List Char}

theorem readDigits_append (radix largest n : Nat) (text rest : List Char) :
    readDigits radix largest n (text ++ rest) =
      readDigits radix largest n text >>= fun m => readDigits radix largest m rest := by
  induction text generalizing n with
  | nil => rfl
  | cons c text ih =>
    simp only [List.cons_append, readDigits]
    split
    · rfl
    · split
      · exact ih _
      · rfl

theorem readDigits_of_numeral (small : radix ≤ 16) (numeral : Numeral radix text n)
    (le : n ≤ largest) : readDigits radix largest 0 text = .ok n := by
  induction numeral with
  | digit digit => simp [readDigits, digitOf_of_digit small digit, le]
  | @more text n d c front last ih =>
    have fewer : n ≤ n * radix := Nat.le_mul_of_pos_right n (Nat.zero_lt_of_lt last.1)
    rw [readDigits_append, ih (by omega), ok_bind]
    simp [readDigits, digitOf_of_digit small last, le]

theorem numeral_of_readDigits (small : radix ≤ 16) {front : List Char}
    (before : front = [] ∧ n = 0 ∨ Numeral radix front n) (le : n ≤ largest)
    (read : readDigits radix largest n text = .ok m) :
    (front ++ text = [] ∧ m = 0 ∨ Numeral radix (front ++ text) m) ∧ m ≤ largest := by
  induction text generalizing front n with
  | nil =>
    cases read
    rw [List.append_nil]
    exact ⟨before, le⟩
  | cons c rest ih =>
    simp only [readDigits] at read
    split at read
    · cases read
    next d found =>
    have digit := (digitOf_eq_some small).mp found
    split at read
    · next le' =>
      rw [List.append_cons]
      refine ih (.inr ?_) le' read
      rcases before with ⟨rfl, rfl⟩ | numeral
      · rw [Nat.zero_mul, Nat.zero_add]
        exact .digit digit
      · exact .more numeral digit
    · cases read

theorem Numeral.ne_nil (numeral : Numeral radix text n) : text ≠ [] := by
  cases numeral <;> simp

theorem Numeral.digit_of_mem (numeral : Numeral radix text n) {c : Char} (member : c ∈ text) :
    ∃ d, Digit radix d c := by
  induction numeral with
  | digit digit =>
    obtain rfl := List.mem_singleton.mp member
    exact ⟨_, digit⟩
  | more front last ih =>
    rcases List.mem_append.mp member with earlier | here
    · exact ih earlier
    · obtain rfl := List.mem_singleton.mp here
      exact ⟨_, last⟩

theorem Numeral.not_mem (numeral : Numeral radix text n) (small : radix ≤ 16) {c : Char}
    (other : digitOf radix c = none) : c ∉ text := by
  intro member
  obtain ⟨d, digit⟩ := numeral.digit_of_mem member
  simp [digitOf_of_digit small digit] at other

theorem readDigits_eq_ok (small : radix ≤ 16) (some : text ≠ []) :
    readDigits radix largest 0 text = .ok n ↔ Numeral radix text n ∧ n ≤ largest := by
  constructor
  · intro read
    obtain ⟨numeral, le⟩ := numeral_of_readDigits small (.inl ⟨rfl, rfl⟩) (Nat.zero_le _) read
    exact ⟨numeral.resolve_left fun nothing => some nothing.1, le⟩
  · rintro ⟨numeral, le⟩
    exact readDigits_of_numeral small numeral le

theorem unsigned_plus (small : radix ≤ 16) :
    Unsigned radix ('+' :: text) n ↔ Numeral radix text n := by
  constructor
  · intro unsigned
    cases unsigned with
    | plain numeral => exact absurd List.mem_cons_self (numeral.not_mem small rfl)
    | plus numeral => exact numeral
  · exact .plus

theorem unsigned_of_ne (bare : ∀ rest, text ≠ '+' :: rest) :
    Unsigned radix text n ↔ Numeral radix text n := by
  constructor
  · intro unsigned
    cases unsigned with
    | plain numeral => exact numeral
    | plus numeral => exact absurd rfl (bare _)
  · exact .plain

theorem readUnsigned_eq_ok (small : radix ≤ 16) :
    readUnsigned radix largest text = .ok n ↔ Unsigned radix text n ∧ n ≤ largest := by
  have nothing : ¬ Numeral radix [] n := fun numeral => numeral.ne_nil rfl
  unfold readUnsigned
  split
  · rw [unsigned_of_ne (by simp)]
    simp [nothing]
  · rw [unsigned_plus small]
    simp [nothing]
  · next digits more =>
    rw [readDigits_eq_ok small fun none => more (by rw [none]), unsigned_plus small]
  · next some _ bare =>
    rw [readDigits_eq_ok small some, unsigned_of_ne bare]

end Reading

/-- The spelling of a number in lower-case hexadecimal, with zeros before it only up to `width`. -/
structure LowerHex (width n : Nat) (text : List Char) : Prop where
  numeral : Numeral 16 text n
  lower : ∀ c ∈ text, c.isUpper = false
  padded : width ≤ text.length
  bare : width < text.length → text.head? ≠ some '0'

section Hexadecimal

theorem digit_digitChar {d : Nat} (below : d < 16) : Digit 16 d (Nat.digitChar d) :=
  ⟨below, .inl rfl⟩

theorem isUpper_digitChar : ∀ d < 16, (Nat.digitChar d).isUpper = false := by decide

theorem Numeral.zero_cons {text : List Char} {n : Nat} (numeral : Numeral 16 text n) :
    Numeral 16 ('0' :: text) n := by
  have zero : Numeral 16 ['0'] 0 := .digit (digit_digitChar (by decide))
  induction numeral with
  | @digit d c digit =>
    have both := Numeral.more zero digit
    rwa [Nat.zero_mul, Nat.zero_add] at both
  | more front last ih => exact .more ih last

theorem Numeral.zeros_append {text : List Char} {n : Nat} (numeral : Numeral 16 text n) (k : Nat) :
    Numeral 16 (List.replicate k '0' ++ text) n := by
  induction k with
  | zero => exact numeral
  | succ k ih => exact ih.zero_cons

theorem head_toDigits {n : Nat} (pos : 0 < n) : (Nat.toDigits 16 n).head? ≠ some '0' := by
  induction n using Nat.strongRecOn with
  | ind n ih =>
    rw [Nat.toDigits_eq_if (by decide)]
    split
    · simp only [List.head?_cons, ne_eq, Option.some.injEq, Nat.digitChar_eq_zero]
      omega
    · have front := ih (n / 16) (by omega) (by omega)
      rwa [List.head?_append, Option.or_of_isSome (List.isSome_head?.mpr Nat.toDigits_ne_nil)]

theorem lowerHex_toDigits (n : Nat) : LowerHex 1 n (Nat.toDigits 16 n) := by
  induction n using Nat.strongRecOn with
  | ind n ih =>
    rw [Nat.toDigits_eq_if (by decide)]
    split
    · next below =>
      exact ⟨.digit (digit_digitChar below), by simpa using isUpper_digitChar n below, by simp,
        by simp⟩
    · next large =>
      have front := ih (n / 16) (by omega)
      have last : n % 16 < 16 := Nat.mod_lt n (by decide)
      refine ⟨?_, ?_, by simp, ?_⟩
      · have both := front.numeral.more (digit_digitChar last)
        rwa [Nat.div_add_mod' n 16] at both
      · intro c member
        rcases List.mem_append.mp member with earlier | here
        · exact front.lower c earlier
        · obtain rfl := List.mem_singleton.mp here
          exact isUpper_digitChar _ last
      · rw [← Nat.toDigits_of_base_le (by decide) (by omega)]
        exact fun _ => head_toDigits (by omega)

theorem lowerHex_hexPadded (width n : Nat) (some : 0 < width) :
    LowerHex width n (hexPadded width n) := by
  have digits := lowerHex_toDigits n
  have length : (hexPadded width n).length = max width (Nat.toDigits 16 n).length := by
    simp only [hexPadded, List.length_append, List.length_replicate]
    omega
  refine ⟨digits.numeral.zeros_append _, ?_, by omega, ?_⟩
  · intro c member
    rcases List.mem_append.mp member with zero | digit
    · rw [List.eq_of_mem_replicate zero]
      rfl
    · exact digits.lower c digit
  · intro long
    have none : width - (Nat.toDigits 16 n).length = 0 := by omega
    rw [hexPadded, none]
    exact digits.bare (by omega)

theorem lowerHex_hexByte (b : UInt8) : LowerHex 2 b.toNat (hexByte b) := by
  have byte : b.toNat < 256 := b.toNat_lt
  have high : b.toNat / 16 % 16 < 16 := Nat.mod_lt _ (by decide)
  have low : b.toNat % 16 < 16 := Nat.mod_lt _ (by decide)
  refine ⟨?_, ?_, by simp [hexByte], by simp [hexByte]⟩
  · have both := (Numeral.digit (digit_digitChar high)).more (digit_digitChar low)
    have value : b.toNat / 16 % 16 * 16 + b.toNat % 16 = b.toNat := by omega
    rwa [value] at both
  · simpa [hexByte, hexDigit] using ⟨isUpper_digitChar _ high, isUpper_digitChar _ low⟩

end Hexadecimal

end DiskImage.Text
