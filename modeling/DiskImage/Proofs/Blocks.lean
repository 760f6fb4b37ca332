import DiskImage.Bounds
import DiskImage.Except
import Mathlib.Logic.ExistsUnique
import Mathlib.Order.Bounds.Defs

/-! A length cut into blocks of one size, of which the last may reach past the end. The quotient rounded up
is the number of blocks that it takes, and on words it comes to the same number without overflow. -/
namespace DiskImage

def InBlock (size i p : Nat) : Prop := i * size ≤ p ∧ p < (i + 1) * size

/-- The blocks below `count` hold the first `length` positions, each of them once, and none is idle. -/
structure Tiles (count size length : Nat) : Prop where
  least : IsLeast {n | length ≤ n * size} count
  each : ∀ p, p < length → ∃! i, i < count ∧ InBlock size i p
  start_lt : ∀ i, i < count → i * size < length

section

variable {size : Nat} (pos : 0 < size)
include pos

theorem inBlock_iff {i p : Nat} : InBlock size i p ↔ p / size = i := by
  rw [InBlock, ← Nat.le_div_iff_mul_le pos, ← Nat.div_lt_iff_lt_mul pos]
  omega

theorem isLeast_roundedUp (length : Nat) :
    IsLeast {n | length ≤ n * size} ((length + (size - 1)) / size) := by
  constructor
  · have cut := Nat.div_add_mod' (length + (size - 1)) size
    have rest := Nat.mod_lt (length + (size - 1)) pos
    change length ≤ (length + (size - 1)) / size * size
    omega
  · intro n enough
    have enough : length ≤ n * size := enough
    apply Nat.le_of_lt_succ
    rw [Nat.div_lt_iff_lt_mul pos, Nat.succ_mul]
    omega

theorem tiles_roundedUp (length : Nat) : Tiles ((length + (size - 1)) / size) size length := by
  have least := isLeast_roundedUp pos length
  generalize (length + (size - 1)) / size = count at least
  have enough : length ≤ count * size := least.1
  refine ⟨least, fun p inside => ?_, fun i listed => ?_⟩
  · have listed : p / size < count := (Nat.div_lt_iff_lt_mul pos).mpr (by omega)
    refine ⟨p / size, ⟨listed, (inBlock_iff pos).mpr rfl⟩, ?_⟩
    rintro i ⟨-, within⟩
    exact ((inBlock_iff pos).mp within).symm
  · apply Nat.lt_of_not_le
    intro past
    exact absurd (least.2 past) (Nat.not_le.mpr listed)

end

namespace Tiles

variable {count size length : Nat}

theorem eq_zero_iff (tiles : Tiles count size length) : count = 0 ↔ length = 0 := by
  have enough : length ≤ count * size := tiles.least.1
  constructor
  · rintro rfl
    omega
  · rintro rfl
    exact Nat.le_zero.mp (tiles.least.2 (Nat.zero_le _))

end Tiles

namespace Word

/-- The quotient rounded up, from one division, one remainder and at most one sum of words. -/
def divUp (n d : Nat) : Except ArithmeticFault Nat := do
  let quotient ← div n d
  if n % d = 0 then return quotient else add quotient 1

theorem divUp_eq {n d : Nat} (pos : 0 < d) (word : n < limit) :
    divUp n d = .ok ((n + (d - 1)) / d) := by
  have cut := Nat.div_add_mod' n d
  have rest := Nat.mod_lt n pos
  have quotient : n / d ≤ n / d * d := Nat.le_mul_of_pos_right _ pos
  rw [divUp, div_of_pos pos, ok_bind]
  split
  · next whole =>
    congr 1
    symm
    apply Nat.div_eq_of_lt_le
    · omega
    · rw [Nat.succ_mul]
      omega
  · next more =>
    rw [add_of_lt (by omega)]
    congr 1
    symm
    apply Nat.div_eq_of_lt_le
    · rw [Nat.succ_mul]
      omega
    · rw [Nat.succ_mul, Nat.succ_mul]
      omega

end Word

end DiskImage
