import DiskImage.Bounds

/-! Which requests an image takes, as a statement about integers, and the rule that every other
request breaks first. The word-sized check decides exactly this. -/
namespace DiskImage

/-- Whole sectors inside an image of `size` bytes, ending at a 64-bit offset. -/
structure Fits (offset len size : Nat) : Prop where
  offset_aligned : sectorSize ∣ offset
  len_aligned : sectorSize ∣ len
  stop_lt : offset + len < Word.limit
  stop_le : offset + len ≤ size

theorem fits_iff {offset len size : Nat} : Fits offset len size ↔
    (sectorSize ∣ offset ∧ sectorSize ∣ len) ∧ offset + len < Word.limit ∧ offset + len ≤ size :=
  ⟨fun h => ⟨⟨h.1, h.2⟩, h.3, h.4⟩, fun h => ⟨h.1.1, h.1.2, h.2.1, h.2.2⟩⟩

instance (offset len size : Nat) : Decidable (Fits offset len size) :=
  decidable_of_iff' _ fits_iff

/-- The first rule that a request breaks, when it does not fit. -/
def brokenRule (offset len size : Nat) : ImageError :=
  if ¬ (sectorSize ∣ offset ∧ sectorSize ∣ len) then .unaligned offset len sectorSize
  else if Word.limit ≤ offset + len then .offsetOverflow
  else .outOfBounds offset len size

theorem checkRange_eq (offset len size : Nat) : checkRange offset len size =
    if offset + len < Word.limit ∧ offset + len ≤ size then .ok ()
    else .error (if Word.limit ≤ offset + len then .offsetOverflow
      else .outOfBounds offset len size) := by
  unfold checkRange
  by_cases overflow : Word.limit ≤ offset + len
  · simp [overflow, Nat.not_lt.mpr overflow]
  · by_cases inside : offset + len ≤ size
    · simp [overflow, inside, Nat.lt_of_not_le overflow, Nat.not_lt.mpr inside]
    · simp [overflow, inside, Nat.lt_of_not_le inside]

theorem checkRequest_eq (offset len size : Nat) : checkRequest offset len size =
    if Fits offset len size then .ok () else .error (brokenRule offset len size) := by
  unfold checkRequest brokenRule
  by_cases aligned : sectorSize ∣ offset ∧ sectorSize ∣ len
  · have passes : ¬ (offset % sectorSize ≠ 0 ∨ len % sectorSize ≠ 0) := by
      rintro (h | h)
      · exact h (Nat.mod_eq_zero_of_dvd aligned.1)
      · exact h (Nat.mod_eq_zero_of_dvd aligned.2)
    rw [if_neg passes, if_neg (not_not_intro aligned), checkRange_eq]
    simp only [fits_iff, aligned, true_and, and_self]
  · have stops : offset % sectorSize ≠ 0 ∨ len % sectorSize ≠ 0 := by
      by_cases h : offset % sectorSize = 0
      · exact .inr fun h' => aligned ⟨Nat.dvd_of_mod_eq_zero h, Nat.dvd_of_mod_eq_zero h'⟩
      · exact .inl h
    rw [if_pos stops, if_pos aligned, if_neg (fun h => aligned (fits_iff.mp h).1)]

theorem checkRequest_of_fits {offset len size : Nat} (h : Fits offset len size) :
    checkRequest offset len size = .ok () := by
  rw [checkRequest_eq, if_pos h]

theorem checkRequest_of_not_fits {offset len size : Nat} (h : ¬ Fits offset len size) :
    checkRequest offset len size = .error (brokenRule offset len size) := by
  rw [checkRequest_eq, if_neg h]

def Aligned (offset len : Nat) : Prop := sectorSize ∣ offset ∧ sectorSize ∣ len

/-- The error for the first rule that a request breaks. -/
inductive Breaks (offset len size : Nat) : ImageError → Prop
  | unaligned (crooked : ¬ Aligned offset len) :
    Breaks offset len size (.unaligned offset len sectorSize)
  | overflow (aligned : Aligned offset len) (past : Word.limit ≤ offset + len) :
    Breaks offset len size .offsetOverflow
  | outside (aligned : Aligned offset len) (word : offset + len < Word.limit)
    (past : size < offset + len) : Breaks offset len size (.outOfBounds offset len size)

section Check

variable {offset len size : Nat} {e : ImageError}

theorem checkRequest_eq_ok : checkRequest offset len size = .ok () ↔ Fits offset len size := by
  by_cases fits : Fits offset len size
  · simp only [checkRequest_of_fits fits, fits]
  · simp only [checkRequest_of_not_fits fits, fits, reduceCtorEq]

theorem fits_iff_aligned (sized : size < Word.limit) :
    Fits offset len size ↔ Aligned offset len ∧ offset + len ≤ size := by
  constructor
  · intro fits
    exact ⟨⟨fits.offset_aligned, fits.len_aligned⟩, fits.stop_le⟩
  · rintro ⟨aligned, inside⟩
    -- The end is a word because the image's size is one.
    exact ⟨aligned.1, aligned.2, Nat.lt_of_le_of_lt inside sized, inside⟩

theorem breaks_brokenRule (misfit : ¬ Fits offset len size) :
    Breaks offset len size (brokenRule offset len size) := by
  unfold brokenRule
  split
  · next crooked => exact .unaligned crooked
  next straight =>
  have aligned : Aligned offset len := Classical.not_not.mp straight
  split
  · next past => exact .overflow aligned past
  next word =>
  have word := Nat.lt_of_not_le word
  refine .outside aligned word (Nat.lt_of_not_le fun inside => ?_)
  exact misfit ⟨aligned.1, aligned.2, word, inside⟩

theorem Breaks.misfit (breaks : Breaks offset len size e) : ¬ Fits offset len size := by
  intro fits
  cases breaks with
  | unaligned crooked => exact crooked ⟨fits.offset_aligned, fits.len_aligned⟩
  | overflow _ past => exact Nat.not_le.mpr fits.stop_lt past
  | outside _ _ past => exact Nat.not_le.mpr past fits.stop_le

theorem Breaks.eq_brokenRule (breaks : Breaks offset len size e) :
    e = brokenRule offset len size := by
  unfold brokenRule
  cases breaks with
  | unaligned crooked => exact (if_pos crooked).symm
  | overflow aligned past => exact ((if_neg (not_not_intro aligned)).trans (if_pos past)).symm
  | outside aligned word _ =>
    exact ((if_neg (not_not_intro aligned)).trans (if_neg (Nat.not_le.mpr word))).symm

theorem checkRequest_eq_error :
    checkRequest offset len size = .error e ↔ Breaks offset len size e := by
  constructor
  · intro refused
    by_cases fits : Fits offset len size
    · rw [checkRequest_of_fits fits] at refused
      cases refused
    · rw [checkRequest_of_not_fits fits] at refused
      cases refused
      exact breaks_brokenRule fits
  · intro breaks
    rw [checkRequest_of_not_fits breaks.misfit, ← breaks.eq_brokenRule]

end Check

theorem sector_inside {k len : Nat} (inside : k < len / sectorSize) : (k + 1) * sectorSize ≤ len :=
  (Nat.le_div_iff_mul_le (by decide)).mp inside

theorem fits_of_span {size lba count : Nat} (inside : lba + count ≤ size / sectorSize)
    (sized : size < Word.limit) : Fits (lba * sectorSize) (count * sectorSize) size := by
  have stop : lba * sectorSize + count * sectorSize ≤ size := by
    rw [← Nat.add_mul]
    exact Nat.le_trans (Nat.mul_le_mul_right _ inside) (Nat.div_mul_le_self ..)
  exact ⟨Nat.dvd_mul_left .., Nat.dvd_mul_left .., Nat.lt_of_le_of_lt stop sized, stop⟩

theorem Fits.part {offset len size i n : Nat} (h : Fits offset len size)
    (inside : (i + n) * sectorSize ≤ len) :
    Fits (offset + i * sectorSize) (n * sectorSize) size := by
  rw [Nat.add_mul] at inside
  exact ⟨(Nat.dvd_add h.offset_aligned (Nat.dvd_mul_left ..)), Nat.dvd_mul_left ..,
    by have := h.stop_lt; omega, by have := h.stop_le; omega⟩

theorem Fits.split {offset first second size : Nat} (h : Fits offset (first + second) size)
    (aligned : sectorSize ∣ first) :
    Fits offset first size ∧ Fits (offset + first) second size := by
  have word := h.stop_lt
  have stop := h.stop_le
  exact ⟨⟨h.offset_aligned, aligned, by omega, by omega⟩,
    ⟨Nat.dvd_add h.offset_aligned aligned, (Nat.dvd_add_right aligned).mp h.len_aligned, by omega,
      by omega⟩⟩

end DiskImage
