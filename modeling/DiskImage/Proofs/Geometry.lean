import DiskImage.Except
import DiskImage.Geometry
import Mathlib.Data.Prod.Lex

/-! Sector numbers and cylinder-head-sector addresses name the same sectors in the same order. Each
translation undoes the other, and neither overflows unless the number of the sector itself would. -/
namespace DiskImage

/-- Cylinders come first in the order of addresses, then heads, then sectors. -/
def Chs.place (address : Chs) : ℕ ×ₗ ℕ ×ₗ ℕ :=
  toLex (address.cylinder, toLex (address.head, address.sector))

theorem Chs.place_lt_place {a b : Chs} : a.place < b.place ↔
    a.cylinder < b.cylinder ∨ a.cylinder = b.cylinder ∧
      (a.head < b.head ∨ a.head = b.head ∧ a.sector < b.sector) := by
  simp only [place, Prod.Lex.toLex_lt_toLex]

def Overflows {α : Type} (result : Except ArithmeticFault α) : Prop :=
  result = .error .addOverflow ∨ result = .error .multiplyOverflow

theorem Overflows.ne_ok {α : Type} {result : Except ArithmeticFault α} (overflows : Overflows result)
    (a : α) : result ≠ .ok a := by
  obtain rfl | rfl := overflows <;> simp

namespace Geometry

/-- Tracks have sectors and cylinders have heads, as many as half words count. -/
structure Regular (g : Geometry) : Prop where
  sectorsPerTrack_pos : 0 < g.sectorsPerTrack
  heads_pos : 0 < g.heads
  sectorsPerTrack_lt : g.sectorsPerTrack < Word.halfLimit
  heads_lt : g.heads < Word.halfLimit

/-- The head is there, and its track has a sector of that number. -/
structure Addresses (g : Geometry) (address : Chs) : Prop where
  sector_pos : 1 ≤ address.sector
  sector_le : address.sector ≤ g.sectorsPerTrack
  head_lt : address.head < g.heads

def sectorsBefore (g : Geometry) (address : Chs) : Nat :=
  (address.cylinder * g.heads + address.head) * g.sectorsPerTrack + address.sector - 1

def addressOf (g : Geometry) (lba : Nat) : Chs where
  cylinder := lba / (g.sectorsPerTrack * g.heads)
  head := lba / g.sectorsPerTrack % g.heads
  sector := lba % g.sectorsPerTrack + 1

variable {g : Geometry} {address : Chs}

section Translation

theorem toChs_eq (regular : g.Regular) (lba : Nat) : g.toChs lba = .ok (g.addressOf lba) := by
  have cylinder : g.sectorsPerTrack * g.heads < Word.limit :=
    Nat.mul_lt_mul'' regular.sectorsPerTrack_lt regular.heads_lt
  have head : lba / g.sectorsPerTrack % g.heads < Word.halfLimit :=
    Nat.lt_trans (Nat.mod_lt _ regular.heads_pos) regular.heads_lt
  have sector : lba % g.sectorsPerTrack + 1 < Word.halfLimit :=
    Nat.lt_of_le_of_lt (Nat.mod_lt lba regular.sectorsPerTrack_pos) regular.sectorsPerTrack_lt
  simp only [toChs, Word.mul_of_lt cylinder, bind, Except.bind,
    Word.div_of_pos (Nat.mul_pos regular.sectorsPerTrack_pos regular.heads_pos),
    Word.div_of_pos regular.sectorsPerTrack_pos, Word.lowHalf_of_lt (Nat.lt_of_succ_lt sector),
    Word.addHalf_of_lt sector, Word.lowHalf_of_lt head]
  rfl

theorem addresses_addressOf (regular : g.Regular) (lba : Nat) : g.Addresses (g.addressOf lba) where
  sector_pos := Nat.le_add_left 1 _
  sector_le := Nat.mod_lt lba regular.sectorsPerTrack_pos
  head_lt := Nat.mod_lt _ regular.heads_pos

theorem sectorsBefore_addressOf (g : Geometry) (lba : Nat) :
    g.sectorsBefore (g.addressOf lba) = lba := by
  have track : lba / (g.sectorsPerTrack * g.heads) * g.heads + lba / g.sectorsPerTrack % g.heads =
      lba / g.sectorsPerTrack := by
    rw [← Nat.div_div_eq_div_mul, Nat.div_add_mod']
  simp only [sectorsBefore, addressOf, track]
  exact Nat.div_add_mod' lba g.sectorsPerTrack

theorem addressOf_sectorsBefore (found : g.Addresses address) :
    g.addressOf (g.sectorsBefore address) = address := by
  have sector_lt : address.sector - 1 < g.sectorsPerTrack :=
    Nat.sub_one_lt_of_le found.sector_pos found.sector_le
  have track : g.sectorsBefore address / g.sectorsPerTrack =
        address.cylinder * g.heads + address.head ∧
      g.sectorsBefore address % g.sectorsPerTrack = address.sector - 1 := by
    refine (Nat.div_mod_unique (Nat.zero_lt_of_lt sector_lt)).mpr ⟨?_, sector_lt⟩
    rw [sectorsBefore, Nat.add_sub_assoc found.sector_pos, Nat.add_comm, Nat.mul_comm]
  have cylinder : (address.cylinder * g.heads + address.head) / g.heads = address.cylinder ∧
      (address.cylinder * g.heads + address.head) % g.heads = address.head := by
    refine (Nat.div_mod_unique (Nat.zero_lt_of_lt found.head_lt)).mpr ⟨?_, found.head_lt⟩
    rw [Nat.add_comm, Nat.mul_comm]
  simp only [addressOf, ← Nat.div_div_eq_div_mul, track, cylinder,
    Nat.sub_add_cancel found.sector_pos]

end Translation

section Overflow

theorem toLba_of_not_addresses (unfound : ¬ g.Addresses address) : g.toLba address = .ok none := by
  apply if_pos
  by_contra inside
  simp only [not_or, not_lt, not_le] at inside
  exact unfound ⟨Nat.pos_of_ne_zero inside.1, inside.2.1, inside.2.2⟩

theorem toLba_eq (found : g.Addresses address) :
    g.toLba address = (do
      let tracks ← Word.mul address.cylinder g.heads
      let track ← Word.add tracks address.head
      let start ← Word.mul track g.sectorsPerTrack
      let lba ← Word.add start (address.sector - 1)
      return some lba) := by
  apply if_neg
  simp only [not_or, not_lt, not_le]
  exact ⟨Nat.ne_of_gt found.sector_pos, found.sector_le, found.head_lt⟩

theorem toLba_of_lt (found : g.Addresses address) (fits : g.sectorsBefore address < Word.limit) :
    g.toLba address = .ok (some (g.sectorsBefore address)) := by
  rw [sectorsBefore, Nat.add_sub_assoc found.sector_pos] at fits ⊢
  -- No intermediate result exceeds the number of sectors before the address.
  have start := Nat.lt_of_le_of_lt (Nat.le_add_right _ _) fits
  have track := Nat.lt_of_le_of_lt
    (Nat.le_mul_of_pos_right _ (Nat.lt_of_lt_of_le found.sector_pos found.sector_le)) start
  have tracks := Nat.lt_of_le_of_lt (Nat.le_add_right _ _) track
  rw [toLba_eq found, Word.mul_of_lt tracks, ok_bind, Word.add_of_lt track, ok_bind,
    Word.mul_of_lt start, ok_bind, Word.add_of_lt fits]
  rfl

theorem toLba_of_ge (found : g.Addresses address) (exceeds : Word.limit ≤ g.sectorsBefore address) :
    Overflows (g.toLba address) := by
  rw [sectorsBefore, Nat.add_sub_assoc found.sector_pos] at exceeds
  rw [toLba_eq found]
  rcases Nat.lt_or_ge (address.cylinder * g.heads) Word.limit with fits | large
  · rw [Word.mul_of_lt fits, ok_bind]
    rcases Nat.lt_or_ge (address.cylinder * g.heads + address.head) Word.limit with fits | large
    · rw [Word.add_of_lt fits, ok_bind]
      rcases Nat.lt_or_ge ((address.cylinder * g.heads + address.head) * g.sectorsPerTrack)
        Word.limit with fits | large
      · rw [Word.mul_of_lt fits, ok_bind, Word.add_of_ge exceeds]
        exact .inl rfl
      · rw [Word.mul_of_ge large]
        exact .inr rfl
    · rw [Word.add_of_ge large]
      exact .inl rfl
  · rw [Word.mul_of_ge large]
    exact .inr rfl

end Overflow

section Order

theorem lt_iff_div_lt_or_mod_lt (n a b : Nat) :
    a < b ↔ a / n < b / n ∨ a / n = b / n ∧ a % n < b % n := by
  have first := Nat.div_add_mod a n
  have second := Nat.div_add_mod b n
  constructor
  · intro lt
    refine (Nat.div_le_div_right (Nat.le_of_lt lt)).lt_or_eq.imp_right fun same => ⟨same, ?_⟩
    rw [same] at first
    omega
  · rintro (lt | ⟨same, lt⟩)
    · exact lt_of_not_ge fun ge => Nat.not_le.mpr lt (Nat.div_le_div_right ge)
    · rw [same] at first
      omega

theorem place_addressOf_lt_iff (g : Geometry) (a b : Nat) :
    (g.addressOf a).place < (g.addressOf b).place ↔ a < b := by
  rw [lt_iff_div_lt_or_mod_lt g.sectorsPerTrack a b,
    lt_iff_div_lt_or_mod_lt g.heads (a / g.sectorsPerTrack),
    Nat.ext_div_mod_iff g.heads (a / g.sectorsPerTrack), Chs.place_lt_place]
  simp only [addressOf, ← Nat.div_div_eq_div_mul, Nat.add_lt_add_iff_right]
  tauto

end Order

section Image

def wholeCylinders (bytes : Nat) : Nat :=
  (ofCapacity bytes).cylinders * (standardSectorsPerTrack * standardHeads)

theorem regular_ofCapacity (bytes : Nat) : (ofCapacity bytes).Regular where
  sectorsPerTrack_pos := show 0 < standardSectorsPerTrack by decide
  heads_pos := show 0 < standardHeads by decide
  sectorsPerTrack_lt := show standardSectorsPerTrack < Word.halfLimit by decide
  heads_lt := show standardHeads < Word.halfLimit by decide

theorem sectors_ofCapacity (bytes : Nat) :
    wholeCylinders bytes ≤ (ofCapacity bytes).sectors ∧
      (ofCapacity bytes).sectors < wholeCylinders bytes + standardSectorsPerTrack * standardHeads := by
  refine ⟨Nat.div_mul_le_self _ _, ?_⟩
  rw [wholeCylinders, ← Nat.succ_mul]
  exact Nat.lt_mul_of_div_lt (Nat.lt_succ_self _) (by decide)

theorem cylinder_of_lt_sectors {bytes lba : Nat} (inside : lba < (ofCapacity bytes).sectors) :
    ((ofCapacity bytes).addressOf lba).cylinder ≤ (ofCapacity bytes).cylinders ∧
      (((ofCapacity bytes).addressOf lba).cylinder = (ofCapacity bytes).cylinders ↔
        wholeCylinders bytes ≤ lba) := by
  have le : ((ofCapacity bytes).addressOf lba).cylinder ≤ (ofCapacity bytes).cylinders :=
    Nat.div_le_div_right (Nat.le_of_lt inside)
  refine ⟨le, le.ge_iff_eq.symm.trans ?_⟩
  exact Nat.le_div_iff_mul_le (show 0 < standardSectorsPerTrack * standardHeads by decide)

end Image

/-- Sector numbers and addresses of sectors are translated into each other, in the same order, as long
as the numbers are words; only the last part of an image is in no counted cylinder. -/
theorem addresses_correspond_to_sectors (regular : g.Regular) :
    (∀ lba < Word.limit, ∃ address, g.toChs lba = .ok address ∧ g.Addresses address ∧
      g.toLba address = .ok (some lba)) ∧
    (∀ address, g.toLba address = .ok none ↔ ¬ g.Addresses address) ∧
    (∀ address, g.Addresses address →
      (Overflows (g.toLba address) ↔ Word.limit ≤ g.sectorsBefore address) ∧
      (g.sectorsBefore address < Word.limit →
        g.toLba address = .ok (some (g.sectorsBefore address)) ∧
        g.toChs (g.sectorsBefore address) = .ok address)) ∧
    (∀ a < Word.limit, ∀ b < Word.limit, ∀ first second, g.toChs a = .ok first →
      g.toChs b = .ok second → (a < b ↔ first.place < second.place)) ∧
    ∀ bytes < Word.limit,
      wholeCylinders bytes ≤ (ofCapacity bytes).sectors ∧
      (ofCapacity bytes).sectors <
        wholeCylinders bytes + standardSectorsPerTrack * standardHeads ∧
      ∀ lba < (ofCapacity bytes).sectors, ∃ address, (ofCapacity bytes).toChs lba = .ok address ∧
        address.cylinder ≤ (ofCapacity bytes).cylinders ∧
        (address.cylinder = (ofCapacity bytes).cylinders ↔ wholeCylinders bytes ≤ lba) := by
  refine ⟨fun lba word => ?_, fun address => ⟨fun refused found => ?_, toLba_of_not_addresses⟩,
    fun address found => ⟨⟨fun overflows => ?_, toLba_of_ge found⟩, fun word => ⟨toLba_of_lt found word, ?_⟩⟩,
    fun a _ b _ first second toFirst toSecond => ?_,
    fun bytes _ => ⟨(sectors_ofCapacity bytes).1, (sectors_ofCapacity bytes).2, fun lba inside => ?_⟩⟩
  · have found := addresses_addressOf regular lba
    have back := sectorsBefore_addressOf g lba
    refine ⟨g.addressOf lba, toChs_eq regular lba, found, ?_⟩
    rw [toLba_of_lt found (by rwa [back]), back]
  · rcases Nat.lt_or_ge (g.sectorsBefore address) Word.limit with word | exceeds
    · cases (toLba_of_lt found word).symm.trans refused
    · exact (toLba_of_ge found exceeds).ne_ok none refused
  · by_contra word
    exact overflows.ne_ok _ (toLba_of_lt found (Nat.lt_of_not_le word))
  · rw [toChs_eq regular, addressOf_sectorsBefore found]
  · cases (toChs_eq regular a).symm.trans toFirst
    cases (toChs_eq regular b).symm.trans toSecond
    exact (place_addressOf_lt_iff g a b).symm
  · exact ⟨_, toChs_eq (regular_ofCapacity bytes) lba, cylinder_of_lt_sectors inside⟩

/-- On the largest geometry the last sector number is found on the second cylinder, and the next sector
of the track has no number. -/
theorem last_sector_of_largest_geometry :
    let g : Geometry := ⟨0, Word.halfLimit - 1, Word.halfLimit - 1, 0⟩
    g.Regular ∧ g.toChs (Word.limit - 1) = .ok ⟨1, 2, 1⟩ ∧
      g.toLba ⟨1, 2, 1⟩ = .ok (some (Word.limit - 1)) ∧ Overflows (g.toLba ⟨1, 2, 2⟩) ∧
      g.toLba ⟨1, 2, 0⟩ = .ok none := by
  intro g
  have regular : g.Regular := ⟨by decide, by decide, by decide, by decide⟩
  obtain ⟨_, refused, found, _⟩ := addresses_correspond_to_sectors regular
  have first : g.Addresses ⟨1, 2, 1⟩ := ⟨by decide, by decide, by decide⟩
  have second : g.Addresses ⟨1, 2, 2⟩ := ⟨by decide, by decide, by decide⟩
  have none_there : ¬ g.Addresses ⟨1, 2, 0⟩ := fun there => absurd there.sector_pos (by decide)
  have before : g.sectorsBefore ⟨1, 2, 1⟩ = Word.limit - 1 := by decide
  have last := (found ⟨1, 2, 1⟩ first).2
  rw [before] at last
  obtain ⟨number, address⟩ := last (by decide)
  exact ⟨regular, address, number, (found ⟨1, 2, 2⟩ second).1.mpr (by decide),
    (refused ⟨1, 2, 0⟩).mpr none_there⟩

end Geometry

end DiskImage
