import DiskImage.BlockCache
import DiskImage.Except
import DiskImage.Proofs.Bounds
import DiskImage.Proofs.Transfer

/-! What one sector access can do to a block cache, said once: it is refused, its block cannot be
loaded, or it acts on its block. The invariant that rules out every panic is kept by all three. -/
namespace DiskImage.BlockCache

/-- What a new cache satisfies and every access keeps. -/
structure WellFormed (c : BlockCache) : Prop where
  blockSize_pos : 0 < c.blockSize
  blockSize_aligned : sectorSize ∣ c.blockSize
  blockCount_eq : c.blockCount = (c.capacity + (c.blockSize - 1)) / c.blockSize
  size_block : ∀ (i : Nat) (block : SparseBytes),
    c.blocks[i]? = some block → block.size = c.blockSize

theorem create_eq_ok {capacity blockSize : Nat} {c : BlockCache} :
    create capacity blockSize = .ok c ↔ blockSize ≠ 0 ∧ sectorSize ∣ blockSize ∧
      (capacity + (blockSize - 1)) / blockSize < tableLimit ∧
      c = { blockSize, capacity, blockCount := (capacity + (blockSize - 1)) / blockSize } := by
  simp only [create, divCeil, bind, Except.bind, pure, Except.pure, throw, throwThe,
    MonadExceptOf.throw, Nat.dvd_iff_mod_eq_zero]
  by_cases zero : blockSize = 0
  · simp [zero]
  · by_cases unaligned : blockSize % sectorSize ≠ 0
    · simp [zero, unaligned]
    · have aligned : blockSize % sectorSize = 0 := Decidable.not_not.mp unaligned
      by_cases large : tableLimit ≤ (capacity + (blockSize - 1)) / blockSize
      · simp [zero, aligned, large, Nat.not_lt.mpr large]
      · simp [zero, aligned, large, Nat.lt_of_not_le large, eq_comm]

theorem wellFormed_create {capacity blockSize : Nat} {c : BlockCache}
    (created : create capacity blockSize = .ok c) : c.WellFormed := by
  obtain ⟨nonzero, aligned, _, rfl⟩ := create_eq_ok.mp created
  exact ⟨Nat.pos_of_ne_zero nonzero, aligned, rfl, by simp⟩

/-- How many bytes of block `index` the image backs. -/
def backed (c : BlockCache) (index : Nat) : Nat :=
  min (c.capacity - index * c.blockSize) c.blockSize

def countHit (c : BlockCache) : BlockCache :=
  { c with stats := { c.stats with hits := c.stats.hits + 1 } }

def countMiss (c : BlockCache) : BlockCache :=
  { c with stats := { c.stats with misses := c.stats.misses + 1 } }

def install (c : BlockCache) (index : Nat) (block : SparseBytes) : BlockCache :=
  { c with
    blocks := c.blocks.insert index block
    stats := { c.stats with blocksLoaded := c.stats.blocksLoaded + 1 } }

def replace (c : BlockCache) (index : Nat) (block : SparseBytes) : BlockCache :=
  { c with blocks := c.blocks.insert index block }

theorem WellFormed.of_blocks {c : BlockCache} (wf : c.WellFormed) (c' : BlockCache)
    (blockSize : c'.blockSize = c.blockSize) (capacity : c'.capacity = c.capacity)
    (blockCount : c'.blockCount = c.blockCount)
    (size_block : ∀ (i : Nat) (block : SparseBytes),
      c'.blocks[i]? = some block → block.size = c.blockSize) :
    c'.WellFormed where
  blockSize_pos := blockSize ▸ wf.blockSize_pos
  blockSize_aligned := blockSize ▸ wf.blockSize_aligned
  blockCount_eq := by rw [blockCount, wf.blockCount_eq, capacity, blockSize]
  size_block i block h := by rw [size_block i block h, blockSize]

theorem WellFormed.replace {c : BlockCache} (wf : c.WellFormed) (index : Nat) {block : SparseBytes}
    (size : block.size = c.blockSize) : (c.replace index block).WellFormed := by
  apply wf.of_blocks (c.replace index block) rfl rfl rfl
  intro i found h
  rw [BlockCache.replace, getElem?_insert_number] at h
  split at h
  · cases h
    exact size
  · exact wf.size_block i found h

/-- The call is for one whole sector inside the capacity. -/
structure Accepts (c : BlockCache) (offset len : Nat) : Prop where
  len_eq : len = sectorSize
  offset_aligned : sectorSize ∣ offset
  stop_le : offset + sectorSize ≤ c.capacity

theorem accepts_iff {c : BlockCache} {offset len : Nat} : c.Accepts offset len ↔
    len = sectorSize ∧ sectorSize ∣ offset ∧ offset + sectorSize ≤ c.capacity :=
  ⟨fun h => ⟨h.1, h.2, h.3⟩, fun h => ⟨h.1, h.2.1, h.2.2⟩⟩

instance (c : BlockCache) (offset len : Nat) : Decidable (c.Accepts offset len) :=
  decidable_of_iff' _ accepts_iff

section Sector

variable {c : BlockCache} {offset len : Nat}

theorem checkSector_eq_ok :
    c.checkSector offset len = .ok () ↔ len = sectorSize ∧ Fits offset len c.capacity := by
  unfold checkSector
  simp only [fits_iff, Nat.dvd_iff_mod_eq_zero, checkRange_eq]
  by_cases unaligned : offset % sectorSize ≠ 0
  · simp [unaligned]
  · have aligned : offset % sectorSize = 0 := Decidable.not_not.mp unaligned
    by_cases sector : len = sectorSize
    · simp [aligned, sector]
    · simp [sector]

theorem checkSector_eq_accepts :
    c.checkSector offset len = .ok () ↔ c.Accepts offset len ∧ offset + len < Word.limit := by
  rw [checkSector_eq_ok, accepts_iff, fits_iff]
  constructor
  · rintro ⟨rfl, ⟨aligned, -⟩, word, stop⟩
    exact ⟨⟨rfl, aligned, stop⟩, word⟩
  · rintro ⟨⟨rfl, aligned, stop⟩, word⟩
    exact ⟨rfl, ⟨aligned, Nat.dvd_refl _⟩, word, stop⟩

theorem WellFormed.within_le (wf : c.WellFormed) (aligned : sectorSize ∣ offset) :
    offset % c.blockSize + sectorSize ≤ c.blockSize := by
  obtain ⟨n, size⟩ := wf.blockSize_aligned
  obtain ⟨k, place⟩ : sectorSize ∣ offset % c.blockSize :=
    (Nat.dvd_mod_iff wf.blockSize_aligned).mpr aligned
  have below := Nat.mod_lt offset wf.blockSize_pos
  rw [place, size] at below
  rw [place, size, ← Nat.mul_succ]
  exact Nat.mul_le_mul_left _ (Nat.lt_of_mul_lt_mul_left below)

theorem WellFormed.index_lt (wf : c.WellFormed) {index : Nat}
    (inside : index * c.blockSize < c.capacity) : index < c.blockCount := by
  have pos := wf.blockSize_pos
  rw [wf.blockCount_eq, ← Nat.succ_le_iff, Nat.le_div_iff_mul_le pos, Nat.succ_mul]
  omega

/-- An accepted sector lies in one block of the table, which starts inside the capacity, and no sum or
product on the way is too large for a word. -/
structure InRange (c : BlockCache) (offset len : Nat) : Prop where
  index_lt : offset / c.blockSize < c.blockCount
  start_lt : offset / c.blockSize * c.blockSize < Word.limit
  start_le : offset / c.blockSize * c.blockSize ≤ c.capacity
  stop_lt : offset + len < Word.limit
  within_le : offset % c.blockSize + len ≤ c.blockSize

theorem WellFormed.inRange (wf : c.WellFormed)
    (valid : c.checkSector offset len = .ok ()) : c.InRange offset len := by
  obtain ⟨rfl, fits⟩ := checkSector_eq_ok.mp valid
  have start := Nat.div_mul_le_self offset c.blockSize
  have sector : 0 < sectorSize := by decide
  have word := fits.stop_lt
  have stop := fits.stop_le
  exact ⟨wf.index_lt (by omega), by omega, by omega, word, wf.within_le fits.offset_aligned⟩

end Sector

section Access

variable {μ : Type} [Medium μ]

def readBlock (c : BlockCache) (m : μ) (index : Nat) : Except Halt SparseBytes × μ :=
  if blockLimit ≤ c.blockSize then (.error (.error (.quotaExceeded c.blockSize)), m)
  else
    let filled := readExactAt m (index * c.blockSize) (Bytes.fill 0 (c.backed index))
    (filled.answer.map fun _ => (SparseBytes.ofBytes filled.buffer).resize c.blockSize,
      filled.medium)

/-- The three ways of reaching a block, with the block, the cache and the medium afterwards. -/
inductive Touched (c : BlockCache) (m : μ) (index : Nat) :
    Except Halt SparseBytes → BlockCache → μ → Prop
  | resident {block : SparseBytes} (found : c.blocks[index]? = some block) :
    Touched c m index (.ok block) c.countHit m
  | loaded {block : SparseBytes} {m' : μ} (absent : c.blocks[index]? = none)
    (read : c.readBlock m index = (.ok block, m')) :
    Touched c m index (.ok block) (c.countMiss.install index block) m'
  | failed {halt : Halt} {m' : μ} (absent : c.blocks[index]? = none)
    (read : c.readBlock m index = (.error halt, m')) :
    Touched c m index (.error halt) c.countMiss m'

theorem loadBlock_eq {c : BlockCache} {index : Nat} (m : μ)
    (inside : index * c.blockSize ≤ c.capacity) (word : index * c.blockSize < Word.limit) :
    c.loadBlock m index =
      match c.readBlock m index with
      | (.error halt, m') => ⟨.error halt, (c, m')⟩
      | (.ok block, m') => ⟨.ok block, (c.install index block, m')⟩ := by
  have range : c.blockRange index = .ok (index * c.blockSize, c.backed index) := by
    simp only [blockRange, Word.mul_of_lt word, bind, Except.bind, Word.sub_of_le inside]
    rfl
  unfold loadBlock readBlock
  rw [range]
  by_cases large : blockLimit ≤ c.blockSize
  · simp only [if_pos large]
  · simp only [if_neg large]
    cases (readExactAt m (index * c.blockSize) (Bytes.fill 0 (c.backed index))).answer with
    | error halt => rfl
    | ok => rfl

theorem WellFormed.touch_cases {c : BlockCache} (wf : c.WellFormed) (m : μ) {index : Nat}
    (inside : index * c.blockSize < c.capacity) (word : index * c.blockSize < Word.limit) :
    Touched c m index (c.touch m index).answer (c.touch m index).state.1
      (c.touch m index).state.2 := by
  have listed := wf.index_lt inside
  unfold touch
  rw [if_neg (Nat.not_le.mpr listed)]
  cases found : c.blocks[index]? with
  | some block => exact .resident found
  | none =>
    change Touched c m index (c.countMiss.loadBlock m index).answer
      (c.countMiss.loadBlock m index).state.1 (c.countMiss.loadBlock m index).state.2
    have same : c.countMiss.readBlock m index = c.readBlock m index := rfl
    rw [loadBlock_eq (c := c.countMiss) m (Nat.le_of_lt inside) word, same]
    cases read : c.readBlock m index with
    | mk answer m' =>
      cases answer with
      | error halt => exact .failed found read
      | ok block => exact .loaded found read

namespace Touched

variable {c c' : BlockCache} {m m' : μ} {index : Nat} {answer : Except Halt SparseBytes}
  {block : SparseBytes}

theorem shape (touched : Touched c m index answer c' m') :
    c'.blockSize = c.blockSize ∧ c'.capacity = c.capacity ∧ c'.blockCount = c.blockCount := by
  cases touched <;> exact ⟨rfl, rfl, rfl⟩

theorem blocks_of_ok (touched : Touched c m index (.ok block) c' m') (i : Nat) :
    c'.blocks[i]? = if index = i then some block else c.blocks[i]? := by
  cases touched with
  | resident found =>
    change c.blocks[i]? = _
    split
    · next same => rw [← same, found]
    · rfl
  | loaded absent read => exact getElem?_insert_number ..

theorem blocks_of_error {halt : Halt} (touched : Touched c m index (.error halt) c' m') :
    c'.blocks = c.blocks := by
  cases touched
  rfl

theorem size_block (wf : c.WellFormed) (touched : Touched c m index (.ok block) c' m') :
    block.size = c.blockSize := by
  cases touched with
  | resident found => exact wf.size_block index block found
  | loaded absent read =>
    unfold readBlock at read
    split at read
    · cases read
    · obtain ⟨answer, -⟩ := Prod.mk.inj read
      obtain ⟨-, -, rfl⟩ := map_eq_ok.mp answer
      exact SparseBytes.size_resize ..

theorem wellFormed (wf : c.WellFormed) (touched : Touched c m index answer c' m') :
    c'.WellFormed := by
  obtain ⟨blockSize, capacity, blockCount⟩ := touched.shape
  apply wf.of_blocks c' blockSize capacity blockCount
  intro i found h
  cases answer with
  | error halt => exact wf.size_block i found (touched.blocks_of_error ▸ h)
  | ok block =>
    rw [touched.blocks_of_ok] at h
    split at h
    · cases h
      exact touched.size_block wf
    · exact wf.size_block i found h

end Touched

inductive Accessed {α : Type} (c : BlockCache) (m : μ) (offset len : Nat)
    (act : BlockCache → Nat → SparseBytes → Nat → α × BlockCache) :
    Outcome (BlockCache × μ) α → Prop
  | refused {e : ImageError} (invalid : c.checkSector offset len = .error e) :
    Accessed c m offset len act ⟨.error (.error e), (c, m)⟩
  | failed {halt : Halt} {c' : BlockCache} {m' : μ} (valid : c.checkSector offset len = .ok ())
    (touched : Touched c m (offset / c.blockSize) (.error halt) c' m') :
    Accessed c m offset len act ⟨.error halt, (c', m')⟩
  | done {block : SparseBytes} {c' : BlockCache} {m' : μ}
    (valid : c.checkSector offset len = .ok ())
    (touched : Touched c m (offset / c.blockSize) (.ok block) c' m') :
    Accessed c m offset len act
      ⟨.ok (act c' (offset / c.blockSize) block (offset % c.blockSize)).1,
        ((act c' (offset / c.blockSize) block (offset % c.blockSize)).2, m')⟩

theorem WellFormed.touch_sector {c : BlockCache} (wf : c.WellFormed) (m : μ) {offset len : Nat}
    (valid : c.checkSector offset len = .ok ()) :
    Touched c m (offset / c.blockSize) (c.touch m (offset / c.blockSize)).answer
      (c.touch m (offset / c.blockSize)).state.1 (c.touch m (offset / c.blockSize)).state.2 := by
  obtain ⟨rfl, fits⟩ := checkSector_eq_ok.mp valid
  have start := Nat.div_mul_le_self offset c.blockSize
  have sector : 0 < sectorSize := by decide
  have stop := fits.stop_le
  have word := fits.stop_lt
  exact wf.touch_cases m (by omega) (by omega)

theorem WellFormed.access_cases {α : Type} {c : BlockCache} (wf : c.WellFormed) (m : μ)
    (offset len : Nat) (act : BlockCache → Nat → SparseBytes → Nat → α × BlockCache) :
    Accessed c m offset len act (c.access m offset len act) := by
  unfold access
  cases valid : c.checkSector offset len with
  | error e => exact .refused valid
  | ok =>
    have touched := wf.touch_sector m valid
    obtain ⟨rfl, fits⟩ := checkSector_eq_ok.mp valid
    cases reached : c.touch m (offset / c.blockSize) with
    | mk answer state =>
      rw [reached] at touched
      cases answer with
      | error halt =>
        simp only [reached]
        exact .failed valid touched
      | ok block =>
        have room : ¬ block.size < offset % c.blockSize + sectorSize := by
          rw [touched.size_block wf]
          exact Nat.not_lt.mpr (wf.within_le fits.offset_aligned)
        simp only [reached, if_neg room]
        exact .done valid touched

end Access

section Contents

variable {μ : Type} [Medium μ] [Source μ] {c : BlockCache} {m m' : μ} {block : SparseBytes}

theorem toBytes_of_readBlock {index : Nat} (read : c.readBlock m index = (.ok block, m')) :
    block.toBytes =
      (Source.bytesAt m (index * c.blockSize) (c.backed index)).resize c.blockSize := by
  unfold readBlock at read
  split at read
  · cases read
  · obtain ⟨answer, -⟩ := Prod.mk.inj read
    obtain ⟨_, success, rfl⟩ := map_eq_ok.mp answer
    rw [SparseBytes.toBytes_resize, SparseBytes.toBytes_ofBytes, buffer_of_readExactAt success,
      Bytes.size_fill]

theorem byte_of_readBlock {index : Nat} (read : c.readBlock m index = (.ok block, m')) (i : Nat) :
    block.toBytes.byte i =
      if i < c.backed index then Source.byte m (index * c.blockSize + i) else 0 := by
  have backed_le : c.backed index ≤ c.blockSize := Nat.min_le_right ..
  rw [toBytes_of_readBlock read, Bytes.byte_resize, Source.bytesAt, Bytes.byte_tabulate]
  by_cases inside : i < c.backed index
  · rw [if_pos (by omega)]
  · rw [if_neg inside, ite_self]

theorem WellFormed.slice_of_readBlock (wf : c.WellFormed) {offset : Nat}
    (fits : Fits offset sectorSize c.capacity)
    (read : c.readBlock m (offset / c.blockSize) = (.ok block, m')) :
    block.slice (offset % c.blockSize) sectorSize = Source.bytesAt m offset sectorSize := by
  have within := wf.within_le fits.offset_aligned
  have place := Nat.div_add_mod' offset c.blockSize
  have stop := fits.stop_le
  have size : block.toBytes.size = c.blockSize := by
    rw [toBytes_of_readBlock read, Bytes.size_resize]
  rw [← SparseBytes.slice_toBytes]
  apply Bytes.ext_byte
  · rw [Bytes.size_slice_of_le (by omega), Source.bytesAt, Bytes.size_tabulate]
  · intro i h
    rw [Bytes.size_slice_of_le (by omega)] at h
    rw [Bytes.byte_slice, if_pos h, byte_of_readBlock read, Source.bytesAt, Bytes.byte_tabulate,
      if_pos h, if_pos (by unfold backed; omega), ← Nat.add_assoc, place]

end Contents

end DiskImage.BlockCache
