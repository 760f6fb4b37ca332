import DiskImage.Proofs.BlockCache.Access

/-! A cache over an image that nobody changes shows one byte string: the image with everything written
so far laid over it. Loading a block shows no other bytes, writing a sector patches them. -/
namespace DiskImage.BlockCache

/-- Through the cache the bytes of `image` show as `bytes`: in a loaded block as they are there, and
elsewhere unchanged. -/
structure Overlays (c : BlockCache) (image bytes : Bytes) : Prop where
  wellFormed : c.WellFormed
  allocatable : c.blockSize < blockLimit
  size_image : image.size = c.capacity
  size_bytes : bytes.size = c.capacity
  resident : ∀ (index : Nat) (block : SparseBytes), c.blocks[index]? = some block →
    ∀ i, i < c.blockSize → index * c.blockSize + i < c.capacity →
      block.toBytes.byte i = bytes.byte (index * c.blockSize + i)
  absent : ∀ index, c.blocks[index]? = none → ∀ i, i < c.blockSize →
    bytes.byte (index * c.blockSize + i) = image.byte (index * c.blockSize + i)

theorem readBlock_openFile {c : BlockCache} {file : OpenFile} {index : Nat}
    (allocatable : c.blockSize < blockLimit) (whole : c.capacity ≤ file.bytes.size)
    (inside : index * c.blockSize ≤ c.capacity) :
    ∃ block, c.readBlock file index = (.ok block, file) := by
  unfold readBlock
  rw [if_neg (Nat.not_le.mpr allocatable), readExactAt_openFile]
  · exact ⟨_, rfl⟩
  · rw [Bytes.size_fill, backed]
    omega

theorem apart_of_ne {blockSize index other within i : Nat} (room : within + sectorSize ≤ blockSize)
    (inside : i < blockSize) (ne : index ≠ other) :
    ¬ (index * blockSize + within ≤ other * blockSize + i ∧
      other * blockSize + i < index * blockSize + within + sectorSize) := by
  intro ⟨after, before⟩
  rcases Nat.lt_or_gt_of_ne ne with less | greater
  · have next := Nat.mul_le_mul_right blockSize (Nat.succ_le_of_lt less)
    rw [Nat.succ_mul] at next
    omega
  · have next := Nat.mul_le_mul_right blockSize (Nat.succ_le_of_lt greater)
    rw [Nat.succ_mul] at next
    omega

namespace Overlays

variable {c c' : BlockCache} {image bytes : Bytes} {file m' : OpenFile} {index : Nat}
  {answer : Except Halt SparseBytes} {block : SparseBytes}

theorem new {capacity blockSize : Nat} {image : Bytes} (created : create capacity blockSize = .ok c)
    (allocatable : blockSize < blockLimit) (size : image.size = capacity) :
    c.Overlays image image := by
  have wf := wellFormed_create created
  obtain ⟨-, -, -, rfl⟩ := create_eq_ok.mp created
  exact ⟨wf, allocatable, size, size, by simp, fun _ _ _ _ => rfl⟩

theorem touch (shows_ : c.Overlays file.bytes.toBytes bytes)
    (inside : index * c.blockSize < c.capacity) (touched : Touched c file index answer c' m') :
    ∃ block, answer = .ok block ∧ m' = file ∧ c'.Overlays file.bytes.toBytes bytes := by
  have size : file.bytes.size = c.capacity := by rw [← SparseBytes.size_toBytes, shows_.size_image]
  cases touched with
  | @resident block found =>
    exact ⟨block, rfl, rfl, shows_.wellFormed.of_blocks _ rfl rfl rfl shows_.wellFormed.size_block,
      shows_.allocatable, shows_.size_image, shows_.size_bytes, shows_.resident, shows_.absent⟩
  | @loaded block _ absent read =>
    have wf := (Touched.loaded absent read).wellFormed shows_.wellFormed
    have blocks := (Touched.loaded absent read).blocks_of_ok
    obtain ⟨_, found⟩ := readBlock_openFile shows_.allocatable (Nat.le_of_eq size.symm)
      (Nat.le_of_lt inside)
    rw [found] at read
    obtain ⟨⟨⟩, rfl⟩ := Prod.mk.inj read
    refine ⟨block, rfl, rfl, wf, shows_.allocatable, shows_.size_image, shows_.size_bytes, ?_, ?_⟩
    · intro other block' found' i inside' backed_
      rw [blocks] at found'
      by_cases same : index = other
      · rw [if_pos same] at found'
        cases found'
        subst same
        change i < c.blockSize at inside'
        change index * c.blockSize + i < c.capacity at backed_
        rw [byte_of_readBlock found, if_pos (by unfold backed; omega)]
        exact (shows_.absent index absent i inside').symm
      · rw [if_neg same] at found'
        exact shows_.resident other block' found' i inside' backed_
    · intro other absent' i inside'
      rw [blocks] at absent'
      by_cases same : index = other
      · rw [if_pos same] at absent'
        cases absent'
      · rw [if_neg same] at absent'
        exact shows_.absent other absent' i inside'
  | @failed halt _ absent read =>
    obtain ⟨_, found⟩ := readBlock_openFile shows_.allocatable (Nat.le_of_eq size.symm)
      (Nat.le_of_lt inside)
    rw [found] at read
    cases read

theorem replace {offset : Nat} {data : Bytes} (shows_ : c.Overlays image bytes)
    (found : c.blocks[offset / c.blockSize]? = some block) (sector : data.size = sectorSize)
    (fits : Fits offset sectorSize c.capacity) :
    (c.replace (offset / c.blockSize) (block.store (offset % c.blockSize) data)).Overlays image
      (bytes.patch offset data) := by
  have size := shows_.wellFormed.size_block _ _ found
  have room := shows_.wellFormed.within_le fits.offset_aligned
  have place := Nat.div_add_mod' offset c.blockSize
  have stop := fits.stop_le
  have size_bytes := shows_.size_bytes
  have sector_pos : 0 < sectorSize := by decide
  have inside : offset + data.size ≤ bytes.size := by omega
  have blocks (other : Nat) := getElem?_insert_number c.blocks (offset / c.blockSize)
    (block.store (offset % c.blockSize) data) other
  have patched (other i : Nat) (ne : offset / c.blockSize ≠ other) (h : i < c.blockSize) :
      (bytes.patch offset data).byte (other * c.blockSize + i) =
        bytes.byte (other * c.blockSize + i) := by
    have apart := apart_of_ne room h ne
    rw [place] at apart
    rw [Bytes.byte_patch data (by omega), sector, if_neg apart]
  refine ⟨shows_.wellFormed.replace _ (by rw [SparseBytes.size_store_of_le (by omega), size]),
    shows_.allocatable, shows_.size_image, by rw [Bytes.size_patch inside]; exact size_bytes,
    ?_, ?_⟩
  · intro other block' found' i h backed_
    change i < c.blockSize at h
    change other * c.blockSize + i < c.capacity at backed_
    change _ = (bytes.patch offset data).byte (other * c.blockSize + i)
    rw [BlockCache.replace, blocks] at found'
    by_cases same : offset / c.blockSize = other
    · rw [if_pos same] at found'
      cases found'
      subst same
      have old := shows_.resident _ _ found i h backed_
      rw [SparseBytes.toBytes_store_of_le (by omega),
        Bytes.byte_patch data (by rw [SparseBytes.size_toBytes]; omega),
        Bytes.byte_patch data (by omega), old]
      by_cases written : offset % c.blockSize ≤ i ∧ i < offset % c.blockSize + data.size
      · rw [if_pos written, if_pos (by omega)]
        congr 1
        omega
      · rw [if_neg written, if_neg (by omega)]
    · rw [if_neg same] at found'
      rw [patched other i same h]
      exact shows_.resident other block' found' i h backed_
  · intro other absent' i h
    change i < c.blockSize at h
    change (bytes.patch offset data).byte (other * c.blockSize + i) = _
    rw [BlockCache.replace, blocks] at absent'
    by_cases same : offset / c.blockSize = other
    · rw [if_pos same] at absent'
      cases absent'
    · rw [if_neg same] at absent'
      rw [patched other i same h]
      exact shows_.absent other absent' i h

theorem slice_resident {offset : Nat} (shows_ : c.Overlays image bytes)
    (found : c.blocks[offset / c.blockSize]? = some block)
    (fits : Fits offset sectorSize c.capacity) :
    block.slice (offset % c.blockSize) sectorSize = bytes.slice offset sectorSize := by
  have size := shows_.wellFormed.size_block _ _ found
  have room := shows_.wellFormed.within_le fits.offset_aligned
  have place := Nat.div_add_mod' offset c.blockSize
  have stop := fits.stop_le
  have size_bytes := shows_.size_bytes
  have size_block : block.toBytes.size = c.blockSize := by rw [SparseBytes.size_toBytes, size]
  rw [← SparseBytes.slice_toBytes]
  apply Bytes.ext_byte
  · rw [Bytes.size_slice_of_le (by omega), Bytes.size_slice_of_le (by omega)]
  · intro i h
    rw [Bytes.size_slice_of_le (by omega)] at h
    rw [Bytes.byte_slice, Bytes.byte_slice, if_pos h, if_pos h,
      shows_.resident _ _ found _ (by omega) (by omega), ← Nat.add_assoc, place]

theorem readSector {offset : Nat} (shows_ : c.Overlays file.bytes.toBytes bytes)
    (fits : Fits offset sectorSize bytes.size) :
    ∃ c' : BlockCache, c'.Overlays file.bytes.toBytes bytes ∧
      c.readSector file offset sectorSize =
        ⟨.ok (bytes.slice offset sectorSize), (c', file)⟩ := by
  rw [shows_.size_bytes] at fits
  have start := Nat.div_mul_le_self offset c.blockSize
  have stop := fits.stop_le
  have sector_pos : 0 < sectorSize := by decide
  have accessed : Accessed c file offset sectorSize _ (c.readSector file offset sectorSize) :=
    shows_.wellFormed.access_cases file offset sectorSize _
  generalize c.readSector file offset sectorSize = outcome at accessed ⊢
  cases accessed with
  | refused invalid => simp [checkSector_eq_ok.mpr ⟨rfl, fits⟩] at invalid
  | failed valid touched =>
    obtain ⟨_, impossible, -⟩ := shows_.touch (by omega) touched
    cases impossible
  | @done block c' _ valid touched =>
    obtain ⟨_, ⟨⟩, rfl, shows'⟩ := shows_.touch (by omega) touched
    obtain ⟨blockSize, capacity, -⟩ := touched.shape
    have found := touched.blocks_of_ok (offset / c.blockSize)
    rw [if_pos rfl] at found
    rw [← blockSize] at found ⊢
    rw [← capacity] at fits
    exact ⟨c', shows', by rw [shows'.slice_resident found fits]⟩

theorem writeSector {offset : Nat} {data : Bytes} (shows_ : c.Overlays file.bytes.toBytes bytes)
    (sector : data.size = sectorSize) (fits : Fits offset sectorSize bytes.size) :
    ∃ c' : BlockCache, c'.Overlays file.bytes.toBytes (bytes.patch offset data) ∧
      c.writeSector file offset data = ⟨.ok (), (c', file)⟩ := by
  rw [shows_.size_bytes] at fits
  have start := Nat.div_mul_le_self offset c.blockSize
  have stop := fits.stop_le
  have sector_pos : 0 < sectorSize := by decide
  have accessed : Accessed c file offset data.size _ (c.writeSector file offset data) :=
    shows_.wellFormed.access_cases file offset data.size _
  generalize c.writeSector file offset data = outcome at accessed ⊢
  cases accessed with
  | refused invalid =>
    simp [checkSector_eq_ok.mpr ⟨sector, sector ▸ fits⟩] at invalid
  | failed valid touched =>
    obtain ⟨_, impossible, -⟩ := shows_.touch (by omega) touched
    cases impossible
  | @done block c' _ valid touched =>
    obtain ⟨_, ⟨⟩, rfl, shows'⟩ := shows_.touch (by omega) touched
    obtain ⟨blockSize, capacity, -⟩ := touched.shape
    have found := touched.blocks_of_ok (offset / c.blockSize)
    rw [if_pos rfl] at found
    rw [← blockSize] at found ⊢
    rw [← capacity] at fits
    exact ⟨_, shows'.replace found sector fits, rfl⟩

end Overlays

end DiskImage.BlockCache
