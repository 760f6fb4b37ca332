import DiskImage.Except
import DiskImage.Proofs.Blocks
import DiskImage.Proofs.Segment.Record

/-! The layout of a segmented image has a record for each block of the image and none besides. It is made
whenever the record of sizes can be read, since no size and valid block size make the count overflow. -/
namespace DiskImage.SegmentedLayout

/-- The records stand for just the blocks that the image needs, and nothing has happened to any of them. -/
structure CoversImage (layout : SegmentedLayout) : Prop where
  tiles : Tiles layout.blockCount layout.info.blockSize.toNat layout.info.size.toNat
  none_iff : layout.blockCount = 0 ↔ layout.info.size.toNat = 0
  counted : Word.divUp layout.info.size.toNat layout.info.blockSize.toNat = .ok layout.blockCount
  untouched : ∀ record ∈ layout.blocks,
    record.pathIndex < layout.paths.length ∧ record.dirty = false ∧ record.data = none
  clean : layout.dirtyBlocks = 0

def new (dir : String) (info : SegmentInfo) (count : Nat) : SegmentedLayout :=
  ⟨info, [dir], .replicate count { }⟩

theorem blockCount_new (dir : String) (info : SegmentInfo) (count : Nat) :
    (new dir info count).blockCount = count := Array.size_replicate

theorem coversImage_new (dir : String) {info : SegmentInfo} {count : Nat}
    (tiles : Tiles count info.blockSize.toNat info.size.toNat)
    (counted : Word.divUp info.size.toNat info.blockSize.toNat = .ok count) :
    (new dir info count).CoversImage := by
  have size := blockCount_new dir info count
  constructor
  · rwa [size]
  · rw [size]
    exact tiles.eq_zero_iff
  · rwa [size]
  · intro record member
    obtain ⟨-, rfl⟩ := Array.mem_replicate.mp member
    exact ⟨Nat.zero_lt_one, rfl, rfl⟩
  · simp [dirtyBlocks, new, Array.countP_replicate]

theorem exists_ofInfo (dir : String) {info : SegmentInfo} (valid : info.IsValid) :
    ∃ count, ofInfo dir info = .ok (new dir info count) ∧
      Tiles count info.blockSize.toNat info.size.toNat ∧
      Word.divUp info.size.toNat info.blockSize.toNat = .ok count := by
  have pos : 0 < info.blockSize.toNat := Nat.pos_of_ne_zero valid.1
  have word : info.size.toNat < Word.limit := Nat.lt_trans info.size.toNat_lt (by decide)
  refine ⟨_, ?_, tiles_roundedUp pos _, Word.divUp_eq pos word⟩
  rw [ofInfo, divCeil, if_neg valid.1]
  rfl

theorem load_eq_ok {host : Host} {dir : String} {layout : SegmentedLayout} :
    load host dir = .ok layout ↔ ∃ raw info, host.fileBytes (Path.join dir infoFileName) = .ok raw ∧
      SegmentInfo.ofBytes raw = .ok info ∧ ofInfo dir info = .ok layout := by
  simp only [load, bind_eq_ok, mapError_eq_ok]
  constructor
  · rintro ⟨raw, found, info, read, made⟩
    exact ⟨raw, info, found, read, made⟩
  · rintro ⟨raw, info, found, read, made⟩
    exact ⟨raw, found, info, read, made⟩

theorem isValid_of_ofBytes {raw : Bytes} {info : SegmentInfo}
    (read : SegmentInfo.ofBytes raw = .ok info) : info.IsValid := by
  have reading := SegmentInfo.reading_ofBytes raw
  rw [read] at reading
  cases reading with
  | read _ valid _ _ blockSize => rwa [SegmentInfo.isValid_iff, blockSize]

/-- A directory has a layout exactly if its record of sizes can be read, and the layout covers the
image that the record describes. -/
theorem layout_covers_image (host : Host) (dir : String) :
    ((∃ layout, load host dir = .ok layout) ↔ ∃ raw info,
      host.fileBytes (Path.join dir "info.dat") = .ok raw ∧ SegmentInfo.ofBytes raw = .ok info) ∧
    (∀ cause, host.fileBytes (Path.join dir "info.dat") = .error cause →
      load host dir = .error (.io cause)) ∧
    (∀ raw e, host.fileBytes (Path.join dir "info.dat") = .ok raw →
      SegmentInfo.ofBytes raw = .error e → load host dir = .error e) ∧
    ∀ raw layout, host.fileBytes (Path.join dir "info.dat") = .ok raw → load host dir = .ok layout →
      SegmentInfo.ofBytes raw = .ok layout.info ∧ layout.paths = [dir] ∧ layout.CoversImage := by
  refine ⟨⟨?_, ?_⟩, ?_, ?_, ?_⟩
  · rintro ⟨layout, loaded⟩
    obtain ⟨raw, info, found, read, -⟩ := load_eq_ok.mp loaded
    exact ⟨raw, info, found, read⟩
  · rintro ⟨raw, info, found, read⟩
    obtain ⟨count, made, -⟩ := exists_ofInfo dir (isValid_of_ofBytes read)
    exact ⟨_, load_eq_ok.mpr ⟨raw, info, found, read, made⟩⟩
  · intro cause missing
    rw [load, infoFileName, missing]
    rfl
  · intro raw e found corrupt
    rw [load, infoFileName, found, mapError_ok, ok_bind, corrupt]
    rfl
  · intro raw layout found loaded
    obtain ⟨_, info, found', read, made⟩ := load_eq_ok.mp loaded
    cases found.symm.trans found'
    obtain ⟨count, made', tiles, counted⟩ := exists_ofInfo dir (isValid_of_ofBytes read)
    cases made.symm.trans made'
    exact ⟨read, rfl, coversImage_new dir tiles counted⟩

theorem layout_of_four_blocks :
    let info : SegmentInfo := ⟨197120, 65536⟩
    let short : Bytes := [0, 2].toByteArray
    let host : Host := ⟨[], [(["seg"], .directory), (["seg", "info.dat"], .file 0),
      (["cut"], .directory), (["cut", "info.dat"], .file 1)], #[.ofBytes info.record, .ofBytes short]⟩
    (∃ layout, load host "seg" = .ok layout ∧ layout.info = info ∧ layout.blockCount = 4 ∧
      layout.dirtyBlocks = 0 ∧ ∃! i, i < layout.blockCount ∧ InBlock 65536 i 197119) ∧
    load host "cut" = .error (.corruptImage "info.dat is truncated") ∧
    load host "none" = .error (.io .notFound) := by
  intro info short host
  have opened : host.openFile (Path.join "seg" "info.dat") = .ok 0 := by decide
  have found : host.fileBytes (Path.join "seg" "info.dat") = .ok info.record := by
    rw [Host.fileBytes, Host.fileContent, opened]
    exact congrArg Except.ok (SparseBytes.toBytes_ofBytes info.record)
  have opened' : host.openFile (Path.join "cut" "info.dat") = .ok 1 := by decide
  have found' : host.fileBytes (Path.join "cut" "info.dat") = .ok short := by
    rw [Host.fileBytes, Host.fileContent, opened']
    exact congrArg Except.ok (SparseBytes.toBytes_ofBytes short)
  have read : SegmentInfo.ofBytes info.record = .ok info := by
    rw [← SegmentInfo.ofBytes_of_valid ByteArray.empty ⟨by decide, by decide⟩, ByteArray.append_empty]
  obtain ⟨loads, -, -, covers⟩ := layout_covers_image host "seg"
  obtain ⟨-, -, corrupt, -⟩ := layout_covers_image host "cut"
  obtain ⟨-, missing, -, -⟩ := layout_covers_image host "none"
  obtain ⟨layout, loaded⟩ := loads.mpr ⟨_, _, found, read⟩
  obtain ⟨same, -, covered⟩ := covers _ layout found loaded
  have same : layout.info = info := (Except.ok.inj (read.symm.trans same)).symm
  have counted := covered.counted
  have each := covered.tiles.each 197119 (by rw [same]; decide)
  rw [same] at counted each
  have four : Word.divUp info.size.toNat info.blockSize.toNat = .ok 4 := by decide
  refine ⟨⟨layout, loaded, same, Except.ok.inj (counted.symm.trans four), covered.clean, each⟩, ?_, ?_⟩
  · exact corrupt short _ found' (SegmentInfo.ofBytes_of_short (by decide))
  · exact missing _ rfl

end DiskImage.SegmentedLayout
