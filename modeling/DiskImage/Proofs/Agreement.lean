import DiskImage.Proofs.FileImage

/-! One image behind three kinds of drive: cached, raw and in memory. Each answers every run of
requests as the plain bytes of the image would, so all three answer alike. -/
namespace DiskImage

namespace RamImage

def RamShows (host₀ : Host) (r : RamImage) (host : Host) (bytes : Bytes) : Prop :=
  host = host₀ ∧ r.bytes.toBytes = bytes

theorem refines_ram (host₀ : Host) : Refines (RamShows host₀) where
  capacity_eq := by
    rintro r host _ ⟨rfl, rfl⟩
    exact (SparseBytes.size_toBytes _).symm
  read_eq := by
    rintro r host _ offset len tracker c ⟨rfl, rfl⟩ fits
    rw [SparseBytes.size_toBytes] at fits
    refine ⟨r, host, ⟨rfl, rfl⟩, ?_⟩
    simp only [Backend.read, RamImage.read, checkRequest_of_fits fits, readSlice,
      if_neg (Nat.not_lt.mpr fits.stop_le), SparseBytes.slice_toBytes]
    rfl
  write_eq := by
    rintro r host _ offset data tracker c ⟨rfl, rfl⟩ fits
    rw [SparseBytes.size_toBytes] at fits
    refine ⟨⟨r.bytes.store offset data⟩, host,
      ⟨rfl, SparseBytes.toBytes_store_of_le fits.stop_le⟩, ?_⟩
    simp only [Backend.write, RamImage.write, checkRequest_of_fits fits, writeSlice,
      if_neg (Nat.not_lt.mpr fits.stop_le)]
    rfl
  prefetch_eq _ _ _ _ := rfl
  saveState_eq _ _ := rfl
  flush_eq _ := rfl

theorem ofPath_eq {host : Host} {path : String} {image : SparseBytes}
    (found : host.fileContent path = .ok image) (nonempty : 0 < image.size) :
    ofPath host path = .ok ⟨image⟩ := by
  simp only [ofPath, found, bind, Except.bind, mapError_ok, ofBytes]
  rw [if_neg (by omega)]

end RamImage

namespace Drive

variable {β : Type} [Backend β]

/-- A drive answers every run of requests as the plain `bytes` would. -/
def AnswersAs (d : Drive β) (host : Host) (bytes : Bytes) : Prop :=
  ∀ (tracker : Tracker) (requests : List Request),
    (Request.serveAll d ⟨host, tracker⟩ requests).1 = (FlatDisk.serveAll ⟨bytes, tracker⟩ requests).1

theorem answersAs_of_refines {Shows : β → Host → Bytes → Prop} (refines : Refines Shows)
    {d : Drive β} {host : Host} {bytes : Bytes} (shows_ : Shows d.backend host bytes) :
    d.AnswersAs host bytes := by
  intro tracker requests
  obtain ⟨_, _, -, run⟩ := refines.serveAll_drive ⟨bytes, tracker⟩ shows_ requests
  rw [run]

/-- Over one image the cached, the raw and the memory drive open and answer every run of requests as
its bytes do. -/
theorem drives_answer_as_image {host : Host} {path : String} {image : SparseBytes}
    {blockSize : Nat} {cache : BlockCache} (found : host.fileContent path = .ok image)
    (large : sectorSize ≤ image.size) (created : BlockCache.create image.size blockSize = .ok cache)
    (allocatable : blockSize < BlockCache.blockLimit) (modifies : Bool) :
    ∃ (cached raw : Drive FileImage) (ram : Drive RamImage),
      (FileImage.ofPathWith host path false blockSize >>= (withBackend · modifies)) = .ok cached ∧
      (FileImage.ofPathWith host path true blockSize >>= (withBackend · modifies)) = .ok raw ∧
      (RamImage.ofPath host path >>= (withBackend · modifies)) = .ok ram ∧
      cached.AnswersAs host image.toBytes ∧ raw.AnswersAs host image.toBytes ∧
      ram.AnswersAs host image.toBytes := by
  obtain ⟨id, opened, rfl⟩ := map_eq_ok.mp found
  have nonempty : 0 < (host.content id).size := Nat.lt_of_lt_of_le (by decide) large
  have open_file := FileImage.ofPathWith_eq opened nonempty created
  have open_ram := RamImage.ofPath_eq found nonempty
  refine ⟨_, _, _, bind_eq_ok.mpr ⟨_, open_file false, ofBackend_eq large .external modifies⟩,
    bind_eq_ok.mpr ⟨_, open_file true, ofBackend_eq large .external modifies⟩,
    bind_eq_ok.mpr ⟨_, open_ram, ofBackend_eq large .external modifies⟩, ?_, ?_, ?_⟩
  · exact answersAs_of_refines (FileImage.sectorWise_cached host).refines
      (FileImage.cachedShows_new created allocatable)
  · exact answersAs_of_refines (FileImage.sectorWise_raw host id).refines
      (FileImage.rawShows_new cache nonempty)
  · exact answersAs_of_refines (RamImage.refines_ram host) ⟨rfl, rfl⟩

/-- The image need not end with a sector: of these 1000 bytes only the first 512 can be asked for. -/
theorem drives_answer_as_odd_image :
    let bytes := Bytes.fill 7 1000
    let host : Host := ⟨[], [(["disk"], .file 0)], #[.ofBytes bytes]⟩
    ∃ (cached raw : Drive FileImage) (ram : Drive RamImage),
      (FileImage.ofPathWith host "disk" false 512 >>= (withBackend · false)) = .ok cached ∧
      (FileImage.ofPathWith host "disk" true 512 >>= (withBackend · false)) = .ok raw ∧
      (RamImage.ofPath host "disk" >>= (withBackend · false)) = .ok ram ∧
      cached.AnswersAs host bytes ∧ raw.AnswersAs host bytes ∧ ram.AnswersAs host bytes := by
  intro bytes host
  have found : host.fileContent "disk" = .ok (.ofBytes bytes) := rfl
  have size : (SparseBytes.ofBytes bytes).size = 1000 := by
    rw [SparseBytes.size_ofBytes, Bytes.size_fill]
  have created : BlockCache.create 1000 512 = .ok ⟨512, 1000, 2, ∅, { }⟩ :=
    BlockCache.create_eq_ok.mpr ⟨by decide, by decide, by decide, rfl⟩
  rw [← size] at created
  have agree := drives_answer_as_image found (by rw [size]; decide) created (by decide) false
  rwa [SparseBytes.toBytes_ofBytes] at agree

end Drive

end DiskImage
