import DiskImage.Proofs.BlockCache.Overlay
import DiskImage.Proofs.FileImage.Sectors
import DiskImage.Proofs.FlatDisk
import DiskImage.Proofs.Host

/-! An image file shows one byte string in either mode. Sector by sector a request does what it does to
that string: in raw mode the string is the file, otherwise the file with the cache laid over it. -/
namespace DiskImage.FileImage

/-- Sector by sector an image does to the bytes it shows what a byte string does. -/
structure SectorWise (Shows : FileImage → Host → Bytes → Prop) : Prop where
  size_eq : ∀ {f : FileImage} {host : Host} {bytes : Bytes},
    Shows f host bytes → f.size = bytes.size
  read_eq : ∀ {f : FileImage} {host : Host} {bytes : Bytes} {offset : Nat},
    Shows f host bytes → Fits offset sectorSize bytes.size →
      ∃ (f' : FileImage) (host' : Host), Shows f' host' bytes ∧
        f.readSector host offset = ⟨.ok (bytes.slice offset sectorSize), (f', host')⟩
  write_eq : ∀ {f : FileImage} {host : Host} {bytes : Bytes} {offset : Nat} {data : Bytes},
    Shows f host bytes → data.size = sectorSize → Fits offset sectorSize bytes.size →
      ∃ (f' : FileImage) (host' : Host), Shows f' host' (bytes.patch offset data) ∧
        f.writeSector host offset data = ⟨.ok (), (f', host')⟩

namespace SectorWise

variable {Shows : FileImage → Host → Bytes → Prop} {f : FileImage} {host : Host} {bytes : Bytes}
  {offset len : Nat}

theorem read (sectors : SectorWise Shows) (shows_ : Shows f host bytes)
    (fits : Fits offset len bytes.size) :
    ∃ (f' : FileImage) (host' : Host), Shows f' host' bytes ∧
      f.read host offset len = ⟨.ok (bytes.slice offset len), (f', host')⟩ := by
  have size := sectors.size_eq shows_
  have moved : (f.read host offset len).Ensures
      (fun done state => done = bytes.slice offset (len / sectorSize * sectorSize) ∧
        Shows state.1 state.2 bytes) (fun _ _ => False) := by
    apply read_ensures (fun i done state =>
      done = bytes.slice offset (i * sectorSize) ∧ Shows state.1 state.2 bytes)
    · rw [size]
      exact absurd fits
    · exact ⟨by simp, shows_⟩
    · rintro i done f' host' sector ⟨rfl, shown⟩
      rw [size] at sector
      obtain ⟨f'', host'', shows'', read⟩ := sectors.read_eq shown sector
      rw [read]
      refine .ok ⟨?_, shows''⟩
      rw [Nat.succ_mul, Bytes.slice_append _ _ (Nat.le_of_add_right_le sector.stop_le)]
  obtain ⟨done, ⟨f', host'⟩, ended, rfl, shows'⟩ := moved.exists_ok
  rw [Nat.div_mul_cancel fits.len_aligned] at ended
  exact ⟨f', host', shows', ended⟩

theorem write (sectors : SectorWise Shows) {data : Bytes} (shows_ : Shows f host bytes)
    (fits : Fits offset data.size bytes.size) :
    ∃ (f' : FileImage) (host' : Host), Shows f' host' (bytes.patch offset data) ∧
      f.write host offset data = ⟨.ok (), (f', host')⟩ := by
  have size := sectors.size_eq shows_
  have moved : (f.write host offset data).Ensures
      (fun _ state => Shows state.1 state.2
        (bytes.patch offset (data.slice 0 (data.size / sectorSize * sectorSize))))
      (fun _ _ => False) := by
    apply write_ensures (fun i state =>
      Shows state.1 state.2 (bytes.patch offset (data.slice 0 (i * sectorSize))))
    · rw [size]
      exact absurd fits
    · simpa [Bytes.patch_of_size_eq_zero] using shows_
    · intro i f' host' first sector shown
      rw [size] at sector
      rw [Nat.succ_mul] at first
      have front : (data.slice 0 (i * sectorSize)).size = i * sectorSize :=
        Bytes.size_slice_of_le (by omega)
      have next : (data.slice (i * sectorSize) sectorSize).size = sectorSize :=
        Bytes.size_slice_of_le first
      have room : offset + (data.slice 0 (i * sectorSize)).size ≤ bytes.size := by
        have stop := sector.stop_le
        omega
      rw [← Bytes.size_patch room] at sector
      obtain ⟨f'', host'', shows'', written⟩ := sectors.write_eq shown next sector
      rw [written]
      have joined := Bytes.patch_append _ (data.slice (i * sectorSize) sectorSize) room
      rw [front] at joined
      rw [joined] at shows''
      refine .ok ?_
      rw [Nat.succ_mul, Bytes.slice_append _ _ (by omega), Nat.zero_add]
      exact shows''
  obtain ⟨_, ⟨f', host'⟩, ended, shows'⟩ := moved.exists_ok
  rw [Nat.div_mul_cancel fits.len_aligned, Bytes.slice_all] at shows'
  exact ⟨f', host', shows', ended⟩

theorem refines (sectors : SectorWise Shows) : Refines Shows where
  capacity_eq := sectors.size_eq
  read_eq {f host bytes offset len} tracker c shows_ fits := by
    obtain ⟨f', host', shows', read⟩ := sectors.read shows_ fits
    refine ⟨f', host', shows', ?_⟩
    simp only [Backend.read, read]
    rfl
  write_eq {f host bytes offset data} tracker c shows_ fits := by
    obtain ⟨f', host', shows', written⟩ := sectors.write shows_ fits
    refine ⟨f', host', shows', ?_⟩
    simp only [Backend.write, written]
    rfl
  prefetch_eq _ _ _ _ := rfl
  saveState_eq _ _ := rfl
  flush_eq _ := rfl

end SectorWise

/-- Of the files that were there only the one numbered `id` may have changed, and it holds `bytes`. -/
structure RawShows (host₀ : Host) (id : Nat) (f : FileImage) (host : Host) (bytes : Bytes) :
    Prop where
  raw : f.raw = true
  file_eq : f.file = id
  size_eq : f.size = bytes.size
  inside : id < host₀.contents.size
  host_eq : ∃ content : SparseBytes, content.toBytes = bytes ∧ host = host₀.setContent id content

structure CachedShows (host₀ : Host) (f : FileImage) (host : Host) (bytes : Bytes) : Prop where
  cached : f.raw = false
  size_eq : f.size = bytes.size
  host_eq : host = host₀
  overlays : f.cache.Overlays (f.handle host).bytes.toBytes bytes

theorem sectorWise_raw (host₀ : Host) (id : Nat) : SectorWise (RawShows host₀ id) where
  size_eq shows_ := shows_.size_eq
  read_eq {f host bytes offset} shows_ fits := by
    have shown := shows_
    obtain ⟨raw, rfl, size, inside, content, rfl, rfl⟩ := shown
    have held : (f.handle (host₀.setContent f.file content)).bytes = content :=
      Host.content_setContent inside content
    refine ⟨f, _, shows_, ?_⟩
    rw [readSector, if_pos raw, readExactAt_openFile]
    · rw [held, Bytes.size_fill]
      rfl
    · rw [held, Bytes.size_fill, ← SparseBytes.size_toBytes]
      exact fits.stop_le
  write_eq {f host bytes offset data} shows_ sector fits := by
    obtain ⟨raw, rfl, size, inside, content, rfl, rfl⟩ := shows_
    have held : (f.handle (host₀.setContent f.file content)).bytes = content :=
      Host.content_setContent inside content
    have room : offset + data.size ≤ content.size := by
      rw [sector, ← SparseBytes.size_toBytes]
      exact fits.stop_le
    refine ⟨f, _, ⟨raw, rfl, ?_, inside, content.store offset data,
      SparseBytes.toBytes_store_of_le room, rfl⟩, ?_⟩
    · rw [Bytes.size_patch (by rwa [SparseBytes.size_toBytes]), size]
    · rw [writeSector, if_pos raw]
      simp only [writeAllAt_openFile, held, Host.setContent_setContent]

theorem sectorWise_cached (host₀ : Host) : SectorWise (CachedShows host₀) where
  size_eq shows_ := shows_.size_eq
  read_eq {f host bytes offset} shows_ fits := by
    obtain ⟨cached, size, rfl, overlays⟩ := shows_
    obtain ⟨c', overlays', read⟩ := overlays.readSector fits
    refine ⟨{ f with cache := c' }, host, ⟨cached, size, rfl, overlays'⟩, ?_⟩
    rw [readSector, if_neg (by simp [cached]), read]
  write_eq {f host bytes offset data} shows_ sector fits := by
    obtain ⟨cached, size, rfl, overlays⟩ := shows_
    obtain ⟨c', overlays', written⟩ := overlays.writeSector sector fits
    have kept : (bytes.patch offset data).size = bytes.size :=
      Bytes.size_patch (by rw [sector]; exact fits.stop_le)
    refine ⟨{ f with cache := c' }, host, ⟨cached, size.trans kept.symm, rfl, overlays'⟩, ?_⟩
    rw [writeSector, if_neg (by simp [cached]), written]

theorem ofPathWith_eq {host : Host} {path : String} {id blockSize : Nat} {cache : BlockCache}
    (found : host.openFile path = .ok id) (nonempty : 0 < (host.content id).size)
    (created : BlockCache.create (host.content id).size blockSize = .ok cache) (raw : Bool) :
    ofPathWith host path raw blockSize =
      .ok { file := id, size := (host.content id).size, raw, cache } := by
  simp only [ofPathWith, found, bind, Except.bind, mapError_ok, created]
  rw [if_neg (by omega)]
  rfl

theorem rawShows_new {host : Host} {id : Nat} (cache : BlockCache)
    (nonempty : 0 < (host.content id).size) :
    RawShows host id { file := id, size := (host.content id).size, raw := true, cache } host
      (host.content id).toBytes :=
  ⟨rfl, rfl, by rw [SparseBytes.size_toBytes], Host.lt_of_content nonempty, host.content id, rfl,
    Host.setContent_content.symm⟩

theorem cachedShows_new {host : Host} {id blockSize : Nat} {cache : BlockCache}
    (created : BlockCache.create (host.content id).size blockSize = .ok cache)
    (allocatable : blockSize < BlockCache.blockLimit) :
    CachedShows host { file := id, size := (host.content id).size, raw := false, cache } host
      (host.content id).toBytes :=
  ⟨rfl, by rw [SparseBytes.size_toBytes], rfl,
    .new created allocatable (SparseBytes.size_toBytes _)⟩

end DiskImage.FileImage
