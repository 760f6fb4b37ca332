import DiskImage.Proofs.BlockCache.Atomicity
import DiskImage.Proofs.NoPanic
import DiskImage.Proofs.Operation
import Mathlib.Data.Nat.ModEq

/-! A request over several sectors is the sequence of its parts, wherever between two sectors it is cut. So a
write that fails has written the sectors before the first whose block cannot be had, and nothing more. -/
namespace DiskImage

namespace FileImage

section Loops

variable (f : FileImage) (host : Host) (offset : Nat)

theorem sectorOffset_add (i j : Nat) :
    sectorOffset offset (i + j) = sectorOffset (offset + i * sectorSize) j := by
  simp only [sectorOffset, Word.add, Nat.add_mul, Nat.add_assoc]

theorem readSectors_succ (i count : Nat) (done : Bytes) :
    f.readSectors host offset i (count + 1) done =
      Outcome.andThen ⟨sectorOffset offset i, (f, host)⟩ fun position _ =>
        (f.readSector host position).andThen fun sector s =>
          s.1.readSectors s.2 offset (i + 1) count (done ++ sector) := by
  rw [readSectors]
  cases sectorOffset offset i with
  | error halt => rfl
  | ok position =>
    simp only [Outcome.andThen_ok]
    cases f.readSector host position with
    | mk answer state => cases answer <;> rfl

theorem writeSectors_succ (data : Bytes) (i count : Nat) :
    f.writeSectors host offset data i (count + 1) =
      Outcome.andThen ⟨sectorOffset offset i, (f, host)⟩ fun position _ =>
        (f.writeSector host position (data.slice (i * sectorSize) sectorSize)).andThen fun _ s =>
          s.1.writeSectors s.2 offset data (i + 1) count := by
  rw [writeSectors]
  cases sectorOffset offset i with
  | error halt => rfl
  | ok position =>
    simp only [Outcome.andThen_ok]
    cases f.writeSector host position (data.slice (i * sectorSize) sectorSize) with
    | mk answer state => cases answer <;> rfl

theorem readSectors_add (i m n : Nat) (done : Bytes) :
    f.readSectors host offset i (m + n) done =
      (f.readSectors host offset i m done).andThen fun front s =>
        s.1.readSectors s.2 offset (i + m) n front := by
  induction m generalizing f host i done with
  | zero => rw [Nat.zero_add, Nat.add_zero, readSectors, Outcome.andThen_ok]
  | succ m ih =>
    rw [Nat.succ_add_eq_add_succ, Nat.add_succ]
    simp only [readSectors_succ, Outcome.andThen_assoc, ih, Nat.succ_add_eq_add_succ]

theorem writeSectors_add (data : Bytes) (i m n : Nat) :
    f.writeSectors host offset data i (m + n) =
      (f.writeSectors host offset data i m).andThen fun _ s =>
        s.1.writeSectors s.2 offset data (i + m) n := by
  induction m generalizing f host i with
  | zero => rw [Nat.zero_add, Nat.add_zero, writeSectors, Outcome.andThen_ok]
  | succ m ih =>
    rw [Nat.succ_add_eq_add_succ, Nat.add_succ]
    simp only [writeSectors_succ, Outcome.andThen_assoc, ih, Nat.succ_add_eq_add_succ]

theorem readSectors_shift (i j count : Nat) (front done : Bytes) :
    f.readSectors host offset (i + j) count (front ++ done) =
      Request.mapAnswer (front ++ ·)
        (f.readSectors host (offset + i * sectorSize) j count done) := by
  induction count generalizing f host j done with
  | zero => rfl
  | succ count ih =>
    simp only [readSectors_succ, Outcome.mapAnswer_andThen, sectorOffset_add,
      ByteArray.append_assoc, Nat.add_assoc, ih]

theorem writeSectors_shift (data part : Bytes) (i j count : Nat)
    (same : ∀ k, k < j + count →
      data.slice ((i + k) * sectorSize) sectorSize = part.slice (k * sectorSize) sectorSize) :
    f.writeSectors host offset data (i + j) count =
      f.writeSectors host (offset + i * sectorSize) part j count := by
  induction count generalizing f host j with
  | zero => rfl
  | succ count ih =>
    have rest (g : FileImage) (now : Host) := ih g now (j + 1) fun k inside =>
      same k (by omega)
    simp only [writeSectors_succ, sectorOffset_add, same j (by omega), Nat.add_assoc, rest]

theorem readSectors_back {first : Nat} (aligned : sectorSize ∣ first) (count : Nat)
    (front : Bytes) :
    f.readSectors host offset (first / sectorSize) count front =
      Request.mapAnswer (front ++ ·)
        (f.readSectors host (offset + first) 0 count ByteArray.empty) := by
  have moved := readSectors_shift f host offset (first / sectorSize) 0 count front ByteArray.empty
  rwa [ByteArray.append_empty, Nat.add_zero, Nat.div_mul_cancel aligned] at moved

theorem writeSectors_front (front back : Bytes) :
    f.writeSectors host offset (front ++ back) 0 (front.size / sectorSize) =
      f.writeSectors host offset front 0 (front.size / sectorSize) := by
  have moved := writeSectors_shift f host offset (front ++ back) front 0 0
    (front.size / sectorSize) fun k inside => by
      have room : (k + 1) * sectorSize ≤ front.size := sector_inside (by omega)
      rw [Nat.succ_mul] at room
      rw [Nat.zero_add, Bytes.slice_append_front _ _ room]
  rwa [Nat.zero_mul, Nat.add_zero] at moved

theorem writeSectors_back {front : Bytes} (aligned : sectorSize ∣ front.size) (back : Bytes)
    (count : Nat) :
    f.writeSectors host offset (front ++ back) (front.size / sectorSize) count =
      f.writeSectors host (offset + front.size) back 0 count := by
  have moved := writeSectors_shift f host offset (front ++ back) back
    (front.size / sectorSize) 0 count fun k _ => by
      rw [Nat.add_mul, Nat.div_mul_cancel aligned, Bytes.slice_append_back]
  rwa [Nat.add_zero, Nat.div_mul_cancel aligned] at moved

end Loops

section Requests

variable {f : FileImage} {host : Host} {offset : Nat}

theorem read_of_fits {len : Nat} (fits : Fits offset len f.size) :
    f.read host offset len =
      f.readSectors host offset 0 (len / sectorSize) ByteArray.empty := by
  rw [read, checkRequest_of_fits fits]

theorem write_of_fits {data : Bytes} (fits : Fits offset data.size f.size) :
    f.write host offset data = f.writeSectors host offset data 0 (data.size / sectorSize) := by
  rw [write, checkRequest_of_fits fits]

theorem size_read (f : FileImage) (host : Host) (offset len : Nat) :
    (f.read host offset len).state.1.size = f.size :=
  (kept_size f.size).serve f ⟨host, { }⟩ (.read offset len .silent) rfl

theorem size_write (f : FileImage) (host : Host) (offset : Nat) (data : Bytes) :
    (f.write host offset data).state.1.size = f.size :=
  (kept_size f.size).serve f ⟨host, { }⟩ (.write offset data .silent) rfl

theorem read_split {first second : Nat} (fits : Fits offset (first + second) f.size)
    (aligned : sectorSize ∣ first) :
    f.read host offset (first + second) =
      (f.read host offset first).andThen fun front s =>
        Request.mapAnswer (front ++ ·) (s.1.read s.2 (offset + first) second) := by
  obtain ⟨front_fits, back_fits⟩ := fits.split aligned
  have kept := size_read f host offset first
  rw [read_of_fits fits, Nat.add_div_of_dvd_right aligned, readSectors_add, ← read_of_fits front_fits,
    Nat.zero_add]
  apply Outcome.andThen_congr
  intro front s ended
  rw [ended] at kept
  rw [read_of_fits (kept ▸ back_fits), readSectors_back s.1 s.2 offset aligned]

theorem write_split {front back : Bytes} (fits : Fits offset (front.size + back.size) f.size)
    (aligned : sectorSize ∣ front.size) :
    f.write host offset (front ++ back) =
      (f.write host offset front).andThen fun _ s =>
        s.1.write s.2 (offset + front.size) back := by
  obtain ⟨front_fits, back_fits⟩ := fits.split aligned
  have kept := size_write f host offset front
  rw [write_of_fits (by rwa [ByteArray.size_append]), ByteArray.size_append,
    Nat.add_div_of_dvd_right aligned, writeSectors_add, writeSectors_front,
    ← write_of_fits front_fits, Nat.zero_add]
  apply Outcome.andThen_congr
  intro _ s ended
  rw [ended] at kept
  rw [write_of_fits (kept ▸ back_fits), writeSectors_back s.1 s.2 offset aligned]

end Requests

/-- The block of the sector at `offset` is resident, or it can be loaded from the file. -/
def Has (f : FileImage) (host : Host) (offset : Nat) : Prop :=
  f.cache.Available (f.handle host) (offset / f.cache.blockSize)

structure Cached (f : FileImage) : Prop where
  raw_eq : f.raw = false
  wellFormed : f.cache.WellFormed
  capacity_eq : f.cache.capacity = f.size

structure Wrote (f : FileImage) (host : Host) (offset : Nat) (data : Bytes) (count : Nat)
    (state : FileImage × Host) : Prop where
  cached : state.1.Cached
  size_eq : state.1.size = f.size
  host_eq : state.2 = host
  written : f.write host offset (data.slice 0 (count * sectorSize)) = ⟨.ok (), state⟩
  has_iff : ∀ place, state.1.Has host place ↔ f.Has host place
  has : ∀ i, i < count → f.Has host (offset + i * sectorSize)

/-- Sector `k` is the first of the request whose block cannot be had. Those before it have been written, and
its block has been missed. -/
structure StoppedAt (f : FileImage) (host : Host) (offset : Nat) (data : Bytes) (k : Nat)
    (state : FileImage × Host) : Prop where
  inside : k < data.size / sectorSize
  has : ∀ i, i < k → f.Has host (offset + i * sectorSize)
  missing : ¬ f.Has host (offset + k * sectorSize)
  written : ∃ f' : FileImage,
    f.write host offset (data.slice 0 (k * sectorSize)) = ⟨.ok (), (f', host)⟩ ∧
      state = ({ f' with cache := f'.cache.addMisses 1 }, host)

section Stops

variable {f : FileImage} {host : Host} {offset : Nat} {data : Bytes}

theorem Cached.serve (cached : f.Cached) (host : Host) (call : BlockCache.SectorCall) :
    Cached { f with cache := (call.serve f.cache (f.handle host)).state.1 } := by
  obtain ⟨-, capacity, -⟩ := BlockCache.SectorCall.shape_serve cached.wellFormed (f.handle host) call
  exact ⟨cached.raw_eq, BlockCache.SectorCall.wellFormed_serve cached.wellFormed _ _,
    capacity.trans cached.capacity_eq⟩

theorem kept_cached : KeptBySectors Cached where
  read f host offset cached := by
    rw [readSector, if_neg (by simp [cached.raw_eq])]
    exact cached.serve host (.read offset sectorSize)
  write f host offset data cached := by
    rw [writeSector, if_neg (by simp [cached.raw_eq])]
    exact cached.serve host (.write offset data)

theorem cached_of_ofPathWith {path : String} {blockSize : Nat}
    (opened : ofPathWith host path false blockSize = .ok f) : f.Cached := by
  obtain ⟨id, cache, -, -, created, rfl⟩ := exists_of_ofPathWith opened
  refine ⟨rfl, BlockCache.wellFormed_create created, ?_⟩
  obtain ⟨-, -, -, rfl⟩ := BlockCache.create_eq_ok.mp created
  rfl

theorem write_sector (fits : Fits offset sectorSize f.size) (sector : data.size = sectorSize) :
    f.write host offset data = f.writeSector host offset data := by
  have position : sectorOffset offset 0 = .ok offset :=
    sectorOffset_of_fits fits (Nat.le_of_eq (Nat.one_mul _))
  rw [write_of_fits (sector ▸ fits), sector, Nat.div_self (by decide), writeSectors_succ, position,
    Outcome.andThen_ok, Nat.zero_mul, ← sector, Bytes.slice_all]
  simp only [writeSectors]
  cases f.writeSector host offset data with
  | mk answer state => cases answer <;> rfl

theorem has_iff : f.Has host offset ↔
    f.cache.blocks[offset / f.cache.blockSize]?.isSome ∨
      f.cache.blockSize < BlockCache.blockLimit ∧
        (f.cache.backed (offset / f.cache.blockSize) = 0 ∨
          offset / f.cache.blockSize * f.cache.blockSize +
            f.cache.backed (offset / f.cache.blockSize) ≤ (host.content f.file).size) := by
  rw [Has, BlockCache.Available, readExactAt_openFile_eq_ok, Bytes.size_fill]
  rfl

theorem Cached.writeSector (cached : f.Cached) (host : Host) (fits : Fits offset sectorSize f.size)
    (sector : data.size = sectorSize) :
    (f.writeSector host offset data).Ensures
      (fun _ state => state.1.Cached ∧ state.1.size = f.size ∧ state.2 = host ∧
        f.Has host offset ∧ ∀ place, state.1.Has host place ↔ f.Has host place)
      (fun _ state => ¬ f.Has host offset ∧
        state = ({ f with cache := f.cache.addMisses 1 }, host)) := by
  have wf := cached.wellFormed
  let call : BlockCache.SectorCall := .write offset data
  have inside : Fits offset data.size f.cache.capacity := by
    rw [sector, cached.capacity_eq]
    exact fits
  have valid : f.cache.checkSector call.offset call.len = .ok () :=
    BlockCache.checkSector_eq_ok.mpr ⟨sector, inside⟩
  have isOk := wf.serve_isOk_of_valid (f.handle host) valid
  rw [FileImage.writeSector, if_neg (by simp [cached.raw_eq])]
  constructor
  · intro a written
    have success : (call.serve f.cache (f.handle host)).answer.isOk :=
      (isOk_map ..).trans (by rw [written]; rfl)
    refine ⟨cached.serve host call, rfl, rfl, isOk.mp success, fun place => ?_⟩
    obtain ⟨blockSize, -, -⟩ := BlockCache.SectorCall.shape_serve wf (f.handle host) call
    change (call.serve f.cache (f.handle host)).state.1.Available (f.handle host)
      (place / (call.serve f.cache (f.handle host)).state.1.blockSize) ↔ _
    rw [blockSize]
    exact wf.available_serve (f.handle host) valid success (place / f.cache.blockSize)
  · intro halt written
    have failed : (call.serve f.cache (f.handle host)).answer = .error halt := by
      dsimp only at written
      simp only [call, BlockCache.SectorCall.serve, Request.mapAnswer, written, Except.map]
    have missed := wf.missed valid failed
    refine ⟨fun has => ?_, congrArg (fun cache => ({ f with cache }, host)) missed⟩
    have success := isOk.mpr has
    rw [failed] at success
    cases success

namespace Wrote

variable {f' : FileImage} {host' : Host} {i : Nat}

theorem zero (cached : f.Cached) (fits : Fits offset data.size f.size) :
    Wrote f host offset data 0 (f, host) := by
  refine ⟨cached, rfl, rfl, ?_, fun _ => .rfl, fun _ none => absurd none (Nat.not_lt_zero _)⟩
  have nothing : (data.slice 0 (0 * sectorSize)).size = 0 := by
    rw [Nat.zero_mul, Bytes.slice_zero, ByteArray.size_empty]
  have first := (fits.part (i := 0) (n := 0) (by omega))
  rw [Nat.zero_mul, Nat.add_zero] at first
  rw [write_of_fits (by rwa [nothing]), nothing]
  rfl

theorem next (wrote : Wrote f host offset data i (f', host')) (fits : Fits offset data.size f.size)
    (inside : (i + 1) * sectorSize ≤ data.size) :
    f.write host offset (data.slice 0 ((i + 1) * sectorSize)) =
      f'.writeSector host' (offset + i * sectorSize)
        (data.slice (i * sectorSize) sectorSize) := by
  have here := fits.part inside
  rw [Nat.succ_mul] at inside ⊢
  have front : (data.slice 0 (i * sectorSize)).size = i * sectorSize :=
    Bytes.size_slice_of_le (by omega)
  have sector : (data.slice (i * sectorSize) sectorSize).size = sectorSize :=
    Bytes.size_slice_of_le inside
  have whole := fits.part (i := 0) (n := i + 1) (by rw [Nat.zero_add, Nat.succ_mul]; exact inside)
  rw [Nat.zero_mul, Nat.add_zero, Nat.succ_mul] at whole
  rw [Nat.one_mul] at here
  -- the longer write is cut before its last sector
  rw [Bytes.slice_append _ _ (by omega), Nat.zero_add,
    write_split (by rwa [front, sector]) (by rw [front]; exact Nat.dvd_mul_left ..),
    wrote.written, Outcome.andThen_ok, front]
  exact write_sector (wrote.size_eq ▸ here) sector

theorem step (wrote : Wrote f host offset data i (f', host')) (fits : Fits offset data.size f.size)
    (inside : (i + 1) * sectorSize ≤ data.size) :
    (f'.writeSector host' (offset + i * sectorSize)
      (data.slice (i * sectorSize) sectorSize)).Ensures
        (fun _ => Wrote f host offset data (i + 1))
        (fun _ state => ∃ k, StoppedAt f host offset data k state) := by
  have next := wrote.next fits inside
  obtain ⟨cached, size, rfl, written, has_iff, has⟩ := wrote
  have here : Fits (offset + i * sectorSize) sectorSize f'.size := by
    rw [size]
    simpa using fits.part inside
  have moved := cached.writeSector host' here
    (Bytes.size_slice_of_le (Nat.succ_mul i sectorSize ▸ inside))
  generalize f'.writeSector host' (offset + i * sectorSize)
    (data.slice (i * sectorSize) sectorSize) = outcome at next moved ⊢
  cases outcome with
  | mk answer state =>
    cases answer with
    | ok =>
      obtain ⟨kept, same, host_eq, has_sector, kept_blocks⟩ := moved.done () rfl
      refine .ok ⟨kept, same.trans size, host_eq, next,
        fun place => (kept_blocks place).trans (has_iff place), fun j below => ?_⟩
      rcases Nat.lt_succ_iff_lt_or_eq.mp below with before | rfl
      · exact has j before
      · exact (has_iff _).mp has_sector
    | error halt =>
      obtain ⟨missing, left⟩ := moved.failed halt rfl
      refine .error ⟨i, ?_, has, fun held => missing ((has_iff _).mpr held), f', written, left⟩
      exact (Nat.le_div_iff_mul_le (by decide)).mpr inside

end Wrote

theorem Cached.write (cached : f.Cached) (host : Host) (fits : Fits offset data.size f.size) :
    (f.write host offset data).Ensures
      (fun _ => Wrote f host offset data (data.size / sectorSize))
      (fun _ state => ∃ k, StoppedAt f host offset data k state) := by
  apply write_ensures (Wrote f host offset data)
  · exact absurd fits
  · exact .zero cached fits
  · exact fun i f' host' inside _ wrote => wrote.step fits inside

theorem Cached.write_isOk (cached : f.Cached) (fits : Fits offset data.size f.size) :
    (f.write host offset data).answer.isOk ↔
      ∀ i, i < data.size / sectorSize → f.Has host (offset + i * sectorSize) := by
  have moved := cached.write host fits
  cases ended : (f.write host offset data).answer with
  | ok a => exact iff_of_true rfl (moved.done a ended).has
  | error halt =>
    obtain ⟨k, stopped⟩ := moved.failed halt ended
    exact iff_of_false (by simp [Except.isOk, Except.toBool])
      fun all => stopped.missing (all k stopped.inside)

end Stops

/-- A request cut at a sector boundary is its first part and then, if that succeeds, its second. A
cached write that fails has written the sectors before the first unavailable block. -/
theorem whole_request_is_its_parts :
    (∀ (f : FileImage) (host : Host) (offset first second : Nat),
      Fits offset (first + second) f.size → sectorSize ∣ first →
        f.read host offset (first + second) =
          (f.read host offset first).andThen fun front s =>
            Request.mapAnswer (front ++ ·) (s.1.read s.2 (offset + first) second)) ∧
    (∀ (f : FileImage) (host : Host) (offset : Nat) (front back : Bytes),
      Fits offset (front.size + back.size) f.size → sectorSize ∣ front.size →
        f.write host offset (front ++ back) =
          (f.write host offset front).andThen fun _ s =>
            s.1.write s.2 (offset + front.size) back) ∧
    ∀ (host : Host) (path : String) (blockSize : Nat) (f : FileImage),
      ofPathWith host path false blockSize = .ok f →
      ∀ (history : List (World × Request)) (now : Host) (offset : Nat) (data : Bytes),
        let reached := Request.after f history
        let outcome := reached.write now offset data
        Fits offset data.size reached.size →
          (outcome.answer.isOk ↔
            ∀ i, i < data.size / sectorSize → reached.Has now (offset + i * sectorSize)) ∧
          ∀ halt, outcome.answer = .error halt →
            ∃ k, StoppedAt reached now offset data k outcome.state := by
  refine ⟨fun f host offset first second => read_split,
    fun f host offset front back => write_split, ?_⟩
  intro host path blockSize f opened history now offset data reached outcome fits
  have cached := kept_cached.after (cached_of_ofPathWith opened) history
  exact ⟨cached.write_isOk fits, (cached.write now fits).failed⟩

/-- A file cut short while it is open: of three sectors the first is written, and the others lie in a block
that cannot be loaded any more. -/
theorem write_to_a_shortened_file :
    let host : Host := ⟨[], [(["disk"], .file 0)], #[.zeros 2048]⟩
    let now := host.setContent 0 (.zeros 1024)
    let front := Bytes.fill 7 512
    let back := Bytes.fill 8 1024
    ∃ f : FileImage, ofPathWith host "disk" false 1024 = .ok f ∧ Fits 512 (512 + 1024) f.size ∧
      f.read now 512 (512 + 1024) = ((f.read now 512 512).andThen fun bytes s =>
        Request.mapAnswer (bytes ++ ·) (s.1.read s.2 (512 + 512) 1024)) ∧
      f.write now 512 (front ++ back) = ((f.write now 512 front).andThen fun _ s =>
        s.1.write s.2 (512 + front.size) back) ∧
      ¬ (f.write now 512 (front ++ back)).answer.isOk ∧
      StoppedAt f now 512 (front ++ back) 1 (f.write now 512 (front ++ back)).state := by
  intro host now front back
  have created : BlockCache.create 2048 1024 = .ok ⟨1024, 2048, 2, ∅, { }⟩ :=
    BlockCache.create_eq_ok.mpr ⟨by decide, by decide, by decide, rfl⟩
  have found : host.openFile "disk" = .ok 0 := rfl
  have opened := ofPathWith_eq found (by decide) created false
  let f : FileImage := ⟨0, 2048, false, ⟨1024, 2048, 2, ∅, { }⟩⟩
  have fits : Fits 512 (512 + 1024) f.size := by decide
  have front_size : front.size = 512 := Bytes.size_fill ..
  have back_size : back.size = 1024 := Bytes.size_fill ..
  have size : (front ++ back).size = 512 + 1024 := by
    rw [ByteArray.size_append, front_size, back_size]
  have first : f.Has now (512 + 0 * sectorSize) := has_iff.mpr (by decide)
  have second : ¬ f.Has now (512 + 1 * sectorSize) := fun has => absurd (has_iff.mp has) (by decide)
  obtain ⟨read, write, failing⟩ := whole_request_is_its_parts
  obtain ⟨isOk, stops⟩ := failing host "disk" 1024 f opened [] now 512 (front ++ back)
    (by rw [size]; exact fits)
  have fails : ¬ (f.write now 512 (front ++ back)).answer.isOk := fun success =>
    second (isOk.mp success 1 (by rw [size]; decide))
  refine ⟨f, opened, fits, read f now 512 512 1024 fits (by decide),
    write f now 512 front back (by rw [front_size, back_size]; exact fits)
      (by rw [front_size]; decide), fails, ?_⟩
  cases answer : (f.write now 512 (front ++ back)).answer with
  | ok => exact absurd (by rw [answer]; rfl) fails
  | error halt =>
    obtain ⟨k, stopped⟩ := stops halt answer
    obtain rfl : k = 1 := by
      have after : ¬ k = 0 := fun zero => stopped.missing (zero ▸ first)
      have before : ¬ 1 < k := fun later => second (stopped.has 1 later)
      omega
    exact stopped

end FileImage

end DiskImage
