import DiskImage.Proofs.Dispatch
import DiskImage.Proofs.Opening
import DiskImage.Proofs.Sessions

/-! Whether the writes that a drive takes reach a file. They do over an image file in raw mode and
nowhere else, in every run of requests. A drive opened from a description says truly which it is; one
put around a backend repeats what its maker said. -/
namespace DiskImage

def Storage.isRaw : Storage → Bool
  | .file f => f.raw
  | .ram _ | .deferred _ | .planned _ => false

namespace FileImage

theorem kept_mode (raw : Bool) : KeptBySectors (·.raw = raw) where
  read f host offset same := by
    unfold readSector
    split <;> exact same
  write f host offset data same := by
    unfold writeSector
    split <;> exact same

theorem host_writeSector_cached {f : FileImage} (cached : f.raw = false) (host : Host) (offset : Nat)
    (data : Bytes) : (f.writeSector host offset data).state.2 = host := by
  simp [writeSector, cached]

theorem host_write_cached {f : FileImage} (cached : f.raw = false) (host : Host) (offset : Nat)
    (data : Bytes) : (f.write host offset data).state.2 = host := by
  have moved : (f.write host offset data).Ensures
      (fun _ state => state.1.raw = false ∧ state.2 = host)
      (fun _ state => state.1.raw = false ∧ state.2 = host) := by
    apply write_ensures (fun _ state => state.1.raw = false ∧ state.2 = host)
    · exact fun _ => ⟨cached, rfl⟩
    · exact ⟨cached, rfl⟩
    · rintro i f' host' _ _ ⟨cached', rfl⟩
      apply Outcome.Ensures.of_state
      exact ⟨(kept_mode false).write f' host' _ _ cached', host_writeSector_cached cached' host' _ _⟩
  exact moved.state.2

theorem host_serve_cached {f : FileImage} (cached : f.raw = false) (w : World) (request : Request) :
    (request.serve f w).state.2.host = w.host := by
  cases request with
  | read offset len c => exact f.host_read w.host offset len
  | write offset data c => exact host_write_cached cached w.host offset data
  | register c =>
    simp only [Request.serve]
    split <;> rfl
  | prefetch | saveState | flush | check | cancel => rfl

end FileImage

theorem RamImage.host_serve (r : RamImage) (w : World) (request : Request) :
    (request.serve r w).state.2.host = w.host := by
  cases request with
  | write offset data c =>
    simp only [Request.serve, Request.mapAnswer, Backend.write]
    split <;> rfl
  | register c =>
    simp only [Request.serve]
    split <;> rfl
  | read | prefetch | saveState | flush | check | cancel => rfl

namespace Drive

section

variable {β : Type} [Backend β] {d : Drive β} {w : World}

theorem serve_keeps (Holds : β → Host → Prop)
    (step : ∀ (b : β) (w : World) (request : Request), Holds b w.host →
      Holds (request.serve b w).state.1 (request.serve b w).state.2.host)
    (start : Holds d.backend w.host) (request : Request) :
    Holds (request.serve d w).state.1.backend (request.serve d w).state.2.host := by
  have served := step d.backend w request start
  cases ranged : request.range? with
  | none => rwa [serve_unchecked d w ranged]
  | some range =>
    by_cases fits : Fits range.1 range.2 d.capacity
    · rwa [serve_transfer d w ranged fits]
    · rwa [serve_refused d w ranged fits]

theorem serveAll_keeps (Holds : β → Host → Prop)
    (step : ∀ (b : β) (w : World) (request : Request), Holds b w.host →
      Holds (request.serve b w).state.1 (request.serve b w).state.2.host)
    (start : Holds d.backend w.host) (requests : List Request) :
    Holds (Request.serveAll d w requests).2.1.backend (Request.serveAll d w requests).2.2.host := by
  apply Request.run_keeps (fun (d : Drive β) w => Holds d.backend w.host) _ start
  intro d w request held
  exact serve_keeps Holds step held request

end

/-- The writes that the drive takes are laid over the file numbered `id` one after another, and no
other file changes, whatever else is asked of the drive. -/
def WritesThrough (d : Drive Storage) (host : Host) (id : Nat) : Prop :=
  ∀ (tracker : Tracker) (requests : List Request),
    host.Changes (Request.serveAll d ⟨host, tracker⟩ requests).2.2.host id
      ((host.content id).toBytes.overlay (requests.filterMap (Request.written? d.capacity)))

def LeavesFiles (d : Drive Storage) (host : Host) : Prop :=
  ∀ (tracker : Tracker) (requests : List Request),
    (Request.serveAll d ⟨host, tracker⟩ requests).2.2.host = host

section

variable {host : Host} {d : Drive Storage}

theorem leavesFiles_of_cached {f : FileImage} (backend : d.backend = .file f)
    (cached : f.raw = false) : d.LeavesFiles host := by
  intro tracker requests
  have kept := serveAll_keeps (d := d) (w := ⟨host, tracker⟩)
    (fun s after => (∃ f, s = .file f ∧ f.raw = false) ∧ after = host) ?_
    ⟨⟨f, backend, cached⟩, rfl⟩ requests
  · exact kept.2
  · rintro _ w request ⟨⟨f, rfl, cached⟩, same⟩
    rw [Storage.wraps_file.serve_eq]
    exact ⟨⟨_, rfl, (FileImage.kept_mode false).serve f w request cached⟩,
      (FileImage.host_serve_cached cached w request).trans same⟩

theorem leavesFiles_of_ram {r : RamImage} (backend : d.backend = .ram r) : d.LeavesFiles host := by
  intro tracker requests
  have kept := serveAll_keeps (d := d) (w := ⟨host, tracker⟩)
    (fun s after => (∃ r, s = .ram r) ∧ after = host) ?_ ⟨⟨r, backend⟩, rfl⟩ requests
  · exact kept.2
  · rintro _ w request ⟨⟨r, rfl⟩, same⟩
    rw [Storage.wraps_ram.serve_eq]
    exact ⟨⟨_, rfl⟩, (r.host_serve w request).trans same⟩

theorem writesThrough_of_raw {f : FileImage} (backend : d.backend = .file f) (raw : f.raw = true)
    (held : f.size = (host.content f.file).size) (large : sectorSize ≤ f.size) :
    d.WritesThrough host f.file := by
  intro tracker requests
  have size : f.size = (host.content f.file).toBytes.size := by rw [held, SparseBytes.size_toBytes]
  have capacity : d.capacity = (host.content f.file).toBytes.size := by
    rw [← size, Drive.capacity, backend]
    rfl
  have inside : f.file < host.contents.size :=
    Host.lt_of_content (held ▸ Nat.lt_of_lt_of_le (by decide) large)
  have shows_ : FileImage.RawShows host f.file f host (host.content f.file).toBytes :=
    ⟨raw, rfl, size, inside, host.content f.file, rfl, Host.setContent_content.symm⟩
  have refines := Storage.wraps_file.refines (FileImage.sectorWise_raw host f.file).refines
  obtain ⟨b, host', ⟨f', -, shown⟩, run⟩ :=
    refines.serveAll_drive ⟨(host.content f.file).toBytes, tracker⟩ ⟨f, backend, shows_⟩ requests
  obtain ⟨-, -, -, -, content, same, changed⟩ := shown
  rw [FlatDisk.bytes_serveAll] at same
  rw [run, capacity, ← same]
  subst changed
  exact Host.changes_setContent inside content

theorem not_writesThrough_of_leavesFiles (large : sectorSize ≤ d.capacity)
    (leaves : d.LeavesFiles host) (id : Nat) : ¬ d.WritesThrough host id := by
  intro through
  let before := (host.content id).toBytes
  let data := Bytes.fill (before.byte 0 + 1) sectorSize
  have size : data.size = sectorSize := Bytes.size_fill ..
  have fits : Fits 0 data.size d.capacity := by
    rw [size]
    exact ⟨Nat.dvd_zero _, Nat.dvd_refl _, by decide, by rwa [Nat.zero_add]⟩
  have changes := through { } [.write 0 data .silent]
  have holds := changes.holds
  rw [leaves] at holds
  have first : (before.patch 0 data).byte 0 = before.byte 0 + 1 := by
    rw [Bytes.byte_patch data (Nat.zero_le _), if_pos (by rw [size]; decide), Bytes.byte_fill]
    rfl
  simp only [List.filterMap_cons, Request.written?, if_pos fits, List.filterMap_nil,
    Bytes.overlay, List.foldl_cons, List.foldl_nil] at holds
  have same : before.byte 0 = before.byte 0 + 1 := by rw [← first, ← holds]
  simp at same

end

/-- How a drive over an image comes about: it is opened from a description, or put around a backend
with the flag that its maker chose. -/
inductive Origin
  | described (config : DriveConfig)
  | aroundFile (f : FileImage) (flag : Bool)
  | aroundMemory (r : RamImage) (flag : Bool)

namespace Origin

def drive (host : Host) : Origin → Except ImageError (Drive Storage)
  | described config => ofConfig host config
  | aroundFile f flag => withBackend (.file f) flag
  | aroundMemory r flag => withBackend (.ram r) flag

def file? (host : Host) : Origin → Option Nat
  | described config => (host.openFile config.path).toOption
  | aroundFile f _ => some f.file
  | aroundMemory .. => none

/-- A backend that was there before finds its file as long as it took it to be. -/
def Intact (host : Host) : Origin → Prop
  | aroundFile f _ => f.size = (host.content f.file).size
  | described _ | aroundMemory .. => True

/-- A flag that somebody chose is the mode of the backend. -/
def Honest : Origin → Prop
  | described _ => True
  | aroundFile f flag => flag = f.raw
  | aroundMemory _ flag => flag = false

def WritesReach (origin : Origin) (host : Host) (d : Drive Storage) : Prop :=
  ∃ id, origin.file? host = some id ∧ d.WritesThrough host id

variable {host : Host} {origin : Origin} {d : Drive Storage}

theorem backend_cases (made : origin.drive host = .ok d) (intact : origin.Intact host) :
    sectorSize ≤ d.capacity ∧
      ((∃ f, d.backend = .file f ∧ origin.file? host = some f.file ∧
        f.size = (host.content f.file).size) ∨ ∃ r, d.backend = .ram r) := by
  cases origin with
  | described config =>
    obtain ⟨id, named, opened⟩ := opened_of_ofConfig made
    cases opened with
    | onFile choice large created =>
      refine ⟨large, .inl ⟨_, rfl, ?_, rfl⟩⟩
      rw [file?, named]
      rfl
    | inMemory choice large => exact ⟨large, .inr ⟨_, rfl⟩⟩
  | aroundFile f flag =>
    obtain ⟨large, rfl⟩ := ofBackend_eq_ok.mp made
    exact ⟨large, .inl ⟨f, rfl, rfl, intact⟩⟩
  | aroundMemory r flag =>
    obtain ⟨large, rfl⟩ := ofBackend_eq_ok.mp made
    exact ⟨large, .inr ⟨r, rfl⟩⟩

theorem honest_iff (made : origin.drive host = .ok d) :
    origin.Honest ↔ d.modifiesBackingStore = d.backend.isRaw := by
  cases origin with
  | described config =>
    obtain ⟨id, -, opened⟩ := opened_of_ofConfig made
    cases opened <;> simp [Honest, Storage.isRaw]
  | aroundFile f flag | aroundMemory r flag =>
    obtain ⟨-, rfl⟩ := ofBackend_eq_ok.mp made
    rfl

theorem writesReach_of_raw (made : origin.drive host = .ok d) (intact : origin.Intact host)
    (raw : d.backend.isRaw = true) : origin.WritesReach host d := by
  obtain ⟨large, ⟨f, backend, file, held⟩ | ⟨r, backend⟩⟩ := backend_cases made intact
  · rw [Drive.capacity, backend] at large
    rw [backend] at raw
    exact ⟨f.file, file, writesThrough_of_raw backend raw held large⟩
  · rw [backend] at raw
    cases raw

theorem leavesFiles_of_not_raw (made : origin.drive host = .ok d) (intact : origin.Intact host)
    (mode : d.backend.isRaw = false) : d.LeavesFiles host := by
  obtain ⟨-, ⟨f, backend, -⟩ | ⟨r, backend⟩⟩ := backend_cases made intact
  · rw [backend] at mode
    exact leavesFiles_of_cached backend mode
  · exact leavesFiles_of_ram backend

theorem not_writesReach_of_not_raw (made : origin.drive host = .ok d) (intact : origin.Intact host)
    (mode : d.backend.isRaw = false) : ¬ origin.WritesReach host d := by
  rintro ⟨id, -, through⟩
  exact not_writesThrough_of_leavesFiles (backend_cases made intact).1
    (leavesFiles_of_not_raw made intact mode) id through

/-- Writes reach the image's file exactly if the backend is a file in raw mode. A drive opened from a
description says so truly, any other just if its flag is the backend's mode. -/
theorem modifiesBackingStore_iff_writesReach (made : origin.drive host = .ok d)
    (intact : origin.Intact host) :
    (origin.WritesReach host d ↔ d.backend.isRaw = true) ∧
      (d.backend.isRaw = false → d.LeavesFiles host) ∧
      ((d.modifiesBackingStore = true ↔ origin.WritesReach host d) ↔ origin.Honest) := by
  have reach : origin.WritesReach host d ↔ d.backend.isRaw = true := by
    constructor
    · intro reaches
      cases mode : d.backend.isRaw with
      | true => rfl
      | false => exact absurd reaches (not_writesReach_of_not_raw made intact mode)
    · exact writesReach_of_raw made intact
  refine ⟨reach, leavesFiles_of_not_raw made intact, ?_⟩
  rw [reach, honest_iff made]
  cases d.modifiesBackingStore <;> cases d.backend.isRaw <;> decide

theorem denied_writes_reach :
    let f : FileImage := ⟨0, 1024, true, ⟨512, 1024, 2, ∅, { }⟩⟩
    let host : Host := ⟨[], [(["disk"], .file 0)], #[.zeros 1024]⟩
    ∃ d : Drive Storage, (aroundFile f false).drive host = .ok d ∧ d.modifiesBackingStore = false ∧
      (aroundFile f false).WritesReach host d := by
  intro f host
  have made : (aroundFile f false).drive host = .ok ⟨.file f, .external, .ofCapacity 1024, false⟩ := rfl
  exact ⟨_, made, rfl, (modifiesBackingStore_iff_writesReach made rfl).1.mpr rfl⟩

/-- A drive over an image in memory whose maker said that writes reach a file says so too. -/
theorem memory_drive_claims_to_persist :
    let origin := aroundMemory ⟨.zeros 1024⟩ true
    let host : Host := ⟨[], [(["disk"], .file 0)], #[.zeros 1024]⟩
    ∃ d : Drive Storage, origin.drive host = .ok d ∧ d.modifiesBackingStore = true ∧
      ¬ origin.WritesReach host d ∧ d.LeavesFiles host := by
  intro origin host
  have made : origin.drive host =
      .ok ⟨.ram ⟨.zeros 1024⟩, .external, .ofCapacity 1024, true⟩ := rfl
  exact ⟨_, made, rfl, not_writesReach_of_not_raw made trivial rfl,
    leavesFiles_of_not_raw made trivial rfl⟩

end Origin

end Drive

end DiskImage
