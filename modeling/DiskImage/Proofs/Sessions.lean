import DiskImage.Proofs.Agreement
import DiskImage.Proofs.Wrappers

/-! Sessions on one image file: a drive is opened on it, used and closed, over and over. The file ends
up as the writes of the sessions that keep theirs left it, and each session starts from the file as it
stood. -/
namespace DiskImage

/-- The bytes with every write laid over those before it. -/
def Bytes.overlay (bytes : Bytes) (writes : List (Nat × Bytes)) : Bytes :=
  writes.foldl (fun bytes write => bytes.patch write.1 write.2) bytes

theorem Bytes.overlay_append (bytes : Bytes) (first later : List (Nat × Bytes)) :
    bytes.overlay (first ++ later) = (bytes.overlay first).overlay later :=
  List.foldl_append ..

/-- The write that a request makes on an image of `size` bytes, if the image takes it. -/
def Request.written? (size : Nat) : Request → Option (Nat × Bytes)
  | .write offset data _ => if Fits offset data.size size then some (offset, data) else none
  | _ => none

namespace FlatDisk

theorem bytes_serve (disk : FlatDisk) (request : Request) :
    (disk.serve request).2.bytes =
      disk.bytes.overlay (request.written? disk.bytes.size).toList := by
  cases request with
  | write offset data c =>
    simp only [serve, Request.written?]
    by_cases fits : Fits offset data.size disk.bytes.size
    · rw [if_pos fits, if_pos fits]
      rfl
    · rw [if_neg fits, if_neg fits]
      rfl
  | read offset len c =>
    simp only [serve]
    split <;> rfl
  | register c =>
    simp only [serve]
    split <;> rfl
  | prefetch | saveState | flush | check | cancel => rfl

theorem bytes_serveAll (disk : FlatDisk) (requests : List Request) :
    (disk.serveAll requests).2.bytes =
      disk.bytes.overlay (requests.filterMap (Request.written? disk.bytes.size)) := by
  induction requests generalizing disk with
  | nil => rfl
  | cons request rest ih =>
    have first := disk.bytes_serve request
    have size := disk.size_serve request
    simp only [serveAll]
    rw [ih, size, first, ← Bytes.overlay_append, List.filterMap_cons]
    cases request.written? disk.bytes.size <;> rfl

theorem size_serveAll (disk : FlatDisk) (requests : List Request) :
    (disk.serveAll requests).2.bytes.size = disk.bytes.size := by
  induction requests generalizing disk with
  | nil => rfl
  | cons request rest ih =>
    simp only [serveAll]
    rw [ih, disk.size_serve request]

end FlatDisk

/-- An image file that drives can be opened on: one sector long at least, and not so long that the
table of a cache over it could not be allocated. -/
structure Host.HoldsImage (host : Host) (path : String) (bytes : Bytes) : Prop where
  raw : ImageKind.detect host path = .raw
  found : host.fileBytes path = .ok bytes
  large : sectorSize ≤ bytes.size
  small : bytes.size + BlockCache.standardBlockSize ≤ Word.limit

/-- How a drive is opened on an image, and what is asked of it before it is closed. -/
structure Session where
  backend : BackendChoice
  modify : Bool
  requests : List Request

namespace Session

def config (s : Session) (path : String) : DriveConfig := ⟨path, s.backend, s.modify⟩

def kind (s : Session) : DriveKind :=
  match s.backend with
  | .auto | .file => .file
  | .ram => .ram

def keepsWrites (s : Session) : Bool := s.kind = .file && s.modify

def keptWrites (size : Nat) (s : Session) : List (Nat × Bytes) :=
  if s.keepsWrites then s.requests.filterMap (Request.written? size) else []

/-- The host when the drive is closed. What cannot be opened leaves the host alone. -/
def close (s : Session) (path : String) (host : Host) : Host :=
  match Drive.ofConfig host (s.config path) with
  | .error _ => host
  | .ok drive => (Request.serveAll drive { host } s.requests).2.2.host

def closeAll (path : String) (host : Host) (sessions : List Session) : Host :=
  sessions.foldl (fun host s => s.close path host) host

structure Opens (s : Session) (path : String) (host : Host) (bytes : Bytes) (drive : Drive Storage) :
    Prop where
  opened : Drive.ofConfig host (s.config path) = .ok drive
  kind_eq : drive.kind = s.kind
  modifies_eq : drive.modifiesBackingStore = s.keepsWrites
  answers : drive.AnswersAs host bytes

end Session

theorem BlockCache.exists_create {size : Nat} (room : size + standardBlockSize ≤ Word.limit) :
    ∃ cache, create size standardBlockSize = .ok cache := by
  refine ⟨_, create_eq_ok.mpr ⟨by decide, by decide, ?_, rfl⟩⟩
  rw [Nat.div_lt_iff_lt_mul (by decide)]
  simp only [Word.limit, standardBlockSize, tableLimit] at *
  omega

namespace Host.HoldsImage

variable {host : Host} {path : String} {bytes : Bytes}

theorem exists_file (holds : host.HoldsImage path bytes) :
    ∃ id, host.openFile path = .ok id ∧ (host.content id).toBytes = bytes ∧
      sectorSize ≤ (host.content id).size := by
  have large := holds.large
  obtain ⟨content, found, same⟩ := map_eq_ok.mp holds.found
  obtain ⟨id, opened, rfl⟩ := map_eq_ok.mp found
  rw [← same, SparseBytes.size_toBytes] at large
  exact ⟨id, opened, same, large⟩

theorem path_nonempty (holds : host.HoldsImage path bytes) : path.isEmpty = false := by
  obtain ⟨id, opened, -⟩ := holds.exists_file
  cases empty : path.isEmpty with
  | false => rfl
  | true =>
    have missing : ∃ e, host.resolve path = .error e := by
      simp only [resolve, empty, if_true]
      split <;> exact ⟨_, rfl⟩
    obtain ⟨e, missing⟩ := missing
    rw [openFile, inspect, missing] at opened
    cases opened

theorem setContent (holds : host.HoldsImage path bytes) {id : Nat}
    (opened : host.openFile path = .ok id) (inside : id < host.contents.size)
    {content : SparseBytes} (size : content.toBytes.size = bytes.size) :
    (host.setContent id content).HoldsImage path content.toBytes where
  raw := by rw [detect_setContent, holds.raw]
  found := by
    rw [fileBytes, fileContent, openFile_setContent, opened]
    simp only [Except.map, content_setContent inside]
  large := by rw [size]; exact holds.large
  small := by rw [size]; exact holds.small

theorem cache_created (holds : host.HoldsImage path bytes) :
    ∃ cache, BlockCache.create bytes.size BlockCache.standardBlockSize = .ok cache :=
  BlockCache.exists_create holds.small

end Host.HoldsImage

namespace Session

variable {host : Host} {path : String} {bytes : Bytes}

theorem shows_close {Shows : Storage → Host → Bytes → Prop} {s : Session} {drive : Drive Storage}
    (refines : Refines Shows) (shows_ : Shows drive.backend host bytes)
    (opened : Drive.ofConfig host (s.config path) = .ok drive) :
    ∃ b, Shows b (s.close path host)
      (bytes.overlay (s.requests.filterMap (Request.written? bytes.size))) := by
  obtain ⟨b, host', shows', run⟩ := refines.serveAll_drive ⟨bytes, { }⟩ shows_ s.requests
  rw [FlatDisk.bytes_serveAll] at shows'
  refine ⟨b, ?_⟩
  rw [close, opened]
  simp only [run]
  exact shows'

theorem size_overlay_written (bytes : Bytes) (requests : List Request) :
    (bytes.overlay (requests.filterMap (Request.written? bytes.size))).size = bytes.size := by
  rw [← FlatDisk.bytes_serveAll ⟨bytes, { }⟩, FlatDisk.size_serveAll]

theorem size_overlay_kept (bytes : Bytes) (s : Session) :
    (bytes.overlay (s.keptWrites bytes.size)).size = bytes.size := by
  unfold keptWrites
  split
  · exact size_overlay_written bytes s.requests
  · rfl

theorem ofConfig_file (holds : host.HoldsImage path bytes) {s : Session} (file : s.kind = .file)
    {id : Nat} (opened : host.openFile path = .ok id) {cache : BlockCache}
    (created : BlockCache.create (host.content id).size BlockCache.standardBlockSize = .ok cache)
    (large : sectorSize ≤ (host.content id).size) :
    Drive.ofConfig host (s.config path) =
      .ok ⟨.file { file := id, size := (host.content id).size, raw := s.modify, cache }, .file,
        Geometry.ofCapacity (host.content id).size, s.modify⟩ := by
  have nonempty : 0 < (host.content id).size := Nat.lt_of_lt_of_le (by decide) large
  have open_file : FileImage.ofPath host path s.modify = _ :=
    FileImage.ofPathWith_eq opened nonempty created s.modify
  obtain ⟨backend, modify, requests⟩ := s
  cases backend with
  | ram => cases file
  | auto | file =>
    simp only [Drive.ofConfig, config, DriveConfig.validate, holds.path_nonempty, holds.raw, bind,
      Except.bind, open_file]
    exact Drive.ofBackend_eq large .file modify

theorem ofConfig_ram (holds : host.HoldsImage path bytes) {s : Session} (ram : s.kind = .ram)
    {id : Nat} (opened : host.openFile path = .ok id) (large : sectorSize ≤ (host.content id).size) :
    Drive.ofConfig host (s.config path) =
      .ok ⟨.ram ⟨host.content id⟩, .ram, Geometry.ofCapacity (host.content id).size, false⟩ := by
  have nonempty : 0 < (host.content id).size := Nat.lt_of_lt_of_le (by decide) large
  have found : host.fileContent path = .ok (host.content id) := by
    rw [Host.fileContent, opened, Except.map]
  have open_ram := RamImage.ofPath_eq found nonempty
  obtain ⟨backend, modify, requests⟩ := s
  cases backend with
  | ram =>
    simp only [Drive.ofConfig, config, DriveConfig.validate, holds.path_nonempty, holds.raw, bind,
      Except.bind, open_ram]
    exact Drive.ofBackend_eq large .ram false
  | auto | file => cases ram

/-- One session: it starts from what the file holds and leaves the writes it keeps. -/
structure Serves (s : Session) (path : String) (host : Host) (bytes : Bytes) : Prop where
  opens : ∃ drive, s.Opens path host bytes drive
  closes : (s.close path host).HoldsImage path (bytes.overlay (s.keptWrites bytes.size))

theorem serves_of_unchanged (holds : host.HoldsImage path bytes) {s : Session}
    {drive : Drive Storage} (opens : s.Opens path host bytes drive) (forgets : s.keepsWrites = false)
    (unchanged : s.close path host = host) : s.Serves path host bytes where
  opens := ⟨drive, opens⟩
  closes := by
    rw [unchanged, keptWrites, forgets]
    exact holds

theorem serves_raw (holds : host.HoldsImage path bytes) {s : Session} (file : s.kind = .file)
    (modify : s.modify = true) : s.Serves path host bytes := by
  obtain ⟨id, opened, rfl, large⟩ := holds.exists_file
  obtain ⟨cache, created⟩ := holds.cache_created
  rw [SparseBytes.size_toBytes] at created
  have keeps : s.keepsWrites = true := by simp [keepsWrites, file, modify]
  have drive := ofConfig_file holds file opened created large
  rw [modify] at drive
  have refines := Storage.wraps_file.refines (FileImage.sectorWise_raw host id).refines
  have shows_ := FileImage.rawShows_new cache (Nat.lt_of_lt_of_le (by decide) large)
  refine ⟨⟨_, drive, file.symm, keeps.symm,
    Drive.answersAs_of_refines refines ⟨_, rfl, shows_⟩⟩, ?_⟩
  obtain ⟨_, f, -, shown⟩ := shows_close refines ⟨_, rfl, shows_⟩ drive
  obtain ⟨-, -, -, inside, content, same, changed⟩ := shown
  have size := size_overlay_written (host.content id).toBytes s.requests
  rw [← same] at size
  rw [keptWrites, keeps, if_pos rfl, changed, ← same]
  exact holds.setContent opened inside size

theorem serves_cached (holds : host.HoldsImage path bytes) {s : Session} (file : s.kind = .file)
    (modify : s.modify = false) : s.Serves path host bytes := by
  obtain ⟨id, opened, rfl, large⟩ := holds.exists_file
  obtain ⟨cache, created⟩ := holds.cache_created
  rw [SparseBytes.size_toBytes] at created
  have forgets : s.keepsWrites = false := by simp [keepsWrites, modify]
  have drive := ofConfig_file holds file opened created large
  rw [modify] at drive
  have refines := Storage.wraps_file.refines (FileImage.sectorWise_cached host).refines
  have shows_ := FileImage.cachedShows_new created (by decide)
  obtain ⟨_, f, -, shown⟩ := shows_close refines ⟨_, rfl, shows_⟩ drive
  exact serves_of_unchanged holds ⟨drive, file.symm, forgets.symm,
    Drive.answersAs_of_refines refines ⟨_, rfl, shows_⟩⟩ forgets shown.host_eq

theorem serves_ram (holds : host.HoldsImage path bytes) {s : Session} (ram : s.kind = .ram) :
    s.Serves path host bytes := by
  obtain ⟨id, opened, rfl, large⟩ := holds.exists_file
  have forgets : s.keepsWrites = false := by simp [keepsWrites, ram]
  have drive := ofConfig_ram holds ram opened large
  have refines := Storage.wraps_ram.refines (RamImage.refines_ram host)
  have shows_ : RamImage.RamShows host ⟨host.content id⟩ host (host.content id).toBytes := ⟨rfl, rfl⟩
  obtain ⟨_, r, -, shown⟩ := shows_close refines ⟨_, rfl, shows_⟩ drive
  exact serves_of_unchanged holds ⟨drive, ram.symm, forgets.symm,
    Drive.answersAs_of_refines refines ⟨_, rfl, shows_⟩⟩ forgets shown.1

theorem serves (holds : host.HoldsImage path bytes) (s : Session) : s.Serves path host bytes := by
  cases backend : s.backend with
  | auto | file =>
    have file : s.kind = .file := by simp only [kind, backend]
    cases modify : s.modify with
    | true => exact serves_raw holds file modify
    | false => exact serves_cached holds file modify
  | ram => exact serves_ram holds (by simp only [kind, backend])

theorem holdsImage_closeAll (holds : host.HoldsImage path bytes) (sessions : List Session) :
    (closeAll path host sessions).HoldsImage path
      (bytes.overlay (sessions.flatMap (keptWrites bytes.size))) ∧
    (bytes.overlay (sessions.flatMap (keptWrites bytes.size))).size = bytes.size := by
  induction sessions generalizing host bytes with
  | nil => exact ⟨holds, rfl⟩
  | cons s rest ih =>
    -- The next session starts from an image of the same length, so it takes writes by the same rule.
    have size := size_overlay_kept bytes s
    have later := ih (serves holds s).closes
    rw [size, ← Bytes.overlay_append] at later
    exact later

/-- Whatever sessions are held on an image file, it keeps its length and ends with the writes of the
sessions on the file itself laid over it, in order. -/
theorem file_after_sessions (holds : host.HoldsImage path bytes) (sessions : List Session) :
    (closeAll path host sessions).fileBytes path =
      .ok (bytes.overlay (sessions.flatMap (keptWrites bytes.size))) ∧
    (bytes.overlay (sessions.flatMap (keptWrites bytes.size))).size = bytes.size ∧
    ∀ (before after : List Session) (s : Session), sessions = before ++ s :: after →
      ∃ (found : Bytes) (drive : Drive Storage),
        (closeAll path host before).fileBytes path = .ok found ∧ found.size = bytes.size ∧
        s.Opens path (closeAll path host before) found drive := by
  obtain ⟨last, size⟩ := holdsImage_closeAll holds sessions
  refine ⟨last.found, size, ?_⟩
  intro before after s _
  obtain ⟨at_opening, same⟩ := holdsImage_closeAll holds before
  obtain ⟨drive, opens⟩ := (serves at_opening s).opens
  exact ⟨_, drive, at_opening.found, same, opens⟩

/-- Of three writes, to the file, to the cache and to memory, the first alone is in the file. -/
theorem disk_after_sessions :
    let bytes := Bytes.fill 0 1024
    let host : Host := ⟨[], [(["disk"], .file 0)], #[.ofBytes bytes]⟩
    let data := Bytes.fill 1 512
    let sessions : List Session := [⟨.file, true, [.write 512 data .silent]⟩,
      ⟨.auto, false, [.write 0 data .silent]⟩, ⟨.ram, true, [.write 0 data .silent]⟩]
    host.HoldsImage "disk" bytes ∧
      (closeAll "disk" host sessions).fileBytes "disk" = .ok (bytes.patch 512 data) := by
  intro bytes host data sessions
  have bytes_size : bytes.size = 1024 := Bytes.size_fill 0 1024
  have data_size : data.size = 512 := Bytes.size_fill 1 512
  have holds : host.HoldsImage "disk" bytes :=
    { raw := rfl
      found := congrArg Except.ok (SparseBytes.toBytes_ofBytes bytes)
      large := by rw [bytes_size]; decide
      small := by rw [bytes_size]; decide }
  have fits : Fits 512 data.size bytes.size := by rw [bytes_size, data_size]; decide
  have kept : sessions.flatMap (keptWrites bytes.size) = [(512, data)] := by
    simp [sessions, keptWrites, keepsWrites, kind, Request.written?, fits]
  have after := (file_after_sessions holds sessions).1
  rw [kept] at after
  exact ⟨holds, after⟩

end Session

end DiskImage
