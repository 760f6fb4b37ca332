import DiskImage.Proofs.Config
import DiskImage.Proofs.Opening
import DiskImage.Proofs.Sessions

/-! Whether a drive opens. The path and what stands there decide alone, and name the error; the backend
and the flag choose only what kind of drive it becomes. -/
namespace DiskImage

namespace Path

def IsNetwork (path : String) : Prop :=
  "http://".toList <:+: path.toList ∨ "https://".toList <:+: path.toList

theorem containsChars_iff {pattern : List Char} (text : List Char) :
    containsChars pattern text = true ↔ pattern <:+: text := by
  induction text with
  | nil => simp [containsChars]
  | cons c rest ih => simp [containsChars, List.infix_cons_iff, ih]

theorem isNetwork_iff {path : String} :
    IsNetwork path ↔ contains path "http://" = true ∨ contains path "https://" = true := by
  simp only [IsNetwork, contains, containsChars_iff]

instance (path : String) : Decidable (IsNetwork path) := decidable_of_iff' _ isNetwork_iff

end Path

namespace Host

/-- The file at `path`, if a drive can be opened on it, or else the error that opening ends with. -/
def openable (host : Host) (path : String) : Except ImageError Nat :=
  if path = "" then .error (.invalidConfig "drive path must not be empty")
  else if Path.IsNetwork path then .error (.unsupported "network images")
  else
    match host.inspect path with
    | .ok .directory => .error (.unsupported "segmented images")
    | .error e => .error (.io e)
    | .ok (.file id) =>
      if (host.content id).size < sectorSize then .error .emptyImage else .ok id

/-- A file at `path` is not so long that the table of a cache over it could not be allocated. -/
def HasRoom (host : Host) (path : String) : Prop :=
  ∀ id, host.inspect path = .ok (.file id) →
    (host.content id).size + BlockCache.standardBlockSize ≤ Word.limit

end Host

theorem ImageKind.detect_of_network {path : String} (host : Host) (network : Path.IsNetwork path) :
    detect host path = .url :=
  if_pos (Path.isNetwork_iff.mp network)

theorem ImageKind.detect_of_local {path : String} (host : Host) (local_ : ¬ Path.IsNetwork path) :
    detect host path =
      match host.inspect path with
      | .ok .directory => .segmented
      | .ok (.file _) => .raw
      | .error _ => .missing :=
  if_neg (mt Path.isNetwork_iff.mpr local_)

namespace Session

theorem close_of_no_requests {s : Session} (idle : s.requests = []) (path : String) (host : Host) :
    s.close path host = host := by
  unfold close
  split
  · rfl
  · rw [idle]
    rfl

theorem closeAll_of_no_requests {sessions : List Session} (idle : ∀ s ∈ sessions, s.requests = [])
    (path : String) (host : Host) : closeAll path host sessions = host := by
  induction sessions with
  | nil => rfl
  | cons s rest ih =>
    rw [closeAll, List.foldl_cons, close_of_no_requests (idle s List.mem_cons_self)]
    exact ih fun s member => idle s (List.mem_cons_of_mem _ member)

end Session

namespace Drive

variable {host : Host} {config : DriveConfig}

def openStorage (host : Host) (config : DriveConfig) : Except ImageError (Drive Storage) :=
  match config.backend with
  | .auto | .file => do
    let image ← FileImage.ofPath host config.path config.modifyBackingFile
    ofBackend (.file image) .file config.modifyBackingFile
  | .ram => do
    let image ← RamImage.ofPath host config.path
    ofBackend (.ram image) .ram false

section Detection

theorem ofConfig_of_no_path (unnamed : config.path = "") :
    ofConfig host config = .error (.invalidConfig "drive path must not be empty") := by
  rw [ofConfig, DriveConfig.validate_of_no_path unnamed]
  rfl

theorem ofConfig_of_kind (named : config.path ≠ "") : ofConfig host config =
    match ImageKind.detect host config.path with
    | .url => .error (.unsupported "network images")
    | .segmented => .error (.unsupported "segmented images")
    | .raw | .missing => openStorage host config := by
  rw [ofConfig, DriveConfig.validate_of_path named, ok_bind]
  cases ImageKind.detect host config.path <;> rfl

end Detection

section Storage

theorem openStorage_of_error {e : IoError} (missing : host.openFile config.path = .error e) :
    openStorage host config = .error (.io e) := by
  have no_content : host.fileContent config.path = .error e := by
    rw [Host.fileContent, missing, Except.map]
  unfold openStorage
  cases config.backend with
  | auto | file => simp [FileImage.ofPath, FileImage.ofPathWith, missing, bind, Except.bind]
  | ram => simp [RamImage.ofPath, no_content, bind, Except.bind]

variable {id : Nat}

theorem ofBackend_of_small {β : Type} [Backend β] {backend : β}
    (small : Backend.capacity backend < sectorSize) (kind : DriveKind) (modifies : Bool) :
    ofBackend backend kind modifies = .error .emptyImage :=
  if_pos small

theorem openStorage_of_small (found : host.openFile config.path = .ok id)
    (small : (host.content id).size < sectorSize) :
    openStorage host config = .error .emptyImage := by
  have content : host.fileContent config.path = .ok (host.content id) := by
    rw [Host.fileContent, found, Except.map]
  have room : (host.content id).size + BlockCache.standardBlockSize ≤ Word.limit :=
    Nat.le_trans (Nat.add_le_add_right (Nat.le_of_lt small) _) (by decide)
  obtain ⟨cache, created⟩ := BlockCache.exists_create room
  unfold openStorage
  by_cases empty : (host.content id).size = 0
  · cases config.backend with
    | auto | file =>
      rw [FileImage.ofPath, FileImage.ofPathWith, found, mapError_ok, ok_bind, if_pos empty]
      rfl
    | ram =>
      simp [RamImage.ofPath, RamImage.ofBytes, content, empty, bind, Except.bind]
  · have nonempty := Nat.pos_of_ne_zero empty
    cases config.backend with
    | auto | file =>
      rw [FileImage.ofPath, FileImage.ofPathWith_eq found nonempty created, ok_bind]
      exact ofBackend_of_small small _ _
    | ram =>
      rw [RamImage.ofPath_eq content nonempty, ok_bind]
      exact ofBackend_of_small small _ _

theorem openStorage_of_large (found : host.openFile config.path = .ok id)
    (large : sectorSize ≤ (host.content id).size)
    (room : (host.content id).size + BlockCache.standardBlockSize ≤ Word.limit) :
    ∃ drive, openStorage host config = .ok drive ∧ Opened host config id drive := by
  have content : host.fileContent config.path = .ok (host.content id) := by
    rw [Host.fileContent, found, Except.map]
  have nonempty : 0 < (host.content id).size := Nat.lt_of_lt_of_le (by decide) large
  obtain ⟨cache, created⟩ := BlockCache.exists_create room
  unfold openStorage
  cases choice : config.backend with
  | auto | file =>
    refine ⟨_, ?_, .onFile (by simp [choice]) large created⟩
    rw [FileImage.ofPath, FileImage.ofPathWith_eq found nonempty created, ok_bind]
    exact ofBackend_eq large _ _
  | ram =>
    refine ⟨_, ?_, .inMemory choice large⟩
    rw [RamImage.ofPath_eq content nonempty, ok_bind]
    exact ofBackend_eq large _ _

end Storage

section Verdict

theorem ofConfig_of_not_openable {e : ImageError} (refused : host.openable config.path = .error e) :
    ofConfig host config = .error e := by
  unfold Host.openable at refused
  split at refused
  · next unnamed =>
    cases refused
    exact ofConfig_of_no_path unnamed
  · next named =>
    rw [ofConfig_of_kind named]
    split at refused
    · next network =>
      cases refused
      rw [ImageKind.detect_of_network host network]
    · next local_ =>
      rw [ImageKind.detect_of_local host local_]
      split at refused
      · next directory =>
        cases refused
        rw [directory]
      · next missing =>
        cases refused
        rw [missing]
        exact openStorage_of_error (by rw [Host.openFile, missing])
      · next id file =>
        rw [file]
        split at refused
        · next small =>
          cases refused
          exact openStorage_of_small (by rw [Host.openFile, file]) small
        · cases refused

theorem raw_of_openable {id : Nat} (accepted : host.openable config.path = .ok id) :
    config.path ≠ "" ∧ ImageKind.detect host config.path = .raw ∧
      host.inspect config.path = .ok (.file id) ∧ sectorSize ≤ (host.content id).size := by
  unfold Host.openable at accepted
  split at accepted
  · cases accepted
  · next named =>
    split at accepted
    · cases accepted
    · next local_ =>
      rw [ImageKind.detect_of_local host local_]
      split at accepted
      · cases accepted
      · cases accepted
      · next file =>
        split at accepted
        · cases accepted
        · next large =>
          cases accepted
          rw [file]
          exact ⟨named, rfl, rfl, Nat.le_of_not_lt large⟩

theorem exists_ofConfig_of_openable {id : Nat} (accepted : host.openable config.path = .ok id)
    (room : host.HasRoom config.path) :
    ∃ drive, ofConfig host config = .ok drive ∧ Opened host config id drive := by
  obtain ⟨named, raw, file, large⟩ := raw_of_openable accepted
  rw [ofConfig_of_kind named, raw]
  exact openStorage_of_large (by rw [Host.openFile, file]) large (room id file)

theorem ofConfig_eq_error_iff (room : host.HasRoom config.path) {e : ImageError} :
    ofConfig host config = .error e ↔ host.openable config.path = .error e := by
  refine ⟨fun failed => ?_, ofConfig_of_not_openable⟩
  cases verdict : host.openable config.path with
  | error e' =>
    cases (ofConfig_of_not_openable verdict).symm.trans failed
    rfl
  | ok id =>
    obtain ⟨drive, opened, -⟩ := exists_ofConfig_of_openable verdict room
    cases opened.symm.trans failed

end Verdict

structure MadeFor (drive : Drive Storage) (host : Host) (config : DriveConfig) (id : Nat) : Prop where
  capacity : drive.capacity = (host.content id).size
  geometry : drive.geometry = Geometry.ofCapacity (host.content id).size
  kind : drive.kind = if config.backend = .ram then .ram else .file
  modifies : drive.modifiesBackingStore = true ↔
    config.modifyBackingFile = true ∧ drive.kind = .file

theorem Opened.madeFor {id : Nat} {drive : Drive Storage} (opened : Opened host config id drive) :
    drive.MadeFor host config id := by
  cases opened with
  | onFile choice large created => exact ⟨rfl, rfl, (if_neg choice).symm, by simp⟩
  | inMemory choice large => exact ⟨rfl, rfl, (if_pos choice).symm, by simp⟩

/-- A drive opens just if the path names a file of a sector at least. Backend and flag choose what
drive it is, never whether it opens. -/
theorem opening_decided_by_path (room : host.HasRoom config.path) :
    (∀ e, host.openable config.path = .error e → ofConfig host config = .error e) ∧
    (∀ id, host.openable config.path = .ok id →
      ∃ drive, ofConfig host config = .ok drive ∧ drive.MadeFor host config id) ∧
    (∀ other : DriveConfig, other.path = config.path → ∀ e,
      ofConfig host other = .error e ↔ ofConfig host config = .error e) ∧
    (∀ drive, ofConfig host config = .ok drive → ImageKind.detect host config.path = .raw) ∧
    ∀ sessions : List Session, (∀ s ∈ sessions, s.requests = []) →
      Session.closeAll config.path host sessions = host := by
  refine ⟨fun e => ofConfig_of_not_openable, fun id accepted => ?_, fun other same e => ?_,
    fun drive opened => ?_, fun sessions idle => Session.closeAll_of_no_requests idle _ _⟩
  · obtain ⟨drive, opened, made⟩ := exists_ofConfig_of_openable accepted room
    exact ⟨drive, opened, made.madeFor⟩
  · rw [ofConfig_eq_error_iff (by rwa [same]), same, ofConfig_eq_error_iff room]
  · cases verdict : host.openable config.path with
    | error e => cases (ofConfig_of_not_openable verdict).symm.trans opened
    | ok id => exact (raw_of_openable verdict).2.1

theorem one_of_three_opens :
    let host : Host := ⟨[], [(["disk"], .file 0), (["stub"], .file 1), (["dir"], .directory)],
      #[.zeros 1024, .zeros 511]⟩
    let config (path : String) : DriveConfig := ⟨path, .ram, true⟩
    (∃ drive, ofConfig host (config "disk") = .ok drive ∧ drive.MadeFor host (config "disk") 0) ∧
      ofConfig host (config "stub") = .error .emptyImage ∧
      ofConfig host (config "dir") = .error (.unsupported "segmented images") ∧
      ofConfig host (config "http://disk") = .error (.unsupported "network images") ∧
      ofConfig host (config "none") = .error (.io .notFound) := by
  intro host config
  have room (path : String) : host.HasRoom (config path).path := by
    rintro (_ | _ | id) _
    · decide
    · decide
    · simp [host, Host.content, SparseBytes.zeros, BlockCache.standardBlockSize, Word.limit]
  have verdict (path : String) := opening_decided_by_path (room path)
  have disk : host.openable "disk" = .ok 0 := rfl
  have stub : host.openable "stub" = .error .emptyImage := rfl
  have dir : host.openable "dir" = .error (.unsupported "segmented images") := rfl
  have network : host.openable "http://disk" = .error (.unsupported "network images") := rfl
  have none_there : host.openable "none" = .error (.io .notFound) := rfl
  exact ⟨(verdict "disk").2.1 0 disk, (verdict "stub").1 _ stub, (verdict "dir").1 _ dir,
    (verdict "http://disk").1 _ network, (verdict "none").1 _ none_there⟩

end Drive

end DiskImage
