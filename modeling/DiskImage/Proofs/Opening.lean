import DiskImage.Proofs.Agreement
import DiskImage.Proofs.FileImage.Kept
import DiskImage.Proofs.Wrappers

/-! Opening a drive from its description. The drive shows the bytes of the file that the description
names, and what is written through it reaches that file exactly if the description says so. -/
namespace DiskImage

/-- Whether what is written through the drive is to reach the file. -/
def DriveConfig.persists (config : DriveConfig) : Bool :=
  config.backend != .ram && config.modifyBackingFile

theorem DriveConfig.persists_iff {config : DriveConfig} :
    config.persists = true ↔ config.backend ≠ .ram ∧ config.modifyBackingFile = true := by
  rw [persists, Bool.and_eq_true, bne_iff_ne]

theorem DriveConfig.persists_eq_false_iff {config : DriveConfig} :
    config.persists = false ↔ config.backend = .ram ∨ config.modifyBackingFile = false := by
  rw [persists, Bool.and_eq_false_iff, bne_eq_false_iff_eq]

/-- Of all the host's files only the one numbered `id` may have changed, and it holds `bytes`. -/
structure Host.Changes (host after : Host) (id : Nat) (bytes : Bytes) : Prop where
  workingDirectory : after.workingDirectory = host.workingDirectory
  names : after.nodes = host.nodes
  count : after.contents.size = host.contents.size
  others : ∀ other, other ≠ id → after.content other = host.content other
  holds : (after.content id).toBytes = bytes

theorem Host.changes_setContent {host : Host} {id : Nat} (inside : id < host.contents.size)
    (content : SparseBytes) : host.Changes (host.setContent id content) id content.toBytes where
  workingDirectory := rfl
  names := rfl
  count := Array.size_setIfInBounds
  others other ne := by
    rw [Host.content, setContent, Array.getElem?_setIfInBounds_ne (Ne.symm ne), Host.content]
  holds := by rw [content_setContent inside]

theorem Refines.drive {β : Type} [Backend β] {Shows : β → Host → Bytes → Prop}
    (refines : Refines Shows) : Refines fun d : Drive β => Shows d.backend where
  capacity_eq := refines.capacity_eq
  read_eq {d host bytes offset len} tracker c shows_ fits := by
    have capacity : d.capacity = bytes.size := refines.capacity_eq shows_
    obtain ⟨b, host', shows', served⟩ := refines.read_eq tracker c shows_ fits
    refine ⟨{ d with backend := b }, host', shows', ?_⟩
    simp only [Backend.read, Drive.read, capacity, checkRequest_of_fits fits] at served ⊢
    rw [served]
    rfl
  write_eq {d host bytes offset data} tracker c shows_ fits := by
    have capacity : d.capacity = bytes.size := refines.capacity_eq shows_
    obtain ⟨b, host', shows', served⟩ := refines.write_eq tracker c shows_ fits
    refine ⟨{ d with backend := b }, host', shows', ?_⟩
    simp only [Backend.write, Drive.write, capacity, checkRequest_of_fits fits] at served ⊢
    rw [served]
    rfl
  prefetch_eq {d w bytes} offset len c shows_ := by
    have served := refines.prefetch_eq offset len c shows_
    simp only [Backend.prefetch] at served ⊢
    rw [served]
    rfl
  saveState_eq {d w bytes} path shows_ := by
    have served := refines.saveState_eq path shows_
    simp only [Backend.saveState] at served ⊢
    rw [served]
    rfl
  flush_eq {d w bytes} shows_ := by
    have served := refines.flush_eq shows_
    simp only [Backend.flush] at served ⊢
    rw [served]
    rfl

theorem RamImage.exists_of_ofPath {host : Host} {path : String} {r : RamImage}
    (opened : ofPath host path = .ok r) :
    ∃ id, host.openFile path = .ok id ∧ r = ⟨host.content id⟩ := by
  obtain ⟨bytes, found, made⟩ := bind_eq_ok.mp opened
  obtain ⟨id, named, rfl⟩ := map_eq_ok.mp (mapError_eq_ok.mp found)
  unfold ofBytes at made
  split at made
  · cases made
  · cases made
    exact ⟨id, named, rfl⟩

namespace Drive

theorem ofBackend_eq_ok {β : Type} [Backend β] {backend : β} {kind : DriveKind} {modifies : Bool}
    {drive : Drive β} : ofBackend backend kind modifies = .ok drive ↔
      sectorSize ≤ Backend.capacity backend ∧
        drive = ⟨backend, kind, Geometry.ofCapacity (Backend.capacity backend), modifies⟩ := by
  by_cases small : Backend.capacity backend < sectorSize
  · simp [ofBackend, small, Nat.not_le.mpr small]
  · simp [ofBackend, small, Nat.le_of_not_lt small, eq_comm]

/-- The two ways in which a drive is opened on the file that its description names. -/
inductive Opened (host : Host) (config : DriveConfig) (id : Nat) : Drive Storage → Prop
  | onFile {cache : BlockCache} (choice : config.backend ≠ .ram)
    (large : sectorSize ≤ (host.content id).size)
    (created : BlockCache.create (host.content id).size BlockCache.standardBlockSize = .ok cache) :
    Opened host config id ⟨.file ⟨id, (host.content id).size, config.modifyBackingFile, cache⟩, .file,
      Geometry.ofCapacity (host.content id).size, config.modifyBackingFile⟩
  | inMemory (choice : config.backend = .ram) (large : sectorSize ≤ (host.content id).size) :
    Opened host config id ⟨.ram ⟨host.content id⟩, .ram,
      Geometry.ofCapacity (host.content id).size, false⟩

section

variable {host : Host} {config : DriveConfig} {drive : Drive Storage}

theorem opened_of_file (choice : config.backend ≠ .ram)
    (opened : (FileImage.ofPath host config.path config.modifyBackingFile >>= fun image =>
      ofBackend (.file image) .file config.modifyBackingFile) = .ok drive) :
    ∃ id, host.openFile config.path = .ok id ∧ Opened host config id drive := by
  obtain ⟨image, found, made⟩ := bind_eq_ok.mp opened
  obtain ⟨id, cache, named, -, created, rfl⟩ := FileImage.exists_of_ofPathWith found
  obtain ⟨large, rfl⟩ := ofBackend_eq_ok.mp made
  exact ⟨id, named, .onFile choice large created⟩

theorem opened_of_ram (choice : config.backend = .ram)
    (opened : (RamImage.ofPath host config.path >>= fun image =>
      ofBackend (.ram image) .ram false) = .ok drive) :
    ∃ id, host.openFile config.path = .ok id ∧ Opened host config id drive := by
  obtain ⟨image, found, made⟩ := bind_eq_ok.mp opened
  obtain ⟨id, named, rfl⟩ := RamImage.exists_of_ofPath found
  obtain ⟨large, rfl⟩ := ofBackend_eq_ok.mp made
  exact ⟨id, named, .inMemory choice large⟩

theorem opened_of_ofConfig (opened : ofConfig host config = .ok drive) :
    ∃ id, host.openFile config.path = .ok id ∧ Opened host config id drive := by
  obtain ⟨_, -, opened⟩ := bind_eq_ok.mp opened
  cases kind : ImageKind.detect host config.path with
  | url | segmented =>
    rw [kind] at opened
    cases opened
  | raw | missing =>
    rw [kind] at opened
    cases choice : config.backend with
    | auto | file =>
      rw [choice] at opened
      exact opened_of_file (by simp [choice]) opened
    | ram =>
      rw [choice] at opened
      exact opened_of_ram choice opened

end

namespace Opened

variable {host : Host} {config : DriveConfig} {id : Nat} {drive : Drive Storage}

theorem totalSectors_eq (opened : Opened host config id drive) :
    drive.totalSectors = (host.content id).size / sectorSize := by
  cases opened <;> rfl

theorem modifies_eq (opened : Opened host config id drive) :
    drive.modifiesBackingStore = config.persists := by
  cases opened with
  | onFile choice => simp [DriveConfig.persists, choice]
  | inMemory choice => simp [DriveConfig.persists, choice]

theorem shows (opened : Opened host config id drive) :
    ∃ Shows : Storage → Host → Bytes → Prop, Refines Shows ∧
      Shows drive.backend host (host.content id).toBytes ∧
      ∀ (b : Storage) (after : Host) (bytes : Bytes), Shows b after bytes →
        if config.persists then host.Changes after id bytes else after = host := by
  rw [← opened.modifies_eq]
  cases opened with
  | @onFile cache choice large created =>
    cases modify : config.modifyBackingFile with
    | true =>
      have nonempty : 0 < (host.content id).size := Nat.lt_of_lt_of_le (by decide) large
      refine ⟨_, Storage.wraps_file.refines (FileImage.sectorWise_raw host id).refines,
        ⟨_, rfl, FileImage.rawShows_new cache nonempty⟩, ?_⟩
      rintro _ _ _ ⟨f, rfl, shown⟩
      obtain ⟨-, -, -, inside, content, rfl, rfl⟩ := shown
      exact Host.changes_setContent inside content
    | false =>
      refine ⟨_, Storage.wraps_file.refines (FileImage.sectorWise_cached host).refines,
        ⟨_, rfl, FileImage.cachedShows_new created (by decide)⟩, ?_⟩
      rintro _ _ _ ⟨f, rfl, shown⟩
      exact shown.host_eq
  | inMemory choice large =>
    refine ⟨_, Storage.wraps_ram.refines (RamImage.refines_ram host), ⟨_, rfl, rfl, rfl⟩, ?_⟩
    rintro _ _ _ ⟨r, rfl, shown⟩
    exact shown.1

theorem host_read (opened : Opened host config id drive) (w : World) (offset len : Nat)
    (c : Completion) : (drive.read w offset len c).state.2.host = w.host := by
  unfold Drive.read
  split
  · rfl
  · cases opened with
    | @onFile cache => exact FileImage.host_read ⟨id, _, _, cache⟩ w.host offset len
    | inMemory => rfl

end Opened

end Drive

end DiskImage
