import DiskImage.Backend.Storage
import DiskImage.Config.Basic
import DiskImage.Geometry
import DiskImage.ImageKind

/-! An emulated disk over a backend. Transfers are checked before they reach the backend; a request
that breaks a rule or that the medium cannot carry out stops the program. Hints, saving and flushing
are passed on as they are. -/
namespace DiskImage

inductive DriveKind
  | file
  | ram
  | external
  deriving DecidableEq, Repr

def DriveKind.name : DriveKind → String
  | file => "file"
  | ram => "ram"
  | external => "external"

def DriveKind.title : DriveKind → String
  | file => "File"
  | ram => "Ram"
  | external => "External"

structure Drive (β : Type) where
  backend : β
  kind : DriveKind
  geometry : Geometry
  modifiesBackingStore : Bool

namespace Drive

section

variable {β : Type} [Backend β]

/-- The geometry is fixed by the capacity of this moment, which must be a sector at least. -/
def ofBackend (backend : β) (kind : DriveKind) (modifies : Bool) : Except ImageError (Drive β) :=
  let capacity := Backend.capacity backend
  if capacity < sectorSize then .error .emptyImage
  else .ok ⟨backend, kind, Geometry.ofCapacity capacity, modifies⟩

def withBackend (backend : β) (modifies : Bool) : Except ImageError (Drive β) :=
  ofBackend backend .external modifies

def capacity (d : Drive β) : Nat := Backend.capacity d.backend

end

def totalSectors {β : Type} (d : Drive β) : Nat := d.geometry.sectors

/-- Opens the image that `config` describes. An image in memory is never written back, whatever the
description asks for. -/
def ofConfig (host : Host) (config : DriveConfig) : Except ImageError (Drive Storage) := do
  config.validate
  match ImageKind.detect host config.path with
  | .url => throw (.unsupported "network images")
  | .segmented => throw (.unsupported "segmented images")
  | .raw | .missing =>
    match config.backend with
    | .auto | .file =>
      let image ← FileImage.ofPath host config.path config.modifyBackingFile
      ofBackend (.file image) .file config.modifyBackingFile
    | .ram =>
      let image ← RamImage.ofPath host config.path
      ofBackend (.ram image) .ram false

def escalate : Halt → Halt
  | .error e => if e.isFatal then .panic (.unrecoverable e) else .error e
  | halt => halt

section

variable {β : Type}

def passOn {α : Type} (d : Drive β) (outcome : Outcome (β × World) α) :
    Outcome (Drive β × World) α :=
  ⟨outcome.answer, ({ d with backend := outcome.state.1 }, outcome.state.2)⟩

def transfer {α : Type} (d : Drive β) (outcome : Outcome (β × World) α) :
    Outcome (Drive β × World) α :=
  d.passOn ⟨outcome.answer.mapError escalate, outcome.state⟩

variable [Backend β]

def read (d : Drive β) (w : World) (offset len : Nat) (c : Completion) :
    Outcome (Drive β × World) (Reply Bytes) :=
  match checkRequest offset len d.capacity with
  | .error e => ⟨.error (.panic (.unrecoverable e)), (d, w)⟩
  | .ok () => d.transfer (Backend.read d.backend w offset len c)

def write (d : Drive β) (w : World) (offset : Nat) (data : Bytes) (c : Completion) :
    Outcome (Drive β × World) (Reply Unit) :=
  match checkRequest offset data.size d.capacity with
  | .error e => ⟨.error (.panic (.unrecoverable e)), (d, w)⟩
  | .ok () => d.transfer (Backend.write d.backend w offset data c)

instance : Backend (Drive β) where
  capacity := capacity
  read := read
  write := write
  prefetch d w offset len c := d.passOn (Backend.prefetch d.backend w offset len c)
  saveState d w path := d.passOn (Backend.saveState d.backend w path)
  flush d w := d.passOn (Backend.flush d.backend w)

end

end Drive

end DiskImage
