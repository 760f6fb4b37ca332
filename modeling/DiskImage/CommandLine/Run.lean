import DiskImage.CommandLine.Command
import DiskImage.CommandLine.Span
import DiskImage.Config.Reader
import DiskImage.Drive
import DiskImage.HexDump
import DiskImage.Segment

/-! What the commands do: the text they print, how they end, and the host's files afterwards. Only a
write through to the image changes a file. -/
namespace DiskImage.CommandLine

/-- Why a command fails: texts from the outermost cause inwards, or a halt of the drive. -/
inductive Failure
  | causes (texts : List String)
  | halted (halt : Halt)
  deriving DecidableEq, Repr

def Failure.ofError (e : ImageError) : Failure := .causes e.chain

def Failure.within (context : String) (e : ImageError) : Failure := .causes (context :: e.chain)

def Failure.ofHalt : Halt → Failure
  | .error e => .ofError e
  | halt => .halted halt

def Failure.ofSpan : SpanFault → Failure
  | .arithmetic fault => .halted (.panic (.arithmetic fault))
  | fault => .causes [fault.message]

def Failure.ofArithmetic (fault : ArithmeticFault) : Failure := .halted (.panic (.arithmetic fault))

def DriveArgs.resolve (args : DriveArgs) (host : Host) : Except Failure DriveConfig := do
  let config ←
    match args.config, args.image with
    | some path, _ =>
      (DriveConfig.ofFile host path).mapError (.within ("load drive config " ++ path))
    | none, some image => .ok { path := image }
    | none, none => .error (.causes ["either an image path or --config is required"])
  return { config with
    backend := if args.ram then .ram else config.backend
    modifyBackingFile := args.writeThrough || config.modifyBackingFile }

def DriveArgs.openDrive (args : DriveArgs) (host : Host) :
    Except Failure (DriveConfig × Drive Storage) := do
  let config ← args.resolve host
  let drive ← (Drive.ofConfig host config).mapError (.within ("open " ++ config.path))
  return (config, drive)

def infoText (config : DriveConfig) (drive : Drive Storage) : String :=
  let g := drive.geometry
  s!"path:      {config.path}\n"
    ++ s!"backend:   {drive.kind.title}\n"
    ++ s!"capacity:  {Nat.repr drive.capacity} bytes\n"
    ++ s!"sectors:   {Nat.repr g.sectors}\n"
    ++ s!"geometry:  C={Nat.repr g.cylinders} H={Nat.repr g.heads} S={Nat.repr g.sectorsPerTrack}\n"

def infoJson (host : Host) (config : DriveConfig) (drive : Drive Storage) : String :=
  String.ofList (Json.prettyObject 0
    [("path", Json.string config.path),
      ("kind", Json.string (ImageKind.detect host config.path).name),
      ("backend", Json.string drive.kind.name),
      ("capacityBytes", Json.number drive.capacity),
      ("modifiesBackingStore", Json.boolean drive.modifiesBackingStore),
      ("geometry", Json.prettyObject 1 drive.geometry.members)]) ++ "\n"

def detectText (host : Host) (path : String) : String :=
  let kind := ImageKind.detect host path
  let code := match kind.code with
    | .ofNat n => Nat.repr n
    | .negSucc n => "-" ++ Nat.repr n.succ
  s!"{path}: {kind.title} ({code})\n"

def segmentsText (layout : SegmentedLayout) : String :=
  let paths := layout.paths.zipIdx.map fun (path, i) => s!"path[{Nat.repr i}]:     {path}\n"
  s!"size:        {Nat.repr layout.info.size.toNat} bytes\n"
    ++ s!"block size:  {Nat.repr layout.info.blockSize.toNat} bytes\n"
    ++ s!"blocks:      {Nat.repr layout.blockCount}\n"
    ++ String.join paths

def info (host : Host) (args : DriveArgs) (json : Bool) : Except Failure String := do
  let (config, drive) ← args.openDrive host
  return if json then infoJson host config drive else infoText config drive

def segments (host : Host) (dir : String) : Except Failure String := do
  let layout ← (SegmentedLayout.load host dir).mapError (.within ("load layout " ++ dir))
  return segmentsText layout

def DriveArgs.openSpan (args : DriveArgs) (host : Host) (lba count : Nat) :
    Except Failure (Drive Storage × Nat × Nat) := do
  let (_, drive) ← args.openDrive host
  let (offset, len) ← (checkSpan drive.totalSectors lba count).mapError .ofSpan
  return (drive, offset, len)

def read (host : Host) (args : DriveArgs) (lba count : Nat) : Except Failure String × Host :=
  match args.openSpan host lba count with
  | .error failure => (.error failure, host)
  | .ok (drive, offset, len) =>
    match drive.read { host } offset len .silent with
    | ⟨.error halt, (_, world)⟩ => (.error (.ofHalt halt), world.host)
    | ⟨.ok .pending, (_, world)⟩ =>
      (.error (.causes ["backend did not complete the read synchronously"]), world.host)
    | ⟨.ok (.finished bytes), (_, world)⟩ =>
      ((HexDump.dump offset bytes).mapError .ofArithmetic, world.host)

def Failure.ofFlush : Halt → Failure
  | .error e => .within "flush drive" e
  | halt => .halted halt

/-- Writes `data`, flushes, and checks that it reads back; also gives the files as they are then. -/
def store (drive : Drive Storage) (world : World) (offset : Nat) (data : Bytes) :
    Except Failure Unit × Host :=
  match drive.write world offset data .silent with
  | ⟨.error halt, (_, world)⟩ => (.error (.ofHalt halt), world.host)
  | ⟨.ok _, (drive, world)⟩ =>
    match Backend.flush drive world with
    | ⟨.error halt, (_, world)⟩ => (.error (.ofFlush halt), world.host)
    | ⟨.ok (), (drive, world)⟩ =>
      match drive.read world offset data.size .silent with
      | ⟨.error halt, (_, world)⟩ => (.error (.ofHalt halt), world.host)
      | ⟨.ok reply, (_, world)⟩ =>
        let back := match reply with
          | .finished bytes => bytes
          | .pending => Bytes.fill 0 data.size
        if back.data = data.data then (.ok (), world.host)
        else (.error (.causes ["read-back mismatch after write"]), world.host)

def writtenText (lba : Nat) (byte : UInt8) (count : Nat) (persisted : Bool) : String :=
  let value := String.ofList (Text.hexByte byte)
  let reach := if persisted then "persisted" else "session only"
  s!"wrote {Nat.repr count} sector(s) of 0x{value} at lba {Nat.repr lba} ({reach})\n"

def write (host : Host) (args : DriveArgs) (lba : Nat) (byte : UInt8) (count : Nat) :
    Except Failure String × Host :=
  match args.openSpan host lba count with
  | .error failure => (.error failure, host)
  | .ok (drive, offset, len) =>
    let (result, host) := store drive { host } offset (Bytes.fill byte len)
    (result.map fun () => writtenText lba byte count drive.modifiesBackingStore, host)

def run (host : Host) : Command → Except Failure String × Host
  | .info drive json => (info host drive json, host)
  | .detect path => (.ok (detectText host path), host)
  | .read drive lba count => read host drive lba count
  | .write drive lba byte count => write host drive lba byte count
  | .segments dir => (segments host dir, host)

end DiskImage.CommandLine
