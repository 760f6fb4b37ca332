import DiskImage.CommandLine.Arguments
import DiskImage.CommandLine.Run

/-! The program. The files that a command looks at are read before it runs and an image that it
changed is written back; everything between is `CommandLine.run`. -/
namespace DiskImage.CommandLine

def usage : String :=
  "Usage: disk-image <COMMAND>\n\nCommands:\n" ++
  "  info      [--json] <IMAGE>          size and geometry of an image\n" ++
  "  detect    <PATH>                    what a path names\n" ++
  "  read      [--lba N] [--count N] <IMAGE>\n" ++
  "  write     --lba N --byte B [--count N] <IMAGE>\n" ++
  "  segments  <DIR>                     layout of a segmented image\n\n" ++
  "Instead of <IMAGE>: --config <PATH>. Also: --ram, --write-through.\n"

def UsageError.message : UsageError → String
  | missingRequiredArgument => "a required argument is missing"
  | unknownArgument => "an argument is not expected here"
  | invalidSubcommand => "there is no such command"
  | invalidValue => "an option needs a value"
  | valueValidation => "a value cannot be read"
  | argumentConflict => "arguments exclude each other"
  | tooManyValues => "an option takes no value"
  | displayHelp | displayHelpOnMissingArgument => usage

def Failure.texts : Failure → List String
  | causes texts => texts
  | halted (.error e) => e.chain
  | halted (.panic p) => [p.message]
  | halted .stalled => ["every call on the medium is interrupted"]

def DriveArgs.paths (args : DriveArgs) (host : Host) : List String :=
  let image := match args.resolve host with
    | .ok config => [config.path]
    | .error _ => []
  args.config.toList ++ image

def Command.paths (command : Command) (host : Host) : List String :=
  match command with
  | info drive _ | read drive _ _ | write drive _ _ _ => drive.paths host
  | detect path => [path]
  | segments dir => [Path.join dir SegmentedLayout.infoFileName]

def leading (path : String) : List String :=
  let parts := Path.parts path
  (List.range parts.length).map fun n => String.intercalate "/" (parts.take (n + 1))

def loadPath (host : Host) (path : String) : IO Host := do
  try
    let found ← IO.FS.realPath path
    if ← found.isDir then return host.addDirectory (host.placeOf path)
    return host.addFile (host.placeOf path) (.ofBytes (← IO.FS.readBinFile path))
  catch _ => return host

def loadFor (command : Command) (host : Host) : IO Host :=
  (((command.paths host).map leading).flatten).foldlM loadPath host

def saveFor (command : Command) (before after : Host) : IO Unit :=
  (command.paths after).forM fun path =>
    match before.fileBytes path, after.fileBytes path with
    | .ok old, .ok new => if old.data = new.data then pure () else IO.FS.writeBinFile path new
    | _, _ => pure ()

def runOnFiles (command : Command) : IO UInt32 := do
  let directory := (Path.parts (← IO.currentDir).toString).filter fun part => ¬ part.isEmpty
  let host ← loadFor command (← loadFor command (Host.withWorkingDirectory directory))
  let (result, after) := run host command
  saveFor command host after
  match result with
  | .ok text => IO.print text; return 0
  | .error failure => IO.eprintln ("Error: " ++ ": ".intercalate failure.texts); return 1

end DiskImage.CommandLine

def main (args : List String) : IO UInt32 :=
  match DiskImage.CommandLine.parse args with
  | .ok command => DiskImage.CommandLine.runOnFiles command
  | .error .displayHelp => do IO.print DiskImage.CommandLine.usage; return 0
  | .error fault => do IO.eprintln fault.message; return UInt32.ofNat fault.exitCode
