/-! The commands, and the ways a command line can be refused. -/
namespace DiskImage.CommandLine

structure DriveArgs where
  image : Option String
  config : Option String
  ram : Bool
  writeThrough : Bool
  deriving DecidableEq, Repr

inductive Command
  | info (drive : DriveArgs) (json : Bool)
  | detect (path : String)
  | read (drive : DriveArgs) (lba count : Nat)
  | write (drive : DriveArgs) (lba : Nat) (byte : UInt8) (count : Nat)
  | segments (dir : String)
  deriving DecidableEq, Repr

inductive UsageError
  | missingRequiredArgument
  | unknownArgument
  | invalidSubcommand
  | invalidValue
  | valueValidation
  | argumentConflict
  | tooManyValues
  /-- Help was asked for. -/
  | displayHelp
  /-- There were no arguments at all. -/
  | displayHelpOnMissingArgument
  deriving DecidableEq, Repr

def UsageError.exitCode : UsageError → Nat
  | displayHelp => 0
  | _ => 2

end DiskImage.CommandLine
