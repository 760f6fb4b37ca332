import DiskImage.CommandLine.ByteLiteral
import DiskImage.CommandLine.Command
import DiskImage.Word

/-! Reading a command line. Options stand anywhere before a double dash, their values in the next
argument or behind an equals sign; a value is judged when the argument after it turns up or the line
ends, and what must and must not stand together is judged last. -/
namespace DiskImage.CommandLine

inductive Key
  /-- The one argument without a name. -/
  | positional
  | config
  | ram
  | writeThrough
  | json
  | lba
  | byte
  | count
  deriving DecidableEq, Repr

inductive Value
  | present
  | path (text : String)
  | number (n : Nat)
  | byte (b : UInt8)
  deriving DecidableEq, Repr

inductive Subcommand
  | info
  | detect
  | read
  | write
  | segments
  deriving DecidableEq, Repr

namespace Subcommand

def ofName (name : String) : Option Subcommand :=
  if name = "info" then some info
  else if name = "detect" then some detect
  else if name = "read" then some read
  else if name = "write" then some write
  else if name = "segments" then some segments
  else none

def driveKeys : List (String × Key) :=
  [("config", .config), ("ram", .ram), ("write-through", .writeThrough)]

def keys : Subcommand → List (String × Key)
  | info => driveKeys ++ [("json", .json)]
  | read => driveKeys ++ [("lba", .lba), ("count", .count)]
  | write => driveKeys ++ [("lba", .lba), ("byte", .byte), ("count", .count)]
  | detect | segments => []

/-- Whether a drive's description can stand in for the positional argument. -/
def takesDrive : Subcommand → Bool
  | info | read | write => true
  | detect | segments => false

def required : Subcommand → List Key
  | info | read => []
  | write => [.lba, .byte]
  | detect | segments => [.positional]

end Subcommand

def Key.isFlag : Key → Bool
  | ram | writeThrough | json => true
  | _ => false

/-- Judges the text of a value: a path must not be empty, and a flag has no text to judge. -/
def Key.judge (key : Key) (text : String) : Except UsageError Value :=
  match key with
  | lba | count =>
    match Text.readUnsigned 10 (Word.limit - 1) text.toList with
    | .ok n => .ok (.number n)
    | .error _ => .error .valueValidation
  | byte =>
    match ByteLiteral.parse text with
    | .ok b => .ok (.byte b)
    | .error _ => .error .valueValidation
  | ram | writeThrough | json => .ok .present
  | positional | config => if text.isEmpty then .error .invalidValue else .ok (.path text)

structure Scan where
  /-- Judged arguments, the latest first. -/
  given : List (Key × Value) := []
  /-- An argument not judged yet, with its text if that was found. -/
  unjudged : Option (Key × Option String) := none
  positionalSeen : Bool := false
  /-- A double dash was passed: all that follows is positional. -/
  trailing : Bool := false
  deriving Repr

namespace Scan

def has (scan : Scan) (key : Key) : Bool := scan.given.any fun entry => entry.1 = key

def value? (scan : Scan) (key : Key) : Option Value := scan.given.lookup key

def give (scan : Scan) (key : Key) (text : String) : Except UsageError Scan :=
  if scan.has key then .error .argumentConflict
  else (key.judge text).map fun value => { scan with given := (key, value) :: scan.given }

def settle (scan : Scan) : Except UsageError Scan :=
  match scan.unjudged with
  | none => .ok scan
  | some (_, none) => .error .invalidValue
  | some (key, some text) => { scan with unjudged := none }.give key text

def positional (scan : Scan) (text : String) : Except UsageError Scan :=
  if scan.positionalSeen then .error .unknownArgument
  else (scan.settle).map fun scan =>
    { scan with unjudged := some (.positional, some text), positionalSeen := true }

def option (scan : Scan) (command : Subcommand) (name : String) (attached : Option String) :
    Except UsageError Scan :=
  if name = "help" then
    match attached with
    | some _ => .error .tooManyValues
    | none => scan.settle >>= fun _ => .error .displayHelp
  else
    match command.keys.lookup name with
    | none => .error .unknownArgument
    | some key =>
      if key.isFlag then
        match attached with
        | some _ => .error .tooManyValues
        | none => scan.settle >>= fun scan => scan.give key name
      else
        match attached with
        | some text => scan.settle >>= fun scan => scan.give key text
        | none => scan.settle.map fun scan => { scan with unjudged := some (key, none) }

/-- Letters after a single dash: only the one for help exists. -/
def letters (scan : Scan) (first : Char) : Except UsageError Scan :=
  if first = 'h' then scan.settle >>= fun _ => .error .displayHelp else .error .unknownArgument

def splitEquals (text : List Char) : String × Option String :=
  let name := text.takeWhile (· ≠ '=')
  match text.dropWhile (· ≠ '=') with
  | [] => (String.ofList name, none)
  | _ :: value => (String.ofList name, some (String.ofList value))

def next (scan : Scan) (command : Subcommand) (argument : String) : Except UsageError Scan :=
  if scan.trailing then scan.positional argument
  else
    match argument.toList with
    | ['-', '-'] => .ok { scan with trailing := true }
    | '-' :: '-' :: text =>
      let (name, attached) := splitEquals text
      scan.option command name attached
    | '-' :: first :: _ => scan.letters first
    | _ =>
      match scan.unjudged with
      | some (key, none) => .ok { scan with unjudged := some (key, some argument) }
      | _ => scan.positional argument

def all (scan : Scan) (command : Subcommand) : List String → Except UsageError Scan
  | [] => scan.settle
  | argument :: rest => do
    let scan ← scan.next command argument
    all scan command rest

def path? (scan : Scan) (key : Key) : Option String :=
  match scan.value? key with
  | some (.path text) => some text
  | _ => none

def number? (scan : Scan) (key : Key) : Option Nat :=
  match scan.value? key with
  | some (.number n) => some n
  | _ => none

def byte? (scan : Scan) (key : Key) : Option UInt8 :=
  match scan.value? key with
  | some (.byte b) => some b
  | _ => none

def driveArgs (scan : Scan) : DriveArgs where
  image := scan.path? .positional
  config := scan.path? .config
  ram := scan.has .ram
  writeThrough := scan.has .writeThrough

def checkTogether (scan : Scan) (command : Subcommand) : Except UsageError Unit :=
  if scan.has .positional ∧ scan.has .config then .error .argumentConflict
  else if command.takesDrive ∧ ¬ scan.has .positional ∧ ¬ scan.has .config then
    .error .missingRequiredArgument
  else if command.required.any (fun key => ¬ scan.has key) then .error .missingRequiredArgument
  else .ok ()

def missing {α : Type} (x : Option α) : Except UsageError α :=
  match x with
  | none => .error .missingRequiredArgument
  | some a => .ok a

def toCommand (scan : Scan) : Subcommand → Except UsageError Command
  | .info => .ok (.info scan.driveArgs (scan.has .json))
  | .detect => (missing (scan.path? .positional)).map .detect
  | .read => .ok (.read scan.driveArgs ((scan.number? .lba).getD 0) ((scan.number? .count).getD 1))
  | .write => do
    let lba ← missing (scan.number? .lba)
    let byte ← missing (scan.byte? .byte)
    return .write scan.driveArgs lba byte ((scan.number? .count).getD 1)
  | .segments => (missing (scan.path? .positional)).map .segments

end Scan

def readSubcommand (command : Subcommand) (arguments : List String) : Except UsageError Command := do
  let scan ← ({ } : Scan).all command arguments
  scan.checkTogether command
  scan.toCommand command

/-- What follows the word help: at most one command, and the word itself counts as one. -/
def readHelp : List String → UsageError
  | [] => .displayHelp
  | [name] =>
    if name = "help" ∨ (Subcommand.ofName name).isSome then .displayHelp else .invalidSubcommand
  | _ => .invalidSubcommand

/-- The arguments without the program's name. A command that follows a double dash is taken for a
stray argument. -/
def readArguments (trailing : Bool) : List String → Except UsageError Command
  | [] => .error .displayHelpOnMissingArgument
  | argument :: rest =>
    if trailing then
      if argument = "help" ∨ (Subcommand.ofName argument).isSome then .error .unknownArgument
      else .error .invalidSubcommand
    else if argument = "help" then .error (readHelp rest)
    else
      match Subcommand.ofName argument with
      | some command => readSubcommand command rest
      | none =>
        match argument.toList with
        | ['-', '-'] => readArguments true rest
        | '-' :: '-' :: text =>
          let (name, attached) := Scan.splitEquals text
          if name ≠ "help" then .error .unknownArgument
          else if attached.isSome then .error .tooManyValues
          else .error .displayHelp
        | '-' :: first :: _ =>
          if first = 'h' then .error .displayHelp else .error .unknownArgument
        | _ => .error .invalidSubcommand

def parse (arguments : List String) : Except UsageError Command := readArguments false arguments

end DiskImage.CommandLine
