import DiskImage.Config.Fault
import DiskImage.Word

/-! What can go wrong with an image, and how an operation ends. Errors are handed back to the caller;
`Halt` also covers the ways a run can stop without an answer. -/
namespace DiskImage

/-- A failure below the image: the host's files or the medium itself. -/
inductive IoError
  | notFound
  | notDirectory
  | isDirectory
  | nameTooLong
  | nulInName
  | notUtf8
  | device (text : String)
  deriving DecidableEq, Repr

def IoError.message : IoError → String
  | notFound => "No such file or directory (os error 2)"
  | notDirectory => "Not a directory (os error 20)"
  | isDirectory => "Is a directory (os error 21)"
  | nameTooLong => "File name too long (os error 36)"
  | nulInName => "file name contained an unexpected NUL byte"
  | notUtf8 => "stream did not contain valid UTF-8"
  | device text => text

inductive ImageError
  | unaligned (offset len alignment : Nat)
  | outOfBounds (offset len capacity : Nat)
  | offsetOverflow
  | shortTransfer (offset expected actual : Nat)
  | emptyImage
  | quotaExceeded (bytes : Nat)
  | unsupported (source : String)
  | invalidConfig (reason : String)
  | configParse (cause : ConfigFault)
  | corruptImage (reason : String)
  | transferInProgress
  | io (cause : IoError)
  deriving DecidableEq, Repr

namespace ImageError

def message : ImageError → String
  | unaligned offset len alignment =>
    s!"unaligned request: offset={Nat.repr offset} len={Nat.repr len} (expected multiples of {Nat.repr alignment})"
  | outOfBounds offset len capacity =>
    s!"out of bounds: offset={Nat.repr offset} len={Nat.repr len} capacity={Nat.repr capacity}"
  | offsetOverflow => "integer overflow while computing byte offsets"
  | shortTransfer offset expected actual =>
    s!"short transfer at offset {Nat.repr offset}: expected {Nat.repr expected} bytes, got {Nat.repr actual}"
  | emptyImage => "image is empty"
  | quotaExceeded bytes => s!"unable to allocate {Nat.repr bytes} bytes for image"
  | unsupported source => s!"unsupported image source: {source}"
  | invalidConfig reason => s!"invalid configuration: {reason}"
  | configParse cause => s!"unable to parse drive configuration: {cause.message}"
  | corruptImage reason => s!"corrupt disk image: {reason}"
  | transferInProgress => "a transfer is already in progress"
  | io cause => s!"io error: {cause.message}"

def chain (e : ImageError) : List String :=
  match e with
  | configParse cause => [e.message, cause.message]
  | io cause => [e.message, cause.message]
  | _ => [e.message]

/-- Whether a request in flight cannot recover from the error: the request was wrong or the medium
failed. Errors of opening and configuring are not fatal. -/
def isFatal : ImageError → Bool
  | unaligned .. | outOfBounds .. | offsetOverflow | shortTransfer .. | io _ => true
  | _ => false

end ImageError

inductive Panic
  | unrecoverable (e : ImageError)
  | arithmetic (fault : ArithmeticFault)
  | indexOutOfRange (index size : Nat)
  | sliceOutOfRange (stop size : Nat)
  deriving DecidableEq, Repr

def Panic.message : Panic → String
  | unrecoverable e => s!"drive: {e.message}"
  | arithmetic fault => fault.message
  | indexOutOfRange index size =>
    s!"index out of bounds: the len is {Nat.repr size} but the index is {Nat.repr index}"
  | sliceOutOfRange stop size =>
    s!"range end index {Nat.repr stop} out of range for slice of length {Nat.repr size}"

/-- How an operation ends without a result: an error for the caller, a panic, or never, because the
medium interrupts every call. -/
inductive Halt
  | error (e : ImageError)
  | panic (p : Panic)
  | stalled
  deriving DecidableEq, Repr

/-- The answer of an operation and the state it leaves behind, whether it succeeds or not. -/
structure Outcome (σ α : Type) where
  answer : Except Halt α
  state : σ

end DiskImage
