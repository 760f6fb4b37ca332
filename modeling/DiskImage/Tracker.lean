import DiskImage.Error

/-! Completions of requests that finish later. The tracker holds at most one; a second is refused and
the first stays. -/
namespace DiskImage

/-- What the owner of a request hears when it finishes: its name, or nothing. -/
inductive Completion
  | named (id : String)
  | silent
  deriving DecidableEq, Repr

structure Firing where
  completion : Completion
  status : Except ImageError Unit

structure Tracker where
  pending : Option Completion := none
  deriving DecidableEq, Repr

namespace Tracker

def isPending (t : Tracker) : Bool := t.pending.isSome

def register (t : Tracker) (c : Completion) : Except ImageError Tracker :=
  if t.isPending then .error .transferInProgress else .ok ⟨some c⟩

def check (t : Tracker) : Option Completion × Tracker := (t.pending, ⟨none⟩)

/-- Fires the pending completion, if there is one, as a success; says whether it did. -/
def tick (t : Tracker) : Bool × Option Firing × Tracker :=
  match t.check with
  | (none, t) => (false, none, t)
  | (some c, t) => (true, some ⟨c, .ok ()⟩, t)

def cancel (_ : Tracker) : Tracker := ⟨none⟩

def describe (t : Tracker) : String :=
  let pending := if t.isPending then "Some(Completion(..))" else "None"
  "CompletionTracker \x7b pending: " ++ pending ++ " \x7d"

end Tracker

inductive TrackerCall
  | register (c : Completion)
  | tick
  | cancel
  | isPending
  deriving DecidableEq, Repr

inductive TrackerReply
  | registered (answer : Except ImageError Unit)
  | ticked (delivered : Bool)
  | cancelled
  | pending (waiting : Bool)

structure TrackerStep where
  reply : TrackerReply
  fired : Option Firing := none
  tracker : Tracker

def TrackerCall.serve (t : Tracker) : TrackerCall → TrackerStep
  | register c =>
    match t.register c with
    | .error e => { reply := .registered (.error e), tracker := t }
    | .ok tracker => { reply := .registered (.ok ()), tracker }
  | tick =>
    let (delivered, fired, tracker) := t.tick
    { reply := .ticked delivered, fired, tracker }
  | cancel => { reply := .cancelled, tracker := t.cancel }
  | isPending => { reply := .pending t.isPending, tracker := t }

end DiskImage
