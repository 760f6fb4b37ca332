import DiskImage.Host.Files
import DiskImage.Tracker

/-! What stores the bytes of a drive. A backend answers requests on the world around it, the host's
files and the tracker, either at once or by handing the completion to the tracker. -/
namespace DiskImage

structure World where
  host : Host
  tracker : Tracker := { }

/-- An accepted request is finished, or waits for its completion and is to be issued again. -/
inductive Reply (α : Type)
  | finished (a : α)
  | pending
  deriving DecidableEq, Repr

/-- Offsets and lengths are in bytes. A backend that only ever finishes at once leaves the tracker
alone; hints, saving and flushing need no support. -/
class Backend (β : Type) where
  capacity : β → Nat
  read : β → World → (offset len : Nat) → Completion → Outcome (β × World) (Reply Bytes)
  write : β → World → (offset : Nat) → (data : Bytes) → Completion → Outcome (β × World) (Reply Unit)
  prefetch : β → World → (offset len : Nat) → Completion → Outcome (β × World) (Reply Unit) :=
    fun b w _ _ _ => ⟨.ok (.finished ()), (b, w)⟩
  saveState : β → World → (path : String) → Outcome (β × World) Unit :=
    fun b w _ => ⟨.ok (), (b, w)⟩
  flush : β → World → Outcome (β × World) Unit :=
    fun b w => ⟨.ok (), (b, w)⟩

def World.defer {α : Type} (w : World) (c : Completion) : Except ImageError (Reply α × World) :=
  (w.tracker.register c).map fun tracker => (.pending, { w with tracker })

def readSlice (bytes : SparseBytes) (offset len : Nat) : Except Panic Bytes :=
  if bytes.size < offset + len then .error (.sliceOutOfRange (offset + len) bytes.size)
  else .ok (bytes.slice offset len)

def writeSlice (bytes : SparseBytes) (offset : Nat) (data : Bytes) : Except Panic SparseBytes :=
  if bytes.size < offset + data.size then
    .error (.sliceOutOfRange (offset + data.size) bytes.size)
  else .ok (bytes.store offset data)

end DiskImage
