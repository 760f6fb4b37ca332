import DiskImage.Backend.Basic

/-! A backend without bytes whose answers are planned in advance, one a call, and a wrapper that
writes down the calls that reach a backend. -/
namespace DiskImage

inductive Plan
  /-- Finish; a read finds this byte everywhere. -/
  | finish (byte : UInt8)
  /-- Hand the completion to the tracker. -/
  | defer
  | fail (e : ImageError)

structure PlannedImage where
  capacity : Nat
  plans : List Plan

namespace PlannedImage

/-- The next answer; when none is left, to finish with zeros. -/
def next (b : PlannedImage) : Plan × PlannedImage :=
  match b.plans with
  | [] => (.finish 0, b)
  | plan :: plans => (plan, { b with plans })

/-- Answers a request whose result would be `result byte`. -/
def request {α : Type} (b : PlannedImage) (w : World) (c : Completion) (result : UInt8 → α) :
    Outcome (PlannedImage × World) (Reply α) :=
  match b.next with
  | (.finish byte, b) => ⟨.ok (.finished (result byte)), (b, w)⟩
  | (.fail e, b) => ⟨.error (.error e), (b, w)⟩
  | (.defer, b) =>
    match w.defer c with
    | .error e => ⟨.error (.error e), (b, w)⟩
    | .ok (reply, w) => ⟨.ok reply, (b, w)⟩

def plain (b : PlannedImage) (w : World) : Outcome (PlannedImage × World) Unit :=
  match b.next with
  | (.fail e, b) => ⟨.error (.error e), (b, w)⟩
  | (_, b) => ⟨.ok (), (b, w)⟩

instance : Backend PlannedImage where
  capacity b := b.capacity
  read b w _ len c := b.request w c fun byte => Bytes.fill byte len
  write b w _ _ c := b.request w c fun _ => ()
  prefetch b w _ _ c := b.request w c fun _ => ()
  saveState b w _ := b.plain w
  flush b w := b.plain w

end PlannedImage

inductive Call
  | read (offset len : Nat)
  | write (offset len : Nat)
  | prefetch (offset len : Nat)
  | saveState (path : String)
  | flush
  deriving DecidableEq, Repr

structure Recorded (β : Type) where
  inner : β
  calls : List Call := []

namespace Recorded

def record {β α : Type} (b : Recorded β) (call : Call) (outcome : Outcome (β × World) α) :
    Outcome (Recorded β × World) α :=
  ⟨outcome.answer, (⟨outcome.state.1, b.calls ++ [call]⟩, outcome.state.2)⟩

instance {β : Type} [Backend β] : Backend (Recorded β) where
  capacity b := Backend.capacity b.inner
  read b w offset len c := b.record (.read offset len) (Backend.read b.inner w offset len c)
  write b w offset data c :=
    b.record (.write offset data.size) (Backend.write b.inner w offset data c)
  prefetch b w offset len c :=
    b.record (.prefetch offset len) (Backend.prefetch b.inner w offset len c)
  saveState b w path := b.record (.saveState path) (Backend.saveState b.inner w path)
  flush b w := b.record .flush (Backend.flush b.inner w)

end Recorded

end DiskImage
