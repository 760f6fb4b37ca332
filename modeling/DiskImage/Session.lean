import DiskImage.Backend.Basic

/-! Requests made one after another on a backend and its tracker. Each is answered and the next one
starts from the state it left, also after an error or a panic. -/
namespace DiskImage

inductive Request
  | read (offset len : Nat) (c : Completion)
  | write (offset : Nat) (data : Bytes) (c : Completion)
  | prefetch (offset len : Nat) (c : Completion)
  | saveState (path : String)
  | flush
  | register (c : Completion)
  | check
  | cancel

inductive Answer
  | data (bytes : Bytes)
  | finished
  | pending
  | done
  /-- The completion that a check delivered, if any. -/
  | delivered (c : Option Completion)

namespace Request

def unitAnswer : Reply Unit → Answer
  | .finished () => .finished
  | .pending => .pending

def readAnswer : Reply Bytes → Answer
  | .finished bytes => .data bytes
  | .pending => .pending

def mapAnswer {σ α α' : Type} (f : α → α') (outcome : Outcome σ α) : Outcome σ α' :=
  ⟨outcome.answer.map f, outcome.state⟩

def serve {β : Type} [Backend β] (b : β) (w : World) : Request → Outcome (β × World) Answer
  | read offset len c => mapAnswer readAnswer (Backend.read b w offset len c)
  | write offset data c => mapAnswer unitAnswer (Backend.write b w offset data c)
  | prefetch offset len c => mapAnswer unitAnswer (Backend.prefetch b w offset len c)
  | saveState path => mapAnswer (fun () => .done) (Backend.saveState b w path)
  | flush => mapAnswer (fun () => .done) (Backend.flush b w)
  | register c =>
    match w.tracker.register c with
    | .error e => ⟨.error (.error e), (b, w)⟩
    | .ok tracker => ⟨.ok .done, (b, { w with tracker })⟩
  | check =>
    let (c, tracker) := w.tracker.check
    ⟨.ok (.delivered c), (b, { w with tracker })⟩
  | cancel => ⟨.ok .done, (b, { w with tracker := w.tracker.cancel })⟩

def serveAll {β : Type} [Backend β] (b : β) (w : World) :
    List Request → List (Except Halt Answer) × β × World
  | [] => ([], b, w)
  | request :: rest =>
    let first := request.serve b w
    let (answers, state) := serveAll first.state.1 first.state.2 rest
    (first.answer :: answers, state)

theorem run_keeps {β : Type} [Backend β] {b : β} {w : World} (Holds : β → World → Prop)
    (step : ∀ (b : β) (w : World) (request : Request), Holds b w →
      Holds (request.serve b w).state.1 (request.serve b w).state.2)
    (start : Holds b w) (requests : List Request) :
    Holds (serveAll b w requests).2.1 (serveAll b w requests).2.2 := by
  induction requests generalizing b w with
  | nil => exact start
  | cons request rest ih => exact ih (step b w request start)

end Request

end DiskImage
