import DiskImage.Proofs.Dispatch

/-! What backends do to the tracker. Some leave it alone; others hand it the completion of a request that
they leave pending, and do nothing else to it. A drive over a backend does as the backend does. -/
namespace DiskImage

namespace Tracker

variable {t t' : Tracker} {c : Completion}

theorem register_eq_ok : t.register c = .ok t' ↔ t.pending = none ∧ t' = ⟨some c⟩ := by
  obtain ⟨pending⟩ := t
  cases pending <;> simp [register, isPending, eq_comm]

theorem register_of_pending (waiting : t.pending ≠ none) :
    t.register c = .error .transferInProgress := by
  have pending : t.isPending = true := Option.isSome_iff_ne_none.mpr waiting
  rw [register, if_pos pending]

end Tracker

def Request.completion? : Request → Option Completion
  | read _ _ c | write _ _ c | prefetch _ _ c | register c => some c
  | saveState _ | flush | check | cancel => none

/-- What a request that hands over `handed` may do to the tracker: nothing, unless it is left pending
with its completion registered. -/
inductive Tracked (handed : Option Completion) (before after : Tracker)
    (answer : Except Halt Answer) : Prop
  | untouched (not_pending : answer ≠ .ok .pending) (kept : after = before)
  | deferred {c : Completion} (pending : answer = .ok .pending) (hands : handed = some c)
    (registered : before.register c = .ok after)

/-- A backend that touches the tracker only to leave a request pending. -/
def Disciplined (β : Type) [Backend β] : Prop :=
  ∀ (b : β) (w : World) (request : Request), request.call? ≠ none →
    Tracked request.completion? w.tracker (request.serve b w).state.2.tracker
      (request.serve b w).answer

def Synchronous (β : Type) [Backend β] : Prop :=
  ∀ (b : β) (w : World) (request : Request), request.call? ≠ none →
    (request.serve b w).state.2.tracker = w.tracker ∧ (request.serve b w).answer ≠ .ok .pending

theorem Synchronous.disciplined {β : Type} [Backend β] (synchronous : Synchronous β) :
    Disciplined β := by
  intro b w request called
  obtain ⟨kept, not_pending⟩ := synchronous b w request called
  exact .untouched not_pending kept

section Backends

theorem error_not_pending (halt : Halt) : (.error halt : Except Halt Answer) ≠ .ok .pending :=
  nofun

theorem done_not_pending : (.ok .done : Except Halt Answer) ≠ .ok .pending :=
  nofun

theorem finished_not_pending : (.ok .finished : Except Halt Answer) ≠ .ok .pending :=
  nofun

theorem not_pending_of_finished {α : Type} {f : Reply α → Answer}
    (finished : ∀ a, f (.finished a) ≠ .pending) (answer : Except Halt α) :
    (answer.map .finished).map f ≠ .ok .pending := by
  cases answer with
  | error halt => exact error_not_pending halt
  | ok a => exact fun h => finished a (Except.ok.inj h)

theorem readAnswer_finished (bytes : Bytes) : Request.readAnswer (.finished bytes) ≠ .pending :=
  nofun

theorem unitAnswer_finished (a : Unit) : Request.unitAnswer (.finished a) ≠ .pending :=
  nofun

theorem FileImage.synchronous : Synchronous FileImage := by
  intro f w request called
  cases request with
  | read offset len c => exact ⟨rfl, not_pending_of_finished readAnswer_finished _⟩
  | write offset data c => exact ⟨rfl, not_pending_of_finished unitAnswer_finished _⟩
  | prefetch => exact ⟨rfl, finished_not_pending⟩
  | saveState | flush => exact ⟨rfl, done_not_pending⟩
  | register | check | cancel => exact absurd rfl called

theorem RamImage.synchronous : Synchronous RamImage := by
  intro r w request called
  cases request with
  | read offset len c => exact ⟨rfl, not_pending_of_finished readAnswer_finished _⟩
  | write offset data c =>
    simp only [Request.serve, Request.mapAnswer, Backend.write]
    cases r.write offset data with
    | error halt => exact ⟨rfl, error_not_pending halt⟩
    | ok image => exact ⟨rfl, finished_not_pending⟩
  | prefetch => exact ⟨rfl, finished_not_pending⟩
  | saveState | flush => exact ⟨rfl, done_not_pending⟩
  | register | check | cancel => exact absurd rfl called

theorem World.defer_eq_ok {α : Type} {w w' : World} {c : Completion} {reply : Reply α}
    (deferred : w.defer c = .ok (reply, w')) :
    reply = .pending ∧ w.tracker.register c = .ok w'.tracker := by
  obtain ⟨tracker, registered, same⟩ := map_eq_ok.mp deferred
  cases same
  exact ⟨rfl, registered⟩

theorem DeferredImage.tracked_fetch {α : Type} (d : DeferredImage) (w : World) (offset len : Nat)
    (c : Completion) {f : Reply α → Answer} (pending : f .pending = .pending) :
    Tracked (some c) w.tracker (d.fetch w offset len c : Outcome _ (Reply α)).state.2.tracker
      ((d.fetch w offset len c : Outcome _ (Reply α)).answer.map f) := by
  unfold fetch
  cases deferred : (w.defer c : Except ImageError (Reply α × World)) with
  | error e => exact .untouched (error_not_pending _) rfl
  | ok state =>
    obtain ⟨reply, w'⟩ := state
    obtain ⟨rfl, registered⟩ := World.defer_eq_ok deferred
    exact .deferred (congrArg Except.ok pending) rfl registered

theorem DeferredImage.disciplined : Disciplined DeferredImage := by
  intro d w request called
  cases request with
  | read offset len c =>
    simp only [Request.serve, Request.mapAnswer, Backend.read, DeferredImage.read]
    split
    · exact .untouched (not_pending_of_finished readAnswer_finished _) rfl
    · exact d.tracked_fetch w offset len c rfl
  | write offset data c =>
    simp only [Request.serve, Request.mapAnswer, Backend.write, DeferredImage.write]
    cases writeSlice d.bytes offset data with
    | error p => exact .untouched (error_not_pending _) rfl
    | ok bytes => exact .untouched finished_not_pending rfl
  | prefetch offset len c => exact d.tracked_fetch w offset len c rfl
  | saveState | flush => exact .untouched done_not_pending rfl
  | register | check | cancel => exact absurd rfl called

namespace PlannedImage

theorem tracked_request {α : Type} (b : PlannedImage) (w : World) (c : Completion)
    (result : UInt8 → α) {f : Reply α → Answer} (pending : f .pending = .pending)
    (finished : ∀ a, f (.finished a) ≠ .pending) :
    Tracked (some c) w.tracker (b.request w c result).state.2.tracker
      ((b.request w c result).answer.map f) := by
  unfold request
  split
  · exact .untouched (fun h => finished _ (Except.ok.inj h)) rfl
  · exact .untouched (error_not_pending _) rfl
  · cases deferred : (w.defer c : Except ImageError (Reply α × World)) with
    | error e => exact .untouched (error_not_pending _) rfl
    | ok state =>
      obtain ⟨reply, w'⟩ := state
      obtain ⟨rfl, registered⟩ := World.defer_eq_ok deferred
      exact .deferred (congrArg Except.ok pending) rfl registered

theorem tracked_plain (b : PlannedImage) (w : World) (handed : Option Completion) :
    Tracked handed w.tracker (b.plain w).state.2.tracker
      ((b.plain w).answer.map fun () => Answer.done) := by
  unfold plain
  split
  · exact .untouched (error_not_pending _) rfl
  · exact .untouched done_not_pending rfl

theorem disciplined : Disciplined PlannedImage := by
  intro b w request called
  cases request with
  | read offset len c => exact b.tracked_request w c _ rfl readAnswer_finished
  | write | prefetch => exact b.tracked_request w _ _ rfl unitAnswer_finished
  | saveState | flush => exact b.tracked_plain w _
  | register | check | cancel => exact absurd rfl called

end PlannedImage

theorem Recorded.disciplined {β : Type} [Backend β] (disciplined : Disciplined β) :
    Disciplined (Recorded β) := by
  intro b w request called
  rw [Recorded.serve_eq]
  exact disciplined b.inner w request called

theorem Storage.disciplined : Disciplined Storage := by
  intro s w request called
  cases s with
  | file image =>
    rw [wraps_file.serve_eq]
    exact FileImage.synchronous.disciplined image w request called
  | ram image =>
    rw [wraps_ram.serve_eq]
    exact RamImage.synchronous.disciplined image w request called
  | deferred image =>
    rw [wraps_deferred.serve_eq]
    exact DeferredImage.disciplined image w request called
  | planned image =>
    rw [wraps_planned.serve_eq]
    exact Recorded.disciplined PlannedImage.disciplined image w request called

end Backends

namespace Drive

variable {β : Type} [Backend β]

theorem serve_panics_or_passes (d : Drive β) (w : World) (request : Request) :
    (∃ p : Panic, request.serve d w = ⟨.error (.panic p), (d, w)⟩) ∨
      (request.serve d w).state.2 = (request.serve d.backend w).state.2 ∧
      ((request.serve d w).answer = .ok .pending ↔
        (request.serve d.backend w).answer = .ok .pending) := by
  cases ranged : request.range? with
  | none =>
    rw [serve_unchecked d w ranged]
    exact .inr ⟨rfl, Iff.rfl⟩
  | some range =>
    by_cases fits : Fits range.1 range.2 d.capacity
    · rw [serve_transfer d w ranged fits]
      refine .inr ⟨rfl, ?_⟩
      change (request.serve d.backend w).answer.mapError escalate = .ok .pending ↔ _
      cases (request.serve d.backend w).answer <;> simp
    · exact .inl ⟨_, serve_refused d w ranged fits⟩

theorem disciplined (disciplined : Disciplined β) : Disciplined (Drive β) := by
  intro d w request called
  obtain ⟨p, panics⟩ | ⟨world, pending_iff⟩ := d.serve_panics_or_passes w request
  · rw [panics]
    exact .untouched (error_not_pending _) rfl
  · rw [world]
    cases disciplined d.backend w request called with
    | untouched not_pending kept => exact .untouched (mt pending_iff.mp not_pending) kept
    | deferred pending hands registered =>
      exact .deferred (pending_iff.mpr pending) hands registered

theorem synchronous (synchronous : Synchronous β) : Synchronous (Drive β) := by
  intro d w request called
  obtain ⟨p, panics⟩ | ⟨world, pending_iff⟩ := d.serve_panics_or_passes w request
  · rw [panics]
    exact ⟨rfl, error_not_pending _⟩
  · obtain ⟨kept, not_pending⟩ := synchronous d.backend w request called
    rw [world]
    exact ⟨kept, mt pending_iff.mp not_pending⟩

end Drive

end DiskImage
