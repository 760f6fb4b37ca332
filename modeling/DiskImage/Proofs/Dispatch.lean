import DiskImage.Drive
import DiskImage.Except
import DiskImage.Proofs.Capacity

/-! What a drive lets through to its backend and what it makes of the answers, over any backend of
fixed capacity. Transfers are checked and their fatal errors stop the program; hints, saving and
flushing pass unchecked and unchanged. -/
namespace DiskImage

namespace Request

def range? : Request → Option (Nat × Nat)
  | read offset len _ => some (offset, len)
  | write offset data _ => some (offset, data.size)
  | _ => none

def isHint : Request → Bool
  | prefetch .. | saveState _ | flush => true
  | _ => false

def Passes (capacity : Nat) (request : Request) : Prop :=
  ∀ range ∈ request.range?, Fits range.1 range.2 capacity

instance (capacity : Nat) : DecidablePred (Passes capacity) := fun request =>
  inferInstanceAs (Decidable (∀ range ∈ request.range?, Fits range.1 range.2 capacity))

end Request

def Call.range? : Call → Option (Nat × Nat)
  | read offset len | write offset len => some (offset, len)
  | _ => none

/-- How the answer to a transfer comes from the backend's: a fatal error as a panic with its text,
everything else as it is. -/
inductive Handed {α : Type} : Except Halt α → Except Halt α → Prop
  | result (a : α) : Handed (.ok a) (.ok a)
  | error {e : ImageError} (recoverable : e.isFatal = false) :
    Handed (.error (.error e)) (.error (.error e))
  | fatal {e : ImageError} {p : Panic} (fatal : e.isFatal = true)
    (text : p.message = "drive: " ++ e.message) : Handed (.error (.error e)) (.error (.panic p))
  | panic (p : Panic) : Handed (.error (.panic p)) (.error (.panic p))
  | stalled : Handed (.error .stalled) (.error .stalled)

theorem Handed.not_fatal {α : Type} {answer answer' : Except Halt α} (handed : Handed answer answer')
    {e : ImageError} (failed : answer' = .error (.error e)) : e.isFatal = false := by
  cases handed with
  | error recoverable =>
    cases failed
    exact recoverable
  | result | fatal | panic | stalled => cases failed

theorem message_unrecoverable (e : ImageError) :
    (Panic.unrecoverable e).message = "drive: " ++ e.message := rfl

theorem handed_escalate {α : Type} (answer : Except Halt α) :
    Handed answer (answer.mapError Drive.escalate) := by
  cases answer with
  | ok a => exact .result a
  | error halt =>
    cases halt with
    | error e =>
      simp only [mapError_error, Drive.escalate]
      cases fatal : e.isFatal with
      | true => exact .fatal fatal (message_unrecoverable e)
      | false => exact .error fatal
    | panic p => exact .panic p
    | stalled => exact .stalled

namespace Request

variable {request : Request}

theorem call_of_range {offset len : Nat} (ranged : request.range? = some (offset, len)) :
    ∃ call : Call, request.call? = some call ∧ call.range? = some (offset, len) := by
  cases request with
  | read | write => exact ⟨_, rfl, ranged⟩
  | prefetch | saveState | flush | register | check | cancel => cases ranged

theorem range_of_call {call : Call} (called : request.call? = some call) :
    call.range? = request.range? := by
  cases request with
  | read | write | prefetch | saveState | flush =>
    cases called
    rfl
  | register | check | cancel => cases called

theorem call_of_isHint (hint : request.isHint = true) :
    ∃ call : Call, request.call? = some call ∧ request.range? = none := by
  cases request with
  | prefetch | saveState | flush => exact ⟨_, rfl, rfl⟩
  | read | write | register | check | cancel => cases hint

end Request

namespace Drive

theorem mapAnswer_transfer {β α α' : Type} (d : Drive β) (f : α → α')
    (outcome : Outcome (β × World) α) :
    Request.mapAnswer f (d.transfer outcome) = d.transfer (Request.mapAnswer f outcome) := by
  obtain ⟨answer, state⟩ := outcome
  cases answer <;> rfl

section

variable {β : Type} [Backend β] {request : Request} {offset len : Nat}

theorem serve_refused (d : Drive β) (w : World) (range : request.range? = some (offset, len))
    (misfit : ¬ Fits offset len d.capacity) :
    request.serve d w =
      ⟨.error (.panic (.unrecoverable (brokenRule offset len d.capacity))), (d, w)⟩ := by
  cases request with
  | read | write =>
    cases range
    simp only [Request.serve, Backend.read, Backend.write, read, write,
      checkRequest_of_not_fits misfit]
    rfl
  | prefetch | saveState | flush | register | check | cancel => cases range

theorem serve_transfer (d : Drive β) (w : World) (range : request.range? = some (offset, len))
    (fits : Fits offset len d.capacity) :
    request.serve d w = d.transfer (request.serve d.backend w) := by
  cases request with
  | read | write =>
    cases range
    simp only [Request.serve, Backend.read, Backend.write, read, write, checkRequest_of_fits fits,
      mapAnswer_transfer]
  | prefetch | saveState | flush | register | check | cancel => cases range

theorem serve_unchecked (d : Drive β) (w : World) (unranged : request.range? = none) :
    request.serve d w = d.passOn (request.serve d.backend w) := by
  cases request with
  | read | write => cases unranged
  | register c =>
    simp only [Request.serve]
    split <;> rfl
  | prefetch | saveState | flush | check | cancel => rfl

theorem not_fatal_of_serve (d : Drive β) (w : World) (ranged : request.range? ≠ none)
    {e : ImageError} (failed : (request.serve d w).answer = .error (.error e)) :
    e.isFatal = false := by
  obtain ⟨⟨offset, len⟩, ranged⟩ := Option.ne_none_iff_exists'.mp ranged
  by_cases fits : Fits offset len d.capacity
  · rw [serve_transfer d w ranged fits] at failed
    exact (handed_escalate _).not_fatal failed
  · rw [serve_refused d w ranged fits] at failed
    cases failed

theorem fixedCapacity (fixed : FixedCapacity β) : FixedCapacity (Drive β) := by
  intro d w request
  change (request.serve d w).state.1.capacity = d.capacity
  cases ranged : request.range? with
  | none =>
    rw [serve_unchecked d w ranged]
    exact fixed d.backend w request
  | some range =>
    by_cases fits : Fits range.1 range.2 d.capacity
    · rw [serve_transfer d w ranged fits]
      exact fixed d.backend w request
    · rw [serve_refused d w ranged fits]

end

section Recorded

variable {β : Type} [Backend β]

def afterCall (d : Drive (Recorded β)) (w : World) (request : Request) (call : Call) :
    Drive (Recorded β) × World :=
  let called := request.serve d.backend.inner w
  ({ d with backend := ⟨called.state.1, d.backend.calls ++ [call]⟩ }, called.state.2)

/-- What a drive of `capacity` bytes promises about its next request. -/
structure Dispatches (capacity : Nat) (d : Drive (Recorded β)) (w : World) : Prop where
  /-- A transfer that breaks a rule stops the program with the check's error and changes nothing. -/
  refuses : ∀ (request : Request) (offset len : Nat), request.range? = some (offset, len) →
    ¬ Fits offset len capacity → ∃ (e : ImageError) (p : Panic),
      checkRequest offset len capacity = .error e ∧ p.message = "drive: " ++ e.message ∧
      request.serve d w = ⟨.error (.panic p), (d, w)⟩
  /-- Any other transfer is one call of the same range, whose answer is handed back. -/
  transfers : ∀ (request : Request) (offset len : Nat), request.range? = some (offset, len) →
    Fits offset len capacity → ∃ call : Call,
      request.call? = some call ∧ call.range? = some (offset, len) ∧
      (request.serve d w).state = d.afterCall w request call ∧
      Handed (request.serve d.backend.inner w).answer (request.serve d w).answer
  /-- Everything else meant for the backend is one call, whose answer is given back unchanged. -/
  hints : ∀ request : Request, request.isHint = true → ∃ call : Call,
    request.call? = some call ∧ (request.serve d w).state = d.afterCall w request call ∧
    (request.serve d w).answer = (request.serve d.backend.inner w).answer
  /-- No transfer ends with a fatal error. -/
  recoverable : ∀ (request : Request) (e : ImageError), request.range? ≠ none →
    (request.serve d w).answer = .error (.error e) → e.isFatal = false

theorem dispatches (d : Drive (Recorded β)) (w : World) : Dispatches d.capacity d w where
  refuses := by
    intro request offset len ranged misfit
    exact ⟨_, _, checkRequest_of_not_fits misfit, message_unrecoverable _,
      serve_refused d w ranged misfit⟩
  transfers := by
    intro request offset len ranged fits
    obtain ⟨call, called, range⟩ := Request.call_of_range ranged
    have served := serve_transfer d w ranged fits
    rw [Recorded.serve_eq, called] at served
    rw [served]
    exact ⟨call, called, range, rfl, handed_escalate _⟩
  hints := by
    intro request hint
    obtain ⟨call, called, unranged⟩ := Request.call_of_isHint hint
    have served := serve_unchecked d w unranged
    rw [Recorded.serve_eq, called] at served
    rw [served]
    exact ⟨call, called, rfl, rfl⟩
  recoverable := fun _ _ ranged failed => not_fatal_of_serve d w ranged failed

theorem calls_serve (d : Drive (Recorded β)) (w : World) (request : Request) :
    (request.serve d w).state.1.backend.calls = d.backend.calls ++
      (if request.Passes d.capacity then request.call? else none).toList := by
  cases ranged : request.range? with
  | none =>
    have passes : request.Passes d.capacity := by
      intro range member
      rw [ranged] at member
      cases member
    rw [if_pos passes, serve_unchecked d w ranged, Recorded.serve_eq]
    rfl
  | some range =>
    have passes_iff : request.Passes d.capacity ↔ Fits range.1 range.2 d.capacity := by
      simp only [Request.Passes, ranged, Option.mem_some_iff, forall_eq']
    by_cases fits : Fits range.1 range.2 d.capacity
    · rw [if_pos (passes_iff.mpr fits), serve_transfer d w ranged fits, Recorded.serve_eq]
      rfl
    · rw [if_neg (fun passes => fits (passes_iff.mp passes)), serve_refused d w ranged fits]
      exact (List.append_nil _).symm

theorem calls_serveAll (d : Drive (Recorded β)) (fixed : FixedCapacity β) (w : World)
    (requests : List Request) :
    (Request.serveAll d w requests).2.1.capacity = d.capacity ∧
    (Request.serveAll d w requests).2.1.backend.calls = d.backend.calls ++
      (requests.filter (Request.Passes d.capacity)).filterMap Request.call? := by
  have fixed_drive := Drive.fixedCapacity (Recorded.fixedCapacity fixed)
  refine ⟨fixed_drive.serveAll d w requests, ?_⟩
  induction requests generalizing d w with
  | nil => exact (List.append_nil _).symm
  | cons request rest ih =>
    have first := d.calls_serve w request
    have kept : (request.serve d w).state.1.capacity = d.capacity := fixed_drive d w request
    have calls := ih (request.serve d w).state.1 (request.serve d w).state.2
    simp only [Request.serveAll]
    rw [calls, kept, first, List.append_assoc, List.filter_cons]
    by_cases passes : request.Passes d.capacity
    · rw [if_pos passes, if_pos (decide_eq_true passes), List.filterMap_cons]
      cases request.call? <;> rfl
    · rw [if_neg passes, if_neg (by simpa using passes)]
      rfl

/-- Over any backend of fixed capacity a drive calls the backend for the requests that pass and no
others, and dispatches the next request as promised. -/
theorem dispatch_contract (fixed : FixedCapacity β) {backend : β}
    (large : sectorSize ≤ Backend.capacity backend) (kind : DriveKind) (modifies : Bool) :
    ∃ drive : Drive (Recorded β), ofBackend ⟨backend, []⟩ kind modifies = .ok drive ∧
      ∀ (w : World) (requests : List Request),
        (Request.serveAll drive w requests).2.1.backend.calls =
          (requests.filter (Request.Passes (Backend.capacity backend))).filterMap Request.call? ∧
        (∀ call ∈ (Request.serveAll drive w requests).2.1.backend.calls, ∀ offset len : Nat,
          call.range? = some (offset, len) → Fits offset len (Backend.capacity backend)) ∧
        Dispatches (Backend.capacity backend) (Request.serveAll drive w requests).2.1
          (Request.serveAll drive w requests).2.2 := by
  let recorded : Recorded β := ⟨backend, []⟩
  have recorded_large : sectorSize ≤ Backend.capacity recorded := large
  let drive : Drive (Recorded β) :=
    ⟨recorded, kind, Geometry.ofCapacity (Backend.capacity recorded), modifies⟩
  refine ⟨drive, ofBackend_eq recorded_large kind modifies, ?_⟩
  intro w requests
  obtain ⟨capacity, calls⟩ := drive.calls_serveAll fixed w requests
  have promised := dispatches (Request.serveAll drive w requests).2.1
    (Request.serveAll drive w requests).2.2
  rw [List.nil_append] at calls
  rw [capacity] at promised
  refine ⟨calls, ?_, promised⟩
  intro call member offset len range
  rw [calls, List.mem_filterMap] at member
  obtain ⟨request, admitted, called⟩ := member
  have passes := of_decide_eq_true (List.mem_filter.mp admitted).2
  rw [Request.range_of_call called] at range
  exact passes (offset, len) range

end Recorded

/-- Of a read past the end, one that the medium fails and a crooked hint, two reach the backend. -/
theorem dispatch_to_failing_backend :
    let backend : Storage := .planned ⟨⟨1024, [.fail (.io (.device "bad sector"))]⟩, []⟩
    ∃ drive : Drive (Recorded Storage), ofBackend ⟨backend, []⟩ .external true = .ok drive ∧
      ∀ w : World, (Request.serveAll drive w [.read 512 1024 .silent, .read 0 512 .silent,
        .prefetch 7 9 .silent]).2.1.backend.calls = [.read 0 512, .prefetch 7 9] := by
  intro backend
  have large : sectorSize ≤ Backend.capacity backend := by decide
  obtain ⟨drive, opened, promised⟩ :=
    dispatch_contract Storage.fixedCapacity large .external true
  refine ⟨drive, opened, ?_⟩
  intro w
  rw [(promised w _).1]
  decide

end Drive

end DiskImage
