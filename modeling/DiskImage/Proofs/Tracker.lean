import DiskImage.Proofs.Discipline

/-! What becomes of the completions handed to a tracker. Each that it takes fires once, in its turn and
as a success, or is cancelled, or is the one still waiting; none that it refuses is heard of. -/
namespace DiskImage

def TrackerCall.handed? : TrackerCall → Option Completion
  | register c => some c
  | tick | cancel | isPending => none

structure TrackerMoment where
  before : Tracker
  call : TrackerCall

namespace TrackerMoment

def step (m : TrackerMoment) : TrackerStep := m.call.serve m.before

def handed? (m : TrackerMoment) : Option Completion := m.call.handed?

def accepted? (m : TrackerMoment) : Option Completion :=
  match m.step.reply with
  | .registered (.ok ()) => m.handed?
  | _ => none

def refused? (m : TrackerMoment) : Option Completion :=
  match m.step.reply with
  | .registered (.error _) => m.handed?
  | _ => none

def fired? (m : TrackerMoment) : Option Firing := m.step.fired

def cancelled? (m : TrackerMoment) : Option Completion :=
  match m.call with
  | .cancel => m.before.pending
  | _ => none

end TrackerMoment

namespace Tracker

def moments (t : Tracker) : List TrackerCall → List TrackerMoment
  | [] => []
  | call :: rest => ⟨t, call⟩ :: moments (call.serve t).tracker rest

def after (t : Tracker) : List TrackerCall → Tracker
  | [] => t
  | call :: rest => after (call.serve t).tracker rest

section History

variable (moments : List TrackerMoment)

def accepted : List Completion := moments.filterMap TrackerMoment.accepted?

def refused : List Completion := moments.filterMap TrackerMoment.refused?

def cancelled : List Completion := moments.filterMap TrackerMoment.cancelled?

def firings : List Firing := moments.filterMap TrackerMoment.fired?

def heard : List Completion := (firings moments).map Firing.completion

end History

section Cons

theorem filterMap_cons_toList {α β : Type} (f : α → Option β) (a : α) (rest : List α) :
    (a :: rest).filterMap f = (f a).toList ++ rest.filterMap f := by
  cases found : f a <;> simp [found]

variable (m : TrackerMoment) (rest : List TrackerMoment)

theorem accepted_cons : accepted (m :: rest) = m.accepted?.toList ++ accepted rest :=
  filterMap_cons_toList ..

theorem cancelled_cons : cancelled (m :: rest) = m.cancelled?.toList ++ cancelled rest :=
  filterMap_cons_toList ..

theorem refused_cons : refused (m :: rest) = m.refused?.toList ++ refused rest :=
  filterMap_cons_toList ..

theorem heard_cons :
    heard (m :: rest) = (m.fired?.map Firing.completion).toList ++ heard rest := by
  simp only [heard, firings, List.map_filterMap]
  exact filterMap_cons_toList ..

end Cons

variable {t : Tracker}

theorem moments_append (t : Tracker) (first later : List TrackerCall) :
    t.moments (first ++ later) = t.moments first ++ (t.after first).moments later := by
  induction first generalizing t with
  | nil => rfl
  | cons call rest ih => simp only [List.cons_append, moments, after, ih]

theorem handed_moments (t : Tracker) (calls : List TrackerCall) :
    (t.moments calls).filterMap TrackerMoment.handed? = calls.filterMap TrackerCall.handed? := by
  induction calls generalizing t with
  | nil => rfl
  | cons call rest ih => simp only [moments, List.filterMap_cons, ih, TrackerMoment.handed?]

theorem serve_register_of_idle (idle : t.pending = none) (c : Completion) :
    (TrackerCall.register c).serve t = { reply := .registered (.ok ()), tracker := ⟨some c⟩ } := by
  have taken : t.register c = .ok ⟨some c⟩ := register_eq_ok.mpr ⟨idle, rfl⟩
  simp only [TrackerCall.serve, taken]

theorem serve_register_of_busy (busy : t.pending ≠ none) (c : Completion) :
    (TrackerCall.register c).serve t =
      { reply := .registered (.error .transferInProgress), tracker := t } := by
  simp only [TrackerCall.serve, register_of_pending busy]

theorem serve_tick (t : Tracker) : TrackerCall.tick.serve t =
    { reply := .ticked t.isPending, fired := t.pending.map (⟨·, .ok ()⟩), tracker := ⟨none⟩ } := by
  obtain ⟨_ | c⟩ := t <;> rfl

end Tracker

namespace TrackerMoment

/-- What was pending or is accepted now is fired, cancelled or pending afterwards. -/
theorem conserved (m : TrackerMoment) :
    (m.fired?.map Firing.completion).toList ++ (m.cancelled?.toList ++ m.step.tracker.pending.toList) =
      m.before.pending.toList ++ m.accepted?.toList := by
  obtain ⟨t, call⟩ := m
  cases call with
  | register c =>
    by_cases idle : t.pending = none
    · simp [step, fired?, cancelled?, accepted?, handed?, TrackerCall.handed?,
        Tracker.serve_register_of_idle idle, idle]
    · simp [step, fired?, cancelled?, accepted?, Tracker.serve_register_of_busy idle]
  | tick => simp [step, fired?, cancelled?, accepted?, Tracker.serve_tick, Function.comp_def]
  | cancel => simp [step, fired?, cancelled?, accepted?, TrackerCall.serve, Tracker.cancel]
  | isPending => simp [step, fired?, cancelled?, accepted?, TrackerCall.serve]

theorem handed_eq (m : TrackerMoment) :
    m.handed?.toList = m.accepted?.toList ++ m.refused?.toList := by
  obtain ⟨t, call⟩ := m
  cases call with
  | register c =>
    by_cases idle : t.pending = none
    · simp [step, accepted?, refused?, Tracker.serve_register_of_idle idle]
    · simp [step, accepted?, refused?, Tracker.serve_register_of_busy idle]
  | tick | cancel | isPending => rfl

theorem status_of_fired {m : TrackerMoment} {f : Firing} (fired : m.fired? = some f) :
    f.status = .ok () := by
  obtain ⟨t, call⟩ := m
  cases call with
  | register c =>
    by_cases idle : t.pending = none
    · simp [fired?, step, Tracker.serve_register_of_idle idle] at fired
    · simp [fired?, step, Tracker.serve_register_of_busy idle] at fired
  | tick =>
    simp only [fired?, step, Tracker.serve_tick, Option.map_eq_some_iff] at fired
    obtain ⟨c, -, rfl⟩ := fired
    rfl
  | cancel | isPending => cases fired

end TrackerMoment

namespace Tracker

theorem heard_perm (t : Tracker) (calls : List TrackerCall) :
    (heard (t.moments calls) ++ (cancelled (t.moments calls) ++ (t.after calls).pending.toList)).Perm
      (t.pending.toList ++ accepted (t.moments calls)) := by
  induction calls generalizing t with
  | nil => simp [moments, after, heard, firings, cancelled, accepted]
  | cons call rest ih =>
    have later := ih (call.serve t).tracker
    have here := TrackerMoment.conserved ⟨t, call⟩
    simp only [TrackerMoment.step] at here
    simp only [moments, after, heard_cons, cancelled_cons, accepted_cons]
    generalize heard ((call.serve t).tracker.moments rest) = heard_later at later ⊢
    generalize cancelled ((call.serve t).tracker.moments rest) = cancelled_later at later ⊢
    generalize accepted ((call.serve t).tracker.moments rest) = accepted_later at later ⊢
    -- What is heard later moves behind what is cancelled now, and the step's equation takes the front.
    rw [← List.append_assoc t.pending.toList, ← here]
    simp only [List.append_assoc]
    exact .append_left _ ((List.perm_append_comm_assoc ..).trans (.append_left _ later))

theorem heard_sublist (t : Tracker) (calls : List TrackerCall) :
    (heard (t.moments calls)).Sublist (t.pending.toList ++ accepted (t.moments calls)) := by
  induction calls generalizing t with
  | nil => exact List.nil_sublist _
  | cons call rest ih =>
    have here := TrackerMoment.conserved ⟨t, call⟩
    simp only [moments, heard_cons, accepted_cons]
    rw [← List.append_assoc, ← here, List.append_assoc, List.append_assoc]
    exact .append_left ((ih _).trans (List.sublist_append_right _ _)) _

theorem handed_perm (t : Tracker) (calls : List TrackerCall) :
    (calls.filterMap TrackerCall.handed?).Perm
      (accepted (t.moments calls) ++ refused (t.moments calls)) := by
  rw [← handed_moments t]
  generalize t.moments calls = moments
  induction moments with
  | nil => exact .nil
  | cons m rest ih =>
    rw [filterMap_cons_toList, m.handed_eq, accepted_cons, refused_cons, List.append_assoc,
      List.append_assoc]
    exact .append_left _ ((ih.append_left _).trans (List.perm_append_comm_assoc ..))

theorem status_of_firings {moments : List TrackerMoment} {f : Firing} (fired : f ∈ firings moments) :
    f.status = .ok () := by
  obtain ⟨m, -, fires⟩ := List.mem_filterMap.mp fired
  exact TrackerMoment.status_of_fired fires

end Tracker

namespace TrackerCall

def run (calls : List TrackerCall) : List TrackerMoment := ({ } : Tracker).moments calls

def last (calls : List TrackerCall) : Tracker := ({ } : Tracker).after calls

/-- What holds after a run. -/
structure Accounted (calls : List TrackerCall) : Prop where
  partitioned : (Tracker.accepted (run calls)).Perm
    (Tracker.heard (run calls) ++ Tracker.cancelled (run calls) ++ (last calls).pending.toList)
  once : (Tracker.accepted (run calls)).Nodup
  in_order : (Tracker.heard (run calls)).Sublist (Tracker.accepted (run calls))
  succeeded : ∀ f ∈ Tracker.firings (run calls), f.status = .ok ()
  accepts_when_idle : ∀ c, (last calls).pending = none → (register c).serve (last calls) =
    { reply := .registered (.ok ()), tracker := ⟨some c⟩ }
  refuses_when_busy : ∀ c, (last calls).pending ≠ none → (register c).serve (last calls) =
    { reply := .registered (.error .transferInProgress), tracker := last calls }
  ticks : ∃ delivered, (tick.serve (last calls)).reply = .ticked delivered ∧
    (delivered = true ↔ (tick.serve (last calls)).fired ≠ none)
  tells_pending : ∃ waiting, (isPending.serve (last calls)).reply = .pending waiting ∧
    (waiting = true ↔ (Tracker.accepted (run calls)).length =
      (Tracker.heard (run calls)).length + (Tracker.cancelled (run calls)).length + 1)
  /-- What was refused or cancelled is heard in no continuation that hands over others. -/
  silenced : ∀ more, ((calls ++ more).filterMap handed?).Nodup →
    ∀ c ∈ Tracker.refused (run calls) ++ Tracker.cancelled (run calls),
      c ∉ Tracker.heard (run (calls ++ more))

theorem accepted_perm (calls : List TrackerCall) :
    (Tracker.accepted (run calls)).Perm
      (Tracker.heard (run calls) ++ Tracker.cancelled (run calls) ++ (last calls).pending.toList) := by
  rw [List.append_assoc]
  exact (Tracker.heard_perm { } calls).symm

theorem accepted_refused_nodup {calls : List TrackerCall} (distinct : (calls.filterMap handed?).Nodup) :
    (Tracker.accepted (run calls) ++ Tracker.refused (run calls)).Nodup :=
  (Tracker.handed_perm { } calls).nodup_iff.mp distinct

theorem not_heard_of_silenced {calls more : List TrackerCall}
    (distinct : ((calls ++ more).filterMap handed?).Nodup) {c : Completion}
    (silenced : c ∈ Tracker.refused (run calls) ++ Tracker.cancelled (run calls)) :
    c ∉ Tracker.heard (run (calls ++ more)) := by
  intro fires
  obtain ⟨once, _, apart⟩ := List.nodup_append.mp (accepted_refused_nodup distinct)
  have split : run (calls ++ more) = run calls ++ (last calls).moments more :=
    Tracker.moments_append { } calls more
  rcases List.mem_append.mp silenced with was_refused | was_cancelled
  · have taken := (Tracker.heard_sublist { } (calls ++ more)).subset fires
    refine apart c taken c ?_ rfl
    rw [split, Tracker.refused, List.filterMap_append]
    exact List.mem_append_left _ was_refused
  · have parts := (accepted_perm (calls ++ more)).nodup_iff.mp once
    obtain ⟨_, _, apart⟩ := List.nodup_append.mp (List.nodup_append.mp parts).1
    refine apart c fires c ?_ rfl
    rw [split, Tracker.cancelled, List.filterMap_append]
    exact List.mem_append_left _ was_cancelled

/-- The completions taken are those that fired, each once and in turn, those cancelled and the one
pending; what was refused or cancelled never fires. -/
theorem completions_accounted_for {calls : List TrackerCall}
    (distinct : (calls.filterMap handed?).Nodup) : Accounted calls where
  partitioned := accepted_perm calls
  once := (List.nodup_append.mp (accepted_refused_nodup distinct)).1
  in_order := Tracker.heard_sublist { } calls
  succeeded _ fired := Tracker.status_of_firings fired
  accepts_when_idle c idle := Tracker.serve_register_of_idle idle c
  refuses_when_busy c busy := Tracker.serve_register_of_busy busy c
  ticks := by
    refine ⟨_, congrArg TrackerStep.reply (Tracker.serve_tick _), ?_⟩
    rw [Tracker.serve_tick]
    simp [Tracker.isPending, Option.isSome_iff_ne_none]
  tells_pending := by
    refine ⟨_, rfl, ?_⟩
    rw [(accepted_perm calls).length_eq, List.length_append, List.length_append, Tracker.isPending]
    cases (last calls).pending <;> simp
  silenced _ distinct _ silenced := not_heard_of_silenced distinct silenced

theorem four_completions_accounted_for :
    let calls : List TrackerCall := [.register (.named "a"), .register (.named "b"), .tick,
      .register (.named "c"), .cancel, .register (.named "d"), .isPending]
    (calls.filterMap handed?).Nodup ∧
      (Tracker.accepted (run calls)).Perm [.named "a", .named "c", .named "d"] ∧
      Completion.named "b" ∉ Tracker.heard (run (calls ++ [.cancel, .tick])) := by
  intro calls
  have distinct : (calls.filterMap handed?).Nodup := by decide
  have accounted := completions_accounted_for distinct
  exact ⟨distinct, accounted.partitioned, accounted.silenced [.cancel, .tick] (by decide) _ (by decide)⟩

end TrackerCall

end DiskImage
