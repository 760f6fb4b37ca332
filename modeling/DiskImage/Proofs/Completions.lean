import DiskImage.Proofs.Discipline

/-! When completions fire. The tracker holds at most one, from the request that was left pending to the
next check or cancel, so a completion fires at most once, and just when it is checked for in time. -/
namespace DiskImage

def fired? : Except Halt Answer → Option Completion
  | .ok (.delivered c) => c
  | _ => none

def firings (answers : List (Except Halt Answer)) : List Completion := answers.filterMap fired?

@[simp] theorem firings_nil : firings [] = [] := rfl

theorem firings_append (first later : List (Except Halt Answer)) :
    firings (first ++ later) = firings first ++ firings later := List.filterMap_append

theorem firings_cons (answer : Except Halt Answer) (rest : List (Except Halt Answer)) :
    firings (answer :: rest) = (fired? answer).toList ++ firings rest := by
  cases fired : fired? answer <;> simp [firings, fired]

theorem firings_silent {answer : Except Halt Answer} (silent : fired? answer = none)
    (rest : List (Except Halt Answer)) : firings (answer :: rest) = firings rest := by
  rw [firings_cons, silent]
  rfl

namespace Request

def CheckedFirst (requests : List Request) : Prop :=
  ∃ between rest, requests = between ++ check :: rest ∧ cancel ∉ between

theorem not_checkedFirst_nil : ¬ CheckedFirst [] := by
  rintro ⟨between, rest, split, -⟩
  cases between <;> cases split

theorem checkedFirst_check (rest : List Request) : CheckedFirst (check :: rest) :=
  ⟨[], rest, rfl, List.not_mem_nil⟩

theorem not_checkedFirst_cancel (rest : List Request) : ¬ CheckedFirst (cancel :: rest) := by
  rintro ⟨between, later, split, uncancelled⟩
  cases between with
  | nil => cases split
  | cons first between =>
    obtain ⟨rfl, -⟩ := List.cons.inj split
    exact uncancelled List.mem_cons_self

theorem checkedFirst_cons {request : Request} (not_check : request ≠ check)
    (not_cancel : request ≠ cancel) (rest : List Request) :
    CheckedFirst (request :: rest) ↔ CheckedFirst rest := by
  constructor
  · rintro ⟨between, later, split, uncancelled⟩
    cases between with
    | nil => exact absurd (List.cons.inj split).1 not_check
    | cons first between =>
      exact ⟨between, later, (List.cons.inj split).2,
        fun member => uncancelled (List.mem_cons_of_mem _ member)⟩
  · rintro ⟨between, later, rfl, uncancelled⟩
    refine ⟨request :: between, later, rfl, ?_⟩
    rintro (_ | ⟨_, member⟩)
    · exact not_cancel rfl
    · exact uncancelled member

end Request

section Runs

variable {β : Type} [Backend β]

theorem fired_of_call (b : β) (w : World) {request : Request} (called : request.call? ≠ none) :
    fired? (request.serve b w).answer = none := by
  have map_none {α : Type} {f : α → Answer} (silent : ∀ a, fired? (.ok (f a)) = none)
      (answer : Except Halt α) : fired? (answer.map f) = none := by
    cases answer with
    | error halt => rfl
    | ok a => exact silent a
  cases request with
  | read =>
    apply map_none
    rintro (_ | _) <;> rfl
  | write | prefetch =>
    apply map_none
    rintro (_ | _) <;> rfl
  | saveState | flush => exact map_none (fun _ => rfl) _
  | register | check | cancel => exact absurd rfl called

theorem Disciplined.step_absent (disciplined : Disciplined β) (b : β) {w : World} {c : Completion}
    (absent : w.tracker.pending ≠ some c) {request : Request}
    (other : request.completion? ≠ some c) :
    (request.serve b w).state.2.tracker.pending ≠ some c ∧
      fired? (request.serve b w).answer ≠ some c := by
  have driven (called : request.call? ≠ none) :
      (request.serve b w).state.2.tracker.pending ≠ some c ∧
        fired? (request.serve b w).answer ≠ some c := by
    rw [fired_of_call b w called]
    refine ⟨?_, (Option.some_ne_none c).symm⟩
    cases disciplined b w request called with
    | untouched not_pending kept =>
      rw [kept]
      exact absent
    | deferred pending hands registered =>
      rw [(Tracker.register_eq_ok.mp registered).2, ← hands]
      exact other
  cases request with
  | read | write | prefetch | saveState | flush => exact driven (Option.some_ne_none _)
  | register c' =>
    simp only [Request.serve]
    cases registered : w.tracker.register c' with
    | error e => exact ⟨absent, (Option.some_ne_none c).symm⟩
    | ok tracker =>
      rw [(Tracker.register_eq_ok.mp registered).2]
      exact ⟨other, (Option.some_ne_none c).symm⟩
  | check => exact ⟨(Option.some_ne_none c).symm, absent⟩
  | cancel => exact ⟨(Option.some_ne_none c).symm, (Option.some_ne_none c).symm⟩

/-- While the tracker holds a completion, only a check or a cancel moves it. -/
theorem Disciplined.step_waiting (disciplined : Disciplined β) (b : β) {w : World} {c : Completion}
    (waiting : w.tracker.pending = some c) {request : Request} (not_check : request ≠ .check)
    (not_cancel : request ≠ .cancel) :
    (request.serve b w).state.2.tracker.pending = some c ∧
      fired? (request.serve b w).answer = none := by
  have occupied : w.tracker.pending ≠ none := by simp [waiting]
  have driven (called : request.call? ≠ none) :
      (request.serve b w).state.2.tracker.pending = some c ∧
        fired? (request.serve b w).answer = none := by
    refine ⟨?_, fired_of_call b w called⟩
    cases disciplined b w request called with
    | untouched not_pending kept => rw [kept, waiting]
    | deferred pending hands registered =>
      exact absurd (Tracker.register_eq_ok.mp registered).1 occupied
  cases request with
  | read | write | prefetch | saveState | flush => exact driven (Option.some_ne_none _)
  | register c' =>
    simp only [Request.serve, Tracker.register_of_pending occupied]
    exact ⟨waiting, rfl⟩
  | check => exact absurd rfl not_check
  | cancel => exact absurd rfl not_cancel

theorem Disciplined.run_absent (disciplined : Disciplined β) (b : β) {w : World} {c : Completion}
    (absent : w.tracker.pending ≠ some c) {requests : List Request}
    (others : ∀ other ∈ requests, other.completion? ≠ some c) :
    (Request.serveAll b w requests).2.2.tracker.pending ≠ some c ∧
      c ∉ firings (Request.serveAll b w requests).1 := by
  induction requests generalizing b w with
  | nil => exact ⟨absent, List.not_mem_nil⟩
  | cons request rest ih =>
    obtain ⟨still_absent, not_fired⟩ :=
      disciplined.step_absent b absent (others request List.mem_cons_self)
    obtain ⟨last, not_later⟩ := ih (request.serve b w).state.1 still_absent
      (fun other member => others other (List.mem_cons_of_mem _ member))
    refine ⟨last, ?_⟩
    simp only [Request.serveAll, firings_cons, List.mem_append, Option.mem_toList, not_or]
    exact ⟨not_fired, not_later⟩

theorem Disciplined.run_waiting (disciplined : Disciplined β) (b : β) {w : World} {c : Completion}
    (waiting : w.tracker.pending = some c) {requests : List Request}
    (others : ∀ other ∈ requests, other.completion? ≠ some c) :
    (firings (Request.serveAll b w requests).1).count c ≤ 1 ∧
      (c ∈ firings (Request.serveAll b w requests).1 ↔ Request.CheckedFirst requests) := by
  induction requests generalizing b w with
  | nil => exact ⟨Nat.zero_le 1, iff_of_false List.not_mem_nil Request.not_checkedFirst_nil⟩
  | cons request rest ih =>
    have others_later : ∀ other ∈ rest, other.completion? ≠ some c :=
      fun other member => others other (List.mem_cons_of_mem _ member)
    simp only [Request.serveAll, firings_cons]
    by_cases is_check : request = .check
    · subst is_check
      have fired : fired? (Request.check.serve b w).answer = some c := waiting
      have gone := (disciplined.run_absent (Request.check.serve b w).state.1
        (w := (Request.check.serve b w).state.2) (c := c) (Option.some_ne_none c).symm others_later).2
      rw [fired]
      refine ⟨?_, iff_of_true List.mem_cons_self (Request.checkedFirst_check rest)⟩
      simp [List.count_eq_zero_of_not_mem gone]
    · by_cases is_cancel : request = .cancel
      · subst is_cancel
        have gone := (disciplined.run_absent (Request.cancel.serve b w).state.1
          (w := (Request.cancel.serve b w).state.2) (c := c) (Option.some_ne_none c).symm others_later).2
        refine ⟨?_, iff_of_false gone (Request.not_checkedFirst_cancel rest)⟩
        exact Nat.le_trans (Nat.le_of_eq (List.count_eq_zero_of_not_mem gone)) (Nat.zero_le 1)
      · obtain ⟨still_waiting, silent⟩ :=
          disciplined.step_waiting b waiting is_check is_cancel
        rw [silent, Request.checkedFirst_cons is_check is_cancel]
        exact ih (request.serve b w).state.1 still_waiting others_later

theorem serveAll_append (b : β) (w : World) (first later : List Request) :
    (Request.serveAll b w (first ++ later)).1 = (Request.serveAll b w first).1 ++
      (Request.serveAll (Request.serveAll b w first).2.1 (Request.serveAll b w first).2.2 later).1 := by
  induction first generalizing b w with
  | nil => rfl
  | cons request rest ih =>
    simp only [List.cons_append, Request.serveAll, ih]

theorem length_serveAll (b : β) (w : World) (requests : List Request) :
    (Request.serveAll b w requests).1.length = requests.length := by
  induction requests generalizing b w with
  | nil => rfl
  | cons request rest ih => simp only [Request.serveAll, List.length_cons, ih]

/-- What the answers to `before`, the request that hands over `c`, and `after` say about `c`. -/
structure FiresWhenDelivered (before after : List Request) (c : Completion)
    (answers : List (Except Halt Answer)) : Prop where
  /-- It does not fire before its request is answered, nor in that step. -/
  not_yet : c ∉ firings (answers.take (before.length + 1))
  once : (firings answers).count c ≤ 1
  /-- It fires just when its request was left pending and a check followed with no cancel between. -/
  fires_iff : c ∈ firings answers ↔
    answers[before.length]? = some (.ok .pending) ∧ Request.CheckedFirst after

theorem Disciplined.firesWhenDelivered (disciplined : Disciplined β) (b : β) {w : World}
    {before after : List Request} {request : Request} {c : Completion}
    (called : request.call? ≠ none) (hands : request.completion? = some c)
    (absent : w.tracker.pending ≠ some c)
    (others : ∀ other ∈ before ++ after, other.completion? ≠ some c) :
    FiresWhenDelivered before after c
      (Request.serveAll b w (before ++ request :: after)).1 := by
  obtain ⟨absent_then, not_before⟩ := disciplined.run_absent b absent
    fun other member => others other (List.mem_append_left _ member)
  have others_later : ∀ other ∈ after, other.completion? ≠ some c :=
    fun other member => others other (List.mem_append_right _ member)
  have length := length_serveAll b w before
  rw [serveAll_append]
  generalize (Request.serveAll b w before).1 = first at not_before length ⊢
  generalize (Request.serveAll b w before).2.1 = b'
  generalize (Request.serveAll b w before).2.2 = w' at absent_then ⊢
  have silent := fired_of_call b' w' called
  have tracked := disciplined b' w' request called
  simp only [Request.serveAll]
  generalize request.serve b' w' = outcome at silent tracked ⊢
  have all_firings (later : List (Except Halt Answer)) :
      firings (first ++ outcome.answer :: later) = firings first ++ firings later := by
    rw [firings_append, firings_silent silent]
  have here (later : List (Except Halt Answer)) :
      (first ++ outcome.answer :: later)[before.length]? = some outcome.answer := by
    rw [← length, List.getElem?_append_right (Nat.le_refl _), Nat.sub_self]
    rfl
  have up_to_here (later : List (Except Halt Answer)) :
      (first ++ outcome.answer :: later).take (before.length + 1) = first ++ [outcome.answer] := by
    rw [← length, List.take_length_add_append]
    rfl
  have count_first := List.count_eq_zero_of_not_mem not_before
  cases tracked with
  | untouched not_pending kept =>
    have gone := (disciplined.run_absent outcome.state.1 (kept ▸ absent_then) others_later).2
    refine ⟨by rwa [up_to_here, all_firings, firings_nil, List.append_nil], ?_, ?_⟩
    · rw [all_firings, List.count_append, count_first, List.count_eq_zero_of_not_mem gone]
      exact Nat.zero_le 1
    · rw [all_firings, here, List.mem_append]
      exact iff_of_false (not_or.mpr ⟨not_before, gone⟩)
        (fun both => not_pending (Option.some.inj both.1))
  | deferred pending hands' registered =>
    obtain rfl := Option.some.inj (hands.symm.trans hands')
    have waiting : outcome.state.2.tracker.pending = some c := by
      rw [(Tracker.register_eq_ok.mp registered).2]
    obtain ⟨once, fires_iff⟩ := disciplined.run_waiting outcome.state.1 waiting others_later
    refine ⟨by rwa [up_to_here, all_firings, firings_nil, List.append_nil], ?_, ?_⟩
    · rw [all_firings, List.count_append, count_first, Nat.zero_add]
      exact once
    · rw [all_firings, here, pending, List.mem_append, fires_iff]
      simp [not_before]

end Runs

/-- A completion fires at most once, after its request was answered, and just when that request was
left pending and delivered. -/
theorem fires_when_delivered :
    (∀ (β : Type) [Backend β], Disciplined β → ∀ (d : Drive β) (w : World)
      (before after : List Request) (request : Request) (c : Completion),
      request.call? ≠ none → request.completion? = some c → w.tracker.pending ≠ some c →
      (∀ other ∈ before ++ after, other.completion? ≠ some c) →
        FiresWhenDelivered before after c
          (Request.serveAll d w (before ++ request :: after)).1) ∧
    Disciplined Storage ∧ Synchronous (Drive FileImage) ∧ Synchronous (Drive RamImage) := by
  refine ⟨?_, Storage.disciplined, Drive.synchronous FileImage.synchronous,
    Drive.synchronous RamImage.synchronous⟩
  intro β _ disciplined d w before after request c called hands absent others
  exact (Drive.disciplined disciplined).firesWhenDelivered d called hands absent others

/-- Of a read, a hint that comes while it is pending, and the read issued again, the first one alone
is heard of. -/
theorem pending_read_fires :
    let d : Drive Storage := ⟨.deferred ⟨.zeros 1024, none⟩, .external, .ofCapacity 1024, false⟩
    let read (id : String) := Request.read 512 512 (.named id)
    let hint := Request.prefetch 0 512 (.named "hint")
    ∀ host : Host, let answers :=
      (Request.serveAll d { host } [read "first", hint, .check, read "again", .check]).1
    Completion.named "first" ∈ firings answers ∧ Completion.named "hint" ∉ firings answers ∧
      Completion.named "again" ∉ firings answers := by
  intro d read hint host answers
  have fires := fires_when_delivered.1 Storage Storage.disciplined d { host }
  have first := (fires [] [hint, .check, read "again", .check] (read "first") (.named "first")
    nofun rfl nofun (by decide)).fires_iff
  have second := (fires [read "first"] [.check, read "again", .check] hint (.named "hint")
    nofun rfl nofun (by decide)).fires_iff
  have third := (fires [read "first", hint, .check] [.check] (read "again") (.named "again")
    nofun rfl nofun (by decide)).fires_iff
  refine ⟨first.mpr ⟨rfl, [hint], _, rfl, by simp [hint]⟩, fun fired => ?_, fun fired => ?_⟩
  · exact nomatch (second.mp fired).1
  · exact nomatch (third.mp fired).1

end DiskImage
