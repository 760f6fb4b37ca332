import DiskImage.Session
import Mathlib.Data.List.FinRange

/-! Operations on a state, in sequence and in another order. What commutes with each part of a sequence
commutes with the whole of it, and a list of operations can be made in any order that exchanges only
such as commute. -/
namespace DiskImage

namespace Outcome

variable {σ α β γ : Type}

/-- Goes on with `next` from where `first` succeeded; a failure is the end of the sequence. -/
def andThen (first : Outcome σ α) (next : α → σ → Outcome σ β) : Outcome σ β :=
  match first.answer with
  | .error halt => ⟨.error halt, first.state⟩
  | .ok a => next a first.state

@[simp] theorem andThen_ok (a : α) (s : σ) (next : α → σ → Outcome σ β) :
    andThen ⟨.ok a, s⟩ next = next a s := rfl

@[simp] theorem andThen_error (halt : Halt) (s : σ) (next : α → σ → Outcome σ β) :
    andThen ⟨.error halt, s⟩ next = ⟨.error halt, s⟩ := rfl

theorem andThen_assoc (first : Outcome σ α) (next : α → σ → Outcome σ β)
    (last : β → σ → Outcome σ γ) :
    (first.andThen next).andThen last = first.andThen fun a s => (next a s).andThen last := by
  cases first with
  | mk answer state => cases answer <;> rfl

theorem mapAnswer_andThen (f : β → γ) (first : Outcome σ α) (next : α → σ → Outcome σ β) :
    Request.mapAnswer f (first.andThen next) =
      first.andThen fun a s => Request.mapAnswer f (next a s) := by
  cases first with
  | mk answer state => cases answer <;> rfl

theorem andThen_congr {first : Outcome σ α} {next next' : α → σ → Outcome σ β}
    (same : ∀ a s, first = ⟨.ok a, s⟩ → next a s = next' a s) :
    first.andThen next = first.andThen next' := by
  cases first with
  | mk answer state =>
    cases answer with
    | error halt => rfl
    | ok a => exact same a state rfl

end Outcome

/-- Neither operation notices whether the other came first, and both orders end in the same state. -/
structure Commutes {σ α β : Type} (Holds : σ → Prop) (a : σ → Outcome σ α) (b : σ → Outcome σ β) :
    Prop where
  left : ∀ s, Holds s → (a (b s).state).answer = (a s).answer
  right : ∀ s, Holds s → (b (a s).state).answer = (b s).answer
  state : ∀ s, Holds s → (b (a s).state).state = (a (b s).state).state

namespace Commutes

variable {σ α β γ : Type} {Holds : σ → Prop} {a : σ → Outcome σ α} {b b' : σ → Outcome σ β}

theorem symm (commutes : Commutes Holds a b) : Commutes Holds b a where
  left := commutes.right
  right := commutes.left
  state s holds := (commutes.state s holds).symm

theorem at_state {s s' : σ} (first : a (b s).state = ⟨(a s).answer, s'⟩)
    (second : b (a s).state = ⟨(b s).answer, s'⟩) : Commutes (· = s) a b := by
  constructor <;> rintro _ rfl <;> simp [first, second]

theorem of_each (each : ∀ s, Holds s → Commutes (· = s) a b) : Commutes Holds a b where
  left s holds := (each s holds).left s rfl
  right s holds := (each s holds).right s rfl
  state s holds := (each s holds).state s rfl

theorem mono {Holds' : σ → Prop} (commutes : Commutes Holds a b) (le : ∀ s, Holds' s → Holds s) :
    Commutes Holds' a b where
  left s holds := commutes.left s (le s holds)
  right s holds := commutes.right s (le s holds)
  state s holds := commutes.state s (le s holds)

theorem congr (commutes : Commutes Holds a b) (kept : ∀ s, Holds s → Holds (a s).state)
    (same : ∀ s, Holds s → b s = b' s) : Commutes Holds a b' where
  left s holds := by rw [← same s holds, commutes.left s holds]
  right s holds := by rw [← same s holds, ← same _ (kept s holds), commutes.right s holds]
  state s holds := by rw [← same s holds, ← same _ (kept s holds), commutes.state s holds]

theorem idle (a : σ → Outcome σ α) (answer : Except Halt β) :
    Commutes Holds a fun s => ⟨answer, s⟩ where
  left _ _ := rfl
  right _ _ := rfl
  state _ _ := rfl

theorem mapAnswer (commutes : Commutes Holds a b) (f : β → γ) :
    Commutes Holds a fun s => Request.mapAnswer f (b s) where
  left s holds := commutes.left s holds
  right s holds := congrArg (Except.map f) (commutes.right s holds)
  state s holds := commutes.state s holds

theorem of_mapAnswer {f : β → γ} (injective : Function.Injective f)
    (commutes : Commutes Holds a fun s => Request.mapAnswer f (b s)) : Commutes Holds a b where
  left s holds := commutes.left s holds
  right s holds := by
    have same := commutes.right s holds
    simp only [Request.mapAnswer] at same
    cases first : (b (a s).state).answer <;> cases second : (b s).answer <;>
      simp_all [Except.map, injective.eq_iff]
  state s holds := commutes.state s holds

theorem andThen {next : β → σ → Outcome σ γ} (first : Commutes Holds a b)
    (kept : ∀ s, Holds s → Holds (b s).state) (later : ∀ x, Commutes Holds a (next x)) :
    Commutes Holds a fun s => (b s).andThen next := by
  have either (s : σ) (holds : Holds s) :
      (∃ halt, (b s).andThen next = ⟨.error halt, (b s).state⟩ ∧
        (b (a s).state).andThen next = ⟨.error halt, (b (a s).state).state⟩) ∨
      ∃ x, (b s).andThen next = next x (b s).state ∧
        (b (a s).state).andThen next = next x (a (b s).state).state := by
    have same := first.right s holds
    have state := first.state s holds
    unfold Outcome.andThen
    cases answer : (b s).answer with
    | error halt => exact .inl ⟨halt, by simp [same, answer]⟩
    | ok x => exact .inr ⟨x, by simp [same, answer, state]⟩
  constructor
  · intro s holds
    obtain ⟨halt, whole, -⟩ | ⟨x, whole, -⟩ := either s holds
    · rw [whole]
      exact first.left s holds
    · rw [whole, (later x).left _ (kept s holds), first.left s holds]
  · intro s holds
    obtain ⟨halt, whole, moved⟩ | ⟨x, whole, moved⟩ := either s holds
    · rw [whole, moved]
    · rw [whole, moved, (later x).right _ (kept s holds)]
  · intro s holds
    obtain ⟨halt, whole, moved⟩ | ⟨x, whole, moved⟩ := either s holds
    · rw [whole, moved]
      exact first.state s holds
    · rw [whole, moved, (later x).state _ (kept s holds)]

end Commutes

/-- The same answers, each to the same operation, and the same state in the end. -/
structure SameRun {ι σ α : Type} (run run' : List (ι × Except Halt α) × σ) : Prop where
  answers : run.1.Perm run'.1
  state : run.2 = run'.2

section Runs

variable {ι σ α : Type} {step : ι → σ → Outcome σ α} {s : σ}

/-- Operations one after another, also past those that fail: what each of them answers, and the state
after the last. -/
def runAll (step : ι → σ → Outcome σ α) (s : σ) : List ι → List (ι × Except Halt α) × σ
  | [] => ([], s)
  | i :: rest =>
    let later := runAll step (step i s).state rest
    ((i, (step i s).answer) :: later.1, later.2)

namespace SameRun

variable {run run' run'' : List (ι × Except Halt α) × σ}

theorem refl (run : List (ι × Except Halt α) × σ) : SameRun run run := ⟨.refl _, rfl⟩

theorem trans (first : SameRun run run') (second : SameRun run' run'') : SameRun run run'' :=
  ⟨first.answers.trans second.answers, first.state.trans second.state⟩

theorem cons (i : ι) {rest rest' : List ι}
    (same : SameRun (runAll step (step i s).state rest) (runAll step (step i s).state rest')) :
    SameRun (runAll step s (i :: rest)) (runAll step s (i :: rest')) :=
  ⟨same.answers.cons _, same.state⟩

end SameRun

variable {Holds : σ → Prop}

theorem runAll_swap (holds : Holds s) {i j : ι} (commutes : Commutes Holds (step i) (step j))
    (rest : List ι) : SameRun (runAll step s (i :: j :: rest)) (runAll step s (j :: i :: rest)) := by
  have left := commutes.left s holds
  have right := commutes.right s holds
  have state := commutes.state s holds
  simp only [runAll, left, right, state]
  exact ⟨.swap .., rfl⟩

variable (kept : ∀ i s, Holds s → Holds (step i s).state)
include kept

theorem runAll_front (holds : Holds s) {front : List ι} {x : ι}
    (free : ∀ i ∈ front, Commutes Holds (step i) (step x)) (back : List ι) :
    SameRun (runAll step s (front ++ x :: back)) (runAll step s (x :: (front ++ back))) := by
  induction front generalizing s with
  | nil => exact .refl _
  | cons i front ih =>
    have moved := ih (kept i s holds) fun j member => free j (List.mem_cons_of_mem _ member)
    exact .trans (.cons i moved) (runAll_swap holds (free i List.mem_cons_self) _)

/-- A list of operations, numbered in their order, can be made in any order that puts an operation before
one of a smaller number only if the two commute. -/
theorem runAll_reordered [Preorder ι] (holds : Holds s) {inTurn order : List ι}
    (numbered : inTurn.Pairwise (· < ·)) (once : order.Perm inTurn)
    (free : order.Pairwise fun i j => i < j ∨ Commutes Holds (step i) (step j)) :
    SameRun (runAll step s order) (runAll step s inTurn) := by
  induction inTurn generalizing order s with
  | nil =>
    rw [List.perm_nil.mp once]
    exact .refl _
  | cons x rest ih =>
    obtain ⟨least, numbered⟩ := List.pairwise_cons.mp numbered
    obtain ⟨front, back, rfl⟩ := List.append_of_mem (once.mem_iff.mpr List.mem_cons_self)
    have others : (front ++ back).Perm rest := (List.perm_middle.symm.trans once).cons_inv
    obtain ⟨-, -, before⟩ := List.pairwise_append.mp free
    -- nothing has a smaller number than the first, so what stands before it commutes with it
    have passed : ∀ i ∈ front, Commutes Holds (step i) (step x) := by
      intro i member
      have later : x < i := least i (others.mem_iff.mp (List.mem_append_left _ member))
      exact (before i member x List.mem_cons_self).resolve_left later.asymm
    have fewer : (front ++ back).Sublist (front ++ x :: back) :=
      (List.sublist_cons_self x back).append_left front
    exact .trans (runAll_front kept holds passed back)
      (.cons x (ih (kept x s holds) numbered others (free.sublist fewer)))

end Runs

end DiskImage
