import DiskImage.Proofs.Transfer

/-! How whole transfers end. None panics, and only over a medium that goes on interrupting can one fail to
end; open files never do, nor do scripted media that interrupt at most every second call. -/
namespace DiskImage

def Ends {α : Type} (answer : Except Halt α) : Prop :=
  (∃ a, answer = .ok a) ∨ ∃ e, answer = .error (.error e)

theorem Ends.ok {α : Type} (a : α) : Ends (.ok a : Except Halt α) := .inl ⟨a, rfl⟩

theorem Ends.error {α : Type} (e : ImageError) : Ends (.error (.error e) : Except Halt α) :=
  .inr ⟨e, rfl⟩

theorem Ends.map {α α' : Type} {answer : Except Halt α} (ends : Ends answer) (f : α → α') :
    Ends (answer.map f) := by
  obtain ⟨a, rfl⟩ | ⟨e, rfl⟩ := ends
  · exact .ok (f a)
  · exact .error e

theorem Ends.exists_error {α : Type} {answer : Except Halt α} (ends : Ends answer) {halt : Halt}
    (failed : answer = .error halt) : ∃ e, halt = .error e := by
  obtain ⟨a, rfl⟩ | ⟨e, rfl⟩ := ends
  · cases failed
  · exact ⟨e, (Except.error.inj failed).symm⟩

namespace Medium

variable {μ : Type} [Medium μ]

inductive ReadsTo (m : μ) : μ → Prop
  | refl : ReadsTo m m
  | read {m' : μ} (reached : ReadsTo m m') (position wanted : Nat) :
    ReadsTo m (readAt m' position wanted).2

def Interrupts : Nat → μ → Prop
  | 0, _ => True
  | count + 1, m => ∃ position wanted : Nat,
    (readAt m position wanted).1 = .interrupted ∧ Interrupts count (readAt m position wanted).2

/-- However it is read, no more calls in a row are interrupted than its patience says. -/
def Steady (m : μ) : Prop :=
  ∀ m', ReadsTo m m' → ¬ Interrupts (patience m + 1) m'

end Medium

/-- The call comes back to its caller, unless `m` keeps interrupting it; it never panics. -/
def EndsOver {μ α : Type} [Medium μ] (m : μ) (answer : Except Halt α) : Prop :=
  Ends answer ∨ (answer = .error .stalled ∧ ¬ Medium.Steady m)

section

variable {μ α α' : Type} [Medium μ] {m : μ} {answer : Except Halt α}

theorem EndsOver.map (ends : EndsOver m answer) (f : α → α') : EndsOver m (answer.map f) := by
  obtain ends | ⟨rfl, unsteady⟩ := ends
  · exact .inl (ends.map f)
  · exact .inr ⟨rfl, unsteady⟩

theorem EndsOver.error {halt : Halt} (ends : EndsOver m (.error halt : Except Halt α)) :
    EndsOver m (.error halt : Except Halt α') := by
  obtain (⟨a, ok⟩ | ⟨e, failed⟩) | ⟨stalled, unsteady⟩ := ends
  · cases ok
  · cases failed
    exact .inl (.error e)
  · cases stalled
    exact .inr ⟨rfl, unsteady⟩

theorem EndsOver.never_panics (ends : EndsOver m answer) (p : Panic) :
    answer ≠ .error (.panic p) := by
  obtain (⟨a, rfl⟩ | ⟨e, rfl⟩) | ⟨rfl, -⟩ := ends <;> exact nofun

theorem EndsOver.ends (ends : EndsOver m answer) (steady : Medium.Steady m) : Ends answer :=
  ends.resolve_right fun stalled => stalled.2 steady

end

theorem transferAnswer_ends (offset expected moved : Nat) :
    Ends (transferAnswer offset expected moved) := by
  unfold transferAnswer
  split
  · exact .ok ()
  · exact .error _

section Transfers

variable {μ : Type} [Medium μ]

theorem readRest_ends_or_stalls (offset calls done : Nat) (buffer : Bytes) (m : μ) :
    Ends (readRest offset calls done buffer m).answer ∨
      (readRest offset calls done buffer m).answer = .error .stalled := by
  induction calls generalizing done buffer m with
  | zero =>
    unfold readRest
    split
    · exact .inl (transferAnswer_ends ..)
    · exact .inr rfl
  | succ calls ih =>
    unfold readRest
    by_cases full : buffer.size ≤ done
    · rw [if_pos full]
      exact .inl (transferAnswer_ends ..)
    · rw [if_neg full]
      cases Medium.readAt m (offset + done) (buffer.size - done) with
      | mk moved m' =>
        cases moved with
        | interrupted => exact ih ..
        | failed e => exact .inl (.error _)
        | moved data =>
          simp only
          split
          · exact .inl (transferAnswer_ends ..)
          · exact ih ..

theorem readRest_ends {first m : μ} (steady : Medium.Steady first) (reached : Medium.ReadsTo first m)
    (offset : Nat) {calls spare done : Nat} {buffer : Bytes}
    (spared : ¬ Medium.Interrupts (spare + 1) m)
    (enough : spare + (Medium.patience first + 1) * (buffer.size - done) ≤
      calls + Medium.patience first) :
    Ends (readRest offset calls done buffer m).answer := by
  -- Each byte still to come needs one call and up to `patience` that are interrupted, the next byte
  -- only `spare` of these.
  induction calls generalizing spare done buffer m with
  | zero =>
    unfold readRest
    by_cases full : buffer.size ≤ done
    · rw [if_pos full]
      exact transferAnswer_ends ..
    · have wanted := Nat.le_mul_of_pos_right (Medium.patience first + 1)
        (show 0 < buffer.size - done by omega)
      omega
  | succ calls ih =>
    unfold readRest
    by_cases full : buffer.size ≤ done
    · rw [if_pos full]
      exact transferAnswer_ends ..
    · rw [if_neg full]
      have next := reached.read (offset + done) (buffer.size - done)
      cases call : Medium.readAt m (offset + done) (buffer.size - done) with
      | mk moved m' =>
        rw [call] at next
        cases moved with
        | interrupted =>
          have again (count : Nat) (more : Medium.Interrupts count m') :
              Medium.Interrupts (count + 1) m :=
            ⟨offset + done, buffer.size - done, by rw [call], by rwa [call]⟩
          cases spare with
          | zero => exact absurd (again 0 trivial) spared
          | succ spare => exact ih next (fun more => spared (again _ more)) (by omega)
        | failed e => exact .error _
        | moved data =>
          have size : (buffer.patch done data).size = max buffer.size (done + data.size) := by
            simp only [Bytes.patch_eq, ByteArray.size_append, ByteArray.size_extract]
            omega
          simp only
          split
          · exact transferAnswer_ends ..
          · have fewer := Nat.mul_le_mul_left (Medium.patience first + 1)
              (show (buffer.patch done data).size - (done + data.size) + 1 ≤ buffer.size - done by
                omega)
            rw [Nat.mul_add, Nat.mul_one] at fewer
            exact ih next (steady m' next) (by omega)

theorem readExactAt_ends (m : μ) (offset : Nat) (buffer : Bytes) :
    EndsOver m (readExactAt m offset buffer).answer := by
  unfold readExactAt
  split
  · exact .inl (.error _)
  · by_cases steady : Medium.Steady m
    · refine .inl (readRest_ends steady .refl offset (steady m .refl) ?_)
      rw [callBudget, Nat.mul_succ, Nat.sub_zero]
      omega
    · obtain ends | stalls := readRest_ends_or_stalls offset
        (callBudget (Medium.patience m) buffer.size) 0 buffer m
      · exact .inl ends
      · exact .inr ⟨stalls, steady⟩

end Transfers

theorem steady_openFile (file : OpenFile) : Medium.Steady file :=
  fun _ _ ⟨_, _, interrupted, _⟩ => nomatch interrupted

theorem interruptEvery_readsTo {m m' : ScriptedMedium} (reached : Medium.ReadsTo m m') :
    m'.interruptEvery = m.interruptEvery := by
  induction reached with
  | refl => rfl
  | read _ position wanted ih =>
    rw [(readAt_scripted (Prod.eta _).symm).1, ← ih]

theorem interrupted_scripted {m : ScriptedMedium} {position wanted : Nat}
    (interrupted : (Medium.readAt m position wanted).1 = .interrupted) :
    m.interruptEvery ≠ 0 ∧ (m.calls + 1) % m.interruptEvery = 0 := by
  simp only [Medium.readAt, ScriptedMedium.call] at interrupted
  split at interrupted
  · next counted => exact counted
  · split at interrupted <;> cases interrupted

theorem steady_scripted {m : ScriptedMedium} (apart : m.interruptEvery ≠ 1) : Medium.Steady m := by
  intro m' reached ⟨position, wanted, interrupted, position', wanted', again, _⟩
  have same := interruptEvery_readsTo reached
  obtain ⟨nonzero, first⟩ := interrupted_scripted interrupted
  have counted : (Medium.readAt m' position wanted).2 = { m' with calls := m'.calls + 1 } :=
    (readAt_scripted (Prod.eta _).symm).1
  obtain ⟨-, second⟩ := interrupted_scripted again
  rw [counted] at second
  -- Two numbers in a row are not both multiples of a number above one.
  have dvd := (Nat.dvd_add_right (Nat.dvd_of_mod_eq_zero first)).mp (Nat.dvd_of_mod_eq_zero second)
  exact apart (same ▸ Nat.dvd_one.mp dvd)

end DiskImage
