import DiskImage.Proofs.Transfer

/-! What one call on a scripted medium can do, said once: it is interrupted, it fails, or it moves some of
the bytes that lie before the end of the medium and before its fault. -/
namespace DiskImage

namespace Overlay

theorem byte?_eq (start : Nat) (bytes : Bytes) (i : Nat) :
    byte? ⟨start, bytes⟩ i =
      if start ≤ i ∧ i < start + bytes.size then some (bytes.byte (i - start)) else none := by
  unfold byte?
  by_cases after : start ≤ i
  · by_cases before : i - start < bytes.size
    · simp [after, before, Bytes.byte, show i < start + bytes.size by omega]
    · simp [after, before, show ¬ i < start + bytes.size by omega]
  · simp [after]

theorem byte?_append (start : Nat) (front back : Bytes) (i : Nat) :
    byte? ⟨start, front ++ back⟩ i =
      (byte? ⟨start + front.size, back⟩ i).or (byte? ⟨start, front⟩ i) := by
  rw [byte?_eq, byte?_eq, byte?_eq, ByteArray.size_append, Bytes.byte_append]
  by_cases late : start + front.size ≤ i ∧ i < start + front.size + back.size
  · rw [if_pos late, if_pos (by omega), if_neg (by omega), Option.some_or, Nat.sub_add_eq]
  · rw [if_neg late, Option.none_or]
    by_cases early : start ≤ i ∧ i < start + front.size
    · rw [if_pos early, if_pos (by omega), if_pos (by omega)]
    · rw [if_neg early, if_neg (by omega)]

theorem findSome?_add (position : Nat) (data : Bytes) (overlays : List Overlay) (i : Nat) :
    (add position data overlays).findSome? (·.byte? i) =
      (byte? ⟨position, data⟩ i).or (overlays.findSome? (·.byte? i)) := by
  cases overlays with
  | nil =>
    rw [add, List.findSome?_cons]
    cases byte? ⟨position, data⟩ i <;> rfl
  | cons o rest =>
    rw [add]
    split
    · next meets =>
      subst meets
      rw [List.findSome?_cons, List.findSome?_cons, byte?_append, stop]
      cases byte? ⟨o.start + o.bytes.size, data⟩ i <;> cases byte? o i <;> rfl
    · rw [List.findSome?_cons]
      cases byte? ⟨position, data⟩ i <;> rfl

end Overlay

namespace ScriptedMedium

variable {m : ScriptedMedium}

theorem byte_overlay (m : ScriptedMedium) (position : Nat) (data : Bytes) (i : Nat) :
    (m.overlay position data).byte i =
      if position ≤ i ∧ i < position + data.size then data.byte (i - position) else m.byte i := by
  rw [byte, overlay, Overlay.findSome?_add, Overlay.byte?_eq]
  split <;> rfl

@[simp] theorem size_bytesAt (m : ScriptedMedium) (position count : Nat) :
    (m.bytesAt position count).size = count :=
  Bytes.size_tabulate ..

/-- Where bytes stop moving: at the end of the medium or at its fault, whichever comes first. -/
def reach (m : ScriptedMedium) : Nat := min m.length (m.failFrom.getD m.length)

/-- Calls that go through move something while there is something, and not every call is interrupted. -/
structure Gentle (m : ScriptedMedium) : Prop where
  chunk_pos : ∀ n, m.chunk = some n → 1 ≤ n
  apart : m.interruptEvery ≠ 1

def counted (m : ScriptedMedium) : ScriptedMedium := { m with calls := m.calls + 1 }

@[simp] theorem calls_counted (m : ScriptedMedium) : m.counted.calls = m.calls + 1 := rfl

def Interrupting (m : ScriptedMedium) : Prop :=
  m.interruptEvery ≠ 0 ∧ m.counted.calls % m.interruptEvery = 0

instance (m : ScriptedMedium) : Decidable m.Interrupting :=
  inferInstanceAs (Decidable (_ ∧ _))

theorem failsAt_iff {position : Nat} :
    m.failsAt position = true ↔ ∃ fault, m.failFrom = some fault ∧ fault ≤ position := by
  rw [failsAt, Option.any_eq_true]
  simp

theorem Gentle.not_interrupting_counted (gentle : m.Gentle) (first : m.Interrupting) :
    ¬ m.counted.Interrupting := by
  intro second
  have dvd := (Nat.dvd_add_right (Nat.dvd_of_mod_eq_zero first.2)).mp
    (Nat.dvd_of_mod_eq_zero second.2)
  exact gentle.apart (Nat.dvd_one.mp dvd)

theorem allowance_le (m : ScriptedMedium) (position wanted : Nat) :
    m.allowance position wanted ≤ min wanted (m.reach - position) := by
  unfold allowance reach
  cases m.failFrom with
  | none => simp only [Option.map_none, Option.getD_none]; omega
  | some fault => simp only [Option.map_some, Option.getD_some]; omega

theorem Gentle.allowance_pos (gentle : m.Gentle) {position wanted : Nat} (some_wanted : 0 < wanted)
    (sound : m.failsAt position = false) (inside : position < m.length) :
    0 < m.allowance position wanted := by
  have in_chunk : 0 < m.chunk.getD wanted := by
    cases limit : m.chunk with
    | none => exact some_wanted
    | some n => exact gentle.chunk_pos n limit
  have before_fault : 0 < (m.failFrom.map (· - position)).getD wanted := by
    cases found : m.failFrom with
    | none => exact some_wanted
    | some fault =>
      have late : position < fault := by simpa [failsAt, found] using sound
      exact Nat.sub_pos_of_lt late
  unfold allowance
  omega

inductive Called {α : Type} (m : ScriptedMedium) (position wanted : Nat)
    (act : ScriptedMedium → Nat → α × ScriptedMedium) : Moved α × ScriptedMedium → Prop
  | interrupted (due : m.Interrupting) : Called m position wanted act (.interrupted, m.counted)
  | failed (goes : ¬ m.Interrupting) (fault : m.failsAt position = true) :
    Called m position wanted act (.failed (.device "medium error"), m.counted)
  | moved (goes : ¬ m.Interrupting) (sound : m.failsAt position = false) :
    Called m position wanted act
      (.moved (act m.counted (m.allowance position wanted)).1,
        (act m.counted (m.allowance position wanted)).2)

theorem call_cases {α : Type} (m : ScriptedMedium) (position wanted : Nat)
    (act : ScriptedMedium → Nat → α × ScriptedMedium) :
    Called m position wanted act (m.call position wanted act) := by
  change Called m position wanted act (if m.Interrupting then (.interrupted, m.counted)
    else if m.failsAt position then (.failed (.device "medium error"), m.counted)
    else (.moved (act m.counted (m.allowance position wanted)).1,
      (act m.counted (m.allowance position wanted)).2))
  by_cases due : m.Interrupting
  · rw [if_pos due]
    exact .interrupted due
  · rw [if_neg due]
    cases fault : m.failsAt position with
    | true => exact .failed due fault
    | false => exact .moved due fault

theorem readAt_cases (m : ScriptedMedium) (position wanted : Nat) :
    Called m position wanted (fun m n => (m.bytesAt position n, m))
      (Medium.readAt m position wanted) :=
  call_cases ..

theorem writeAt_cases (m : ScriptedMedium) (position : Nat) (data : Bytes) (start : Nat) :
    Called m position (data.size - start)
      (fun m n => (n, m.overlay position (data.extract start (start + n))))
      (Medium.writeAt m position data start) :=
  call_cases ..

end ScriptedMedium

end DiskImage
