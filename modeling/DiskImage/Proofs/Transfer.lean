import DiskImage.Medium.Scripted
import DiskImage.Medium.Transfer
import DiskImage.Proofs.Bytes

/-! What whole transfers move. Any successful one leaves in the buffer the bytes that its source
holds; on an open file the answer and the bytes are known exactly. -/
namespace DiskImage

@[simp] theorem transferAnswer_eq_ok {offset expected moved : Nat} :
    transferAnswer offset expected moved = .ok () ↔ moved = expected := by
  unfold transferAnswer
  split
  · simp_all
  · simp_all

/-- A medium that holds bytes: a read gives some of those at its position, no more than wanted, and
changes none. -/
class Source (μ : Type) [Medium μ] where
  byte : μ → Nat → UInt8
  size_le {m m' : μ} {position wanted : Nat} {data : Bytes} :
    Medium.readAt m position wanted = (.moved data, m') → data.size ≤ wanted
  byte_eq {m m' : μ} {position wanted : Nat} {data : Bytes} :
    Medium.readAt m position wanted = (.moved data, m') →
      ∀ i, i < data.size → data.byte i = byte m (position + i)
  kept {m m' : μ} {position wanted : Nat} {moved : Moved Bytes} :
    Medium.readAt m position wanted = (moved, m') → byte m' = byte m

def Source.bytesAt {μ : Type} [Medium μ] [Source μ] (m : μ) (offset len : Nat) : Bytes :=
  Bytes.tabulate len fun i => Source.byte m (offset + i)

section

variable {μ : Type} [Medium μ] [Source μ]

theorem readRest_filled {offset calls done : Nat} {buffer : Bytes} {m : μ}
    (room : done ≤ buffer.size)
    (front : ∀ i, i < done → buffer.byte i = Source.byte m (offset + i))
    (success : (readRest offset calls done buffer m).answer = .ok ()) :
    (readRest offset calls done buffer m).buffer.size = buffer.size ∧
      ∀ i, i < buffer.size →
        (readRest offset calls done buffer m).buffer.byte i = Source.byte m (offset + i) := by
  -- What stands in the buffer up to `done` stays, and each call extends it.
  induction calls generalizing done buffer m with
  | zero =>
    unfold readRest at success ⊢
    by_cases full : buffer.size ≤ done
    · rw [if_pos full]
      exact ⟨rfl, fun i h => front i (by omega)⟩
    · simp [full] at success
  | succ calls ih =>
    unfold readRest at success ⊢
    by_cases full : buffer.size ≤ done
    · rw [if_pos full]
      exact ⟨rfl, fun i h => front i (by omega)⟩
    · rw [if_neg full] at success ⊢
      cases call : Medium.readAt m (offset + done) (buffer.size - done) with
      | mk moved m' =>
        have same : Source.byte m' = Source.byte m := Source.kept call
        rw [call] at success
        cases moved with
        | interrupted =>
          simpa only [same] using ih room (by simpa only [same] using front) success
        | failed e => simp at success
        | moved data =>
          have most := Source.size_le call
          simp only at success ⊢
          by_cases none_left : data.size = 0
          · simp [none_left] at success
            omega
          · rw [if_neg none_left] at success ⊢
            have size : (buffer.patch done data).size = buffer.size :=
              Bytes.size_patch (by omega)
            have longer : ∀ i, i < done + data.size →
                (buffer.patch done data).byte i = Source.byte m' (offset + i) := by
              intro i h
              rw [same, Bytes.byte_patch data room]
              by_cases new : done ≤ i
              · rw [if_pos ⟨new, h⟩, Source.byte_eq call _ (by omega),
                  show offset + done + (i - done) = offset + i by omega]
              · rw [if_neg (fun both => new both.1), front i (by omega)]
            simpa only [same, size] using ih (by omega) longer success

theorem buffer_of_readExactAt {m : μ} {offset : Nat} {buffer : Bytes}
    (success : (readExactAt m offset buffer).answer = .ok ()) :
    (readExactAt m offset buffer).buffer = Source.bytesAt m offset buffer.size := by
  unfold readExactAt at success ⊢
  cases seek : Medium.seekError m with
  | some e => simp [seek] at success
  | none =>
    rw [seek] at success
    have filled := readRest_filled (Nat.zero_le _) (fun i h => absurd h (Nat.not_lt_zero i)) success
    apply Bytes.ext_byte
    · rw [Source.bytesAt, Bytes.size_tabulate, filled.1]
    · intro i h
      rw [filled.1] at h
      rw [filled.2 i h, Source.bytesAt, Bytes.byte_tabulate, if_pos h]

end

section OpenFile

instance : Source OpenFile where
  byte file := file.bytes.toBytes.byte
  size_le := by
    rintro file _ position wanted _ ⟨⟩
    rw [← SparseBytes.slice_toBytes, Bytes.size_slice]
    omega
  byte_eq := by
    rintro file _ position wanted _ ⟨⟩ i h
    rw [← SparseBytes.slice_toBytes] at h ⊢
    rw [Bytes.size_slice] at h
    rw [Bytes.byte_slice, if_pos (by omega)]
  kept := by
    rintro file _ position wanted _ ⟨⟩
    rfl

theorem readAt_openFile (file : OpenFile) (position wanted : Nat) :
    Medium.readAt file position wanted =
      (.moved (file.bytes.toBytes.slice position wanted), file) := by
  rw [SparseBytes.slice_toBytes]
  rfl

theorem readExactAt_openFile {file : OpenFile} {offset : Nat} {buffer : Bytes}
    (inside : offset + buffer.size ≤ file.bytes.size) :
    readExactAt file offset buffer =
      ⟨.ok (), file.bytes.toBytes.slice offset buffer.size, file⟩ := by
  have size : (file.bytes.toBytes.slice offset buffer.size).size = buffer.size :=
    Bytes.size_slice_of_le (by rwa [SparseBytes.size_toBytes])
  change readRest offset (callBudget 0 buffer.size) 0 buffer file = _
  rw [callBudget, Nat.mul_succ, readRest]
  by_cases empty : buffer.size ≤ 0
  · have none_wanted : buffer.size = 0 := by omega
    rw [if_pos empty, none_wanted, Bytes.slice_zero]
    have nothing : buffer = ByteArray.empty := by simpa using none_wanted
    rw [nothing]
    rfl
  · have nonempty : buffer.size ≠ 0 := by omega
    simp only [if_neg empty, Nat.add_zero, Nat.sub_zero, readAt_openFile, size, if_neg nonempty]
    have whole : buffer.patch 0 (file.bytes.toBytes.slice offset buffer.size) =
        file.bytes.toBytes.slice offset buffer.size := by
      rw [Bytes.patch_eq, size]
      simp
    rw [whole, readRest.eq_def, if_pos (by omega), size, Nat.zero_add, transferAnswer, if_pos rfl]

theorem readExactAt_openFile_eq_ok {file : OpenFile} {offset : Nat} {buffer : Bytes} :
    (readExactAt file offset buffer).answer = .ok () ↔
      buffer.size = 0 ∨ offset + buffer.size ≤ file.bytes.size := by
  by_cases inside : offset + buffer.size ≤ file.bytes.size
  · simp [readExactAt_openFile inside, inside]
  · change (readRest offset (callBudget 0 buffer.size) 0 buffer file).answer = .ok () ↔ _
    by_cases empty : buffer.size = 0
    · rw [readRest.eq_def, if_pos (by omega), transferAnswer_eq_ok]
      omega
    · have size : (file.bytes.toBytes.slice offset buffer.size).size =
          file.bytes.size - offset := by
        rw [Bytes.size_slice, SparseBytes.size_toBytes]
        omega
      have filled : (buffer.patch 0 (file.bytes.toBytes.slice offset buffer.size)).size =
          buffer.size := Bytes.size_patch (by omega)
      -- the first call moves what is left of the file, and the second one finds its end
      obtain ⟨calls, budget⟩ : ∃ calls, callBudget 0 buffer.size = calls + 2 :=
        ⟨buffer.size - 1, by rw [callBudget]; omega⟩
      rw [budget, readRest, if_neg (by omega)]
      simp only [Nat.add_zero, Nat.sub_zero, readAt_openFile, size]
      split
      · rw [transferAnswer_eq_ok]
        omega
      · have at_end : (file.bytes.toBytes.slice (offset + (0 + (file.bytes.size - offset)))
            (buffer.size - (0 + (file.bytes.size - offset)))).size = 0 := by
          rw [Bytes.size_slice, SparseBytes.size_toBytes]
          omega
        rw [readRest, filled, if_neg (by omega)]
        simp only [readAt_openFile, at_end, if_pos, transferAnswer_eq_ok]
        omega

theorem writeAllAt_openFile (file : OpenFile) (offset : Nat) (data : Bytes) :
    writeAllAt file offset data = ⟨.ok (), ⟨file.bytes.store offset data⟩⟩ := by
  change writeRest offset data (callBudget 0 data.size) 0 file = _
  rw [callBudget, Nat.mul_succ, writeRest]
  by_cases empty : data.size ≤ 0
  · have nothing : data.size = 0 := by omega
    rw [if_pos empty, transferAnswer, if_pos nothing.symm, SparseBytes.store, if_pos nothing]
  · have call : Medium.writeAt file (offset + 0) data 0 =
        (.moved data.size, ⟨file.bytes.store offset data⟩) := by
      simp only [Medium.writeAt, Nat.add_zero, ByteArray.extract_zero_size]
    rw [if_neg empty]
    simp only [call]
    rw [if_neg (by omega), writeRest.eq_def, if_pos (by omega), transferAnswer, if_pos (by omega)]

end OpenFile

section ScriptedMedium

theorem readAt_scripted {m m' : ScriptedMedium} {position wanted : Nat} {moved : Moved Bytes}
    (call : Medium.readAt m position wanted = (moved, m')) :
    m' = { m with calls := m.calls + 1 } ∧ ∀ data, moved = .moved data →
      data = m.bytesAt position (m.allowance position wanted) := by
  simp only [Medium.readAt, ScriptedMedium.call] at call
  split at call
  · cases call
    exact ⟨rfl, fun _ h => nomatch h⟩
  · split at call
    · cases call
      exact ⟨rfl, fun _ h => nomatch h⟩
    · cases call
      exact ⟨rfl, fun _ h => by cases h; rfl⟩

instance : Source ScriptedMedium where
  byte := ScriptedMedium.byte
  size_le := by
    intro m _ position wanted data call
    rw [(readAt_scripted call).2 data rfl, ScriptedMedium.bytesAt, Bytes.size_tabulate,
      ScriptedMedium.allowance]
    omega
  byte_eq := by
    intro m _ position wanted data call i h
    have moved := (readAt_scripted call).2 data rfl
    rw [moved, ScriptedMedium.bytesAt, Bytes.size_tabulate] at h
    rw [moved, ScriptedMedium.bytesAt, Bytes.byte_tabulate, if_pos h]
  kept := by
    intro m _ position wanted moved call
    rw [(readAt_scripted call).1]
    rfl

end ScriptedMedium

end DiskImage
