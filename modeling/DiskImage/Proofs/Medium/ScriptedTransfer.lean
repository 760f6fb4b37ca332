import DiskImage.Proofs.Medium.Scripted

/-! What whole transfers on a scripted medium come to. The bytes that lie before its end and its fault are
moved, in order and each once, however small the chunks and however many the interruptions; where they
stop decides how the transfer ends. -/
namespace DiskImage

namespace ScriptedMedium

variable {m : ScriptedMedium} {offset : Nat}

def stop (m : ScriptedMedium) (offset n : Nat) : Nat := min n (m.reach - offset)

/-- How a transfer of `n` bytes ends that can move no more than the `done` bytes it has moved. -/
def endAt (m : ScriptedMedium) (offset n done : Nat) : Except Halt Unit :=
  if done < n ∧ m.failsAt (offset + done) then .error (.error (.io (.device "medium error")))
  else transferAnswer offset n done

/-- Calls that moving `n` bytes can take: a byte may need two, and so may the call that finds the end. -/
def callsFor (m : ScriptedMedium) (n : Nat) : Nat := 2 * n + if m.Interrupting then 2 else 1

/-- The media hold the same bytes and end, fail and seek in the same way. -/
structure Alike (m m' : ScriptedMedium) : Prop where
  byte_eq : m'.byte = m.byte
  length_eq : m'.length = m.length
  failFrom_eq : m'.failFrom = m.failFrom
  seekFails_eq : m'.seekFails = m.seekFails

theorem Gentle.counted (gentle : m.Gentle) : m.counted.Gentle := ⟨gentle.chunk_pos, gentle.apart⟩

theorem Gentle.overlay (gentle : m.Gentle) (position : Nat) (data : Bytes) :
    (m.overlay position data).Gentle :=
  ⟨gentle.chunk_pos, gentle.apart⟩

theorem callsFor_le (m : ScriptedMedium) (n : Nat) : m.callsFor n ≤ 2 * (n + 1) := by
  unfold callsFor
  split <;> omega

theorem Gentle.callsFor_counted (gentle : m.Gentle) (due : m.Interrupting) (n : Nat) :
    m.counted.callsFor n + 1 = m.callsFor n := by
  rw [callsFor, callsFor, if_pos due, if_neg (gentle.not_interrupting_counted due)]

theorem callsFor_of_moved (m' : ScriptedMedium) (goes : ¬ m.Interrupting) {n moved : Nat}
    (some_moved : 0 < moved) (most : moved ≤ n) : m'.callsFor (n - moved) + 1 ≤ m.callsFor n := by
  have next := m'.callsFor_le (n - moved)
  have here : m.callsFor n = 2 * n + 1 := by rw [callsFor, if_neg goes]
  omega

theorem stop_le_of_failsAt {n done : Nat} (fault : m.failsAt (offset + done) = true) :
    m.stop offset n ≤ done := by
  obtain ⟨position, found, early⟩ := failsAt_iff.mp fault
  rw [stop, reach, found, Option.getD_some]
  omega

theorem Gentle.allowance_cases (gentle : m.Gentle) {n done : Nat} (wanted : done < n)
    (sound : m.failsAt (offset + done) = false) :
    (m.allowance (offset + done) (n - done) = 0 ∧ m.stop offset n ≤ done) ∨
      (0 < m.allowance (offset + done) (n - done) ∧
        done + m.allowance (offset + done) (n - done) ≤ m.stop offset n) := by
  have most := m.allowance_le (offset + done) (n - done)
  by_cases inside : offset + done < m.length
  · have moves := gentle.allowance_pos (Nat.sub_pos_of_lt wanted) sound inside
    refine .inr ⟨moves, ?_⟩
    rw [stop]
    omega
  · have no_reach : m.reach ≤ m.length := Nat.min_le_left ..
    refine .inl ⟨by omega, ?_⟩
    rw [stop]
    omega

theorem endAt_of_failsAt {n done : Nat} (wanted : done < n)
    (fault : m.failsAt (offset + done) = true) :
    m.endAt offset n done = .error (.error (.io (.device "medium error"))) := by
  rw [endAt, if_pos ⟨wanted, fault⟩]

theorem endAt_of_sound {n done : Nat} (sound : m.failsAt (offset + done) = false) :
    m.endAt offset n done = transferAnswer offset n done := by
  rw [endAt, if_neg (by simp [sound])]

theorem endAt_of_le {n done : Nat} (all : n ≤ done) :
    m.endAt offset n done = transferAnswer offset n done := by
  rw [endAt, if_neg (by omega)]

theorem stop_eq_self {n : Nat} : m.stop offset n = n ↔ n = 0 ∨ offset + n ≤ m.reach := by
  rw [stop]
  omega

theorem stop_eq (m : ScriptedMedium) (offset n : Nat) :
    m.stop offset n = if n = 0 ∨ offset + n ≤ m.reach then n else m.reach - offset := by
  split
  · next whole => exact stop_eq_self.mpr whole
  · rw [stop]
    omega

theorem failsAt_stop {n : Nat} (part : m.stop offset n < n) :
    m.failsAt (offset + m.stop offset n) = m.failsAt (max m.length offset) := by
  rw [Bool.eq_iff_iff, failsAt_iff, failsAt_iff]
  unfold stop reach at part ⊢
  cases found : m.failFrom with
  | none => simp
  | some fault =>
    simp only [found, Option.some.injEq, exists_eq_left', Option.getD_some] at part ⊢
    omega

theorem stop_of_sound {n : Nat} (part : m.stop offset n < n)
    (sound : m.failsAt (max m.length offset) = false) : m.stop offset n = m.length - offset := by
  unfold stop reach at part ⊢
  unfold failsAt at sound
  cases found : m.failFrom with
  | none =>
    simp only [found, Option.getD_none] at part ⊢
    omega
  | some fault =>
    have late : ¬ fault ≤ max m.length offset := by simpa [found] using sound
    simp only [found, Option.getD_some] at part ⊢
    omega

theorem endAt_stop (m : ScriptedMedium) (offset n : Nat) :
    m.endAt offset n (m.stop offset n) =
      if m.stop offset n = n then .ok ()
      else if m.failsAt (max m.length offset) then .error (.error (.io (.device "medium error")))
      else .error (.error (.shortTransfer offset n (m.stop offset n))) := by
  have stop_le : m.stop offset n ≤ n := Nat.min_le_left ..
  by_cases whole : m.stop offset n = n
  · rw [if_pos whole, endAt_of_le (Nat.le_of_eq whole.symm), transferAnswer, if_pos whole]
  · have part : m.stop offset n < n := by omega
    have same := failsAt_stop part
    rw [if_neg whole]
    cases fault : m.failsAt (max m.length offset) with
    | true => exact endAt_of_failsAt part (same.trans fault)
    | false =>
      rw [endAt_of_sound (same.trans fault), transferAnswer, if_neg whole,
        if_neg Bool.false_ne_true]

theorem endAt_stop_eq (m : ScriptedMedium) (offset n : Nat) :
    m.endAt offset n (m.stop offset n) =
      if n = 0 ∨ offset + n ≤ m.reach then .ok ()
      else if m.failsAt (max m.length offset) then .error (.error (.io (.device "medium error")))
      else .error (.error (.shortTransfer offset n (m.length - offset))) := by
  have stop_le : m.stop offset n ≤ n := Nat.min_le_left ..
  rw [endAt_stop]
  by_cases whole : m.stop offset n = n
  · rw [if_pos whole, if_pos (stop_eq_self.mp whole)]
  · rw [if_neg whole, if_neg (mt stop_eq_self.mpr whole)]
    cases sound : m.failsAt (max m.length offset) with
    | true => rfl
    | false => rw [stop_of_sound (by omega) sound]

/-- What a read leaves that goes on from index `done` with `calls` calls. -/
structure ReadFrom (m : ScriptedMedium) (offset done calls : Nat) (buffer : Bytes)
    (filled : Filled ScriptedMedium) : Prop where
  answer_eq : filled.answer = m.endAt offset buffer.size (max done (m.stop offset buffer.size))
  size_eq : filled.buffer.size = buffer.size
  byte_eq : ∀ i, filled.buffer.byte i =
    if done ≤ i ∧ i < m.stop offset buffer.size then m.byte (offset + i) else buffer.byte i
  medium_eq : filled.medium = { m with calls := filled.medium.calls }
  calls_le : filled.medium.calls ≤ m.calls + calls

namespace ReadFrom

variable {done calls : Nat} {buffer : Bytes} {filled : Filled ScriptedMedium}

theorem stopped (stopped : m.stop offset buffer.size ≤ done) (made : Nat) (most : made ≤ calls) :
    m.ReadFrom offset done calls buffer
      ⟨m.endAt offset buffer.size done, buffer, { m with calls := m.calls + made }⟩ where
  answer_eq := by rw [Nat.max_eq_left stopped]
  size_eq := rfl
  byte_eq i := by rw [if_neg (by omega)]
  medium_eq := rfl
  calls_le := Nat.add_le_add_left most _

theorem interrupted (rest : m.counted.ReadFrom offset done calls buffer filled) :
    m.ReadFrom offset done (calls + 1) buffer filled where
  answer_eq := rest.answer_eq
  size_eq := rest.size_eq
  byte_eq := rest.byte_eq
  medium_eq := rest.medium_eq
  calls_le := by
    have most := rest.calls_le
    rw [calls_counted] at most
    omega

theorem moved {moved : Nat} (within : done + moved ≤ m.stop offset buffer.size)
    (rest : m.counted.ReadFrom offset (done + moved) calls
      (buffer.patch done (m.bytesAt (offset + done) moved)) filled) :
    m.ReadFrom offset done (calls + 1) buffer filled := by
  have stop_le : m.stop offset buffer.size ≤ buffer.size := Nat.min_le_left ..
  have size : (buffer.patch done (m.bytesAt (offset + done) moved)).size = buffer.size :=
    Bytes.size_patch (by rw [size_bytesAt]; omega)
  obtain ⟨answer_eq, size_eq, byte_eq, medium_eq, calls_le⟩ := rest.interrupted
  rw [size] at answer_eq size_eq byte_eq
  refine ⟨?_, size_eq, fun i => ?_, medium_eq, calls_le⟩
  · rw [answer_eq, Nat.max_eq_right within, Nat.max_eq_right (Nat.le_of_add_right_le within)]
  · rw [byte_eq, Bytes.byte_patch _ (by omega), size_bytesAt, bytesAt, Bytes.byte_tabulate]
    by_cases later : done + moved ≤ i ∧ i < m.stop offset buffer.size
    · rw [if_pos later, if_pos (by omega)]
    · rw [if_neg later]
      by_cases now : done ≤ i ∧ i < done + moved
      · rw [if_pos now, if_pos (by omega), if_pos (by omega),
          show offset + done + (i - done) = offset + i by omega]
      · rw [if_neg now, if_neg (by omega)]

end ReadFrom

theorem Gentle.readFrom (gentle : m.Gentle) (offset : Nat) {calls done : Nat} {buffer : Bytes}
    (room : done ≤ buffer.size) (enough : m.callsFor (buffer.size - done) ≤ calls) :
    m.ReadFrom offset done calls buffer (readRest offset calls done buffer m) := by
  -- An interrupted call uses up one of the two that the next byte may need; a call that moves bytes
  -- leaves fewer of them to the rest.
  induction calls generalizing done buffer m with
  | zero => exact absurd enough (by unfold callsFor; split <;> omega)
  | succ calls ih =>
    have stop_le : m.stop offset buffer.size ≤ buffer.size := Nat.min_le_left ..
    unfold readRest
    by_cases full : buffer.size ≤ done
    · rw [if_pos full, ← m.endAt_of_le full]
      exact .stopped (by omega) 0 (by omega)
    · have wanted : done < buffer.size := by omega
      have called := m.readAt_cases (offset + done) (buffer.size - done)
      rw [if_neg full]
      generalize Medium.readAt m (offset + done) (buffer.size - done) = result at called ⊢
      cases called with
      | interrupted due =>
        have fewer := gentle.callsFor_counted due (buffer.size - done)
        exact .interrupted (ih gentle.counted room (by omega))
      | failed goes fault =>
        dsimp only
        rw [← endAt_of_failsAt wanted fault]
        exact .stopped (stop_le_of_failsAt fault) 1 (by omega)
      | moved goes sound =>
        dsimp only
        rw [size_bytesAt]
        obtain ⟨none_left, stopped⟩ | ⟨moves, within⟩ := gentle.allowance_cases wanted sound
        · rw [if_pos none_left, ← endAt_of_sound sound]
          exact .stopped stopped 1 (by omega)
        · have fewer := callsFor_of_moved m.counted goes moves (n := buffer.size - done) (by omega)
          rw [if_neg (by omega)]
          apply ReadFrom.moved within
          apply ih gentle.counted
          · rw [Bytes.size_patch (by rw [size_bytesAt]; omega)]
            omega
          · rw [Bytes.size_patch (by rw [size_bytesAt]; omega), Nat.sub_add_eq]
            omega

structure WrittenFrom (m : ScriptedMedium) (offset done : Nat) (data : Bytes)
    (written : Outcome ScriptedMedium Unit) : Prop where
  answer_eq : written.answer = m.endAt offset data.size (max done (m.stop offset data.size))
  byte_eq : ∀ i, written.state.byte i =
    if offset + done ≤ i ∧ i < offset + m.stop offset data.size then data.byte (i - offset)
    else m.byte i
  medium_eq : written.state =
    { m with overlays := written.state.overlays, calls := written.state.calls }

namespace WrittenFrom

variable {done : Nat} {data : Bytes} {written : Outcome ScriptedMedium Unit}

theorem stopped {m' : ScriptedMedium} (stopped : m.stop offset data.size ≤ done)
    (same : m'.byte = m.byte)
    (medium : m' = { m with overlays := m'.overlays, calls := m'.calls }) :
    m.WrittenFrom offset done data ⟨m.endAt offset data.size done, m'⟩ where
  answer_eq := by rw [Nat.max_eq_left stopped]
  byte_eq i := by rw [if_neg (by omega), same]
  medium_eq := medium

theorem moved {moved : Nat} (within : done + moved ≤ m.stop offset data.size)
    (rest : (m.counted.overlay (offset + done) (data.extract done (done + moved))).WrittenFrom
      offset (done + moved) data written) : m.WrittenFrom offset done data written := by
  have stop_le : m.stop offset data.size ≤ data.size := Nat.min_le_left ..
  have size : (data.extract done (done + moved)).size = moved := by
    rw [ByteArray.size_extract]
    omega
  refine ⟨?_, fun i => ?_, rest.medium_eq⟩
  · refine rest.answer_eq.trans ?_
    change m.endAt offset data.size (max (done + moved) (m.stop offset data.size)) = _
    rw [Nat.max_eq_right within, Nat.max_eq_right (Nat.le_of_add_right_le within)]
  · refine (rest.byte_eq i).trans ?_
    change (if offset + (done + moved) ≤ i ∧ i < offset + m.stop offset data.size then _
      else _) = _
    rw [byte_overlay, size, Bytes.byte_extract]
    by_cases later : offset + (done + moved) ≤ i ∧ i < offset + m.stop offset data.size
    · rw [if_pos later, if_pos (by omega)]
    · rw [if_neg later]
      by_cases now : offset + done ≤ i ∧ i < offset + done + moved
      · rw [if_pos now, if_pos (by omega), if_pos (by omega),
          show done + (i - (offset + done)) = i - offset by omega]
      · rw [if_neg now, if_neg (by omega)]
        rfl

end WrittenFrom

theorem Gentle.writtenFrom (gentle : m.Gentle) (offset : Nat) {calls done : Nat} {data : Bytes}
    (room : done ≤ data.size) (enough : m.callsFor (data.size - done) ≤ calls) :
    m.WrittenFrom offset done data (writeRest offset data calls done m) := by
  induction calls generalizing done m with
  | zero => exact absurd enough (by unfold callsFor; split <;> omega)
  | succ calls ih =>
    have stop_le : m.stop offset data.size ≤ data.size := Nat.min_le_left ..
    unfold writeRest
    by_cases full : data.size ≤ done
    · rw [if_pos full, ← m.endAt_of_le full]
      exact .stopped (by omega) rfl rfl
    · have wanted : done < data.size := by omega
      have called := m.writeAt_cases (offset + done) data done
      rw [if_neg full]
      generalize Medium.writeAt m (offset + done) data done = result at called ⊢
      cases called with
      | interrupted due =>
        have fewer := gentle.callsFor_counted due (data.size - done)
        obtain ⟨answer_eq, byte_eq, medium_eq⟩ := ih gentle.counted room (by omega)
        exact ⟨answer_eq, byte_eq, medium_eq⟩
      | failed goes fault =>
        dsimp only
        rw [← endAt_of_failsAt wanted fault]
        exact .stopped (stop_le_of_failsAt fault) rfl rfl
      | moved goes sound =>
        dsimp only
        obtain ⟨none_left, stopped⟩ | ⟨moves, within⟩ := gentle.allowance_cases wanted sound
        · rw [if_pos none_left, ← endAt_of_sound sound, none_left]
          refine .stopped stopped ?_ rfl
          funext i
          rw [byte_overlay, if_neg (by simp)]
          rfl
        · have fewer := callsFor_of_moved (m.counted.overlay (offset + done)
            (data.extract done (done + m.allowance (offset + done) (data.size - done))))
            goes moves (n := data.size - done) (by omega)
          rw [if_neg (by omega)]
          apply WrittenFrom.moved within
          apply ih (gentle.counted.overlay _ _)
          · omega
          · rw [Nat.sub_add_eq]
            omega

theorem Alike.stop_eq {m' : ScriptedMedium} (alike : m.Alike m') (n : Nat) :
    m'.stop offset n = m.stop offset n := by
  rw [stop, stop, reach, reach, alike.length_eq, alike.failFrom_eq]

theorem Alike.endAt_eq {m' : ScriptedMedium} (alike : m.Alike m') (n done : Nat) :
    m'.endAt offset n done = m.endAt offset n done := by
  rw [endAt, endAt, failsAt, failsAt, alike.failFrom_eq]

theorem readExactAt_of_seekFails (seek : m.seekFails = true) (offset : Nat) (buffer : Bytes) :
    readExactAt m offset buffer =
      ⟨.error (.error (.io (.device "seek error"))), buffer, m⟩ := by
  simp [readExactAt, Medium.seekError, seek]

theorem writeAllAt_of_seekFails (seek : m.seekFails = true) (offset : Nat) (data : Bytes) :
    writeAllAt m offset data = ⟨.error (.error (.io (.device "seek error"))), m⟩ := by
  simp [writeAllAt, Medium.seekError, seek]

theorem Gentle.readExactAt (gentle : m.Gentle) (seeks : m.seekFails = false) (offset : Nat)
    (buffer : Bytes) :
    m.ReadFrom offset 0 (2 * (buffer.size + 1)) buffer (readExactAt m offset buffer) := by
  have read := gentle.readFrom offset (Nat.zero_le _) (m.callsFor_le buffer.size)
  simpa [DiskImage.readExactAt, Medium.seekError, Medium.patience, callBudget, seeks] using read

theorem Gentle.writeAllAt (gentle : m.Gentle) (seeks : m.seekFails = false) (offset : Nat)
    (data : Bytes) : m.WrittenFrom offset 0 data (writeAllAt m offset data) := by
  have written := gentle.writtenFrom offset (Nat.zero_le _) (m.callsFor_le data.size)
  simpa [DiskImage.writeAllAt, Medium.seekError, Medium.patience, callBudget, seeks] using written

theorem stop_of_ok {n : Nat} (success : m.endAt offset n (m.stop offset n) = .ok ()) :
    m.stop offset n = n := by
  rw [endAt_stop] at success
  by_cases whole : m.stop offset n = n
  · exact whole
  · rw [if_neg whole] at success
    split at success <;> cases success

theorem WrittenFrom.keeps {data : Bytes} {written : Outcome ScriptedMedium Unit}
    (wrote : m.WrittenFrom offset 0 data written) (gentle : m.Gentle) :
    written.state.Gentle ∧ written.state.seekFails = m.seekFails ∧
      written.state.stop = m.stop ∧ written.state.endAt = m.endAt := by
  rw [wrote.medium_eq]
  exact ⟨⟨gentle.chunk_pos, gentle.apart⟩, rfl, rfl, rfl⟩

theorem WrittenFrom.read_back {data buffer : Bytes} {written : Outcome ScriptedMedium Unit}
    (wrote : m.WrittenFrom offset 0 data written) (gentle : m.Gentle) (seeks : m.seekFails = false)
    (success : written.answer = .ok ()) (size : buffer.size = data.size) :
    (readExactAt written.state offset buffer).answer = .ok () ∧
      (readExactAt written.state offset buffer).buffer = data := by
  obtain ⟨gentle', seekFails, stop, endAt⟩ := wrote.keeps gentle
  have read := gentle'.readExactAt (seekFails.trans seeks) offset buffer
  have success' := wrote.answer_eq.symm.trans success
  rw [Nat.zero_max] at success'
  have whole := stop_of_ok success'
  refine ⟨?_, Bytes.ext_byte (read.size_eq.trans size) fun i inside => ?_⟩
  · rw [read.answer_eq, stop, endAt, size, Nat.zero_max, success']
  · rw [read.size_eq, size] at inside
    rw [read.byte_eq, stop, size, whole, if_pos ⟨Nat.zero_le i, inside⟩, wrote.byte_eq, whole,
      if_pos (by omega), Nat.add_sub_cancel_left]

/-- What a read comes to depends on the bytes of the medium, its end and its fault: not on its chunks,
its interruptions or the calls made before. -/
theorem read_is_transparent {m : ScriptedMedium} (gentle : m.Gentle) (offset : Nat)
    (buffer : Bytes) :
    let filled := readExactAt m offset buffer
    (m.seekFails = true →
      filled.answer = .error (.error (.io (.device "seek error"))) ∧ filled.buffer = buffer) ∧
    (m.seekFails = false →
      filled.answer =
        (if buffer.size = 0 ∨ offset + buffer.size ≤ m.reach then .ok ()
        else if m.failsAt (max m.length offset) then .error (.error (.io (.device "medium error")))
        else .error (.error (.shortTransfer offset buffer.size (m.length - offset)))) ∧
      filled.buffer.size = buffer.size ∧
      ∀ i, i < buffer.size → filled.buffer.byte i =
        if i < m.reach - offset then m.byte (offset + i) else buffer.byte i) ∧
    filled.medium = { m with calls := filled.medium.calls } ∧
    filled.medium.calls ≤ m.calls + 2 * (buffer.size + 1) ∧
    ∀ m' : ScriptedMedium, m'.Gentle → m.Alike m' →
      (readExactAt m' offset buffer).answer = filled.answer ∧
        (readExactAt m' offset buffer).buffer = filled.buffer := by
  intro filled
  by_cases seek : m.seekFails = true
  · have failed : filled = _ := readExactAt_of_seekFails seek offset buffer
    rw [failed]
    refine ⟨fun _ => ⟨rfl, rfl⟩, by simp [seek], rfl, Nat.le_add_right .., fun m' _ alike => ?_⟩
    rw [readExactAt_of_seekFails (alike.seekFails_eq.trans seek)]
    exact ⟨rfl, rfl⟩
  · rw [Bool.not_eq_true] at seek
    have read : m.ReadFrom offset 0 _ buffer filled := gentle.readExactAt seek offset buffer
    refine ⟨by simp [seek], fun _ => ⟨?_, read.size_eq, fun i inside => ?_⟩, read.medium_eq,
      read.calls_le, fun m' gentle' alike => ?_⟩
    · rw [read.answer_eq, Nat.zero_max, endAt_stop_eq]
    · rw [read.byte_eq, stop]
      congr 1
      simp only [eq_iff_iff]
      omega
    · have read' := gentle'.readExactAt (alike.seekFails_eq.trans seek) offset buffer
      refine ⟨?_, Bytes.ext_byte (by rw [read'.size_eq, read.size_eq]) fun i _ => ?_⟩
      · rw [read'.answer_eq, read.answer_eq, alike.stop_eq, alike.endAt_eq]
      · rw [read'.byte_eq, read.byte_eq, alike.stop_eq, alike.byte_eq]

theorem read_stops_at_fault :
    let m : ScriptedMedium :=
      { base := fun i => UInt8.ofNat i, length := 1000, chunk := some 7, interruptEvery := 2
        failFrom := some 600, calls := 5 }
    m.Gentle ∧ (readExactAt m 500 (Bytes.fill 9 200)).answer =
        .error (.error (.io (.device "medium error"))) ∧
      (readExactAt m 500 (Bytes.fill 9 200)).buffer.byte 99 = 87 ∧
      (readExactAt m 500 (Bytes.fill 9 200)).buffer.byte 100 = 9 ∧
      (readExactAt m 500 (Bytes.fill 9 200)).medium.calls ≤ 407 := by
  intro m
  have gentle : m.Gentle := ⟨by rintro n ⟨⟩; decide, by decide⟩
  have inside (i : Nat) (small : i < 200) : i < (Bytes.fill 9 200).size := by rwa [Bytes.size_fill]
  obtain ⟨-, read, -, calls, -⟩ := read_is_transparent gentle 500 (Bytes.fill 9 200)
  obtain ⟨answer, -, byte⟩ := read rfl
  rw [Bytes.size_fill] at answer
  refine ⟨gentle, answer, ?_, ?_, Nat.le_trans calls (by simp [m, Bytes.size_fill])⟩
  · rw [byte 99 (inside 99 (by decide)), if_pos (by decide)]
    rfl
  · rw [byte 100 (inside 100 (by decide)), if_neg (by decide), Bytes.byte_fill]
    rfl

/-- A write lays down a prefix of its data, whole if it succeeds, and touches nothing else; a read of the
range then finds the data. -/
theorem write_is_prefix {m : ScriptedMedium} (gentle : m.Gentle) (offset : Nat) (data : Bytes) :
    let written := writeAllAt m offset data
    let moved := if data.size = 0 ∨ offset + data.size ≤ m.reach then data.size
      else m.reach - offset
    (m.seekFails = true →
      written = ⟨.error (.error (.io (.device "seek error"))), m⟩) ∧
    (m.seekFails = false →
      (written.answer = if moved = data.size then .ok ()
        else if m.failsAt (max m.length offset) then .error (.error (.io (.device "medium error")))
        else .error (.error (.shortTransfer offset data.size moved))) ∧
      ∀ i, written.state.byte i =
        if offset ≤ i ∧ i < offset + moved then data.byte (i - offset) else m.byte i) ∧
    written.state = { m with overlays := written.state.overlays, calls := written.state.calls } ∧
    (∀ m' : ScriptedMedium, m'.Gentle → m.Alike m' →
      (writeAllAt m' offset data).answer = written.answer ∧
        (writeAllAt m' offset data).state.byte = written.state.byte) ∧
    (written.answer = .ok () → ∀ buffer : Bytes, buffer.size = data.size →
      (readExactAt written.state offset buffer).answer = .ok () ∧
        (readExactAt written.state offset buffer).buffer = data) := by
  intro written moved
  have moved_eq : m.stop offset data.size = moved := m.stop_eq offset data.size
  by_cases seek : m.seekFails = true
  · have failed : written = _ := writeAllAt_of_seekFails seek offset data
    rw [failed]
    refine ⟨fun _ => rfl, by simp [seek], rfl, fun m' _ alike => ?_, by simp⟩
    rw [writeAllAt_of_seekFails (alike.seekFails_eq.trans seek)]
    exact ⟨rfl, alike.byte_eq⟩
  · rw [Bool.not_eq_true] at seek
    have wrote : m.WrittenFrom offset 0 data written := gentle.writeAllAt seek offset data
    refine ⟨by simp [seek], fun _ => ⟨?_, fun i => ?_⟩, wrote.medium_eq, fun m' gentle' alike => ?_,
      fun success buffer size => ?_⟩
    · rw [wrote.answer_eq, Nat.zero_max, endAt_stop, moved_eq]
    · rw [wrote.byte_eq, moved_eq, Nat.add_zero]
    · have wrote' := gentle'.writeAllAt (alike.seekFails_eq.trans seek) offset data
      refine ⟨?_, funext fun i => ?_⟩
      · rw [wrote'.answer_eq, wrote.answer_eq, alike.stop_eq, alike.endAt_eq]
      · rw [wrote'.byte_eq, wrote.byte_eq, alike.stop_eq, alike.byte_eq]
    · exact wrote.read_back gentle seek success size

theorem write_stops_at_end :
    let m : ScriptedMedium :=
      { base := fun _ => 1, length := 600, chunk := some 3, interruptEvery := 2 }
    let whole := writeAllAt m 500 (Bytes.fill 9 100)
    let part := writeAllAt m 500 (Bytes.fill 9 200)
    m.Gentle ∧ whole.answer = .ok () ∧
      (readExactAt whole.state 500 (Bytes.fill 0 100)).buffer = Bytes.fill 9 100 ∧
      part.answer = .error (.error (.shortTransfer 500 200 100)) ∧ part.state.length = 600 ∧
      part.state.byte 499 = 1 ∧ part.state.byte 599 = 9 ∧ part.state.byte 600 = 1 := by
  intro m whole part
  have gentle : m.Gentle := ⟨by rintro n ⟨⟩; decide, by decide⟩
  obtain ⟨-, written, -, -, read⟩ := write_is_prefix gentle 500 (Bytes.fill 9 100)
  obtain ⟨-, cut, kept, -⟩ := write_is_prefix gentle 500 (Bytes.fill 9 200)
  obtain ⟨success, -⟩ := written rfl
  obtain ⟨failed, byte⟩ := cut rfl
  have moved : (if 200 = 0 ∨ 500 + 200 ≤ m.reach then 200 else m.reach - 500) = 100 := by decide
  rw [Bytes.size_fill] at success failed byte
  rw [moved] at failed byte
  have size : (Bytes.fill 0 100).size = (Bytes.fill 9 100).size := by
    rw [Bytes.size_fill, Bytes.size_fill]
  refine ⟨gentle, success, (read success _ size).2, failed, ?_, ?_, ?_, ?_⟩
  · exact congrArg ScriptedMedium.length kept
  · rw [byte, if_neg (by decide)]
    rfl
  · rw [byte, if_pos (by decide), Bytes.byte_fill, if_pos (by decide)]
  · rw [byte, if_neg (by decide)]
    rfl

end ScriptedMedium

end DiskImage
