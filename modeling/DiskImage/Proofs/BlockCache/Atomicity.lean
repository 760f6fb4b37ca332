import DiskImage.Proofs.BlockCache.Calls
import DiskImage.Proofs.Medium.ScriptedTransfer

/-! How a sector call ends. It succeeds when it asks for a whole sector of the image whose block is there or
can be read; a call that fails gives the first reason there is, and leaves nothing behind but a miss. -/
namespace DiskImage.BlockCache

def addMisses (c : BlockCache) (n : Nat) : BlockCache :=
  { c with stats := { c.stats with misses := c.stats.misses + n } }

theorem countMiss_addMisses (c : BlockCache) (n : Nat) :
    (c.addMisses n).countMiss = c.countMiss.addMisses n := by
  simp [countMiss, addMisses, Nat.add_right_comm]

section

variable {μ : Type} [Medium μ] {c : BlockCache} {m : μ}

/-- Block `index` is resident, or memory has room for it and all that the image backs of it can be read. -/
def Available (c : BlockCache) (m : μ) (index : Nat) : Prop :=
  c.blocks[index]?.isSome ∨ c.blockSize < blockLimit ∧
    (readExactAt m (index * c.blockSize) (Bytes.fill 0 (c.backed index))).answer = .ok ()

/-- Why a call for the sector at `offset` fails, the first reason in a fixed order. -/
inductive Fails (c : BlockCache) (m : μ) (offset len : Nat) : Halt → Prop
  | unaligned (misfit : ¬ (len = sectorSize ∧ sectorSize ∣ offset)) :
    Fails c m offset len (.error (.unaligned offset len sectorSize))
  | offsetOverflow (sector : len = sectorSize ∧ sectorSize ∣ offset)
    (long : Word.limit ≤ offset + len) : Fails c m offset len (.error .offsetOverflow)
  | outOfBounds (sector : len = sectorSize ∧ sectorSize ∣ offset)
    (short : offset + len < Word.limit) (past : c.capacity < offset + len) :
    Fails c m offset len (.error (.outOfBounds offset len c.capacity))
  | quotaExceeded (accepts : c.Accepts offset len)
    (absent : c.blocks[offset / c.blockSize]? = none) (large : blockLimit ≤ c.blockSize) :
    Fails c m offset len (.error (.quotaExceeded c.blockSize))
  | unreadable {halt : Halt} (accepts : c.Accepts offset len)
    (absent : c.blocks[offset / c.blockSize]? = none) (room : c.blockSize < blockLimit)
    (failed : (readExactAt m (offset / c.blockSize * c.blockSize)
      (Bytes.fill 0 (c.backed (offset / c.blockSize)))).answer = .error halt) :
    Fails c m offset len halt

theorem checkSector_eq (word : c.capacity < Word.limit) (offset len : Nat) :
    c.checkSector offset len = .ok () ↔ c.Accepts offset len := by
  rw [checkSector_eq_accepts]
  refine ⟨And.left, fun accepts => ⟨accepts, ?_⟩⟩
  rw [accepts.len_eq]
  exact Nat.lt_of_le_of_lt accepts.stop_le word

theorem fails_of_refused {offset len : Nat} {e : ImageError}
    (invalid : c.checkSector offset len = .error e) : c.Fails m offset len (.error e) := by
  unfold checkSector at invalid
  split at invalid
  · next misfit =>
    cases invalid
    refine .unaligned fun sector => ?_
    obtain unaligned | short := misfit
    · exact unaligned (Nat.mod_eq_zero_of_dvd sector.2)
    · exact short sector.1
  · next sector =>
    have sector : len = sectorSize ∧ sectorSize ∣ offset := by
      rw [not_or, Decidable.not_not, Decidable.not_not] at sector
      exact ⟨sector.2, Nat.dvd_of_mod_eq_zero sector.1⟩
    unfold checkRange at invalid
    split at invalid
    · next long =>
      cases invalid
      exact .offsetOverflow sector long
    · next short =>
      split at invalid
      · next past =>
        cases invalid
        exact .outOfBounds sector (Nat.lt_of_not_le short) past
      · cases invalid

theorem readBlock_isOk (c : BlockCache) (m : μ) (index : Nat) :
    (c.readBlock m index).1.isOk ↔ c.blockSize < blockLimit ∧
      (readExactAt m (index * c.blockSize) (Bytes.fill 0 (c.backed index))).answer = .ok () := by
  unfold readBlock
  by_cases large : blockLimit ≤ c.blockSize
  · simp [large, Nat.not_lt.mpr large, Except.isOk, Except.toBool]
  · simp only [if_neg large, isOk_map, Nat.lt_of_not_le large, true_and]
    cases (readExactAt m (index * c.blockSize) (Bytes.fill 0 (c.backed index))).answer <;>
      simp [Except.isOk, Except.toBool]

theorem fails_of_readBlock {offset len : Nat} {halt : Halt} {m' : μ}
    (accepts : c.Accepts offset len) (absent : c.blocks[offset / c.blockSize]? = none)
    (read : c.readBlock m (offset / c.blockSize) = (.error halt, m')) :
    c.Fails m offset len halt := by
  unfold readBlock at read
  split at read
  · next large =>
    cases read
    exact .quotaExceeded accepts absent large
  · next room =>
    have failed := (Prod.mk.inj read).1
    cases answer : (readExactAt m (offset / c.blockSize * c.blockSize)
      (Bytes.fill 0 (c.backed (offset / c.blockSize)))).answer with
    | ok => simp [answer, Except.map] at failed
    | error halt' =>
      rw [answer] at failed
      cases failed
      exact .unreadable accepts absent (Nat.lt_of_not_le room) answer

theorem WellFormed.serve_isOk_of_valid (wf : c.WellFormed) (m : μ) {call : SectorCall}
    (valid : c.checkSector call.offset call.len = .ok ()) :
    (call.serve c m).answer.isOk ↔ c.Available m (call.offset / c.blockSize) := by
  have served := SectorCall.serve_cases wf m call
  generalize call.serve c m = outcome at served ⊢
  cases served with
  | refused invalid => simp [valid] at invalid
  | failed _ touched =>
    cases touched with
    | failed absent read =>
      have unread := c.readBlock_isOk m (call.offset / c.blockSize)
      rw [read] at unread
      simp [Available, absent, ← unread, Except.isOk, Except.toBool]
  | done _ touched =>
    refine ⟨fun _ => ?_, fun _ => rfl⟩
    cases touched with
    | resident found => exact .inl (by rw [found]; rfl)
    | loaded absent read => exact .inr ((c.readBlock_isOk m _).mp (by rw [read]; rfl))

inductive Unanswered (c : BlockCache) (m : μ) (call : SectorCall) : Halt → BlockCache → Prop
  | refused {e : ImageError} (invalid : c.checkSector call.offset call.len = .error e) :
    Unanswered c m call (.error e) c
  | unread {halt : Halt} {m' : μ} (valid : c.checkSector call.offset call.len = .ok ())
    (absent : c.blocks[call.offset / c.blockSize]? = none)
    (read : c.readBlock m (call.offset / c.blockSize) = (.error halt, m')) :
    Unanswered c m call halt (c.addMisses 1)

theorem WellFormed.unanswered (wf : c.WellFormed) {call : SectorCall} {halt : Halt}
    (failed : (call.serve c m).answer = .error halt) :
    c.Unanswered m call halt (call.serve c m).state.1 := by
  have served := SectorCall.serve_cases wf m call
  generalize call.serve c m = outcome at served failed ⊢
  cases served with
  | refused invalid =>
    cases failed
    exact .refused invalid
  | failed valid touched =>
    cases failed
    cases touched with
    | failed absent read => exact .unread valid absent read
  | done valid touched => cases failed

theorem WellFormed.available_serve (wf : c.WellFormed) (m : μ) {call : SectorCall}
    (valid : c.checkSector call.offset call.len = .ok ()) (success : (call.serve c m).answer.isOk)
    (index : Nat) :
    (call.serve c m).state.1.Available m index ↔ c.Available m index := by
  have available := (wf.serve_isOk_of_valid m valid).mp success
  obtain ⟨blockSize, capacity, -⟩ := SectorCall.shape_serve wf m call
  have resident : (call.serve c m).state.1.blocks[index]?.isSome ↔
      call.offset / c.blockSize = index ∨ c.blocks[index]?.isSome := by
    have served := SectorCall.serve_cases wf m call
    generalize call.serve c m = outcome at served success ⊢
    cases served with
    | refused | failed => cases success
    | done _ touched =>
      rw [call.blocks_act touched]
      split <;> simp [*]
  by_cases same : call.offset / c.blockSize = index
  · subst same
    exact iff_of_true (.inl (resident.mpr (.inl rfl))) available
  · simp only [Available, backed, resident, blockSize, capacity, same, false_or]

theorem WellFormed.missed (wf : c.WellFormed) {call : SectorCall} {halt : Halt}
    (valid : c.checkSector call.offset call.len = .ok ())
    (failed : (call.serve c m).answer = .error halt) :
    (call.serve c m).state.1 = c.addMisses 1 := by
  have unanswered := wf.unanswered failed
  generalize (call.serve c m).state.1 = left at unanswered ⊢
  cases unanswered with
  | refused invalid => simp [valid] at invalid
  | unread => rfl

theorem WellFormed.serve_isOk (wf : c.WellFormed) (word : c.capacity < Word.limit) (m : μ)
    (call : SectorCall) : (call.serve c m).answer.isOk ↔
      c.Accepts call.offset call.len ∧ c.Available m (call.offset / c.blockSize) := by
  rw [← checkSector_eq word]
  constructor
  · intro success
    cases valid : c.checkSector call.offset call.len with
    | ok => exact ⟨rfl, (wf.serve_isOk_of_valid m valid).mp success⟩
    | error e =>
      rw [SectorCall.serve_eq_access, access, valid] at success
      cases success
  · rintro ⟨valid, available⟩
    exact (wf.serve_isOk_of_valid m valid).mpr available

theorem WellFormed.fails_of_serve (wf : c.WellFormed) (word : c.capacity < Word.limit)
    {call : SectorCall} {halt : Halt} (failed : (call.serve c m).answer = .error halt) :
    c.Fails m call.offset call.len halt ∧ (call.serve c m).state.1 =
      c.addMisses (if c.Accepts call.offset call.len then 1 else 0) := by
  have unanswered := wf.unanswered failed
  generalize (call.serve c m).state.1 = left at unanswered ⊢
  cases unanswered with
  | refused invalid =>
    rw [if_neg (by simp [← checkSector_eq word, invalid])]
    exact ⟨fails_of_refused invalid, rfl⟩
  | unread valid absent read =>
    have accepts := (checkSector_eq word _ _).mp valid
    rw [if_pos accepts]
    exact ⟨fails_of_readBlock accepts absent read, rfl⟩

theorem loadBlock_addMisses (c : BlockCache) (m : μ) (index n : Nat) :
    (c.addMisses n).loadBlock m index =
      ⟨(c.loadBlock m index).answer, ((c.loadBlock m index).state.1.addMisses n,
        (c.loadBlock m index).state.2)⟩ := by
  have same : (c.addMisses n).blockRange index = c.blockRange index := rfl
  unfold loadBlock
  rw [same]
  cases c.blockRange index with
  | error fault => rfl
  | ok range =>
    by_cases large : blockLimit ≤ c.blockSize
    · simp only [if_pos large]
      exact if_pos large
    · have room : ¬ blockLimit ≤ (c.addMisses n).blockSize := large
      simp only [if_neg large, if_neg room]
      cases (readExactAt m range.1 (Bytes.fill 0 range.2)).answer <;> rfl

theorem touch_addMisses (c : BlockCache) (m : μ) (index n : Nat) :
    (c.addMisses n).touch m index =
      ⟨(c.touch m index).answer, ((c.touch m index).state.1.addMisses n,
        (c.touch m index).state.2)⟩ := by
  have same : (c.addMisses n).blocks[index]? = c.blocks[index]? := rfl
  unfold touch
  by_cases past : c.blockCount ≤ index
  · rw [if_pos past]
    exact if_pos past
  · have listed : ¬ (c.addMisses n).blockCount ≤ index := past
    rw [if_neg past, if_neg listed, same]
    cases c.blocks[index]? with
    | some block => rfl
    | none =>
      change (c.addMisses n).countMiss.loadBlock m index = _
      rw [countMiss_addMisses, loadBlock_addMisses]
      rfl

theorem serve_addMisses (c : BlockCache) (m : μ) (call : SectorCall) (n : Nat) :
    call.serve (c.addMisses n) m =
      ⟨(call.serve c m).answer, ((call.serve c m).state.1.addMisses n,
        (call.serve c m).state.2)⟩ := by
  have same : (c.addMisses n).checkSector call.offset call.len =
      c.checkSector call.offset call.len := rfl
  have size : (c.addMisses n).blockSize = c.blockSize := rfl
  rw [SectorCall.serve_eq_access, SectorCall.serve_eq_access]
  unfold access
  rw [same]
  cases c.checkSector call.offset call.len with
  | error e => rfl
  | ok =>
    simp only [size, touch_addMisses]
    cases c.touch m (call.offset / c.blockSize) with
    | mk answer state =>
      cases answer with
      | error halt => rfl
      | ok block =>
        dsimp only
        split
        · rfl
        · cases call <;> rfl

theorem serveAll_addMisses (c : BlockCache) (calls : List (μ × SectorCall)) (n : Nat) :
    SectorCall.serveAll (c.addMisses n) calls =
      ((SectorCall.serveAll c calls).1, (SectorCall.serveAll c calls).2.addMisses n) := by
  induction calls generalizing c with
  | nil => rfl
  | cons entry rest ih =>
    obtain ⟨source, call⟩ := entry
    simp only [SectorCall.serveAll, serve_addMisses, ih]

/-- A call succeeds exactly if it asks for a whole sector whose block is there or can be read. One
that fails may add a miss and leaves no other trace. -/
theorem sector_call_outcome {capacity blockSize : Nat} (created : create capacity blockSize = .ok c)
    (word : capacity < Word.limit) (calls : List (μ × SectorCall)) (m : μ) (call : SectorCall) :
    let reached := (SectorCall.serveAll c calls).2
    let served := call.serve reached m
    let missed := if reached.Accepts call.offset call.len then 1 else 0
    reached.capacity = capacity ∧ reached.blockSize = blockSize ∧
    (served.answer.isOk ↔ reached.Accepts call.offset call.len ∧
      reached.Available m (call.offset / reached.blockSize)) ∧
    ∀ halt, served.answer = .error halt →
      reached.Fails m call.offset call.len halt ∧ served.state.1 = reached.addMisses missed ∧
      (∀ later : List (μ × SectorCall), SectorCall.serveAll served.state.1 later =
        ((SectorCall.serveAll reached later).1,
          (SectorCall.serveAll reached later).2.addMisses missed)) ∧
      ∀ (good : μ) (next : SectorCall), reached.Accepts next.offset next.len →
        reached.Available good (next.offset / reached.blockSize) →
        (next.serve served.state.1 good).answer.isOk := by
  intro reached served missed
  have start := wellFormed_create created
  obtain ⟨-, -, -, rfl⟩ := create_eq_ok.mp created
  obtain ⟨wf, blockSize_eq, capacity_eq⟩ := SectorCall.serveAll_keeps start calls
  have word' : reached.capacity < Word.limit := capacity_eq ▸ word
  refine ⟨capacity_eq, blockSize_eq, wf.serve_isOk word' m call, fun halt failed => ?_⟩
  obtain ⟨fails, left⟩ := wf.fails_of_serve word' failed
  refine ⟨fails, left, fun later => ?_, fun good next accepts available => ?_⟩
  · rw [left, serveAll_addMisses]
  · rw [left, serve_addMisses]
    exact (wf.serve_isOk word' good next).mpr ⟨accepts, available⟩

end

/-- A fault behind the sector that is wanted, but in its block: the read fails, and over a sound
medium the same read succeeds. -/
theorem fault_in_block_adds_a_miss :
    let sound : ScriptedMedium :=
      { base := fun _ => 7, length := 1636, chunk := some 100, interruptEvery := 2 }
    let faulty := { sound with failFrom := some 1600 }
    let c : BlockCache := { blockSize := 1024, capacity := 1636, blockCount := 2 }
    let call := SectorCall.read 1024 512
    create 1636 1024 = .ok c ∧ 1636 < Word.limit ∧
      (call.serve c faulty).answer = .error (.error (.io (.device "medium error"))) ∧
      (call.serve c faulty).state.1 = c.addMisses 1 ∧
      (call.serve (call.serve c faulty).state.1 sound).answer.isOk := by
  intro sound faulty c call
  have created : create 1636 1024 = .ok c :=
    create_eq_ok.mpr ⟨by decide, by decide, by decide, rfl⟩
  have word : 1636 < Word.limit := by decide
  have accepts : c.Accepts 1024 512 := ⟨rfl, by decide, by decide⟩
  have gentle : sound.Gentle := ⟨by rintro n ⟨⟩; decide, by decide⟩
  have gentle' : faulty.Gentle := ⟨gentle.chunk_pos, gentle.apart⟩
  have index : 1024 / c.blockSize * c.blockSize = 1024 := by decide
  have backed : c.backed (1024 / c.blockSize) = 612 := by decide
  have absent : c.blocks[1024 / c.blockSize]?.isSome = false := rfl
  have readable : (readExactAt sound (1024 / c.blockSize * c.blockSize)
      (Bytes.fill 0 (c.backed (1024 / c.blockSize)))).answer = .ok () := by
    rw [index, backed, (gentle.readExactAt rfl ..).answer_eq, Bytes.size_fill, Nat.zero_max,
      ScriptedMedium.endAt_stop, if_pos (by decide)]
  have unreadable : (readExactAt faulty (1024 / c.blockSize * c.blockSize)
      (Bytes.fill 0 (c.backed (1024 / c.blockSize)))).answer =
      .error (.error (.io (.device "medium error"))) := by
    rw [index, backed, (gentle'.readExactAt rfl ..).answer_eq, Bytes.size_fill, Nat.zero_max,
      ScriptedMedium.endAt_stop, if_neg (by decide), if_pos (by decide)]
  obtain ⟨-, -, succeeds, fails⟩ := sector_call_outcome created word [] faulty call
  have unavailable : ¬ c.Available faulty (1024 / c.blockSize) := by
    simp [Available, absent, unreadable]
  have failed : ¬ (call.serve c faulty).answer.isOk := fun served =>
    unavailable (succeeds.mp served).2
  cases answer : (call.serve c faulty).answer with
  | ok bytes => exact absurd (by rw [answer]; rfl) failed
  | error halt =>
    obtain ⟨reason, left, -, good⟩ := fails halt answer
    have left : (call.serve c faulty).state.1 = c.addMisses 1 :=
      left.trans (congrArg c.addMisses (if_pos accepts))
    refine ⟨created, word, congrArg Except.error ?_, left,
      good sound call accepts (.inr ⟨by decide, readable⟩)⟩
    cases reason with
    | unaligned misfit => exact absurd ⟨rfl, by decide⟩ misfit
    | offsetOverflow _ long => exact absurd long (by decide)
    | outOfBounds _ _ past => exact absurd past (by decide)
    | quotaExceeded _ _ large => exact absurd large (by decide)
    | unreadable _ _ _ failed => exact Except.error.inj (failed.symm.trans unreadable)

end DiskImage.BlockCache
