import DiskImage.Proofs.Blocks
import DiskImage.Proofs.BlockCache.Accounting
import DiskImage.Proofs.BlockCache.Atomicity
import DiskImage.Proofs.BlockCache.Overlay

/-! What the table of a cache stands for. It has a slot for each block of the image, and the bytes of a
block that is resident are those that were loaded, but for the sectors written since. No sector
reaches past the last whole one, so behind it every block is as it was loaded, with zeros past the end. -/
namespace DiskImage

def ReadsWithin (μ : Type) [Medium μ] : Prop :=
  ∀ (m m' : μ) (position wanted : Nat) (data : Bytes),
    Medium.readAt m position wanted = (.moved data, m') → data.size ≤ wanted

theorem Source.readsWithin {μ : Type} [Medium μ] [Source μ] : ReadsWithin μ :=
  fun _ _ _ _ _ call => Source.size_le call

section

variable {μ : Type} [Medium μ]

theorem size_readRest (within : ReadsWithin μ) {offset calls done : Nat} {buffer : Bytes} {m : μ} :
    (readRest offset calls done buffer m).buffer.size = buffer.size := by
  induction calls generalizing done buffer m with
  | zero =>
    unfold readRest
    split <;> rfl
  | succ calls ih =>
    unfold readRest
    split
    · rfl
    · cases call : Medium.readAt m (offset + done) (buffer.size - done) with
      | mk moved m' =>
        cases moved with
        | interrupted => exact ih
        | failed e => rfl
        | moved data =>
          have most := within _ _ _ _ _ call
          dsimp only
          split
          · rfl
          · rw [ih, Bytes.size_patch (by omega)]

theorem size_readExactAt (within : ReadsWithin μ) (m : μ) (offset : Nat) (buffer : Bytes) :
    (readExactAt m offset buffer).buffer.size = buffer.size := by
  unfold readExactAt
  split
  · rfl
  · exact size_readRest within

end

theorem Source.byte_openFile (file : OpenFile) (position : Nat) :
    Source.byte file position = file.bytes.toBytes.byte position :=
  rfl

namespace BlockCache

def Event.wroteAt? {μ : Type} (position : Nat) (e : Event μ) : Option UInt8 :=
  match e.call, e.answer with
  | .write offset data, .ok _ =>
    if offset ≤ position ∧ position < offset + sectorSize then some (data.byte (position - offset))
    else none
  | _, _ => none

section Event

variable {μ : Type} {c : BlockCache} {block : SparseBytes}

theorem Event.wroteAt?_error (m : μ) (call : SectorCall) (halt : Halt) (position : Nat) :
    (⟨m, call, .error halt⟩ : Event μ).wroteAt? position = none := by
  cases call <;> rfl

theorem Event.wroteAt?_outside (m : μ) (call : SectorCall) (answer : Except Halt Answer)
    {position : Nat} (outside : ¬ (call.offset ≤ position ∧ position < call.offset + sectorSize)) :
    (⟨m, call, answer⟩ : Event μ).wroteAt? position = none := by
  cases call with
  | read => rfl
  | write offset data =>
    cases answer with
    | error halt => rfl
    | ok answer => exact if_neg outside

theorem byte_update (m : μ) (call : SectorCall) (answer : Answer) (sector : call.len = sectorSize)
    (room : call.offset % c.blockSize + sectorSize ≤ block.size) (k : Nat) :
    (call.update block (call.offset % c.blockSize)).toBytes.byte k =
      ((⟨m, call, .ok answer⟩ : Event μ).wroteAt? (call.offset / c.blockSize * c.blockSize + k)).getD
        (block.toBytes.byte k) := by
  cases call with
  | read offset len => rfl
  | write offset data =>
    have place := Nat.div_add_mod' offset c.blockSize
    change data.size = sectorSize at sector
    change offset % c.blockSize + sectorSize ≤ block.size at room
    change (block.store (offset % c.blockSize) data).toBytes.byte k = (if
      offset ≤ offset / c.blockSize * c.blockSize + k ∧
        offset / c.blockSize * c.blockSize + k < offset + sectorSize
      then some (data.byte (offset / c.blockSize * c.blockSize + k - offset)) else none).getD _
    rw [SparseBytes.toBytes_store_of_le (by omega),
      Bytes.byte_patch _ (by rw [SparseBytes.size_toBytes]; omega), sector]
    by_cases inside : offset % c.blockSize ≤ k ∧ k < offset % c.blockSize + sectorSize
    · rw [if_pos inside, if_pos (by omega), Option.getD_some]
      congr 1
      omega
    · rw [if_neg inside, if_neg (by omega), Option.getD_none]

end Event

section

variable {μ : Type} [Medium μ] {c : BlockCache} {m m' : μ} {block : SparseBytes}

theorem byte_past_of_readBlock (within : ReadsWithin μ) {index k : Nat}
    (read : c.readBlock m index = (.ok block, m')) (past : c.backed index ≤ k) :
    block.toBytes.byte k = 0 := by
  unfold readBlock at read
  split at read
  · cases read
  · obtain ⟨answer, -⟩ := Prod.mk.inj read
    obtain ⟨-, -, rfl⟩ := map_eq_ok.mp answer
    rw [SparseBytes.toBytes_resize, SparseBytes.toBytes_ofBytes, Bytes.byte_resize,
      Bytes.byte_of_size_le, ite_self]
    rwa [size_readExactAt within, Bytes.size_fill]

/-- Where the block at `i` was before a call that left one there: in the table, or in the source that the
call loaded it from. -/
inductive Found (c : BlockCache) (m : μ) (call : SectorCall) (i : Nat) (block : SparseBytes) : Prop
  | resident (found : c.blocks[i]? = some block)
  | loaded (absent : c.blocks[i]? = none) (loads : (call.moment c m).loads)
    (index : call.offset / c.blockSize = i) {m' : μ} (read : c.readBlock m i = (.ok block, m'))

/-- Every block that a call leaves was there or was loaded, and has changed where the call wrote. -/
theorem WellFormed.found_of_serve (wf : c.WellFormed) (m : μ) (call : SectorCall) {i : Nat}
    {after : SparseBytes} (left : (call.serve c m).state.1.blocks[i]? = some after) :
    ∃ before, Found c m call i before ∧ ∀ k, k < c.blockSize →
      after.toBytes.byte k =
        ((⟨m, call, (call.serve c m).answer⟩ : Event μ).wroteAt? (i * c.blockSize + k)).getD
          (before.toBytes.byte k) := by
  have served := SectorCall.serve_cases wf m call
  generalize call.serve c m = outcome at served left ⊢
  cases served with
  | refused invalid =>
    refine ⟨after, .resident left, fun k _ => ?_⟩
    rw [Event.wroteAt?_error, Option.getD_none]
  | failed valid touched =>
    refine ⟨after, .resident (touched.blocks_of_error ▸ left), fun k _ => ?_⟩
    rw [Event.wroteAt?_error, Option.getD_none]
  | @done block _ _ valid touched =>
    obtain ⟨sector, fits⟩ := checkSector_eq_ok.mp valid
    have room := wf.within_le fits.offset_aligned
    have place := Nat.div_add_mod' call.offset c.blockSize
    have found := (call.blocks_act touched i).symm.trans left
    by_cases here : call.offset / c.blockSize = i
    · rw [if_pos here] at found
      cases found
      refine ⟨block, ?_, fun k _ => ?_⟩
      · cases touched with
        | resident found => exact .resident (here ▸ found)
        | loaded absent read =>
          obtain ⟨-, loads, -⟩ := Moment.of_absent (s := call.moment c m)
            (Moment.passes_iff.mpr valid) absent (wf.loadBlock_answer valid read)
          exact .loaded (here ▸ absent) loads here (here ▸ read)
      · rw [← here]
        exact byte_update m call _ sector (by rwa [touched.size_block wf]) k
    · rw [if_neg here] at found
      refine ⟨after, .resident found, fun k inside => ?_⟩
      have apart := apart_of_ne room inside here
      rw [place] at apart
      rw [Event.wroteAt?_outside m call _ apart, Option.getD_none]

theorem WellFormed.wroteAt?_tail (wf : c.WellFormed) (m : μ) (call : SectorCall) {position : Nat}
    (behind : c.capacity / sectorSize * sectorSize ≤ position) :
    (⟨m, call, (call.serve c m).answer⟩ : Event μ).wroteAt? position = none := by
  have served := SectorCall.serve_cases wf m call
  generalize call.serve c m = outcome at served ⊢
  cases served with
  | refused | failed => exact Event.wroteAt?_error ..
  | done valid touched =>
    obtain ⟨sector, fits⟩ := checkSector_eq_ok.mp valid
    obtain ⟨n, start⟩ := fits.offset_aligned
    have stop := fits.stop_le
    apply Event.wroteAt?_outside
    simp only [sectorSize] at *
    omega

theorem Moment.of_loads {s : Moment μ} (loads : s.loads) :
    s.passes ∧ s.cache.blocks[s.index]? = none := by
  unfold Moment.loads at loads
  simp only [Bool.and_eq_true, Option.isNone_iff_eq_none] at loads
  exact loads.1

theorem WellFormed.resident_of_loads (wf : c.WellFormed) (m : μ) (call : SectorCall)
    (loads : (call.moment c m).loads) :
    (call.serve c m).state.1.blocks[call.offset / c.blockSize]?.isSome := by
  have served := SectorCall.serve_cases wf m call
  obtain ⟨passed, -⟩ := Moment.of_loads loads
  have valid : c.checkSector call.offset call.len = .ok () := Moment.passes_iff.mp passed
  generalize call.serve c m = outcome at served ⊢
  cases served with
  | refused invalid => simp [valid] at invalid
  | failed valid touched =>
    cases touched with
    | failed absent read =>
      obtain ⟨-, none, -⟩ := Moment.of_absent (s := call.moment c m) passed absent
        (wf.loadBlock_answer valid read)
      rw [none] at loads
      cases loads
  | done valid touched =>
    rw [call.blocks_act touched, if_pos rfl]
    rfl

theorem WellFormed.found_of_success (wf : c.WellFormed) (m : μ) (call : SectorCall) {i : Nat}
    (here : call.offset / c.blockSize = i) (success : (call.serve c m).answer.isOk) :
    ∃ block, (SectorCall.serveAll c [(m, call)]).2.blocks[i]? = some block :=
  Option.isSome_iff_exists.mp (((wf.counted m call).resident i).mpr
    (.inr (by simp [Event.touches, SectorCall.moment, success, here])))

/-- Behind the last whole sector of the image `block` is as block `i` is read from the source. -/
def TailFrom (c : BlockCache) (i : Nat) (block : SparseBytes) (source : μ) : Prop :=
  ∃ (fresh : SparseBytes) (m' : μ), c.readBlock source i = (.ok fresh, m') ∧
    ∀ k, k < c.blockSize → c.capacity / sectorSize * sectorSize ≤ i * c.blockSize + k →
      block.toBytes.byte k = fresh.toBytes.byte k

/-- What a cache stands for after its `past`: the blocks that were loaded, behind the last whole sector as
they were then. -/
structure Represents (c : BlockCache) (past : List (Moment μ)) : Prop where
  wellFormed : c.WellFormed
  listed : ∀ (i : Nat) (block : SparseBytes), c.blocks[i]? = some block → i < c.blockCount
  loaded : ∀ i : Nat, c.blocks[i]?.isSome ↔ ∃ s ∈ past, s.loads ∧ s.index = i
  tail : ∀ (i : Nat) (block : SparseBytes), c.blocks[i]? = some block →
    ∀ s ∈ past, s.loads → s.index = i → c.TailFrom i block s.event.source

namespace Represents

variable {past : List (Moment μ)}

theorem create {capacity blockSize : Nat} (created : create capacity blockSize = .ok c) :
    c.Represents ([] : List (Moment μ)) := by
  have wf := wellFormed_create created
  obtain ⟨-, -, -, rfl⟩ := create_eq_ok.mp created
  exact ⟨wf, by simp, by simp, by simp⟩

theorem listed_step (known : c.Represents past) (m : μ) (call : SectorCall) {i : Nat}
    {after : SparseBytes} (left : (call.serve c m).state.1.blocks[i]? = some after) :
    i < c.blockCount := by
  have wf := known.wellFormed
  obtain ⟨before, found, -⟩ := wf.found_of_serve m call left
  cases found with
  | resident found => exact known.listed i before found
  | loaded _ loads index =>
    have valid : c.checkSector call.offset call.len = .ok () :=
      Moment.passes_iff.mp (Moment.of_loads loads).1
    exact index ▸ (wf.inRange valid).index_lt

theorem loaded_step (known : c.Represents past) (m : μ) (call : SectorCall) (i : Nat) :
    (call.serve c m).state.1.blocks[i]?.isSome ↔
      ∃ s ∈ past ++ [call.moment c m], s.loads ∧ s.index = i := by
  have wf := known.wellFormed
  simp only [List.mem_append, List.mem_singleton, or_and_right, exists_or, exists_eq_left]
  rw [← known.loaded]
  constructor
  · intro left
    obtain ⟨after, left⟩ := Option.isSome_iff_exists.mp left
    obtain ⟨before, found, -⟩ := wf.found_of_serve m call left
    cases found with
    | resident found => exact .inl (by rw [found]; rfl)
    | loaded _ loads index => exact .inr ⟨loads, index⟩
  · rintro (resident | ⟨loads, rfl⟩)
    · exact ((wf.counted m call).resident i).mpr (.inl resident)
    · exact wf.resident_of_loads m call loads

theorem tail_step (known : c.Represents past) (m : μ) (call : SectorCall) {i : Nat}
    {after : SparseBytes} (left : (call.serve c m).state.1.blocks[i]? = some after) {s : Moment μ}
    (member : s ∈ past ++ [call.moment c m]) (loads : s.loads) (index : s.index = i) :
    c.TailFrom i after s.event.source := by
  have wf := known.wellFormed
  obtain ⟨before, found, bytes⟩ := wf.found_of_serve m call left
  have kept : ∀ k, k < c.blockSize → c.capacity / sectorSize * sectorSize ≤ i * c.blockSize + k →
      after.toBytes.byte k = before.toBytes.byte k := by
    intro k inside behind
    rw [bytes k inside, wf.wroteAt?_tail m call behind, Option.getD_none]
  -- A block that was resident keeps its tail, and a new one has the tail that was read.
  obtain old | new := List.mem_append.mp member
  · have resident := (known.loaded i).mpr ⟨s, old, loads, index⟩
    cases found with
    | resident found =>
      obtain ⟨fresh, m', read, same⟩ := known.tail i before found s old loads index
      exact ⟨fresh, m', read, fun k inside behind => (kept k inside behind).trans (same k inside behind)⟩
    | loaded absent => simp [absent] at resident
  · obtain rfl := List.mem_singleton.mp new
    obtain ⟨-, missing⟩ := Moment.of_loads loads
    rw [index] at missing
    cases found with
    | resident found => cases found.symm.trans missing
    | loaded _ _ _ read => exact ⟨before, _, read, kept⟩

theorem step (known : c.Represents past) (m : μ) (call : SectorCall) :
    (call.serve c m).state.1.Represents (past ++ [call.moment c m]) := by
  obtain ⟨blockSize, capacity, blockCount⟩ := SectorCall.shape_serve known.wellFormed m call
  refine ⟨SectorCall.wellFormed_serve known.wellFormed m call, ?_, known.loaded_step m call, ?_⟩
  · intro i after left
    rw [blockCount]
    exact known.listed_step m call left
  · intro i after left s member loads index
    have tail := known.tail_step m call left member loads index
    unfold TailFrom readBlock backed at tail ⊢
    rwa [blockSize, capacity]

theorem run (known : c.Represents past) (calls : List (μ × SectorCall)) :
    (SectorCall.serveAll c calls).2.Represents (past ++ SectorCall.trace c calls) := by
  induction calls generalizing c past with
  | nil => rwa [SectorCall.trace, List.append_nil]
  | cons entry rest ih =>
    obtain ⟨source, call⟩ := entry
    have later := ih (known.step source call)
    rwa [List.append_assoc] at later

end Represents

/-- What holds of a block that is resident after the calls of `past`. -/
structure Intact (c : BlockCache) (past : List (Moment μ)) (i : Nat) (block : SparseBytes) : Prop where
  listed : i < c.blockCount
  size_eq : block.size = c.blockSize
  zero_past : ReadsWithin μ → ∀ k, k < c.blockSize → c.capacity ≤ i * c.blockSize + k →
    block.toBytes.byte k = 0
  loaded : ∃ s ∈ past, s.loads ∧ s.index = i
  /-- Between the last whole sector and the end of the image stands what the source held when the block
  was loaded. -/
  as_loaded : ∀ [Source μ], ∀ s ∈ past, s.loads → s.index = i →
    ∀ k, k < c.blockSize → c.capacity / sectorSize * sectorSize ≤ i * c.blockSize + k →
      i * c.blockSize + k < c.capacity →
        block.toBytes.byte k = Source.byte s.event.source (i * c.blockSize + k)
  /-- The next call leaves the block there, and changes in it what the call writes. -/
  kept : ∀ (m : μ) (call : SectorCall), ∃ after : SparseBytes,
    (call.serve c m).state.1.blocks[i]? = some after ∧ ∀ k, k < c.blockSize →
      after.toBytes.byte k =
        ((⟨m, call, (call.serve c m).answer⟩ : Event μ).wroteAt? (i * c.blockSize + k)).getD
          (block.toBytes.byte k)

theorem Represents.intact {past : List (Moment μ)} (known : c.Represents past) {i : Nat}
    (found : c.blocks[i]? = some block) : c.Intact past i block := by
  have wf := known.wellFormed
  have resident : c.blocks[i]?.isSome := by rw [found]; rfl
  have loaded := (known.loaded i).mp resident
  refine ⟨known.listed i block found, wf.size_block i block found, ?_, loaded, ?_, ?_⟩
  · intro within k inside past_end
    obtain ⟨s, member, loads, index⟩ := loaded
    obtain ⟨fresh, m', read, same⟩ := known.tail i block found s member loads index
    have whole := Nat.div_mul_le_self c.capacity sectorSize
    rw [same k inside (by omega)]
    exact byte_past_of_readBlock within read (by unfold backed; omega)
  · intro _ s member loads index k inside behind before_end
    obtain ⟨fresh, m', read, same⟩ := known.tail i block found s member loads index
    rw [same k inside behind, byte_of_readBlock read, if_pos (by unfold backed; omega)]
  · intro m call
    obtain ⟨after, left⟩ := Option.isSome_iff_exists.mp
      (((wf.counted m call).resident i).mpr (.inl resident))
    obtain ⟨before, origin, bytes⟩ := wf.found_of_serve m call left
    cases origin with
    | resident found' =>
      cases found.symm.trans found'
      exact ⟨after, left, bytes⟩
    | loaded absent => cases found.symm.trans absent

/-- Whatever calls were made on a cache, its table has a slot for each block of the image, and every
block that is resident is intact. -/
theorem table_represents_image {capacity blockSize : Nat} (created : create capacity blockSize = .ok c)
    (calls : List (μ × SectorCall)) :
    let reached := (SectorCall.serveAll c calls).2
    reached.blockSize = blockSize ∧ reached.capacity = capacity ∧
      Tiles reached.blockCount blockSize capacity ∧
      ∀ (i : Nat) (block : SparseBytes), reached.blocks[i]? = some block →
        reached.Intact (SectorCall.trace c calls) i block := by
  intro reached
  obtain ⟨-, sameBlockSize, sameCapacity⟩ := SectorCall.serveAll_keeps (wellFormed_create created) calls
  have known := (Represents.create created).run calls
  obtain ⟨nonzero, -, -, rfl⟩ := create_eq_ok.mp created
  refine ⟨sameBlockSize, sameCapacity, ?_, fun i block found => known.intact found⟩
  rw [known.wellFormed.blockCount_eq, sameBlockSize, sameCapacity]
  exact tiles_roundedUp (Nat.pos_of_ne_zero nonzero) capacity

end

/-- A sector is written in a block of which the image backs that sector and part of another. -/
theorem part_of_a_sector_outlives_a_write :
    let file : OpenFile := ⟨.ofBytes (Bytes.fill 7 1636)⟩
    let c : BlockCache := { blockSize := 1024, capacity := 1636, blockCount := 2 }
    let calls : List (OpenFile × SectorCall) := [(file, .write 1024 (Bytes.fill 9 512))]
    create 1636 1024 = .ok c ∧ ∃ block : SparseBytes,
      (SectorCall.serveAll c calls).2.blocks[1]? = some block ∧
      (∀ k, 512 ≤ k → k < 612 → block.toBytes.byte k = 7) ∧
      ∀ k, 612 ≤ k → k < 1024 → block.toBytes.byte k = 0 := by
  intro file c
  have size : file.bytes.size = 1636 := by rw [SparseBytes.size_ofBytes, Bytes.size_fill]
  have sevens : ∀ position, position < 1636 → Source.byte file position = 7 := by
    intro position inside
    rw [Source.byte_openFile, SparseBytes.toBytes_ofBytes, Bytes.byte_fill, if_pos inside]
  have sector : (Bytes.fill 9 512).size = sectorSize := Bytes.size_fill 9 512
  -- From here on only the sizes and the sevens count; neither byte string is to be computed.
  generalize file = file at size sevens ⊢
  generalize Bytes.fill 9 512 = data at sector ⊢
  intro calls
  have created : create 1636 1024 = .ok c :=
    create_eq_ok.mpr ⟨by decide, by decide, by decide, rfl⟩
  have wf := wellFormed_create created
  have word : c.capacity < Word.limit := by decide
  have accepts : c.Accepts 1024 data.size := ⟨sector, by decide, by decide⟩
  have readable : (readExactAt file (1024 / c.blockSize * c.blockSize)
      (Bytes.fill 0 (c.backed (1024 / c.blockSize)))).answer = .ok () := by
    rw [readExactAt_openFile_eq_ok, Bytes.size_fill, size]
    exact .inr (by decide)
  have served : ((SectorCall.write 1024 data).serve c file).answer.isOk :=
    (wf.serve_isOk word file (.write 1024 data)).mpr ⟨accepts, .inr ⟨by decide, readable⟩⟩
  obtain ⟨block, found⟩ := wf.found_of_success (i := 1) file (.write 1024 data)
    (Nat.div_self (n := 1024) (by decide)) served
  obtain ⟨blockSize, capacity, -, intact⟩ := table_represents_image created calls
  have known := intact 1 block found
  obtain ⟨s, member, loads, place⟩ := known.loaded
  have whole : 1636 / sectorSize * sectorSize = 1536 := by decide
  refine ⟨created, block, found, fun k behind before => ?_, fun k past inside => ?_⟩
  · rw [known.as_loaded s member loads place k (by omega) (by rw [capacity, blockSize]; omega)
      (by rw [capacity, blockSize]; omega)]
    cases member with
    | head => exact sevens _ (by rw [blockSize]; omega)
    | tail _ rest => cases rest
  · exact known.zero_past Source.readsWithin k (by omega) (by omega)

end BlockCache

end DiskImage
