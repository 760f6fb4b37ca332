import DiskImage.Proofs.BlockCache.Calls

/-! A cache is a snapshot. A block freezes when one of its sectors is first touched with success; from
then on its sectors change by writes alone, whatever becomes of the source. -/
namespace DiskImage.BlockCache

namespace Event

variable {μ : Type}

def written? (offset : Nat) (e : Event μ) : Option Bytes :=
  match e.call, e.answer with
  | .write place data, .ok _ => if place = offset then some data else none
  | _, _ => none

def touches (blockSize index : Nat) (e : Event μ) : Bool :=
  e.answer.isOk && e.call.offset / blockSize == index

theorem touches_of_written (blockSize : Nat) {offset : Nat} {data : Bytes} {e : Event μ}
    (written : e.written? offset = some data) : e.touches blockSize (offset / blockSize) := by
  obtain ⟨source, call, answer⟩ := e
  unfold written? at written
  split at written
  · next place data' found success =>
    split at written
    · next same =>
      simp only at found success
      simp [touches, found, success, SectorCall.offset, same, Except.isOk, Except.toBool]
    · cases written
  · cases written

theorem slice_update {c : BlockCache} (wf : c.WellFormed) (m : μ) (call : SectorCall)
    {answer : Answer} {block : SparseBytes}
    (valid : c.checkSector call.offset call.len = .ok ()) (size : block.size = c.blockSize)
    {offset : Nat} (aligned : sectorSize ∣ offset)
    (same : call.offset / c.blockSize = offset / c.blockSize) :
    (call.update block (call.offset % c.blockSize)).slice (offset % c.blockSize) sectorSize =
      ((⟨m, call, .ok answer⟩ : Event μ).written? offset).getD
        (block.slice (offset % c.blockSize) sectorSize) := by
  cases call with
  | read place len => rfl
  | write place data =>
    obtain ⟨sector, fits⟩ := checkSector_eq_ok.mp valid
    change data.size = sectorSize at sector
    change place / c.blockSize = offset / c.blockSize at same
    have room := wf.within_le fits.offset_aligned
    change place % c.blockSize + sectorSize ≤ c.blockSize at room
    change (block.store (place % c.blockSize) data).slice _ _ =
      (if place = offset then some data else none).getD _
    rw [← SparseBytes.slice_toBytes, ← SparseBytes.slice_toBytes,
      SparseBytes.toBytes_store_of_le (by omega)]
    by_cases here : place = offset
    · rw [if_pos here, Option.getD_some, ← here, ← sector]
      exact Bytes.slice_patch_inside (by rw [SparseBytes.size_toBytes]; omega)
    · rw [if_neg here, Option.getD_none]
      apply Bytes.slice_patch_beside (by rw [SparseBytes.size_toBytes]; omega)
      -- Two sectors of one block whose places differ lie a sector apart at least.
      have place_eq := Nat.div_add_mod' place c.blockSize
      have offset_eq := Nat.div_add_mod' offset c.blockSize
      obtain ⟨a, place_sector⟩ : sectorSize ∣ place % c.blockSize :=
        (Nat.dvd_mod_iff wf.blockSize_aligned).mpr fits.offset_aligned
      obtain ⟨b, offset_sector⟩ : sectorSize ∣ offset % c.blockSize :=
        (Nat.dvd_mod_iff wf.blockSize_aligned).mpr aligned
      rw [same] at place_eq
      rw [sector, place_sector, offset_sector]
      simp only [sectorSize] at *
      omega

end Event

section History

variable {μ : Type}

def latestWrite (offset : Nat) (events : List (Event μ)) : Option Bytes :=
  events.reverse.findSome? (·.written? offset)

/-- The source of the first success on a sector of block `index`. -/
def firstTouch (blockSize index : Nat) (events : List (Event μ)) : Option μ :=
  (events.find? (·.touches blockSize index)).map (·.source)

theorem latestWrite_concat (offset : Nat) (past : List (Event μ)) (e : Event μ) :
    latestWrite offset (past ++ [e]) = (e.written? offset).or (latestWrite offset past) := by
  rw [latestWrite, List.reverse_append, List.reverse_singleton, List.singleton_append,
    List.findSome?_cons]
  cases e.written? offset <;> rfl

theorem firstTouch_concat (blockSize index : Nat) (past : List (Event μ)) (e : Event μ) :
    firstTouch blockSize index (past ++ [e]) = (firstTouch blockSize index past).or
      (if e.touches blockSize index then some e.source else none) := by
  rw [firstTouch, firstTouch, List.find?_append, Option.map_or]
  congr 1
  cases touched : e.touches blockSize index <;> simp [touched]

theorem latestWrite_of_untouched {blockSize offset : Nat} {past : List (Event μ)}
    (untouched : firstTouch blockSize (offset / blockSize) past = none) :
    latestWrite offset past = none := by
  rw [firstTouch, Option.map_eq_none_iff, List.find?_eq_none] at untouched
  rw [latestWrite, List.findSome?_eq_none_iff]
  intro e member
  cases written : e.written? offset with
  | none => rfl
  | some data =>
    exact absurd (Event.touches_of_written _ written) (untouched e (List.mem_reverse.mp member))

end History

section

variable {μ : Type} [Medium μ] [Source μ]

/-- What a cache knows of the calls made on it: a sector of a loaded block is as last written, or as
its source had it when the block was first touched. -/
structure Remembers (c : BlockCache) (past : List (Event μ)) : Prop where
  wellFormed : c.WellFormed
  absent : ∀ index, c.blocks[index]? = none → firstTouch c.blockSize index past = none
  resident : ∀ (offset : Nat) (block : SparseBytes), Fits offset sectorSize c.capacity →
    c.blocks[offset / c.blockSize]? = some block →
      ∃ source, firstTouch c.blockSize (offset / c.blockSize) past = some source ∧
        block.slice (offset % c.blockSize) sectorSize =
          (latestWrite offset past).getD (Source.bytesAt source offset sectorSize)

theorem Remembers.nil {c : BlockCache} (wf : c.WellFormed) (empty : c.blocks = ∅) :
    c.Remembers ([] : List (Event μ)) where
  wellFormed := wf
  absent _ _ := rfl
  resident offset block _ found := by simp [empty] at found

namespace Remembers

variable {c c' : BlockCache} {past : List (Event μ)} {m m' : μ} {block : SparseBytes}

theorem reached (known : c.Remembers past) {offset : Nat}
    (fits : Fits offset sectorSize c.capacity)
    (touched : Touched c m (offset / c.blockSize) (.ok block) c' m') :
    ∃ source, (firstTouch c.blockSize (offset / c.blockSize) past).or (some m) = some source ∧
      block.slice (offset % c.blockSize) sectorSize =
        (latestWrite offset past).getD (Source.bytesAt source offset sectorSize) := by
  cases touched with
  | resident found =>
    obtain ⟨source, first, sector⟩ := known.resident offset block fits found
    exact ⟨source, by rw [first, Option.some_or], sector⟩
  | loaded absent read =>
    have untouched := known.absent _ absent
    refine ⟨m, by rw [untouched, Option.none_or], ?_⟩
    rw [latestWrite_of_untouched untouched, Option.getD_none]
    exact known.wellFormed.slice_of_readBlock fits read

theorem of_failure (known : c.Remembers past) {call : SectorCall} {halt : Halt}
    (blocks : c'.blocks = c.blocks) (wf : c'.WellFormed) (blockSize : c'.blockSize = c.blockSize)
    (capacity : c'.capacity = c.capacity) :
    c'.Remembers (past ++ [⟨m, call, .error halt⟩]) := by
  have unwritten (offset : Nat) :
      (⟨m, call, .error halt⟩ : Event μ).written? offset = none := by
    cases call <;> rfl
  have untouched (index : Nat) :
      (⟨m, call, .error halt⟩ : Event μ).touches c.blockSize index = false := rfl
  refine ⟨wf, ?_, ?_⟩
  · intro index absent
    rw [blockSize, firstTouch_concat, untouched, known.absent index (blocks ▸ absent)]
    rfl
  · intro offset block fits found
    rw [capacity] at fits
    rw [blocks, blockSize] at found
    obtain ⟨source, first, sector⟩ := known.resident offset block fits found
    refine ⟨source, ?_, ?_⟩
    · rw [blockSize, firstTouch_concat, first, Option.some_or]
    · rw [blockSize, latestWrite_concat, unwritten, Option.none_or, sector]

theorem of_success (known : c.Remembers past) {call : SectorCall} {answer : Answer}
    {last : BlockCache} (valid : c.checkSector call.offset call.len = .ok ())
    (touched : Touched c m (call.offset / c.blockSize) (.ok block) c' m')
    (blocks : ∀ i : Nat, last.blocks[i]? = if call.offset / c.blockSize = i
      then some (call.update block (call.offset % c.blockSize)) else c.blocks[i]?)
    (wf : last.WellFormed) (blockSize : last.blockSize = c.blockSize)
    (capacity : last.capacity = c.capacity) :
    last.Remembers (past ++ [⟨m, call, .ok answer⟩]) := by
  have touches (index : Nat) : (⟨m, call, .ok answer⟩ : Event μ).touches c.blockSize index =
      (call.offset / c.blockSize == index) := rfl
  refine ⟨wf, ?_, ?_⟩
  · intro index absent
    rw [blocks] at absent
    split at absent
    · cases absent
    · next elsewhere =>
      rw [blockSize, firstTouch_concat, known.absent index absent, touches]
      simp [elsewhere]
  · intro offset found_block fits found
    rw [capacity] at fits
    rw [blockSize, blocks] at found
    rw [blockSize, firstTouch_concat, latestWrite_concat, touches]
    by_cases here : call.offset / c.blockSize = offset / c.blockSize
    · rw [if_pos here] at found
      cases found
      rw [here] at touched
      obtain ⟨source, first, sector⟩ := known.reached fits touched
      refine ⟨source, ?_, ?_⟩
      · simpa [here] using first
      · rw [Option.getD_or, ← sector]
        exact Event.slice_update known.wellFormed m call valid
          (touched.size_block known.wellFormed) fits.offset_aligned here
    · rw [if_neg here] at found
      obtain ⟨source, first, sector⟩ := known.resident offset found_block fits found
      refine ⟨source, by rw [first, Option.some_or], ?_⟩
      have unwritten : (⟨m, call, .ok answer⟩ : Event μ).written? offset = none := by
        cases written : (⟨m, call, .ok answer⟩ : Event μ).written? offset with
        | none => rfl
        | some data =>
          have touched_here := Event.touches_of_written c.blockSize written
          rw [touches, beq_iff_eq] at touched_here
          exact absurd touched_here here
      rw [unwritten, Option.none_or, sector]

theorem step (known : c.Remembers past) (m : μ) (call : SectorCall) :
    (call.serve c m).state.1.Remembers (past ++ [⟨m, call, (call.serve c m).answer⟩]) := by
  have wf := SectorCall.wellFormed_serve known.wellFormed m call
  obtain ⟨blockSize, capacity, -⟩ := SectorCall.shape_serve known.wellFormed m call
  have served := SectorCall.serve_cases known.wellFormed m call
  generalize call.serve c m = outcome at served wf blockSize capacity ⊢
  cases served with
  | refused invalid => exact known.of_failure rfl wf blockSize capacity
  | failed valid touched =>
    exact known.of_failure touched.blocks_of_error wf blockSize capacity
  | done valid touched =>
    exact known.of_success valid touched (call.blocks_act touched) wf blockSize capacity

theorem read (known : c.Remembers past) {offset len : Nat} {bytes : Bytes}
    (success : ((SectorCall.read offset len).serve c m).answer = .ok (.data bytes)) :
    ∃ source, firstTouch c.blockSize (offset / c.blockSize)
        (past ++ [⟨m, .read offset len, .ok (.data bytes)⟩]) = some source ∧
      bytes = (latestWrite offset past).getD (Source.bytesAt source offset sectorSize) := by
  have served := SectorCall.serve_cases known.wellFormed m (.read offset len)
  generalize (SectorCall.read offset len).serve c m = outcome at served success
  cases served with
  | refused invalid => cases success
  | failed valid touched => cases success
  | done valid touched =>
    cases success
    obtain ⟨rfl, fits⟩ := checkSector_eq_ok.mp valid
    obtain ⟨source, first, sector⟩ := known.reached fits touched
    refine ⟨source, ?_, sector⟩
    rw [firstTouch_concat]
    simpa [Event.touches, SectorCall.offset, Except.isOk, Except.toBool] using first

theorem serveAll_split (known : c.Remembers past) {calls : List (μ × SectorCall)}
    {before after : List (Event μ)} {event : Event μ}
    (split : (SectorCall.serveAll c calls).1 = before ++ event :: after) :
    ∃ c' : BlockCache, c'.Remembers (past ++ before) ∧ c'.blockSize = c.blockSize ∧
      (event.call.serve c' event.source).answer = event.answer := by
  induction calls generalizing c past before with
  | nil => simp [SectorCall.serveAll] at split
  | cons entry rest ih =>
    obtain ⟨source, call⟩ := entry
    simp only [SectorCall.serveAll] at split
    cases before with
    | nil =>
      obtain ⟨rfl, -⟩ := List.cons.inj split
      exact ⟨c, by rwa [List.append_nil], rfl, rfl⟩
    | cons first before =>
      obtain ⟨rfl, later⟩ := List.cons.inj split
      obtain ⟨c', remembers, same, answer⟩ := ih (known.step source call) later
      rw [List.append_assoc, List.singleton_append] at remembers
      have blockSize := (SectorCall.shape_serve known.wellFormed source call).1
      exact ⟨c', remembers, same.trans blockSize, answer⟩

end Remembers

/-- What makes a run of calls a snapshot of its sources. -/
structure IsSnapshot (capacity blockSize : Nat) (run : List (Event μ) × BlockCache) : Prop where
  /-- A read that succeeds finds the latest successful write of its sector, or, if there is none,
  what the source of the first success on its block held there. -/
  reads : ∀ (before after : List (Event μ)) (event : Event μ) (offset len : Nat) (answer : Answer),
    run.1 = before ++ event :: after → event.call = .read offset len → event.answer = .ok answer →
      ∃ source, firstTouch blockSize (offset / blockSize) (before ++ [event]) = some source ∧
        answer = .data ((latestWrite offset before).getD (Source.bytesAt source offset sectorSize))
  /-- A valid call on a loaded block has one answer and leaves one cache, whatever the source. -/
  resident : ∀ call : SectorCall, call.len = sectorSize → Fits call.offset call.len capacity →
    run.2.blocks[call.offset / blockSize]? ≠ none →
      ∃ (answer : Answer) (next : BlockCache),
        ∀ m : μ, call.serve run.2 m = ⟨.ok answer, (next, m)⟩

/-- However the source changes between the calls, every block is the snapshot of its first touch with
the later writes on it. -/
theorem snapshot_of_changing_sources {capacity blockSize : Nat} {c : BlockCache}
    (created : create capacity blockSize = .ok c) (calls : List (μ × SectorCall)) :
    IsSnapshot capacity blockSize (SectorCall.serveAll c calls) := by
  have wf := wellFormed_create created
  obtain ⟨-, -, -, new⟩ := create_eq_ok.mp created
  have known : c.Remembers ([] : List (Event μ)) := .nil wf (by rw [new])
  have shape : c.blockSize = blockSize ∧ c.capacity = capacity := by rw [new]; exact ⟨rfl, rfl⟩
  obtain ⟨last_wf, last_blockSize, last_capacity⟩ := SectorCall.serveAll_keeps wf calls
  rw [shape.1] at last_blockSize
  rw [shape.2] at last_capacity
  constructor
  · intro before after event offset len answer split call success
    obtain ⟨c', remembers, same, answered⟩ := known.serveAll_split split
    obtain ⟨source, _, _⟩ := event
    simp only at call success answered
    subst call success
    rw [shape.1] at same
    obtain ⟨bytes, rfl⟩ := SectorCall.data_of_read answered
    obtain ⟨first, touched, sector⟩ := remembers.read answered
    rw [same] at touched
    exact ⟨first, touched, by rw [sector, List.nil_append]⟩
  · intro call sector fits loaded
    obtain ⟨block, found⟩ := Option.ne_none_iff_exists'.mp loaded
    rw [← last_blockSize] at found
    rw [← last_capacity] at fits
    exact ⟨_, _, SectorCall.serve_resident last_wf call (checkSector_eq_ok.mpr ⟨sector, fits⟩) found⟩

/-- A file that is cut off after the first read does not change what the second finds. -/
theorem snapshot_of_shrinking_file :
    let whole : OpenFile := ⟨.ofBytes (Bytes.fill 7 1024)⟩
    let cut : OpenFile := ⟨.zeros 0⟩
    let c : BlockCache := { blockSize := 1024, capacity := 1024, blockCount := 1 }
    create 1024 1024 = .ok c ∧
      IsSnapshot 1024 1024 (SectorCall.serveAll c [(whole, .read 0 512), (cut, .read 512 512)]) := by
  intro whole cut c
  have created : create 1024 1024 = .ok c :=
    create_eq_ok.mpr ⟨by decide, by decide, by decide, rfl⟩
  exact ⟨created, snapshot_of_changing_sources created _⟩

end

end DiskImage.BlockCache
