import DiskImage.Proofs.BlockCache.Snapshot
import Mathlib.Data.Finset.Card

/-! The counters of a cache are exact. A call that passes the checks finds its block, loads it or fails to
load it; each of the three moves its own counters, and only a load makes a block resident. -/
namespace DiskImage

theorem size_eq_card_number {α : Type} {entries : Numbered α} {present : Finset Nat}
    (mem : ∀ i : Nat, entries[i]?.isSome ↔ i ∈ present) : entries.size = present.card := by
  have keys : present = entries.keys.toFinset := by
    ext i
    rw [← mem, List.mem_toFinset, Std.ExtTreeMap.mem_keys, Std.ExtTreeMap.mem_iff_isSome_getElem?]
  rw [keys, List.toFinset_card_of_nodup, Std.ExtTreeMap.length_keys]
  exact Std.ExtTreeMap.nodup_keys

namespace BlockCache

structure Moment (μ : Type) where
  cache : BlockCache
  event : Event μ

namespace Moment

section

variable {μ : Type}

def index (s : Moment μ) : Nat := s.event.call.offset / s.cache.blockSize

/-- The call passes the checks: it is one the cache accepts, and its end is a word. -/
def passes (s : Moment μ) : Bool :=
  decide (s.cache.Accepts s.event.call.offset s.event.call.len ∧
    s.event.call.offset + s.event.call.len < Word.limit)

theorem passes_iff {s : Moment μ} :
    s.passes ↔ s.cache.checkSector s.event.call.offset s.event.call.len = .ok () := by
  rw [checkSector_eq_accepts, passes, decide_eq_true_iff]

end

section

variable {μ : Type} [Medium μ]

def finds (s : Moment μ) : Bool := s.passes && s.cache.blocks[s.index]?.isSome

def loads (s : Moment μ) : Bool :=
  s.passes && s.cache.blocks[s.index]?.isNone &&
    (s.cache.loadBlock s.event.source s.index).answer.isOk

def loadFails (s : Moment μ) : Bool :=
  s.passes && s.cache.blocks[s.index]?.isNone &&
    !(s.cache.loadBlock s.event.source s.index).answer.isOk

theorem of_refused {s : Moment μ} (refused : s.passes = false) :
    s.finds = false ∧ s.loads = false ∧ s.loadFails = false := by
  simp [finds, loads, loadFails, refused]

theorem of_resident {s : Moment μ} {block : SparseBytes} (passed : s.passes)
    (found : s.cache.blocks[s.index]? = some block) :
    s.finds = true ∧ s.loads = false ∧ s.loadFails = false := by
  simp [finds, loads, loadFails, passed, found]

theorem of_absent {s : Moment μ} {answer : Except Halt SparseBytes} (passed : s.passes)
    (absent : s.cache.blocks[s.index]? = none)
    (load : (s.cache.loadBlock s.event.source s.index).answer = answer) :
    s.finds = false ∧ s.loads = answer.isOk ∧ s.loadFails = !answer.isOk := by
  simp [finds, loads, loadFails, passed, absent, load]

theorem passes_eq_sum (s : Moment μ) :
    s.passes.toNat = s.finds.toNat + (s.loads.toNat + s.loadFails.toNat) := by
  cases passed : s.passes with
  | false =>
    obtain ⟨finds, loads, fails⟩ := of_refused passed
    rw [finds, loads, fails]
    rfl
  | true =>
    cases found : s.cache.blocks[s.index]? with
    | some block =>
      obtain ⟨finds, loads, fails⟩ := of_resident passed found
      rw [finds, loads, fails]
      rfl
    | none =>
      obtain ⟨finds, loads, fails⟩ := of_absent passed found rfl
      rw [finds, loads, fails]
      cases (s.cache.loadBlock s.event.source s.index).answer <;> rfl

end

end Moment

/-- The blocks that some call succeeded on. -/
def touchedBlocks {μ : Type} (blockSize : Nat) (past : List (Moment μ)) : Finset Nat :=
  ((past.filter (·.event.answer.isOk)).map (·.event.call.offset / blockSize)).toFinset

theorem mem_touchedBlocks {μ : Type} {blockSize index : Nat} {past : List (Moment μ)} :
    index ∈ touchedBlocks blockSize past ↔ ∃ s ∈ past, s.event.touches blockSize index := by
  simp [touchedBlocks, Event.touches, and_assoc]

/-- What a call does to the counters, and to the blocks that are resident. -/
structure Counted {μ : Type} [Medium μ] (s : Moment μ) (next : BlockCache) : Prop where
  hits : next.stats.hits = s.cache.stats.hits + s.finds.toNat
  misses : next.stats.misses = s.cache.stats.misses + (s.loads.toNat + s.loadFails.toNat)
  blocksLoaded : next.stats.blocksLoaded = s.cache.stats.blocksLoaded + s.loads.toNat
  size : next.blocks.size = s.cache.blocks.size + s.loads.toNat
  resident : ∀ i : Nat, next.blocks[i]?.isSome ↔
    s.cache.blocks[i]?.isSome ∨ s.event.touches s.cache.blockSize i

namespace SectorCall

theorem stats_act (call : SectorCall) (c : BlockCache) (index within : Nat) (block : SparseBytes) :
    (call.act c index block within).2.stats = c.stats := by
  cases call <;> rfl

theorem size_act (call : SectorCall) {c : BlockCache} {index : Nat}
    (resident : c.blocks[index]?.isSome) (within : Nat) (block : SparseBytes) :
    (call.act c index block within).2.blocks.size = c.blocks.size := by
  cases call with
  | read offset len => rfl
  | write offset data =>
    change (c.blocks.insert index _).size = _
    rw [size_insert_number, if_pos resident]

theorem isSome_act (call : SectorCall) {c : BlockCache} {index : Nat}
    (resident : c.blocks[index]?.isSome) (within : Nat) (block : SparseBytes) (i : Nat) :
    (call.act c index block within).2.blocks[i]?.isSome ↔ c.blocks[i]?.isSome := by
  cases call with
  | read offset len => exact .rfl
  | write offset data =>
    change (c.blocks.insert index _)[i]?.isSome ↔ _
    rw [getElem?_insert_number]
    split
    · next same => simp [← same, resident]
    · exact .rfl

end SectorCall

section

variable {μ : Type} [Medium μ] {c : BlockCache} {m : μ} {call : SectorCall}

def SectorCall.moment (call : SectorCall) (c : BlockCache) (m : μ) : Moment μ :=
  ⟨c, m, call, (call.serve c m).answer⟩

theorem WellFormed.loadBlock_answer (wf : c.WellFormed)
    (valid : c.checkSector call.offset call.len = .ok ()) {answer : Except Halt SparseBytes} {m' : μ}
    (read : c.readBlock m (call.offset / c.blockSize) = (answer, m')) :
    (c.loadBlock m (call.offset / c.blockSize)).answer = answer := by
  have place := wf.inRange valid
  rw [loadBlock_eq m place.start_le place.start_lt, read]
  cases answer <;> rfl

theorem Touched.isSome_iff {c' : BlockCache} {m' : μ} {index : Nat} {block : SparseBytes}
    (touched : Touched c m index (.ok block) c' m') (i : Nat) :
    c'.blocks[i]?.isSome ↔ c.blocks[i]?.isSome ∨ index == i := by
  rw [touched.blocks_of_ok, beq_iff_eq]
  by_cases same : index = i
  · simp [same]
  · simp [same]

theorem WellFormed.counted (wf : c.WellFormed) (m : μ) (call : SectorCall) :
    Counted (call.moment c m) (call.serve c m).state.1 := by
  have served := SectorCall.serve_cases wf m call
  unfold SectorCall.moment
  generalize call.serve c m = outcome at served ⊢
  cases served with
  | @refused e invalid =>
    have refused : (⟨c, m, call, .error (.error e)⟩ : Moment μ).passes = false := by
      rw [← Bool.not_eq_true, Moment.passes_iff]
      simp [invalid]
    obtain ⟨finds, loads, fails⟩ := Moment.of_refused refused
    constructor
    · rw [finds]; rfl
    · rw [loads, fails]; rfl
    · rw [loads]; rfl
    · rw [loads]; rfl
    · simp [Event.touches, Except.isOk, Except.toBool]
  | @failed halt c' m' valid touched =>
    cases touched with
    | failed absent read =>
      obtain ⟨finds, loads, fails⟩ :=
        Moment.of_absent (s := ⟨c, m, call, .error halt⟩) (Moment.passes_iff.mpr valid) absent
          (wf.loadBlock_answer valid read)
      constructor
      · rw [finds]; rfl
      · rw [loads, fails]; rfl
      · rw [loads]; rfl
      · rw [loads]; rfl
      · simp [Event.touches, Except.isOk, Except.toBool, countMiss]
  | @done block c' m' valid touched =>
    have reached := (touched.isSome_iff _).mpr (.inr BEq.rfl)
    have stats := call.stats_act c' (call.offset / c.blockSize) (call.offset % c.blockSize) block
    have size := call.size_act reached (call.offset % c.blockSize) block
    have resident (i : Nat) := (call.isSome_act reached (call.offset % c.blockSize) block i).trans
      (touched.isSome_iff i)
    cases touched with
    | resident found =>
      obtain ⟨finds, loads, fails⟩ :=
        Moment.of_resident (s := ⟨c, m, call, .ok (call.act _ _ _ _).1⟩)
          (Moment.passes_iff.mpr valid) found
      constructor
      · rw [stats, finds]; rfl
      · rw [stats, loads, fails]; rfl
      · rw [stats, loads]; rfl
      · rw [size, loads]; rfl
      · exact resident
    | loaded absent read =>
      obtain ⟨finds, loads, fails⟩ :=
        Moment.of_absent (s := ⟨c, m, call, .ok (call.act _ _ _ _).1⟩)
          (Moment.passes_iff.mpr valid) absent (wf.loadBlock_answer valid read)
      constructor
      · rw [stats, finds]; rfl
      · rw [stats, loads, fails]; rfl
      · rw [stats, loads]; rfl
      · rw [size, loads]
        change (c.blocks.insert _ block).size = _
        rw [size_insert_number, absent]
        rfl
      · exact resident

def SectorCall.trace (c : BlockCache) : List (μ × SectorCall) → List (Moment μ)
  | [] => []
  | (source, call) :: rest => call.moment c source :: trace (call.serve c source).state.1 rest

/-- The counters of `c` are the counts over its `past`, and the blocks that are resident are those that
a call succeeded on. -/
structure Accounts (c : BlockCache) (past : List (Moment μ)) : Prop where
  resident : ∀ index : Nat, c.blocks[index]?.isSome ↔
    ∃ s ∈ past, s.event.touches c.blockSize index
  blocksLoaded : c.stats.blocksLoaded = c.residentBlocks
  hits : c.stats.hits = past.countP (·.finds)
  misses : c.stats.misses = c.stats.blocksLoaded + past.countP (·.loadFails)
  total : c.stats.hits + c.stats.misses = past.countP (·.passes)

theorem Accounts.create {capacity blockSize : Nat} (created : create capacity blockSize = .ok c) :
    c.Accounts ([] : List (Moment μ)) := by
  obtain ⟨-, -, -, rfl⟩ := create_eq_ok.mp created
  exact ⟨by simp, rfl, rfl, rfl, rfl⟩

theorem countP_concat {α : Type} (counted : α → Bool) (past : List α) (a : α) :
    (past ++ [a]).countP counted = past.countP counted + (counted a).toNat := by
  rw [List.countP_append, List.countP_singleton]
  cases counted a <;> rfl

theorem Accounts.step {past : List (Moment μ)} (accounts : c.Accounts past) (wf : c.WellFormed)
    (m : μ) (call : SectorCall) :
    (call.serve c m).state.1.Accounts (past ++ [call.moment c m]) := by
  have counted := wf.counted m call
  have blockSize := (SectorCall.shape_serve wf m call).1
  have parts := (call.moment c m).passes_eq_sum
  obtain ⟨resident, blocksLoaded, hits, misses, total⟩ := accounts
  have found : (call.moment c m).cache = c := rfl
  constructor
  · intro index
    rw [counted.resident, found, blockSize, resident]
    simp only [List.mem_append, List.mem_singleton, or_and_right, exists_or, exists_eq_left]
  · rw [counted.blocksLoaded, residentBlocks, counted.size, found, blocksLoaded, residentBlocks]
  · rw [counted.hits, countP_concat, found, hits]
  · rw [counted.misses, counted.blocksLoaded, countP_concat, found, misses]
    omega
  · rw [counted.hits, counted.misses, countP_concat, found, ← total]
    omega

theorem Accounts.run {past : List (Moment μ)} (accounts : c.Accounts past) (wf : c.WellFormed)
    (calls : List (μ × SectorCall)) :
    (SectorCall.serveAll c calls).2.Accounts (past ++ SectorCall.trace c calls) := by
  induction calls generalizing c past with
  | nil => rwa [SectorCall.trace, List.append_nil]
  | cons entry rest ih =>
    obtain ⟨source, call⟩ := entry
    have later := ih (accounts.step wf source call) (SectorCall.wellFormed_serve wf source call)
    rwa [List.append_assoc] at later

theorem Accounts.residentBlocks_eq {past : List (Moment μ)} (accounts : c.Accounts past) :
    c.residentBlocks = (touchedBlocks c.blockSize past).card :=
  size_eq_card_number fun i => (accounts.resident i).trans mem_touchedBlocks.symm

theorem SectorCall.resident_serveAll (wf : c.WellFormed) (calls : List (μ × SectorCall)) {index : Nat}
    (resident : c.blocks[index]?.isSome) : (serveAll c calls).2.blocks[index]?.isSome := by
  induction calls generalizing c with
  | nil => exact resident
  | cons entry rest ih =>
    obtain ⟨source, call⟩ := entry
    exact ih (wellFormed_serve wf source call)
      (((wf.counted source call).resident index).mpr (.inl resident))

end

end BlockCache

end DiskImage
