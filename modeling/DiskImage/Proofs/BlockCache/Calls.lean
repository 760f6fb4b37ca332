import DiskImage.Proofs.BlockCache.Access
import DiskImage.Session

/-! Sector calls as data, and runs of them on one cache. Each call comes with the source that is there
at its time, so a run also covers a medium that changes, shrinks or fails between the calls. -/
namespace DiskImage.BlockCache

inductive SectorCall
  | read (offset len : Nat)
  | write (offset : Nat) (data : Bytes)

structure Event (μ : Type) where
  source : μ
  call : SectorCall
  answer : Except Halt Answer

namespace SectorCall

def offset : SectorCall → Nat
  | read offset _ => offset
  | write offset _ => offset

def len : SectorCall → Nat
  | read _ len => len
  | write _ data => data.size

section

variable {μ : Type} [Medium μ]

def serve (c : BlockCache) (m : μ) : SectorCall → Outcome (BlockCache × μ) Answer
  | read offset len => Request.mapAnswer .data (c.readSector m offset len)
  | write offset data => Request.mapAnswer (fun () => .finished) (c.writeSector m offset data)

def serveAll (c : BlockCache) : List (μ × SectorCall) → List (Event μ) × BlockCache
  | [] => ([], c)
  | (source, call) :: rest =>
    let first := call.serve c source
    let (events, last) := serveAll first.state.1 rest
    (⟨source, call, first.answer⟩ :: events, last)

/-- What a call does to the block it has reached. -/
def act : SectorCall → BlockCache → Nat → SparseBytes → Nat → Answer × BlockCache
  | read _ len, c, _, block, within => (.data (block.slice within len), c)
  | write _ data, c, index, block, within => (.finished, c.replace index (block.store within data))

def update : SectorCall → SparseBytes → Nat → SparseBytes
  | read _ _, block, _ => block
  | write _ data, block, within => block.store within data

theorem mapAnswer_access {α α' : Type} (f : α → α') (c : BlockCache) (m : μ) (offset len : Nat)
    (act : BlockCache → Nat → SparseBytes → Nat → α × BlockCache) :
    Request.mapAnswer f (c.access m offset len act) =
      c.access m offset len fun c index block within =>
        (f (act c index block within).1, (act c index block within).2) := by
  unfold access Request.mapAnswer
  cases c.checkSector offset len with
  | error e => rfl
  | ok =>
    cases touched : c.touch m (offset / c.blockSize) with
    | mk answer state =>
      cases answer with
      | error halt => simp only [touched, Except.map]
      | ok block =>
        simp only [touched]
        by_cases short : block.size < offset % c.blockSize + len
        · simp only [if_pos short, Except.map]
        · simp only [if_neg short, Except.map]

theorem serve_eq_access (call : SectorCall) (c : BlockCache) (m : μ) :
    call.serve c m = c.access m call.offset call.len call.act := by
  cases call <;> exact mapAnswer_access ..

theorem data_of_read {c : BlockCache} {m : μ} {offset len : Nat} {answer : Answer}
    (success : ((read offset len).serve c m).answer = .ok answer) :
    ∃ bytes, answer = .data bytes := by
  obtain ⟨bytes, -, rfl⟩ := map_eq_ok.mp success
  exact ⟨bytes, rfl⟩

theorem serve_cases {c : BlockCache} (wf : c.WellFormed) (m : μ) (call : SectorCall) :
    Accessed c m call.offset call.len call.act (call.serve c m) := by
  rw [serve_eq_access]
  exact wf.access_cases m call.offset call.len call.act

theorem act_shape (call : SectorCall) (c : BlockCache) (index within : Nat) (block : SparseBytes) :
    (call.act c index block within).2.blockSize = c.blockSize ∧
      (call.act c index block within).2.capacity = c.capacity ∧
      (call.act c index block within).2.blockCount = c.blockCount := by
  cases call <;> exact ⟨rfl, rfl, rfl⟩

theorem blocks_act (call : SectorCall) {c c' : BlockCache} {m m' : μ} {index within : Nat}
    {block : SparseBytes} (touched : Touched c m index (.ok block) c' m') (i : Nat) :
    (call.act c' index block within).2.blocks[i]? =
      if index = i then some (call.update block within) else c.blocks[i]? := by
  cases call with
  | read offset len => exact touched.blocks_of_ok i
  | write offset data =>
    change (c'.blocks.insert index (block.store within data))[i]? = _
    rw [getElem?_insert_number, touched.blocks_of_ok]
    by_cases same : index = i
    · rw [if_pos same, if_pos same, update]
    · rw [if_neg same, if_neg same, if_neg same]

theorem wellFormed_act (call : SectorCall) {c : BlockCache} (wf : c.WellFormed) {index within : Nat}
    {block : SparseBytes} (size : block.size = c.blockSize)
    (room : within + call.len ≤ block.size) : (call.act c index block within).2.WellFormed := by
  cases call with
  | read offset len => exact wf
  | write offset data =>
    exact wf.replace index (by rw [SparseBytes.size_store_of_le room, size])

theorem shape_serve {c : BlockCache} (wf : c.WellFormed) (m : μ) (call : SectorCall) :
    (call.serve c m).state.1.blockSize = c.blockSize ∧
      (call.serve c m).state.1.capacity = c.capacity ∧
      (call.serve c m).state.1.blockCount = c.blockCount := by
  have served := serve_cases wf m call
  generalize call.serve c m = outcome at served ⊢
  cases served with
  | refused invalid => exact ⟨rfl, rfl, rfl⟩
  | failed valid touched => exact touched.shape
  | done valid touched =>
    obtain ⟨blockSize, capacity, blockCount⟩ := touched.shape
    rw [← blockSize, ← capacity, ← blockCount]
    exact call.act_shape ..

theorem wellFormed_serve {c : BlockCache} (wf : c.WellFormed) (m : μ) (call : SectorCall) :
    (call.serve c m).state.1.WellFormed := by
  have served := serve_cases wf m call
  generalize call.serve c m = outcome at served ⊢
  cases served with
  | refused invalid => exact wf
  | failed valid touched => exact touched.wellFormed wf
  | done valid touched =>
    obtain ⟨sector, fits⟩ := checkSector_eq_ok.mp valid
    have size := touched.size_block wf
    apply wellFormed_act call (touched.wellFormed wf)
    · rw [size, touched.shape.1]
    · rw [size, sector]
      exact wf.within_le fits.offset_aligned

/-- On a loaded block a valid call succeeds without a look at the medium. -/
theorem serve_resident {c : BlockCache} (wf : c.WellFormed) (call : SectorCall)
    (valid : c.checkSector call.offset call.len = .ok ()) {block : SparseBytes}
    (found : c.blocks[call.offset / c.blockSize]? = some block) (m : μ) :
    call.serve c m =
      ⟨.ok (call.act c.countHit (call.offset / c.blockSize) block (call.offset % c.blockSize)).1,
        ((call.act c.countHit (call.offset / c.blockSize) block
          (call.offset % c.blockSize)).2, m)⟩ := by
  have served := serve_cases wf m call
  generalize call.serve c m = outcome at served ⊢
  cases served with
  | refused invalid => simp [valid] at invalid
  | failed valid touched =>
    cases touched with
    | failed absent read => simp [found] at absent
  | done valid touched =>
    cases touched with
    | resident found' =>
      rw [found] at found'
      cases found'
      rfl
    | loaded absent read => simp [found] at absent

theorem serveAll_keeps {c : BlockCache} (wf : c.WellFormed) (calls : List (μ × SectorCall)) :
    (serveAll c calls).2.WellFormed ∧ (serveAll c calls).2.blockSize = c.blockSize ∧
      (serveAll c calls).2.capacity = c.capacity := by
  induction calls generalizing c with
  | nil => exact ⟨wf, rfl, rfl⟩
  | cons entry rest ih =>
    obtain ⟨source, call⟩ := entry
    obtain ⟨blockSize, capacity, -⟩ := shape_serve wf source call
    obtain ⟨last_wf, last_blockSize, last_capacity⟩ := ih (wellFormed_serve wf source call)
    exact ⟨last_wf, last_blockSize.trans blockSize, last_capacity.trans capacity⟩

end

end SectorCall

end DiskImage.BlockCache
