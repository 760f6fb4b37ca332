import DiskImage.Proofs.BlockCache.Calls
import DiskImage.Proofs.Operation
import DiskImage.Proofs.SparseBytes

/-! Sector calls that do not conflict can be made in either order. Which of the two loads a block that
both of them need, and so which one counts the miss, changes neither the answers nor the cache that
they leave behind. -/
namespace DiskImage

section Tables

variable {α : Type} {entries : Numbered α} {k l : Nat} {a b : α}

theorem insert_insert_number (entries : Numbered α) (k : Nat) (a b : α) :
    (entries.insert k a).insert k b = entries.insert k b := by
  apply Std.ExtTreeMap.ext_getElem?
  intro i
  simp only [getElem?_insert_number]
  split <;> rfl

theorem insert_comm_number (entries : Numbered α) (ne : k ≠ l) (a b : α) :
    (entries.insert k a).insert l b = (entries.insert l b).insert k a := by
  apply Std.ExtTreeMap.ext_getElem?
  intro i
  simp only [getElem?_insert_number]
  by_cases first : k = i
  · rw [if_neg (by omega), if_pos first, if_pos first]
  · rw [if_neg first, if_neg first]

theorem insert_self_number (found : entries[k]? = some a) : entries.insert k a = entries := by
  apply Std.ExtTreeMap.ext_getElem?
  intro i
  rw [getElem?_insert_number]
  split
  · next same => rw [← same, found]
  · rfl

end Tables

namespace BlockCache

/-- The cache after a call that left `block` at `index`: a hit if a block was there, and otherwise a miss
and a load. -/
def settle (c : BlockCache) (index : Nat) (block : SparseBytes) : BlockCache :=
  if c.blocks[index]?.isSome then c.countHit.replace index block
  else c.countMiss.install index block

/-- The same of a call that may not have had its block, and then counts a miss. -/
def leave (c : BlockCache) (index : Nat) : Except Halt SparseBytes → BlockCache
  | .error _ => c.countMiss
  | .ok block => c.settle index block

section Settle

variable (c : BlockCache) {i j : Nat}

theorem getElem?_settle (i : Nat) (block : SparseBytes) (j : Nat) :
    (c.settle i block).blocks[j]? = if i = j then some block else c.blocks[j]? := by
  rw [← getElem?_insert_number]
  unfold settle
  split <;> rfl

theorem countMiss_settle (i : Nat) (block : SparseBytes) :
    (c.settle i block).countMiss = c.countMiss.settle i block := by
  have same : c.countMiss.blocks = c.blocks := rfl
  unfold settle
  rw [same]
  split <;> rfl

theorem settle_comm (ne : i ≠ j) (a b : SparseBytes) :
    (c.settle i a).settle j b = (c.settle j b).settle i a := by
  have first : (c.settle i a).blocks[j]? = c.blocks[j]? := by rw [getElem?_settle, if_neg ne]
  have second : (c.settle j b).blocks[i]? = c.blocks[i]? := by
    rw [getElem?_settle, if_neg ne.symm]
  have blocks := insert_comm_number c.blocks ne a b
  unfold settle at first second ⊢
  rw [first, second]
  by_cases resident : c.blocks[i]?.isSome <;> by_cases resident' : c.blocks[j]?.isSome <;>
    simp [resident, resident', countHit, countMiss, replace, install, blocks]

theorem settle_settle (i : Nat) (a b : SparseBytes) :
    (c.settle i a).settle i b = (c.settle i b).countHit := by
  have found : (c.settle i a).blocks[i]?.isSome := by
    rw [getElem?_settle, if_pos rfl, Option.isSome_some]
  have blocks := insert_insert_number c.blocks i a b
  rw [settle, if_pos found]
  unfold settle
  split <;> simp [countHit, countMiss, replace, install, blocks]

theorem leave_comm (ne : i ≠ j) (x y : Except Halt SparseBytes) :
    (c.leave i x).leave j y = (c.leave j y).leave i x := by
  cases x with
  | error =>
    cases y with
    | error => rfl
    | ok b => exact (c.countMiss_settle j b).symm
  | ok a =>
    cases y with
    | error => exact c.countMiss_settle i a
    | ok b => exact c.settle_comm ne a b

theorem leave_shape (i : Nat) (x : Except Halt SparseBytes) :
    (c.leave i x).blockSize = c.blockSize ∧ (c.leave i x).capacity = c.capacity := by
  cases x with
  | error => exact ⟨rfl, rfl⟩
  | ok block =>
    rw [leave, settle]
    split <;> exact ⟨rfl, rfl⟩

theorem getElem?_leave_other (ne : i ≠ j) (x : Except Halt SparseBytes) :
    (c.leave i x).blocks[j]? = c.blocks[j]? := by
  cases x with
  | error => rfl
  | ok block => rw [leave, getElem?_settle, if_neg ne]

end Settle

section Fetch

variable {μ : Type} [Medium μ] {c c' : BlockCache} {m : μ} {i j : Nat}

def fetch (c : BlockCache) (m : μ) (index : Nat) : Except Halt SparseBytes :=
  match c.blocks[index]? with
  | some block => .ok block
  | none => (c.readBlock m index).1

theorem fetch_congr (blockSize : c'.blockSize = c.blockSize) (capacity : c'.capacity = c.capacity)
    (found : c'.blocks[j]? = c.blocks[j]?) (m : μ) : c'.fetch m j = c.fetch m j := by
  unfold fetch readBlock backed
  rw [found, blockSize, capacity]

theorem fetch_leave_other (c : BlockCache) (m : μ) (ne : i ≠ j) (x : Except Halt SparseBytes) :
    (c.leave i x).fetch m j = c.fetch m j := by
  obtain ⟨blockSize, capacity⟩ := c.leave_shape i x
  exact fetch_congr blockSize capacity (c.getElem?_leave_other ne x) m

theorem fetch_settle_self (c : BlockCache) (m : μ) (i : Nat) (block : SparseBytes) :
    (c.settle i block).fetch m i = .ok block := by
  rw [fetch, getElem?_settle, if_pos rfl]

theorem WellFormed.size_of_fetch (wf : c.WellFormed) {block : SparseBytes}
    (fetched : c.fetch m i = .ok block) : block.size = c.blockSize := by
  cases found : c.blocks[i]? with
  | some resident =>
    obtain rfl : resident = block := by simpa [fetch, found] using fetched
    exact wf.size_block i resident found
  | none =>
    have read : c.readBlock m i = (.ok block, (c.readBlock m i).2) :=
      Prod.ext (by simpa [fetch, found] using fetched) rfl
    exact (Touched.loaded found read).size_block wf

end Fetch

namespace SectorCall

def result : SectorCall → SparseBytes → Nat → Answer
  | read _ len, block, within => .data (block.slice within len)
  | write _ _, _, _ => .finished

section

variable {μ : Type} [Medium μ] {c : BlockCache} {m : μ} {call a b : SectorCall}

theorem act_countHit (call : SectorCall) {index : Nat} {block : SparseBytes}
    (found : c.blocks[index]? = some block) (within : Nat) :
    call.act c.countHit index block within =
      (call.result block within, c.settle index (call.update block within)) := by
  rw [settle, if_pos (by rw [found, Option.isSome_some])]
  cases call with
  | read offset len =>
    have kept : c.countHit.replace index block = c.countHit := by
      rw [replace, countHit, insert_self_number found]
    simp only [act, result, update, kept]
  | write offset data => rfl

theorem act_install (call : SectorCall) {index : Nat} (absent : c.blocks[index]? = none)
    (block : SparseBytes) (within : Nat) :
    call.act (c.countMiss.install index block) index block within =
      (call.result block within, c.settle index (call.update block within)) := by
  rw [settle, if_neg (by simp [absent])]
  cases call with
  | read offset len => rfl
  | write offset data => simp only [act, result, update, replace, install, insert_insert_number]

/-- A call as an operation on the cache alone, over a medium that stays as it is. -/
def onCache (m : μ) (call : SectorCall) (c : BlockCache) : Outcome BlockCache Answer :=
  ⟨(call.serve c m).answer, (call.serve c m).state.1⟩

theorem onCache_of_invalid {e : ImageError} (invalid : c.checkSector call.offset call.len = .error e)
    (m : μ) : call.onCache m c = ⟨.error (.error e), c⟩ := by
  rw [onCache, serve_eq_access, access, invalid]

theorem onCache_of_valid (wf : c.WellFormed) (valid : c.checkSector call.offset call.len = .ok ())
    {n : Nat} (blockSize : c.blockSize = n) {found : Except Halt SparseBytes}
    (fetched : c.fetch m (call.offset / n) = found) :
    call.onCache m c = ⟨found.map fun block => call.result block (call.offset % n),
      c.leave (call.offset / n) (found.map fun block => call.update block (call.offset % n))⟩ := by
  subst blockSize fetched
  have served := serve_cases wf m call
  unfold onCache
  generalize call.serve c m = outcome at served ⊢
  cases served with
  | refused invalid => simp [valid] at invalid
  | failed _ touched =>
    cases touched with
    | failed absent read => simp only [fetch, absent, read, Except.map, leave]
  | done _ touched =>
    cases touched with
    | resident found => simp only [fetch, found, Except.map, leave, call.act_countHit found]
    | loaded absent read => simp only [fetch, absent, read, Except.map, leave, call.act_install absent]

theorem checkSector_onCache (wf : c.WellFormed) (m : μ) (call : SectorCall) (offset len : Nat) :
    (call.onCache m c).state.checkSector offset len = c.checkSector offset len := by
  obtain ⟨-, capacity, -⟩ := shape_serve wf m call
  unfold checkSector onCache
  rw [capacity]

theorem wellFormed_onCache (wf : c.WellFormed) (m : μ) (call : SectorCall) :
    (call.onCache m c).state.WellFormed := wellFormed_serve wf m call

/-- Two calls that only read, or whose sectors have no byte in common. -/
inductive Independent : SectorCall → SectorCall → Prop
  | reads {offset len offset' len' : Nat} : Independent (read offset len) (read offset' len')
  | apart {a b : SectorCall} (apart : Apart a.offset a.len b.offset b.len) : Independent a b

theorem Independent.symm (independent : a.Independent b) : b.Independent a := by
  cases independent with
  | reads => exact .reads
  | apart apart => exact .apart apart.symm

theorem apart_mod {n offset len offset' len' : Nat} (apart : Apart offset len offset' len')
    (same : offset / n = offset' / n) : Apart (offset % n) len (offset' % n) len' := by
  have first := Nat.div_add_mod' offset n
  have second := Nat.div_add_mod' offset' n
  rw [same] at first
  unfold Apart at apart ⊢
  omega

section SameBlock

variable {n : Nat} (independent : a.Independent b) (same : a.offset / n = b.offset / n)
include independent same

theorem update_comm (block : SparseBytes) :
    b.update (a.update block (a.offset % n)) (b.offset % n) =
      a.update (b.update block (b.offset % n)) (a.offset % n) := by
  cases independent with
  | reads => rfl
  | apart apart =>
    cases a with
    | read => rfl
    | write offset data =>
      cases b with
      | read => rfl
      | write offset' data' => exact SparseBytes.store_comm (apart_mod apart same)

theorem result_update {block : SparseBytes} (room : b.offset % n + b.len ≤ block.size) :
    a.result (b.update block (b.offset % n)) (a.offset % n) = a.result block (a.offset % n) := by
  cases independent with
  | reads => rfl
  | apart apart =>
    cases a with
    | write => rfl
    | read offset len =>
      cases b with
      | read => rfl
      | write offset' data =>
        have beside := apart_mod apart.symm same.symm
        exact congrArg Answer.data (SparseBytes.slice_store_of_apart room beside)

end SameBlock

theorem commutes_of_invalid (wf : c.WellFormed) (m : μ) (a : SectorCall) {e : ImageError}
    (invalid : c.checkSector b.offset b.len = .error e) :
    Commutes (· = c) (a.onCache m) (b.onCache m) := by
  have later : (a.onCache m c).state.checkSector b.offset b.len = .error e := by
    rw [checkSector_onCache wf, invalid]
  have before : a.onCache m (b.onCache m c).state = ⟨(a.onCache m c).answer, (a.onCache m c).state⟩ := by
    rw [onCache_of_invalid invalid]
  apply Commutes.at_state before
  rw [onCache_of_invalid later, onCache_of_invalid invalid]

theorem onCache_onCache (wf : c.WellFormed) (valid : c.checkSector b.offset b.len = .ok ())
    (a : SectorCall) {found : Except Halt SparseBytes}
    (fetched : (a.onCache m c).state.fetch m (b.offset / c.blockSize) = found) :
    b.onCache m (a.onCache m c).state = ⟨found.map fun block => b.result block (b.offset % c.blockSize),
      (a.onCache m c).state.leave (b.offset / c.blockSize)
        (found.map fun block => b.update block (b.offset % c.blockSize))⟩ :=
  onCache_of_valid (wellFormed_onCache wf m a) (by rw [checkSector_onCache wf, valid])
    (shape_serve wf m a).1 fetched

section Valid

variable (wf : c.WellFormed) (m : μ) (valid : c.checkSector a.offset a.len = .ok ())
  (valid' : c.checkSector b.offset b.len = .ok ())
include wf valid valid'

theorem commutes_of_ne (ne : a.offset / c.blockSize ≠ b.offset / c.blockSize) :
    Commutes (· = c) (a.onCache m) (b.onCache m) := by
  obtain ⟨x, fetched⟩ : ∃ x, c.fetch m (a.offset / c.blockSize) = x := ⟨_, rfl⟩
  obtain ⟨y, fetched'⟩ : ∃ y, c.fetch m (b.offset / c.blockSize) = y := ⟨_, rfl⟩
  have first := onCache_of_valid wf valid rfl fetched
  have second := onCache_of_valid wf valid' rfl fetched'
  have after : (b.onCache m c).state.fetch m (a.offset / c.blockSize) = x := by
    rw [second, fetch_leave_other c m ne.symm, fetched]
  have after' : (a.onCache m c).state.fetch m (b.offset / c.blockSize) = y := by
    rw [first, fetch_leave_other c m ne, fetched']
  apply Commutes.at_state
  · rw [onCache_onCache wf valid b after, first]
  · rw [onCache_onCache wf valid' a after', first, second, c.leave_comm ne]

theorem commutes_of_same (independent : a.Independent b)
    (same : a.offset / c.blockSize = b.offset / c.blockSize) :
    Commutes (· = c) (a.onCache m) (b.onCache m) := by
  cases fetched : c.fetch m (a.offset / c.blockSize) with
  | error halt =>
    have first := onCache_of_valid wf valid rfl fetched
    have second := onCache_of_valid wf valid' rfl (same ▸ fetched)
    have after : (b.onCache m c).state.fetch m (a.offset / c.blockSize) = .error halt := by
      rw [second]
      exact fetched
    have after' : (a.onCache m c).state.fetch m (b.offset / c.blockSize) = .error halt := by
      rw [first, ← same]
      exact fetched
    apply Commutes.at_state
    · rw [onCache_onCache wf valid b after, first]
    · rw [onCache_onCache wf valid' a after', first, second]
      rfl
  | ok block =>
    have first := onCache_of_valid wf valid rfl fetched
    have second := onCache_of_valid wf valid' rfl (same ▸ fetched)
    have after : (b.onCache m c).state.fetch m (a.offset / c.blockSize) =
        .ok (b.update block (b.offset % c.blockSize)) := by
      rw [second, same]
      exact fetch_settle_self c m _ _
    have after' : (a.onCache m c).state.fetch m (b.offset / c.blockSize) =
        .ok (a.update block (a.offset % c.blockSize)) := by
      rw [first, ← same]
      exact fetch_settle_self c m _ _
    have size := wf.size_of_fetch fetched
    have room (call : SectorCall) (valid : c.checkSector call.offset call.len = .ok ()) :
        call.offset % c.blockSize + call.len ≤ block.size := by
      obtain ⟨sector, fits⟩ := checkSector_eq_ok.mp valid
      rw [size, sector]
      exact wf.within_le fits.offset_aligned
    apply Commutes.at_state
    · rw [onCache_onCache wf valid b after, first]
      simp only [Except.map, result_update independent same (room b valid')]
      rfl
    · rw [onCache_onCache wf valid' a after', first, second]
      simp only [Except.map, result_update independent.symm same.symm (room a valid), leave, same,
        settle_settle]
      rw [update_comm independent same]

end Valid

/-- Sector calls that do not conflict commute, over whatever medium and also when they fail. -/
theorem onCache_commutes (independent : a.Independent b) (m : μ) :
    Commutes WellFormed (a.onCache m) (b.onCache m) := by
  apply Commutes.of_each
  intro c wf
  cases valid : c.checkSector a.offset a.len with
  | error e => exact (commutes_of_invalid wf m b valid).symm
  | ok =>
    cases valid' : c.checkSector b.offset b.len with
    | error e => exact commutes_of_invalid wf m a valid'
    | ok =>
      by_cases same : a.offset / c.blockSize = b.offset / c.blockSize
      · exact commutes_of_same wf m valid valid' independent same
      · exact commutes_of_ne wf m valid valid' same

end

end SectorCall

end BlockCache

end DiskImage
