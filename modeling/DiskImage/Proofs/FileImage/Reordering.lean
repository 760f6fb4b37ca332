import DiskImage.Proofs.BlockCache.Independence
import DiskImage.Proofs.Dispatch
import DiskImage.Proofs.FileImage.Splitting

/-! Requests on a cached image that do not conflict can be made in either order, and a list of requests
in any order that leaves those that conflict in their turn. Each is answered the same, and the cache
ends with the same blocks and the same counters, whatever has become of the file. -/
namespace DiskImage

def InRange (range : Nat × Nat) (i : Nat) : Prop := range.1 ≤ i ∧ i < range.1 + range.2

/-- Two transfers that only read, or that have no byte in common. -/
inductive Request.Independent : Request → Request → Prop
  | reads {offset len offset' len' : Nat} {c c' : Completion} :
    Independent (read offset len c) (read offset' len' c')
  | apart {a b : Request} {range range' : Nat × Nat} (ranged : a.range? = some range)
    (ranged' : b.range? = some range') (disjoint : ∀ i, InRange range i → ¬ InRange range' i) :
    Independent a b

inductive Request.Makes : Request → BlockCache.SectorCall → Prop
  | read {offset len i : Nat} {c : Completion} (inside : (i + 1) * sectorSize ≤ len) :
    Makes (read offset len c) (.read (offset + i * sectorSize) sectorSize)
  | write {offset i : Nat} {data : Bytes} {c : Completion}
    (inside : (i + 1) * sectorSize ≤ data.size) :
    Makes (write offset data c)
      (.write (offset + i * sectorSize) (data.slice (i * sectorSize) sectorSize))

theorem Request.Independent.ranged {a b : Request} (independent : a.Independent b) :
    (∃ range, a.range? = some range) ∧ ∃ range, b.range? = some range := by
  cases independent with
  | reads => exact ⟨⟨_, rfl⟩, ⟨_, rfl⟩⟩
  | apart ranged ranged' => exact ⟨⟨_, ranged⟩, ⟨_, ranged'⟩⟩

theorem Request.Independent.symm {a b : Request} (independent : a.Independent b) :
    b.Independent a := by
  cases independent with
  | reads => exact .reads
  | apart ranged ranged' disjoint =>
    exact .apart ranged' ranged fun i inside' inside => disjoint i inside inside'

theorem apart_of_disjoint {offset len offset' len' : Nat} (pos : 0 < len) (pos' : 0 < len')
    (disjoint : ∀ i, InRange (offset, len) i → ¬ InRange (offset', len') i) :
    Apart offset len offset' len' := by
  -- the later of the two starts would lie in both
  have later := disjoint (max offset offset')
  simp only [InRange] at later
  unfold Apart
  omega

namespace Request

variable {a b : Request} {call call' : BlockCache.SectorCall}

theorem Makes.inside (makes : a.Makes call) {range : Nat × Nat} (ranged : a.range? = some range) :
    0 < call.len ∧ ∀ i, InRange (call.offset, call.len) i → InRange range i := by
  cases makes with
  | @read offset len i c inside =>
    cases ranged
    rw [Nat.succ_mul] at inside
    refine ⟨(by decide : 0 < sectorSize), fun place within => ?_⟩
    simp only [InRange, BlockCache.SectorCall.offset, BlockCache.SectorCall.len] at within ⊢
    omega
  | @write offset i data c inside =>
    cases ranged
    rw [Nat.succ_mul] at inside
    have size : (data.slice (i * sectorSize) sectorSize).size = sectorSize :=
      Bytes.size_slice_of_le inside
    refine ⟨by rw [BlockCache.SectorCall.len, size]; decide, fun place within => ?_⟩
    simp only [InRange, BlockCache.SectorCall.offset, BlockCache.SectorCall.len, size] at within ⊢
    omega

theorem Makes.independent (independent : a.Independent b) (makes : a.Makes call)
    (makes' : b.Makes call') : call.Independent call' := by
  cases independent with
  | reads =>
    cases makes
    cases makes'
    exact .reads
  | apart ranged ranged' disjoint =>
    obtain ⟨pos, inside⟩ := makes.inside ranged
    obtain ⟨pos', inside'⟩ := makes'.inside ranged'
    exact .apart (apart_of_disjoint pos pos' fun i within within' =>
      disjoint i (inside i within) (inside' i within'))

end Request

namespace FileImage

open BlockCache

/-- The images that go through a cache and have `size` bytes, with whatever files around them. -/
def CachedOf (size : Nat) (s : FileImage × Host) : Prop := s.1.Cached ∧ s.1.size = size

theorem keptBySectors_cachedOf (size : Nat) :
    KeptBySectors fun f => f.Cached ∧ f.size = size where
  read f host offset holds := ⟨kept_cached.read f host offset holds.1,
    (kept_size size).read f host offset holds.2⟩
  write f host offset data holds := ⟨kept_cached.write f host offset data holds.1,
    (kept_size size).write f host offset data holds.2⟩

section Sectors

variable {size : Nat} {α : Type} {a : FileImage × Host → Outcome (FileImage × Host) α}

def throughCache (call : SectorCall) (s : FileImage × Host) : Outcome (FileImage × Host) Answer :=
  let served := call.onCache (s.1.handle s.2) s.1.cache
  ⟨served.answer, ({ s.1 with cache := served.state }, s.2)⟩

theorem throughCache_commutes {call call' : SectorCall} (independent : call.Independent call') :
    Commutes (CachedOf size) (throughCache call) (throughCache call') := by
  have commutes (s : FileImage × Host) :=
    SectorCall.onCache_commutes independent (s.1.handle s.2)
  constructor
  · intro s holds
    exact (commutes s).left s.1.cache holds.1.wellFormed
  · intro s holds
    exact (commutes s).right s.1.cache holds.1.wellFormed
  · intro s holds
    have state := (commutes s).state s.1.cache holds.1.wellFormed
    exact congrArg (fun cache => ({ s.1 with cache }, s.2)) state

theorem Cached.readSector_eq {f : FileImage} (cached : f.Cached) (host : Host) (offset : Nat) :
    Request.mapAnswer .data (f.readSector host offset) =
      throughCache (.read offset sectorSize) (f, host) := by
  rw [FileImage.readSector, if_neg (by simp [cached.raw_eq])]
  rfl

theorem Cached.writeSector_eq {f : FileImage} (cached : f.Cached) (host : Host) (offset : Nat)
    (data : Bytes) : Request.mapAnswer (fun () => .finished) (f.writeSector host offset data) =
      throughCache (.write offset data) (f, host) := by
  rw [FileImage.writeSector, if_neg (by simp [cached.raw_eq])]
  rfl

theorem commutes_readSector {offset : Nat}
    (kept : ∀ s, CachedOf size s → CachedOf size (a s).state)
    (sector : Commutes (CachedOf size) a (throughCache (.read offset sectorSize))) :
    Commutes (CachedOf size) a fun s => s.1.readSector s.2 offset := by
  apply Commutes.of_mapAnswer (f := Answer.data) fun _ _ => Answer.data.inj
  exact sector.congr kept fun s holds => (holds.1.readSector_eq s.2 offset).symm

theorem commutes_writeSector {offset : Nat} {data : Bytes}
    (kept : ∀ s, CachedOf size s → CachedOf size (a s).state)
    (sector : Commutes (CachedOf size) a (throughCache (.write offset data))) :
    Commutes (CachedOf size) a fun s => s.1.writeSector s.2 offset data := by
  apply Commutes.of_mapAnswer (f := fun () => Answer.finished) fun _ _ _ => rfl
  exact sector.congr kept fun s holds => (holds.1.writeSector_eq s.2 offset data).symm

theorem commutes_readSectors {offset count i : Nat}
    (each : ∀ k, k < i + count → ∀ position, sectorOffset offset k = .ok position →
      Commutes (CachedOf size) a fun s => s.1.readSector s.2 position) (done : Bytes) :
    Commutes (CachedOf size) a fun s => s.1.readSectors s.2 offset i count done := by
  induction count generalizing i done with
  | zero => exact .idle a (.ok done)
  | succ count ih =>
    simp only [readSectors_succ]
    cases found : sectorOffset offset i with
    | error halt => exact .idle a (.error halt)
    | ok position =>
      simp only [Outcome.andThen_ok]
      refine .andThen (each i (by omega) position found) (fun s holds => ?_) fun sector => ?_
      · exact (keptBySectors_cachedOf size).read _ _ _ holds
      · exact ih (fun k inside => each k (by omega)) (done ++ sector)

theorem commutes_writeSectors {offset count i : Nat} {data : Bytes}
    (each : ∀ k, k < i + count → ∀ position, sectorOffset offset k = .ok position →
      Commutes (CachedOf size) a fun s =>
        s.1.writeSector s.2 position (data.slice (k * sectorSize) sectorSize)) :
    Commutes (CachedOf size) a fun s => s.1.writeSectors s.2 offset data i count := by
  induction count generalizing i with
  | zero => exact .idle a (.ok ())
  | succ count ih =>
    simp only [writeSectors_succ]
    cases found : sectorOffset offset i with
    | error halt => exact .idle a (.error halt)
    | ok position =>
      simp only [Outcome.andThen_ok]
      refine .andThen (each i (by omega) position found) (fun s holds => ?_) fun _ => ?_
      · exact (keptBySectors_cachedOf size).write _ _ _ _ holds
      · exact ih fun k inside => each k (by omega)

end Sectors

def move : Request → FileImage × Host → Outcome (FileImage × Host) Answer
  | .read offset len _, s => Request.mapAnswer .data (s.1.read s.2 offset len)
  | .write offset data _, s => Request.mapAnswer (fun () => .finished) (s.1.write s.2 offset data)
  | _, s => ⟨.ok Answer.done, s⟩

section Transfers

variable {size : Nat} {α : Type} {a : FileImage × Host → Outcome (FileImage × Host) α}
  {request request' : Request}

theorem commutes_move (kept : ∀ s, CachedOf size s → CachedOf size (a s).state)
    (each : ∀ call, request.Makes call → Commutes (CachedOf size) a (throughCache call)) :
    Commutes (CachedOf size) a (move request) := by
  cases request with
  | read offset len c =>
    apply Commutes.mapAnswer
    by_cases fits : Fits offset len size
    · have sectors : Commutes (CachedOf size) a fun s =>
          s.1.readSectors s.2 offset 0 (len / sectorSize) ByteArray.empty := by
        apply commutes_readSectors
        intro k inside position found
        have room : (k + 1) * sectorSize ≤ len := sector_inside (by omega)
        rw [sectorOffset_of_fits fits room] at found
        cases found
        exact commutes_readSector kept (each _ (.read room))
      exact sectors.congr kept fun s holds => (read_of_fits (holds.2 ▸ fits)).symm
    · refine (Commutes.idle a (.error (.error (brokenRule offset len size)))).congr kept
        fun s holds => ?_
      rw [FileImage.read, holds.2, checkRequest_of_not_fits fits]
  | write offset data c =>
    apply Commutes.mapAnswer
    by_cases fits : Fits offset data.size size
    · have sectors : Commutes (CachedOf size) a fun s =>
          s.1.writeSectors s.2 offset data 0 (data.size / sectorSize) := by
        apply commutes_writeSectors
        intro k inside position found
        have room : (k + 1) * sectorSize ≤ data.size := sector_inside (by omega)
        rw [sectorOffset_of_fits fits room] at found
        cases found
        exact commutes_writeSector kept (each _ (.write room))
      exact sectors.congr kept fun s holds => (write_of_fits (holds.2 ▸ fits)).symm
    · refine (Commutes.idle a (.error (.error (brokenRule offset data.size size)))).congr kept
        fun s holds => ?_
      rw [FileImage.write, holds.2, checkRequest_of_not_fits fits]
  | prefetch | saveState | flush | register | check | cancel => exact .idle a (.ok Answer.done)

theorem cachedOf_throughCache (call : SectorCall) (s : FileImage × Host) (holds : CachedOf size s) :
    CachedOf size (throughCache call s).state :=
  ⟨holds.1.serve s.2 call, holds.2⟩

theorem cachedOf_move (request : Request) (s : FileImage × Host) (holds : CachedOf size s) :
    CachedOf size (move request s).state := by
  have kept := (keptBySectors_cachedOf size).serve s.1 { host := s.2 } request holds
  cases request with
  | read | write => exact kept
  | prefetch | saveState | flush | register | check | cancel => exact holds

theorem move_commutes (independent : request.Independent request') :
    Commutes (CachedOf size) (move request) (move request') := by
  apply Commutes.symm
  apply commutes_move (cachedOf_move request')
  intro call makes
  apply Commutes.symm
  apply commutes_move (cachedOf_throughCache call)
  intro call' makes'
  exact throughCache_commutes (makes.independent independent makes')

end Transfers

def inWorld {α : Type} (a : FileImage × Host → Outcome (FileImage × Host) α)
    (s : FileImage × World) : Outcome (FileImage × World) α :=
  let done := a (s.1, s.2.host)
  ⟨done.answer, (done.state.1, { s.2 with host := done.state.2 })⟩

theorem commutes_inWorld {α β : Type} {Holds : FileImage × Host → Prop}
    {a : FileImage × Host → Outcome (FileImage × Host) α}
    {b : FileImage × Host → Outcome (FileImage × Host) β} (commutes : Commutes Holds a b) :
    Commutes (fun s => Holds (s.1, s.2.host)) (inWorld a) (inWorld b) where
  left s holds := commutes.left _ holds
  right s holds := commutes.right _ holds
  state s holds := by
    have same := commutes.state _ holds
    simp only [inWorld, same]

theorem serve_eq_inWorld {request : Request} {range : Nat × Nat}
    (ranged : request.range? = some range) :
    (fun s : FileImage × World => request.serve s.1 s.2) = inWorld (move request) := by
  funext s
  have map_map {α β γ : Type} (f : α → β) (g : β → γ) (answer : Except Halt α) :
      (answer.map f).map g = answer.map (g ∘ f) := by
    cases answer <;> rfl
  cases request with
  | read offset len c =>
    simp only [Request.serve, Request.mapAnswer, Backend.read, inWorld, move, map_map]
    rfl
  | write offset data c =>
    simp only [Request.serve, Request.mapAnswer, Backend.write, inWorld, move, map_map]
    rfl
  | prefetch | saveState | flush | register | check | cancel => cases ranged

theorem serve_commutes {a b : Request} (independent : a.Independent b) :
    Commutes (fun s : FileImage × World => s.1.Cached) (fun s => a.serve s.1 s.2)
      (fun s => b.serve s.1 s.2) := by
  obtain ⟨⟨_, ranged⟩, ⟨_, ranged'⟩⟩ := independent.ranged
  rw [serve_eq_inWorld ranged, serve_eq_inWorld ranged']
  apply Commutes.of_each
  intro s cached
  have moves : Commutes (CachedOf s.1.size) (move a) (move b) := move_commutes independent
  apply (commutes_inWorld moves).mono
  rintro _ rfl
  exact ⟨cached, rfl⟩

theorem runAll_serve {β : Type} [Backend β] {ι : Type} (request : ι → Request) (b : β) (w : World)
    (order : List ι) :
    runAll (fun i s => (request i).serve s.1 s.2) (b, w) order =
      (order.zip (Request.serveAll b w (order.map request)).1,
        (Request.serveAll b w (order.map request)).2) := by
  induction order generalizing b w with
  | nil => rfl
  | cons i rest ih =>
    simp only [runAll, List.map_cons, Request.serveAll, List.zip_cons_cons]
    rw [ih]

/-- Requests that both read, or have no byte in common, can be made in either order, and a list in any
order that keeps the others in turn. -/
theorem independent_requests_commute (host : Host) (path : String) (blockSize : Nat)
    (f : FileImage) (opened : ofPathWith host path false blockSize = .ok f)
    (history : List (World × Request)) (w : World) :
    let reached := Request.after f history
    (∀ a b : Request, a.Independent b →
      Commutes (· = (reached, w)) (fun s => a.serve s.1 s.2) (fun s => b.serve s.1 s.2)) ∧
    ∀ (requests : List Request) (order : List (Fin requests.length)),
      order.Perm (List.finRange requests.length) →
      order.Pairwise (fun i j => i < j ∨ (requests.get i).Independent (requests.get j)) →
        let answered := Request.serveAll reached w requests
        let reordered := Request.serveAll reached w (order.map requests.get)
        reordered.2 = answered.2 ∧
          (order.zip reordered.1).Perm ((List.finRange requests.length).zip answered.1) := by
  intro reached
  have cached : reached.Cached := kept_cached.after (cached_of_ofPathWith opened) history
  constructor
  · intro a b independent
    exact (serve_commutes independent).mono fun _ same => same ▸ cached
  · intro requests order once free answered reordered
    let step (i : Fin requests.length) (s : FileImage × World) := (requests.get i).serve s.1 s.2
    have kept (i : Fin requests.length) (s : FileImage × World) (holds : s.1.Cached) :
        (step i s).state.1.Cached := kept_cached.serve s.1 s.2 _ holds
    have same : SameRun (runAll step (reached, w) order)
        (runAll step (reached, w) (List.finRange requests.length)) :=
      runAll_reordered kept cached (List.pairwise_lt_finRange _) once
        (free.imp fun way => way.imp_right serve_commutes)
    simp only [step, runAll_serve, List.map_get_finRange] at same
    exact ⟨same.state, same.answers⟩

/-- A write and a read of the two halves of a block, either of which may come first, and a read of
what was written. -/
theorem read_made_before_a_write :
    let host : Host := ⟨[], [(["disk"], .file 0)], #[.zeros 2048]⟩
    let write : Request := .write 512 (.fill 7 512) .silent
    let read : Request := .read 0 512 .silent
    let readBack : Request := .read 512 512 .silent
    ∃ f : FileImage, ofPathWith host "disk" false 1024 = .ok f ∧ write.Independent read ∧
      (Request.serveAll f { host } [read, write, readBack]).2 =
        (Request.serveAll f { host } [write, read, readBack]).2 ∧
      ([1, 0, 2].zip (Request.serveAll f { host } [read, write, readBack]).1).Perm
        ([(0 : Fin 3), 1, 2].zip (Request.serveAll f { host } [write, read, readBack]).1) := by
  intro host write read readBack
  have created : BlockCache.create 2048 1024 = .ok ⟨1024, 2048, 2, ∅, { }⟩ :=
    BlockCache.create_eq_ok.mpr ⟨by decide, by decide, by decide, rfl⟩
  have found : host.openFile "disk" = .ok 0 := rfl
  have opened := ofPathWith_eq found (by decide) created false
  have disjoint (i : Nat) (second : InRange (512, 512) i) : ¬ InRange (0, 512) i := by
    simp only [InRange] at second ⊢
    omega
  have ranged : write.range? = some (512, 512) := by
    simp only [write, Request.range?, Bytes.size_fill]
  have independent : write.Independent read := .apart ranged rfl disjoint
  obtain ⟨-, reordered⟩ := independent_requests_commute host "disk" 1024 _ opened [] { host }
  have free : [(1 : Fin 3), 0, 2].Pairwise fun i j =>
      i < j ∨ ([write, read, readBack].get i).Independent ([write, read, readBack].get j) := by
    simp only [List.pairwise_cons, List.forall_mem_cons, List.not_mem_nil, IsEmpty.forall_iff,
      implies_true, and_true, List.Pairwise.nil]
    exact ⟨⟨.inr independent.symm, .inl (by decide)⟩, .inl (by decide)⟩
  obtain ⟨state, answers⟩ := reordered [write, read, readBack] [1, 0, 2] (by decide) free
  exact ⟨_, opened, independent, state, answers⟩

end FileImage

end DiskImage
