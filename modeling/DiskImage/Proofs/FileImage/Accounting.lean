import DiskImage.Proofs.BlockCache.Accounting
import DiskImage.Proofs.FileImage
import DiskImage.Proofs.FileImage.Kept

/-! What the counters of an image file say about the requests made on it. Over an intact file every sector
of a request that succeeds is one call that passes, and no block fails to load; in raw mode nothing is
counted. -/
namespace DiskImage

def sectorOffsets (offset count : Nat) : List Nat :=
  (List.range count).map fun i => offset + i * sectorSize

theorem sectorOffsets_succ (offset count : Nat) :
    sectorOffsets offset (count + 1) =
      sectorOffsets offset count ++ [offset + count * sectorSize] := by
  rw [sectorOffsets, List.range_succ, List.map_append]
  rfl

def Request.sectors : Request → List Nat
  | read offset len _ => sectorOffsets offset (len / sectorSize)
  | write offset data _ => sectorOffsets offset (data.size / sectorSize)
  | _ => []

namespace BlockCache

structure Moment.Succeeds (s : Moment OpenFile) : Prop where
  ok : s.event.answer.isOk
  passes : s.passes
  loaded : s.loadFails = false

theorem WellFormed.succeeds {c : BlockCache} (wf : c.WellFormed) (allocatable : c.blockSize < blockLimit)
    {file : OpenFile} (whole : c.capacity ≤ file.bytes.size) {call : SectorCall}
    (valid : c.checkSector call.offset call.len = .ok ()) : (call.moment c file).Succeeds := by
  have place := wf.inRange valid
  obtain ⟨block, read⟩ := readBlock_openFile allocatable whole place.start_le
  have passed : (call.moment c file).passes := Moment.passes_iff.mpr valid
  have load := wf.loadBlock_answer valid read
  refine ⟨?_, passed, ?_⟩
  · have served := SectorCall.serve_cases wf file call
    unfold SectorCall.moment
    generalize call.serve c file = outcome at served ⊢
    cases served with
    | refused invalid => simp [valid] at invalid
    | failed valid touched =>
      cases touched with
      | failed absent failed => simp [read] at failed
    | done valid touched => rfl
  · cases found : c.blocks[(call.moment c file).index]? with
    | some block => exact (Moment.of_resident passed found).2.2
    | none => exact (Moment.of_absent passed found load).2.2

end BlockCache

namespace FileImage

open BlockCache

/-- The sectors that requests moved: all of a request that succeeds, none of any other. -/
def transferred (f : FileImage) : List (World × Request) → List Nat
  | [] => []
  | (w, request) :: rest =>
    let served := request.serve f w
    (if served.answer.isOk then request.sectors else []) ++ transferred served.state.1 rest

/-- A cached image whose cache has served exactly the sectors `moved`, each with success. -/
structure Metered (id size blockSize : Nat) (f : FileImage) (moved : List Nat) : Prop where
  cached : f.raw = false
  file_eq : f.file = id
  size_eq : f.size = size
  capacity_eq : f.cache.capacity = size
  blockSize_eq : f.cache.blockSize = blockSize
  wellFormed : f.cache.WellFormed
  history : ∃ past : List (Moment OpenFile), f.cache.Accounts past ∧
    (∀ s ∈ past, s.Succeeds) ∧ past.map (·.event.call.offset) = moved

namespace Metered

variable {id size blockSize : Nat} {f : FileImage} {moved : List Nat} {host : Host}

theorem sector (metered : Metered id size blockSize f moved) (allocatable : blockSize < blockLimit)
    (intact : size ≤ (host.content id).size) (call : SectorCall) (sector : call.len = sectorSize)
    (fits : Fits call.offset sectorSize size) :
    (call.serve f.cache (f.handle host)).answer.isOk ∧
      Metered id size blockSize { f with cache := (call.serve f.cache (f.handle host)).state.1 }
        (moved ++ [call.offset]) := by
  obtain ⟨cached, file, size_eq, capacity, block, wf, past, accounts, succeeded, offsets⟩ := metered
  have valid : f.cache.checkSector call.offset call.len = .ok () :=
    checkSector_eq_ok.mpr ⟨sector, by rw [sector, capacity]; exact fits⟩
  have whole : f.cache.capacity ≤ (f.handle host).bytes.size := by
    rw [capacity, handle, file]
    exact intact
  have succeeds := wf.succeeds (by rwa [block]) whole valid
  obtain ⟨same_block, same_capacity, -⟩ := SectorCall.shape_serve wf (f.handle host) call
  refine ⟨succeeds.ok, cached, file, size_eq, same_capacity.trans capacity, same_block.trans block,
    SectorCall.wellFormed_serve wf _ call, _, accounts.step wf (f.handle host) call, ?_, ?_⟩
  · intro s member
    rcases List.mem_append.mp member with old | new
    · exact succeeded s old
    · rw [List.mem_singleton.mp new]
      exact succeeds
  · rw [List.map_append, offsets]
    rfl

theorem readSector (metered : Metered id size blockSize f moved) (allocatable : blockSize < blockLimit)
    (intact : size ≤ (host.content id).size) {offset : Nat} (fits : Fits offset sectorSize size) :
    (f.readSector host offset).answer.isOk ∧ (f.readSector host offset).state.2 = host ∧
      Metered id size blockSize (f.readSector host offset).state.1 (moved ++ [offset]) := by
  have served := metered.sector allocatable intact (.read offset sectorSize) rfl fits
  rw [FileImage.readSector, if_neg (by simp [metered.cached])]
  refine ⟨?_, rfl, served.2⟩
  rw [← served.1]
  exact (isOk_map ..).symm

theorem writeSector (metered : Metered id size blockSize f moved) (allocatable : blockSize < blockLimit)
    (intact : size ≤ (host.content id).size) {offset : Nat} {data : Bytes}
    (sector : data.size = sectorSize) (fits : Fits offset sectorSize size) :
    (f.writeSector host offset data).answer.isOk ∧ (f.writeSector host offset data).state.2 = host ∧
      Metered id size blockSize (f.writeSector host offset data).state.1 (moved ++ [offset]) := by
  have served := metered.sector allocatable intact (.write offset data) sector fits
  rw [FileImage.writeSector, if_neg (by simp [metered.cached])]
  refine ⟨?_, rfl, served.2⟩
  rw [← served.1]
  exact (isOk_map ..).symm

theorem of_ensures {α : Type} {outcome : Outcome (FileImage × Host) α} {sectors : List Nat}
    (ensures : outcome.Ensures
      (fun _ state => state.2 = host ∧ Metered id size blockSize state.1 (moved ++ sectors))
      (fun _ state => Metered id size blockSize state.1 moved)) :
    Metered id size blockSize outcome.state.1
      (moved ++ if outcome.answer.isOk then sectors else []) := by
  cases ended : outcome.answer with
  | ok a => exact (ensures.done a ended).2
  | error halt =>
    have kept := ensures.failed halt ended
    rwa [← List.append_nil moved] at kept

theorem read (metered : Metered id size blockSize f moved) (allocatable : blockSize < blockLimit)
    (intact : size ≤ (host.content id).size) (offset len : Nat) :
    (f.read host offset len).Ensures
      (fun _ state => state.2 = host ∧
        Metered id size blockSize state.1 (moved ++ sectorOffsets offset (len / sectorSize)))
      (fun _ state => Metered id size blockSize state.1 moved) := by
  apply read_ensures (fun i _ state => state.2 = host ∧
    Metered id size blockSize state.1 (moved ++ sectorOffsets offset i))
  · exact fun _ => metered
  · exact ⟨rfl, by rwa [← List.append_nil moved] at metered⟩
  · rintro i done f' host' fits ⟨rfl, reached⟩
    rw [metered.size_eq] at fits
    obtain ⟨success, same, kept⟩ := reached.readSector allocatable intact fits
    rw [List.append_assoc, ← sectorOffsets_succ] at kept
    refine ⟨fun _ _ => ⟨same, kept⟩, fun halt failed => ?_⟩
    rw [failed] at success
    cases success

theorem write (metered : Metered id size blockSize f moved) (allocatable : blockSize < blockLimit)
    (intact : size ≤ (host.content id).size) (offset : Nat) (data : Bytes) :
    (f.write host offset data).Ensures
      (fun _ state => state.2 = host ∧
        Metered id size blockSize state.1 (moved ++ sectorOffsets offset (data.size / sectorSize)))
      (fun _ state => Metered id size blockSize state.1 moved) := by
  apply write_ensures (fun i state => state.2 = host ∧
    Metered id size blockSize state.1 (moved ++ sectorOffsets offset i))
  · exact fun _ => metered
  · exact ⟨rfl, by rwa [← List.append_nil moved] at metered⟩
  · rintro i f' host' first fits ⟨rfl, reached⟩
    rw [metered.size_eq] at fits
    have whole : (data.slice (i * sectorSize) sectorSize).size = sectorSize :=
      Bytes.size_slice_of_le (Nat.succ_mul i sectorSize ▸ first)
    obtain ⟨success, same, kept⟩ := reached.writeSector allocatable intact whole fits
    rw [List.append_assoc, ← sectorOffsets_succ] at kept
    refine ⟨fun _ _ => ⟨same, kept⟩, fun halt failed => ?_⟩
    rw [failed] at success
    cases success

theorem serve (metered : Metered id size blockSize f moved) (allocatable : blockSize < blockLimit)
    {w : World} (intact : size ≤ (w.host.content id).size) (request : Request) :
    Metered id size blockSize (request.serve f w).state.1
      (moved ++ if (request.serve f w).answer.isOk then request.sectors else []) := by
  cases request with
  | read offset len c =>
    simp only [Request.serve, Request.mapAnswer, Backend.read, isOk_map]
    exact of_ensures (metered.read allocatable intact offset len)
  | write offset data c =>
    simp only [Request.serve, Request.mapAnswer, Backend.write, isOk_map]
    exact of_ensures (metered.write allocatable intact offset data)
  | register c =>
    simp only [Request.sectors, ite_self, List.append_nil]
    simp only [Request.serve]
    split <;> exact metered
  | prefetch | saveState | flush | check | cancel =>
    simp only [Request.sectors, ite_self, List.append_nil]
    exact metered

theorem run (metered : Metered id size blockSize f moved) (allocatable : blockSize < blockLimit)
    {history : List (World × Request)}
    (intact : ∀ entry ∈ history, size ≤ (entry.1.host.content id).size) :
    Metered id size blockSize (Request.after f history) (moved ++ transferred f history) := by
  induction history generalizing f moved with
  | nil => rwa [transferred, List.append_nil]
  | cons entry rest ih =>
    obtain ⟨w, request⟩ := entry
    have first := metered.serve allocatable (intact _ List.mem_cons_self) request
    have later := ih first fun entry member => intact entry (List.mem_cons_of_mem _ member)
    rwa [List.append_assoc] at later

theorem counters (metered : Metered id size blockSize f moved) :
    f.cache.stats.misses = f.cache.stats.blocksLoaded ∧
      f.cache.stats.blocksLoaded = f.cache.residentBlocks ∧
      f.cache.residentBlocks = (moved.map (· / blockSize)).toFinset.card ∧
      f.cache.stats.hits + f.cache.stats.misses = moved.length := by
  obtain ⟨past, accounts, succeeded, rfl⟩ := metered.history
  have all_ok : past.filter (·.event.answer.isOk) = past :=
    List.filter_eq_self.mpr fun s member => (succeeded s member).ok
  have all_pass : past.countP (·.passes) = past.length :=
    List.countP_eq_length.mpr fun s member => (succeeded s member).passes
  have none_fails : past.countP (·.loadFails) = 0 :=
    List.countP_eq_zero.mpr fun s member => by simp [(succeeded s member).loaded]
  refine ⟨by rw [accounts.misses, none_fails, Nat.add_zero], accounts.blocksLoaded, ?_, ?_⟩
  · rw [accounts.residentBlocks_eq, touchedBlocks, all_ok, metered.blockSize_eq, List.map_map]
    rfl
  · rw [accounts.total, all_pass, List.length_map]

end Metered

theorem metered_new {host : Host} {path : String} {blockSize : Nat} {f : FileImage}
    (opened : ofPathWith host path false blockSize = .ok f) :
    Metered f.file f.size blockSize f [] := by
  obtain ⟨id, cache, -, -, created, rfl⟩ := exists_of_ofPathWith opened
  have wf := wellFormed_create created
  have accounts : cache.Accounts ([] : List (Moment OpenFile)) := .create created
  obtain ⟨-, -, -, new⟩ := create_eq_ok.mp created
  exact ⟨rfl, rfl, rfl, by rw [new], by rw [new], wf, [], accounts, nofun, rfl⟩

def Intact (f : FileImage) (history : List (World × Request)) : Prop :=
  ∀ entry ∈ history, f.size ≤ (entry.1.host.content f.file).size

theorem intact_of_unchanged {host : Host} {path : String} {raw : Bool} {blockSize : Nat} {f : FileImage}
    (opened : ofPathWith host path raw blockSize = .ok f) (history : List (World × Request))
    (unchanged : ∀ entry ∈ history, entry.1.host = host) : f.Intact history := by
  obtain ⟨id, cache, -, -, -, rfl⟩ := exists_of_ofPathWith opened
  intro entry member
  rw [unchanged entry member]

/-- A block that cannot be allocated is missed and never loaded. -/
theorem missed_without_room :
    ¬ ∀ (host : Host) (path : String) (blockSize : Nat) (f : FileImage),
      ofPathWith host path false blockSize = .ok f →
      ∀ history : List (World × Request), Intact f history →
        (Request.after f history).cache.stats.misses =
          (Request.after f history).cache.stats.blocksLoaded := by
  intro always
  let host : Host := ⟨[], [(["disk"], .file 0)], #[.zeros 512]⟩
  have created : BlockCache.create 512 blockLimit = .ok ⟨blockLimit, 512, 1, ∅, { }⟩ :=
    create_eq_ok.mpr ⟨by decide, by decide, by decide, rfl⟩
  have found : host.openFile "disk" = .ok 0 := rfl
  have opened := ofPathWith_eq found (by decide) created false
  have equal := always host "disk" blockLimit _ opened [(⟨host, { }⟩, .read 0 512 .silent)]
    (by simp [Intact])
  revert equal
  decide

end FileImage

/-- The counters of a cache are exact after every call, whatever its sources did, and no block is
evicted. Image files count by the blocks they touch, and in raw mode nothing. -/
theorem counters_exact :
    (∀ (μ : Type) [Medium μ] (capacity blockSize : Nat) (c : BlockCache),
      BlockCache.create capacity blockSize = .ok c →
      ∀ calls : List (μ × BlockCache.SectorCall),
        let last := (BlockCache.SectorCall.serveAll c calls).2
        let past := BlockCache.SectorCall.trace c calls
        last.Accounts past ∧
          last.residentBlocks = (BlockCache.touchedBlocks blockSize past).card ∧
          ∀ (more : List (μ × BlockCache.SectorCall)) (index : Nat), last.blocks[index]?.isSome →
            (BlockCache.SectorCall.serveAll last more).2.blocks[index]?.isSome) ∧
    (∀ (host : Host) (path : String) (blockSize : Nat) (f : FileImage),
      FileImage.ofPathWith host path false blockSize = .ok f → blockSize < BlockCache.blockLimit →
      ∀ history : List (World × Request), f.Intact history →
        let last := (Request.after f history).cache
        let moved := f.transferred history
        last.stats.misses = last.stats.blocksLoaded ∧
          last.stats.blocksLoaded = last.residentBlocks ∧
          last.residentBlocks = (moved.map (· / blockSize)).toFinset.card ∧
          last.stats.hits + last.stats.misses = moved.length) ∧
    ∀ (host : Host) (path : String) (blockSize : Nat) (f : FileImage),
      FileImage.ofPathWith host path true blockSize = .ok f →
      ∀ history : List (World × Request),
        let last := (Request.after f history).cache
        last.stats = { } ∧ last.residentBlocks = 0 := by
  refine ⟨?_, ?_, ?_⟩
  · intro μ _ capacity blockSize c created calls
    have wf := BlockCache.wellFormed_create created
    have accounts := (BlockCache.Accounts.create created).run wf calls
    obtain ⟨-, -, -, new⟩ := BlockCache.create_eq_ok.mp created
    obtain ⟨last_wf, last_blockSize, -⟩ := BlockCache.SectorCall.serveAll_keeps wf calls
    have same : blockSize = (BlockCache.SectorCall.serveAll c calls).2.blockSize := by
      rw [last_blockSize, new]
    refine ⟨accounts, ?_, fun more index => BlockCache.SectorCall.resident_serveAll last_wf more⟩
    rw [same]
    exact accounts.residentBlocks_eq
  · intro host path blockSize f opened allocatable history intact
    exact ((FileImage.metered_new opened).run allocatable intact).counters
  · intro host path blockSize f opened history
    obtain ⟨id, cache, -, -, created, made⟩ := FileImage.exists_of_ofPathWith opened
    obtain ⟨-, -, -, new⟩ := BlockCache.create_eq_ok.mp created
    have raw : f.raw = true := by rw [made]
    have kept : Request.after f history = f := (FileImage.kept_raw raw).after rfl history
    have fresh : f.cache.stats = { } ∧ f.cache.residentBlocks = 0 := by
      rw [made, new]
      exact ⟨rfl, rfl⟩
    rwa [← kept] at fresh

/-- A cache whose source fails halfway, and a cached image of 1000 bytes asked for a sector, for one
past its end and for the first again. -/
theorem counters_of_failing_calls :
    let source : ScriptedMedium := { base := fun _ => 7, length := 1024, failFrom := some 512 }
    let c : BlockCache := { blockSize := 512, capacity := 1024, blockCount := 2 }
    let calls : List (ScriptedMedium × BlockCache.SectorCall) :=
      [(source, .read 0 512), (source, .read 512 512), (source, .read 0 512)]
    let w : World := ⟨⟨[], [(["disk"], .file 0)], #[.ofBytes (Bytes.fill 7 1000)]⟩, { }⟩
    let history : List (World × Request) :=
      [(w, .read 0 512 .silent), (w, .read 512 512 .silent), (w, .write 0 (Bytes.fill 8 512) .silent)]
    BlockCache.create 1024 512 = .ok c ∧
      (BlockCache.SectorCall.serveAll c calls).2.Accounts (BlockCache.SectorCall.trace c calls) ∧
      ∃ f, FileImage.ofPathWith w.host "disk" false 512 = .ok f ∧ f.Intact history ∧
        (Request.after f history).cache.stats.misses =
          (Request.after f history).cache.stats.blocksLoaded := by
  intro source c calls w history
  have created : BlockCache.create 1024 512 = .ok c :=
    BlockCache.create_eq_ok.mpr ⟨by decide, by decide, by decide, rfl⟩
  have size : (w.host.content 0).size = 1000 := by
    change (SparseBytes.ofBytes (Bytes.fill 7 1000)).size = 1000
    rw [SparseBytes.size_ofBytes, Bytes.size_fill]
  have small : BlockCache.create (w.host.content 0).size 512 = .ok ⟨512, 1000, 2, ∅, { }⟩ :=
    BlockCache.create_eq_ok.mpr (by rw [size]; exact ⟨by decide, by decide, by decide, rfl⟩)
  have found : w.host.openFile "disk" = .ok 0 := rfl
  have opened := FileImage.ofPathWith_eq found (by rw [size]; decide) small false
  have intact := FileImage.intact_of_unchanged opened history (by simp [history])
  obtain ⟨caches, images, -⟩ := counters_exact
  exact ⟨created, (caches ScriptedMedium _ _ c created calls).1, _, opened, intact,
    (images _ _ _ _ opened (by decide) history intact).1⟩

end DiskImage
