import DiskImage.Backend.RamImage
import DiskImage.Proofs.BlockCache.Calls
import DiskImage.Proofs.FileImage
import DiskImage.Proofs.FileImage.Kept
import DiskImage.Proofs.Interruption

/-! Below the drive nothing panics. A cache keeps its blocks so that every sector it accepts lies inside
one of them; images check a request as a whole, so none of its sectors leaves them. -/
namespace DiskImage

namespace BlockCache

section

variable {μ : Type} [Medium μ] {c : BlockCache}

theorem readBlock_ends (c : BlockCache) (m : μ) (index : Nat) :
    EndsOver m (c.readBlock m index).1 := by
  unfold readBlock
  split
  · exact .inl (.error _)
  · exact (readExactAt_ends m _ _).map _

theorem WellFormed.access_ends {α : Type} (wf : c.WellFormed) (m : μ) (offset len : Nat)
    (act : BlockCache → Nat → SparseBytes → Nat → α × BlockCache) :
    EndsOver m (c.access m offset len act).answer := by
  have accessed := wf.access_cases m offset len act
  generalize c.access m offset len act = outcome at accessed
  cases accessed with
  | refused invalid => exact .inl (.error _)
  | failed valid touched =>
    cases touched with
    | failed absent read =>
      have ends := c.readBlock_ends m (offset / c.blockSize)
      rw [read] at ends
      exact ends.error
  | done valid touched => exact .inl (.ok _)

theorem WellFormed.serve_ends (wf : c.WellFormed) (m : μ) (call : SectorCall) :
    EndsOver m (call.serve c m).answer := by
  rw [SectorCall.serve_eq_access]
  exact wf.access_ends ..

end

end BlockCache

theorem Outcome.Ensures.ends {σ α : Type} {outcome : Outcome σ α} {Done : α → σ → Prop}
    (ensures : outcome.Ensures Done fun halt _ => ∃ e, halt = .error e) : Ends outcome.answer := by
  cases ended : outcome.answer with
  | ok a => exact .ok a
  | error halt =>
    obtain ⟨e, rfl⟩ := ensures.failed halt ended
    exact .error e

namespace FileImage

variable {f : FileImage}

theorem kept_wellFormed : KeptBySectors (·.cache.WellFormed) where
  read f host offset wf := by
    unfold readSector
    split
    · exact wf
    · exact BlockCache.SectorCall.wellFormed_serve wf (f.handle host) (.read offset sectorSize)
  write f host offset data wf := by
    unfold writeSector
    split
    · exact wf
    · exact BlockCache.SectorCall.wellFormed_serve wf (f.handle host) (.write offset data)

theorem readSector_ends (wf : f.cache.WellFormed) (host : Host) (offset : Nat) :
    Ends (f.readSector host offset).answer := by
  unfold readSector
  split
  · exact ((readExactAt_ends _ _ _).ends (steady_openFile _)).map _
  · exact (wf.access_ends _ _ _ _).ends (steady_openFile _)

theorem writeSector_ends (wf : f.cache.WellFormed) (host : Host) (offset : Nat) (data : Bytes) :
    Ends (f.writeSector host offset data).answer := by
  unfold writeSector
  split
  · rw [writeAllAt_openFile]
    exact .ok ()
  · exact (wf.access_ends _ _ _ _).ends (steady_openFile _)

theorem read_ends (wf : f.cache.WellFormed) (host : Host) (offset len : Nat) :
    Ends (f.read host offset len).answer := by
  have moved : (f.read host offset len).Ensures (fun _ state => state.1.cache.WellFormed)
      (fun halt _ => ∃ e, halt = .error e) := by
    refine read_ensures (fun _ _ state => state.1.cache.WellFormed) (fun _ => ⟨_, rfl⟩) wf ?_
    intro i done f' host' _ wf'
    exact ⟨fun _ _ => kept_wellFormed.read f' host' _ wf',
      fun halt failed => (readSector_ends wf' host' _).exists_error failed⟩
  exact moved.ends

theorem write_ends (wf : f.cache.WellFormed) (host : Host) (offset : Nat) (data : Bytes) :
    Ends (f.write host offset data).answer := by
  have moved : (f.write host offset data).Ensures (fun _ state => state.1.cache.WellFormed)
      (fun halt _ => ∃ e, halt = .error e) := by
    refine write_ensures (fun _ state => state.1.cache.WellFormed) (fun _ => ⟨_, rfl⟩) wf ?_
    intro i f' host' _ _ wf'
    exact ⟨fun _ _ => kept_wellFormed.write f' host' _ _ wf',
      fun halt failed => (writeSector_ends wf' host' _ _).exists_error failed⟩
  exact moved.ends

end FileImage

namespace RamImage

theorem read_ends (r : RamImage) (offset len : Nat) : Ends (r.read offset len) := by
  unfold read
  by_cases fits : Fits offset len r.bytes.size
  · rw [checkRequest_of_fits fits, readSlice, if_neg (Nat.not_lt.mpr fits.stop_le)]
    exact .ok _
  · rw [checkRequest_of_not_fits fits]
    exact .error _

theorem write_ends (r : RamImage) (offset : Nat) (data : Bytes) : Ends (r.write offset data) := by
  unfold write
  by_cases fits : Fits offset data.size r.bytes.size
  · rw [checkRequest_of_fits fits, writeSlice, if_neg (Nat.not_lt.mpr fits.stop_le)]
    exact .ok _
  · rw [checkRequest_of_not_fits fits]
    exact .error _

end RamImage

/-- Whatever was asked of a cache or an image before, and whatever became of its source, the next call
comes back with a result or an error, unless the source keeps interrupting it. -/
theorem no_panic_below_the_drive :
    (∀ (μ : Type) [Medium μ] (capacity blockSize : Nat) (c : BlockCache),
      BlockCache.create capacity blockSize = .ok c →
      ∀ (calls : List (μ × BlockCache.SectorCall)) (m : μ) (call : BlockCache.SectorCall),
        let reached := (BlockCache.SectorCall.serveAll c calls).2
        EndsOver m (call.serve reached m).answer ∧
          (reached.checkSector call.offset call.len = .ok () →
            reached.InRange call.offset call.len)) ∧
    (∀ (host : Host) (path : String) (raw : Bool) (blockSize : Nat) (f : FileImage),
      FileImage.ofPathWith host path raw blockSize = .ok f →
      ∀ (history : List (World × Request)) (now : Host) (offset len : Nat) (data : Bytes),
        Ends ((Request.after f history).read now offset len).answer ∧
          Ends ((Request.after f history).write now offset data).answer) ∧
    ∀ (r : RamImage) (offset len : Nat) (data : Bytes),
      Ends (r.read offset len) ∧ Ends (r.write offset data) := by
  refine ⟨?_, ?_, fun r offset len data => ⟨r.read_ends offset len, r.write_ends offset data⟩⟩
  · intro μ _ capacity blockSize c created calls m call reached
    have wf := (BlockCache.SectorCall.serveAll_keeps (BlockCache.wellFormed_create created) calls).1
    exact ⟨wf.serve_ends m call, wf.inRange⟩
  · intro host path raw blockSize f opened history now offset len data
    obtain ⟨id, cache, -, -, created, made⟩ := FileImage.exists_of_ofPathWith opened
    have start : f.cache.WellFormed := by
      rw [made]
      exact BlockCache.wellFormed_create created
    have wf := FileImage.kept_wellFormed.after start history
    exact ⟨FileImage.read_ends wf now offset len, FileImage.write_ends wf now offset data⟩

/-- The largest capacity, in blocks that fit no machine, read at its last sector over a medium that
interrupts every second call. -/
theorem no_panic_at_the_last_sector :
    let host : Host := ⟨[], [(["disk"], .file 0)], #[.ofBytes (Bytes.fill 7 1000)]⟩
    let medium : ScriptedMedium :=
      { base := fun _ => 7, length := Word.limit - 1, interruptEvery := 2 }
    ∃ (c : BlockCache) (f : FileImage),
      BlockCache.create (Word.limit - 1) 562949953421312 = .ok c ∧
        FileImage.ofPathWith host "disk" false 512 = .ok f ∧
        c.InRange (Word.limit - 2 * sectorSize) sectorSize ∧
        Ends ((BlockCache.SectorCall.read (Word.limit - 2 * sectorSize) sectorSize).serve c
          medium).answer ∧
        (∀ (offset : Nat) (data : Bytes), Ends (f.write host offset data).answer) ∧
        ∀ offset len : Nat, Ends ((⟨.ofBytes (Bytes.fill 7 1000)⟩ : RamImage).read offset len) := by
  intro host medium
  have created : BlockCache.create (Word.limit - 1) 562949953421312 =
      .ok { blockSize := 562949953421312, capacity := Word.limit - 1, blockCount := 32768 } :=
    BlockCache.create_eq_ok.mpr ⟨by decide, by decide, by decide, rfl⟩
  have size : (host.content 0).size = 1000 := by
    change (SparseBytes.ofBytes (Bytes.fill 7 1000)).size = 1000
    rw [SparseBytes.size_ofBytes, Bytes.size_fill]
  have small : BlockCache.create (host.content 0).size 512 = .ok ⟨512, 1000, 2, ∅, { }⟩ :=
    BlockCache.create_eq_ok.mpr (by rw [size]; exact ⟨by decide, by decide, by decide, rfl⟩)
  have found : host.openFile "disk" = .ok 0 := rfl
  have opened := FileImage.ofPathWith_eq found (by rw [size]; decide) small false
  obtain ⟨cached, files, memory⟩ := no_panic_below_the_drive
  obtain ⟨ends, inRange⟩ := cached ScriptedMedium _ _ _ created [] medium
    (.read (Word.limit - 2 * sectorSize) sectorSize)
  exact ⟨_, _, created, opened, inRange rfl, ends.ends (steady_scripted (by decide)),
    fun offset data => (files _ _ _ _ _ opened [] host offset 0 data).2,
    fun offset len => (memory _ offset len ByteArray.empty).1⟩

end DiskImage
