import DiskImage.Backend.FileImage
import DiskImage.Proofs.Bounds

/-! A request on an image file is refused as a whole, or it moves its sectors one after another until
one of them fails. What each sector takes from the state before it to the state behind it, the request
takes from its start to its end. -/
namespace DiskImage

/-- Success leaves what `Done` says behind, and failure what `Failed` says. -/
structure Outcome.Ensures {σ α : Type} (outcome : Outcome σ α) (Done : α → σ → Prop)
    (Failed : Halt → σ → Prop) : Prop where
  done : ∀ a, outcome.answer = .ok a → Done a outcome.state
  failed : ∀ halt, outcome.answer = .error halt → Failed halt outcome.state

namespace Outcome.Ensures

variable {σ α : Type} {outcome : Outcome σ α} {Done : α → σ → Prop} {Failed : Halt → σ → Prop}
  {Holds : σ → Prop}

theorem ok {a : α} {s : σ} (done : Done a s) : Ensures ⟨.ok a, s⟩ Done Failed :=
  ⟨fun _ same => Except.ok.inj same ▸ done, nofun⟩

theorem error {halt : Halt} {s : σ} (failed : Failed halt s) :
    Ensures (⟨.error halt, s⟩ : Outcome σ α) Done Failed :=
  ⟨nofun, fun _ same => Except.error.inj same ▸ failed⟩

theorem of_state (holds : Holds outcome.state) :
    outcome.Ensures (fun _ => Holds) (fun _ => Holds) :=
  ⟨fun _ _ => holds, fun _ _ => holds⟩

theorem state (ensures : outcome.Ensures (fun _ => Holds) (fun _ => Holds)) :
    Holds outcome.state := by
  cases ended : outcome.answer with
  | ok a => exact ensures.done a ended
  | error halt => exact ensures.failed halt ended

theorem exists_ok (ensures : outcome.Ensures Done fun _ _ => False) :
    ∃ (a : α) (s : σ), outcome = ⟨.ok a, s⟩ ∧ Done a s := by
  obtain ⟨answer, s⟩ := outcome
  cases answer with
  | ok a => exact ⟨a, s, rfl, ensures.done a rfl⟩
  | error halt => exact (ensures.failed halt rfl).elim

end Outcome.Ensures

namespace FileImage

theorem sectorOffset_of_fits {offset len size i : Nat} (fits : Fits offset len size)
    (inside : (i + 1) * sectorSize ≤ len) :
    sectorOffset offset i = .ok (offset + i * sectorSize) := by
  have stop := fits.stop_lt
  rw [Nat.succ_mul] at inside
  rw [sectorOffset, Word.add_of_lt (by omega)]

section Requests

variable {offset size : Nat} {Failed : Halt → FileImage × Host → Prop}

theorem readSectors_ensures {Before : Nat → Bytes → FileImage × Host → Prop} {len : Nat}
    (fits : Fits offset len size)
    (step : ∀ (i : Nat) (done : Bytes) (f : FileImage) (host : Host),
      Fits (offset + i * sectorSize) sectorSize size → Before i done (f, host) →
        (f.readSector host (offset + i * sectorSize)).Ensures
          (fun sector => Before (i + 1) (done ++ sector)) Failed)
    {i count : Nat} (inside : (i + count) * sectorSize ≤ len) {done : Bytes} {f : FileImage}
    {host : Host} (start : Before i done (f, host)) :
    (f.readSectors host offset i count done).Ensures (Before (i + count)) Failed := by
  -- On the sectors left, which lie inside the request.
  induction count generalizing i done f host with
  | zero => exact .ok start
  | succ count ih =>
    have same : i + (count + 1) = i + 1 + count := by omega
    rw [same] at inside ⊢
    have first : (i + 1) * sectorSize ≤ len :=
      Nat.le_trans (Nat.mul_le_mul_right _ (Nat.le_add_right ..)) inside
    have moved := step i done f host (by simpa using fits.part first) start
    rw [readSectors, sectorOffset_of_fits fits first]
    cases read : f.readSector host (offset + i * sectorSize) with
    | mk answer state =>
      rw [read] at moved
      cases answer with
      | error halt =>
        simp only [read]
        exact .error (moved.failed halt rfl)
      | ok sector =>
        simp only [read]
        exact ih inside (moved.done sector rfl)

theorem writeSectors_ensures {Before : Nat → FileImage × Host → Prop} {data : Bytes}
    (fits : Fits offset data.size size)
    (step : ∀ (i : Nat) (f : FileImage) (host : Host), (i + 1) * sectorSize ≤ data.size →
      Fits (offset + i * sectorSize) sectorSize size → Before i (f, host) →
        (f.writeSector host (offset + i * sectorSize)
          (data.slice (i * sectorSize) sectorSize)).Ensures (fun _ => Before (i + 1)) Failed)
    {i count : Nat} (inside : (i + count) * sectorSize ≤ data.size) {f : FileImage} {host : Host}
    (start : Before i (f, host)) :
    (f.writeSectors host offset data i count).Ensures (fun _ => Before (i + count)) Failed := by
  induction count generalizing i f host with
  | zero => exact .ok start
  | succ count ih =>
    have same : i + (count + 1) = i + 1 + count := by omega
    rw [same] at inside ⊢
    have first : (i + 1) * sectorSize ≤ data.size :=
      Nat.le_trans (Nat.mul_le_mul_right _ (Nat.le_add_right ..)) inside
    have moved := step i f host first (by simpa using fits.part first) start
    rw [writeSectors, sectorOffset_of_fits fits first]
    cases written : f.writeSector host (offset + i * sectorSize)
      (data.slice (i * sectorSize) sectorSize) with
    | mk answer state =>
      rw [written] at moved
      cases answer with
      | error halt =>
        simp only [written]
        exact .error (moved.failed halt rfl)
      | ok =>
        simp only [written]
        exact ih inside (moved.done () rfl)

theorem read_ensures (Before : Nat → Bytes → FileImage × Host → Prop) {f : FileImage} {host : Host}
    {len : Nat}
    (refused : ¬ Fits offset len f.size → Failed (.error (brokenRule offset len f.size)) (f, host))
    (start : Before 0 ByteArray.empty (f, host))
    (step : ∀ (i : Nat) (done : Bytes) (f' : FileImage) (host' : Host),
      Fits (offset + i * sectorSize) sectorSize f.size → Before i done (f', host') →
        (f'.readSector host' (offset + i * sectorSize)).Ensures
          (fun sector => Before (i + 1) (done ++ sector)) Failed) :
    (f.read host offset len).Ensures (Before (len / sectorSize)) Failed := by
  unfold read
  by_cases fits : Fits offset len f.size
  · rw [checkRequest_of_fits fits]
    have inside : (0 + len / sectorSize) * sectorSize ≤ len := by
      rw [Nat.zero_add]
      exact Nat.div_mul_le_self ..
    have moved := readSectors_ensures fits step inside start
    rwa [Nat.zero_add] at moved
  · rw [checkRequest_of_not_fits fits]
    exact .error (refused fits)

theorem write_ensures (Before : Nat → FileImage × Host → Prop) {f : FileImage} {host : Host}
    {data : Bytes}
    (refused : ¬ Fits offset data.size f.size →
      Failed (.error (brokenRule offset data.size f.size)) (f, host))
    (start : Before 0 (f, host))
    (step : ∀ (i : Nat) (f' : FileImage) (host' : Host), (i + 1) * sectorSize ≤ data.size →
      Fits (offset + i * sectorSize) sectorSize f.size → Before i (f', host') →
        (f'.writeSector host' (offset + i * sectorSize)
          (data.slice (i * sectorSize) sectorSize)).Ensures (fun _ => Before (i + 1)) Failed) :
    (f.write host offset data).Ensures (fun _ => Before (data.size / sectorSize)) Failed := by
  unfold write
  by_cases fits : Fits offset data.size f.size
  · rw [checkRequest_of_fits fits]
    have inside : (0 + data.size / sectorSize) * sectorSize ≤ data.size := by
      rw [Nat.zero_add]
      exact Nat.div_mul_le_self ..
    have moved := writeSectors_ensures fits step inside start
    rwa [Nat.zero_add] at moved
  · rw [checkRequest_of_not_fits fits]
    exact .error (refused fits)

end Requests

end FileImage

end DiskImage
