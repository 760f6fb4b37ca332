import DiskImage.Except
import DiskImage.Proofs.FileImage.Sectors
import DiskImage.Session

/-! What an image file keeps of itself while the files around it change at will. Whatever one sector
keeps a request keeps, and a history of requests; an image in raw mode changes nothing in itself, and
reading changes no file. -/
namespace DiskImage

/-- The backend after requests that each found a world of its own. -/
def Request.after {β : Type} [Backend β] (b : β) (history : List (World × Request)) : β :=
  history.foldl (fun b entry => (entry.2.serve b entry.1).state.1) b

theorem Request.after_keeps {β : Type} [Backend β] {Holds : β → Prop} {b : β} (start : Holds b)
    (step : ∀ (b : β) (w : World) (request : Request), Holds b →
      Holds (request.serve b w).state.1) (history : List (World × Request)) :
    Holds (Request.after b history) := by
  induction history generalizing b with
  | nil => exact start
  | cons entry rest ih => exact ih (step b entry.1 entry.2 start)

namespace FileImage

theorem exists_of_ofPathWith {host : Host} {path : String} {raw : Bool} {blockSize : Nat}
    {f : FileImage} (opened : ofPathWith host path raw blockSize = .ok f) :
    ∃ (id : Nat) (cache : BlockCache), host.openFile path = .ok id ∧
      0 < (host.content id).size ∧
      BlockCache.create (host.content id).size blockSize = .ok cache ∧
      f = { file := id, size := (host.content id).size, raw, cache } := by
  obtain ⟨id, found, opened⟩ := bind_eq_ok.mp opened
  by_cases empty : (host.content id).size = 0
  · rw [if_pos empty] at opened
    cases opened
  · rw [if_neg empty] at opened
    obtain ⟨cache, created, made⟩ := bind_eq_ok.mp opened
    exact ⟨id, cache, mapError_eq_ok.mp found, Nat.pos_of_ne_zero empty, created,
      (Except.ok.inj made).symm⟩

/-- What holds of an image and no sector that is read or written through it ends. -/
structure KeptBySectors (Holds : FileImage → Prop) : Prop where
  read : ∀ (f : FileImage) (host : Host) (offset : Nat), Holds f →
    Holds (f.readSector host offset).state.1
  write : ∀ (f : FileImage) (host : Host) (offset : Nat) (data : Bytes), Holds f →
    Holds (f.writeSector host offset data).state.1

namespace KeptBySectors

variable {Holds : FileImage → Prop} {f : FileImage}

theorem serve (kept : KeptBySectors Holds) (f : FileImage) (w : World) (request : Request)
    (start : Holds f) : Holds (request.serve f w).state.1 := by
  cases request with
  | read offset len c =>
    have moved : (f.read w.host offset len).Ensures (fun _ state => Holds state.1)
        (fun _ state => Holds state.1) :=
      read_ensures (fun _ _ state => Holds state.1) (fun _ => start) start
        fun i _ f' host' _ held => .of_state (kept.read f' host' (offset + i * sectorSize) held)
    exact moved.state
  | write offset data c =>
    have moved : (f.write w.host offset data).Ensures (fun _ state => Holds state.1)
        (fun _ state => Holds state.1) :=
      write_ensures (fun _ state => Holds state.1) (fun _ => start) start
        fun i f' host' _ _ held => .of_state (kept.write f' host' (offset + i * sectorSize) _ held)
    exact moved.state
  | register c =>
    simp only [Request.serve]
    split <;> exact start
  | prefetch | saveState | flush | check | cancel => exact start

theorem after (kept : KeptBySectors Holds) (start : Holds f) (history : List (World × Request)) :
    Holds (Request.after f history) :=
  Request.after_keeps start kept.serve history

end KeptBySectors

theorem kept_size (size : Nat) : KeptBySectors (·.size = size) where
  read f host offset same := by
    unfold readSector
    split <;> exact same
  write f host offset data same := by
    unfold writeSector
    split <;> exact same

theorem kept_raw {f : FileImage} (raw : f.raw = true) : KeptBySectors (· = f) where
  read f' host offset same := by
    subst same
    rw [readSector, if_pos raw]
  write f' host offset data same := by
    subst same
    rw [writeSector, if_pos raw]

theorem host_readSector (f : FileImage) (host : Host) (offset : Nat) :
    (f.readSector host offset).state.2 = host := by
  unfold readSector
  split <;> rfl

theorem host_read (f : FileImage) (host : Host) (offset len : Nat) :
    (f.read host offset len).state.2 = host := by
  have moved : (f.read host offset len).Ensures (fun _ state => state.2 = host)
      (fun _ state => state.2 = host) :=
    read_ensures (fun _ _ state => state.2 = host) (fun _ => rfl) rfl
      fun i _ f' host' _ same => .of_state ((f'.host_readSector host' _).trans same)
  exact moved.state

end FileImage

end DiskImage
