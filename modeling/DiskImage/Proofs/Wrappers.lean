import DiskImage.Backend.Storage
import DiskImage.Proofs.FlatDisk

/-! Backends around other backends: a storage does what the backend in it does, and so does a recorder,
which also writes the call down. What was proved of the backend inside is carried over. -/
namespace DiskImage

structure Storage.Wraps {β : Type} [Backend β] (wrap : β → Storage) : Prop where
  capacity_eq : ∀ b : β, Backend.capacity (wrap b) = Backend.capacity b
  read_eq : ∀ (b : β) (w : World) (offset len : Nat) (c : Completion),
    Backend.read (wrap b) w offset len c = lift wrap (Backend.read b w offset len c)
  write_eq : ∀ (b : β) (w : World) (offset : Nat) (data : Bytes) (c : Completion),
    Backend.write (wrap b) w offset data c = lift wrap (Backend.write b w offset data c)
  prefetch_eq : ∀ (b : β) (w : World) (offset len : Nat) (c : Completion),
    Backend.prefetch (wrap b) w offset len c = lift wrap (Backend.prefetch b w offset len c)
  saveState_eq : ∀ (b : β) (w : World) (path : String),
    Backend.saveState (wrap b) w path = lift wrap (Backend.saveState b w path)
  flush_eq : ∀ (b : β) (w : World), Backend.flush (wrap b) w = lift wrap (Backend.flush b w)

namespace Storage

theorem wraps_file : Wraps file :=
  ⟨fun _ => rfl, fun _ _ _ _ _ => rfl, fun _ _ _ _ _ => rfl, fun _ _ _ _ _ => rfl,
    fun _ _ _ => rfl, fun _ _ => rfl⟩

theorem wraps_ram : Wraps ram :=
  ⟨fun _ => rfl, fun _ _ _ _ _ => rfl, fun _ _ _ _ _ => rfl, fun _ _ _ _ _ => rfl,
    fun _ _ _ => rfl, fun _ _ => rfl⟩

theorem wraps_deferred : Wraps deferred :=
  ⟨fun _ => rfl, fun _ _ _ _ _ => rfl, fun _ _ _ _ _ => rfl, fun _ _ _ _ _ => rfl,
    fun _ _ _ => rfl, fun _ _ => rfl⟩

theorem wraps_planned : Wraps planned :=
  ⟨fun _ => rfl, fun _ _ _ _ _ => rfl, fun _ _ _ _ _ => rfl, fun _ _ _ _ _ => rfl,
    fun _ _ _ => rfl, fun _ _ => rfl⟩

variable {β : Type} [Backend β] {wrap : β → Storage}

def Lifted (wrap : β → Storage) (Shows : β → Host → Bytes → Prop) (s : Storage) (host : Host)
    (bytes : Bytes) : Prop :=
  ∃ b, s = wrap b ∧ Shows b host bytes

theorem Wraps.refines {Shows : β → Host → Bytes → Prop} (wraps : Wraps wrap)
    (refines : Refines Shows) : Refines (Lifted wrap Shows) where
  capacity_eq := by
    rintro _ host bytes ⟨b, rfl, shows_⟩
    rw [wraps.capacity_eq, refines.capacity_eq shows_]
  read_eq := by
    rintro _ host bytes offset len tracker c ⟨b, rfl, shows_⟩ fits
    obtain ⟨b', host', shows', served⟩ := refines.read_eq tracker c shows_ fits
    refine ⟨wrap b', host', ⟨b', rfl, shows'⟩, ?_⟩
    rw [wraps.read_eq, served, lift]
  write_eq := by
    rintro _ host bytes offset data tracker c ⟨b, rfl, shows_⟩ fits
    obtain ⟨b', host', shows', served⟩ := refines.write_eq tracker c shows_ fits
    refine ⟨wrap b', host', ⟨b', rfl, shows'⟩, ?_⟩
    rw [wraps.write_eq, served, lift]
  prefetch_eq := by
    rintro _ w bytes offset len c ⟨b, rfl, shows_⟩
    rw [wraps.prefetch_eq, refines.prefetch_eq offset len c shows_, lift]
  saveState_eq := by
    rintro _ w bytes path ⟨b, rfl, shows_⟩
    rw [wraps.saveState_eq, refines.saveState_eq path shows_, lift]
  flush_eq := by
    rintro _ w bytes ⟨b, rfl, shows_⟩
    rw [wraps.flush_eq, refines.flush_eq shows_, lift]

theorem Wraps.serve_eq (wraps : Wraps wrap) (b : β) (w : World) (request : Request) :
    request.serve (wrap b) w = lift wrap (request.serve b w) := by
  cases request with
  | read offset len c => simp only [Request.serve, wraps.read_eq, Request.mapAnswer, lift]
  | write offset data c => simp only [Request.serve, wraps.write_eq, Request.mapAnswer, lift]
  | prefetch offset len c => simp only [Request.serve, wraps.prefetch_eq, Request.mapAnswer, lift]
  | saveState path => simp only [Request.serve, wraps.saveState_eq, Request.mapAnswer, lift]
  | flush => simp only [Request.serve, wraps.flush_eq, Request.mapAnswer, lift]
  | register c =>
    simp only [Request.serve]
    split <;> rfl
  | check | cancel => rfl

end Storage

/-- The call that a request makes on a backend. The tracker is asked without one. -/
def Request.call? : Request → Option Call
  | .read offset len _ => some (.read offset len)
  | .write offset data _ => some (.write offset data.size)
  | .prefetch offset len _ => some (.prefetch offset len)
  | .saveState path => some (.saveState path)
  | .flush => some .flush
  | .register _ | .check | .cancel => none

theorem Recorded.serve_eq {β : Type} [Backend β] (b : Recorded β) (w : World) (request : Request) :
    request.serve b w = ⟨(request.serve b.inner w).answer,
      (⟨(request.serve b.inner w).state.1, b.calls ++ request.call?.toList⟩,
        (request.serve b.inner w).state.2)⟩ := by
  have none_called : b.calls ++ [] = b.calls := List.append_nil _
  cases request with
  | read | write | prefetch | saveState | flush => rfl
  | register c =>
    simp only [Request.serve, Request.call?, Option.toList_none, none_called]
    split <;> rfl
  | check | cancel =>
    simp only [Request.serve, Request.call?, Option.toList_none, none_called]

end DiskImage
