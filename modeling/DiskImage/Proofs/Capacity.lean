import DiskImage.Proofs.Bytes
import DiskImage.Proofs.FileImage.Kept
import DiskImage.Proofs.Wrappers

/-! Every backend has the capacity it was made with: no request makes an image longer or shorter, also
when it fails. -/
namespace DiskImage

def FixedCapacity (β : Type) [Backend β] : Prop :=
  ∀ (b : β) (w : World) (request : Request),
    Backend.capacity (request.serve b w).state.1 = Backend.capacity b

theorem FixedCapacity.serveAll {β : Type} [Backend β] (fixed : FixedCapacity β) (b : β) (w : World)
    (requests : List Request) :
    Backend.capacity (Request.serveAll b w requests).2.1 = Backend.capacity b := by
  apply Request.run_keeps (fun b' _ => Backend.capacity b' = Backend.capacity b) _ rfl
  intro b' w' request kept
  rw [fixed, kept]

theorem FileImage.fixedCapacity : FixedCapacity FileImage :=
  fun f w request => (kept_size f.size).serve f w request rfl

theorem size_writeSlice {bytes bytes' : SparseBytes} {offset : Nat} {data : Bytes}
    (written : writeSlice bytes offset data = .ok bytes') : bytes'.size = bytes.size := by
  unfold writeSlice at written
  split at written
  · cases written
  · next inside =>
    cases written
    exact SparseBytes.size_store_of_le (Nat.le_of_not_lt inside)

theorem RamImage.fixedCapacity : FixedCapacity RamImage := by
  intro r w request
  cases request with
  | write offset data c =>
    simp only [Request.serve, Request.mapAnswer, Backend.write, RamImage.write]
    cases checkRequest offset data.size r.bytes.size with
    | error e => rfl
    | ok =>
      cases written : writeSlice r.bytes offset data with
      | error p => rfl
      | ok bytes => exact size_writeSlice written
  | register c =>
    simp only [Request.serve]
    split <;> rfl
  | read | prefetch | saveState | flush | check | cancel => rfl

namespace DeferredImage

theorem bytes_fetch {α : Type} (d : DeferredImage) (w : World) (offset len : Nat) (c : Completion) :
    (d.fetch w offset len c : Outcome (DeferredImage × World) (Reply α)).state.1.bytes = d.bytes := by
  unfold fetch
  split <;> rfl

theorem fixedCapacity : FixedCapacity DeferredImage := by
  intro d w request
  cases request with
  | read offset len c =>
    change (d.read w offset len c).state.1.bytes.size = d.bytes.size
    unfold read
    split
    · rfl
    · rw [bytes_fetch]
  | write offset data c =>
    simp only [Request.serve, Request.mapAnswer, Backend.write, DeferredImage.write]
    cases written : writeSlice d.bytes offset data with
    | error p => rfl
    | ok bytes => exact size_writeSlice written
  | prefetch offset len c => exact congrArg SparseBytes.size (d.bytes_fetch w offset len c)
  | register c =>
    simp only [Request.serve]
    split <;> rfl
  | saveState | flush | check | cancel => rfl

end DeferredImage

namespace PlannedImage

theorem capacity_next (b : PlannedImage) : b.next.2.capacity = b.capacity := by
  unfold next
  split <;> rfl

theorem capacity_request {α : Type} (b : PlannedImage) (w : World) (c : Completion)
    (result : UInt8 → α) : (b.request w c result).state.1.capacity = b.capacity := by
  have kept := b.capacity_next
  unfold request
  split
  · next next => rwa [next] at kept
  · next next => rwa [next] at kept
  · next next =>
    rw [next] at kept
    split <;> exact kept

theorem capacity_plain (b : PlannedImage) (w : World) :
    (b.plain w).state.1.capacity = b.capacity := by
  have kept := b.capacity_next
  unfold plain
  split
  · next next => rwa [next] at kept
  · next next => rwa [next] at kept

theorem fixedCapacity : FixedCapacity PlannedImage := by
  intro b w request
  cases request with
  | read | write | prefetch => exact b.capacity_request ..
  | saveState | flush => exact b.capacity_plain w
  | register c =>
    simp only [Request.serve]
    split <;> rfl
  | check | cancel => rfl

end PlannedImage

theorem Recorded.fixedCapacity {β : Type} [Backend β] (fixed : FixedCapacity β) :
    FixedCapacity (Recorded β) := by
  intro b w request
  rw [Recorded.serve_eq]
  exact fixed b.inner w request

namespace Storage

theorem Wraps.capacity_serve {β : Type} [Backend β] {wrap : β → Storage} (wraps : Wraps wrap)
    (fixed : FixedCapacity β) (b : β) (w : World) (request : Request) :
    Backend.capacity (request.serve (wrap b) w).state.1 = Backend.capacity (wrap b) := by
  rw [wraps.serve_eq, lift, wraps.capacity_eq, wraps.capacity_eq]
  exact fixed b w request

theorem fixedCapacity : FixedCapacity Storage := by
  intro s w request
  cases s with
  | file image => exact wraps_file.capacity_serve FileImage.fixedCapacity image w request
  | ram image => exact wraps_ram.capacity_serve RamImage.fixedCapacity image w request
  | deferred image => exact wraps_deferred.capacity_serve DeferredImage.fixedCapacity image w request
  | planned image =>
    exact wraps_planned.capacity_serve (Recorded.fixedCapacity PlannedImage.fixedCapacity) image w
      request

end Storage

end DiskImage
