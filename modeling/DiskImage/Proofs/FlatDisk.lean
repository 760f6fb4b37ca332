import DiskImage.Drive
import DiskImage.Proofs.Bounds
import DiskImage.Session

/-! A disk as one plain byte string: what every drive that answers at once should look like from
outside. A backend refines it when each request does to the bytes it shows what the request does to
that string; a drive over such a backend then answers every run of requests as the string would. -/
namespace DiskImage

theorem Drive.ofBackend_eq {β : Type} [Backend β] {backend : β}
    (large : sectorSize ≤ Backend.capacity backend) (kind : DriveKind) (modifies : Bool) :
    ofBackend backend kind modifies =
      .ok ⟨backend, kind, Geometry.ofCapacity (Backend.capacity backend), modifies⟩ := by
  simp only [ofBackend, if_neg (Nat.not_lt.mpr large)]

structure FlatDisk where
  bytes : Bytes
  tracker : Tracker := { }

namespace FlatDisk

def refusal (disk : FlatDisk) (offset len : Nat) : Except Halt Answer :=
  .error (.panic (.unrecoverable (brokenRule offset len disk.bytes.size)))

def serve (disk : FlatDisk) : Request → Except Halt Answer × FlatDisk
  | .read offset len _ =>
    if Fits offset len disk.bytes.size then (.ok (.data (disk.bytes.slice offset len)), disk)
    else (disk.refusal offset len, disk)
  | .write offset data _ =>
    if Fits offset data.size disk.bytes.size then
      (.ok .finished, { disk with bytes := disk.bytes.patch offset data })
    else (disk.refusal offset data.size, disk)
  | .prefetch .. => (.ok .finished, disk)
  | .saveState _ | .flush => (.ok .done, disk)
  | .register c =>
    match disk.tracker.register c with
    | .error e => (.error (.error e), disk)
    | .ok tracker => (.ok .done, { disk with tracker })
  | .check => (.ok (.delivered disk.tracker.check.1), { disk with tracker := disk.tracker.check.2 })
  | .cancel => (.ok .done, { disk with tracker := disk.tracker.cancel })

def serveAll (disk : FlatDisk) : List Request → List (Except Halt Answer) × FlatDisk
  | [] => ([], disk)
  | request :: rest =>
    let (answers, last) := serveAll (disk.serve request).2 rest
    ((disk.serve request).1 :: answers, last)

theorem size_serve (disk : FlatDisk) (request : Request) :
    (disk.serve request).2.bytes.size = disk.bytes.size := by
  cases request with
  | write offset data c =>
    simp only [serve]
    split
    · next fits => exact Bytes.size_patch fits.stop_le
    · rfl
  | read offset len c =>
    simp only [serve]
    split <;> rfl
  | register c =>
    simp only [serve]
    split <;> rfl
  | prefetch | saveState | flush | check | cancel => rfl

end FlatDisk

/-- `Shows b host bytes` says that through `b` a guest sees `bytes`. Whole-sector requests inside
them are finished at once and do to them what they do to a byte string. -/
structure Refines {β : Type} [Backend β] (Shows : β → Host → Bytes → Prop) : Prop where
  capacity_eq : ∀ {b : β} {host : Host} {bytes : Bytes},
    Shows b host bytes → Backend.capacity b = bytes.size
  read_eq : ∀ {b : β} {host : Host} {bytes : Bytes} {offset len : Nat} (tracker : Tracker)
    (c : Completion), Shows b host bytes → Fits offset len bytes.size →
      ∃ (b' : β) (host' : Host), Shows b' host' bytes ∧
        Backend.read b ⟨host, tracker⟩ offset len c =
          ⟨.ok (.finished (bytes.slice offset len)), (b', ⟨host', tracker⟩)⟩
  write_eq : ∀ {b : β} {host : Host} {bytes : Bytes} {offset : Nat} {data : Bytes}
    (tracker : Tracker) (c : Completion), Shows b host bytes → Fits offset data.size bytes.size →
      ∃ (b' : β) (host' : Host), Shows b' host' (bytes.patch offset data) ∧
        Backend.write b ⟨host, tracker⟩ offset data c =
          ⟨.ok (.finished ()), (b', ⟨host', tracker⟩)⟩
  prefetch_eq : ∀ {b : β} {w : World} {bytes : Bytes} (offset len : Nat) (c : Completion),
    Shows b w.host bytes → Backend.prefetch b w offset len c = ⟨.ok (.finished ()), (b, w)⟩
  saveState_eq : ∀ {b : β} {w : World} {bytes : Bytes} (path : String),
    Shows b w.host bytes → Backend.saveState b w path = ⟨.ok (), (b, w)⟩
  flush_eq : ∀ {b : β} {w : World} {bytes : Bytes},
    Shows b w.host bytes → Backend.flush b w = ⟨.ok (), (b, w)⟩

namespace Refines

variable {β : Type} [Backend β] {Shows : β → Host → Bytes → Prop} {d : Drive β} {host : Host}

theorem serve_drive (refines : Refines Shows) (disk : FlatDisk)
    (shows_ : Shows d.backend host disk.bytes) (request : Request) :
    ∃ (b : β) (host' : Host), Shows b host' (disk.serve request).2.bytes ∧
      request.serve d ⟨host, disk.tracker⟩ = ⟨(disk.serve request).1,
        ({ d with backend := b }, ⟨host', (disk.serve request).2.tracker⟩)⟩ := by
  have capacity : d.capacity = disk.bytes.size := refines.capacity_eq shows_
  cases request with
  | read offset len c =>
    simp only [Request.serve, Backend.read, Drive.read, capacity, FlatDisk.serve]
    by_cases fits : Fits offset len disk.bytes.size
    · obtain ⟨b, host', shows', served⟩ := refines.read_eq disk.tracker c shows_ fits
      rw [checkRequest_of_fits fits, if_pos fits]
      exact ⟨b, host', shows', by simp only [served]; rfl⟩
    · rw [checkRequest_of_not_fits fits, if_neg fits]
      exact ⟨d.backend, host, shows_, rfl⟩
  | write offset data c =>
    simp only [Request.serve, Backend.write, Drive.write, capacity, FlatDisk.serve]
    by_cases fits : Fits offset data.size disk.bytes.size
    · obtain ⟨b, host', shows', served⟩ := refines.write_eq disk.tracker c shows_ fits
      rw [checkRequest_of_fits fits, if_pos fits]
      exact ⟨b, host', shows', by simp only [served]; rfl⟩
    · rw [checkRequest_of_not_fits fits, if_neg fits]
      exact ⟨d.backend, host, shows_, rfl⟩
  | prefetch offset len c =>
    have served := refines.prefetch_eq (w := ⟨host, disk.tracker⟩) offset len c shows_
    refine ⟨d.backend, host, shows_, ?_⟩
    simp only [Request.serve, Backend.prefetch] at served ⊢
    rw [served]
    rfl
  | saveState path =>
    have served := refines.saveState_eq (w := ⟨host, disk.tracker⟩) path shows_
    refine ⟨d.backend, host, shows_, ?_⟩
    simp only [Request.serve, Backend.saveState] at served ⊢
    rw [served]
    rfl
  | flush =>
    have served := refines.flush_eq (w := ⟨host, disk.tracker⟩) shows_
    refine ⟨d.backend, host, shows_, ?_⟩
    simp only [Request.serve, Backend.flush] at served ⊢
    rw [served]
    rfl
  | register c =>
    simp only [Request.serve, FlatDisk.serve]
    cases disk.tracker.register c with
    | error e => exact ⟨d.backend, host, shows_, rfl⟩
    | ok tracker => exact ⟨d.backend, host, shows_, rfl⟩
  | check => exact ⟨d.backend, host, shows_, rfl⟩
  | cancel => exact ⟨d.backend, host, shows_, rfl⟩

theorem serveAll_drive (refines : Refines Shows) (disk : FlatDisk)
    (shows_ : Shows d.backend host disk.bytes) (requests : List Request) :
    ∃ (b : β) (host' : Host), Shows b host' (disk.serveAll requests).2.bytes ∧
      Request.serveAll d ⟨host, disk.tracker⟩ requests = ((disk.serveAll requests).1,
        { d with backend := b }, ⟨host', (disk.serveAll requests).2.tracker⟩) := by
  induction requests generalizing d host disk with
  | nil => exact ⟨d.backend, host, shows_, rfl⟩
  | cons request rest ih =>
    obtain ⟨b, host', shows', first⟩ := refines.serve_drive disk shows_ request
    obtain ⟨b', host'', shows'', later⟩ := ih (d := { d with backend := b }) (disk.serve request).2 shows'
    refine ⟨b', host'', shows'', ?_⟩
    simp only [Request.serveAll, first, later, FlatDisk.serveAll]

end Refines

end DiskImage
