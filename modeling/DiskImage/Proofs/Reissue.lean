import DiskImage.Proofs.Discipline
import DiskImage.Proofs.Sessions

/-! Requests that are issued again. A drive over an image that fetches before it answers returns what
is there at the time of the answer, and answers the range fetched last as soon as nothing is pending,
whatever came in between. -/
namespace DiskImage

def Request.wanted? : Request → Option (Nat × Nat)
  | read offset len _ | prefetch offset len _ => some (offset, len)
  | write .. | saveState _ | flush | register _ | check | cancel => none

/-- The range that a request waits for, when it is left pending. -/
def Request.awaited? (request : Request) : Except Halt Answer → Option (Nat × Nat)
  | .ok .pending => request.wanted?
  | _ => none

theorem Request.awaited_of_not_pending (request : Request) {answer : Except Halt Answer}
    (not_pending : answer ≠ .ok .pending) : request.awaited? answer = none := by
  unfold awaited?
  split
  · exact absurd rfl not_pending
  · rfl

theorem Request.awaited_of_not_wanted {request : Request} (unwanted : request.wanted? = none)
    (answer : Except Halt Answer) : request.awaited? answer = none := by
  unfold awaited?
  split
  · exact unwanted
  · rfl

theorem Request.written_of_wanted {request : Request} {range : Nat × Nat}
    (wanted : request.wanted? = some range) (size : Nat) : request.written? size = none := by
  cases request with
  | read | prefetch => rfl
  | write | saveState | flush | register | check | cancel => cases wanted

def latestAwaited (requests : List Request) (answers : List (Except Halt Answer)) :
    Option (Nat × Nat) :=
  ((requests.zip answers).filterMap fun (request, answer) => request.awaited? answer).getLast?

theorem latestAwaited_cons (request : Request) (answer : Except Halt Answer)
    (requests : List Request) (answers : List (Except Halt Answer)) :
    latestAwaited (request :: requests) (answer :: answers) =
      (latestAwaited requests answers).or (request.awaited? answer) := by
  simp only [latestAwaited, List.zip_cons_cons, List.filterMap_cons]
  cases request.awaited? answer with
  | none => simp
  | some range =>
    rw [List.getLast?_cons]
    cases ((requests.zip answers).filterMap fun (request, answer) =>
      request.awaited? answer).getLast? <;> rfl

namespace DeferredImage

section Fetch

variable {α : Type} {d : DeferredImage} {w : World} {offset len : Nat} {c : Completion}

theorem fetch_of_idle (idle : w.tracker.pending = none) :
    (d.fetch w offset len c : Outcome (DeferredImage × World) (Reply α)) =
      ⟨.ok .pending, ({ d with warm := some (offset, len) }, { w with tracker := ⟨some c⟩ })⟩ := by
  have registered : w.tracker.register c = .ok ⟨some c⟩ := Tracker.register_eq_ok.mpr ⟨idle, rfl⟩
  simp only [fetch, World.defer, registered]
  rfl

theorem fetch_of_busy (busy : w.tracker.pending ≠ none) :
    (d.fetch w offset len c : Outcome (DeferredImage × World) (Reply α)) =
      ⟨.error (.error .transferInProgress), (d, w)⟩ := by
  simp only [fetch, World.defer, Tracker.register_of_pending busy]
  rfl

end Fetch

/-- Everything a request on a drive over a deferred image can do. -/
inductive Served (d : Drive DeferredImage) (w : World) :
    Request → Outcome (Drive DeferredImage × World) Answer → Prop
  | answered {offset len : Nat} {c : Completion} (fits : Fits offset len d.capacity) :
    Served d w (.read offset len c)
      ⟨.ok (.data (d.backend.bytes.toBytes.slice offset len)), (d, w)⟩
  | fetching {request : Request} {range : Nat × Nat} {tracker : Tracker}
    (wanted : request.wanted? = some range) :
    Served d w request
      ⟨.ok .pending, ({ d with backend := { d.backend with warm := some range } },
        { w with tracker })⟩
  | stored {offset : Nat} {data : Bytes} {c : Completion} {bytes : SparseBytes}
    (fits : Fits offset data.size d.capacity)
    (laid : bytes.toBytes = d.backend.bytes.toBytes.patch offset data) :
    Served d w (.write offset data c)
      ⟨.ok .finished, ({ d with backend := { d.backend with bytes } }, w)⟩
  | unmoved {request : Request} {answer : Except Halt Answer} {w' : World}
    (unwritten : request.written? d.capacity = none) (no_data : ∀ bytes, answer ≠ .ok (.data bytes))
    (not_pending : answer ≠ .ok .pending) : Served d w request ⟨answer, (d, w')⟩

section Steps

variable (d : Drive DeferredImage) (w : World)

theorem served_of_error {request : Request} (unwritten : request.written? d.capacity = none)
    (fault : Halt) (w' : World) : Served d w request ⟨.error fault, (d, w')⟩ :=
  .unmoved unwritten (by simp) (by simp)

theorem served_of_done {request : Request} (unwritten : request.written? d.capacity = none)
    (w' : World) : Served d w request ⟨.ok .done, (d, w')⟩ :=
  .unmoved unwritten (by simp) (by simp)

theorem served_refused {request : Request} {offset len : Nat}
    (ranged : request.range? = some (offset, len)) (misfit : ¬ Fits offset len d.capacity) :
    Served d w request (request.serve d w) := by
  rw [Drive.serve_refused d w ranged misfit]
  refine served_of_error d w ?_ _ w
  cases request with
  | write =>
    cases ranged
    exact if_neg misfit
  | read | prefetch | saveState | flush | register | check | cancel => rfl

theorem serve_read_of_warm {offset len : Nat} (c : Completion)
    (warm : d.backend.warm = some (offset, len)) (idle : w.tracker.pending = none)
    (fits : Fits offset len d.capacity) :
    (Request.read offset len c).serve d w =
      ⟨.ok (.data (d.backend.bytes.toBytes.slice offset len)), (d, w)⟩ := by
  have ready : d.backend.warm = some (offset, len) ∧ ¬ w.tracker.isPending := by
    simp [warm, Tracker.isPending, idle]
  have inside : ¬ d.backend.bytes.size < offset + len := Nat.not_lt.mpr fits.stop_le
  rw [Drive.serve_transfer d w rfl fits]
  simp only [Request.serve, Backend.read, read, if_pos ready, readSlice, if_neg inside,
    SparseBytes.slice_toBytes]
  rfl

theorem served_read (offset len : Nat) (c : Completion) :
    Served d w (.read offset len c) ((Request.read offset len c).serve d w) := by
  by_cases fits : Fits offset len d.capacity
  · by_cases ready : d.backend.warm = some (offset, len) ∧ w.tracker.pending = none
    · rw [serve_read_of_warm d w c ready.1 ready.2 fits]
      exact .answered fits
    · have unready : ¬ (d.backend.warm = some (offset, len) ∧ ¬ w.tracker.isPending) := by
        simpa [Tracker.isPending] using ready
      rw [Drive.serve_transfer d w rfl fits]
      simp only [Request.serve, Backend.read, read, if_neg unready]
      by_cases idle : w.tracker.pending = none
      · rw [fetch_of_idle idle]
        exact .fetching rfl
      · rw [fetch_of_busy idle]
        exact served_of_error d w rfl _ w
  · exact served_refused d w rfl fits

theorem serve_write_of_fits {offset : Nat} {data : Bytes} (c : Completion)
    (fits : Fits offset data.size d.capacity) :
    (Request.write offset data c).serve d w = ⟨.ok .finished,
      ({ d with backend := { d.backend with bytes := d.backend.bytes.store offset data } }, w)⟩ := by
  have inside : ¬ d.backend.bytes.size < offset + data.size := Nat.not_lt.mpr fits.stop_le
  rw [Drive.serve_transfer d w rfl fits]
  simp only [Request.serve, Backend.write, write, writeSlice, if_neg inside]
  rfl

theorem served_write (offset : Nat) (data : Bytes) (c : Completion) :
    Served d w (.write offset data c) ((Request.write offset data c).serve d w) := by
  by_cases fits : Fits offset data.size d.capacity
  · rw [serve_write_of_fits d w c fits]
    exact .stored fits (SparseBytes.toBytes_store_of_le fits.stop_le)
  · exact served_refused d w rfl fits

theorem served_prefetch (offset len : Nat) (c : Completion) :
    Served d w (.prefetch offset len c) ((Request.prefetch offset len c).serve d w) := by
  rw [Drive.serve_unchecked d w rfl]
  simp only [Request.serve, Backend.prefetch]
  by_cases idle : w.tracker.pending = none
  · rw [fetch_of_idle idle]
    exact .fetching rfl
  · rw [fetch_of_busy idle]
    exact served_of_error d w rfl _ w

theorem served (request : Request) : Served d w request (request.serve d w) := by
  cases request with
  | read offset len c => exact served_read d w offset len c
  | write offset data c => exact served_write d w offset data c
  | prefetch offset len c => exact served_prefetch d w offset len c
  | register c =>
    simp only [Request.serve]
    split
    · exact served_of_error d w rfl _ w
    · exact served_of_done d w rfl _
  | saveState | flush | cancel => exact served_of_done d w rfl _
  | check => exact .unmoved rfl (by simp) (by simp)

theorem bytes_serve (request : Request) :
    (request.serve d w).state.1.backend.bytes.toBytes =
      d.backend.bytes.toBytes.overlay (request.written? d.capacity).toList := by
  have step := served d w request
  generalize request.serve d w = outcome at step ⊢
  cases step with
  | answered => rfl
  | fetching wanted =>
    rw [Request.written_of_wanted wanted]
    rfl
  | stored fits laid =>
    simp only [Request.written?, if_pos fits]
    exact laid
  | unmoved unwritten =>
    rw [unwritten]
    rfl

theorem warm_serve (request : Request) : (request.serve d w).state.1.backend.warm =
    (request.awaited? (request.serve d w).answer).or d.backend.warm := by
  have step := served d w request
  generalize request.serve d w = outcome at step ⊢
  cases step with
  | answered | stored => rfl
  | fetching wanted =>
    simp only [Request.awaited?, wanted]
    rfl
  | unmoved _ _ not_pending =>
    rw [Request.awaited_of_not_pending request not_pending]
    rfl

theorem capacity_serve (request : Request) : (request.serve d w).state.1.capacity = d.capacity :=
  Drive.fixedCapacity fixedCapacity d w request

end Steps

theorem bytes_serveAll (d : Drive DeferredImage) (w : World) (requests : List Request) :
    (Request.serveAll d w requests).2.1.backend.bytes.toBytes =
      d.backend.bytes.toBytes.overlay (requests.filterMap (Request.written? d.capacity)) := by
  induction requests generalizing d w with
  | nil => rfl
  | cons request rest ih =>
    have later := ih (request.serve d w).state.1 (request.serve d w).state.2
    rw [bytes_serve, capacity_serve, ← Bytes.overlay_append] at later
    rw [List.filterMap_cons]
    cases written : request.written? d.capacity <;> rw [written] at later <;> exact later

theorem warm_serveAll (d : Drive DeferredImage) (w : World) (requests : List Request) :
    (Request.serveAll d w requests).2.1.backend.warm =
      (latestAwaited requests (Request.serveAll d w requests).1).or d.backend.warm := by
  induction requests generalizing d w with
  | nil => rfl
  | cons request rest ih =>
    have later := ih (request.serve d w).state.1 (request.serve d w).state.2
    rw [warm_serve, ← Option.or_assoc] at later
    simp only [Request.serveAll, latestAwaited_cons]
    exact later

/-- What a drive that holds `content`, and whose latest pending request waits for `awaited`, does next. -/
structure Answers (content : Bytes) (awaited : Option (Nat × Nat)) (d : Drive DeferredImage)
    (w : World) : Prop where
  /-- It takes the writes that fit. -/
  accepts : ∀ (offset : Nat) (data : Bytes) (c : Completion),
    ((Request.write offset data c).serve d w).answer = .ok .finished ↔
      Fits offset data.size content.size
  /-- A read that is answered finds what is there now. -/
  current : ∀ (offset len : Nat) (c : Completion) (found : Bytes),
    ((Request.read offset len c).serve d w).answer = .ok (.data found) →
      found = content.slice offset len
  /-- A read that has to wait, or is refused for another one that does, brings no data and changes
  none. -/
  waits : ∀ (offset len : Nat) (c : Completion),
    ((Request.read offset len c).serve d w).answer = .ok .pending ∨
      ((Request.read offset len c).serve d w).answer = .error (.error .transferInProgress) →
        ((Request.read offset len c).serve d w).state.1.backend.bytes = d.backend.bytes ∧
        d.backend.bytes.toBytes = content
  /-- Once nothing is pending, a valid range that was waited for last is answered. -/
  reissued : ∀ (offset len : Nat) (c : Completion), awaited = some (offset, len) →
    Fits offset len content.size → w.tracker.isPending = false →
      ((Request.read offset len c).serve d w).answer = .ok (.data (content.slice offset len))

theorem answers (d : Drive DeferredImage) (w : World) :
    Answers d.backend.bytes.toBytes d.backend.warm d w where
  accepts offset data c := by
    rw [SparseBytes.size_toBytes]
    by_cases fits : Fits offset data.size d.capacity
    · rw [serve_write_of_fits d w c fits]
      exact iff_of_true rfl fits
    · rw [Drive.serve_refused d w rfl fits]
      exact iff_of_false (by simp) fits
  current offset len c found answered := by
    have step := served_read d w offset len c
    generalize (Request.read offset len c).serve d w = outcome at step answered
    cases step with
    | answered =>
      cases answered
      rfl
    | fetching => cases answered
    | unmoved _ no_data => exact absurd answered (no_data found)
  waits offset len c waiting := by
    have step := served_read d w offset len c
    generalize (Request.read offset len c).serve d w = outcome at step
    cases step <;> exact ⟨rfl, rfl⟩
  reissued offset len c awaited fits idle := by
    rw [SparseBytes.size_toBytes] at fits
    rw [serve_read_of_warm d w c awaited (by simpa [Tracker.isPending] using idle) fits]

/-- After any run a read returns what the writes taken have made of the image, or waits and changes
nothing; the range waited for last is answered once nothing is pending. -/
theorem awaited_range_is_answered {bytes : SparseBytes} (large : sectorSize ≤ bytes.size)
    (modifies : Bool) :
    ∃ d : Drive DeferredImage, Drive.withBackend (⟨bytes, none⟩ : DeferredImage) modifies = .ok d ∧
      ∀ (w : World) (requests : List Request),
        Answers (bytes.toBytes.overlay (requests.filterMap (Request.written? bytes.size)))
          (latestAwaited requests (Request.serveAll d w requests).1)
          (Request.serveAll d w requests).2.1 (Request.serveAll d w requests).2.2 := by
  let d : Drive DeferredImage := ⟨⟨bytes, none⟩, .external, Geometry.ofCapacity bytes.size, modifies⟩
  refine ⟨d, Drive.ofBackend_eq large .external modifies, ?_⟩
  intro w requests
  have next := answers (Request.serveAll d w requests).2.1 (Request.serveAll d w requests).2.2
  rw [bytes_serveAll, warm_serveAll, Option.or_none] at next
  exact next

/-- A read that was pending finds what was written while it was. -/
theorem awaited_read_finds_later_write :
    let data := Bytes.fill 7 512
    let requests : List Request := [.read 512 512 .silent, .write 512 data .silent, .check]
    ∃ d : Drive DeferredImage,
      Drive.withBackend (⟨.zeros 1024, none⟩ : DeferredImage) false = .ok d ∧
        ∀ host : Host, let run := Request.serveAll d { host } requests
          ((Request.read 512 512 .silent).serve run.2.1 run.2.2).answer = .ok (.data data) := by
  intro data requests
  have size : data.size = 512 := Bytes.size_fill 7 512
  have held : (SparseBytes.zeros 1024).toBytes.size = 1024 := SparseBytes.size_toBytes _
  have fits : Fits 512 data.size 1024 := by rw [size]; decide
  have room : 512 + data.size ≤ (SparseBytes.zeros 1024).toBytes.size :=
    Nat.le_of_eq (by rw [held, size])
  have written : Request.written? 1024 (.write 512 data .silent) = some (512, data) := if_pos fits
  have taken : requests.filterMap (Request.written? 1024) = [(512, data)] := by
    simp only [requests, List.filterMap_cons, written]
    rfl
  have awaited (second third : Except Halt Answer) :
      latestAwaited requests [.ok .pending, second, third] = some (512, 512) := by
    simp only [requests, latestAwaited_cons,
      Request.awaited_of_not_wanted (rfl : (Request.write 512 data .silent).wanted? = none),
      Request.awaited_of_not_wanted (rfl : Request.check.wanted? = none)]
    rfl
  have large : sectorSize ≤ (SparseBytes.zeros 1024).size := by decide
  obtain ⟨d, opened, promised⟩ := awaited_range_is_answered large false
  cases (rfl : Drive.withBackend (⟨.zeros 1024, none⟩ : DeferredImage) false =
    .ok ⟨⟨.zeros 1024, none⟩, .external, .ofCapacity 1024, false⟩).symm.trans opened
  refine ⟨_, rfl, fun host => ?_⟩
  have answers := promised { host } requests
  rw [show (SparseBytes.zeros 1024).size = 1024 from rfl, taken] at answers
  have reissued := answers.reissued 512 512 .silent (awaited _ _)
    (by rw [Bytes.overlay, List.foldl_cons, List.foldl_nil, Bytes.size_patch room, held]; decide) rfl
  have inside := Bytes.slice_patch_inside room
  rw [size] at inside
  have found : (SparseBytes.zeros 1024).toBytes.overlay [(512, data)] =
      (SparseBytes.zeros 1024).toBytes.patch 512 data := rfl
  exact reissued.trans (by rw [found, inside])

end DeferredImage

end DiskImage
