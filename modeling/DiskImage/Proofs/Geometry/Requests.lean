import DiskImage.Proofs.Dispatch
import DiskImage.Proofs.Geometry
import DiskImage.Proofs.Opening
import Mathlib.Order.Bounds.Defs

/-! Two measures of an image, the bytes that a request is checked against and the sectors that its geometry
reports. Both let the same requests through, whatever the image ends with and however close to the largest
word, and so a drive takes exactly the requests inside its sectors. -/
namespace DiskImage

section Sectors

variable {offset len size whole : Nat}

theorem isGreatest_wholeSectors (size : Nat) :
    IsGreatest {n | sectorSize ∣ n ∧ n ≤ size} (size / sectorSize * sectorSize) := by
  refine ⟨⟨Nat.dvd_mul_left .., Nat.div_mul_le_self ..⟩, ?_⟩
  rintro n ⟨⟨count, rfl⟩, inside⟩
  rw [Nat.mul_comm sectorSize count] at inside ⊢
  exact Nat.mul_le_mul_right _ ((Nat.le_div_iff_mul_le (by decide)).mpr inside)

theorem fits_iff_of_isGreatest (greatest : IsGreatest {n | sectorSize ∣ n ∧ n ≤ size} whole) :
    Fits offset len whole ↔ Fits offset len size := by
  constructor
  · rintro ⟨offset_aligned, len_aligned, word, inside⟩
    exact ⟨offset_aligned, len_aligned, word, Nat.le_trans inside greatest.1.2⟩
  · rintro ⟨offset_aligned, len_aligned, word, inside⟩
    -- A request ends with a sector, so the bytes behind the last whole one make no difference.
    exact ⟨offset_aligned, len_aligned, word,
      greatest.2 ⟨Nat.dvd_add offset_aligned len_aligned, inside⟩⟩

namespace Geometry

/-- The bytes asked for are sectors that the geometry counts. -/
def Holds (g : Geometry) (offset len : Nat) : Prop :=
  ∃ lba count, offset = lba * sectorSize ∧ len = count * sectorSize ∧ lba + count ≤ g.sectors

theorem capacity_ofCapacity (sized : size < Word.limit) :
    (ofCapacity size).capacity = .ok (size / sectorSize * sectorSize) :=
  Word.mul_of_lt (Nat.lt_of_le_of_lt (Nat.div_mul_le_self ..) sized)

theorem holds_ofCapacity_iff (sized : size < Word.limit) :
    (ofCapacity size).Holds offset len ↔ Fits offset len size := by
  constructor
  · rintro ⟨lba, count, rfl, rfl, inside⟩
    exact fits_of_span inside sized
  · rintro ⟨⟨lba, rfl⟩, ⟨count, rfl⟩, -, inside⟩
    refine ⟨lba, count, Nat.mul_comm .., Nat.mul_comm .., ?_⟩
    apply (Nat.le_div_iff_mul_le (by decide)).mpr
    rwa [Nat.mul_comm, Nat.mul_add]

end Geometry

end Sectors

namespace Drive

variable {β : Type} [Backend β] {d : Drive β} {size : Nat}

theorem geometry_serve (d : Drive β) (w : World) (request : Request) :
    (request.serve d w).state.1.geometry = d.geometry := by
  -- In each of the three ways to serve a request only the backend inside the drive is replaced.
  cases ranged : request.range? with
  | none =>
    rw [serve_unchecked d w ranged]
    rfl
  | some range =>
    by_cases fits : Fits range.1 range.2 d.capacity
    · rw [serve_transfer d w ranged fits]
      rfl
    · rw [serve_refused d w ranged fits]

theorem geometry_serveAll (d : Drive β) (w : World) (requests : List Request) :
    (Request.serveAll d w requests).2.1.geometry = d.geometry := by
  apply Request.run_keeps (fun (d' : Drive β) _ => d'.geometry = d.geometry) _ rfl
  intro d' w' request kept
  rw [geometry_serve, kept]

/-- A transfer goes to the backend if it is inside the sectors that the drive reports. Any other one
stops the program and leaves everything as it was. -/
structure AdmitsSectors (d : Drive β) (w : World) : Prop where
  admits : ∀ (request : Request) (offset len : Nat), request.range? = some (offset, len) →
    d.geometry.Holds offset len → request.serve d w = d.transfer (request.serve d.backend w)
  refuses : ∀ (request : Request) (offset len : Nat), request.range? = some (offset, len) →
    ¬ d.geometry.Holds offset len → ∃ e, Breaks offset len d.capacity e ∧
      request.serve d w = ⟨.error (.panic (.unrecoverable e)), (d, w)⟩

theorem admitsSectors (capacity : d.capacity = size) (geometry : d.geometry = .ofCapacity size)
    (sized : size < Word.limit) (w : World) : d.AdmitsSectors w := by
  have holds_iff (offset len : Nat) : d.geometry.Holds offset len ↔ Fits offset len d.capacity := by
    rw [geometry, capacity]
    exact Geometry.holds_ofCapacity_iff sized
  constructor
  · intro request offset len ranged holds
    exact serve_transfer d w ranged ((holds_iff offset len).mp holds)
  · intro request offset len ranged outside
    -- The rule is the one for the bytes of the image, also behind its last whole sector.
    have misfit := fun fits => outside ((holds_iff offset len).mpr fits)
    exact ⟨_, breaks_brokenRule misfit, serve_refused d w ranged misfit⟩

end Drive

/-- The check decides by the rules over integers and lets the same requests through for the image and
for its whole sectors, so a drive takes just those inside the sectors it reports. -/
theorem requests_inside_reported_sectors {size : Nat} (sized : size < Word.limit) :
    (∀ offset len,
      (checkRequest offset len size = .ok () ↔ Aligned offset len ∧ offset + len ≤ size) ∧
      ∀ e, checkRequest offset len size = .error e ↔ Breaks offset len size e) ∧
    (∃ whole, (Geometry.ofCapacity size).capacity = .ok whole ∧
      IsGreatest {n | sectorSize ∣ n ∧ n ≤ size} whole ∧
      ∀ offset len, checkRequest offset len size = .ok () ↔ checkRequest offset len whole = .ok ()) ∧
    (Geometry.ofCapacity size).cylinders * 1008 ≤ (Geometry.ofCapacity size).sectors ∧
    (Geometry.ofCapacity size).sectors < ((Geometry.ofCapacity size).cylinders + 1) * 1008 ∧
    ∀ {β : Type} [Backend β] {backend : β} {kind : DriveKind} {modifies : Bool} {drive : Drive β},
      Drive.ofBackend backend kind modifies = .ok drive → Backend.capacity backend = size →
      ∀ (w : World) (requests : List Request),
        let after := (Request.serveAll drive w requests).2
        after.1.geometry = Geometry.ofCapacity size ∧
        (FixedCapacity β → after.1.capacity = size) ∧
        (after.1.capacity = size → after.1.AdmitsSectors after.2) := by
  obtain ⟨above, below⟩ := Geometry.sectors_ofCapacity size
  refine ⟨fun offset len => ⟨?_, fun e => checkRequest_eq_error⟩,
    ⟨_, Geometry.capacity_ofCapacity sized, isGreatest_wholeSectors size, fun offset len => ?_⟩,
    above, ?_, ?_⟩
  · rw [checkRequest_eq_ok, fits_iff_aligned sized]
  · rw [checkRequest_eq_ok, checkRequest_eq_ok, fits_iff_of_isGreatest (isGreatest_wholeSectors size)]
  · rw [Nat.add_one_mul]
    exact below
  · intro β _ backend kind modifies drive opened measured w requests after
    obtain ⟨-, rfl⟩ := Drive.ofBackend_eq_ok.mp opened
    have geometry : after.1.geometry = Geometry.ofCapacity size := by
      rw [Drive.geometry_serveAll, measured]
    refine ⟨geometry, fun fixed => ?_, fun capacity => Drive.admitsSectors capacity geometry sized _⟩
    exact ((Drive.fixedCapacity fixed).serveAll _ w requests).trans measured

/-- Behind a whole cylinder this image has 100 bytes, which are no sector: a drive that has just been written
to stops at a read of them. -/
theorem requests_past_a_whole_cylinder :
    let backend : PlannedImage := ⟨516196, []⟩
    checkRequest 515584 512 516196 = .ok () ∧ checkRequest 515584 512 516096 = .ok () ∧
    checkRequest 516096 100 516196 = .error (.unaligned 516096 100 512) ∧
    checkRequest (Word.limit - 512) 512 516196 = .error .offsetOverflow ∧
    ∃ drive, Drive.ofBackend backend .external true = .ok drive ∧ ∀ w : World,
      let after := (Request.serveAll drive w [.write 0 (.fill 1 512) .silent]).2
      (Request.read 516096 512 .silent).serve after.1 after.2 =
        ⟨.error (.panic (.unrecoverable (.outOfBounds 516096 512 516196))), after⟩ := by
  intro backend
  have sized : 516196 < Word.limit := by decide
  obtain ⟨decides, ⟨whole, counted, -, same⟩, -, -, drives⟩ := requests_inside_reported_sectors sized
  have last := (decides 515584 512).1.mpr ⟨⟨by decide, by decide⟩, by decide⟩
  have whole_eq : whole = 516096 :=
    Except.ok.inj (counted.symm.trans (Geometry.capacity_ofCapacity sized))
  have crooked := ((decides 516096 100).2 _).mpr (.unaligned fun aligned => absurd aligned.2 (by decide))
  have past := ((decides (Word.limit - 512) 512).2 _).mpr (.overflow ⟨by decide, by decide⟩ (by decide))
  have opened : Drive.ofBackend backend .external true =
      .ok ⟨backend, .external, Geometry.ofCapacity 516196, true⟩ :=
    Drive.ofBackend_eq_ok.mpr ⟨by decide, rfl⟩
  refine ⟨last, whole_eq ▸ (same 515584 512).mp last, crooked, past, _, opened, ?_⟩
  intro w after
  obtain ⟨geometry, kept, takes⟩ := drives opened rfl w [.write 0 (.fill 1 512) .silent]
  have capacity := kept PlannedImage.fixedCapacity
  have outside : ¬ after.1.geometry.Holds 516096 512 := by
    rw [geometry]
    rintro ⟨lba, count, start, length, inside⟩
    have inside : lba + count ≤ 1008 := inside
    simp only [sectorSize] at start length
    omega
  obtain ⟨e, breaks, stopped⟩ :=
    (takes capacity).refuses (.read 516096 512 .silent) 516096 512 rfl outside
  rw [capacity] at breaks
  cases breaks with
  | unaligned crooked => exact absurd ⟨by decide, by decide⟩ crooked
  | overflow _ past => exact absurd past (by decide)
  | outside => exact stopped

end DiskImage
