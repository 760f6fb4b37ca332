import DiskImage.Proofs.CommandLine.Effects
import DiskImage.Proofs.Dispatch
import DiskImage.Proofs.HexDump

/-! The check of the sectors that a command names, and what it spares the drive. It counts sectors of the
geometry where the drive compares bytes with the capacity, and lets through no span that the drive would
stop at or a listing could not address. -/
namespace DiskImage.CommandLine

/-- The first thing that is wrong with a run of sectors. -/
inductive Refused (total lba count : Nat) : SpanFault → Prop
  | noSectors (none : count = 0) : Refused total lba count .noSectors
  | tooMany (many : 4096 < count) : Refused total lba count (.tooMany count)
  | overflow (some : 1 ≤ count) (few : count ≤ 4096) (past : Word.limit ≤ lba + count) :
    Refused total lba count .overflow
  | outside (some : 1 ≤ count) (few : count ≤ 4096) (word : lba + count < Word.limit)
    (past : total < lba + count) : Refused total lba count (.outside lba (lba + count) total)

structure Accepted (total lba count : Nat) : Prop where
  some : 1 ≤ count
  few : count ≤ 4096
  inside : lba + count ≤ total

section Check

variable {total lba count : Nat}

theorem refused_or_accepted (total lba count : Nat) :
    (∃ fault, Refused total lba count fault) ∨ Accepted total lba count := by
  by_cases none : count = 0
  · exact .inl ⟨_, .noSectors none⟩
  by_cases many : 4096 < count
  · exact .inl ⟨_, .tooMany many⟩
  have some : 1 ≤ count := Nat.pos_of_ne_zero none
  have few : count ≤ 4096 := Nat.le_of_not_lt many
  by_cases past : total < lba + count
  · by_cases word : lba + count < Word.limit
    · exact .inl ⟨_, .outside some few word past⟩
    · exact .inl ⟨_, .overflow some few (Nat.le_of_not_lt word)⟩
  · exact .inr ⟨some, few, Nat.le_of_not_lt past⟩

theorem checkSpan_of_refused {fault : SpanFault} (refused : Refused total lba count fault) :
    checkSpan total lba count = .error fault := by
  unfold checkSpan mostSectors
  cases refused with
  | noSectors none => rw [if_pos none]
  | tooMany many => rw [if_neg (by omega), if_pos many]
  | overflow some few past => rw [if_neg (by omega), if_neg (by omega), if_pos past]
  | outside some few word past =>
    rw [if_neg (by omega), if_neg (by omega), if_neg (by omega), if_pos past]

theorem checkSpan_of_accepted (sized : total * sectorSize < Word.limit)
    (accepted : Accepted total lba count) :
    checkSpan total lba count = .ok (512 * lba, 512 * count) := by
  obtain ⟨some, few, inside⟩ := accepted
  -- The offset and the length are words because the sectors are inside the image.
  have word : total ≤ total * sectorSize := Nat.le_mul_of_pos_right _ (by decide)
  have start : lba * sectorSize ≤ total * sectorSize := Nat.mul_le_mul_right _ (by omega)
  have length : count * sectorSize ≤ total * sectorSize := Nat.mul_le_mul_right _ (by omega)
  have offset := Word.mul_of_lt (Nat.lt_of_le_of_lt start sized)
  have len := Word.mul_of_lt (Nat.lt_of_le_of_lt length sized)
  unfold checkSpan mostSectors
  rw [if_neg (by omega), if_neg (by omega), if_neg (by omega), if_neg (by omega), offset, len,
    Nat.mul_comm lba, Nat.mul_comm count]
  rfl

theorem checkSpan_eq_ok (sized : total * sectorSize < Word.limit) {span : Nat × Nat} :
    checkSpan total lba count = .ok span ↔
      Accepted total lba count ∧ span = (512 * lba, 512 * count) := by
  constructor
  · intro found
    obtain ⟨fault, refused⟩ | accepted := refused_or_accepted total lba count
    · rw [checkSpan_of_refused refused] at found
      cases found
    · rw [checkSpan_of_accepted sized accepted] at found
      exact ⟨accepted, (Except.ok.inj found).symm⟩
  · rintro ⟨accepted, rfl⟩
    exact checkSpan_of_accepted sized accepted

theorem checkSpan_eq_error (sized : total * sectorSize < Word.limit) {fault : SpanFault} :
    checkSpan total lba count = .error fault ↔ Refused total lba count fault := by
  constructor
  · intro found
    obtain ⟨fault', refused⟩ | accepted := refused_or_accepted total lba count
    · rw [checkSpan_of_refused refused] at found
      cases found
      exact refused
    · rw [checkSpan_of_accepted sized accepted] at found
      cases found
  · exact checkSpan_of_refused

end Check

/-- The check accepts just the spans inside the image. A transfer of one is handed on to the backend,
and its bytes can be listed. -/
theorem checked_span_is_handed_on {β : Type} [Backend β] {backend : β} {kind : DriveKind}
    {modifies : Bool} {drive : Drive β}
    (opened : Drive.ofBackend backend kind modifies = .ok drive)
    (sized : Backend.capacity backend < Word.limit) (lba count : Nat) :
    (∀ span, checkSpan drive.totalSectors lba count = .ok span ↔
      Accepted drive.totalSectors lba count ∧ span = (512 * lba, 512 * count)) ∧
    (∀ fault, checkSpan drive.totalSectors lba count = .error fault ↔
      Refused drive.totalSectors lba count fault) ∧
    ∀ offset len, checkSpan drive.totalSectors lba count = .ok (offset, len) →
      checkRequest offset len drive.capacity = .ok () ∧
      (∀ (w : World) (request : Request), request.range? = some (offset, len) →
        request.serve drive w = drive.transfer (request.serve drive.backend w)) ∧
      ∀ bytes : Bytes, bytes.size = len → ∃ text, HexDump.dump offset bytes = .ok text := by
  obtain ⟨-, rfl⟩ := Drive.ofBackend_eq_ok.mp opened
  have words : Backend.capacity backend / sectorSize * sectorSize < Word.limit :=
    Nat.lt_of_le_of_lt (Nat.div_mul_le_self ..) sized
  refine ⟨fun _ => checkSpan_eq_ok words, fun _ => checkSpan_eq_error words, ?_⟩
  intro offset len accepted
  obtain ⟨inside, made⟩ := span_of_checkSpan accepted
  obtain ⟨rfl, rfl⟩ := Prod.mk.inj made
  have fits := fits_of_span inside sized
  refine ⟨checkRequest_of_fits fits, fun w request range => ?_, fun bytes size => ?_⟩
  · exact Drive.serve_transfer _ w range fits
  · apply HexDump.exists_dump
    rw [size]
    exact Nat.le_of_lt fits.stop_lt

/-- The last sector of the largest image there can be, which ends in part of a sector. -/
theorem last_sector_of_largest_image :
    let backend : PlannedImage := ⟨Word.limit - 1, []⟩
    let last := Word.limit / 512 - 2
    ∃ drive, Drive.ofBackend backend .external true = .ok drive ∧
      checkSpan drive.totalSectors last 1 = .ok (Word.limit - 1024, 512) ∧
      checkSpan drive.totalSectors last 2 =
        .error (.outside last (last + 2) drive.totalSectors) ∧
      ∃ text, HexDump.dump (Word.limit - 1024) (.fill 0 512) = .ok text := by
  intro backend last
  have opened : Drive.ofBackend backend .external true =
      .ok ⟨backend, .external, Geometry.ofCapacity (Word.limit - 1), true⟩ :=
    Drive.ofBackend_eq_ok.mpr ⟨by decide, rfl⟩
  have sized : Backend.capacity backend < Word.limit := by decide
  obtain ⟨accepts, -, handed⟩ := checked_span_is_handed_on opened sized last 1
  obtain ⟨-, refuses, -⟩ := checked_span_is_handed_on opened sized last 2
  have accepted := (accepts (Word.limit - 1024, 512)).mpr
    ⟨⟨by decide, by decide, by decide⟩, by decide⟩
  have refused := (refuses _).mpr
    (.outside (by decide) (by decide) (by decide) (by decide))
  exact ⟨_, opened, accepted, refused, (handed _ _ accepted).2.2 _ (Bytes.size_fill ..)⟩

end DiskImage.CommandLine
