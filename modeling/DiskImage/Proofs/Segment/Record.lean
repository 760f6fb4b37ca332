import DiskImage.Proofs.Bytes
import DiskImage.Segment
import Mathlib.Data.Nat.Digits.Defs

/-! The record of a segmented image, both ways. Reading takes exactly the byte strings that start with a
size and a valid block size, writing gives back the bytes that were read, and what was written is read
again if its block size is valid. -/
namespace DiskImage.SegmentInfo

/-- The number that bytes denote, the least significant byte first. -/
def littleEndian (bytes : List UInt8) : Nat := Nat.ofDigits 256 (bytes.map (·.toNat))

def IsBlockSize (n : Nat) : Prop := n ≠ 0 ∧ sectorSize ∣ n

theorem isValid_iff (info : SegmentInfo) : info.IsValid ↔ IsBlockSize info.blockSize.toNat := by
  rw [IsValid, IsBlockSize, Nat.dvd_iff_mod_eq_zero]

section Words

variable {bytes : List UInt8}

theorem exists_of_length_four : {bytes : List UInt8} → bytes.length = 4 →
    ∃ b₀ b₁ b₂ b₃, bytes = [b₀, b₁, b₂, b₃]
  | [b₀, b₁, b₂, b₃], _ => ⟨b₀, b₁, b₂, b₃, rfl⟩

theorem littleEndian_four (b₀ b₁ b₂ b₃ : UInt8) : littleEndian [b₀, b₁, b₂, b₃] =
    b₀.toNat + 256 * (b₁.toNat + 256 * (b₂.toNat + 256 * b₃.toNat)) := by
  simp [littleEndian, Nat.ofDigits_cons]

theorem littleEndian_bytesOfWord (w : UInt32) : littleEndian (bytesOfWord w) = w.toNat := by
  have word : w.toNat < 4294967296 := w.toNat_lt
  rw [bytesOfWord, littleEndian_four]
  simp only [UInt8.toNat_ofNat']
  omega

theorem bytesOfWord_littleEndian (four : bytes.length = 4) :
    bytesOfWord (.ofNat (littleEndian bytes)) = bytes := by
  obtain ⟨b₀, b₁, b₂, b₃, rfl⟩ := exists_of_length_four four
  have h₀ := b₀.toNat_lt
  have h₁ := b₁.toNat_lt
  have h₂ := b₂.toNat_lt
  have h₃ := b₃.toNat_lt
  rw [littleEndian_four, bytesOfWord]
  simp only [UInt32.toNat_ofNat', List.cons.injEq, and_true, ← UInt8.toNat_inj, UInt8.toNat_ofNat']
  omega

theorem wordOfBytes_bytesOfWord (w : UInt32) :
    wordOfBytes (.ofNat w.toNat) (.ofNat (w.toNat / 256)) (.ofNat (w.toNat / 65536))
      (.ofNat (w.toNat / 16777216)) = w := by
  have denoted := littleEndian_bytesOfWord w
  rw [bytesOfWord, littleEndian_four] at denoted
  rw [wordOfBytes, denoted, UInt32.ofNat_toNat]

end Words

section Records

variable {raw : Bytes}

def record (info : SegmentInfo) : Bytes := info.toBytes.toByteArray

theorem size_record (info : SegmentInfo) : info.record.size = recordSize := by
  simp [record, toBytes, bytesOfWord, recordSize]

theorem toList_record (info : SegmentInfo) : info.record.toList = info.toBytes := by
  rw [record, Bytes.toList_eq_data, List.data_toByteArray]

theorem decode_toBytes (info : SegmentInfo) : decode info.toBytes =
    if info.IsValid then .ok info
    else .error (.corruptImage "block size must be a non-zero multiple of 512") := by
  change (let read : SegmentInfo := ⟨wordOfBytes _ _ _ _, wordOfBytes _ _ _ _⟩
    if read.IsValid then _ else _) = _
  rw [wordOfBytes_bytesOfWord, wordOfBytes_bytesOfWord]

theorem decode_of_short {bytes : List UInt8} (short : bytes.length < recordSize) :
    decode bytes = .error (.corruptImage "info.dat is truncated") := by
  unfold decode
  split
  · simp [recordSize] at short
    omega
  · rfl

theorem ofBytes_of_short (short : raw.size < recordSize) :
    ofBytes raw = .error (.corruptImage "info.dat is truncated") := by
  apply decode_of_short
  rw [Bytes.length_toList, Bytes.size_slice]
  omega

theorem slice_record_append (info : SegmentInfo) (tail : Bytes) :
    Bytes.slice (info.record ++ tail) 0 recordSize = info.record := by
  rw [Bytes.slice_append_front _ _ (by rw [size_record, Nat.zero_add]), ← info.size_record,
    Bytes.slice_all]

section Append

variable {info : SegmentInfo} (tail : Bytes)

theorem ofBytes_record_append : ofBytes (info.record ++ tail) = decode info.toBytes := by
  rw [ofBytes, slice_record_append, toList_record]

theorem ofBytes_of_valid (valid : IsBlockSize info.blockSize.toNat) :
    ofBytes (info.record ++ tail) = .ok info := by
  rw [ofBytes_record_append, decode_toBytes, if_pos (info.isValid_iff.mpr valid)]

theorem ofBytes_of_invalid (invalid : ¬ IsBlockSize info.blockSize.toNat) :
    ofBytes (info.record ++ tail) =
      .error (.corruptImage "block size must be a non-zero multiple of 512") := by
  rw [ofBytes_record_append, decode_toBytes, if_neg (mt info.isValid_iff.mp invalid)]

theorem littleEndian_record_append (info : SegmentInfo) :
    littleEndian (Bytes.slice (info.record ++ tail) 0 4).toList = info.size.toNat ∧
      littleEndian (Bytes.slice (info.record ++ tail) 4 4).toList = info.blockSize.toNat := by
  have inside {offset : Nat} (le : offset + 4 ≤ recordSize) :
      (Bytes.slice (info.record ++ tail) offset 4).toList = (info.toBytes.drop offset).take 4 := by
    rw [Bytes.slice_append_front _ _ (by rwa [size_record]), Bytes.toList_slice, toList_record]
  rw [inside (by decide), inside (by decide), ← littleEndian_bytesOfWord info.size,
    ← littleEndian_bytesOfWord info.blockSize]
  exact ⟨rfl, rfl⟩

end Append

theorem exists_record_append (long : recordSize ≤ raw.size) :
    ∃ (info : SegmentInfo) (tail : Bytes), raw = info.record ++ tail := by
  have long : 8 ≤ raw.size := long
  have word {offset : Nat} (inside : offset + 4 ≤ raw.size) :
      (bytesOfWord (.ofNat (littleEndian (raw.slice offset 4).toList))).toByteArray =
        raw.slice offset 4 := by
    rw [bytesOfWord_littleEndian (by rw [Bytes.length_toList, Bytes.size_slice_of_le inside]),
      Bytes.toByteArray_toList]
  refine ⟨⟨.ofNat (littleEndian (raw.slice 0 4).toList), .ofNat (littleEndian (raw.slice 4 4).toList)⟩,
    raw.slice 8 (raw.size - 8), ?_⟩
  rw [record, toBytes, List.toByteArray_append, word (by omega), word (by omega)]
  calc raw = raw.slice 0 (8 + (raw.size - 8)) := by rw [Nat.add_sub_cancel' long, Bytes.slice_all]
    _ = raw.slice 0 (4 + 4) ++ raw.slice 8 (raw.size - 8) := Bytes.slice_append _ _ (by omega)
    _ = _ := by rw [Bytes.slice_append 4 4 (by omega)]

inductive Reading (raw : Bytes) : Except ImageError SegmentInfo → Prop
  | truncated (short : raw.size < 8) :
    Reading raw (.error (.corruptImage "info.dat is truncated"))
  | invalid (long : 8 ≤ raw.size)
    (invalid : ¬ IsBlockSize (littleEndian (raw.slice 4 4).toList)) :
    Reading raw (.error (.corruptImage "block size must be a non-zero multiple of 512"))
  | read {info : SegmentInfo} (long : 8 ≤ raw.size)
    (valid : IsBlockSize (littleEndian (raw.slice 4 4).toList))
    (bytes : info.record = raw.slice 0 8)
    (size : info.size.toNat = littleEndian (raw.slice 0 4).toList)
    (blockSize : info.blockSize.toNat = littleEndian (raw.slice 4 4).toList) :
    Reading raw (.ok info)

theorem reading_ofBytes (raw : Bytes) : Reading raw (ofBytes raw) := by
  by_cases long : recordSize ≤ raw.size
  · obtain ⟨info, tail, rfl⟩ := exists_record_append long
    obtain ⟨size, blockSize⟩ := littleEndian_record_append tail info
    by_cases valid : IsBlockSize info.blockSize.toNat
    · rw [ofBytes_of_valid tail valid]
      exact .read long (by rwa [blockSize]) (info.slice_record_append tail).symm size.symm
        blockSize.symm
    · rw [ofBytes_of_invalid tail valid]
      exact .invalid long (by rwa [blockSize])
  · rw [ofBytes_of_short (Nat.lt_of_not_le long)]
    exact .truncated (Nat.lt_of_not_le long)

end Records

/-- Byte strings that start with a valid record are read, and all others are corrupt. Reading and
writing undo each other, whatever follows the record. -/
theorem record_codec (raw tail : Bytes) (info : SegmentInfo) :
    ((∃ found, ofBytes raw = .ok found) ↔
      8 ≤ raw.size ∧ IsBlockSize (littleEndian (raw.slice 4 4).toList)) ∧
    (raw.size < 8 → ofBytes raw = .error (.corruptImage "info.dat is truncated")) ∧
    (8 ≤ raw.size → ¬ IsBlockSize (littleEndian (raw.slice 4 4).toList) →
      ofBytes raw = .error (.corruptImage "block size must be a non-zero multiple of 512")) ∧
    (ofBytes raw = .ok info → info.toBytes.toByteArray = raw.slice 0 8 ∧
      info.size.toNat = littleEndian (raw.slice 0 4).toList ∧
      info.blockSize.toNat = littleEndian (raw.slice 4 4).toList) ∧
    (IsBlockSize info.blockSize.toNat → ofBytes (info.toBytes.toByteArray ++ tail) = .ok info) ∧
    (¬ IsBlockSize info.blockSize.toNat → ofBytes info.toBytes.toByteArray =
      .error (.corruptImage "block size must be a non-zero multiple of 512")) := by
  have refused (invalid : ¬ IsBlockSize info.blockSize.toNat) : ofBytes info.toBytes.toByteArray =
      .error (.corruptImage "block size must be a non-zero multiple of 512") := by
    rw [← ofBytes_of_invalid ByteArray.empty invalid, ByteArray.append_empty, record]
  have reading := reading_ofBytes raw
  generalize ofBytes raw = result at reading ⊢
  cases reading with
  | truncated short =>
    exact ⟨by simp [short], fun _ => rfl, by omega, by simp, ofBytes_of_valid tail, refused⟩
  | invalid long invalid =>
    exact ⟨by simp [invalid], by omega, fun _ _ => rfl, by simp, ofBytes_of_valid tail, refused⟩
  | read long valid bytes size blockSize =>
    refine ⟨by simp [long, valid], by omega, by simp [valid], ?_, ofBytes_of_valid tail, refused⟩
    rintro ⟨⟩
    exact ⟨bytes, size, blockSize⟩

/-- A record with a byte behind it, the start of one, and records of a block size that is no whole
number of sectors. -/
theorem record_with_a_tail :
    let raw : Bytes := [1, 2, 0, 0, 0, 2, 0, 0, 9].toByteArray
    let short : Bytes := [1, 2, 0].toByteArray
    let tail : Bytes := [9].toByteArray
    let info : SegmentInfo := ⟨513, 512⟩
    let misfit : SegmentInfo := ⟨513, 1000⟩
    let refusal := ImageError.corruptImage "block size must be a non-zero multiple of 512"
    ofBytes raw = .ok info ∧ info.toBytes.toByteArray = raw.slice 0 8 ∧
      ofBytes short = .error (.corruptImage "info.dat is truncated") ∧
      ofBytes misfit.toBytes.toByteArray = .error refusal ∧
      ofBytes (misfit.record ++ tail) = .error refusal := by
  intro raw short tail info misfit refusal
  have front : info.toBytes = [1, 2, 0, 0, 0, 2, 0, 0] := by decide
  have split : info.toBytes.toByteArray ++ tail = raw := by
    rw [← List.toByteArray_append, front]
    rfl
  have long : 8 ≤ (misfit.record ++ tail).size := by
    rw [ByteArray.size_append, size_record]
    exact Nat.le_add_right ..
  have odd : ¬ IsBlockSize misfit.blockSize.toNat := fun valid => absurd valid.2 (by decide)
  have odd_there : ¬ IsBlockSize (littleEndian ((misfit.record ++ tail).slice 4 4).toList) := by
    rwa [(littleEndian_record_append tail misfit).2]
  obtain ⟨-, -, -, read, written, -⟩ := record_codec raw tail info
  obtain ⟨-, truncated, -⟩ := record_codec short tail info
  obtain ⟨-, -, refused, -, -, refused'⟩ := record_codec (misfit.record ++ tail) tail misfit
  rw [split] at written
  have found := written ⟨by decide, by decide⟩
  exact ⟨found, (read found).1, truncated (by decide), refused' odd, refused long odd_there⟩

end DiskImage.SegmentInfo
