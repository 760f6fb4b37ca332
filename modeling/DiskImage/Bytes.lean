/-! Byte strings: the contents of buffers and pages. `slice` reads a range, `patch` overwrites one,
and every operation is described by its size and by the byte at each index. -/
namespace DiskImage

abbrev Bytes := ByteArray

namespace Bytes

def fill (b : UInt8) (n : Nat) : Bytes :=
  if n = 0 then ByteArray.empty
  else
    let half := fill b (n / 2)
    if n % 2 = 1 then (half ++ half).push b else half ++ half
termination_by n

/-- The byte at `i`; past the end, zero. -/
def byte (bytes : Bytes) (i : Nat) : UInt8 := bytes[i]?.getD 0

/-- The `len` bytes from `offset` on, or as many of them as there are. -/
def slice (bytes : Bytes) (offset len : Nat) : Bytes :=
  bytes.extract offset (offset + len)

def patch (bytes : Bytes) (offset : Nat) (data : Bytes) : Bytes :=
  data.copySlice 0 bytes offset data.size

def resize (bytes : Bytes) (n : Nat) : Bytes :=
  if n ≤ bytes.size then bytes.extract 0 n else bytes ++ fill 0 (n - bytes.size)

/-- Writes `data` at `offset`; a gap before it is filled with zeros. Writing nothing changes nothing. -/
def store (bytes : Bytes) (offset : Nat) (data : Bytes) : Bytes :=
  if data.size = 0 then bytes
  else if offset ≤ bytes.size then bytes.patch offset data
  else bytes.resize offset ++ data

def tabulate (n : Nat) (f : Nat → UInt8) : Bytes :=
  n.fold (fun i _ bytes => bytes.push (f i)) (ByteArray.emptyWithCapacity n)

theorem size_fill (b : UInt8) (n : Nat) : (fill b n).size = n := by
  induction n using Nat.strongRecOn with
  | ind n ih =>
    rw [fill]
    split
    · next h => simp [h]
    · next h =>
      have half := ih (n / 2) (by omega)
      split <;> simp only [ByteArray.size_push, ByteArray.size_append, half] <;> omega

theorem size_slice (bytes : Bytes) (offset len : Nat) :
    (bytes.slice offset len).size = min len (bytes.size - offset) := by
  simp only [slice, ByteArray.size_extract]
  omega

theorem byte_eq_data (bytes : Bytes) (i : Nat) : bytes.byte i = bytes.data[i]?.getD 0 := by
  unfold byte
  by_cases h : i < bytes.size
  · rw [getElem?_pos bytes i h, getElem?_pos bytes.data i h, ByteArray.getElem_eq_getElem_data]
  · rw [getElem?_neg bytes i h, getElem?_neg bytes.data i h]

theorem byte_of_size_le {bytes : Bytes} {i : Nat} (h : bytes.size ≤ i) : bytes.byte i = 0 := by
  rw [byte, getElem?_neg bytes i (by omega), Option.getD_none]

theorem ext_byte {a b : Bytes} (size : a.size = b.size)
    (byte : ∀ i, i < a.size → a.byte i = b.byte i) : a = b := by
  apply ByteArray.ext
  apply Array.ext size
  intro i ha hb
  have h := byte i ha
  rwa [byte_eq_data, byte_eq_data, getElem?_pos a.data i ha, getElem?_pos b.data i hb] at h

theorem byte_append (a b : Bytes) (i : Nat) :
    Bytes.byte (a ++ b) i = if i < a.size then a.byte i else b.byte (i - a.size) := by
  simp only [byte_eq_data, ByteArray.data_append, Array.getElem?_append]
  rw [apply_ite (fun byte => Option.getD byte 0)]
  rfl

theorem byte_extract (bytes : Bytes) (start stop i : Nat) :
    Bytes.byte (bytes.extract start stop) i =
      if start + i < stop then bytes.byte (start + i) else 0 := by
  have size : bytes.data.size = bytes.size := rfl
  simp only [byte_eq_data, ByteArray.data_extract, Array.getElem?_extract]
  split
  · rw [if_pos (by omega)]
  · next h =>
    split
    · rw [Array.getElem?_eq_none (by omega)]
    · rfl

theorem data_fill (b : UInt8) (n : Nat) : (fill b n).data = Array.replicate n b := by
  induction n using Nat.strongRecOn with
  | ind n ih =>
    rw [fill]
    split
    · next h => simp [h]
    · next h =>
      have half := ih (n / 2) (by omega)
      split <;> simp only [ByteArray.data_push, ByteArray.data_append, half,
        Array.replicate_append_replicate, ← Array.replicate_succ] <;> congr 1 <;> omega

theorem byte_fill (b : UInt8) (n i : Nat) : (fill b n).byte i = if i < n then b else 0 := by
  rw [byte_eq_data, data_fill, Array.getElem?_replicate]
  split <;> rfl

theorem slice_all (bytes : Bytes) : bytes.slice 0 bytes.size = bytes := by
  simp [slice]

theorem patch_eq (bytes : Bytes) (offset : Nat) (data : Bytes) :
    bytes.patch offset data = bytes.extract 0 offset ++ data
      ++ bytes.extract (offset + data.size) bytes.size := by
  simp [patch, ByteArray.copySlice_eq_append]

theorem patch_of_size_eq_zero (bytes : Bytes) (offset : Nat) {data : Bytes} (h : data.size = 0) :
    bytes.patch offset data = bytes := by
  have empty : data = ByteArray.empty := by simpa using h
  rw [patch_eq, h, empty]
  simp

theorem size_patch {bytes : Bytes} {offset : Nat} {data : Bytes}
    (h : offset + data.size ≤ bytes.size) : (bytes.patch offset data).size = bytes.size := by
  simp only [patch_eq, ByteArray.size_append, ByteArray.size_extract]
  omega

theorem size_resize (bytes : Bytes) (n : Nat) : (bytes.resize n).size = n := by
  unfold resize
  split
  · simp only [ByteArray.size_extract]; omega
  · simp only [ByteArray.size_append, size_fill]; omega

theorem byte_slice (bytes : Bytes) (offset len i : Nat) :
    (bytes.slice offset len).byte i = if i < len then bytes.byte (offset + i) else 0 := by
  rw [slice, byte_extract]
  simp only [Nat.add_lt_add_iff_left]

theorem byte_patch {bytes : Bytes} {offset : Nat} (data : Bytes) (h : offset ≤ bytes.size)
    (i : Nat) : (bytes.patch offset data).byte i =
      if offset ≤ i ∧ i < offset + data.size then data.byte (i - offset) else bytes.byte i := by
  have front : (bytes.extract 0 offset).size = offset := by
    rw [ByteArray.size_extract]; omega
  rw [patch_eq, byte_append, byte_append, byte_extract, byte_extract, ByteArray.size_append, front]
  by_cases before : i < offset
  · rw [if_pos (by omega), if_pos before, if_pos (by omega), if_neg (by omega), Nat.zero_add]
  · by_cases inside : i < offset + data.size
    · rw [if_pos inside, if_neg before, if_pos (by omega)]
    · have rest : offset + data.size + (i - (offset + data.size)) = i := by omega
      have outside : ¬ (offset ≤ i ∧ i < offset + data.size) := fun h => inside h.2
      rw [if_neg inside, rest, if_neg outside]
      split
      · rfl
      · rw [byte_of_size_le (by omega)]

theorem byte_resize (bytes : Bytes) (n i : Nat) :
    (bytes.resize n).byte i = if i < n then bytes.byte i else 0 := by
  unfold resize
  split
  · rw [byte_extract, Nat.zero_add]
  · rw [byte_append, byte_fill]
    by_cases h : i < bytes.size
    · rw [if_pos h, if_pos (by omega)]
    · rw [if_neg h, ite_self, byte_of_size_le (by omega), ite_self]

theorem size_store (bytes : Bytes) (offset : Nat) (data : Bytes) :
    (bytes.store offset data).size =
      if data.size = 0 then bytes.size else max bytes.size (offset + data.size) := by
  unfold store
  split
  · rfl
  · split
    · simp only [patch_eq, ByteArray.size_append, ByteArray.size_extract]; omega
    · simp only [ByteArray.size_append, size_resize]; omega

theorem byte_store (bytes : Bytes) (offset : Nat) (data : Bytes) (i : Nat) :
    (bytes.store offset data).byte i =
      if offset ≤ i ∧ i < offset + data.size then data.byte (i - offset) else bytes.byte i := by
  unfold store
  split
  · rw [if_neg (by omega)]
  · split
    · next h => exact byte_patch data h i
    · rw [byte_append, size_resize, byte_resize]
      by_cases before : i < offset
      · rw [if_pos before, if_pos before, if_neg (by omega)]
      · rw [if_neg before]
        by_cases inside : i < offset + data.size
        · rw [if_pos (by omega)]
        · rw [if_neg (by omega), byte_of_size_le (by omega), byte_of_size_le (by omega)]

end Bytes

end DiskImage
