import DiskImage.SparseBytes

/-! Cutting byte strings at a boundary. A range is its two parts one behind the other, laying data down
in two parts lays down the whole, and the list of a range is cut from the list of the whole. -/
namespace DiskImage.Bytes

theorem tabulate_succ (n : Nat) (f : Nat → UInt8) :
    tabulate (n + 1) f = (tabulate n f).push (f n) := by
  have empty (k : Nat) : ByteArray.emptyWithCapacity k = ByteArray.empty := rfl
  simp only [tabulate, Nat.fold_succ, empty]

@[simp] theorem size_tabulate (n : Nat) (f : Nat → UInt8) : (tabulate n f).size = n := by
  induction n with
  | zero => rfl
  | succ n ih => rw [tabulate_succ, ByteArray.size_push, ih]

theorem byte_push (bytes : Bytes) (b : UInt8) (i : Nat) :
    Bytes.byte (bytes.push b) i = if i = bytes.size then b else bytes.byte i := by
  simp only [byte_eq_data, ByteArray.data_push, Array.getElem?_push]
  rw [apply_ite (fun byte => Option.getD byte 0)]
  rfl

theorem byte_tabulate (n : Nat) (f : Nat → UInt8) (i : Nat) :
    (tabulate n f).byte i = if i < n then f i else 0 := by
  induction n with
  | zero => rw [if_neg (by omega), byte_of_size_le (by simp)]
  | succ n ih =>
    rw [tabulate_succ, byte_push, ih, size_tabulate]
    by_cases last : i = n
    · rw [if_pos last, if_pos (by omega), last]
    · rw [if_neg last]
      by_cases before : i < n
      · rw [if_pos before, if_pos (by omega)]
      · rw [if_neg before, if_neg (by omega)]

@[simp] theorem size_slice_of_le {bytes : Bytes} {offset len : Nat}
    (h : offset + len ≤ bytes.size) : (bytes.slice offset len).size = len := by
  rw [size_slice]
  omega

@[simp] theorem slice_zero (bytes : Bytes) (offset : Nat) :
    bytes.slice offset 0 = ByteArray.empty := by
  apply ext_byte
  · simp [size_slice]
  · intro i h
    simp [size_slice] at h

theorem slice_append {bytes : Bytes} {offset : Nat} (a b : Nat) (h : offset + a ≤ bytes.size) :
    bytes.slice offset (a + b) = bytes.slice offset a ++ bytes.slice (offset + a) b := by
  have front := size_slice_of_le h
  apply ext_byte
  · simp only [ByteArray.size_append, size_slice]
    omega
  · intro i _
    rw [byte_append, front, byte_slice, byte_slice, byte_slice]
    by_cases before : i < a
    · rw [if_pos before, if_pos before, if_pos (by omega)]
    · rw [if_neg before, show offset + a + (i - a) = offset + i by omega]
      by_cases inside : i < a + b
      · rw [if_pos inside, if_pos (by omega)]
      · rw [if_neg inside, if_neg (by omega)]

theorem slice_append_front (a b : Bytes) {offset len : Nat} (h : offset + len ≤ a.size) :
    Bytes.slice (a ++ b) offset len = a.slice offset len := by
  have whole : offset + len ≤ (a ++ b).size := by
    rw [ByteArray.size_append]
    omega
  apply ext_byte
  · rw [size_slice_of_le whole, size_slice_of_le h]
  · intro i inside
    rw [size_slice_of_le whole] at inside
    rw [byte_slice, byte_slice, byte_append, if_pos inside, if_pos inside, if_pos (by omega)]

theorem slice_append_back (a b : Bytes) (offset len : Nat) :
    Bytes.slice (a ++ b) (a.size + offset) len = b.slice offset len := by
  apply ext_byte
  · rw [size_slice, size_slice, ByteArray.size_append]
    omega
  · intro i _
    rw [byte_slice, byte_slice, byte_append]
    split
    · rw [if_neg (by omega), show a.size + offset + i - a.size = offset + i by omega]
    · rfl

theorem store_eq_patch {bytes : Bytes} {offset : Nat} {data : Bytes}
    (h : offset + data.size ≤ bytes.size) : bytes.store offset data = bytes.patch offset data := by
  unfold store
  split
  · next empty => rw [patch_of_size_eq_zero bytes offset empty]
  · rw [if_pos (by omega)]

theorem patch_append {bytes : Bytes} {offset : Nat} (a b : Bytes)
    (h : offset + a.size ≤ bytes.size) :
    (bytes.patch offset a).patch (offset + a.size) b = bytes.patch offset (a ++ b) := by
  have first := size_patch h
  apply ext_byte
  · simp only [patch_eq, ByteArray.size_append, ByteArray.size_extract]
    omega
  · intro i _
    rw [byte_patch b (by omega), byte_patch a (by omega), byte_patch (a ++ b) (by omega),
      ByteArray.size_append, byte_append]
    by_cases second : offset + a.size ≤ i ∧ i < offset + a.size + b.size
    · rw [if_pos second, if_pos (by omega), if_neg (by omega),
        show i - offset - a.size = i - (offset + a.size) by omega]
    · rw [if_neg second]
      by_cases first : offset ≤ i ∧ i < offset + a.size
      · rw [if_pos first, if_pos (by omega), if_pos (by omega)]
      · rw [if_neg first, if_neg (by omega)]

theorem slice_patch_inside {bytes : Bytes} {offset : Nat} {data : Bytes}
    (h : offset + data.size ≤ bytes.size) :
    (bytes.patch offset data).slice offset data.size = data := by
  have size := size_patch h
  apply ext_byte
  · exact size_slice_of_le (by omega)
  · intro i inside
    rw [size_slice_of_le (by omega)] at inside
    rw [byte_slice, if_pos inside, byte_patch data (by omega), if_pos (by omega),
      Nat.add_sub_cancel_left]

theorem slice_patch_beside {bytes : Bytes} {offset : Nat} {data : Bytes}
    (h : offset + data.size ≤ bytes.size) {start len : Nat}
    (beside : start + len ≤ offset ∨ offset + data.size ≤ start) :
    (bytes.patch offset data).slice start len = bytes.slice start len := by
  apply ext_byte
  · rw [size_slice, size_slice, size_patch h]
  · intro i inside
    rw [size_slice] at inside
    rw [byte_slice, byte_slice, byte_patch data (by omega)]
    split
    · rw [if_neg (by omega)]
    · rfl

theorem toList_loop (bytes : Bytes) (i : Nat) (done : List UInt8) :
    ByteArray.toList.loop bytes i done = done.reverse ++ bytes.data.toList.drop i := by
  fun_induction ByteArray.toList.loop bytes i done with
  | case1 i done before ih =>
    have first : bytes.get! i = bytes.data.toList[i] := getElem!_pos bytes.data i before
    rw [ih, first, List.reverse_cons, List.append_assoc, List.singleton_append,
      ← List.drop_eq_getElem_cons]
  | case2 i done past =>
    rw [List.drop_of_length_le (Nat.le_of_not_lt past), List.append_nil]

theorem toList_eq_data (bytes : Bytes) : bytes.toList = bytes.data.toList :=
  (toList_loop bytes 0 []).trans (by simp)

theorem length_toList (bytes : Bytes) : bytes.toList.length = bytes.size := by
  rw [toList_eq_data, Array.length_toList]
  rfl

theorem toByteArray_toList (bytes : Bytes) : bytes.toList.toByteArray = bytes := by
  apply ByteArray.ext
  rw [toList_eq_data, List.data_toByteArray]

theorem toList_slice (bytes : Bytes) (offset len : Nat) :
    (bytes.slice offset len).toList = (bytes.toList.drop offset).take len := by
  rw [slice, toList_eq_data, toList_eq_data, ByteArray.data_extract, Array.toList_extract,
    List.extract_eq_take_drop, Nat.add_sub_cancel_left]

end Bytes

namespace SparseBytes

theorem toBytes_store_of_le {s : SparseBytes} {offset : Nat} {data : Bytes}
    (h : offset + data.size ≤ s.size) :
    (s.store offset data).toBytes = s.toBytes.patch offset data := by
  rw [toBytes_store, Bytes.store_eq_patch (by rwa [size_toBytes])]

theorem size_store_of_le {s : SparseBytes} {offset : Nat} {data : Bytes}
    (h : offset + data.size ≤ s.size) : (s.store offset data).size = s.size := by
  rw [← size_toBytes, toBytes_store_of_le h, Bytes.size_patch (by rwa [size_toBytes]), size_toBytes]

end DiskImage.SparseBytes
