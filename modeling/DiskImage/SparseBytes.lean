import DiskImage.Numbered
import DiskImage.Page

/-! Byte strings with holes: the contents of files, blocks and images. They are kept in pages, a
missing page reads as zeros, and every operation does to `toBytes` what `Bytes` does plainly. -/
namespace DiskImage

abbrev Pages := Numbered Page

namespace Pages

def page (pages : Pages) (k : Nat) : Page := pages[k]?.getD Page.blank

def byte (pages : Pages) (i : Nat) : UInt8 := (pages.page (i / pageSize)).byte (i % pageSize)

/-- Lays `data` over the bytes from `offset` on, as far as they are in the `count` pages from `k` on. -/
def overlay (pages : Pages) (offset : Nat) (data : Bytes) (k : Nat) : (count : Nat) → Pages
  | 0 => pages
  | count + 1 =>
    overlay (pages.insert k ((pages.page k).overlay (k * pageSize) offset data)) offset data (k + 1)
      count

/-- Appends to `done` the bytes from `start` up to `stop`, as far as they are in the `count` pages
from `k` on. -/
def gather (pages : Pages) (start stop k : Nat) (done : Bytes) : (count : Nat) → Bytes
  | 0 => done
  | count + 1 =>
    let base := k * pageSize
    gather pages start stop (k + 1)
      (done ++ (pages.page k).bytes.extract (start - base) (stop - base)) count

def clip (pages : Pages) (n : Nat) : Pages :=
  (pages.filter fun k _ => k * pageSize < n).map fun k p => p.clip (n - k * pageSize)

def span (start stop : Nat) : Nat := (stop + pageSize - 1) / pageSize - start / pageSize

theorem page_insert (pages : Pages) (k : Nat) (p : Page) (j : Nat) :
    page (pages.insert k p) j = if k = j then p else pages.page j := by
  rw [page, getElem?_insert_number]
  split <;> rfl

theorem getElem?_overlay (pages : Pages) (offset : Nat) (data : Bytes) (k count j : Nat) :
    (pages.overlay offset data k count)[j]? =
      if k ≤ j ∧ j < k + count then some ((pages.page j).overlay (j * pageSize) offset data)
      else pages[j]? := by
  induction count generalizing pages k with
  | zero => rw [overlay, if_neg (by omega)]
  | succ count ih =>
    rw [overlay, ih, getElem?_insert_number, page_insert]
    by_cases first : k = j
    · subst first
      rw [if_neg (by omega), if_pos rfl, if_pos (by omega)]
    · rw [if_neg first, if_neg first]
      by_cases later : k + 1 ≤ j ∧ j < k + 1 + count
      · rw [if_pos later, if_pos (by omega)]
      · rw [if_neg later, if_neg (by omega)]

theorem page_overlay (pages : Pages) (offset : Nat) (data : Bytes) (k count j : Nat) :
    (pages.overlay offset data k count).page j =
      if k ≤ j ∧ j < k + count then (pages.page j).overlay (j * pageSize) offset data
      else pages.page j := by
  rw [page, getElem?_overlay]
  split <;> rfl

theorem byte_overlay (pages : Pages) (offset : Nat) (data : Bytes) (i : Nat) :
    (pages.overlay offset data (offset / pageSize) (span offset (offset + data.size))).byte i =
      if offset ≤ i ∧ i < offset + data.size then data.byte (i - offset) else pages.byte i := by
  have place : i / pageSize * pageSize + i % pageSize = i := Nat.div_add_mod' i pageSize
  rw [byte, page_overlay]
  split
  · rw [Page.byte_overlay _ _ _ _ (Nat.mod_lt i (by decide)), place, byte]
  · next untouched =>
    simp only [span, pageSize] at untouched
    rw [if_neg (by omega), byte]

theorem byte_clip (pages : Pages) (n i : Nat) :
    (pages.clip n).byte i = if i < n then pages.byte i else 0 := by
  have place : i / pageSize * pageSize + i % pageSize = i := Nat.div_add_mod' i pageSize
  simp only [byte, page, clip, Std.ExtTreeMap.getElem?_map, Std.ExtTreeMap.getElem?_filter']
  cases pages[i / pageSize]? with
  | none => simp [Page.byte_blank]
  | some p =>
    by_cases kept : i / pageSize * pageSize < n
    · simp only [Option.filter, kept, decide_true, if_true, Option.map_some, Option.getD_some,
        Page.byte_clip]
      by_cases before : i < n
      · rw [if_pos before, if_pos (by omega)]
      · rw [if_neg before, if_neg (by omega)]
    · have past : ¬ i < n := by omega
      simp [Option.filter, kept, past, Page.byte_blank]

theorem gather_eq (pages : Pages) (start stop k : Nat) (done : Bytes) (count : Nat)
    (first : start / pageSize ≤ k) (size : done.size = min stop (k * pageSize) - start)
    (found : ∀ i, i < done.size → done.byte i = pages.byte (start + i)) :
    (pages.gather start stop k done count).size = min stop ((k + count) * pageSize) - start ∧
      ∀ i, i < (pages.gather start stop k done count).size →
        (pages.gather start stop k done count).byte i = pages.byte (start + i) := by
  induction count generalizing k done with
  | zero => exact ⟨size, found⟩
  | succ count ih =>
    rw [gather, show k + (count + 1) = k + 1 + count by omega]
    have whole := (pages.page k).size_bytes
    apply ih
    · omega
    · simp only [ByteArray.size_append, ByteArray.size_extract, whole, size]
      simp only [pageSize] at *
      omega
    · intro i h
      rw [Bytes.byte_append]
      split
      · next old => exact found i old
      · next new =>
        simp only [ByteArray.size_append, ByteArray.size_extract, whole, size] at h
        rw [size] at new
        rw [Bytes.byte_extract, size, byte, page]
        have number : (start + i) / pageSize = k := by simp only [pageSize] at *; omega
        have place : start - k * pageSize + (i - (min stop (k * pageSize) - start)) =
          (start + i) % pageSize := by simp only [pageSize] at *; omega
        rw [number, place, if_pos (by simp only [pageSize] at *; omega)]
        rfl

end Pages

structure SparseBytes where
  size : Nat
  pages : Pages
  blank_past : ∀ i, size ≤ i → pages.byte i = 0

namespace SparseBytes

def zeros (n : Nat) : SparseBytes where
  size := n
  pages := ∅
  blank_past i _ := by simp [Pages.byte, Pages.page, Page.byte_blank]

def slice (s : SparseBytes) (offset len : Nat) : Bytes :=
  let stop := min (offset + len) s.size
  s.pages.gather offset stop (offset / pageSize) (ByteArray.emptyWithCapacity (stop - offset))
    (Pages.span offset stop)

def toBytes (s : SparseBytes) : Bytes := s.slice 0 s.size

/-- Writes `data` at `offset`; a gap before it is a hole. Writing nothing changes nothing. -/
def store (s : SparseBytes) (offset : Nat) (data : Bytes) : SparseBytes :=
  if data.size = 0 then s
  else
    { size := max s.size (offset + data.size)
      pages := s.pages.overlay offset data (offset / pageSize)
        (Pages.span offset (offset + data.size))
      blank_past := fun i h => by
        rw [Pages.byte_overlay, if_neg (by omega), s.blank_past i (by omega)] }

def resize (s : SparseBytes) (n : Nat) : SparseBytes where
  size := n
  pages := if s.size ≤ n then s.pages else s.pages.clip n
  blank_past i h := by
    split
    · exact s.blank_past i (by omega)
    · rw [Pages.byte_clip, if_neg (by omega)]

def ofBytes (bytes : Bytes) : SparseBytes := (zeros 0).store 0 bytes

theorem slice_eq (s : SparseBytes) (offset len : Nat) :
    (s.slice offset len).size = min len (s.size - offset) ∧
      ∀ i, i < (s.slice offset len).size →
        (s.slice offset len).byte i = s.pages.byte (offset + i) := by
  have gathered := s.pages.gather_eq offset (min (offset + len) s.size) (offset / pageSize)
    ByteArray.empty (Pages.span offset (min (offset + len) s.size)) (Nat.le_refl _)
    (by simp only [pageSize, ByteArray.size_empty]; omega) (by simp)
  refine ⟨gathered.1.trans ?_, gathered.2⟩
  simp only [Pages.span, pageSize]
  omega

theorem size_toBytes (s : SparseBytes) : s.toBytes.size = s.size := by
  rw [toBytes, (s.slice_eq 0 s.size).1]; omega

theorem byte_toBytes (s : SparseBytes) (i : Nat) : s.toBytes.byte i = s.pages.byte i := by
  by_cases h : i < s.size
  · rw [toBytes, (s.slice_eq 0 s.size).2 i (by rw [← toBytes, size_toBytes]; exact h), Nat.zero_add]
  · rw [Bytes.byte_of_size_le (by rw [size_toBytes]; omega), s.blank_past i (by omega)]

theorem slice_toBytes (s : SparseBytes) (offset len : Nat) :
    s.toBytes.slice offset len = s.slice offset len := by
  have sliced := s.slice_eq offset len
  apply Bytes.ext_byte
  · rw [Bytes.size_slice, size_toBytes, sliced.1]
  · intro i h
    rw [Bytes.size_slice, size_toBytes] at h
    rw [Bytes.byte_slice, if_pos (by omega), byte_toBytes, sliced.2 i (by omega)]

theorem toBytes_store (s : SparseBytes) (offset : Nat) (data : Bytes) :
    (s.store offset data).toBytes = s.toBytes.store offset data := by
  apply Bytes.ext_byte
  · rw [size_toBytes, Bytes.size_store, size_toBytes, store]
    split <;> rfl
  · intro i _
    rw [byte_toBytes, Bytes.byte_store, byte_toBytes, store]
    split
    · rw [if_neg (by omega)]
    · exact Pages.byte_overlay ..

theorem size_resize (s : SparseBytes) (n : Nat) : (s.resize n).size = n := rfl

theorem toBytes_resize (s : SparseBytes) (n : Nat) :
    (s.resize n).toBytes = s.toBytes.resize n := by
  apply Bytes.ext_byte
  · rw [size_toBytes, size_resize, Bytes.size_resize]
  · intro i h
    rw [size_toBytes, size_resize] at h
    rw [byte_toBytes, Bytes.byte_resize, byte_toBytes, if_pos h, resize]
    split
    · rfl
    · rw [Pages.byte_clip, if_pos h]

theorem toBytes_ofBytes (bytes : Bytes) : (ofBytes bytes).toBytes = bytes := by
  have empty : (zeros 0).size = 0 := rfl
  rw [ofBytes, toBytes_store]
  apply Bytes.ext_byte
  · rw [Bytes.size_store, size_toBytes, empty]
    split <;> omega
  · intro i h
    rw [Bytes.size_store, size_toBytes, empty] at h
    rw [Bytes.byte_store, if_pos (by split at h <;> omega), Nat.sub_zero]

theorem size_ofBytes (bytes : Bytes) : (ofBytes bytes).size = bytes.size := by
  rw [← size_toBytes, toBytes_ofBytes]

end SparseBytes

end DiskImage
