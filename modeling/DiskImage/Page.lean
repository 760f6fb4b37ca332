import DiskImage.Bytes

/-! Pages: byte strings of one fixed size. Data laid over a longer byte string falls on a page in
the part that the two have in common, and a byte string cut short keeps the front of its last page. -/
namespace DiskImage

def pageSize : Nat := 4096

structure Page where
  bytes : Bytes
  size_bytes : bytes.size = pageSize

namespace Page

def blank : Page := ⟨Bytes.fill 0 pageSize, Bytes.size_fill 0 pageSize⟩

def byte (p : Page) (i : Nat) : UInt8 := p.bytes.byte i

/-- The page that starts at `base`, after `data` was laid over the whole at `offset`. -/
def overlay (p : Page) (base offset : Nat) (data : Bytes) : Page where
  bytes := p.bytes.patch (offset - base) (data.extract (base - offset) (base + pageSize - offset))
  size_bytes := by
    have := p.size_bytes
    simp only [Bytes.patch_eq, ByteArray.size_append, ByteArray.size_extract]
    omega

def clip (p : Page) (n : Nat) : Page :=
  if pageSize ≤ n then p else ⟨Bytes.resize (p.bytes.extract 0 n) pageSize, Bytes.size_resize ..⟩

theorem byte_blank (i : Nat) : blank.byte i = 0 := by
  rw [byte, blank, Bytes.byte_fill, ite_self]

theorem byte_of_pageSize_le (p : Page) {i : Nat} (h : pageSize ≤ i) : p.byte i = 0 :=
  Bytes.byte_of_size_le (p.size_bytes.symm ▸ h)

theorem byte_overlay (p : Page) (base offset : Nat) (data : Bytes) {i : Nat} (h : i < pageSize) :
    (p.overlay base offset data).byte i =
      if offset ≤ base + i ∧ base + i < offset + data.size then data.byte (base + i - offset)
      else p.byte i := by
  have size := p.size_bytes
  change Bytes.byte (p.bytes.patch (offset - base)
    (data.extract (base - offset) (base + pageSize - offset))) i = _
  by_cases reached : offset ≤ base + pageSize
  · rw [Bytes.byte_patch _ (by omega), Bytes.byte_extract, ByteArray.size_extract]
    by_cases inside : offset ≤ base + i ∧ base + i < offset + data.size
    · have place : base - offset + (i - (offset - base)) = base + i - offset := by omega
      rw [if_pos inside, if_pos (by omega), place, if_pos (by omega)]
    · rw [if_neg inside, if_neg (by omega), byte]
  · have empty : (data.extract (base - offset) (base + pageSize - offset)).size = 0 := by
      rw [ByteArray.size_extract]; omega
    rw [Bytes.patch_of_size_eq_zero _ _ empty, if_neg (by omega), byte]

theorem byte_clip (p : Page) (n i : Nat) : (p.clip n).byte i = if i < n then p.byte i else 0 := by
  unfold clip
  split
  · split
    · rfl
    · exact p.byte_of_pageSize_le (by omega)
  · simp only [byte, Bytes.byte_resize, Bytes.byte_extract, Nat.zero_add]
    split
    · rfl
    · rw [if_neg (by omega)]

end Page

end DiskImage
