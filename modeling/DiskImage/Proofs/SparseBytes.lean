import DiskImage.Proofs.Bytes

/-! What is stored in places that have nothing in common can be stored in either order: the pages are
the same ones, and hold the same bytes. -/
namespace DiskImage

theorem Page.ext_byte {p q : Page} (same : ∀ i, i < pageSize → p.byte i = q.byte i) : p = q := by
  obtain ⟨a, size_a⟩ := p
  obtain ⟨b, size_b⟩ := q
  congr
  apply Bytes.ext_byte (size_a.trans size_b.symm)
  intro i inside
  exact same i (by rwa [← size_a])

def Apart (offset len offset' len' : Nat) : Prop :=
  offset + len ≤ offset' ∨ offset' + len' ≤ offset

theorem Apart.symm {offset len offset' len' : Nat} (apart : Apart offset len offset' len') :
    Apart offset' len' offset len := Or.symm apart

section

variable {offset offset' : Nat} {a b : Bytes}

theorem Page.overlay_comm (p : Page) (base : Nat) (apart : Apart offset a.size offset' b.size) :
    (p.overlay base offset a).overlay base offset' b =
      (p.overlay base offset' b).overlay base offset a := by
  apply Page.ext_byte
  intro i inside
  simp only [Page.byte_overlay _ _ _ _ inside]
  unfold Apart at apart
  by_cases first : offset ≤ base + i ∧ base + i < offset + a.size
  · rw [if_pos first, if_neg (by omega), if_pos first]
  · rw [if_neg first, if_neg first]

theorem Pages.overlay_comm (pages : Pages) (apart : Apart offset a.size offset' b.size)
    (k count k' count' : Nat) :
    (pages.overlay offset a k count).overlay offset' b k' count' =
      (pages.overlay offset' b k' count').overlay offset a k count := by
  apply Std.ExtTreeMap.ext_getElem?
  intro j
  simp only [getElem?_overlay, page_overlay]
  by_cases first : k ≤ j ∧ j < k + count
  · by_cases second : k' ≤ j ∧ j < k' + count'
    · simp only [if_pos first, if_pos second, Page.overlay_comm _ _ apart]
    · simp only [if_pos first, if_neg second]
  · simp only [if_neg first]

namespace SparseBytes

variable {s : SparseBytes}

theorem store_comm (apart : Apart offset a.size offset' b.size) :
    (s.store offset a).store offset' b = (s.store offset' b).store offset a := by
  unfold store
  by_cases first : a.size = 0
  · simp only [if_pos first]
  · by_cases second : b.size = 0
    · simp only [if_pos second]
    · simp only [if_neg first, if_neg second]
      congr 1
      · omega
      · exact Pages.overlay_comm s.pages apart _ _ _ _

theorem slice_store_of_apart {start len : Nat} (inside : offset + a.size ≤ s.size)
    (apart : Apart offset a.size start len) : (s.store offset a).slice start len = s.slice start len := by
  rw [← slice_toBytes, ← slice_toBytes, toBytes_store_of_le inside]
  exact Bytes.slice_patch_beside (by rwa [size_toBytes]) apart.symm

end SparseBytes

end

end DiskImage
