import Std.Data.ExtTreeMap

/-! Entries under numbers, of which only those present take room. Two such tables with the same
entries are equal, in whatever order the entries came. -/
namespace DiskImage

abbrev Numbered (α : Type) := Std.ExtTreeMap Nat α (@compare Nat instOrdNat)

theorem getElem?_insert_number {α : Type} (entries : Numbered α) (k : Nat) (a : α) (i : Nat) :
    (entries.insert k a)[i]? = if k = i then some a else entries[i]? := by
  simp [Std.ExtTreeMap.getElem?_insert]

theorem size_insert_number {α : Type} (entries : Numbered α) (k : Nat) (a : α) :
    (entries.insert k a).size = if entries[k]?.isSome then entries.size else entries.size + 1 := by
  rw [Std.ExtTreeMap.size_insert, Std.ExtTreeMap.isSome_getElem?_eq_contains]

end DiskImage
