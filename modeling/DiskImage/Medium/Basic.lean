import DiskImage.Error
import DiskImage.SparseBytes

/-! A medium moves bytes at a position, possibly fewer than asked for, and may fail or interrupt a
call. An open file is one: it moves everything asked for, and writing past its end makes it grow. -/
namespace DiskImage

inductive Moved (α : Type)
  | interrupted
  | failed (e : IoError)
  | moved (a : α)

class Medium (μ : Type) where
  /-- How many calls in a row it interrupts at most. A transfer that is interrupted more often than
  this allows has stalled. -/
  patience : μ → Nat
  /-- Why the medium cannot be positioned, if it cannot. -/
  seekError : μ → Option IoError
  /-- Reads up to the wanted number of bytes at a position; none at all means the end. -/
  readAt : μ → (position wanted : Nat) → Moved Bytes × μ
  /-- Writes the bytes of `data` from index `start` on and says how many of them. -/
  writeAt : μ → (position : Nat) → (data : Bytes) → (start : Nat) → Moved Nat × μ

structure OpenFile where
  bytes : SparseBytes

instance : Medium OpenFile where
  patience _ := 0
  seekError _ := none
  readAt file position wanted := (.moved (file.bytes.slice position wanted), file)
  writeAt file position data start :=
    let rest := data.extract start data.size
    (.moved rest.size, ⟨file.bytes.store position rest⟩)

end DiskImage
