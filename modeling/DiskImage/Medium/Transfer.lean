import DiskImage.Medium.Basic

/-! Whole transfers. Partial moves are continued and interrupted calls repeated until everything is
moved, the medium has no more, or it fails; what was moved before a failure stays moved. -/
namespace DiskImage

/-- The answer of a read, the buffer as it leaves it, and the medium. -/
structure Filled (μ : Type) where
  answer : Except Halt Unit
  buffer : Bytes
  medium : μ

/-- Calls that `n` bytes can take when no more than `patience` calls in a row are interrupted. -/
def callBudget (patience n : Nat) : Nat := (patience + 1) * (n + 1)

def transferAnswer (offset expected moved : Nat) : Except Halt Unit :=
  if moved = expected then .ok () else .error (.error (.shortTransfer offset expected moved))

section

variable {μ : Type} [Medium μ]

/-- Fills `buffer` from index `done` on; `calls` bounds the calls that may still be made. -/
def readRest (offset : Nat) (calls : Nat) (done : Nat) (buffer : Bytes) (medium : μ) : Filled μ :=
  if buffer.size ≤ done then ⟨transferAnswer offset buffer.size done, buffer, medium⟩
  else
    match calls with
    | 0 => ⟨.error .stalled, buffer, medium⟩
    | calls + 1 =>
      match Medium.readAt medium (offset + done) (buffer.size - done) with
      | (.interrupted, medium) => readRest offset calls done buffer medium
      | (.failed e, medium) => ⟨.error (.error (.io e)), buffer, medium⟩
      | (.moved data, medium) =>
        if data.size = 0 then ⟨transferAnswer offset buffer.size done, buffer, medium⟩
        else readRest offset calls (done + data.size) (buffer.patch done data) medium

def readExactAt (medium : μ) (offset : Nat) (buffer : Bytes) : Filled μ :=
  match Medium.seekError medium with
  | some e => ⟨.error (.error (.io e)), buffer, medium⟩
  | none => readRest offset (callBudget (Medium.patience medium) buffer.size) 0 buffer medium

def writeRest (offset : Nat) (data : Bytes) (calls : Nat) (done : Nat) (medium : μ) :
    Outcome μ Unit :=
  if data.size ≤ done then ⟨transferAnswer offset data.size done, medium⟩
  else
    match calls with
    | 0 => ⟨.error .stalled, medium⟩
    | calls + 1 =>
      match Medium.writeAt medium (offset + done) data done with
      | (.interrupted, medium) => writeRest offset data calls done medium
      | (.failed e, medium) => ⟨.error (.error (.io e)), medium⟩
      | (.moved n, medium) =>
        if n = 0 then ⟨transferAnswer offset data.size done, medium⟩
        else writeRest offset data calls (done + n) medium

def writeAllAt (medium : μ) (offset : Nat) (data : Bytes) : Outcome μ Unit :=
  match Medium.seekError medium with
  | some e => ⟨.error (.error (.io e)), medium⟩
  | none => writeRest offset data (callBudget (Medium.patience medium) data.size) 0 medium

end

end DiskImage
