import DiskImage.Medium.Basic

/-! A medium with planned misbehaviour: it can move little at a time, interrupt every so many calls,
fail from a position on, or refuse to seek. Its length never changes. -/
namespace DiskImage

structure Overlay where
  start : Nat
  bytes : Bytes

namespace Overlay

def stop (o : Overlay) : Nat := o.start + o.bytes.size

def byte? (o : Overlay) (i : Nat) : Option UInt8 :=
  if o.start ≤ i then o.bytes[i - o.start]? else none

/-- Lays `data` over everything; behind the latest overlay it makes that one longer. -/
def add (position : Nat) (data : Bytes) : List Overlay → List Overlay
  | [] => [⟨position, data⟩]
  | o :: rest =>
    if o.stop = position then ⟨o.start, o.bytes ++ data⟩ :: rest else ⟨position, data⟩ :: o :: rest

end Overlay

structure ScriptedMedium where
  /-- The bytes below the overlays. -/
  base : Nat → UInt8
  /-- What was written, the latest first. -/
  overlays : List Overlay := []
  length : Nat
  /-- The most bytes that one call moves. -/
  chunk : Option Nat := none
  /-- Calls whose number is a multiple of this are interrupted; zero interrupts none. -/
  interruptEvery : Nat := 0
  /-- Calls at or past this position fail. -/
  failFrom : Option Nat := none
  seekFails : Bool := false
  /-- Reads and writes made so far. -/
  calls : Nat := 0

namespace ScriptedMedium

def byte (m : ScriptedMedium) (i : Nat) : UInt8 :=
  (m.overlays.findSome? fun o => o.byte? i).getD (m.base i)

/-- How many bytes a call at `position` moves when it neither fails nor is interrupted. -/
def allowance (m : ScriptedMedium) (position wanted : Nat) : Nat :=
  min (min wanted (m.chunk.getD wanted))
    (min (m.length - position) ((m.failFrom.map (· - position)).getD wanted))

def failsAt (m : ScriptedMedium) (position : Nat) : Bool := m.failFrom.any (· ≤ position)

/-- Counts a call and decides its fate; `act` is given the number of bytes to move. -/
def call {α : Type} (m : ScriptedMedium) (position wanted : Nat)
    (act : ScriptedMedium → Nat → α × ScriptedMedium) : Moved α × ScriptedMedium :=
  let m := { m with calls := m.calls + 1 }
  if m.interruptEvery ≠ 0 ∧ m.calls % m.interruptEvery = 0 then (.interrupted, m)
  else if m.failsAt position then (.failed (.device "medium error"), m)
  else
    let n := m.allowance position wanted
    let (a, m) := act m n
    (.moved a, m)

def bytesAt (m : ScriptedMedium) (position count : Nat) : Bytes :=
  Bytes.tabulate count fun i => m.byte (position + i)

def overlay (m : ScriptedMedium) (position : Nat) (data : Bytes) : ScriptedMedium :=
  { m with overlays := Overlay.add position data m.overlays }

def fill (m : ScriptedMedium) (position count : Nat) (b : UInt8) : ScriptedMedium :=
  { m with
    base := fun i => if position ≤ i ∧ i < position + count then b else m.byte i
    overlays := [] }

def contents (m : ScriptedMedium) : Bytes := m.bytesAt 0 m.length

/-- Of two calls in a row one goes through, unless every call is interrupted. -/
instance : Medium ScriptedMedium where
  patience _ := 1
  seekError m := if m.seekFails then some (.device "seek error") else none
  readAt m position wanted := m.call position wanted fun m n => (m.bytesAt position n, m)
  writeAt m position data start := m.call position (data.size - start) fun m n =>
    (n, m.overlay position (data.extract start (start + n)))

end ScriptedMedium

end DiskImage
