import DiskImage.Bounds
import DiskImage.Json.Text

/-! Cylinder, head and sector numbers for an image addressed by sector. Heads and sectors per track
are conventional; the cylinder count is what the image size leaves. Heads, sectors of a track and their
numbers are half words, everything else is a word. -/
namespace DiskImage

structure Geometry where
  sectors : Nat
  sectorsPerTrack : Nat
  heads : Nat
  cylinders : Nat
  deriving DecidableEq, Repr

/-- A cylinder-head-sector address; sectors count from one. -/
structure Chs where
  cylinder : Nat
  head : Nat
  sector : Nat
  deriving DecidableEq, Repr

namespace Geometry

def standardHeads : Nat := 16
def standardSectorsPerTrack : Nat := 63

/-- Bytes past the last whole sector do not count, nor sectors past the last whole cylinder. -/
def ofCapacity (bytes : Nat) : Geometry where
  sectors := bytes / sectorSize
  sectorsPerTrack := standardSectorsPerTrack
  heads := standardHeads
  cylinders := bytes / sectorSize / (standardSectorsPerTrack * standardHeads)

def capacity (g : Geometry) : Except ArithmeticFault Nat := Word.mul g.sectors sectorSize

def toChs (g : Geometry) (lba : Nat) : Except ArithmeticFault Chs := do
  let perCylinder ← Word.mul g.sectorsPerTrack g.heads
  let cylinder ← Word.div lba perCylinder
  let track ← Word.div lba g.sectorsPerTrack
  let sector ← Word.addHalf (Word.lowHalf (lba % g.sectorsPerTrack)) 1
  return ⟨cylinder, Word.lowHalf (track % g.heads), sector⟩

/-- No sector has the number zero, one past the track's end, or a head that does not exist. -/
def toLba (g : Geometry) (address : Chs) : Except ArithmeticFault (Option Nat) :=
  if address.sector = 0 ∨ g.sectorsPerTrack < address.sector ∨ g.heads ≤ address.head then
    .ok none
  else do
    let tracks ← Word.mul address.cylinder g.heads
    let track ← Word.add tracks address.head
    let start ← Word.mul track g.sectorsPerTrack
    let lba ← Word.add start (address.sector - 1)
    return some lba

def members (g : Geometry) : List (String × List Char) :=
  [("sectors", Json.number g.sectors), ("sectorsPerTrack", Json.number g.sectorsPerTrack),
    ("heads", Json.number g.heads), ("cylinders", Json.number g.cylinders)]

def toJson (g : Geometry) : String := String.ofList (Json.object g.members)

end Geometry

end DiskImage
