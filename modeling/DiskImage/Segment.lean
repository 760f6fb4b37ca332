import DiskImage.Bounds
import DiskImage.Host.Files
import DiskImage.Json.Text

/-! Segmented images: a directory whose record `info.dat` holds the image size and the block size.
The layout has one record per block; loading and merging of blocks is no part of it. -/
namespace DiskImage

structure SegmentInfo where
  size : UInt32
  blockSize : UInt32
  deriving DecidableEq, Repr

namespace SegmentInfo

def wordOfBytes (b₀ b₁ b₂ b₃ : UInt8) : UInt32 :=
  .ofNat (b₀.toNat + 256 * (b₁.toNat + 256 * (b₂.toNat + 256 * b₃.toNat)))

/-- Least byte first. -/
def bytesOfWord (w : UInt32) : List UInt8 :=
  [.ofNat w.toNat, .ofNat (w.toNat / 256), .ofNat (w.toNat / 65536), .ofNat (w.toNat / 16777216)]

def IsValid (info : SegmentInfo) : Prop :=
  info.blockSize.toNat ≠ 0 ∧ info.blockSize.toNat % sectorSize = 0

instance (info : SegmentInfo) : Decidable info.IsValid :=
  inferInstanceAs (Decidable (_ ∧ _))

/-- Whatever follows the record is ignored. -/
def decode : List UInt8 → Except ImageError SegmentInfo
  | a₀ :: a₁ :: a₂ :: a₃ :: b₀ :: b₁ :: b₂ :: b₃ :: _ =>
    let info : SegmentInfo := ⟨wordOfBytes a₀ a₁ a₂ a₃, wordOfBytes b₀ b₁ b₂ b₃⟩
    if info.IsValid then .ok info
    else .error (.corruptImage "block size must be a non-zero multiple of 512")
  | _ => .error (.corruptImage "info.dat is truncated")

def recordSize : Nat := 8

def ofBytes (raw : Bytes) : Except ImageError SegmentInfo :=
  decode (raw.slice 0 recordSize).toList

def toBytes (info : SegmentInfo) : List UInt8 :=
  bytesOfWord info.size ++ bytesOfWord info.blockSize

def toJson (info : SegmentInfo) : String :=
  String.ofList (Json.object
    [("size", Json.number info.size.toNat), ("blockSize", Json.number info.blockSize.toNat)])

end SegmentInfo

/-- Where a block comes from: the index of its path, whether it was changed, and its bytes once loaded. -/
structure BlockRecord where
  pathIndex : Nat := 0
  dirty : Bool := false
  data : Option Bytes := none

structure SegmentedLayout where
  info : SegmentInfo
  paths : List String
  blocks : Array BlockRecord

namespace SegmentedLayout

def infoFileName : String := "info.dat"

/-- One clean record for each block that the size needs, all of them from the directory itself. -/
def ofInfo (dir : String) (info : SegmentInfo) : Except ImageError SegmentedLayout := do
  let count ← divCeil info.size.toNat info.blockSize.toNat
  return ⟨info, [dir], Array.replicate count { }⟩

def load (host : Host) (dir : String) : Except ImageError SegmentedLayout := do
  let raw ← (host.fileBytes (Path.join dir infoFileName)).mapError .io
  let info ← SegmentInfo.ofBytes raw
  ofInfo dir info

def blockCount (layout : SegmentedLayout) : Nat := layout.blocks.size

def dirtyBlocks (layout : SegmentedLayout) : Nat := layout.blocks.countP (·.dirty)

def loadedBlocks (layout : SegmentedLayout) : Nat := layout.blocks.countP (·.data.isSome)

def pathIndexSum (layout : SegmentedLayout) : Nat :=
  layout.blocks.foldl (fun sum block => sum + block.pathIndex) 0

end SegmentedLayout

end DiskImage
