import DiskImage.Error

/-! Which requests lie on whole sectors inside an image. `checkRequest` names the first rule that a
request breaks: alignment, then overflow of its end, then the capacity. -/
namespace DiskImage

def sectorSize : Nat := 512

def divCeil (n d : Nat) : Except ImageError Nat :=
  if d = 0 then .error .offsetOverflow else .ok ((n + (d - 1)) / d)

def checkRange (offset len capacity : Nat) : Except ImageError Unit :=
  if Word.limit ≤ offset + len then .error .offsetOverflow
  else if capacity < offset + len then .error (.outOfBounds offset len capacity)
  else .ok ()

def checkRequest (offset len capacity : Nat) : Except ImageError Unit :=
  if offset % sectorSize ≠ 0 ∨ len % sectorSize ≠ 0 then .error (.unaligned offset len sectorSize)
  else checkRange offset len capacity

end DiskImage
