import DiskImage.Bounds

/-! The sectors that a command may touch: at least one, not too many at once, and all of them inside
the image. -/
namespace DiskImage.CommandLine

def mostSectors : Nat := 4096

/-- Why a run of sectors is refused, in the order in which the reasons are looked for. -/
inductive SpanFault
  | noSectors
  | tooMany (count : Nat)
  | overflow
  | outside (lba stop total : Nat)
  | arithmetic (fault : ArithmeticFault)
  deriving DecidableEq, Repr

def SpanFault.message : SpanFault → String
  | noSectors => "--count must be at least 1"
  | tooMany count =>
    s!"refusing to touch more than {Nat.repr mostSectors} sectors at once (got {Nat.repr count})"
  | overflow => "sector range overflows"
  | outside lba stop total =>
    s!"sectors {Nat.repr lba}..{Nat.repr stop} are outside the image ({Nat.repr total} sectors)"
  | arithmetic fault => fault.message

/-- Byte offset and length of `count` sectors from `lba` on, in an image of `total` sectors. -/
def checkSpan (total lba count : Nat) : Except SpanFault (Nat × Nat) :=
  if count = 0 then .error .noSectors
  else if mostSectors < count then .error (.tooMany count)
  else if Word.limit ≤ lba + count then .error .overflow
  else if total < lba + count then .error (.outside lba (lba + count) total)
  else do
    let offset ← (Word.mul lba sectorSize).mapError .arithmetic
    let len ← (Word.mul count sectorSize).mapError .arithmetic
    return (offset, len)

end DiskImage.CommandLine
