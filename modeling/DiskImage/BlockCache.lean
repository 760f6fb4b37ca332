import DiskImage.Bounds
import DiskImage.Medium.Transfer

/-! A cache of fixed-size blocks over a whole image. A block is read from the medium when one of its
sectors is first touched and stays in memory from then on; writes change the block alone. -/
namespace DiskImage

structure CacheStats where
  hits : Nat := 0
  misses : Nat := 0
  blocksLoaded : Nat := 0
  deriving DecidableEq, Repr

/-- Block `i` covers the bytes from `i * blockSize` up to `(i + 1) * blockSize`. -/
structure BlockCache where
  blockSize : Nat
  capacity : Nat
  blockCount : Nat
  /-- The blocks that were loaded. -/
  blocks : Numbered SparseBytes := ∅
  stats : CacheStats := { }

namespace BlockCache

def standardBlockSize : Nat := 256 * 1024

/-- Two to the power of 46: a table of so many blocks is more than memory can hold. -/
def tableLimit : Nat := 70368744177664

/-- Two to the power of 50: a block of so many bytes is more than memory can hold. -/
def blockLimit : Nat := 1125899906842624

def create (capacity blockSize : Nat) : Except ImageError BlockCache := do
  if blockSize = 0 ∨ blockSize % sectorSize ≠ 0 then
    throw (.invalidConfig "block size must be a non-zero multiple of the sector size")
  let count ← divCeil capacity blockSize
  if tableLimit ≤ count then throw (.quotaExceeded capacity)
  return { blockSize, capacity, blockCount := count }

def residentBlocks (c : BlockCache) : Nat := c.blocks.size

def checkSector (c : BlockCache) (offset len : Nat) : Except ImageError Unit :=
  if offset % sectorSize ≠ 0 ∨ len ≠ sectorSize then .error (.unaligned offset len sectorSize)
  else checkRange offset len c.capacity

/-- Where block `index` starts and how much of it the image backs; only the last can be backed in part. -/
def blockRange (c : BlockCache) (index : Nat) : Except ArithmeticFault (Nat × Nat) := do
  let start ← Word.mul index c.blockSize
  let left ← Word.sub c.capacity start
  return (start, min left c.blockSize)

section

variable {μ : Type} [Medium μ]

/-- Reads block `index`; what the image does not back is zero. A failed read loads nothing. -/
def loadBlock (c : BlockCache) (medium : μ) (index : Nat) :
    Outcome (BlockCache × μ) SparseBytes :=
  match c.blockRange index with
  | .error fault => ⟨.error (.panic (.arithmetic fault)), (c, medium)⟩
  | .ok (start, backed) =>
    if blockLimit ≤ c.blockSize then
      ⟨.error (.error (.quotaExceeded c.blockSize)), (c, medium)⟩
    else
      let filled := readExactAt medium start (Bytes.fill 0 backed)
      match filled.answer with
      | .error halt => ⟨.error halt, (c, filled.medium)⟩
      | .ok () =>
        let block := (SparseBytes.ofBytes filled.buffer).resize c.blockSize
        let c := { c with
          blocks := c.blocks.insert index block
          stats := { c.stats with blocksLoaded := c.stats.blocksLoaded + 1 } }
        ⟨.ok block, (c, filled.medium)⟩

def touch (c : BlockCache) (medium : μ) (index : Nat) : Outcome (BlockCache × μ) SparseBytes :=
  if c.blockCount ≤ index then
    ⟨.error (.panic (.indexOutOfRange index c.blockCount)), (c, medium)⟩
  else
    match c.blocks[index]? with
    | some block =>
      ⟨.ok block, ({ c with stats := { c.stats with hits := c.stats.hits + 1 } }, medium)⟩
    | none =>
      loadBlock { c with stats := { c.stats with misses := c.stats.misses + 1 } } medium index

def access {α : Type} (c : BlockCache) (medium : μ) (offset len : Nat)
    (act : BlockCache → (index : Nat) → (block : SparseBytes) → (within : Nat) → α × BlockCache) :
    Outcome (BlockCache × μ) α :=
  match c.checkSector offset len with
  | .error e => ⟨.error (.error e), (c, medium)⟩
  | .ok () =>
    let index := offset / c.blockSize
    let within := offset % c.blockSize
    match c.touch medium index with
    | ⟨.error halt, state⟩ => ⟨.error halt, state⟩
    | ⟨.ok block, (c, medium)⟩ =>
      if block.size < within + len then
        ⟨.error (.panic (.sliceOutOfRange (within + len) block.size)), (c, medium)⟩
      else
        let (a, c) := act c index block within
        ⟨.ok a, (c, medium)⟩

/-- The sector at `offset`; `len` is the size of the buffer it is wanted for. -/
def readSector (c : BlockCache) (medium : μ) (offset len : Nat) : Outcome (BlockCache × μ) Bytes :=
  c.access medium offset len fun c _ block within => (block.slice within len, c)

def writeSector (c : BlockCache) (medium : μ) (offset : Nat) (data : Bytes) :
    Outcome (BlockCache × μ) Unit :=
  c.access medium offset data.size fun c index block within =>
    ((), { c with blocks := c.blocks.insert index (block.store within data) })

end

end BlockCache

end DiskImage
