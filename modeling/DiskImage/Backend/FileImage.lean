import DiskImage.Backend.Basic
import DiskImage.BlockCache

/-! A flat image file. In raw mode every sector goes straight to the file; otherwise sectors go
through a block cache and what is written stays in memory. -/
namespace DiskImage

structure FileImage where
  file : Nat
  size : Nat
  raw : Bool
  cache : BlockCache

namespace FileImage

def ofPathWith (host : Host) (path : String) (raw : Bool) (blockSize : Nat) :
    Except ImageError FileImage := do
  let file ← (host.openFile path).mapError .io
  let size := (host.content file).size
  if size = 0 then throw .emptyImage
  let cache ← BlockCache.create size blockSize
  return { file, size, raw, cache }

def ofPath (host : Host) (path : String) (raw : Bool) : Except ImageError FileImage :=
  ofPathWith host path raw BlockCache.standardBlockSize

def handle (f : FileImage) (host : Host) : OpenFile := ⟨host.content f.file⟩

def readSector (f : FileImage) (host : Host) (offset : Nat) : Outcome (FileImage × Host) Bytes :=
  if f.raw then
    let filled := readExactAt (f.handle host) offset (Bytes.fill 0 sectorSize)
    ⟨filled.answer.map fun _ => filled.buffer, (f, host)⟩
  else
    let read := f.cache.readSector (f.handle host) offset sectorSize
    ⟨read.answer, ({ f with cache := read.state.1 }, host)⟩

def writeSector (f : FileImage) (host : Host) (offset : Nat) (data : Bytes) :
    Outcome (FileImage × Host) Unit :=
  if f.raw then
    let written := writeAllAt (f.handle host) offset data
    ⟨written.answer, (f, host.setContent f.file written.state.bytes)⟩
  else
    let written := f.cache.writeSector (f.handle host) offset data
    ⟨written.answer, ({ f with cache := written.state.1 }, host)⟩

def sectorOffset (offset i : Nat) : Except Halt Nat :=
  match Word.add offset (i * sectorSize) with
  | .error fault => .error (.panic (.arithmetic fault))
  | .ok position => .ok position

/-- Reads `count` sectors from sector `i` of the request on, behind those read already. The first
that fails ends the request. -/
def readSectors (f : FileImage) (host : Host) (offset i count : Nat) (done : Bytes) :
    Outcome (FileImage × Host) Bytes :=
  match count with
  | 0 => ⟨.ok done, (f, host)⟩
  | count + 1 =>
    match sectorOffset offset i with
    | .error halt => ⟨.error halt, (f, host)⟩
    | .ok position =>
      match f.readSector host position with
      | ⟨.error halt, state⟩ => ⟨.error halt, state⟩
      | ⟨.ok sector, (f, host)⟩ => readSectors f host offset (i + 1) count (done ++ sector)

/-- Writes `count` sectors of `data` from sector `i` on; those before a failure stay written. -/
def writeSectors (f : FileImage) (host : Host) (offset : Nat) (data : Bytes) (i count : Nat) :
    Outcome (FileImage × Host) Unit :=
  match count with
  | 0 => ⟨.ok (), (f, host)⟩
  | count + 1 =>
    match sectorOffset offset i with
    | .error halt => ⟨.error halt, (f, host)⟩
    | .ok position =>
      match f.writeSector host position (data.slice (i * sectorSize) sectorSize) with
      | ⟨.error halt, state⟩ => ⟨.error halt, state⟩
      | ⟨.ok (), (f, host)⟩ => writeSectors f host offset data (i + 1) count

def read (f : FileImage) (host : Host) (offset len : Nat) : Outcome (FileImage × Host) Bytes :=
  match checkRequest offset len f.size with
  | .error e => ⟨.error (.error e), (f, host)⟩
  | .ok () => f.readSectors host offset 0 (len / sectorSize) ByteArray.empty

def write (f : FileImage) (host : Host) (offset : Nat) (data : Bytes) :
    Outcome (FileImage × Host) Unit :=
  match checkRequest offset data.size f.size with
  | .error e => ⟨.error (.error e), (f, host)⟩
  | .ok () => f.writeSectors host offset data 0 (data.size / sectorSize)

instance : Backend FileImage where
  capacity f := f.size
  read f w offset len _ :=
    let r := f.read w.host offset len
    ⟨r.answer.map .finished, (r.state.1, { w with host := r.state.2 })⟩
  write f w offset data _ :=
    let r := f.write w.host offset data
    ⟨r.answer.map .finished, (r.state.1, { w with host := r.state.2 })⟩

end FileImage

end DiskImage
