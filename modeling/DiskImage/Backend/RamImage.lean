import DiskImage.Backend.Basic
import DiskImage.Bounds

/-! A whole image in memory. The file it came from is read once and never written. -/
namespace DiskImage

structure RamImage where
  bytes : SparseBytes

namespace RamImage

def ofBytes (bytes : SparseBytes) : Except ImageError RamImage :=
  if bytes.size = 0 then .error .emptyImage else .ok ⟨bytes⟩

def ofPath (host : Host) (path : String) : Except ImageError RamImage := do
  let bytes ← (host.fileContent path).mapError .io
  ofBytes bytes

def read (r : RamImage) (offset len : Nat) : Except Halt Bytes :=
  match checkRequest offset len r.bytes.size with
  | .error e => .error (.error e)
  | .ok () => (readSlice r.bytes offset len).mapError .panic

def write (r : RamImage) (offset : Nat) (data : Bytes) : Except Halt RamImage :=
  match checkRequest offset data.size r.bytes.size with
  | .error e => .error (.error e)
  | .ok () => ((writeSlice r.bytes offset data).mapError .panic).map .mk

instance : Backend RamImage where
  capacity r := r.bytes.size
  read r w offset len _ := ⟨(r.read offset len).map .finished, (r, w)⟩
  write r w offset data _ :=
    match r.write offset data with
    | .error halt => ⟨.error halt, (r, w)⟩
    | .ok r => ⟨.ok (.finished ()), (r, w)⟩

end RamImage

end DiskImage
