import DiskImage.Backend.Basic

/-! A backend that answers reads from memory only after a round through the tracker, as a remote
image would: it remembers the range it fetched last and serves that one while the tracker is idle. -/
namespace DiskImage

structure DeferredImage where
  bytes : SparseBytes
  /-- Offset and length of the range fetched last. -/
  warm : Option (Nat × Nat) := none

namespace DeferredImage

def fetch {α : Type} (d : DeferredImage) (w : World) (offset len : Nat) (c : Completion) :
    Outcome (DeferredImage × World) (Reply α) :=
  match w.defer c with
  | .error e => ⟨.error (.error e), (d, w)⟩
  | .ok (reply, w) => ⟨.ok reply, ({ d with warm := some (offset, len) }, w)⟩

def read (d : DeferredImage) (w : World) (offset len : Nat) (c : Completion) :
    Outcome (DeferredImage × World) (Reply Bytes) :=
  if d.warm = some (offset, len) ∧ ¬ w.tracker.isPending then
    ⟨((readSlice d.bytes offset len).mapError .panic).map .finished, (d, w)⟩
  else d.fetch w offset len c

def write (d : DeferredImage) (w : World) (offset : Nat) (data : Bytes) :
    Outcome (DeferredImage × World) (Reply Unit) :=
  match writeSlice d.bytes offset data with
  | .error p => ⟨.error (.panic p), (d, w)⟩
  | .ok bytes => ⟨.ok (.finished ()), ({ d with bytes }, w)⟩

instance : Backend DeferredImage where
  capacity d := d.bytes.size
  read := read
  write d w offset data _ := d.write w offset data
  prefetch d w offset len c := d.fetch w offset len c

end DeferredImage

end DiskImage
