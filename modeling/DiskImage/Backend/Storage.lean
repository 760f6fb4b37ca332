import DiskImage.Backend.Deferred
import DiskImage.Backend.FileImage
import DiskImage.Backend.Planned
import DiskImage.Backend.RamImage

/-! Any of the backends, chosen while the program runs. -/
namespace DiskImage

inductive Storage
  | file (image : FileImage)
  | ram (image : RamImage)
  | deferred (image : DeferredImage)
  | planned (image : Recorded PlannedImage)

namespace Storage

def lift {β α : Type} (wrap : β → Storage) (outcome : Outcome (β × World) α) :
    Outcome (Storage × World) α :=
  ⟨outcome.answer, (wrap outcome.state.1, outcome.state.2)⟩

instance : Backend Storage where
  capacity
    | file b => Backend.capacity b
    | ram b => Backend.capacity b
    | deferred b => Backend.capacity b
    | planned b => Backend.capacity b
  read
    | file b, w, offset, len, c => lift file (Backend.read b w offset len c)
    | ram b, w, offset, len, c => lift ram (Backend.read b w offset len c)
    | deferred b, w, offset, len, c => lift deferred (Backend.read b w offset len c)
    | planned b, w, offset, len, c => lift planned (Backend.read b w offset len c)
  write
    | file b, w, offset, data, c => lift file (Backend.write b w offset data c)
    | ram b, w, offset, data, c => lift ram (Backend.write b w offset data c)
    | deferred b, w, offset, data, c => lift deferred (Backend.write b w offset data c)
    | planned b, w, offset, data, c => lift planned (Backend.write b w offset data c)
  prefetch
    | file b, w, offset, len, c => lift file (Backend.prefetch b w offset len c)
    | ram b, w, offset, len, c => lift ram (Backend.prefetch b w offset len c)
    | deferred b, w, offset, len, c => lift deferred (Backend.prefetch b w offset len c)
    | planned b, w, offset, len, c => lift planned (Backend.prefetch b w offset len c)
  saveState
    | file b, w, path => lift file (Backend.saveState b w path)
    | ram b, w, path => lift ram (Backend.saveState b w path)
    | deferred b, w, path => lift deferred (Backend.saveState b w path)
    | planned b, w, path => lift planned (Backend.saveState b w path)
  flush
    | file b, w => lift file (Backend.flush b w)
    | ram b, w => lift ram (Backend.flush b w)
    | deferred b, w => lift deferred (Backend.flush b w)
    | planned b, w => lift planned (Backend.flush b w)

end Storage

end DiskImage
