import DiskImage.ImageKind

/-! Changing the contents of a file changes what is read under its number and nothing else: every path
still names what it named. -/
namespace DiskImage.Host

variable {host : Host} {id : Nat}

theorem content_setContent (inside : id < host.contents.size) (bytes : SparseBytes) :
    (host.setContent id bytes).content id = bytes := by
  simp [content, setContent, inside]

theorem setContent_setContent (a b : SparseBytes) :
    (host.setContent id a).setContent id b = host.setContent id b := by
  simp [setContent, Array.setIfInBounds_setIfInBounds]

theorem setContent_content : host.setContent id (host.content id) = host := by
  by_cases inside : id < host.contents.size
  · simp [setContent, content, Array.setIfInBounds, inside]
  · simp [setContent, Array.setIfInBounds, inside]

theorem lt_of_content (nonempty : 0 < (host.content id).size) : id < host.contents.size := by
  by_cases inside : id < host.contents.size
  · exact inside
  · simp [content, inside, SparseBytes.zeros] at nonempty

theorem node?_setContent (bytes : SparseBytes) (place : List String) :
    (host.setContent id bytes).node? place = host.node? place := rfl

theorem walk_setContent (bytes : SparseBytes) (place : List String) (node : Node)
    (parts : List String) :
    (host.setContent id bytes).walk place node parts = host.walk place node parts := by
  induction parts generalizing place node with
  | nil => rfl
  | cons part rest ih =>
    unfold walk
    simp only [node?_setContent, ih]

@[simp] theorem inspect_setContent (bytes : SparseBytes) (path : String) :
    (host.setContent id bytes).inspect path = host.inspect path := by
  have start : (host.setContent id bytes).start path = host.start path := rfl
  simp only [inspect, resolve, start, walk_setContent]

@[simp] theorem openFile_setContent (bytes : SparseBytes) (path : String) :
    (host.setContent id bytes).openFile path = host.openFile path := by
  simp only [openFile, inspect_setContent]

@[simp] theorem detect_setContent (bytes : SparseBytes) (path : String) :
    ImageKind.detect (host.setContent id bytes) path = ImageKind.detect host path := by
  simp only [ImageKind.detect, inspect_setContent]

end DiskImage.Host
