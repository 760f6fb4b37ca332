import DiskImage.Host.Files

/-! What a path names, judged before opening it: a network address by its text alone, everything else
by what the host finds there. -/
namespace DiskImage

inductive ImageKind
  | raw
  | segmented
  | url
  | missing
  deriving DecidableEq, Repr

namespace ImageKind

def detect (host : Host) (path : String) : ImageKind :=
  if Path.contains path "http://" ∨ Path.contains path "https://" then url
  else
    match host.inspect path with
    | .ok .directory => segmented
    | .ok (.file _) => raw
    | .error _ => missing

def name : ImageKind → String
  | raw => "raw"
  | segmented => "segmented"
  | url => "url"
  | missing => "missing"

def title : ImageKind → String
  | raw => "Raw"
  | segmented => "Segmented"
  | url => "Url"
  | missing => "Missing"

def code : ImageKind → Int
  | raw => 1
  | segmented | url | missing => -1

def isOpenable (kind : ImageKind) : Bool := 0 < kind.code

end ImageKind

end DiskImage
