import DiskImage.Error
import DiskImage.Json.Text

/-! The description of a drive: which image, which backend, and whether writes reach the image. -/
namespace DiskImage

inductive BackendChoice
  | auto
  | file
  | ram
  deriving DecidableEq, Repr

def BackendChoice.name : BackendChoice → String
  | auto => "auto"
  | file => "file"
  | ram => "ram"

structure DriveConfig where
  path : String
  backend : BackendChoice := .auto
  modifyBackingFile : Bool := false
  deriving DecidableEq, Repr

namespace DriveConfig

def validate (config : DriveConfig) : Except ImageError Unit :=
  if config.path.isEmpty then .error (.invalidConfig "drive path must not be empty") else .ok ()

def toJson (config : DriveConfig) : String :=
  String.ofList (Json.object
    [("path", Json.string config.path), ("backend", Json.string config.backend.name),
      ("modifyBackingFile", Json.boolean config.modifyBackingFile)])

end DriveConfig

end DiskImage
