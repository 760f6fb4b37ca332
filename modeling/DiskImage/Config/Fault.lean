import DiskImage.Text.Quoted

/-! Why a drive description could not be read: the text is not JSON, it ends too early, or the value
at the point reached does not fit its place. -/
namespace DiskImage

/-- The kind of JSON value found where another was wanted. A floating-point number is given by its text. -/
inductive FoundValue
  | null
  | boolean (b : Bool)
  | integer (n : Int)
  | floating (text : String)
  | string (text : String)
  | sequence
  | map
  deriving DecidableEq, Repr

def FoundValue.describe : FoundValue → String
  | null => "null"
  | boolean true => "boolean `true`"
  | boolean false => "boolean `false`"
  | integer (.ofNat n) => s!"integer `{Nat.repr n}`"
  | integer (.negSucc n) => s!"integer `-{Nat.repr n.succ}`"
  | floating text => s!"floating point `{text}`"
  | string text => s!"string {Text.quote text}"
  | sequence => "sequence"
  | map => "map"

inductive WantedValue
  | description
  | path
  | unit
  | boolean
  deriving DecidableEq, Repr

def WantedValue.describe : WantedValue → String
  | description => "struct DriveConfig"
  | path => "path string"
  | unit => "unit"
  | boolean => "a boolean"

inductive Misfit
  | wrongType (found : FoundValue) (wanted : WantedValue)
  | unknownVariant (name : String)
  | missingField (name : String)
  | duplicateField (name : String)
  | emptySequence
  deriving DecidableEq, Repr

def Misfit.message : Misfit → String
  | wrongType found wanted => s!"invalid type: {found.describe}, expected {wanted.describe}"
  | unknownVariant name => s!"unknown variant `{name}`, expected one of `auto`, `file`, `ram`"
  | missingField name => s!"missing field `{name}`"
  | duplicateField name => s!"duplicate field `{name}`"
  | emptySequence => "invalid length 0, expected struct DriveConfig with 3 elements"

inductive ConfigFault
  | malformed
  | truncated
  | misfit (cause : Misfit)
  deriving DecidableEq, Repr

def ConfigFault.message : ConfigFault → String
  | malformed => "<Syntax>"
  | truncated => "<Eof>"
  | misfit cause => cause.message

end DiskImage
