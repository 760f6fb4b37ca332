/-! Path texts: parts between slashes, joining, and substrings. A part that is empty or a single dot
stays where it is. -/
namespace DiskImage.Path

def split : List Char → List (List Char)
  | [] => [[]]
  | c :: rest =>
    if c = '/' then [] :: split rest
    else
      match split rest with
      | [] => [[c]]
      | part :: parts => (c :: part) :: parts

def parts (path : String) : List String := (split path.toList).map String.ofList

/-- `name` inside the directory `dir`; inside the empty path it stands alone. -/
def join (dir name : String) : String :=
  if dir.isEmpty then name
  else if dir.toList.getLast? = some '/' then dir ++ name
  else dir ++ "/" ++ name

def containsChars (pattern : List Char) : List Char → Bool
  | [] => pattern.isEmpty
  | c :: rest => pattern.isPrefixOf (c :: rest) || containsChars pattern rest

def contains (text pattern : String) : Bool := containsChars pattern.toList text.toList

end DiskImage.Path
