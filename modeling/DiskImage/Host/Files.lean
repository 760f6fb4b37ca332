import DiskImage.Error
import DiskImage.Host.Path
import DiskImage.SparseBytes

/-! The host's files. A path is resolved part by part from the working directory or the root; a file
keeps its contents under a number, so that it stays readable by those who have it open. -/
namespace DiskImage

inductive Node
  | directory
  | file (id : Nat)
  deriving DecidableEq, Repr

structure Host where
  workingDirectory : List String
  nodes : List (List String × Node)
  contents : Array SparseBytes

namespace Host

def longestName : Nat := 255
def longestPath : Nat := 4095

def node? (host : Host) (place : List String) : Option Node :=
  if place.isEmpty then some .directory else host.nodes.lookup place

/-- Follows `parts` from a place. Only a directory leads further, and a directory's parent is the
place without its last name. -/
def walk (host : Host) (place : List String) (node : Node) :
    List String → Except IoError (List String × Node)
  | [] => .ok (place, node)
  | part :: rest =>
    match node with
    | .file _ => .error .notDirectory
    | .directory =>
      if part = "" ∨ part = "." then host.walk place .directory rest
      else if part = ".." then host.walk place.dropLast .directory rest
      else if longestName < part.utf8ByteSize then .error .nameTooLong
      else
        match host.node? (place ++ [part]) with
        | none => .error .notFound
        | some next => host.walk (place ++ [part]) next rest

def start (host : Host) (path : String) : List String :=
  if path.toList.head? = some '/' then [] else host.workingDirectory

def resolve (host : Host) (path : String) : Except IoError (List String × Node) :=
  if path.toList.contains '\x00' then .error .nulInName
  else if path.isEmpty then .error .notFound
  else if longestPath < path.utf8ByteSize then .error .nameTooLong
  else host.walk (host.start path) .directory (Path.parts path)

def inspect (host : Host) (path : String) : Except IoError Node := (host.resolve path).map Prod.snd

def openFile (host : Host) (path : String) : Except IoError Nat :=
  match host.inspect path with
  | .error e => .error e
  | .ok .directory => .error .isDirectory
  | .ok (.file id) => .ok id

def content (host : Host) (id : Nat) : SparseBytes := host.contents[id]?.getD (.zeros 0)

def setContent (host : Host) (id : Nat) (bytes : SparseBytes) : Host :=
  { host with contents := host.contents.setIfInBounds id bytes }

def fileContent (host : Host) (path : String) : Except IoError SparseBytes :=
  (host.openFile path).map host.content

def fileBytes (host : Host) (path : String) : Except IoError Bytes :=
  (host.fileContent path).map SparseBytes.toBytes

def readText (host : Host) (path : String) : Except IoError String :=
  match host.fileBytes path with
  | .error e => .error e
  | .ok bytes =>
    match String.fromUTF8? bytes with
    | none => .error .notUtf8
    | some text => .ok text

def pathExists (host : Host) (path : String) : Bool :=
  match host.inspect path with
  | .error _ => false
  | .ok _ => true

/-- The place a path names by its parts alone, whether or not anything is there. -/
def placeOf (host : Host) (path : String) : List String :=
  (Path.parts path).foldl (fun place part =>
    if part = "" ∨ part = "." then place
    else if part = ".." then place.dropLast
    else place ++ [part]) (host.start path)

def addNode (host : Host) (place : List String) (node : Node) : Host :=
  match host.node? place with
  | some _ => host
  | none => { host with nodes := (place, node) :: host.nodes }

def addDirectory (host : Host) (place : List String) : Host :=
  (List.range (place.length + 1)).foldl (fun host n => host.addNode (place.take n) .directory) host

def addFile (host : Host) (place : List String) (bytes : SparseBytes) : Host :=
  let host := host.addDirectory place.dropLast
  match host.node? place with
  | some (.file id) => host.setContent id bytes
  | some .directory => host
  | none =>
    { host with
      nodes := (place, .file host.contents.size) :: host.nodes
      contents := host.contents.push bytes }

def modifyFile (host : Host) (path : String) (change : SparseBytes → SparseBytes) : Host :=
  match host.openFile path with
  | .error _ => host
  | .ok id => host.setContent id (change (host.content id))

/-- Takes the name of the file at `path` away; its contents stay for those who have it open. -/
def removeFile (host : Host) (path : String) : Host :=
  match host.resolve path with
  | .ok (place, .file _) => { host with nodes := host.nodes.filter fun entry => entry.1 ≠ place }
  | _ => host

def withWorkingDirectory (place : List String) : Host :=
  ({ workingDirectory := place, nodes := [], contents := #[] } : Host).addDirectory place

end Host

end DiskImage
