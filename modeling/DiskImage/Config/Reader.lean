import DiskImage.Config.Basic
import DiskImage.Except
import DiskImage.Host.Files
import DiskImage.Json.Number
import DiskImage.Json.Skip

/-! Reading the description of a drive from JSON text. Members may come in any order, unknown ones
are skipped, and a list of values in the order of the fields is taken as well. The text is read once
from the left, so its first fault decides. -/
namespace DiskImage.Config

open Json

/-- The fault of a value that starts with these characters where `wanted` should stand. -/
def misfitValue (wanted : WantedValue) (s : List Char) : ConfigFault :=
  let found : Except ConfigFault FoundValue :=
    match s with
    | 'n' :: s => (readWord ['u', 'l', 'l'] s).map fun _ => .null
    | 't' :: s => (readWord ['r', 'u', 'e'] s).map fun _ => .boolean true
    | 'f' :: s => (readWord ['a', 'l', 's', 'e'] s).map fun _ => .boolean false
    | '-' :: s => readNumber true s
    | '"' :: s => (readString s).map fun (text, _) => .string (String.ofList text)
    | '[' :: _ => .ok .sequence
    | '{' :: _ => .ok .map
    | c :: _ => if isDigit c then readNumber false s else .error .malformed
    | [] => .error .truncated
  match found with
  | .error fault => fault
  | .ok value => .misfit (.wrongType value wanted)

def readText (wanted : WantedValue) (s : List Char) : Except ConfigFault (String × List Char) :=
  match skipBlank s with
  | '"' :: s => (readString s).map fun (text, rest) => (String.ofList text, rest)
  | s => .error (misfitValue wanted s)

def readFlag (s : List Char) : Except ConfigFault (Bool × List Char) :=
  match skipBlank s with
  | 't' :: s => (readWord ['r', 'u', 'e'] s).map fun rest => (true, rest)
  | 'f' :: s => (readWord ['a', 'l', 's', 'e'] s).map fun rest => (false, rest)
  | s => .error (misfitValue .boolean s)

def readColon (s : List Char) : Except ConfigFault (List Char) :=
  match skipBlank s with
  | ':' :: s => .ok s
  | [] => .error .truncated
  | _ => .error .malformed

def choiceOfName (name : String) : Except ConfigFault BackendChoice :=
  if name = "auto" then .ok .auto
  else if name = "file" then .ok .file
  else if name = "ram" then .ok .ram
  else .error (.misfit (.unknownVariant name))

def readNull (s : List Char) : Except ConfigFault (List Char) :=
  match skipBlank s with
  | 'n' :: s => readWord ['u', 'l', 'l'] s
  | s => .error (misfitValue .unit s)

def readClose (s : List Char) : Except ConfigFault (List Char) :=
  match skipBlank s with
  | '}' :: s => .ok s
  | [] => .error .truncated
  | _ => .error .malformed

def readKey (s : List Char) : Except ConfigFault (String × List Char) :=
  match skipBlank s with
  | '"' :: s => (readString s).map fun (key, rest) => (String.ofList key, rest)
  | [] => .error .truncated
  | _ => .error .malformed

/-- What stands behind a name in braces: a colon, null and the closing brace. -/
def readUnitMember (s : List Char) : Except ConfigFault (List Char) := do
  let s ← readColon s
  let s ← readNull s
  readClose s

/-- A backend is named by a string, or by the only key of an object with the value null. -/
def readChoice (s : List Char) : Except ConfigFault (BackendChoice × List Char) :=
  match skipBlank s with
  | '"' :: s =>
    match readString s with
    | .error fault => .error fault
    | .ok (name, rest) => (choiceOfName (String.ofList name)).map fun choice => (choice, rest)
  | '{' :: s =>
    match readKey s with
    | .error fault => .error fault
    | .ok (name, rest) =>
      match choiceOfName name with
      | .error fault => .error fault
      | .ok choice => (readUnitMember rest).map fun rest => (choice, rest)
  | [] => .error .truncated
  | _ => .error .malformed

structure Fields where
  path : Option String := none
  backend : Option BackendChoice := none
  modifyBackingFile : Option Bool := none
  deriving DecidableEq, Repr

def Fields.finish (fields : Fields) : Except ConfigFault DriveConfig :=
  match fields.path with
  | none => .error (.misfit (.missingField "path"))
  | some path => .ok
    { path, backend := fields.backend.getD .auto,
      modifyBackingFile := fields.modifyBackingFile.getD false }

/-- Reads the value of the member `key`. That a field was given before is noticed at its key. -/
def readMember (fields : Fields) (key : String) (s : List Char) :
    Except ConfigFault (Fields × List Char) :=
  if key = "path" then
    if fields.path.isSome then .error (.misfit (.duplicateField key))
    else do
      let (path, rest) ← readText .path (← readColon s)
      return ({ fields with path := some path }, rest)
  else if key = "backend" then
    if fields.backend.isSome then .error (.misfit (.duplicateField key))
    else do
      let (backend, rest) ← readChoice (← readColon s)
      return ({ fields with backend := some backend }, rest)
  else if key = "modifyBackingFile" then
    if fields.modifyBackingFile.isSome then .error (.misfit (.duplicateField key))
    else do
      let (modify, rest) ← readFlag (← readColon s)
      return ({ fields with modifyBackingFile := some modify }, rest)
  else do
    let rest ← skipValue (← readColon s)
    return (fields, rest)

inductive Next
  | close (rest : List Char)
  | more (rest : List Char)

def nextMember (first : Bool) (s : List Char) : Except ConfigFault Next :=
  match skipBlank s with
  | [] => .error .truncated
  | '}' :: s => .ok (.close s)
  | '"' :: s => if first then .ok (.more s) else .error .malformed
  | ',' :: s =>
    if first then .error .malformed
    else
      match skipBlank s with
      | [] => .error .truncated
      | '"' :: s => .ok (.more s)
      | _ => .error .malformed
  | _ => .error .malformed

def nextItem (first : Bool) (s : List Char) : Except ConfigFault Next :=
  match skipBlank s with
  | [] => .error .truncated
  | ']' :: s => .ok (.close s)
  | s =>
    if first then .ok (.more s)
    else
      match s with
      | ',' :: s =>
        match skipBlank s with
        | [] => .error .truncated
        | ']' :: _ => .error .malformed
        | s => .ok (.more s)
      | _ => .error .malformed

theorem length_readText {wanted : WantedValue} {s rest : List Char} {text : String}
    (h : readText wanted s = .ok (text, rest)) : rest.length ≤ s.length := by
  unfold readText at h
  split at h
  · next blank =>
    obtain ⟨_, found, left⟩ := map_eq_ok.1 h
    cases left
    exact length_readString_of_skipBlank blank found
  · cases h

theorem length_readKey {s rest : List Char} {key : String} (h : readKey s = .ok (key, rest)) :
    rest.length ≤ s.length := by
  unfold readKey at h
  split at h
  · next blank =>
    obtain ⟨_, found, left⟩ := map_eq_ok.1 h
    cases left
    exact length_readString_of_skipBlank blank found
  · cases h
  · cases h

theorem length_readFlag {s rest : List Char} {flag : Bool} (h : readFlag s = .ok (flag, rest)) :
    rest.length ≤ s.length := by
  unfold readFlag at h
  split at h
  · next blank =>
    obtain ⟨_, found, left⟩ := map_eq_ok.1 h
    cases left
    exact length_readWord_of_skipBlank blank found
  · next blank =>
    obtain ⟨_, found, left⟩ := map_eq_ok.1 h
    cases left
    exact length_readWord_of_skipBlank blank found
  · cases h

theorem length_readColon {s rest : List Char} (h : readColon s = .ok rest) :
    rest.length ≤ s.length := by
  unfold readColon at h
  split at h
  · next blank =>
    cases h
    exact Nat.le_of_lt (length_of_skipBlank blank)
  · cases h
  · cases h

theorem length_readNull {s rest : List Char} (h : readNull s = .ok rest) :
    rest.length ≤ s.length := by
  unfold readNull at h
  split at h
  · next blank => exact length_readWord_of_skipBlank blank h
  · cases h

theorem length_readClose {s rest : List Char} (h : readClose s = .ok rest) :
    rest.length ≤ s.length := by
  unfold readClose at h
  split at h
  · next blank =>
    cases h
    exact Nat.le_of_lt (length_of_skipBlank blank)
  · cases h
  · cases h

theorem length_readUnitMember {s rest : List Char} (h : readUnitMember s = .ok rest) :
    rest.length ≤ s.length := by
  obtain ⟨_, colon, h⟩ := bind_eq_ok.1 h
  obtain ⟨_, null, close⟩ := bind_eq_ok.1 h
  exact Nat.le_trans (length_readClose close)
    (Nat.le_trans (length_readNull null) (length_readColon colon))

theorem length_readChoice {s rest : List Char} {choice : BackendChoice}
    (h : readChoice s = .ok (choice, rest)) : rest.length ≤ s.length := by
  unfold readChoice at h
  split at h
  · next blank =>
    split at h
    · cases h
    · next found =>
      obtain ⟨_, _, left⟩ := map_eq_ok.1 h
      cases left
      exact length_readString_of_skipBlank blank found
  · next blank =>
    split at h
    · cases h
    · next found =>
      split at h
      · cases h
      · obtain ⟨_, close, left⟩ := map_eq_ok.1 h
        cases left
        exact Nat.le_trans (length_readUnitMember close)
          (Nat.le_trans (length_readKey found) (Nat.le_of_lt (length_of_skipBlank blank)))
  · cases h
  · cases h

theorem length_readMember {fields fields' : Fields} {key : String} {s rest : List Char}
    (h : readMember fields key s = .ok (fields', rest)) : rest.length ≤ s.length := by
  unfold readMember at h
  split at h
  · split at h
    · cases h
    · obtain ⟨_, colon, h⟩ := bind_eq_ok.1 h
      obtain ⟨_, found, left⟩ := bind_eq_ok.1 h
      cases left
      exact Nat.le_trans (length_readText found) (length_readColon colon)
  · split at h
    · split at h
      · cases h
      · obtain ⟨_, colon, h⟩ := bind_eq_ok.1 h
        obtain ⟨_, found, left⟩ := bind_eq_ok.1 h
        cases left
        exact Nat.le_trans (length_readChoice found) (length_readColon colon)
    · split at h
      · split at h
        · cases h
        · obtain ⟨_, colon, h⟩ := bind_eq_ok.1 h
          obtain ⟨_, found, left⟩ := bind_eq_ok.1 h
          cases left
          exact Nat.le_trans (length_readFlag found) (length_readColon colon)
      · obtain ⟨_, colon, h⟩ := bind_eq_ok.1 h
        obtain ⟨_, found, left⟩ := bind_eq_ok.1 h
        cases left
        exact Nat.le_trans (length_skipValue found) (length_readColon colon)

theorem length_nextMember {first : Bool} {s rest : List Char}
    (h : nextMember first s = .ok (.more rest)) : rest.length < s.length := by
  unfold nextMember at h
  split at h
  · cases h
  · cases h
  · next blank =>
    split at h
    · cases h
      exact length_of_skipBlank blank
    · cases h
  · next comma =>
    split at h
    · cases h
    · split at h
      · cases h
      · next blank =>
        cases h
        exact Nat.lt_trans (length_of_skipBlank blank) (length_of_skipBlank comma)
      · cases h
  · cases h

def readMembers (fields : Fields) (first : Bool) (s : List Char) :
    Except ConfigFault (Fields × List Char) :=
  match opened : nextMember first s with
  | .error fault => .error fault
  | .ok (.close rest) => .ok (fields, rest)
  | .ok (.more text) =>
    match quoted : readString text with
    | .error fault => .error fault
    | .ok (key, rest) =>
      match valued : readMember fields (String.ofList key) rest with
      | .error fault => .error fault
      | .ok (fields, rest) =>
        have := length_nextMember opened
        have := length_readString quoted
        have := length_readMember valued
        readMembers fields false rest
termination_by s.length
decreasing_by omega

/-- The path, the backend and the flag as items of a list; only the path has to be there. -/
def readItems (s : List Char) : Except ConfigFault (Fields × List Char) := do
  match ← nextItem true s with
  | .close _ => .error (.misfit .emptySequence)
  | .more s =>
    let (path, s) ← readText .path s
    match ← nextItem false s with
    | .close rest => return ({ path }, rest)
    | .more s =>
      let (backend, s) ← readChoice s
      match ← nextItem false s with
      | .close rest => return ({ path, backend }, rest)
      | .more s =>
        let (modify, s) ← readFlag s
        let rest ← match skipBlank s with
          | ']' :: rest => .ok rest
          | [] => .error .truncated
          | _ => .error .malformed
        return ({ path, backend, modifyBackingFile := modify }, rest)

/-- The whole text: one value with nothing but blanks around it. -/
def read (s : List Char) : Except ConfigFault DriveConfig := do
  let (fields, rest) ← match skipBlank s with
    | [] => .error .truncated
    | '[' :: s => readItems s
    | '{' :: s => readMembers { } true s
    | s => .error (misfitValue .description s)
  let config ← fields.finish
  match skipBlank rest with
  | [] => return config
  | _ => .error .malformed

end DiskImage.Config

namespace DiskImage.DriveConfig

def ofJson (text : String) : Except ImageError DriveConfig := do
  let config ← (Config.read text.toList).mapError .configParse
  config.validate
  return config

def ofFile (host : Host) (path : String) : Except ImageError DriveConfig := do
  let text ← (host.readText path).mapError .io
  ofJson text

end DiskImage.DriveConfig
