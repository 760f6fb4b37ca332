import DiskImage.Text.Integer

/-! Written JSON, built from parts that are written already: strings with their escapes, numbers,
and objects either compact or laid out with two blanks a level. -/
namespace DiskImage.Json

/-- A control character has its short escape or four hexadecimal digits; of all others only the
quote and the backslash are escaped. -/
def escapeChar (c : Char) : List Char :=
  match c with
  | '"' => ['\\', '"']
  | '\\' => ['\\', '\\']
  | '\x08' => ['\\', 'b']
  | '\x0c' => ['\\', 'f']
  | '\n' => ['\\', 'n']
  | '\r' => ['\\', 'r']
  | '\t' => ['\\', 't']
  | c => if c < ' ' then '\\' :: 'u' :: Text.hexPadded 4 c.toNat else [c]

def escape (text : List Char) : List Char := text.flatMap escapeChar

def string (text : String) : List Char := '"' :: escape text.toList ++ ['"']

def number (n : Nat) : List Char := Text.decimal n

def boolean : Bool → List Char
  | true => "true".toList
  | false => "false".toList

def object (members : List (String × List Char)) : List Char :=
  let written := members.map fun (key, value) => string key ++ ':' :: value
  '{' :: List.intercalate [','] written ++ ['}']

/-- A non-empty object whose brace stands at `level`, one member a line. -/
def prettyObject (level : Nat) (members : List (String × List Char)) : List Char :=
  let newline (n : Nat) : List Char := '\n' :: List.replicate (2 * n) ' '
  let written := members.map fun (key, value) =>
    newline (level + 1) ++ string key ++ ':' :: ' ' :: value
  '{' :: List.intercalate [','] written ++ newline level ++ ['}']

end DiskImage.Json
