import DiskImage.Bytes
import DiskImage.Text.Integer
import DiskImage.Word

/-! Hexadecimal listings: sixteen bytes a line, the address before them and their printable characters
behind them. -/
namespace DiskImage.HexDump

def lineWidth : Nat := 16

def glyph (b : UInt8) : Char :=
  if 0x20 ≤ b ∧ b ≤ 0x7e then Char.ofNat b.toNat else '.'

def line (address : Nat) (bytes : List UInt8) : List Char :=
  Text.hexPadded 8 address ++ ':' :: bytes.flatMap (fun b => ' ' :: Text.hexByte b)
    ++ ' ' :: ' ' :: bytes.map glyph ++ ['\n']

/-- The lines from the `i`th on. Every line has an address, which must fit a word. -/
def lines (base i : Nat) (bytes : List UInt8) : Except ArithmeticFault (List (List Char)) :=
  match bytes with
  | [] => .ok []
  | b :: bytes => do
    let address ← Word.add base (i * lineWidth)
    let rest ← lines base (i + 1) (bytes.drop (lineWidth - 1))
    return line address (b :: bytes.take (lineWidth - 1)) :: rest
termination_by bytes.length
decreasing_by simp only [List.length_drop, List.length_cons, lineWidth]; omega

def dump (base : Nat) (bytes : Bytes) : Except ArithmeticFault String :=
  (lines base 0 bytes.toList).map fun lines => String.ofList lines.flatten

end DiskImage.HexDump
