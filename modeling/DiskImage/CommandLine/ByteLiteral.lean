import DiskImage.Text.Integer
import DiskImage.Text.Quoted

/-! Byte values on the command line: decimal, or hexadecimal after a zero and an x of either case. -/
namespace DiskImage.ByteLiteral

def largest : Nat := 255

def read (text : List Char) : Except Text.IntegerFault Nat :=
  match text with
  | '0' :: 'x' :: digits => Text.readUnsigned 16 largest digits
  | '0' :: 'X' :: digits => Text.readUnsigned 16 largest digits
  | digits => Text.readUnsigned 10 largest digits

def parse (text : String) : Except String UInt8 :=
  match read text.toList with
  | .ok n => .ok (.ofNat n)
  | .error fault => .error s!"invalid byte value {Text.quote text}: {fault.message}"

end DiskImage.ByteLiteral
