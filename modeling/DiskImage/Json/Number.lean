import DiskImage.Binary64.Shortest
import DiskImage.Word
import DiskImage.Json.Token

/-! Numbers in JSON text, read only to be named in a message: integers of 64 bits stay integers, all
others become binary64. Digits that no longer fit a 64-bit significand only move the exponent. -/
namespace DiskImage.Json

def largestWord : Nat := Word.limit - 1

def digitNumber (c : Char) : Nat := c.toNat - '0'.toNat

/-- A decimal significand and the power of ten it is to be scaled by. -/
structure Scaled where
  significand : Nat
  exponent : Int

/-- Digits before the point: once one does not fit, it and those after it count as zeros. -/
def wholeDigits : (significand : Nat) → List Char → Scaled
  | n, [] => ⟨n, 0⟩
  | n, c :: rest =>
    let next := n * 10 + digitNumber c
    if next ≤ largestWord then wholeDigits next rest else ⟨n, (rest.length : Int) + 1⟩

/-- Digits after the point: once one does not fit, it and those after it are dropped. -/
def fractionDigits : Scaled → List Char → Scaled
  | x, [] => x
  | x, c :: rest =>
    let next := x.significand * 10 + digitNumber c
    if next ≤ largestWord then fractionDigits ⟨next, x.exponent - 1⟩ rest else x

def largestPower : Nat := 308

/-- Powers past the largest are divided out one largest power at a time. -/
def scaleDown (x : Binary64) (power : Nat) : Option Binary64 :=
  if x.isZero then some x
  else if power ≤ largestPower then do
    let p ← Binary64.ofNat? (Nat.pow 10 power)
    x.div p
  else do
    let p ← Binary64.ofNat? (Nat.pow 10 largestPower)
    let x ← x.div p
    scaleDown x (power - largestPower)
termination_by power
decreasing_by simp only [largestPower] at *; omega

/-- The value in binary64, rounded once for the significand and once for each scaling. -/
def Scaled.toBinary64 (x : Scaled) : Option Binary64 := do
  let significand ← Binary64.ofNat? x.significand
  if significand.isZero then return significand
  if x.exponent < 0 then scaleDown significand x.exponent.natAbs
  else if largestPower < x.exponent.natAbs then none
  else
    let p ← Binary64.ofNat? (Nat.pow 10 x.exponent.natAbs)
    significand.mul p

def floating (negative : Bool) (x : Scaled) : Except ConfigFault FoundValue :=
  match x.toBinary64 with
  | none => .error .malformed
  | some value => .ok (.floating (if negative then "-" ++ value.text else value.text))

def readExponent (negative : Bool) (x : Scaled) (s : List Char) : Except ConfigFault FoundValue :=
  let (down, s) := match s with
    | '+' :: s => (false, s)
    | '-' :: s => (true, s)
    | s => (false, s)
  match s with
  | [] => .error .truncated
  | c :: _ =>
    if isDigit c then
      let power : Int := (s.takeWhile isDigit).foldl (fun n d => n * 10 + digitNumber d) 0
      floating negative { x with exponent := if down then x.exponent - power else x.exponent + power }
    else .error .malformed

def readFraction (negative : Bool) (x : Scaled) (s : List Char) : Except ConfigFault FoundValue :=
  let digits := s.takeWhile isDigit
  let x := fractionDigits x digits
  match digits, s.dropWhile isDigit with
  | [], [] => .error .truncated
  | [], _ => .error .malformed
  | _, 'e' :: s => readExponent negative x s
  | _, 'E' :: s => readExponent negative x s
  | _, _ => floating negative x

/-- A whole number: zero with a minus sign and what does not fit 64 bits are floating point. -/
def wholeNumber (negative : Bool) (x : Scaled) : Except ConfigFault FoundValue :=
  if x.exponent ≠ 0 then floating negative x
  else if negative then
    if 0 < x.significand ∧ x.significand ≤ Word.limit / 2 then .ok (.integer (-x.significand))
    else floating negative x
  else .ok (.integer x.significand)

/-- The number that `s` starts with, its sign being read already. -/
def readNumber (negative : Bool) (s : List Char) : Except ConfigFault FoundValue :=
  let digits := s.takeWhile isDigit
  let x := wholeDigits 0 digits
  match s with
  | [] => .error .truncated
  | _ =>
    match digits, s.dropWhile isDigit with
    | [], _ => .error .malformed
    | '0' :: _ :: _, _ => .error .malformed
    | _, '.' :: s => readFraction negative x s
    | _, 'e' :: s => readExponent negative x s
    | _, 'E' :: s => readExponent negative x s
    | _, _ => wholeNumber negative x

end DiskImage.Json
