import DiskImage.Binary64.Nearest

/-! The shortest decimal that reads back as a given binary64, nearest to it among those of that
length, and its text: positional for exponents from -5 to 15, scientific elsewhere. -/
namespace DiskImage.Binary64

/-- The decimal `d₁.d₂d₃… * 10 ^ exponent` of its digits `d₁d₂d₃…`. -/
structure Decimal where
  digits : List Char
  exponent : Int
  deriving DecidableEq, Repr

/-- The bounds between which every real rounds to `x`, in quarter units of the last place: the gap
below a power of two is half as wide. -/
def lowerQuarters (x : Binary64) : Nat :=
  if x.mantissa = leadingBit ∧ minExponent < x.exponent then 4 * x.mantissa - 1 else 4 * x.mantissa - 2

def upperQuarters (x : Binary64) : Nat := 4 * x.mantissa + 2

def readsBack (x : Binary64) (n : Nat) (k : Int) : Bool :=
  let decimal := if 0 ≤ k then n * Nat.pow 10 k.toNat else n
  let decimalScale := if 0 ≤ k then 1 else Nat.pow 10 (-k).toNat
  let (unit, unitScale) := toFraction ⟨1, x.exponent⟩
  let value := 4 * decimal * unitScale
  let lower := x.lowerQuarters * unit * decimalScale
  let upper := x.upperQuarters * unit * decimalScale
  if x.mantissa % 2 = 0 then lower ≤ value && value ≤ upper else lower < value && value < upper

/-- The greatest `k` with `10 ^ k ≤ x`, from a guess that is off by at most one. -/
def decimalExponent (x : Binary64) : Int :=
  let (num, den) := x.toFraction
  let atLeast (k : Int) : Bool :=
    if 0 ≤ k then den * Nat.pow 10 k.toNat ≤ num else den ≤ num * Nat.pow 10 (-k).toNat
  let guess := Int.fdiv (((num.log2 : Int) - den.log2) * 30103) 100000
  if atLeast (guess + 1) then guess + 1
  else if atLeast guess then guess
  else guess - 1

/-- The two neighbours of `x` on the grid of multiples of `10 ^ k`, the nearer first. -/
def neighbours (x : Binary64) (k : Int) : List Nat :=
  let (num, den) := x.toFraction
  let n := if 0 ≤ k then num else num * Nat.pow 10 (-k).toNat
  let d := if 0 ≤ k then den * Nat.pow 10 k.toNat else den
  let q := n / d
  let twice := 2 * (n % d)
  if twice < d ∨ (twice = d ∧ q % 2 = 0) then [q, q + 1] else [q + 1, q]

def ofGrid (n : Nat) (k : Int) : Decimal :=
  let digits := Nat.toDigits 10 n
  ⟨(digits.reverse.dropWhile (· == '0')).reverse, k + digits.length - 1⟩

/-- The shortest decimal of a non-zero number: 17 digits always suffice. -/
def shortest (x : Binary64) : Decimal :=
  let top := x.decimalExponent
  let found := (List.range 17).findSome? fun (i : Nat) =>
    let k := top - i
    ((x.neighbours k).find? fun n => x.readsBack n k).map (ofGrid · k)
  found.getD (ofGrid ((x.neighbours (top - 16)).headD 0) (top - 16))

def zeros (n : Nat) : List Char := List.replicate n '0'

def Decimal.positional (x : Decimal) : List Char :=
  if x.exponent < 0 then
    '0' :: '.' :: zeros (-x.exponent - 1).toNat ++ x.digits
  else
    let whole := x.exponent.toNat + 1
    let fraction := x.digits.drop whole
    x.digits.take whole ++ zeros (whole - x.digits.length) ++ '.' ::
      (if fraction.isEmpty then ['0'] else fraction)

def Decimal.scientific (x : Decimal) : List Char :=
  let power := Nat.toDigits 10 x.exponent.natAbs
  let fraction := x.digits.drop 1
  x.digits.take 1 ++ (if fraction.isEmpty then [] else '.' :: fraction)
    ++ 'e' :: (if x.exponent < 0 then '-' else '+') :: power

def text (x : Binary64) : String :=
  if x.isZero then "0.0"
  else
    let d := x.shortest
    String.ofList (if -5 ≤ d.exponent ∧ d.exponent ≤ 15 then d.positional else d.scientific)

end DiskImage.Binary64
