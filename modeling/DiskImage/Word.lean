/-! Arithmetic on 64-bit words that stops instead of wrapping. Words are natural numbers below
`Word.limit`; each operation either returns the exact result or names what went wrong. -/
namespace DiskImage

inductive ArithmeticFault
  | addOverflow
  | subtractOverflow
  | multiplyOverflow
  | divideByZero
  deriving DecidableEq, Repr

def ArithmeticFault.message : ArithmeticFault → String
  | addOverflow => "attempt to add with overflow"
  | subtractOverflow => "attempt to subtract with overflow"
  | multiplyOverflow => "attempt to multiply with overflow"
  | divideByZero => "attempt to divide by zero"

namespace Word

/-- Two to the power of 64. -/
def limit : Nat := 18446744073709551616

/-- Two to the power of 32. -/
def halfLimit : Nat := 4294967296

def add (a b : Nat) : Except ArithmeticFault Nat :=
  if a + b < limit then .ok (a + b) else .error .addOverflow

def sub (a b : Nat) : Except ArithmeticFault Nat :=
  if b ≤ a then .ok (a - b) else .error .subtractOverflow

def mul (a b : Nat) : Except ArithmeticFault Nat :=
  if a * b < limit then .ok (a * b) else .error .multiplyOverflow

def div (a b : Nat) : Except ArithmeticFault Nat :=
  if b = 0 then .error .divideByZero else .ok (a / b)

def lowHalf (n : Nat) : Nat := n % halfLimit

def addHalf (a b : Nat) : Except ArithmeticFault Nat :=
  if a + b < halfLimit then .ok (a + b) else .error .addOverflow

theorem add_of_lt {a b : Nat} (h : a + b < limit) : add a b = .ok (a + b) := by simp [add, h]

theorem add_of_ge {a b : Nat} (h : limit ≤ a + b) : add a b = .error .addOverflow :=
  if_neg (Nat.not_lt.mpr h)

theorem sub_of_le {a b : Nat} (h : b ≤ a) : sub a b = .ok (a - b) := by simp [sub, h]

theorem mul_of_lt {a b : Nat} (h : a * b < limit) : mul a b = .ok (a * b) := by simp [mul, h]

theorem mul_of_ge {a b : Nat} (h : limit ≤ a * b) : mul a b = .error .multiplyOverflow :=
  if_neg (Nat.not_lt.mpr h)

theorem mul_eq_ok {a b n : Nat} : mul a b = .ok n ↔ a * b < limit ∧ n = a * b := by
  unfold mul
  split
  · next small => simp [small, eq_comm]
  · next large => simp [large]

theorem div_of_pos {a b : Nat} (h : 0 < b) : div a b = .ok (a / b) := by
  simp [div, Nat.ne_of_gt h]

theorem lowHalf_of_lt {n : Nat} (h : n < halfLimit) : lowHalf n = n := Nat.mod_eq_of_lt h

theorem addHalf_of_lt {a b : Nat} (h : a + b < halfLimit) : addHalf a b = .ok (a + b) := by
  simp [addHalf, h]

end Word

end DiskImage
