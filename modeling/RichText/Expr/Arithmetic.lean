import RichText.Value.Coercion

namespace RichText

def power (base : Int64) (n : Nat) : Int64 :=
  if _ : n = 0 then 1
  else
    let half := power (base * base) (n / 2)
    if n % 2 = 1 then base * half else half
termination_by n
decreasing_by omega

def maxExponent : Nat := 0xFFFFFFFF

/-- A negative exponent goes through floating point, one above `maxExponent` counts as that. -/
def intPower (base exponent : Int64) : Int64 :=
  if exponent < 0 then
    Binary64.toInt64 ((Binary64.ofInt base.toInt).pow (Binary64.ofInt exponent.toInt))
  else power base (min exponent.toInt.toNat maxExponent)

/-- Wraps around, and division by zero gives the dividend back. -/
def intArith (op : Op) (x y : Int64) : Int64 :=
  match op with
  | .add => x + y
  | .sub => x - y
  | .mul => x * y
  | .div => if y = 0 then x else x / y
  | .rem => if y = 0 then x else x % y
  | .pow => intPower x y
  | _ => 0

def floatArith (op : Op) (x y : Float) : Float :=
  match op with
  | .add => x + y
  | .sub => x - y
  | .mul => x * y
  | .div => if y == 0 then x else x / y
  | .rem => if y == 0 then x else Binary64.remainder x y
  | .pow => x.pow y
  | _ => 0

namespace Number

def arith (op : Op) : Number → Number → Value
  | .int x, .int y => .int (intArith op x y)
  | a, b => .float (floatArith op a.toFloat b.toFloat)

/-- No order holds between a NaN and anything. -/
def compareFloat (x y : Float) : Option Ordering := do
  let m ← Binary64.units? x
  let n ← Binary64.units? y
  return compare m n

def order : Number → Number → Option Ordering
  | .int x, .int y => some (compare x.toInt y.toInt)
  | a, b => compareFloat a.toFloat b.toFloat

end Number

end RichText
