import RichText.Binary64

namespace RichText.Decimal

open Binary64

def digitValue (c : Char) : Nat := c.toNat - '0'.toNat

def ofDigits (cs : List Char) : Nat :=
  cs.foldl (fun n c => 10 * n + digitValue c) 0

/-- An optional sign, `true` for minus, and what follows it. -/
def splitSign : List Char → Bool × List Char
  | '-' :: cs => (true, cs)
  | '+' :: cs => (false, cs)
  | cs => (false, cs)

def integer? (cs : List Char) : Option Int :=
  let (negative, ds) := splitSign cs
  if ds ≠ [] ∧ ds.all Char.isDigit then
    some (if negative then -(ofDigits ds : Int) else ofDigits ds)
  else none

def int64? (cs : List Char) : Option Int64 :=
  (integer? cs).bind fun n =>
    if Int64.minValue.toInt ≤ n ∧ n ≤ Int64.maxValue.toInt then some (.ofInt n) else none

/-- The exponent part of a numeral, nothing meaning zero. -/
def exponent? : List Char → Option Int
  | [] => some 0
  | c :: cs => if c = 'e' ∨ c = 'E' then integer? cs else none

/-- The double nearest to `coefficient * 10 ^ exponent`. Past four hundred places on either side
the answer is infinity or zero, and the power is not computed. -/
def toFloat (negative : Bool) (coefficient : Nat) (exponent : Int) : Float :=
  let lead : Int := (Nat.toDigits 10 coefficient).length + exponent
  if coefficient = 0 ∨ lead < -400 then assemble negative 0 0
  else if 400 < lead then assemble negative 0 2047
  else ofRatio negative (coefficient * Nat.pow 10 exponent.toNat) (Nat.pow 10 (-exponent).toNat)

/-- Decimal digits with an optional sign, point and exponent, and a digit on at least one side of
the point. -/
def float? (cs : List Char) : Option Float :=
  let (negative, cs) := splitSign cs
  let whole := cs.takeWhile Char.isDigit
  let cs := cs.dropWhile Char.isDigit
  let (fraction, cs) := match cs with
    | '.' :: cs => (cs.takeWhile Char.isDigit, cs.dropWhile Char.isDigit)
    | cs => ([], cs)
  if whole ++ fraction = [] then none
  else (exponent? cs).map fun e =>
    toFloat negative (ofDigits (whole ++ fraction)) (e - fraction.length)

end RichText.Decimal
