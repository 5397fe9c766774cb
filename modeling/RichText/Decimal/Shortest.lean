import RichText.Binary64

namespace RichText

open Binary64

structure Decimal where
  coefficient : Nat
  exponent : Int
  deriving DecidableEq

namespace Decimal

/-- The reals that round to one double, counted in units of `2 ^ -1076`. The two ends belong to it
exactly when `closed`. -/
structure Basin where
  low : Nat
  center : Nat
  high : Nat
  closed : Bool

/-- Below a power of two doubles are twice as dense, so there the lower half is half as wide. -/
def basin (x : Float) : Basin :=
  let m := mantissa x
  let step := 1 <<< scale x
  let below := if m = 1 <<< 52 ∧ 0 < scale x then step else 2 * step
  ⟨4 * m * step - below, 4 * m * step, 4 * m * step + 2 * step, m % 2 = 0⟩

/-- The multiple of `10 ^ g` nearest to the centre among its two neighbours that lie in the basin,
a tie going up. -/
def Basin.onGrid (b : Basin) (g : Int) : Option Decimal :=
  let num := Nat.pow 10 (-g).toNat
  let den := Nat.pow 10 g.toNat <<< (unitExponent + 2)
  let inside (c : Nat) : Bool :=
    if b.closed then b.low * num ≤ c * den ∧ c * den ≤ b.high * num
    else b.low * num < c * den ∧ c * den < b.high * num
  let c := b.center * num / den
  let nearer := if 2 * (b.center * num % den) < den then c else c + 1
  match inside c, inside (c + 1) with
  | true, true => some ⟨nearer, g⟩
  | true, false => some ⟨c, g⟩
  | false, true => some ⟨c + 1, g⟩
  | false, false => none

def gridAbove (x : Float) : Int :=
  ((magnitude x).log2 + 1 - unitExponent : Int) * 30103 / 100000 + 1

/-- The decimal of fewest digits that reads back as the positive finite double `x`. -/
def shortest (x : Float) : Decimal :=
  ((List.range 20).findSome? fun (k : Nat) => (basin x).onGrid (gridAbove x - k)).getD ⟨0, 0⟩

def digitChars (n : Nat) : List Char := Nat.toDigits 10 n

def padLeft (width : Nat) (c : Char) (cs : List Char) : List Char :=
  List.replicate (width - cs.length) c ++ cs

def positional (d : Decimal) : List Char :=
  if 0 ≤ d.exponent then digitChars d.coefficient ++ List.replicate d.exponent.toNat '0'
  else
    let places := (-d.exponent).toNat
    let cs := padLeft (places + 1) '0' (digitChars d.coefficient)
    cs.take (cs.length - places) ++ '.' :: cs.drop (cs.length - places)

def signText (x : Float) : String := if signBit x then "-" else ""

def specialText (x : Float) : String :=
  if isNaN x then "NaN" else signText x ++ "inf"

/-- Whole numbers below `10 ^ 15` keep one decimal place, all others have the fewest digits that
read back. -/
def floatText (x : Float) : String :=
  if !isFinite x then specialText x
  else if isIntegral x && wholePart x < Nat.pow 10 15 then
    signText x ++ String.ofList (digitChars (wholePart x)) ++ ".0"
  else signText x ++ String.ofList (shortest x).positional

end Decimal

end RichText
