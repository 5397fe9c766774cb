namespace RichText.Binary64

/-- Magnitudes are counted in units of the smallest positive double, `2 ^ -1074`, so that every
finite double is a natural number of them. -/
def unitExponent : Nat := 1074

def exponentField (x : Float) : Nat := (x.toBits.toNat >>> 52) % (1 <<< 11)

def fractionField (x : Float) : Nat := x.toBits.toNat % (1 <<< 52)

def signBit (x : Float) : Bool := x.toBits.toNat >>> 63 == 1

def isFinite (x : Float) : Bool := exponentField x != 2047

def isNaN (x : Float) : Bool := exponentField x == 2047 && fractionField x != 0

/-- The exponent `e` in the reading `mantissa * 2 ^ e` of a finite double's magnitude. -/
def scale (x : Float) : Nat := exponentField x - 1

def mantissa (x : Float) : Nat :=
  if exponentField x = 0 then fractionField x else (1 <<< 52) + fractionField x

def magnitude (x : Float) : Nat := mantissa x <<< scale x

/-- What orders the doubles: the signed number of units. It is beyond all others for an infinity,
and a NaN has none. -/
def units? (x : Float) : Option Int :=
  if isNaN x then none else some (if signBit x then -(magnitude x : Int) else magnitude x)

/-- The double with a given sign whose significand is `m`, counted in steps of `2 ^ e` units. A
significand that has grown to `2 ^ 53` carries into the exponent, and one past the largest finite
double gives infinity. -/
def assemble (negative : Bool) (m e : Nat) : Float :=
  let bits := min ((e <<< 52) + m) (2047 <<< 52)
  Float.ofBits (UInt64.ofNat (if negative then bits + (1 <<< 63) else bits))

def stepExponent (units : Nat) : Nat := units.log2 - 52

def ofMagnitude (negative : Bool) (units : Nat) : Float :=
  let e := stepExponent units
  assemble negative (units >>> e) e

def divNearestEven (num den : Nat) : Nat :=
  let q := num / den
  let twice := 2 * (num % den)
  if twice < den then q else if den < twice then q + 1 else q + q % 2

/-- The double nearest to `num / den`, ties to even. -/
def ofRatio (negative : Bool) (num den : Nat) : Float :=
  let num := num <<< unitExponent
  let e := stepExponent (num / den)
  assemble negative (divNearestEven num (den <<< e)) e

def ofInt (n : Int) : Float := ofRatio (n < 0) n.natAbs 1

/-- A double without its fraction, or the nearer end of the range where it lies outside. A NaN gives
zero. -/
def toInt64 (x : Float) : Int64 :=
  (units? x).elim 0 fun units => .ofIntClamp (units.tdiv (1 <<< unitExponent))

def isIntegral (x : Float) : Bool := isFinite x && magnitude x % (1 <<< unitExponent) == 0

def wholePart (x : Float) : Nat := magnitude x >>> unitExponent

def fractionPart (x : Float) : Nat := magnitude x % (1 <<< unitExponent)

def hasFraction (x : Float) : Bool := isFinite x && fractionPart x != 0

def ofWhole (negative : Bool) (n : Nat) : Float := ofMagnitude negative (n <<< unitExponent)

/-- The whole double next to `x` on the side of zero, or `x` itself if it has no fraction. -/
def truncate (x : Float) : Float :=
  if hasFraction x then ofWhole (signBit x) (wholePart x) else x

def expand (x : Float) : Float :=
  if hasFraction x then ofWhole (signBit x) (wholePart x + 1) else x

def floor (x : Float) : Float := if signBit x then expand x else truncate x

def ceil (x : Float) : Float := if signBit x then truncate x else expand x

/-- Whether `x` lies midway between two whole numbers. -/
def isTie (x : Float) : Bool := isFinite x && 2 * fractionPart x == 1 <<< unitExponent

/-- The nearest whole double, for a tie the one away from zero. -/
def round (x : Float) : Float :=
  if 2 * fractionPart x < 1 <<< unitExponent then truncate x else expand x

/-- The even one of the whole doubles next to a tie. A zero has no sign here. -/
def evenNeighbour (x : Float) : Float :=
  let n := wholePart x + wholePart x % 2
  ofWhole (signBit x && n != 0) n

def notANumber : Float := 0 / 0

/-- The exact remainder of a division whose quotient is rounded toward zero. It takes the sign of
the dividend. -/
def remainder (x y : Float) : Float :=
  if isNaN x || isNaN y || !isFinite x || magnitude y == 0 then notANumber
  else if !isFinite y then x
  else ofMagnitude (signBit x) (magnitude x % magnitude y)

end RichText.Binary64
