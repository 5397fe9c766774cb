namespace RichText

/-- The characters of the property `White_Space`. -/
def isBlank (c : Char) : Bool :=
  let n := c.toNat
  (0x09 ≤ n && n ≤ 0x0D) || n == 0x20 || n == 0x85 || n == 0xA0 || n == 0x1680 ||
    (0x2000 ≤ n && n ≤ 0x200A) || n == 0x2028 || n == 0x2029 || n == 0x202F || n == 0x205F ||
    n == 0x3000

def dropBlanks (cs : List Char) : List Char := cs.dropWhile isBlank

def dropBlanksEnd (cs : List Char) : List Char := (cs.reverse.dropWhile isBlank).reverse

def trimBlanks (cs : List Char) : List Char := dropBlanksEnd (dropBlanks cs)

/-- ASCII white space. Vertical tab is not among it, form feed is. -/
def isAsciiBlank (c : Char) : Bool :=
  c == ' ' || c == '\t' || c == '\n' || c == '\x0c' || c == '\r'

namespace Hexadecimal

/-- The value of a digit in either case. -/
def digitValue? (c : Char) : Option Nat :=
  if '0' ≤ c ∧ c ≤ '9' then some (c.toNat - '0'.toNat)
  else if 'a' ≤ c ∧ c ≤ 'f' then some (c.toNat - 'a'.toNat + 10)
  else if 'A' ≤ c ∧ c ≤ 'F' then some (c.toNat - 'A'.toNat + 10)
  else none

def ofDigits? (cs : List Char) : Option Nat :=
  cs.foldlM (fun n c => (digitValue? c).map (16 * n + ·)) 0

def lastDigit (n : Nat) : Char := (Nat.digitChar (n % 16)).toUpper

/-- The lowest `width` digits of a number, with zeros in front where it has fewer. -/
def digits : Nat → Nat → List Char
  | 0, _ => []
  | width + 1, n => digits width (n / 16) ++ [lastDigit n]

end Hexadecimal

end RichText
