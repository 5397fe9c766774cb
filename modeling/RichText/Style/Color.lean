import RichText.Characters

namespace RichText

/-- A colour packed as `0xAARRGGBB`. -/
structure Color where
  argb : UInt32
  deriving DecidableEq, Inhabited

namespace Color

def ofRgb (rgb : UInt32) : Color := ⟨0xff000000 ||| (rgb &&& 0x00ffffff)⟩

def ofChannels (r g b : UInt8) : Color :=
  ofRgb (r.toUInt32 <<< 16 ||| g.toUInt32 <<< 8 ||| b.toUInt32)

def rgb (c : Color) : UInt32 := c.argb &&& 0x00ffffff

def alpha (c : Color) : UInt8 := (c.argb >>> 24).toUInt8

def red (c : Color) : UInt8 := (c.argb >>> 16).toUInt8

def green (c : Color) : UInt8 := (c.argb >>> 8).toUInt8

def blue (c : Color) : UInt8 := c.argb.toUInt8

def withAlpha (c : Color) (alpha : UInt8) : Color := ⟨alpha.toUInt32 <<< 24 ||| c.rgb⟩

/-- The sixteen named colours, each at the index that its one-digit code writes in hexadecimal. -/
def palette : List (String × Color) :=
  [("black", ofRgb 0x000000), ("dark_blue", ofRgb 0x0000AA), ("dark_green", ofRgb 0x00AA00),
   ("dark_aqua", ofRgb 0x00AAAA), ("dark_red", ofRgb 0xAA0000), ("dark_purple", ofRgb 0xAA00AA),
   ("gold", ofRgb 0xFFAA00), ("gray", ofRgb 0xAAAAAA), ("dark_gray", ofRgb 0x555555),
   ("blue", ofRgb 0x5555FF), ("green", ofRgb 0x55FF55), ("aqua", ofRgb 0x55FFFF),
   ("red", ofRgb 0xFF5555), ("light_purple", ofRgb 0xFF55FF), ("yellow", ofRgb 0xFFFF55),
   ("white", ofRgb 0xFFFFFF)]

def ofIndex? (i : Nat) : Option Color := palette[i]?.map (·.2)

def ofName? (name : String) : Option Color := palette.lookup name

def codeIndex? (c : Char) : Option Nat := Hexadecimal.digitValue? c

/-- Six digits are opaque, eight lead with the alpha channel. -/
def ofHex? (cs : List Char) : Option Color :=
  (Hexadecimal.ofDigits? cs).bind fun n =>
    if cs.length = 6 then some (ofRgb (.ofNat n))
    else if cs.length = 8 then some ⟨.ofNat n⟩
    else none

def canonicalName (name : String) : String :=
  if name = "grey" then "gray" else if name = "dark_grey" then "dark_gray" else name

def asciiLower (cs : List Char) : List Char := cs.map Char.toLower

/-- A code letter behind its marker, hexadecimal digits with an optional hash sign, or a name in
any case. A marker and one character are never tried as anything else. -/
def parseChars (cs : List Char) : Option Color :=
  match trimBlanks cs with
  | ['&', code] | ['§', code] => (codeIndex? code).bind ofIndex?
  | cs =>
    let digits := match cs with
      | '#' :: ds => ds
      | ds => ds
    (ofHex? digits).or (ofName? (canonicalName (String.ofList (asciiLower cs))))

def parse (s : String) : Option Color := parseChars s.toList

def toHex (c : Color) : String := String.ofList ('#' :: Hexadecimal.digits 6 c.rgb.toNat)

def text (c : Color) : String :=
  match palette.find? (·.2 = c) with
  | some (name, _) => name
  | none => c.toHex

end Color

end RichText
