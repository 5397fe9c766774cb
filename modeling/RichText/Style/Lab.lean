import RichText.Style.Color

namespace RichText

/-- A colour in the CIE L*a*b* space, where distance follows perceived difference. -/
structure Lab where
  l : Float
  a : Float
  b : Float

namespace Lab

/-- Undoes the gamma of one sRGB channel. -/
def linear (channel : UInt8) : Float :=
  let c := channel.toFloat / 255.0
  if c <= 0.04045 then c / 12.92 else ((c + 0.055) / 1.055).pow 2.4

/-- The cube root, replaced near zero by its tangent. -/
def lightness (t : Float) : Float :=
  if t > 216.0 / 24389.0 then t.cbrt else (24389.0 / 27.0 * t + 16.0) / 116.0

/-- Coordinates under the D50 illuminant, of which sRGB's own white is adapted. -/
def ofColor (c : Color) : Lab :=
  let r := linear c.red
  let g := linear c.green
  let b := linear c.blue
  let x := 0.4360747 * r + 0.3850649 * g + 0.1430804 * b
  let y := 0.2225045 * r + 0.7168786 * g + 0.0606169 * b
  let z := 0.0139322 * r + 0.0971045 * g + 0.7141733 * b
  let fx := lightness (x / 0.96422)
  let fy := lightness (y / 1.0)
  let fz := lightness (z / 0.82521)
  ⟨116.0 * fy - 16.0, 500.0 * (fx - fy), 200.0 * (fy - fz)⟩

def distanceSq (p q : Lab) : Float :=
  let dl := p.l - q.l
  let da := p.a - q.a
  let db := p.b - q.b
  dl * dl + da * da + db * db

end Lab

namespace Color

def paletteLab : List Lab := palette.map fun e => Lab.ofColor e.2

def argMin (ds : List Float) : Nat :=
  let infinity : Float := 1.0 / 0.0
  (ds.zipIdx.foldl (fun best d => if d.1 < best.2 then (d.2, d.1) else best) (0, infinity)).1

def nearestIndex (c : Color) : Nat :=
  match palette.findIdx? (·.2.rgb = c.rgb) with
  | some i => i
  | none => argMin (paletteLab.map (Lab.ofColor c).distanceSq)

end Color

end RichText
