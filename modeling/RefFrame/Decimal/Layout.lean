import RefFrame.Decimal.Shortest
import RefFrame.Text.Ascii

/-!
# How digits are laid out

Which digits a float has is settled by `Decimal.Shortest`; this module settles where the point
stands, when an exponent is written, and how the special values read. Every such decision is a
field of `Layout`, and `Layout.json` is the choice for JSON text.
-/

namespace RefFrame
namespace Decimal

/-- The decisions of a float format. A number is `0.d₁d₂… * 10 ^ k`. -/
structure Layout where
  /-- The least `k` that is written without an exponent. -/
  leastPlain : Int
  /-- The greatest `k` that is written without an exponent. -/
  greatestPlain : Int
  /-- The end of a whole number written without an exponent. -/
  wholeSuffix : List Char
  /-- The mark of the exponent. -/
  exponentMark : Char
  /-- The sign of an exponent that is not negative. -/
  plusSign : List Char

namespace Layout

/-- JSON text: plain notation from `0.00001` up to sixteen digits before the point, always with a
point or an exponent, and exponents always signed. -/
def json : Layout where
  leastPlain := -4
  greatestPlain := 16
  wholeSuffix := ['.', '0']
  exponentMark := 'e'
  plusSign := ['+']

def exponent (l : Layout) (x : Int) : List Char :=
  l.exponentMark :: (if x < 0 then ['-'] else l.plusSign) ++ Text.digitsOf x.natAbs

/-- The text of `digits * 10 ^ exponent`, a positive number without trailing zeros in its digits. -/
def positive (l : Layout) (d : Digits) : List Char :=
  let ds := Text.digitsOf d.digits
  let k : Int := ds.length + d.exponent
  if l.leastPlain ≤ k ∧ k ≤ l.greatestPlain then
    if k ≤ 0 then '0' :: '.' :: List.replicate (-k).toNat '0' ++ ds
    else if d.exponent < 0 then ds.take k.toNat ++ '.' :: ds.drop k.toNat
    else ds ++ List.replicate d.exponent.toNat '0' ++ l.wholeSuffix
  else
    let point := if ds.length ≤ 1 then [] else ['.']
    ds.take 1 ++ point ++ ds.drop 1 ++ l.exponent (k - 1)

/-- The text of a finite float. -/
def float (l : Layout) (x : Float) : List Char :=
  let b := Binary.ofBits x.toBits
  let sign := if 0x8000000000000000 ≤ x.toBits.toNat then ['-'] else []
  let magnitude :=
    if b.mantissa = 0 then '0' :: l.wholeSuffix else l.positive b.shortest.trimmed
  sign ++ magnitude

end Layout
end Decimal
end RefFrame
