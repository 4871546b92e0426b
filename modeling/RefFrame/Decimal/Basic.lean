import RefFrame.Text.Ascii

/-!
# Decimal numbers

A decimal number is a sign, a whole significand and a power of ten. This module reads the tail
that all written numbers share (fraction digits, exponent) and turns a decimal number into the
nearest binary float, which is exact rounding to nearest with ties to even.
-/

namespace RefFrame

/-- The number `significand * 10 ^ exponent`, negated when `negative`. -/
structure Decimal where
  negative : Bool
  significand : Nat
  exponent : Int
  deriving DecidableEq, Repr

namespace Decimal

/-- The nearest float. A negative zero keeps its sign, and a number too big becomes infinite. -/
def toFloat (d : Decimal) : Float :=
  let magnitude := Float.ofScientific d.significand (d.exponent < 0) d.exponent.natAbs
  if d.negative then -magnitude else magnitude

/-! ## Reading -/

/-- The longest run of digits in front, and what follows it. -/
def spanDigits (cs : List Char) : List Char × List Char :=
  (cs.takeWhile Char.isDigit, cs.dropWhile Char.isDigit)

/-- Splits off a sign; the flag says whether it is a minus. -/
def spanSign : List Char → Bool × List Char
  | '-' :: cs => (true, cs)
  | '+' :: cs => (false, cs)
  | cs => (false, cs)

/-- Reads an exponent: `e` or `E`, an optional sign and at least one digit. A text that does not
begin with the letter has none; a letter without digits after it is refused. -/
def spanExponent (cs : List Char) : Option (Option Int × List Char) :=
  match cs with
  | [] => some (none, [])
  | c :: rest =>
    if c = 'e' ∨ c = 'E' then
      let (minus, digitsOn) := spanSign rest
      let (digits, tail) := spanDigits digitsOn
      if digits = [] then none
      else
        let size : Int := Text.digitsValue digits
        some (some (if minus then -size else size), tail)
    else some (none, c :: rest)

/-- A decimal number from its digits before and after the point and its written exponent. -/
def ofParts (negative : Bool) (whole fraction : List Char) (exponent : Int) : Decimal where
  negative := negative
  significand := Text.digitsValue (whole ++ fraction)
  exponent := exponent - fraction.length

/-- Reads a number as people type it: an optional sign, digits with an optional point (at least one
digit in all, on either side of the point), an optional exponent, and nothing else. -/
def ofText? (cs : List Char) : Option Decimal := do
  let (minus, unsigned) := spanSign cs
  let (whole, afterWhole) := spanDigits unsigned
  let (fraction, afterFraction) :=
    match afterWhole with
    | '.' :: rest => spanDigits rest
    | rest => ([], rest)
  if whole = [] ∧ fraction = [] then none
  else
    let (exponent, tail) ← spanExponent afterFraction
    if tail = [] then some (ofParts minus whole fraction (exponent.getD 0)) else none

/-! ## What is left after reading -/

theorem length_spanDigits_le (cs : List Char) : (spanDigits cs).2.length ≤ cs.length := by
  simpa [spanDigits] using (List.dropWhile_sublist Char.isDigit).length_le

theorem length_spanDigits_lt {cs : List Char} (h : (spanDigits cs).1 ≠ []) :
    (spanDigits cs).2.length < cs.length := by
  have split := congrArg List.length (List.takeWhile_append_dropWhile (p := Char.isDigit) (l := cs))
  have := List.length_pos_iff.2 h
  simp only [List.length_append] at split
  simp only [spanDigits] at this ⊢
  omega

theorem length_spanSign_le (cs : List Char) : (spanSign cs).2.length ≤ cs.length := by
  unfold spanSign
  split <;> simp

theorem length_spanExponent_le {cs tail : List Char} {e : Option Int}
    (h : spanExponent cs = some (e, tail)) : tail.length ≤ cs.length := by
  unfold spanExponent at h
  split at h
  · simp_all
  · rename_i c rest
    split at h
    · have sign := length_spanSign_le rest
      have digits := length_spanDigits_le (spanSign rest).2
      grind
    · simp_all

end Decimal
end RefFrame
