/-!
# The shortest digits of a float

A finite positive float stands for `m * 2 ^ q`, and for an interval of reals around it: those that
round to it. Its text is the decimal with the fewest digits in that interval and, of several, the
one nearest to the float. Everything here is exact arithmetic on natural numbers.
-/

namespace RefFrame
namespace Decimal

/-- The positive number `mantissa * 2 ^ exponent`, as a binary float holds it. -/
structure Binary where
  mantissa : Nat
  exponent : Int
  /-- The float just below is only half as far away as the one just above. -/
  lowerGapHalved : Bool
  deriving DecidableEq, Repr

/-- The leading bit of a mantissa, which the bit pattern leaves out: the fifty-third. -/
def hiddenBit : Nat := 0x10000000000000

/-- The parts of the magnitude of a finite float, from its bit pattern. -/
def Binary.ofBits (bits : UInt64) : Binary :=
  let field : Nat := bits.toNat / hiddenBit % 0x800
  let fraction : Nat := bits.toNat % hiddenBit
  -- The least exponent has no hidden bit, and its floats are evenly spaced.
  if field = 0 then ⟨fraction, -1074, false⟩
  -- Below a power of two the spacing is half of that above, except below the least normal one.
  else ⟨hiddenBit + fraction, (field : Int) - 1075, fraction = 0 ∧ 1 < field⟩

/-- A quotient of natural numbers. -/
structure Ratio where
  num : Nat
  den : Nat

/-- `n * b ^ e` as a quotient. -/
def Ratio.scaled (n b : Nat) (e : Int) : Ratio :=
  if 0 ≤ e then ⟨n * Nat.pow b e.toNat, 1⟩ else ⟨n, Nat.pow b (-e).toNat⟩

/-- Comparison of two quotients by cross multiplication. -/
def Ratio.blt (x y : Ratio) : Bool :=
  x.num * y.den < y.num * x.den

/-- Comparison of two quotients by cross multiplication. -/
def Ratio.ble (x y : Ratio) : Bool :=
  x.num * y.den ≤ y.num * x.den

def Binary.value (b : Binary) : Ratio :=
  Ratio.scaled b.mantissa 2 b.exponent

/-- The lower end of the interval of reals that round to the float. -/
def Binary.lowerEnd (b : Binary) : Ratio :=
  if b.lowerGapHalved then Ratio.scaled (4 * b.mantissa - 1) 2 (b.exponent - 2)
  else Ratio.scaled (2 * b.mantissa - 1) 2 (b.exponent - 1)

/-- The upper end of the interval of reals that round to the float. -/
def Binary.upperEnd (b : Binary) : Ratio :=
  Ratio.scaled (2 * b.mantissa + 1) 2 (b.exponent - 1)

/-- Whether a real rounds to the float. Ties go to the even mantissa, so the ends of the interval
belong to it exactly when the mantissa is even. -/
def Binary.contains (b : Binary) (x : Ratio) : Bool :=
  if b.mantissa % 2 = 0 then b.lowerEnd.ble x && x.ble b.upperEnd
  else b.lowerEnd.blt x && x.blt b.upperEnd

/-- The number `k` with `10 ^ (k - 1) ≤ x < 10 ^ k`, for a positive quotient. -/
def Ratio.magnitude (x : Ratio) : Int :=
  if x.den ≤ x.num then (Nat.toDigits 10 (x.num / x.den)).length
  else
    -- The inverse lies between two powers of ten, and may be the lower one itself.
    let places := (Nat.toDigits 10 (x.den / x.num)).length
    if x.den ≤ x.num * Nat.pow 10 (places - 1) then 2 - places else 1 - places

/-- Decimal digits with a power of ten: `digits * 10 ^ exponent`. -/
structure Digits where
  digits : Nat
  exponent : Int
  deriving DecidableEq, Repr

def Digits.value (d : Digits) : Ratio :=
  Ratio.scaled d.digits 10 d.exponent

/-- The multiple of `10 ^ e` at or below a quotient. -/
def Ratio.below (x : Ratio) (e : Int) : Digits where
  digits :=
    if 0 ≤ e then x.num / (x.den * Nat.pow 10 e.toNat)
    else x.num * Nat.pow 10 (-e).toNat / x.den
  exponent := e

/-- Of the two neighbours of a float on the grid of the multiples of `10 ^ e`, the one that rounds
to it. If both do, the nearer one, and the even one if they are equally near. -/
def Binary.onGrid (b : Binary) (e : Int) : Option Digits :=
  -- Zero is never a text of a positive float, so a lower neighbour of zero is passed over.
  let low := b.value.below e
  let high : Digits := ⟨low.digits + 1, e⟩
  match low.digits != 0 && b.contains low.value, b.contains high.value with
  | false, false => none
  | true, false => some low
  | false, true => some high
  | true, true =>
    let middle := Ratio.scaled (10 * low.digits + 5) 10 (e - 1)
    if b.value.blt middle then some low
    else if middle.blt b.value then some high
    else if low.digits % 2 = 0 then some low else some high

/-- The fewest digits that round to the float: grids of one digit, two digits and so on, up to the
seventeen that always suffice. -/
def Binary.shortest (b : Binary) : Digits :=
  let k := b.value.magnitude
  match (List.range 17).findSome? fun (n : Nat) => b.onGrid (k - 1 - n) with
  | some d => d
  | none => b.value.below (k - 17)

/-- Digits without trailing zeros; `fuel` bounds their number. -/
def Digits.trimmedWith : Nat → Digits → Digits
  | 0, d => d
  | fuel + 1, d =>
    if d.digits ≠ 0 ∧ d.digits % 10 = 0 then trimmedWith fuel ⟨d.digits / 10, d.exponent + 1⟩
    else d

/-- Digits without trailing zeros. -/
def Digits.trimmed (d : Digits) : Digits :=
  d.trimmedWith d.digits.log2

end Decimal
end RefFrame
