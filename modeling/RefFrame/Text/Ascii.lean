/-!
# ASCII letters, digits and byte lengths

Keywords are compared without regard to the case of ASCII letters, numbers are written with ASCII
digits, and places inside a text are counted in bytes of UTF-8. Not every such place lies between two
characters, so a text cannot be cut at each of them.
-/

namespace RefFrame
namespace Text

/-- A text with its ASCII capitals made small; no other letter has a case here. -/
def lowered (cs : List Char) : List Char :=
  cs.map Char.toLower

def sameLetters (a b : List Char) : Bool :=
  lowered a == lowered b

/-- The value of a run of decimal digits, the first the most significant. -/
def digitsValue (cs : List Char) : Nat :=
  cs.foldl (fun n c => 10 * n + (c.toNat - '0'.toNat)) 0

/-- The decimal digits of a number, without leading zeros. -/
def digitsOf (n : Nat) : List Char :=
  Nat.toDigits 10 n

/-- The decimal digits of a number, filled up with zeros on the left to at least `width`. -/
def paddedDigits (width n : Nat) : List Char :=
  let ds := digitsOf n
  List.replicate (width - ds.length) '0' ++ ds

def byteLength (cs : List Char) : Nat :=
  cs.foldl (fun n c => n + c.utf8Size) 0

/-- Cuts a text behind so many bytes, unless it is shorter or the cut would go through a character. -/
def cutAt? : Nat → List Char → Option (List Char × List Char)
  | 0, cs => some ([], cs)
  | _ + 1, [] => none
  | n + 1, c :: cs =>
    if n + 1 < c.utf8Size then none
    else (cutAt? (n + 1 - c.utf8Size) cs).map fun (front, rest) => (c :: front, rest)

end Text
end RefFrame
