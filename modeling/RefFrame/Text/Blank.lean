/-!
# White space

The characters with the Unicode property `White_Space`, and trimming a text of them. Names, zone
identifiers and numbers typed by hand arrive with stray blanks of every kind, so the whole property
counts and not only its ASCII part.
-/

namespace RefFrame
namespace Text

/-- The property `White_Space`: twenty-five characters, of which six are ASCII. -/
def isBlank (c : Char) : Bool :=
  let n := c.toNat
  (0x09 ≤ n && n ≤ 0x0d) || n == 0x20 || n == 0x85 || n == 0xa0 || n == 0x1680 ||
    (0x2000 ≤ n && n ≤ 0x200a) || n == 0x2028 || n == 0x2029 || n == 0x202f || n == 0x205f ||
    n == 0x3000

def trimmed (cs : List Char) : List Char :=
  ((cs.dropWhile isBlank).reverse.dropWhile isBlank).reverse

/-- `trimmed` on strings. -/
def trim (s : String) : String :=
  String.ofList (trimmed s.toList)

end Text
end RefFrame
