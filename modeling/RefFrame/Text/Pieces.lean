/-!
# Pieces of a text

A text is cut at each occurrence of a character. There is always a first piece, and the character is
in none of them.
-/

namespace RefFrame
namespace Text

/-- The pieces of a text between the occurrences of a character: the first one and the others. -/
def pieces (mark : Char) : List Char → List Char × List (List Char)
  | [] => ([], [])
  | c :: cs =>
    let (piece, more) := pieces mark cs
    if c = mark then ([], piece :: more) else (c :: piece, more)

end Text
end RefFrame
