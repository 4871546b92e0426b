import RefFrame.DatePattern.Basic

/-!
# Compiling patterns

The text of a pattern is cut into pieces: quoted text, single characters that stand for
themselves, and runs of one letter. Each run is a token if its letter and its length are known, and
neighbouring pieces of text become one token. Of several faults the leftmost counts.
-/

namespace RefFrame
namespace DatePattern

/-- A piece of the text of a pattern. -/
inductive Piece
  | text (cs : List Char)
  | run (letter : Char) (count : Nat)
  /-- A quote without its partner, by its index; nothing follows. -/
  | unclosed (index : Nat)
  deriving DecidableEq, Repr

def quoteMark : Char := '\x27'

/-- Reads quoted text up to its closing quote, where two quotes stand for one. Answers the text and
what follows the closing quote. -/
def spanQuoted : List Char → Option (List Char × List Char)
  | [] => none
  | [c] => if c = quoteMark then some ([], []) else none
  | c :: d :: cs =>
    if c = quoteMark then
      if d = quoteMark then (spanQuoted cs).map fun (inside, rest) => (quoteMark :: inside, rest)
      else some ([], d :: cs)
    else (spanQuoted (d :: cs)).map fun (inside, rest) => (c :: inside, rest)

/-- Whether a character stands for itself outside of quotes: all but the ASCII letters, and the
letter that divides date and time. -/
def isPlain (c : Char) : Bool :=
  c == 'T' || !c.isAlpha

theorem length_spanQuoted_lt {cs inside rest : List Char}
    (h : spanQuoted cs = some (inside, rest)) : rest.length < cs.length := by
  fun_induction spanQuoted cs generalizing inside with
  | case1 => simp at h
  | case2 => simp_all
  | case3 => simp at h
  | case4 cs ih =>
    obtain ⟨⟨i, r⟩, hi, hr⟩ := Option.map_eq_some_iff.1 h
    simp only [Prod.mk.injEq] at hr
    obtain ⟨-, rfl⟩ := hr
    have := ih hi
    simp only [List.length_cons] at this ⊢
    omega
  | case5 => simp_all
  | case6 c d cs _ ih =>
    obtain ⟨⟨i, r⟩, hi, hr⟩ := Option.map_eq_some_iff.1 h
    simp only [Prod.mk.injEq] at hr
    obtain ⟨-, rfl⟩ := hr
    have := ih hi
    simp only [List.length_cons] at this ⊢
    omega

/-- The pieces of the rest of a pattern that is `total` characters long. Two quotes at the beginning
of a piece are one quote. -/
def piecesOf (total : Nat) (cs : List Char) : List Piece :=
  match cs with
  | [] => []
  | c :: rest =>
    if c = quoteMark then
      -- Two quotes at the beginning of a piece are not an empty quotation.
      if rest.head? = some quoteMark then .text [quoteMark] :: piecesOf total rest.tail
      else
        match h : spanQuoted rest with
        -- What is left is the quote and the rest.
        | none => [.unclosed (total - (rest.length + 1))]
        | some (inside, after) =>
          have : after.length < rest.length := length_spanQuoted_lt h
          .text inside :: piecesOf total after
    else if isPlain c then .text [c] :: piecesOf total rest
    else
      have : (rest.dropWhile (· = c)).length ≤ rest.length :=
        (List.dropWhile_sublist _).length_le
      .run c (1 + (rest.takeWhile (· = c)).length) :: piecesOf total (rest.dropWhile (· = c))
termination_by cs.length
decreasing_by all_goals simp_all <;> omega

/-- A numeric field whose letter alone takes one or two digits, and doubled exactly two. -/
def numberToken? (field : DateField) (count : Nat) : Option DateToken :=
  if count = 1 then some (.number field 1 2)
  else if count = 2 then some (.number field 2 2)
  else none

def letterToken? (letter : Char) (count : Nat) : Option DateToken :=
  match letter with
  | 'y' =>
    if count = 4 then some (.number .year 4 4) else if count = 2 then some .shortYear else none
  | 'M' => if count = 3 then some .monthName else numberToken? .month count
  | 'd' => numberToken? .day count
  | 'H' => numberToken? .hour count
  | 'h' => numberToken? .clockHour count
  | 'm' => numberToken? .minute count
  | 's' => numberToken? .second count
  | 'S' | 'f' => if count ≤ 9 then some (.fraction count) else none
  | 'a' => if count = 1 then some .halfDay else none
  | 'Z' => if count = 1 then some .offset else none
  | 'X' => if count = 1 ∨ count = 3 then some .offset else none
  | _ => none

def Piece.token : Piece → Except PatternFault DateToken
  | .text cs => .ok (.literal cs)
  | .run letter count =>
    match letterToken? letter count with
    | some t => .ok t
    | none => .error (.unknownRun letter count)
  | .unclosed index => .error (.unclosedQuote index)

/-- Puts a token in front, joined to the next one if both are text. -/
def joinToken : DateToken → List DateToken → List DateToken
  | .literal a, .literal b :: ts => .literal (a ++ b) :: ts
  | t, ts => t :: ts

def compile (text : String) : Except PatternFault DatePattern := do
  let cs := text.toList
  let tokens ← (piecesOf cs.length cs).mapM Piece.token
  if tokens = [] then throw .empty
  return ⟨tokens.foldr joinToken []⟩

end DatePattern
end RefFrame
