import RefFrame.Decimal.Basic
import RefFrame.Decimal.Layout
import RefFrame.Json.Basic
import RefFrame.Json.Library

/-!
# The tokens of JSON text

JSON text is a sequence of tokens with blanks between them. A token is written by `Token.text` and
a text is cut into tokens by `Token.ofText?`, which is strict: no raw control character in a
string, no lone surrogate, no number with a leading zero.
-/

namespace RefFrame
namespace Json

/-- A token of JSON text. -/
inductive Token
  | openArray
  | closeArray
  | openObject
  | closeObject
  | comma
  | colon
  | null
  | bool (b : Bool)
  | num (n : Number)
  | str (s : List Char)
  deriving DecidableEq, Repr

/-! ## Writing -/

def hexDigit (n : Nat) : Char :=
  Nat.digitChar (n % 16)

/-- A character inside a written string: quote and backslash are escaped, as is every control
character below the space; all else stands as it is. -/
def escaped (c : Char) : List Char :=
  if c = '"' then ['\\', '"']
  else if c = '\\' then ['\\', '\\']
  else if c = '\n' then ['\\', 'n']
  else if c = '\r' then ['\\', 'r']
  else if c = '\t' then ['\\', 't']
  else if c.toNat = 0x08 then ['\\', 'b']
  else if c.toNat = 0x0c then ['\\', 'f']
  else if c.toNat < 0x20 then ['\\', 'u', '0', '0', hexDigit (c.toNat / 16), hexDigit c.toNat]
  else [c]

/-- A written string with its quotes. -/
def quoted (s : List Char) : List Char :=
  '"' :: s.flatMap escaped ++ ['"']

def numeral : Number → List Char
  | .int n => if n < 0 then '-' :: Text.digitsOf n.natAbs else Text.digitsOf n.natAbs
  | .float x => if x.isFinite then Decimal.Layout.json.float x else "null".toList

def Token.text : Token → List Char
  | .openArray => ['[']
  | .closeArray => [']']
  | .openObject => ['\x7b']
  | .closeObject => ['\x7d']
  | .comma => [',']
  | .colon => [':']
  | .null => "null".toList
  | .bool true => "true".toList
  | .bool false => "false".toList
  | .num n => numeral n
  | .str s => quoted s

/-! ## Reading -/

/-- The blanks of JSON: space, tab, line feed and carriage return. -/
def isBlank (c : Char) : Bool :=
  c = ' ' || c = '\t' || c = '\n' || c = '\r'

def hexValue? (c : Char) : Option Nat :=
  if c.isDigit then some (c.toNat - '0'.toNat)
  else if 'a' ≤ c ∧ c ≤ 'f' then some (c.toNat - 'a'.toNat + 10)
  else if 'A' ≤ c ∧ c ≤ 'F' then some (c.toNat - 'A'.toNat + 10)
  else none

def codeUnit? (a b c d : Char) : Option Nat := do
  let a ← hexValue? a
  let b ← hexValue? b
  let c ← hexValue? c
  let d ← hexValue? d
  some (((a * 16 + b) * 16 + c) * 16 + d)

def isLeading (u : Nat) : Bool :=
  0xd800 ≤ u && u < 0xdc00

def isTrailing (u : Nat) : Bool :=
  0xdc00 ≤ u && u < 0xe000

def shortEscape? (c : Char) : Option Char :=
  if c = '"' ∨ c = '\\' ∨ c = '/' then some c
  else if c = 'b' then some '\x08'
  else if c = 'f' then some '\x0c'
  else if c = 'n' then some '\n'
  else if c = 'r' then some '\r'
  else if c = 't' then some '\t'
  else none

/-- Reads the inside of a string up to its closing quote, as code points and halves of surrogate
pairs; `done` holds those read so far, the last one first. Answers them with what follows the
quote. -/
def spanUnits (done : List Nat) : List Char → Option (List Nat × List Char)
  | [] => none
  | '"' :: rest => some (done.reverse, rest)
  | '\\' :: 'u' :: a :: b :: c :: d :: rest =>
    match codeUnit? a b c d with
    | some u => spanUnits (u :: done) rest
    | none => none
  | '\\' :: c :: rest =>
    match shortEscape? c with
    | some c' => spanUnits (c'.toNat :: done) rest
    | none => none
  | c :: rest => if c.toNat < 0x20 ∨ c = '\\' then none else spanUnits (c.toNat :: done) rest

/-- Joins each pair of surrogate halves to the character it stands for; a half without its partner
is refused. -/
def joinUnits : List Nat → Option (List Char)
  | [] => some []
  | [u] => if isLeading u || isTrailing u then none else some [Char.ofNat u]
  | u :: v :: us =>
    if isLeading u then
      -- Only a trailing half right behind completes a pair.
      if isTrailing v then
        (joinUnits us).map (Char.ofNat (0x10000 + (u - 0xd800) * 0x400 + (v - 0xdc00)) :: ·)
      else none
    else if isTrailing u then none
    else (joinUnits (v :: us)).map (Char.ofNat u :: ·)

/-- Reads a string whose opening quote has been read. -/
def spanString (cs : List Char) : Option (List Char × List Char) := do
  let (units, rest) ← spanUnits [] cs
  let s ← joinUnits units
  some (s, rest)

def spanMinus : List Char → Bool × List Char
  | '-' :: cs => (true, cs)
  | cs => (false, cs)

/-- Reads the digits before the point: at least one, and no zero in front of others. -/
def spanWhole (cs : List Char) : Option (List Char × List Char) :=
  let (whole, rest) := Decimal.spanDigits cs
  if whole = [] ∨ (whole.head? = some '0' ∧ 1 < whole.length) then none else some (whole, rest)

/-- Reads a fraction: a point and at least one digit. Without a point there is none. -/
def spanFraction : List Char → Option (List Char × List Char)
  | '.' :: cs =>
    let (fraction, rest) := Decimal.spanDigits cs
    if fraction = [] then none else some (fraction, rest)
  | cs => some ([], cs)

/-- The number with the given written parts. Without fraction and exponent it is a whole number if
it fits, except that `-0` is a float. A float too big to be finite is refused. -/
def Number.ofParts? [JsonLibrary] (minus : Bool) (whole fraction : List Char)
    (exponent : Option Int) : Option Number :=
  -- `-0` has no whole number that keeps its sign.
  let size := Text.digitsValue whole
  let n : Int := if minus then -(size : Int) else size
  if fraction = [] ∧ exponent = none ∧ Number.fitsWord n ∧ ¬ (minus ∧ size = 0) then
    some (.int n)
  else
    let x := JsonLibrary.float minus whole fraction (exponent.getD 0)
    if x.isFinite then some (.float x) else none

/-- Reads a number: an optional minus, the digits before the point, an optional fraction and an
optional exponent. -/
def spanNumber [JsonLibrary] (cs : List Char) : Option (Number × List Char) := do
  let (minus, unsigned) := spanMinus cs
  let (whole, afterWhole) ← spanWhole unsigned
  let (fraction, afterFraction) ← spanFraction afterWhole
  let (exponent, rest) ← Decimal.spanExponent afterFraction
  let n ← Number.ofParts? minus whole fraction exponent
  some (n, rest)

def dropWord? (word cs : List Char) : Option (List Char) :=
  if word.isPrefixOf cs then some (cs.drop word.length) else none

/-- The first token of a text that begins with neither a blank nor the end. -/
def Token.span [JsonLibrary] (c : Char) (rest : List Char) : Option (Token × List Char) :=
  match c with
  | '[' => some (.openArray, rest)
  | ']' => some (.closeArray, rest)
  | '\x7b' => some (.openObject, rest)
  | '\x7d' => some (.closeObject, rest)
  | ',' => some (.comma, rest)
  | ':' => some (.colon, rest)
  | 'n' => (dropWord? "ull".toList rest).map fun tail => (.null, tail)
  | 't' => (dropWord? "rue".toList rest).map fun tail => (.bool true, tail)
  | 'f' => (dropWord? "alse".toList rest).map fun tail => (.bool false, tail)
  | '"' => (spanString rest).map fun (s, tail) => (.str s, tail)
  | c => (spanNumber (c :: rest)).map fun (n, tail) => (.num n, tail)

/-! ## What is left after reading -/

theorem length_spanUnits_le {cs rest : List Char} {done units : List Nat}
    (h : spanUnits done cs = some (units, rest)) : rest.length ≤ cs.length := by
  fun_induction spanUnits done cs with
  | case1 => simp at h
  | case2 => simp_all
  | case3 done a b c d tail u hu ih =>
    have := ih h
    simp only [List.length_cons]
    omega
  | case4 => simp at h
  | case5 done c tail _ c' hc ih =>
    have := ih h
    simp only [List.length_cons]
    omega
  | case6 => simp at h
  | case7 => simp at h
  | case8 =>
    rename_i ih
    have := ih h
    simp only [List.length_cons]
    omega

theorem length_spanString_le {cs rest s : List Char} (h : spanString cs = some (s, rest)) :
    rest.length ≤ cs.length := by
  simp only [spanString, Option.bind_eq_bind, Option.bind_eq_some_iff] at h
  obtain ⟨⟨units, tail⟩, hu, t, -, ht⟩ := h
  have := length_spanUnits_le hu
  simp_all

theorem length_spanMinus_le (cs : List Char) : (spanMinus cs).2.length ≤ cs.length := by
  unfold spanMinus
  split <;> simp

theorem length_spanWhole_lt {cs whole rest : List Char} (h : spanWhole cs = some (whole, rest)) :
    rest.length < cs.length := by
  unfold spanWhole at h
  have := @Decimal.length_spanDigits_lt cs
  grind

theorem length_spanFraction_le {cs fraction rest : List Char}
    (h : spanFraction cs = some (fraction, rest)) : rest.length ≤ cs.length := by
  unfold spanFraction at h
  split at h
  · rename_i cs
    have := Decimal.length_spanDigits_le cs
    grind
  · simp_all

theorem length_spanNumber_lt [JsonLibrary] {cs rest : List Char} {n : Number}
    (h : spanNumber cs = some (n, rest)) : rest.length < cs.length := by
  simp only [spanNumber, Option.bind_eq_bind, Option.bind_eq_some_iff] at h
  obtain ⟨⟨whole, r₁⟩, h₁, ⟨fraction, r₂⟩, h₂, ⟨exponent, r₃⟩, h₃, m, -, h₄⟩ := h
  have := length_spanMinus_le cs
  have := length_spanWhole_lt h₁
  have := length_spanFraction_le h₂
  have := Decimal.length_spanExponent_le h₃
  simp only [Option.some.injEq, Prod.mk.injEq] at h₄
  obtain ⟨-, rfl⟩ := h₄
  simp only at *
  omega

theorem length_dropWord?_le {word cs rest : List Char} (h : dropWord? word cs = some rest) :
    rest.length ≤ cs.length := by
  unfold dropWord? at h
  split at h
  · simp only [Option.some.injEq] at h
    subst h
    simp
  · simp at h

/-- A token takes at least the character it begins with. -/
theorem Token.length_span_le [JsonLibrary] {c : Char} {rest tail : List Char} {t : Token}
    (h : Token.span c rest = some (t, tail)) : tail.length ≤ rest.length := by
  unfold Token.span at h
  split at h
  · simp_all
  · simp_all
  · simp_all
  · simp_all
  · simp_all
  · simp_all
  · obtain ⟨a, ha, hb⟩ := Option.map_eq_some_iff.1 h
    have := length_dropWord?_le ha
    simp_all
  · obtain ⟨a, ha, hb⟩ := Option.map_eq_some_iff.1 h
    have := length_dropWord?_le ha
    simp_all
  · obtain ⟨a, ha, hb⟩ := Option.map_eq_some_iff.1 h
    have := length_dropWord?_le ha
    simp_all
  · obtain ⟨a, ha, hb⟩ := Option.map_eq_some_iff.1 h
    have := length_spanString_le ha
    simp_all
  · obtain ⟨a, ha, hb⟩ := Option.map_eq_some_iff.1 h
    have below := length_spanNumber_lt ha
    rw [Prod.mk.injEq] at hb
    rw [List.length_cons, hb.2] at below
    exact Nat.le_of_lt_succ below

end Json
end RefFrame
