import RefFrame.Json.Token

/-!
# Writing JSON text

`compact` writes the tokens of a tree one after the other. `pretty` writes one element or member a
line, indented by two spaces for each container around it.
-/

namespace RefFrame
namespace Json

mutual

def tokens : Json → List Token
  | .null => [.null]
  | .bool b => [.bool b]
  | .num n => [.num n]
  | .str s => [.str s.toList]
  | .arr es => .openArray :: elementTokens es ++ [.closeArray]
  | .obj ms => .openObject :: memberTokens ms ++ [.closeObject]

def elementTokens : List Json → List Token
  | [] => []
  | [e] => tokens e
  | e :: es => tokens e ++ .comma :: elementTokens es

def memberTokens : List (String × Json) → List Token
  | [] => []
  | [(k, v)] => .str k.toList :: .colon :: tokens v
  | (k, v) :: ms => .str k.toList :: .colon :: tokens v ++ .comma :: memberTokens ms

end

def compact (v : Json) : String :=
  String.ofList (v.tokens.flatMap Token.text)

def newLine (depth : Nat) : List Char :=
  '\n' :: List.replicate (2 * depth) ' '

mutual

/-- A tree inside a number of containers, one element or member a line. -/
def lines (depth : Nat) : Json → List Char
  | .null => Token.null.text
  | .bool b => (Token.bool b).text
  | .num n => numeral n
  | .str s => quoted s.toList
  | .arr [] => "[]".toList
  | .arr es => '[' :: elementLines (depth + 1) es ++ newLine depth ++ [']']
  | .obj [] => "\x7b\x7d".toList
  | .obj ms => '\x7b' :: memberLines (depth + 1) ms ++ newLine depth ++ ['\x7d']

def elementLines (depth : Nat) : List Json → List Char
  | [] => []
  | [e] => newLine depth ++ lines depth e
  | e :: es => newLine depth ++ lines depth e ++ ',' :: elementLines depth es

def memberLines (depth : Nat) : List (String × Json) → List Char
  | [] => []
  | [(k, v)] => newLine depth ++ quoted k.toList ++ ':' :: ' ' :: lines depth v
  | (k, v) :: ms =>
    newLine depth ++ quoted k.toList ++ ':' :: ' ' :: lines depth v ++ ',' :: memberLines depth ms

end

def pretty (v : Json) : String :=
  String.ofList (lines 0 v)

end Json
end RefFrame
