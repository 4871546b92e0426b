import Mathlib.Data.List.Chain
import Mathlib.Data.List.TakeWhile
import RefFrame.Proofs.DatePattern.Compiled

/-!
# The grammar of patterns

A pattern is cut from left to right into pieces, each with the token that it stands for
(`DatePattern.Cuts`): quoted text, single characters that stand for themselves, and runs of one letter.
Where no piece can be cut off, a quote is not closed or a run is not known (`DatePattern.Offends`).

`DatePattern.compile_exact` says that compiling accepts what is cut to its end and names the first place
where nothing can be cut off otherwise, and that the tokens are those of the pieces, with neighbouring
texts joined (`DatePattern.Merged`).
-/

namespace RefFrame

/-- A token that is a piece of text. -/
def DateToken.IsLiteral : DateToken → Prop
  | .literal _ => True
  | _ => False

namespace DatePattern

/-! ## Pieces of a pattern -/

/-- A text as it stands between quotes: a quote in it is written twice. -/
def doubled (inside : List Char) : List Char :=
  inside.flatMap fun c => if c = quoteMark then [quoteMark, quoteMark] else [c]

/-- All there is of one letter at the front of a text, with `rest` behind it. -/
structure LetterRun (letter : Char) (run rest : List Char) : Prop where
  isAlpha : letter.isAlpha = true
  /-- The letter between date and time stands for itself. -/
  ne : letter ≠ 'T'
  some_letter : run ≠ []
  same : ∀ c ∈ run, c = letter
  ended : rest.head? ≠ some letter

/-- The letters of numbers in one or two digits. -/
inductive FieldLetter : Char → DateField → Prop
  | month : FieldLetter 'M' .month
  | day : FieldLetter 'd' .day
  | hour : FieldLetter 'H' .hour
  | clockHour : FieldLetter 'h' .clockHour
  | minute : FieldLetter 'm' .minute
  | second : FieldLetter 's' .second

/-- What a run of a letter stands for, by its length. -/
inductive RunToken : Char → Nat → DateToken → Prop
  | year : RunToken 'y' 4 (.number .year 4 4)
  | shortYear : RunToken 'y' 2 .shortYear
  | monthName : RunToken 'M' 3 .monthName
  | single {letter : Char} {field : DateField} :
      FieldLetter letter field → RunToken letter 1 (.number field 1 2)
  | double {letter : Char} {field : DateField} :
      FieldLetter letter field → RunToken letter 2 (.number field 2 2)
  | fraction {letter : Char} {count : Nat} :
      letter = 'S' ∨ letter = 'f' → 1 ≤ count → count ≤ 9 → RunToken letter count (.fraction count)
  | halfDay : RunToken 'a' 1 .halfDay
  | utc : RunToken 'Z' 1 .offset
  | offset {count : Nat} : count = 1 ∨ count = 3 → RunToken 'X' count .offset

/-- A piece at the front of a text, the token that it stands for, and what comes behind it. -/
inductive PieceText : List Char → DateToken → List Char → Prop
  | quote {rest : List Char} :
      PieceText [quoteMark, quoteMark] (.literal [quoteMark]) rest
  /-- Two quotes in front would be a piece by themselves, and two at the end would not close the text. -/
  | quoted {inside rest : List Char} :
      inside ≠ [] → inside.head? ≠ some quoteMark → rest.head? ≠ some quoteMark →
        PieceText (quoteMark :: (doubled inside ++ [quoteMark])) (.literal inside) rest
  | plain {c : Char} {rest : List Char} :
      c = 'T' ∨ c.isAlpha = false → c ≠ quoteMark → PieceText [c] (.literal [c]) rest
  | run {letter : Char} {run rest : List Char} {t : DateToken} :
      LetterRun letter run rest → RunToken letter run.length t → PieceText run t rest

/-- The front of a text is a row of pieces that stand for tokens, with `left` behind them. -/
inductive Cuts : List Char → List DateToken → List Char → Prop
  | nil {left : List Char} :
      Cuts [] [] left
  | cons {piece front left : List Char} {t : DateToken} {ts : List DateToken} :
      PieceText piece t (front ++ left) → Cuts front ts left → Cuts (piece ++ front) (t :: ts) left

/-- What is wrong with the rest of a pattern that begins at an index and does not begin with a piece. -/
inductive Offends (index : Nat) : List Char → String → Prop
  | unclosed {inside : List Char} :
      inside.head? ≠ some quoteMark →
        Offends index (quoteMark :: doubled inside)
          ("unterminated quoted literal at index " ++ toString index)
  | unknown {letter : Char} {run rest : List Char} :
      LetterRun letter run rest → (∀ t, ¬ RunToken letter run.length t) →
        Offends index (run ++ rest) ("unsupported pattern letters '" ++ String.ofList run ++ "'")

/-- Why a text is no pattern: there is nothing, or something is wrong behind the pieces in front. -/
inductive Malformed : List Char → String → Prop
  | empty :
      Malformed [] "pattern is empty"
  | behind {front left : List Char} {ts : List DateToken} {reason : String} :
      Cuts front ts left → Offends front.length left reason → Malformed (front ++ left) reason

/-- Each row of neighbouring texts has become one, and the other tokens are as they were. -/
inductive Merged : List DateToken → List DateToken → Prop
  | nil :
      Merged [] []
  | field {t : DateToken} {ts us : List DateToken} :
      ¬ t.IsLiteral → Merged ts us → Merged (t :: ts) (t :: us)
  | texts {parts : List (List Char)} {ts us : List DateToken} :
      parts ≠ [] → (∀ t ∈ ts.head?, ¬ t.IsLiteral) → Merged ts us →
        Merged (parts.map .literal ++ ts) (.literal parts.flatten :: us)

variable {letter : Char} {count total index : Nat} {field : DateField} {t : DateToken}
  {ts us : List DateToken} {cs piece front left inside run rest a : List Char}
  {parts : List (List Char)} {reason text : String} {p : DatePattern}

/-! ## Quoted text -/

theorem doubled_cons (c : Char) (cs : List Char) :
    doubled (c :: cs) = (if c = quoteMark then [quoteMark, quoteMark] else [c]) ++ doubled cs :=
  rfl

theorem spanQuoted_cons {c d : Char} (other : c ≠ quoteMark) :
    spanQuoted (c :: d :: cs) =
      (spanQuoted (d :: cs)).map fun (inside, rest) => (c :: inside, rest) := by
  rw [spanQuoted, if_neg other]

/-- Doubled quotes do not close a text. -/
theorem spanQuoted_doubled (inside : List Char) : spanQuoted (doubled inside) = none := by
  induction inside with
  | nil =>
      rfl
  | cons c inside ih =>
      rw [doubled_cons]
      by_cases quote : c = quoteMark
      · rw [if_pos quote, List.cons_append, List.cons_append, List.nil_append, spanQuoted]
        simp [ih]
      · rw [if_neg quote, List.singleton_append]
        cases later : doubled inside with
        | nil =>
            simp [spanQuoted, quote]
        | cons d ds =>
            rw [spanQuoted_cons quote, ← later, ih]
            rfl

theorem spanQuoted_closed (inside : List Char) (ended : rest.head? ≠ some quoteMark) :
    spanQuoted (doubled inside ++ quoteMark :: rest) = some (inside, rest) := by
  induction inside with
  | nil =>
      cases rest with
      | nil =>
          rfl
      | cons d rest =>
          have other : d ≠ quoteMark := fun same => ended (congrArg some same)
          simp [doubled, spanQuoted, other]
  | cons c inside ih =>
      rw [doubled_cons]
      by_cases quote : c = quoteMark
      · subst quote
        rw [if_pos rfl, List.append_assoc, List.cons_append, List.cons_append, List.nil_append,
          spanQuoted]
        simp [ih]
      · rw [if_neg quote, List.append_assoc, List.singleton_append]
        cases later : doubled inside ++ quoteMark :: rest with
        | nil =>
            simp at later
        | cons d ds =>
            rw [spanQuoted_cons quote, ← later, ih]
            rfl

/-- What comes behind a quote is closed somewhere, or all quotes in it are doubled. -/
theorem exists_doubled (cs : List Char) :
    (∃ inside rest, cs = doubled inside ++ quoteMark :: rest ∧ rest.head? ≠ some quoteMark) ∨
      ∃ inside, cs = doubled inside := by
  fun_induction spanQuoted cs with
  | case1 =>
      exact .inr ⟨[], rfl⟩
  | case2 =>
      exact .inl ⟨[], [], rfl, by decide⟩
  | case3 c other =>
      exact .inr ⟨[c], by simp [doubled, other]⟩
  | case4 cs ih =>
      rcases ih with ⟨inside, rest, rfl, ended⟩ | ⟨inside, rfl⟩
      · exact .inl ⟨quoteMark :: inside, rest, by simp [doubled_cons], ended⟩
      · exact .inr ⟨quoteMark :: inside, by simp [doubled_cons]⟩
  | case5 d cs other =>
      exact .inl ⟨[], d :: cs, rfl, fun same => other (Option.some.inj same)⟩
  | case6 c d cs other ih =>
      rcases ih with ⟨inside, rest, later, ended⟩ | ⟨inside, later⟩
      · exact .inl ⟨c :: inside, rest, by simp [doubled_cons, other, later], ended⟩
      · exact .inr ⟨c :: inside, by simp [doubled_cons, other, later]⟩

/-! ## Runs of a letter -/

theorem numberToken?_eq_some :
    numberToken? field count = some t ↔
      count = 1 ∧ t = .number field 1 2 ∨ count = 2 ∧ t = .number field 2 2 := by
  unfold numberToken?
  split
  · rename_i one
    simp [one, eq_comm]
  · rename_i other
    split
    · rename_i two
      simp [two, eq_comm]
    · rename_i other'
      simp [other, other']

theorem letterToken?_of_runToken (h : RunToken letter count t) : letterToken? letter count = some t := by
  cases h with
  | single field =>
      cases field <;> rfl
  | double field =>
      cases field <;> rfl
  | fraction letter some_digit few =>
      rcases letter with rfl | rfl <;> simp [letterToken?, few]
  | offset known =>
      simp [letterToken?, known]
  | _ =>
      rfl

theorem runToken_of_number (known : FieldLetter letter field) (h : numberToken? field count = some t) :
    RunToken letter count t := by
  rcases numberToken?_eq_some.1 h with ⟨rfl, rfl⟩ | ⟨rfl, rfl⟩
  · exact .single known
  · exact .double known

theorem runToken_of_letterToken? (some_letter : 0 < count) (h : letterToken? letter count = some t) :
    RunToken letter count t := by
  unfold letterToken? at h
  -- One case for each letter, in the order of the definition.
  split at h
  · split at h
    · rename_i four
      cases h
      exact four ▸ .year
    · split at h
      · rename_i two
        cases h
        exact two ▸ .shortYear
      · cases h
  · split at h
    · rename_i three
      cases h
      exact three ▸ .monthName
    · exact runToken_of_number .month h
  · exact runToken_of_number .day h
  · exact runToken_of_number .hour h
  · exact runToken_of_number .clockHour h
  · exact runToken_of_number .minute h
  · exact runToken_of_number .second h
  · split at h
    · rename_i few
      cases h
      exact .fraction (.inl rfl) some_letter few
    · cases h
  · split at h
    · rename_i few
      cases h
      exact .fraction (.inr rfl) some_letter few
    · cases h
  · split at h
    · rename_i one
      cases h
      exact one ▸ .halfDay
    · cases h
  · split at h
    · rename_i one
      cases h
      exact one ▸ .utc
    · cases h
  · split at h
    · rename_i known
      cases h
      exact .offset known
    · cases h
  · cases h

namespace LetterRun

theorem length_pos (h : LetterRun letter run rest) : 0 < run.length :=
  List.length_pos_iff.2 h.some_letter

theorem ne_quoteMark (h : LetterRun letter run rest) : letter ≠ quoteMark := by
  rintro rfl
  cases h.isAlpha

theorem not_isPlain (h : LetterRun letter run rest) : isPlain letter = false := by
  simp [isPlain, h.isAlpha, h.ne]

/-- The pieces of a text that begins with a run. -/
theorem piecesOf_append (h : LetterRun letter run rest) (total : Nat) :
    piecesOf total (run ++ rest) = .run letter run.length :: piecesOf total rest := by
  rcases List.exists_cons_of_ne_nil h.some_letter with ⟨c, run', rfl⟩
  rcases List.forall_mem_cons.1 h.same with ⟨rfl, same⟩
  have all : ∀ d ∈ run', decide (d = c) = true := fun d mem => decide_eq_true (same d mem)
  -- The run goes no further, as the rest begins with something else.
  have stop : rest.takeWhile (· = c) = [] ∧ rest.dropWhile (· = c) = rest := by
    cases rest with
    | nil =>
        exact ⟨rfl, rfl⟩
    | cons d rest =>
        have other : d ≠ c := fun same => h.ended (congrArg some same)
        simp [other]
  have front : (run' ++ rest).takeWhile (· = c) = run' := by
    rw [List.takeWhile_append_of_pos all, stop.1, List.append_nil]
  have behind : (run' ++ rest).dropWhile (· = c) = rest := by
    rw [List.dropWhile_append_of_pos all, stop.2]
  rw [List.cons_append, piecesOf, if_neg h.ne_quoteMark, if_neg (Bool.eq_false_iff.1 h.not_isPlain),
    front, behind, List.length_cons, Nat.add_comm]

theorem token_eq_ok (h : LetterRun letter run rest) :
    (Piece.run letter run.length).token = .ok t ↔ RunToken letter run.length t := by
  constructor
  · intro known
    apply runToken_of_letterToken? h.length_pos
    rw [Piece.token] at known
    split at known
    · rename_i found
      rw [found, Except.ok.inj known]
    · cases known
  · intro known
    rw [Piece.token, letterToken?_of_runToken known]

theorem eq_replicate (h : LetterRun letter run rest) : run = List.replicate run.length letter :=
  List.eq_replicate_iff.2 ⟨rfl, h.same⟩

end LetterRun

/-! ## Cutting off a piece -/

/-- A piece is cut off by itself, whatever the length of the whole pattern. -/
theorem PieceText.exists_piece (h : PieceText piece t rest) :
    ∃ cut : Piece, cut.token = .ok t ∧
      ∀ total, piecesOf total (piece ++ rest) = cut :: piecesOf total rest := by
  cases h with
  | quote =>
      refine ⟨.text [quoteMark], rfl, fun total => ?_⟩
      rw [List.cons_append, piecesOf, if_pos rfl]
      rfl
  | @quoted inside rest some_text other ended =>
      refine ⟨.text inside, rfl, fun total => ?_⟩
      have begins : (doubled inside ++ quoteMark :: rest).head? ≠ some quoteMark := by
        rcases List.exists_cons_of_ne_nil some_text with ⟨c, cs, rfl⟩
        have noQuote : c ≠ quoteMark := fun same => other (congrArg some same)
        simp [doubled_cons, noQuote]
      have closed := spanQuoted_closed inside ended
      rw [List.cons_append, List.append_assoc, List.singleton_append, piecesOf, if_pos rfl,
        if_neg begins]
      split
      · rename_i unclosed
        rw [closed] at unclosed
        cases unclosed
      · rename_i inside' rest' found
        rw [closed] at found
        cases found
        rfl
  | @plain c rest plain other =>
      refine ⟨.text [c], rfl, fun total => ?_⟩
      have itself : isPlain c = true := by
        simpa [isPlain] using plain
      rw [List.singleton_append, piecesOf, if_neg other, if_pos itself]
  | run whole known =>
      exact ⟨_, whole.token_eq_ok.2 known, whole.piecesOf_append⟩

/-- Where a pattern offends, its pieces come to an end with a fault. -/
theorem Offends.exists_fault (h : Offends index left reason) :
    ∃ cut cuts fault, piecesOf (index + left.length) left = cut :: cuts ∧
      cut.token = .error fault ∧ fault.message = reason := by
  cases h with
  | @unclosed inside other =>
      have begins : (doubled inside).head? ≠ some quoteMark := by
        cases inside with
        | nil =>
            exact nofun
        | cons c inside =>
            have noQuote : c ≠ quoteMark := fun same => other (congrArg some same)
            simp [doubled_cons, noQuote]
      refine ⟨.unclosed index, [], .unclosedQuote index, ?_, rfl, rfl⟩
      rw [piecesOf, if_pos rfl, if_neg begins]
      split
      · rw [List.length_cons, Nat.add_sub_cancel]
      · rename_i inside' rest found
        rw [spanQuoted_doubled] at found
        cases found
  | @unknown letter run rest whole unknown =>
      refine ⟨_, _, .unknownRun letter run.length, whole.piecesOf_append _, ?_, ?_⟩
      · cases found : letterToken? letter run.length with
        | none =>
            rw [Piece.token, found]
        | some t =>
            exact absurd (runToken_of_letterToken? whole.length_pos found) (unknown t)
      · exact congrArg (fun cs => "unsupported pattern letters '" ++ String.ofList cs ++ "'")
          whole.eq_replicate.symm

theorem exists_letterRun (some_letter : letter.isAlpha = true) (ne : letter ≠ 'T') (cs : List Char) :
    ∃ run rest, letter :: cs = run ++ rest ∧ LetterRun letter run rest := by
  refine ⟨(letter :: cs).takeWhile (· = letter), (letter :: cs).dropWhile (· = letter),
    List.takeWhile_append_dropWhile.symm, some_letter, ne, ?_, ?_, ?_⟩
  · simp
  · intro c mem
    simpa using List.mem_takeWhile_imp mem
  · intro same
    have stopped := List.head?_dropWhile_not (· = letter) (letter :: cs)
    rw [same] at stopped
    simp at stopped

/-- A text begins with a piece, or with what offends. -/
theorem exists_pieceText (some_char : cs ≠ []) :
    (∃ piece t rest, cs = piece ++ rest ∧ piece ≠ [] ∧ PieceText piece t rest) ∨
      ∀ index, ∃ reason, Offends index cs reason := by
  rcases List.exists_cons_of_ne_nil some_char with ⟨c, cs, rfl⟩
  by_cases quote : c = quoteMark
  · subst quote
    by_cases second : cs.head? = some quoteMark
    · rcases List.head?_eq_some_iff.1 second with ⟨rest, rfl⟩
      exact .inl ⟨_, _, rest, rfl, List.cons_ne_nil _ _, .quote⟩
    · -- The first character behind the quote is the first one of the text.
      have other : ∀ inside after, cs = doubled inside ++ after → inside.head? ≠ some quoteMark := by
        rintro inside after rfl begins
        rcases List.head?_eq_some_iff.1 begins with ⟨inside, rfl⟩
        exact second (by simp [doubled_cons])
      rcases exists_doubled cs with ⟨inside, rest, rfl, ended⟩ | ⟨inside, rfl⟩
      · have some_text : inside ≠ [] := by
          rintro rfl
          exact second rfl
        refine .inl ⟨quoteMark :: (doubled inside ++ [quoteMark]), _, rest, by simp,
          List.cons_ne_nil _ _, .quoted some_text (other inside _ rfl) ended⟩
      · refine .inr fun index => ⟨_, .unclosed (other inside [] ?_)⟩
        rw [List.append_nil]
  · by_cases plain : c = 'T' ∨ c.isAlpha = false
    · exact .inl ⟨[c], _, cs, rfl, List.cons_ne_nil _ _, .plain plain quote⟩
    · rw [not_or, Bool.not_eq_false] at plain
      rcases exists_letterRun plain.2 plain.1 cs with ⟨run, rest, whole_text, whole⟩
      rw [whole_text]
      by_cases known : ∃ t, RunToken c run.length t
      · rcases known with ⟨t, known⟩
        exact .inl ⟨run, t, rest, rfl, whole.some_letter, .run whole known⟩
      · exact .inr fun index => ⟨_, .unknown whole (not_exists.1 known)⟩

/-! ## Cutting a pattern -/

theorem Cuts.exists_pieces (h : Cuts front ts left) :
    ∃ cuts : List Piece, cuts.mapM Piece.token = .ok ts ∧
      ∀ total, piecesOf total (front ++ left) = cuts ++ piecesOf total left := by
  induction h with
  | nil =>
      exact ⟨[], rfl, fun total => rfl⟩
  | @cons piece front left t ts first later ih =>
      rcases first.exists_piece with ⟨cut, token, here⟩
      rcases ih with ⟨cuts, tokens, behind⟩
      refine ⟨cut :: cuts, ?_, fun total => ?_⟩
      · rw [List.mapM_cons, token, tokens]
        rfl
      · rw [List.append_assoc, here, behind, List.cons_append]

/-- Every text is cut to its end, or up to a place where it offends. -/
theorem exists_cuts (cs : List Char) :
    (∃ ts, Cuts cs ts []) ∨
      ∃ front ts left, cs = front ++ left ∧ Cuts front ts left ∧
        ∀ index, ∃ reason, Offends index left reason := by
  -- The induction is on the length, as a piece may have any number of characters.
  induction length : cs.length using Nat.strongRecOn generalizing cs with
  | ind n ih =>
      by_cases empty : cs = []
      · exact .inl ⟨[], empty ▸ .nil⟩
      · rcases exists_pieceText empty with ⟨piece, t, rest, rfl, some_char, first⟩ | offends
        · have shorter : rest.length < n := by
            have positive := List.length_pos_iff.2 some_char
            rw [List.length_append] at length
            omega
          rcases ih _ shorter rest rfl with ⟨ts, whole⟩ | ⟨front, ts, left, rfl, cut, offends⟩
          · exact .inl ⟨t :: ts, .cons (by rwa [List.append_nil]) whole⟩
          · exact .inr ⟨piece ++ front, t :: ts, left, (List.append_assoc _ _ _).symm,
              .cons first cut, offends⟩
        · exact .inr ⟨[], [], cs, rfl, .nil, offends⟩

/-! ## Joining texts -/

theorem joinToken_of_not_isLiteral (field : ¬ t.IsLiteral) : joinToken t us = t :: us := by
  cases t with
  | literal a =>
      exact absurd trivial field
  | _ =>
      rfl

theorem joinToken_literal (other : ∀ t ∈ us.head?, ¬ t.IsLiteral) :
    joinToken (.literal a) us = .literal a :: us := by
  rcases us with _ | ⟨t, us⟩
  · rfl
  · cases t with
    | literal b =>
        exact absurd trivial (other _ rfl)
    | _ =>
        rfl

/-- What is merged begins with a text if and only if the tokens do. -/
theorem Merged.head (h : Merged ts us) (other : ∀ t ∈ ts.head?, ¬ t.IsLiteral) :
    ∀ t ∈ us.head?, ¬ t.IsLiteral := by
  cases h with
  | nil =>
      exact nofun
  | field field later =>
      exact other
  | @texts parts ts us some_part apart later =>
      rcases List.exists_cons_of_ne_nil some_part with ⟨a, parts, rfl⟩
      exact absurd trivial (other _ rfl)

theorem foldr_joinToken_literals (some_part : parts ≠ []) (other : ∀ t ∈ us.head?, ¬ t.IsLiteral) :
    (parts.map DateToken.literal).foldr joinToken us = .literal parts.flatten :: us := by
  induction parts with
  | nil =>
      exact absurd rfl some_part
  | cons a parts ih =>
      cases parts with
      | nil =>
          rw [List.flatten_singleton]
          exact joinToken_literal other
      | cons b parts =>
          rw [List.map_cons, List.foldr_cons, ih (List.cons_ne_nil _ _), List.flatten_cons]
          rfl

/-- There is only one way to merge. -/
theorem Merged.eq_foldr (h : Merged ts us) : us = ts.foldr joinToken [] := by
  induction h with
  | nil =>
      rfl
  | field field later ih =>
      rw [List.foldr_cons, ← ih, joinToken_of_not_isLiteral field]
  | texts some_part apart later ih =>
      rw [List.foldr_append, ← ih, foldr_joinToken_literals some_part (later.head apart)]

/-- A text that has no text beside it is left alone. -/
theorem Merged.alone (apart : ∀ t ∈ ts.head?, ¬ t.IsLiteral) (later : Merged ts us) :
    Merged (.literal a :: ts) (.literal a :: us) := by
  have single := Merged.texts (List.cons_ne_nil a []) apart later
  rwa [List.flatten_singleton] at single

theorem Merged.joinToken (h : Merged ts us) (t : DateToken) : Merged (t :: ts) (joinToken t us) := by
  cases t with
  | literal a =>
      cases h with
      | nil =>
          exact .alone nofun .nil
      | @field t ts us field later =>
          have apart : ∀ t' ∈ (t :: us).head?, ¬ t'.IsLiteral := by
            simpa using field
          rw [joinToken_literal apart]
          exact .alone apart (.field field later)
      | @texts parts ts us some_part apart later =>
          exact .texts (List.cons_ne_nil a parts) apart later
  | _ =>
      exact .field id h

theorem merged_foldr (ts : List DateToken) : Merged ts (ts.foldr joinToken []) := by
  induction ts with
  | nil =>
      exact .nil
  | cons t ts ih =>
      exact ih.joinToken t

/-- No text is left beside another one. -/
theorem Merged.isChain (h : Merged ts us) :
    us.IsChain fun t t' => ¬ (t.IsLiteral ∧ t'.IsLiteral) := by
  induction h with
  | nil =>
      exact .nil
  | field field later ih =>
      exact ih.cons fun t' _ both => field both.1
  | texts some_part apart later ih =>
      exact ih.cons fun t' next both => later.head apart t' next both.2

/-! ## Compiling -/

theorem Cuts.eq_nil (h : Cuts front [] left) : front = [] := by
  cases h
  rfl

theorem toList_ne_nil (some_char : text ≠ "") : text.toList ≠ [] := by
  rwa [ne_eq, String.toList_eq_nil_iff]

theorem compile_of_cuts (some_char : text ≠ "") (cut : Cuts text.toList ts []) (merged : Merged ts us) :
    compile text = .ok ⟨us⟩ := by
  rcases cut.exists_pieces with ⟨cuts, tokens, pieces⟩
  have whole : piecesOf text.toList.length text.toList = cuts := by
    simpa [piecesOf] using pieces text.toList.length
  refine compile_eq_ok.2 ⟨ts, ?_, ?_, ?_⟩
  · rw [whole, tokens]
  · rintro rfl
    exact toList_ne_nil some_char cut.eq_nil
  · rw [merged.eq_foldr]

theorem compile_of_malformed (h : Malformed cs reason) (same : text.toList = cs) :
    ∃ fault, compile text = .error fault ∧ fault.message = reason := by
  cases h with
  | empty =>
      obtain rfl := String.toList_eq_nil_iff.1 same
      exact ⟨.empty, by decide +kernel, rfl⟩
  | @behind front left ts reason cut offends =>
      rcases cut.exists_pieces with ⟨cuts, tokens, pieces⟩
      rcases offends.exists_fault with ⟨piece, later, fault, rest, wrong, named⟩
      refine ⟨fault, ?_, named⟩
      have whole : piecesOf text.toList.length text.toList = cuts ++ piece :: later := by
        rw [same, pieces, List.length_append, rest]
      -- The first fault comes up before anything behind it is looked at.
      have stopped : (cuts ++ piece :: later).mapM Piece.token = .error fault := by
        rw [List.mapM_append, tokens, List.mapM_cons, wrong]
        rfl
      simp only [compile, whole, stopped]
      rfl

/-- A text is cut to its end, or there is something wrong with it. -/
theorem cuts_or_malformed (cs : List Char) :
    (cs ≠ [] ∧ ∃ ts, Cuts cs ts []) ∨ ∃ reason, Malformed cs reason := by
  by_cases empty : cs = []
  · subst empty
    exact .inr ⟨_, .empty⟩
  · rcases exists_cuts cs with whole | ⟨front, ts, left, rfl, cut, offends⟩
    · exact .inl ⟨empty, whole⟩
    · rcases offends front.length with ⟨reason, wrong⟩
      exact .inr ⟨reason, .behind cut wrong⟩

theorem compile_eq_ok_iff :
    compile text = .ok p ↔ text ≠ "" ∧ ∃ ts, Cuts text.toList ts [] ∧ Merged ts p.tokens := by
  constructor
  · intro compiled
    rcases cuts_or_malformed text.toList with ⟨some_char, ts, whole⟩ | ⟨reason, malformed⟩
    · have some_char' : text ≠ "" := mt String.toList_eq_nil_iff.2 some_char
      have done := compile_of_cuts some_char' whole (merged_foldr ts)
      rw [compiled] at done
      obtain rfl := Except.ok.inj done
      exact ⟨some_char', ts, whole, merged_foldr ts⟩
    · rcases compile_of_malformed malformed rfl with ⟨fault, refused, -⟩
      cases compiled.symm.trans refused
  · rintro ⟨some_char, ts, whole, merged⟩
    exact compile_of_cuts some_char whole merged

theorem exists_compile_iff :
    (∃ p, compile text = .ok p) ↔ text ≠ "" ∧ ∃ ts, Cuts text.toList ts [] := by
  constructor
  · rintro ⟨p, compiled⟩
    rcases compile_eq_ok_iff.1 compiled with ⟨some_char, ts, whole, -⟩
    exact ⟨some_char, ts, whole⟩
  · rintro ⟨some_char, ts, whole⟩
    exact ⟨_, compile_of_cuts some_char whole (merged_foldr ts)⟩

theorem exists_compile_error_iff :
    (∃ fault, compile text = .error fault ∧ fault.message = reason) ↔
      Malformed text.toList reason := by
  constructor
  · rintro ⟨fault, refused, rfl⟩
    rcases cuts_or_malformed text.toList with ⟨some_char, whole⟩ | ⟨reason, malformed⟩
    · have some_char' : text ≠ "" := mt String.toList_eq_nil_iff.2 some_char
      rcases exists_compile_iff.2 ⟨some_char', whole⟩ with ⟨p, compiled⟩
      cases refused.symm.trans compiled
    · rcases compile_of_malformed malformed rfl with ⟨fault', refused', rfl⟩
      obtain rfl := Except.error.inj (refused.symm.trans refused')
      exact malformed
  · intro malformed
    exact compile_of_malformed malformed rfl

/-- Compiling accepts exactly the texts that are not empty and are cut into pieces to their end. Else it
names the first run that is not known or the place of the quote that is not closed, whichever comes first.
The tokens are those of the pieces with neighbouring texts joined, so that no text stands beside another
one and none is empty. -/
theorem compile_exact (text : String) :
    ((∃ p, compile text = .ok p) ↔ text ≠ "" ∧ ∃ ts, Cuts text.toList ts []) ∧
      (∀ reason, (∃ fault, compile text = .error fault ∧ fault.message = reason) ↔
        Malformed text.toList reason) ∧
      (∀ p, compile text = .ok p ↔
        text ≠ "" ∧ ∃ ts, Cuts text.toList ts [] ∧ Merged ts p.tokens) ∧
      ∀ p, compile text = .ok p →
        (p.tokens.IsChain fun t t' => ¬ (t.IsLiteral ∧ t'.IsLiteral)) ∧
          ∀ a, .literal a ∈ p.tokens → a ≠ [] := by
  refine ⟨exists_compile_iff, fun reason => exists_compile_error_iff, fun p => compile_eq_ok_iff, ?_⟩
  intro p compiled
  rcases compile_eq_ok_iff.1 compiled with ⟨-, ts, -, merged⟩
  refine ⟨merged.isChain, ?_⟩
  intro a mem
  cases proper_compile compiled _ mem with
  | literal some_text =>
      exact some_text

/-- The tokens of the pieces of a pattern with quotes in and out of quoted text. -/
def clockPieces : List DateToken :=
  [.literal ['o', '\x27', 'c'], .literal [' '], .number .clockHour 1 2, .literal ['\x27'], .literal ['T'],
    .halfDay]

theorem malformed_yearAndRun :
    Malformed "yyyyQQ'".toList
      ("unsupported pattern letters '" ++ String.ofList ['Q', 'Q'] ++ "'") := by
  have year : LetterRun 'y' ['y', 'y', 'y', 'y'] ['Q', 'Q', '\x27'] :=
    ⟨rfl, by decide, List.cons_ne_nil _ _, by simp, by decide⟩
  have run : LetterRun 'Q' ['Q', 'Q'] ['\x27'] :=
    ⟨rfl, by decide, List.cons_ne_nil _ _, by simp, by decide⟩
  have unknown (t : DateToken) : ¬ RunToken 'Q' 2 t := by
    intro known
    cases letterToken?_of_runToken known
  exact .behind (.cons (.run year .year) .nil) (.unknown run unknown)

theorem cuts_clock : Cuts "'o''c' h''Ta".toList clockPieces [] := by
  have quoted : PieceText "'o''c'".toList (.literal ['o', '\x27', 'c']) " h''Ta".toList :=
    .quoted (List.cons_ne_nil 'o' ['\x27', 'c']) (by decide) (by decide)
  have hour : LetterRun 'h' ['h'] "''Ta".toList :=
    ⟨rfl, by decide, List.cons_ne_nil _ _, by simp, by decide⟩
  have half : LetterRun 'a' ['a'] [] :=
    ⟨rfl, by decide, List.cons_ne_nil _ _, by simp, nofun⟩
  exact .cons quoted (.cons (.plain (.inr rfl) (by decide)) (.cons (.run hour (.single .clockHour))
    (.cons .quote (.cons (.plain (.inl rfl) (by decide)) (.cons (.run half .halfDay) .nil)))))

/-- Of an unknown run and an open quote behind it the run is named. -/
theorem compile_exact_clock :
    compile "'o''c' h''Ta" = .ok ⟨[.literal ['o', '\x27', 'c', ' '], .number .clockHour 1 2,
        .literal ['\x27', 'T'], .halfDay]⟩ ∧
      DateToken.literal [] ∉ [.literal ['o', '\x27', 'c', ' '], .number .clockHour 1 2,
        .literal ['\x27', 'T'], .halfDay] ∧
      ∃ fault, compile "yyyyQQ'" = .error fault ∧
        fault.message = "unsupported pattern letters '" ++ String.ofList ['Q', 'Q'] ++ "'" := by
  rcases compile_exact "'o''c' h''Ta" with ⟨-, -, tokens, texts⟩
  have compiled := (tokens _).2 ⟨by decide, clockPieces, cuts_clock, merged_foldr clockPieces⟩
  exact ⟨compiled, fun mem => (texts _ compiled).2 [] mem rfl,
    ((compile_exact "yyyyQQ'").2.1 _).2 malformed_yearAndRun⟩

end DatePattern
end RefFrame
