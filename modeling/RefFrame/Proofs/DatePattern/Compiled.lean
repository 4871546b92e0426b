import RefFrame.DatePattern.Compile
import RefFrame.Proofs.Fallible

/-!
# What patterns compile to

The tokens of a compiled pattern are of a few kinds only (`DateToken.Proper`): no text is empty, no
number has other widths than its letters ask for, and no fraction is finer than a billionth.

A letter that is put behind a pattern is compiled by itself, unless a run of that letter ends the pattern
(`piecesOf_append`).
-/

namespace RefFrame

/-- The tokens that the pieces of a pattern stand for. -/
inductive DateToken.Proper : DateToken → Prop
  | literal {text : List Char} : text ≠ [] → Proper (.literal text)
  | short {field : DateField} : field ≠ .year → Proper (.number field 1 2)
  | full {field : DateField} : field ≠ .year → Proper (.number field 2 2)
  | year : Proper (.number .year 4 4)
  | shortYear : Proper .shortYear
  | monthName : Proper .monthName
  | fraction {digits : Nat} : 0 < digits → digits ≤ 9 → Proper (.fraction digits)
  | halfDay : Proper .halfDay
  | offset : Proper .offset

namespace DatePattern

variable {letter c : Char} {count total total' : Nat} {field : DateField} {t : DateToken}
  {ts ts' : List DateToken} {cs rest inside after xs : List Char} {piece : Piece} {text : String}
  {p : DatePattern}

/-! ## Pieces -/

/-- Text that is not empty, or a letter that is there. -/
def Piece.Proper : Piece → Prop
  | .text cs => cs ≠ []
  | .run _ count => 0 < count
  | .unclosed _ => True

/-- Quoted text is not empty, as two quotes in a row do not begin any. -/
theorem ne_nil_of_spanQuoted (h : spanQuoted cs = some (inside, after))
    (other : cs.head? ≠ some quoteMark) : inside ≠ [] := by
  unfold spanQuoted at h
  split at h
  · cases h
  · split at h
    · rename_i c quote
      exact absurd (congrArg some quote) other
    · cases h
  · split at h
    · rename_i c d cs quote
      exact absurd (congrArg some quote) other
    · rcases Option.map_eq_some_iff.1 h with ⟨⟨inside', after'⟩, -, same⟩
      simp only [Prod.mk.injEq] at same
      rcases same with ⟨rfl, -⟩
      exact List.cons_ne_nil _ _

theorem proper_piecesOf (total : Nat) (cs : List Char) : ∀ piece ∈ piecesOf total cs, piece.Proper := by
  -- One case for each kind of piece that may stand in front.
  fun_induction piecesOf total cs with
  | case1 =>
      simp
  | case2 rest quotes ih =>
      exact List.forall_mem_cons.2 ⟨List.cons_ne_nil _ _, ih⟩
  | case3 rest other unclosed =>
      exact List.forall_mem_singleton.2 trivial
  | case4 rest other inside after quoted shorter ih =>
      exact List.forall_mem_cons.2 ⟨ne_nil_of_spanQuoted quoted other, ih⟩
  | case5 c rest noQuote plain ih =>
      exact List.forall_mem_cons.2 ⟨List.cons_ne_nil _ _, ih⟩
  | case6 c rest noQuote letter shorter ih =>
      exact List.forall_mem_cons.2 ⟨Nat.add_pos_left Nat.one_pos _, ih⟩

/-! ## Tokens -/

theorem proper_numberToken? (other : field ≠ .year) (h : numberToken? field count = some t) :
    t.Proper := by
  unfold numberToken? at h
  split at h
  · cases h
    exact .short other
  · split at h
    · cases h
      exact .full other
    · cases h

theorem proper_letterToken? (positive : 0 < count) (h : letterToken? letter count = some t) :
    t.Proper := by
  unfold letterToken? at h
  -- One case for each letter, in the order of the definition.
  split at h
  · split at h
    · cases h
      exact .year
    · split at h
      · cases h
        exact .shortYear
      · cases h
  · split at h
    · cases h
      exact .monthName
    · exact proper_numberToken? (by decide) h
  · exact proper_numberToken? (by decide) h
  · exact proper_numberToken? (by decide) h
  · exact proper_numberToken? (by decide) h
  · exact proper_numberToken? (by decide) h
  · exact proper_numberToken? (by decide) h
  · split at h
    · rename_i few
      cases h
      exact .fraction positive few
    · cases h
  · split at h
    · rename_i few
      cases h
      exact .fraction positive few
    · cases h
  · split at h
    · cases h
      exact .halfDay
    · cases h
  · split at h
    · cases h
      exact .offset
    · cases h
  · split at h
    · cases h
      exact .offset
    · cases h
  · cases h

theorem proper_token (proper : piece.Proper) (h : piece.token = .ok t) : t.Proper := by
  cases piece with
  | text cs =>
      cases h
      exact .literal proper
  | run letter count =>
      cases found : letterToken? letter count with
      | none =>
          simp [Piece.token, found] at h
      | some t' =>
          simp only [Piece.token, found, Except.ok.injEq] at h
          exact h ▸ proper_letterToken? proper found
  | unclosed index =>
      cases h

theorem proper_joinToken (head : t.Proper) (tail : ∀ t ∈ ts, t.Proper) :
    ∀ t' ∈ joinToken t ts, t'.Proper := by
  -- A literal may swallow the literal behind it, which makes it no shorter.
  unfold joinToken
  split
  · rename_i a b ts
    cases head with
    | literal some_text =>
        have joined : a ++ b ≠ [] := by simp [some_text]
        exact List.forall_mem_cons.2 ⟨.literal joined, (List.forall_mem_cons.1 tail).2⟩
  · exact List.forall_mem_cons.2 ⟨head, tail⟩

theorem proper_foldr_joinToken (h : ∀ t ∈ ts, t.Proper) : ∀ t ∈ ts.foldr joinToken [], t.Proper := by
  induction ts with
  | nil =>
      exact h
  | cons t ts ih =>
      rcases List.forall_mem_cons.1 h with ⟨head, tail⟩
      exact proper_joinToken head (ih tail)

theorem compile_eq_ok :
    compile text = .ok p ↔
      ∃ ts, (piecesOf text.toList.length text.toList).mapM Piece.token = .ok ts ∧ ts ≠ [] ∧
        p = ⟨ts.foldr joinToken []⟩ := by
  simp only [compile, bind_ok_iff, guard_ok_iff, pure_ok_iff]
  constructor
  · rintro ⟨ts, tokens, some_token, rfl⟩
    exact ⟨ts, tokens, some_token, rfl⟩
  · rintro ⟨ts, tokens, some_token, rfl⟩
    exact ⟨ts, tokens, some_token, rfl⟩

/-- Every token of a compiled pattern is proper. -/
theorem proper_compile (h : compile text = .ok p) : ∀ t ∈ p.tokens, t.Proper := by
  rcases compile_eq_ok.1 h with ⟨ts, tokens, -, rfl⟩
  apply proper_foldr_joinToken
  intro t mem
  -- Each token comes from a piece of the text.
  rcases exists_of_mem_mapM tokens mem with ⟨piece, cut, found⟩
  exact proper_token (proper_piecesOf _ _ piece cut) found

/-! ## Going on behind a pattern -/

theorem spanQuoted_append (h : spanQuoted cs = some (inside, after)) (other : xs.head? ≠ some quoteMark) :
    spanQuoted (cs ++ xs) = some (inside, after ++ xs) := by
  fun_induction spanQuoted cs generalizing inside with
  | case1 =>
      cases h
  | case2 =>
      cases h
      -- The closing quote was the last character, and no second one comes behind it.
      cases xs with
      | nil =>
          simp [spanQuoted]
      | cons x xs =>
          have noQuote : x ≠ quoteMark := fun same => other (congrArg some same)
          simp [spanQuoted, noQuote]
  | case3 =>
      cases h
  | case4 cs ih =>
      rcases Option.map_eq_some_iff.1 h with ⟨⟨inside', after'⟩, found, same⟩
      simp only [Prod.mk.injEq] at same
      rcases same with ⟨rfl, rfl⟩
      simp [spanQuoted, ih found]
  | case5 d cs noQuote =>
      cases h
      simp [spanQuoted, noQuote]
  | case6 c d cs noQuote ih =>
      rcases Option.map_eq_some_iff.1 h with ⟨⟨inside', after'⟩, found, same⟩
      simp only [Prod.mk.injEq] at same
      rcases same with ⟨rfl, rfl⟩
      have later := ih found
      simp only [List.cons_append] at later
      simp [spanQuoted, noQuote, later]

theorem takeWhile_append_ne (ne : c ≠ letter) :
    (cs ++ letter :: xs).takeWhile (· = c) = cs.takeWhile (· = c) := by
  induction cs with
  | nil =>
      simp [ne.symm]
  | cons d cs ih =>
      by_cases same : d = c
      · simp [same, ih]
      · simp [same]

theorem dropWhile_append_ne (ne : c ≠ letter) :
    (cs ++ letter :: xs).dropWhile (· = c) = cs.dropWhile (· = c) ++ letter :: xs := by
  induction cs with
  | nil =>
      simp [ne.symm]
  | cons d cs ih =>
      by_cases same : d = c
      · simp [same, ih]
      · simp [same]

/-- A piece that text beginning with the letter does not go on with. -/
def Piece.EndsBefore (letter : Char) : Piece → Prop
  | .text _ => True
  | .run letter' _ => letter' ≠ letter
  | .unclosed _ => False

/-- What comes behind pieces that it does not go on with is cut by itself. -/
theorem piecesOf_append (noQuote : letter ≠ quoteMark)
    (ends : ∀ piece ∈ piecesOf total' cs, piece.EndsBefore letter) :
    piecesOf total (cs ++ letter :: xs) = piecesOf total' cs ++ piecesOf total (letter :: xs) := by
  have behind : (letter :: xs).head? ≠ some quoteMark := fun same => noQuote (Option.some.inj same)
  fun_induction piecesOf total' cs with
  | case1 =>
      rfl
  | case2 rest quotes ih =>
      have later := ih (List.forall_mem_cons.1 ends).2
      rcases List.head?_eq_some_iff.1 quotes with ⟨rest', rfl⟩
      rw [List.tail_cons] at later
      rw [List.cons_append, piecesOf]
      simp [later]
  | case3 rest other unclosed =>
      exact absurd (ends _ (List.mem_singleton_self _)) id
  | case4 rest other inside after quoted shorter ih =>
      have later := ih (List.forall_mem_cons.1 ends).2
      have goes_on := spanQuoted_append quoted behind
      have begins : (rest ++ letter :: xs).head? ≠ some quoteMark := by
        cases rest with
        | nil =>
            exact behind
        | cons d rest =>
            exact other
      rw [List.cons_append, piecesOf]
      simp only [if_true, if_neg begins]
      split
      · rename_i none_found
        rw [goes_on] at none_found
        cases none_found
      · rename_i inside' after' found
        rw [goes_on] at found
        cases found
        rw [later, List.cons_append]
  | case5 c rest plainQuote plain ih =>
      have later := ih (List.forall_mem_cons.1 ends).2
      rw [List.cons_append, piecesOf]
      simp [plainQuote, plain, later]
  | case6 c rest plainQuote letter' shorter ih =>
      have later := ih (List.forall_mem_cons.1 ends).2
      have ne : c ≠ letter := ends _ List.mem_cons_self
      rw [List.cons_append, piecesOf]
      simp [plainQuote, letter', takeWhile_append_ne ne, dropWhile_append_ne ne, later]

theorem mem_joinToken_offset (h : DateToken.offset ∈ t :: ts) :
    DateToken.offset ∈ joinToken t ts := by
  unfold joinToken
  split
  · simpa using h
  · exact h

theorem mem_foldr_joinToken_offset (h : DateToken.offset ∈ ts) :
    DateToken.offset ∈ ts.foldr joinToken [] := by
  induction ts with
  | nil =>
      exact h
  | cons t ts ih =>
      apply mem_joinToken_offset
      rcases List.mem_cons.1 h with same | later
      · exact List.mem_cons.2 (Or.inl same)
      · exact List.mem_cons_of_mem _ (ih later)

theorem joinToken_append_offset (t : DateToken) (ts : List DateToken) :
    joinToken t (ts ++ [.offset]) = joinToken t ts ++ [.offset] := by
  cases t with
  | literal a =>
      rcases ts with _ | ⟨_ | _, ts⟩ <;> rfl
  | _ =>
      rfl

theorem foldr_joinToken_append_offset (ts : List DateToken) :
    (ts ++ [DateToken.offset]).foldr joinToken [] = ts.foldr joinToken [] ++ [.offset] := by
  induction ts with
  | nil =>
      rfl
  | cons t ts ih =>
      simp only [List.cons_append, List.foldr_cons, ih, joinToken_append_offset]

/-- The pieces of a pattern without an offset end before another `X`. -/
theorem endsBefore_of_mapM (h : (piecesOf total cs).mapM Piece.token = .ok ts)
    (bare : DateToken.offset ∉ ts) : ∀ piece ∈ piecesOf total cs, piece.EndsBefore 'X' := by
  intro piece mem
  rcases exists_of_mem_of_mapM h mem with ⟨t, listed, found⟩
  cases piece with
  | text cs =>
      trivial
  | run letter count =>
      -- A run of this letter is an offset or nothing.
      rintro rfl
      apply bare
      by_cases known : count = 1 ∨ count = 3
      · have offset : t = .offset := by
          simpa [Piece.token, letterToken?, known] using found.symm
        exact offset ▸ listed
      · simp [Piece.token, letterToken?, known] at found
  | unclosed index =>
      cases found

/-- A pattern without an offset takes one at its end. -/
theorem compile_append_offset (h : compile text = .ok p) (bare : DateToken.offset ∉ p.tokens) :
    compile (text ++ "XXX") = .ok ⟨p.tokens ++ [.offset]⟩ := by
  rcases compile_eq_ok.1 h with ⟨ts, tokens, some_token, rfl⟩
  have ends := endsBefore_of_mapM tokens fun mem => bare (mem_foldr_joinToken_offset mem)
  have cut : piecesOf (text ++ "XXX").toList.length (text ++ "XXX").toList =
      piecesOf text.toList.length text.toList ++ [.run 'X' 3] := by
    have run : piecesOf (text ++ "XXX").toList.length ['X', 'X', 'X'] = [.run 'X' 3] := by
      simp [piecesOf, quoteMark, isPlain]
    have letters : (text ++ "XXX").toList = text.toList ++ ['X', 'X', 'X'] := String.toList_append
    rw [← run, ← piecesOf_append (by decide) ends, letters]
  refine compile_eq_ok.2 ⟨ts ++ [.offset], ?_, by simp, ?_⟩
  · rw [cut, List.mapM_append, tokens]
    rfl
  · rw [foldr_joinToken_append_offset]

end DatePattern
end RefFrame
