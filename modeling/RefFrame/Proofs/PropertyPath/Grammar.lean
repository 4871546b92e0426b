import RefFrame.Proofs.FallibleLists
import RefFrame.Proofs.Text.Digits
import RefFrame.PropertyPath.Basic

/-!
# The grammar of property paths

A path is written as its segments with dots between them, a segment as its key and its indices in
brackets (`PropertyPath.PathText`). An index may be written with a plus and with leading zeros
(`IndexText`); without them there is one way to write it (`PlainIndex`).

`PropertyPath.parse_exact` says that a text is read as a path if it is written so, that the first bad
piece decides the answer otherwise (`PropertyPath.Refused`), and that reading undoes writing.
-/

namespace RefFrame

namespace Text

variable {mark : Char} {cs piece : List Char}

theorem pieces_eq_splitOn (mark : Char) (cs : List Char) :
    (pieces mark cs).1 :: (pieces mark cs).2 = cs.splitOn mark := by
  induction cs with
  | nil =>
      rfl
  | cons c cs ih =>
      rw [List.splitOn_cons_eq_if_modifyHead, ← ih]
      by_cases h : c = mark <;> simp [pieces, h]

theorem not_mem_of_mem_splitOn (h : piece ∈ cs.splitOn mark) : mark ∉ piece := by
  induction cs generalizing piece with
  | nil =>
      rw [List.splitOn_nil, List.mem_singleton] at h
      rw [h]
      exact List.not_mem_nil
  | cons c cs ih =>
      rw [← pieces_eq_splitOn] at h ih
      by_cases same : c = mark
      · simp only [pieces, if_pos same, List.mem_cons] at h
        rcases h with rfl | later
        · exact List.not_mem_nil
        · exact ih (List.mem_cons.2 later)
      · simp only [pieces, if_neg same, List.mem_cons] at h
        rcases h with rfl | later
        · exact List.not_mem_cons_of_ne_of_not_mem (Ne.symm same) (ih List.mem_cons_self)
        · exact ih (List.mem_cons_of_mem _ later)

end Text

namespace PropertyPath

/-! ## Written paths -/

/-- Digits of an index that a path may hold. -/
structure IndexDigits (digits : List Char) (i : Nat) : Prop where
  some_digit : digits ≠ []
  isDigit : ∀ c ∈ digits, c.isDigit = true
  value : Text.digitsValue digits = i
  bound : i ≤ greatestIndex

/-- What may stand for an index between its brackets. -/
inductive IndexText : List Char → Nat → Prop
  | bare {digits : List Char} {i : Nat} : IndexDigits digits i → IndexText digits i
  | signed {digits : List Char} {i : Nat} : IndexDigits digits i → IndexText ('+' :: digits) i

/-- An index without a sign and without leading zeros. -/
structure PlainIndex (digits : List Char) (i : Nat) : Prop extends IndexDigits digits i where
  lead : digits.head? = some '0' → digits = ['0']

section Written

-- How an index is written.
variable (Written : List Char → Nat → Prop)

/-- Indices in brackets, one after the other. -/
inductive Bracketed : List Char → List Nat → Prop
  | nil : Bracketed [] []
  | cons {inside rest : List Char} {i : Nat} {is : List Nat} :
      Written inside i → Bracketed rest is → Bracketed ('[' :: (inside ++ ']' :: rest)) (i :: is)

/-- A key, which is not empty and holds no bracket that opens, and its indices. -/
inductive SegmentText : List Char → Segment → Prop
  | intro {key brackets : List Char} {is : List Nat} :
      key ≠ [] → '[' ∉ key → Bracketed Written brackets is →
        SegmentText (key ++ brackets) ⟨String.ofList key, is⟩

/-- The segments of a path, one for each piece between the dots of a text. -/
def PathText (cs : List Char) (p : PropertyPath) : Prop :=
  List.Forall₂ (SegmentText Written) (cs.splitOn '.') p.segments

end Written

/-- What is wrong with a piece of a path: nothing stands before its first bracket, or its indices are
written otherwise. -/
inductive BadPiece (path : String) : List Char → Fault → Prop
  | noKey {piece : List Char} :
      piece = [] ∨ piece.head? = some '[' → BadPiece path piece (.emptySegment path)
  | badIndex {piece : List Char} :
      piece ≠ [] → piece.head? ≠ some '[' → (∀ s, ¬ SegmentText IndexText piece s) →
        BadPiece path piece (.malformedIndex path)

/-- Why a text is no path: it is empty, or there is a first piece that is no segment. -/
inductive Refused : String → Fault → Prop
  | empty : Refused "" .empty
  | piece {text : String} {fine more : List (List Char)} {bad : List Char} {fault : Fault} :
      text ≠ "" → text.toList.splitOn '.' = fine ++ bad :: more →
        (∀ piece ∈ fine, ∃ s, SegmentText IndexText piece s) → BadPiece text bad fault →
          Refused text fault

variable {Written : List Char → Nat → Prop} {i : Nat} {is : List Nat} {s : Segment}
  {p : PropertyPath} {path text : String} {cs digits inside piece brackets : List Char} {fault : Fault}

/-! ## Indices -/

theorem indexDigits_iff :
    (if digits ≠ [] ∧ digits.all Char.isDigit ∧ Text.digitsValue digits ≤ greatestIndex then
      some (Text.digitsValue digits) else none) = some i ↔ IndexDigits digits i := by
  rw [Option.ite_none_right_eq_some, List.all_eq_true, Option.some.injEq]
  constructor
  · rintro ⟨⟨some_digit, isDigit, bound⟩, rfl⟩
    exact ⟨some_digit, isDigit, rfl, bound⟩
  · rintro ⟨some_digit, isDigit, rfl, bound⟩
    exact ⟨⟨some_digit, isDigit, bound⟩, rfl⟩

theorem index?_eq_some : index? cs = some i ↔ IndexText cs i := by
  by_cases plus : ∃ ds, cs = '+' :: ds
  · rcases plus with ⟨ds, rfl⟩
    constructor
    · intro h
      exact .signed (indexDigits_iff.1 h)
    · rintro (digits | digits)
      · exact absurd (digits.isDigit '+' List.mem_cons_self) (by decide)
      · exact indexDigits_iff.2 digits
  · have same : index? cs = some i ↔ IndexDigits cs i := by
      rw [← indexDigits_iff]
      simp only [index?]
      split
      · rename_i ds
        exact absurd ⟨ds, rfl⟩ plus
      · rfl
    rw [same]
    constructor
    · exact .bare
    · rintro (digits | digits)
      · exact digits
      · exact absurd ⟨_, rfl⟩ plus

theorem IndexText.not_mem (h : IndexText cs i) : ']' ∉ cs := by
  rcases h with digits | digits
  · intro mem
    exact absurd (digits.isDigit ']' mem) (by decide)
  · rw [List.mem_cons]
    rintro (sign | mem)
    · exact absurd sign (by decide)
    · exact absurd (digits.isDigit ']' mem) (by decide)

/-- The index that is being read goes on to the next bracket that closes. -/
theorem indices?_inside :
    indices? (some inside) cs = some is ↔
      ∃ i is' front rest, is = i :: is' ∧ cs = front ++ ']' :: rest ∧ ']' ∉ front ∧
        index? (inside.reverse ++ front) = some i ∧ indices? none rest = some is' := by
  induction cs generalizing inside with
  | nil =>
      simp [indices?]
  | cons c cs ih =>
      by_cases closed : c = ']'
      · subst closed
        rw [indices?, if_pos rfl]
        constructor
        · intro h
          split at h
          · rename_i i read
            rcases Option.map_eq_some_iff.1 h with ⟨is', later, rfl⟩
            exact ⟨i, is', [], cs, rfl, rfl, List.not_mem_nil, by rwa [List.append_nil], later⟩
          · cases h
        · rintro ⟨i, is', front, rest, rfl, same, notIn, read, later⟩
          cases front with
          | nil =>
              cases same
              rw [List.append_nil] at read
              rw [read, later]
              rfl
          | cons c front =>
              cases same
              exact absurd List.mem_cons_self notIn
      · -- The character joins what has been read since the bracket.
        rw [indices?, if_neg closed, ih]
        constructor
        · rintro ⟨i, is', front, rest, rfl, rfl, notIn, read, later⟩
          refine ⟨i, is', c :: front, rest, rfl, rfl, ?_, ?_, later⟩
          · exact List.not_mem_cons_of_ne_of_not_mem (Ne.symm closed) notIn
          · rwa [List.reverse_cons, List.append_assoc, List.singleton_append] at read
        · rintro ⟨i, is', front, rest, rfl, same, notIn, read, later⟩
          cases front with
          | nil =>
              cases same
              exact absurd rfl closed
          | cons c front =>
              cases same
              refine ⟨i, is', front, rest, rfl, rfl, mt (List.mem_cons_of_mem _) notIn, ?_, later⟩
              rwa [List.reverse_cons, List.append_assoc, List.singleton_append]

/-- Outside of brackets there is the end, or another index in brackets. -/
theorem indices?_outside :
    indices? none cs = some is ↔ (cs = [] ∧ is = []) ∨
      ∃ i is' front rest, is = i :: is' ∧ cs = '[' :: (front ++ ']' :: rest) ∧ ']' ∉ front ∧
        index? front = some i ∧ indices? none rest = some is' := by
  cases cs with
  | nil =>
      simp [indices?, eq_comm]
  | cons c cs =>
      by_cases opens : c = '['
      · subst opens
        simp only [indices?, if_pos, indices?_inside, List.reverse_nil, List.nil_append,
          List.cons.injEq, true_and, List.cons_ne_nil, false_and, false_or]
      · simp [indices?, opens]

theorem indices?_eq_some : indices? none cs = some is ↔ Bracketed IndexText cs is := by
  constructor
  · intro h
    -- Each index that was read has taken its brackets off the text.
    induction is generalizing cs with
    | nil =>
        rcases indices?_outside.1 h with ⟨rfl, -⟩ | ⟨i, is', front, rest, missing, -⟩
        · exact .nil
        · cases missing
    | cons i is ih =>
        rcases indices?_outside.1 h with ⟨-, missing⟩ | ⟨i', is', front, rest, same, rfl, -, read, later⟩
        · cases missing
        · cases same
          exact .cons (index?_eq_some.1 read) (ih later)
  · intro h
    induction h with
    | nil =>
        rfl
    | cons read _ ih =>
        exact indices?_outside.2 (.inr
          ⟨_, _, _, _, rfl, rfl, read.not_mem, index?_eq_some.2 read, ih⟩)

/-! ## Segments -/

/-- The key goes on to the first bracket that opens. -/
theorem takeWhile_dropWhile_key (noBracket : '[' ∉ cs) (h : Bracketed Written brackets is) :
    (cs ++ brackets).takeWhile (· ≠ '[') = cs ∧ (cs ++ brackets).dropWhile (· ≠ '[') = brackets := by
  have key : ∀ c ∈ cs, decide (c ≠ '[') = true := by
    intro c mem
    rw [decide_eq_true_eq]
    rintro rfl
    exact noBracket mem
  rw [List.takeWhile_append_of_pos key, List.dropWhile_append_of_pos key]
  cases h with
  | nil =>
      exact ⟨List.append_nil cs, rfl⟩
  | cons _ _ =>
      exact ⟨List.append_nil cs, rfl⟩

theorem segment_eq_ok : segment path cs = .ok s ↔ SegmentText IndexText cs s := by
  constructor
  · intro h
    simp only [segment] at h
    split at h
    · cases h
    · rename_i some_char
      split at h
      · rename_i is read
        cases h
        have noBracket : '[' ∉ cs.takeWhile (· ≠ '[') := by
          intro mem
          exact absurd (List.mem_takeWhile_imp mem) (by decide)
        have written : SegmentText IndexText (cs.takeWhile (· ≠ '[') ++ cs.dropWhile (· ≠ '['))
            ⟨String.ofList (cs.takeWhile (· ≠ '[')), is⟩ :=
          .intro some_char noBracket (indices?_eq_some.1 read)
        rwa [List.takeWhile_append_dropWhile] at written
      · cases h
  · rintro ⟨some_char, noBracket, indices⟩
    rcases takeWhile_dropWhile_key noBracket indices with ⟨key, rest⟩
    simp only [segment, key, rest, if_neg some_char, indices?_eq_some.2 indices]

theorem takeWhile_eq_nil : cs.takeWhile (· ≠ '[') = [] ↔ cs = [] ∨ cs.head? = some '[' := by
  cases cs with
  | nil =>
      simp
  | cons c cs =>
      by_cases h : c = '[' <;> simp [h]

theorem segment_eq_error : segment path cs = .error fault ↔ BadPiece path cs fault := by
  by_cases some_char : cs.takeWhile (· ≠ '[') = []
  · -- Without a key nothing behind it is looked at.
    have none : segment path cs = .error (.emptySegment path) := by
      simp only [segment, if_pos some_char]
    rw [none, Except.error.injEq]
    constructor
    · rintro rfl
      exact .noKey (takeWhile_eq_nil.1 some_char)
    · rintro (_ | ⟨some_piece, noBracket, -⟩)
      · rfl
      · exact ((takeWhile_eq_nil.1 some_char).elim some_piece noBracket).elim
  · have outside := mt takeWhile_eq_nil.2 some_char
    rw [not_or] at outside
    constructor
    · intro h
      have notWritten : ∀ s, ¬ SegmentText IndexText cs s := by
        intro s written
        rw [segment_eq_ok.2 written] at h
        cases h
      simp only [segment, if_neg some_char] at h
      split at h
      · cases h
      · cases h
        exact .badIndex outside.1 outside.2 notWritten
    · rintro (noKey | ⟨-, -, notWritten⟩)
      · exact absurd (takeWhile_eq_nil.2 noKey) some_char
      · cases read : segment path cs with
        | ok s =>
            exact absurd (segment_eq_ok.1 read) (notWritten s)
        | error fault =>
            simp only [segment, if_neg some_char] at read
            split at read
            · cases read
            · exact read.symm
/-! ## Reading a path -/

theorem segments_inj {q : PropertyPath} : p.segments = q.segments ↔ p = q := by
  cases p
  cases q
  simp [segments]

/-- A text that is not empty is read piece by piece. -/
theorem map_segments_parse (some_char : text ≠ "") :
    (parse text).map segments = (text.toList.splitOn '.').mapM (segment text) := by
  have filled : ¬ text.isEmpty = true := by rwa [String.isEmpty_iff]
  rw [← Text.pieces_eq_splitOn, List.mapM_cons, parse, if_neg filled]
  rcases Text.pieces '.' text.toList with ⟨piece, more⟩
  cases first : segment text piece with
  | error fault =>
      simp [first, bind, Except.bind, Except.map]
  | ok s =>
      cases rest : more.mapM (segment text) <;>
        simp [first, rest, bind, Except.bind, pure, Except.pure, Except.map, segments]

theorem not_segmentText_nil : ¬ SegmentText Written [] s := by
  intro h
  generalize none : ([] : List Char) = piece at h
  cases h with
  | intro some_char _ _ =>
      exact some_char (List.append_eq_nil_iff.1 none.symm).1

theorem parse_eq_ok : parse text = .ok p ↔ PathText IndexText text.toList p := by
  by_cases some_char : text = ""
  · subst some_char
    constructor
    · intro h
      cases h
    · intro h
      rcases List.forall₂_cons_left_iff.1 h with ⟨s, _, written, -⟩
      exact absurd written not_segmentText_nil
  · have pieces : (text.toList.splitOn '.').mapM (segment text) = .ok p.segments ↔
        List.Forall₂ (SegmentText IndexText) (text.toList.splitOn '.') p.segments := by
      simp only [mapM_ok_iff, segment_eq_ok]
    rw [PathText, ← pieces, ← map_segments_parse some_char, map_ok_iff]
    simp only [segments_inj, exists_eq_right]

theorem exists_parse_iff :
    (∃ p, parse text = .ok p) ↔
      text ≠ "" ∧ ∀ piece ∈ text.toList.splitOn '.', ∃ s, SegmentText IndexText piece s := by
  by_cases some_char : text = ""
  · subst some_char
    constructor
    · rintro ⟨p, read⟩
      cases read
    · rintro ⟨some_char, -⟩
      exact absurd rfl some_char
  · have pieces : (∃ ss, (text.toList.splitOn '.').mapM (segment text) = .ok ss) ↔
        ∀ piece ∈ text.toList.splitOn '.', ∃ s, SegmentText IndexText piece s := by
      simp only [exists_mapM_ok_iff, segment_eq_ok]
    simp only [← map_segments_parse some_char, map_ok_iff] at pieces
    rw [← pieces]
    constructor
    · rintro ⟨p, read⟩
      exact ⟨some_char, p.segments, p, read, rfl⟩
    · rintro ⟨-, -, p, read, -⟩
      exact ⟨p, read⟩

theorem parse_eq_error : parse text = .error fault ↔ Refused text fault := by
  by_cases some_char : text = ""
  · subst some_char
    constructor
    · rintro ⟨⟩
      exact .empty
    · rintro (_ | ⟨some_char, -⟩)
      · rfl
      · exact absurd rfl some_char
  · have pieces : (text.toList.splitOn '.').mapM (segment text) = .error fault ↔
        ∃ fine bad more, text.toList.splitOn '.' = fine ++ bad :: more ∧
          (∀ piece ∈ fine, ∃ s, SegmentText IndexText piece s) ∧ BadPiece text bad fault := by
      simp only [mapM_error_iff, segment_eq_ok, segment_eq_error]
    rw [← map_segments_parse some_char, map_error_iff] at pieces
    rw [pieces]
    constructor
    · rintro ⟨fine, bad, more, cut, all, wrong⟩
      exact .piece some_char cut all wrong
    · rintro (_ | ⟨-, cut, all, wrong⟩)
      · exact absurd rfl some_char
      · exact ⟨_, _, _, cut, all, wrong⟩

/-! ## Reading what was written -/

/-- An index has one way to be written without a sign and leading zeros. -/
theorem plainIndex_iff : PlainIndex digits i ↔ digits = Text.digitsOf i ∧ i ≤ greatestIndex := by
  constructor
  · intro h
    rw [← Text.digitsOf_digitsValue h.some_digit h.isDigit h.lead, h.value]
    exact ⟨rfl, h.bound⟩
  · rintro ⟨rfl, bound⟩
    have isDigit : ∀ c ∈ Text.digitsOf i, c.isDigit = true := fun _ mem =>
      Nat.isDigit_of_mem_toDigits (by decide) (by decide) mem
    exact ⟨⟨Nat.toDigits_ne_nil, isDigit, Nat.ofDigitChars_ten_toDigits, bound⟩,
      Text.eq_zero_of_head?_digitsOf⟩

/-- A segment whose text is read as it is: its key is not empty and holds neither a bracket that opens nor
a dot, and its indices are in range. -/
structure Fits (s : Segment) : Prop where
  some_char : s.key ≠ ""
  noBracket : '[' ∉ s.key.toList
  noDot : '.' ∉ s.key.toList
  bound : ∀ i ∈ s.indices, i ≤ greatestIndex

theorem Bracketed.bound (h : Bracketed IndexText brackets is) : ∀ i ∈ is, i ≤ greatestIndex := by
  induction h with
  | nil =>
      exact fun _ mem => absurd mem List.not_mem_nil
  | cons written _ ih =>
      refine List.forall_mem_cons.2 ⟨?_, ih⟩
      rcases written with digits | digits
      · exact digits.bound
      · exact digits.bound

theorem bracketed_plain_iff :
    Bracketed PlainIndex brackets is ↔
      brackets = is.flatMap indexText ∧ ∀ i ∈ is, i ≤ greatestIndex := by
  constructor
  · intro h
    induction h with
    | nil =>
        exact ⟨rfl, fun _ mem => absurd mem List.not_mem_nil⟩
    | cons written _ ih =>
        rcases plainIndex_iff.1 written with ⟨rfl, bound⟩
        rcases ih with ⟨rfl, bounds⟩
        refine ⟨?_, List.forall_mem_cons.2 ⟨bound, bounds⟩⟩
        simp [indexText]
  · rintro ⟨rfl, bounds⟩
    induction is with
    | nil =>
        exact .nil
    | cons i is ih =>
        rw [List.forall_mem_cons] at bounds
        have first : PlainIndex (Text.digitsOf i) i := plainIndex_iff.2 ⟨rfl, bounds.1⟩
        have whole := Bracketed.cons first (ih bounds.2)
        simpa [indexText] using whole

theorem fits_of_segmentText (h : SegmentText IndexText piece s) (noDot : '.' ∉ piece) : Fits s := by
  cases h with
  | intro some_char noBracket indices =>
      rw [List.mem_append, not_or] at noDot
      refine ⟨?_, ?_, ?_, indices.bound⟩
      · simpa using some_char
      · simpa using noBracket
      · simpa using noDot.1

theorem Fits.segmentText (h : Fits s) : SegmentText PlainIndex (segmentText s) s := by
  have indices := bracketed_plain_iff.2 ⟨rfl, h.bound⟩
  have written := SegmentText.intro (by simpa using h.some_char) h.noBracket indices
  rwa [String.ofList_toList] at written

theorem Fits.not_mem (h : Fits s) : '.' ∉ PropertyPath.segmentText s := by
  have index (i : Nat) : '.' ∉ indexText i := by
    simp only [indexText, List.cons_append, List.mem_cons, List.mem_append, List.not_mem_nil, or_false,
      not_or]
    refine ⟨by decide, ?_, by decide⟩
    intro mem
    exact absurd (Nat.isDigit_of_mem_toDigits (by decide) (by decide) mem) (by decide)
  rw [PropertyPath.segmentText, List.mem_append, List.mem_flatMap, not_or]
  refine ⟨h.noDot, ?_⟩
  rintro ⟨i, -, mem⟩
  exact index i mem

theorem eq_segmentText (h : SegmentText PlainIndex piece s) : piece = segmentText s := by
  cases h with
  | intro some_char noBracket indices =>
      rw [(bracketed_plain_iff.1 indices).1, segmentText, String.toList_ofList]

theorem forall_fits (h : PathText IndexText cs p) : ∀ s ∈ p.segments, Fits s := by
  have pieces : (cs.splitOn '.').mapM (segment "") = .ok p.segments :=
    mapM_ok_iff.2 (h.imp fun _ _ => segment_eq_ok.2)
  intro s mem
  rcases exists_of_mem_mapM pieces mem with ⟨piece, cut, read⟩
  exact fits_of_segmentText (segment_eq_ok.1 read) (Text.not_mem_of_mem_splitOn cut)

/-- A path is read from its own text. -/
theorem pathText_text (h : ∀ s ∈ p.segments, Fits s) : PathText PlainIndex p.text.toList p := by
  have cut : p.text.toList.splitOn '.' = p.segments.map segmentText := by
    rw [text, String.toList_ofList]
    refine List.splitOn_intercalate '.' ?_ (by simp [segments])
    intro piece mem
    rcases List.mem_map.1 mem with ⟨s, part, rfl⟩
    exact (h s part).not_mem
  rw [PathText, cut, List.forall₂_map_left_iff, List.forall₂_same]
  intro s mem
  exact (h s mem).segmentText

/-- A text without signs and leading zeros is that of its path. -/
theorem toList_text (h : PathText PlainIndex cs p) : p.text.toList = cs := by
  have pieces : cs.splitOn '.' = p.segments.map segmentText := by
    rw [← List.forall₂_eq_eq_eq, List.forall₂_map_right_iff]
    exact h.imp fun _ _ => eq_segmentText
  rw [text, String.toList_ofList, ← pieces, List.intercalate_splitOn]

theorem Bracketed.imp {Written' : List Char → Nat → Prop} (each : ∀ cs i, Written cs i → Written' cs i)
    (h : Bracketed Written brackets is) : Bracketed Written' brackets is := by
  induction h with
  | nil =>
      exact .nil
  | cons written _ ih =>
      exact .cons (each _ _ written) ih

theorem PathText.of_plain (h : PathText PlainIndex cs p) : PathText IndexText cs p := by
  refine List.Forall₂.imp ?_ h
  rintro _ _ ⟨some_char, noBracket, indices⟩
  exact .intro some_char noBracket (indices.imp fun _ _ plain => .bare plain.toIndexDigits)

/-- A text is read as a path if it is not empty and every piece between its dots is a key, without a bracket
that opens, with indices in brackets behind it. Otherwise the first piece that is none decides what is
reported, together with the whole text. A path that was read is read again from its own text, and that is
the text it came from if that one has neither signs nor leading zeros in its indices. -/
theorem parse_exact (text : String) :
    ((∃ p, parse text = .ok p) ↔
        text ≠ "" ∧ ∀ piece ∈ text.toList.splitOn '.', ∃ s, SegmentText IndexText piece s) ∧
      (∀ p, parse text = .ok p ↔ PathText IndexText text.toList p) ∧
      (∀ fault, parse text = .error fault ↔ Refused text fault) ∧
      ∀ p, parse text = .ok p →
        parse p.text = .ok p ∧ (p.text = text ↔ PathText PlainIndex text.toList p) := by
  refine ⟨exists_parse_iff, fun p => parse_eq_ok, fun fault => parse_eq_error, ?_⟩
  intro p read
  have own : PathText PlainIndex p.text.toList p := pathText_text (forall_fits (parse_eq_ok.1 read))
  refine ⟨parse_eq_ok.2 own.of_plain, ?_, ?_⟩
  · intro same
    rwa [same] at own
  · intro plain
    exact String.toList_inj.1 (toList_text plain)

/-- Signs and leading zeros are gone from the text of the path. -/
theorem parse_exact_grid :
    parse "grid[+007][2].a]b" = .ok ⟨⟨"grid", [7, 2]⟩, [⟨"a]b", []⟩]⟩ ∧
      parse "grid[7][2].a]b" = .ok ⟨⟨"grid", [7, 2]⟩, [⟨"a]b", []⟩]⟩ ∧
      ¬ PathText PlainIndex "grid[+007][2].a]b".toList ⟨⟨"grid", [7, 2]⟩, [⟨"a]b", []⟩]⟩ := by
  have read : parse "grid[+007][2].a]b" = .ok ⟨⟨"grid", [7, 2]⟩, [⟨"a]b", []⟩]⟩ := by decide
  rcases (parse_exact "grid[+007][2].a]b").2.2.2 _ read with ⟨again, plain⟩
  exact ⟨read, again, mt plain.2 (by decide)⟩

end PropertyPath
end RefFrame
