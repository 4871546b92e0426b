import Mathlib.Data.List.Chain
import RefFrame.Proofs.DatePattern.Denotation

/-!
# The language of a pattern

A text belongs to a pattern if it is a row of pieces, one for each token, where nothing is said of what
stands beside a piece (`TokenText`, `Texts`). A reader that takes as much as it can and never goes back
reads nothing else, and each part that it captures is what the last token of its field stands for.

It does not read all of them: under `Hmm` it takes `12` of `123` for the hour. But it does where every
token that may go on is followed by one that cannot begin so (`Separated`). `scan_exact` says both.
-/

namespace RefFrame

open Text Datum

/-! ## The texts of tokens -/

namespace DatePattern

/-- A number in so many digits. -/
structure Digits (count n : Nat) (piece : List Char) : Prop where
  digits : ∀ c ∈ piece, c.isDigit = true
  length : piece.length = count
  value : Nat.ofDigitChars 10 piece 0 = n

/-- The minutes of an offset, if there are any. -/
inductive MinutesText : Nat → List Char → Prop
  | none :
      MinutesText 0 []
  | bare {m : Nat} {piece : List Char} :
      Digits 2 m piece → MinutesText m piece
  | colon {m : Nat} {piece : List Char} :
      Digits 2 m piece → MinutesText m (':' :: piece)

/-- An offset with a sign: hours, or hours and minutes, with a colon between them or without one. -/
inductive SignedOffset : Int → List Char → Prop
  | intro {sign : Char} {n m : Nat} {hours minutes : List Char} :
      sign = '+' ∨ sign = '-' → Digits 2 n hours → MinutesText m minutes → n ≤ 18 → m ≤ 59 →
        SignedOffset (if sign = '-' then -(n * 3600 + m * 60) else n * 3600 + m * 60)
          (sign :: (hours ++ minutes))

/-- What a piece of text stands for under a token, wherever it stands. -/
inductive TokenText : DateToken → Datum → List Char → Prop
  | literal {text : List Char} :
      TokenText (.literal text) .nothing text
  | oneDigit {field : DateField} {n : Nat} {piece : List Char} :
      Digits 1 n piece → TokenText (.number field 1 2) (.number field n) piece
  | twoDigits {field : DateField} {n : Nat} {piece : List Char} :
      Digits 2 n piece → TokenText (.number field 1 2) (.number field n) piece
  | full {field : DateField} {n : Nat} {piece : List Char} :
      Digits 2 n piece → TokenText (.number field 2 2) (.number field n) piece
  | year {n : Nat} {piece : List Char} :
      Digits 4 n piece → TokenText (.number .year 4 4) (.number .year n) piece
  | shortYear {n : Nat} {piece : List Char} :
      Digits 2 n piece → TokenText .shortYear (.number .year (2000 + n)) piece
  | monthName {i : Nat} {piece : List Char} :
      monthNames[i]? = some (lowered piece) → TokenText .monthName (.number .month (i + 1)) piece
  | fraction {digits n : Nat} {piece : List Char} :
      Digits digits n piece → TokenText (.fraction digits) (.nano (n * 10 ^ (9 - digits))) piece
  | morning {piece : List Char} :
      lowered piece = ['a', 'm'] → TokenText .halfDay (.afternoon false) piece
  | afternoon {piece : List Char} :
      lowered piece = ['p', 'm'] → TokenText .halfDay (.afternoon true) piece
  | utc {c : Char} :
      c = 'Z' ∨ c = 'z' → TokenText .offset (.offset 0) [c]
  | offset {s : Int} {piece : List Char} :
      SignedOffset s piece → TokenText .offset (.offset s) piece

/-- A text is a row of pieces, one for each token. -/
inductive Texts : List DateToken → List Datum → List Char → Prop
  | nil :
      Texts [] [] []
  | cons {t : DateToken} {ts : List DateToken} {d : Datum} {ds : List Datum} {piece rest : List Char} :
      TokenText t d piece → Texts ts ds rest → Texts (t :: ts) (d :: ds) (piece ++ rest)

end DatePattern

open DatePattern

/-- Some text of the token begins with the character. -/
def DateToken.CanBegin (t : DateToken) (c : Char) : Prop :=
  ∃ d cs, TokenText t d (c :: cs)

/-- A text of the token may be longer by the character: a digit behind a number of one or two digits, a
digit or a colon behind an offset. -/
def DateToken.GoesOn : DateToken → Char → Prop
  | .number _ least greatest, c => least < greatest ∧ c.isDigit = true
  | .offset, c => c.isDigit = true ∨ c = ':'
  | _, _ => False

/-- No token is directly followed by one that can begin with what the first may go on with. -/
def DatePattern.Separated (ts : List DateToken) : Prop :=
  ts.IsChain fun t t' => ∀ c, t'.CanBegin c → ¬ t.GoesOn c

/-- Each part is what the last datum of its kind says. -/
structure Captured.Holds (c : Captured) (ds : List Datum) : Prop where
  number : ∀ f, number? f c = last (Datum.number? f) ds
  nano : c.nano = last nano? ds
  afternoon : c.afternoon = last afternoon? ds
  offset : c.offset = last offset? ds

theorem Captured.holds_ofData (ds : List Datum) : (ofData ds).Holds ds :=
  ⟨fun f => number?_ofData f ds, nano_ofData ds, afternoon_ofData ds, offset_ofData ds⟩

namespace DatePattern

variable {least greatest count n m : Nat} {cs piece rest : List Char} {s : Int} {t : DateToken}
  {ts : List DateToken} {d : Datum} {ds : List Datum} {format : String} {p : DatePattern}

/-! ## Beside other text -/

theorem Digits.numeral (h : Digits count n piece) (enough : least ≤ count) (few : count ≤ greatest)
    (ended : count < greatest → ∀ c ∈ rest.head?, c.isDigit = false) :
    Numeral least greatest n piece rest where
  digits := h.digits
  enough := by rw [h.length]; exact enough
  few := by rw [h.length]; exact few
  ended := by rw [h.length]; exact ended
  value := h.value

/-- A number that has all its digits may be followed by more. -/
theorem Digits.numeral_full (h : Digits count n piece) : Numeral count count n piece rest :=
  h.numeral (Nat.le_refl _) (Nat.le_refl _) fun less => absurd less (Nat.lt_irrefl _)

theorem Numeral.digits_of_length (h : Numeral least greatest n piece rest)
    (length : piece.length = count) : Digits count n piece :=
  ⟨h.digits, length, h.value⟩

theorem Numeral.digits_full (h : Numeral count count n piece rest) : Digits count n piece :=
  h.digits_of_length (Nat.le_antisymm h.few h.enough)

theorem minutesText_of_offsetMinutes (h : OffsetMinutes m piece rest) : MinutesText m piece := by
  cases h with
  | colon numeral =>
      exact .colon numeral.digits_full
  | bare numeral =>
      exact .bare numeral.digits_full
  | none plain no_digits =>
      exact .none

theorem offsetMinutes_of_minutesText (h : MinutesText m piece)
    (ends : ∀ c ∈ rest.head?, ¬ DateToken.offset.GoesOn c) : OffsetMinutes m piece rest := by
  cases h with
  | none =>
      refine .none ?_ ?_
      · intro colon
        exact ends ':' colon (Or.inr rfl)
      · -- Two digits of minutes would go on the offset.
        rintro n piece rest' rfl numeral
        rcases numeral.head_isDigit (by decide) with ⟨c, cs, rfl, digit⟩
        exact ends c rfl (Or.inl digit)
  | bare digits =>
      exact .bare digits.numeral_full
  | colon digits =>
      exact .colon digits.numeral_full

theorem tokenText_of_spellsOffset (h : SpellsOffset s piece rest) :
    TokenText .offset (.offset s) piece := by
  cases h with
  | utc letter =>
      exact .utc letter
  | signed sign hours minutes hours_le minutes_le =>
      exact .offset (.intro sign hours.digits_full (minutesText_of_offsetMinutes minutes) hours_le
        minutes_le)

theorem SignedOffset.spells (h : SignedOffset s piece)
    (ends : ∀ c ∈ rest.head?, ¬ DateToken.offset.GoesOn c) : SpellsOffset s piece rest := by
  cases h with
  | intro sign hours minutes hours_le minutes_le =>
      exact .signed sign hours.numeral_full (offsetMinutes_of_minutesText minutes ends) hours_le
        minutes_le

/-- What a token of a compiled pattern takes is one of its texts. -/
theorem tokenText_of_spells (proper : t.Proper) (h : Spells t d piece rest) : TokenText t d piece := by
  cases h with
  | literal =>
      exact .literal
  | number numeral =>
      cases proper with
      | short other =>
          have few : piece.length = 1 ∨ piece.length = 2 := by
            have enough := numeral.enough
            have few := numeral.few
            omega
          rcases few with one | two
          · exact .oneDigit (numeral.digits_of_length one)
          · exact .twoDigits (numeral.digits_of_length two)
      | full other =>
          exact .full numeral.digits_full
      | year =>
          exact .year numeral.digits_full
  | shortYear numeral =>
      exact .shortYear numeral.digits_full
  | monthName name =>
      exact .monthName name
  | fraction numeral =>
      exact .fraction numeral.digits_full
  | morning letters =>
      exact .morning letters
  | afternoon letters =>
      exact .afternoon letters
  | offset spelt =>
      exact tokenText_of_spellsOffset spelt

/-- A text of a token is taken whole if what follows does not go on with it. -/
theorem TokenText.spells (h : TokenText t d piece) (ends : ∀ c ∈ rest.head?, ¬ t.GoesOn c) :
    Spells t d piece rest := by
  cases h with
  | literal =>
      exact .literal
  | oneDigit digits =>
      refine .number (digits.numeral (by decide) (by decide) fun _ c next => ?_)
      have stop := ends c next
      simpa [DateToken.GoesOn] using stop
  | twoDigits digits =>
      exact .number (digits.numeral (by decide) (by decide) fun less => absurd less (by decide))
  | full digits =>
      exact .number digits.numeral_full
  | year digits =>
      exact .number digits.numeral_full
  | shortYear digits =>
      exact .shortYear digits.numeral_full
  | monthName name =>
      exact .monthName name
  | fraction digits =>
      exact .fraction digits.numeral_full
  | morning letters =>
      exact .morning letters
  | afternoon letters =>
      exact .afternoon letters
  | utc letter =>
      exact .offset (.utc letter)
  | offset signed =>
      exact .offset (signed.spells ends)

theorem Digits.ne_nil (h : Digits count n piece) (positive : 0 < count) : piece ≠ [] := by
  rintro rfl
  have none : 0 = count := h.length
  omega

/-- No token of a compiled pattern has an empty text. -/
theorem TokenText.ne_nil (h : TokenText t d piece) (proper : t.Proper) : piece ≠ [] := by
  cases h with
  | literal =>
      cases proper with
      | literal some_text =>
          exact some_text
  | fraction digits =>
      cases proper with
      | fraction positive few =>
          exact digits.ne_nil positive
  | monthName name =>
      have three := length_of_monthName name
      exact List.ne_nil_of_length_eq_add_one three
  | morning letters =>
      exact List.ne_nil_of_length_eq_add_one (length_of_halfDay letters)
  | afternoon letters =>
      exact List.ne_nil_of_length_eq_add_one (length_of_halfDay letters)
  | utc letter =>
      exact List.cons_ne_nil _ _
  | offset signed =>
      cases signed
      exact List.cons_ne_nil _ _
  | oneDigit digits | twoDigits digits | full digits | year digits | shortYear digits =>
      exact digits.ne_nil (by decide)

/-! ## Rows of pieces -/

theorem texts_of_spellsAll (proper : ∀ t ∈ ts, t.Proper) (h : SpellsAll ts ds cs) :
    Texts ts ds cs := by
  induction h with
  | nil =>
      exact .nil
  | cons spelt later ih =>
      rcases List.forall_mem_cons.1 proper with ⟨head, tail⟩
      exact .cons (tokenText_of_spells head spelt) (ih tail)

/-- Under a separated row of tokens no piece could be longer than it is. -/
theorem Texts.spellsAll (h : Texts ts ds cs) (proper : ∀ t ∈ ts, t.Proper) (apart : Separated ts) :
    SpellsAll ts ds cs := by
  induction h with
  | nil =>
      exact .nil
  | @cons t ts d ds piece rest text later ih =>
      rcases List.forall_mem_cons.1 proper with ⟨-, tail⟩
      refine .cons (text.spells ?_) (ih tail apart.tail)
      intro c next
      cases later with
      | nil =>
          cases next
      | @cons t' ts' d' ds' piece' rest' text' later' =>
          -- The next piece is not empty, so it begins with this character.
          rcases List.exists_cons_of_ne_nil (text'.ne_nil (tail t' List.mem_cons_self)) with
            ⟨c', cs', rfl⟩
          have same : c' = c := Option.some.inj next
          subst same
          exact (List.isChain_cons_cons.1 apart).1 c' ⟨d', cs', text'⟩

/-- A compiled pattern reads rows of the texts of its tokens only, and where no token runs into the next
it reads all of them. What it captures is what the last token of each field says. -/
theorem scan_exact (compiled : compile format = .ok p) (text : String) :
    (∀ c, p.scan text = .ok c → ∃ ds, Texts p.tokens ds text.toList ∧ c.Holds ds) ∧
      (Separated p.tokens → ∀ ds, Texts p.tokens ds text.toList →
        ∃ c, p.scan text = .ok c ∧ c.Holds ds) := by
  have proper := proper_compile compiled
  constructor
  · intro c read
    rcases scan_eq_ok.1 read with ⟨ds, spelt, rfl⟩
    exact ⟨ds, texts_of_spellsAll proper spelt, Captured.holds_ofData ds⟩
  · intro apart ds texts
    have spelt := texts.spellsAll proper apart
    exact ⟨_, scan_eq_ok.2 ⟨ds, spelt, rfl⟩, Captured.holds_ofData ds⟩

theorem eq_of_canBegin_literal {a c : Char} (h : (DateToken.literal (a :: cs)).CanBegin c) : c = a := by
  rcases h with ⟨d, cs', text⟩
  cases text
  rfl

/-- The tokens of a day in two places, a month by its name, a year of this century, and an hour by a clock
of twelve hours with its offset. -/
def doubleDay : List DateToken :=
  [.number .day 1 2, .literal ['.'], .number .day 1 2, .literal [' '], .monthName, .literal [' '],
    .shortYear, .literal [' '], .number .clockHour 1 2, .literal [' '], .halfDay, .offset]

theorem separated_doubleDay : Separated doubleDay := by
  -- Only the numbers may go on, and behind each of them comes a dot or a blank.
  have dot (c : Char) (h : (DateToken.literal ['.']).CanBegin c) : c.isDigit = false := by
    rw [eq_of_canBegin_literal h]
    decide
  have blank (c : Char) (h : (DateToken.literal [' ']).CanBegin c) : c.isDigit = false := by
    rw [eq_of_canBegin_literal h]
    decide
  simpa [Separated, doubleDay, DateToken.GoesOn] using ⟨dot, blank⟩

/-- The second day counts. The letters of the month may be of either case, and the offset need not have a
colon. -/
theorem scan_exact_doubleDay :
    compile "d.d MMM yy h aX" = .ok ⟨doubleDay⟩ ∧
      ∃ c, scan ⟨doubleDay⟩ "7.29 fEb 20 1 pm-0530" = .ok c ∧ c.day = some 29 ∧
        c.month = some 2 ∧ c.year = some 2020 ∧ c.offset = some (-19800) := by
  have compiled : compile "d.d MMM yy h aX" = .ok ⟨doubleDay⟩ := by
    decide +kernel
  have day : Digits 1 7 ['7'] := ⟨by simp, rfl, rfl⟩
  have again : Digits 2 29 ['2', '9'] := ⟨by simp, rfl, rfl⟩
  have month : monthNames[1]? = some (lowered ['f', 'E', 'b']) := by decide
  have year : Digits 2 20 ['2', '0'] := ⟨by simp, rfl, rfl⟩
  have clock : Digits 1 1 ['1'] := ⟨by simp, rfl, rfl⟩
  have half : lowered ['p', 'm'] = ['p', 'm'] := by decide
  have hours : Digits 2 5 ['0', '5'] := ⟨by simp, rfl, rfl⟩
  have minutes : Digits 2 30 ['3', '0'] := ⟨by simp, rfl, rfl⟩
  have west : SignedOffset (-19800) ['-', '0', '5', '3', '0'] :=
    .intro (Or.inr rfl) hours (.bare minutes) (by decide) (by decide)
  have texts : Texts doubleDay [.number .day 7, .nothing, .number .day 29, .nothing,
      .number .month 2, .nothing, .number .year 2020, .nothing, .number .clockHour 1, .nothing,
      .afternoon true, .offset (-19800)] "7.29 fEb 20 1 pm-0530".toList :=
    .cons (.oneDigit day) (.cons .literal (.cons (.twoDigits again) (.cons .literal
      (.cons (.monthName month) (.cons .literal (.cons (.shortYear year) (.cons .literal
        (.cons (.oneDigit clock) (.cons .literal (.cons (.afternoon half)
          (.cons (.offset west) .nil)))))))))))
  rcases (scan_exact compiled "7.29 fEb 20 1 pm-0530").2 separated_doubleDay _ texts with
    ⟨c, read, holds⟩
  exact ⟨compiled, c, read, holds.number .day, holds.number .month, holds.number .year, holds.offset⟩

end DatePattern
end RefFrame
