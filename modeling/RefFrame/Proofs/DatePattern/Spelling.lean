import Mathlib.Data.List.Nodup
import Mathlib.Data.List.TakeWhile
import RefFrame.Proofs.DatePattern.Bounds

/-!
# What a text says under a pattern

`Spells t d piece rest` says what a piece of a text stands for under a token, with nothing said of how it
is read: a number is a run of digits, which goes on as far as it may; a month is one of twelve names in
any case; a fraction has the first digits of nine; an offset is `Z`, or hours with minutes if there are
any, and is not too big for one (`OffsetShape` has those that are, too). A text spells a row of data
under the tokens of a pattern if it is cut into such pieces (`SpellsAll`).

Reading finds exactly what a text spells (`scanRest_eq_ok`), so under one pattern no text says two things
(`SpellsAll.unique`).
-/

namespace RefFrame
namespace DatePattern

open Text

variable {least greatest n m : Nat} {cs piece rest text : List Char} {s : Int} {t : DateToken}
  {ts : List DateToken} {d : Datum} {ds ds' : List Datum} {f : RangeFault}

/-! ## Digits -/

/-- A number in digits, at least and at most so many. No digit follows it unless it has as many as it
may. -/
structure Numeral (least greatest n : Nat) (piece rest : List Char) : Prop where
  digits : ∀ c ∈ piece, c.isDigit = true
  enough : least ≤ piece.length
  few : piece.length ≤ greatest
  ended : piece.length < greatest → ∀ c ∈ rest.head?, c.isDigit = false
  value : Nat.ofDigitChars 10 piece 0 = n

/-- A reader of digits takes the digits of a number and no others. -/
theorem Numeral.takeWhile_eq (h : Numeral least greatest n piece rest) :
    ((piece ++ rest).take greatest).takeWhile Char.isDigit = piece := by
  -- What may still be taken after the piece has no digit in front.
  have stops : (rest.take (greatest - piece.length)).takeWhile Char.isDigit = [] := by
    rcases Nat.lt_or_ge piece.length greatest with more | full
    · rcases rest with _ | ⟨c, rest⟩
      · simp
      · have stop : c.isDigit = false := h.ended more c rfl
        obtain ⟨k, count⟩ : ∃ k, greatest - piece.length = k + 1 :=
          ⟨greatest - piece.length - 1, by omega⟩
        simp [count, stop]
    · have none_left : greatest - piece.length = 0 := by omega
      simp [none_left]
  rw [List.take_append, List.take_of_length_le h.few, List.takeWhile_append_of_pos h.digits, stops,
    List.append_nil]

theorem readDigits_of_numeral (h : Numeral least greatest n piece rest) :
    readDigits least greatest (piece ++ rest) = some (n, rest) := by
  have enough : ¬ piece.length < least := Nat.not_lt.2 h.enough
  rw [readDigits]
  simp only [h.takeWhile_eq, if_neg enough, List.drop_left, digitsValue_eq, h.value]

theorem numeral_of_readDigits (h : readDigits least greatest cs = some (n, rest)) :
    ∃ piece, cs = piece ++ rest ∧ Numeral least greatest n piece rest := by
  simp only [readDigits] at h
  split at h
  · cases h
  · rename_i enough
    simp only [Option.some.injEq, Prod.mk.injEq] at h
    rcases h with ⟨value, rfl⟩
    generalize found : (cs.take greatest).takeWhile Char.isDigit = piece at *
    have front : piece <+: cs.take greatest := found ▸ List.takeWhile_prefix _
    have few : piece.length ≤ greatest :=
      Nat.le_trans front.length_le (List.length_take_le greatest cs)
    have split : piece ++ cs.drop piece.length = cs :=
      List.prefix_iff_eq_append.1 (front.trans (List.take_prefix greatest cs))
    have digits : ∀ c ∈ piece, c.isDigit = true := by
      intro c mem
      rw [← found] at mem
      exact List.mem_takeWhile_imp mem
    refine ⟨piece, split.symm, digits, Nat.not_lt.1 enough, few, ?_, value⟩
    intro more c next
    -- Were it a digit, the run would have gone on with it.
    by_contra digit
    have goes_on : c.isDigit = true := by simpa using digit
    obtain ⟨tail, left⟩ : ∃ tail, cs.drop piece.length = c :: tail := List.head?_eq_some_iff.1 next
    obtain ⟨k, count⟩ : ∃ k, greatest - piece.length = k + 1 :=
      ⟨greatest - piece.length - 1, by omega⟩
    rw [← split, left, List.take_append, List.take_of_length_le few, count, List.take_succ_cons,
      List.takeWhile_append_of_pos digits, List.takeWhile_cons_of_pos goes_on] at found
    have longer := congrArg List.length found
    simp at longer

theorem readDigits_eq_none :
    readDigits least greatest cs = none ↔
      ∀ n piece rest, cs = piece ++ rest → ¬ Numeral least greatest n piece rest := by
  constructor
  · rintro unread n piece rest rfl numeral
    rw [readDigits_of_numeral numeral] at unread
    cases unread
  · intro no_digits
    cases found : readDigits least greatest cs with
    | none =>
        rfl
    | some result =>
        obtain ⟨piece, split, numeral⟩ := numeral_of_readDigits found
        exact absurd numeral (no_digits _ piece _ split)

/-! ## Offsets -/

/-- The minutes of an offset: two digits, behind a colon or right behind the hours. Without a colon
there may be none. -/
inductive OffsetMinutes : Nat → List Char → List Char → Prop
  | colon {n : Nat} {piece rest : List Char} :
      Numeral 2 2 n piece rest → OffsetMinutes n (':' :: piece) rest
  | bare {n : Nat} {piece rest : List Char} :
      Numeral 2 2 n piece rest → OffsetMinutes n piece rest
  | none {rest : List Char} :
      rest.head? ≠ some ':' →
        (∀ n piece rest', rest = piece ++ rest' → ¬ Numeral 2 2 n piece rest') →
          OffsetMinutes 0 [] rest

/-- An offset from UTC, of eighteen hours and fifty-nine minutes at most. -/
inductive SpellsOffset : Int → List Char → List Char → Prop
  | utc {c : Char} {rest : List Char} :
      c = 'Z' ∨ c = 'z' → SpellsOffset 0 [c] rest
  | signed {sign : Char} {n m : Nat} {hours minutes rest : List Char} :
      sign = '+' ∨ sign = '-' → Numeral 2 2 n hours (minutes ++ rest) →
        OffsetMinutes m minutes rest → n ≤ 18 → m ≤ 59 →
          SpellsOffset (if sign = '-' then -(n * 3600 + m * 60) else n * 3600 + m * 60)
            (sign :: (hours ++ minutes)) rest

/-- What looks like an offset, of any size, with its hours and minutes. -/
inductive OffsetShape : Nat → Nat → List Char → List Char → Prop
  | utc {c : Char} {rest : List Char} :
      c = 'Z' ∨ c = 'z' → OffsetShape 0 0 [c] rest
  | signed {sign : Char} {n m : Nat} {hours minutes rest : List Char} :
      sign = '+' ∨ sign = '-' → Numeral 2 2 n hours (minutes ++ rest) →
        OffsetMinutes m minutes rest → OffsetShape n m (sign :: (hours ++ minutes)) rest

/-- What is wrong with the hours of an offset, or else with its minutes. -/
inductive OffsetFault (n m : Nat) : RangeFault → Prop
  | hours :
      18 < n → OffsetFault n m ⟨"OffsetHours", -18, 18, n⟩
  | minutes :
      n ≤ 18 → 59 < m → OffsetFault n m ⟨"OffsetMinutes", 0, 59, m⟩

theorem SpellsOffset.shape (h : SpellsOffset s piece rest) : ∃ n m, OffsetShape n m piece rest := by
  cases h with
  | utc letter =>
      exact ⟨0, 0, .utc letter⟩
  | signed sign hours minutes =>
      exact ⟨_, _, .signed sign hours minutes⟩

theorem OffsetShape.spells_or_fault (h : OffsetShape n m piece rest) :
    (∃ s, SpellsOffset s piece rest) ∨ ∃ f, OffsetFault n m f := by
  cases h with
  | utc letter =>
      exact .inl ⟨0, .utc letter⟩
  | signed sign hours minutes =>
      rcases Nat.lt_or_ge 18 n with hours_big | hours_le
      · exact .inr ⟨_, .hours hours_big⟩
      · rcases Nat.lt_or_ge 59 m with minutes_big | minutes_le
        · exact .inr ⟨_, .minutes hours_le minutes_big⟩
        · exact .inl ⟨_, .signed sign hours minutes hours_le minutes_le⟩

theorem Numeral.head_isDigit (h : Numeral least greatest n piece rest) (some_digit : 0 < least) :
    ∃ c cs, piece = c :: cs ∧ c.isDigit = true := by
  obtain ⟨c, cs, rfl⟩ := List.exists_cons_of_length_pos (Nat.lt_of_lt_of_le some_digit h.enough)
  exact ⟨c, cs, rfl, h.digits c List.mem_cons_self⟩

theorem readOffsetMinutes_of_ne (h : cs.head? ≠ some ':') :
    readOffsetMinutes cs = some ((readDigits 2 2 cs).getD (0, cs)) := by
  unfold readOffsetMinutes
  split
  · exact absurd rfl h
  · rfl

theorem readOffsetMinutes_of_spells (h : OffsetMinutes n piece rest) :
    readOffsetMinutes (piece ++ rest) = some (n, rest) := by
  cases h with
  | colon numeral =>
      exact readDigits_of_numeral numeral
  | bare numeral =>
      -- A digit in front is no colon.
      have plain : (piece ++ rest).head? ≠ some ':' := by
        obtain ⟨c, cs, rfl, digit⟩ := numeral.head_isDigit (by decide)
        rintro ⟨⟩
        cases digit
      rw [readOffsetMinutes_of_ne plain, readDigits_of_numeral numeral, Option.getD_some]
  | none plain no_digits =>
      rw [List.nil_append, readOffsetMinutes_of_ne plain, readDigits_eq_none.2 no_digits,
        Option.getD_none]

theorem spells_of_readOffsetMinutes (h : readOffsetMinutes cs = some (n, rest)) :
    ∃ piece, cs = piece ++ rest ∧ OffsetMinutes n piece rest := by
  by_cases colon : cs.head? = some ':'
  · obtain ⟨tail, rfl⟩ := List.head?_eq_some_iff.1 colon
    obtain ⟨piece, rfl, numeral⟩ := numeral_of_readDigits h
    exact ⟨':' :: piece, rfl, .colon numeral⟩
  · rw [readOffsetMinutes_of_ne colon, Option.some.injEq] at h
    -- Two digits are minutes. Anything else is left to the next token, and there are no minutes.
    cases two : readDigits 2 2 cs with
    | some found =>
        rw [two, Option.getD_some] at h
        subst h
        obtain ⟨piece, rfl, numeral⟩ := numeral_of_readDigits two
        exact ⟨piece, rfl, .bare numeral⟩
    | none =>
        rw [two, Option.getD_none, Prod.mk.injEq] at h
        rcases h with ⟨rfl, rfl⟩
        exact ⟨[], rfl, .none colon (readDigits_eq_none.1 two)⟩

/-- With a sign in front the hours and the minutes are read, and their size is checked after that. -/
theorem readOffset_signed {sign : Char} {hours minutes : List Char} (signed : sign = '+' ∨ sign = '-')
    (hours_read : Numeral 2 2 n hours (minutes ++ rest)) (minutes_read : OffsetMinutes m minutes rest) :
    readOffset (sign :: (hours ++ minutes) ++ rest) =
      if 18 < n then .error (.range ⟨"OffsetHours", -18, 18, n⟩)
      else if 59 < m then .error (.range ⟨"OffsetMinutes", 0, 59, m⟩)
      else .ok (if sign = '-' then -(n * 3600 + m * 60) else n * 3600 + m * 60, rest) := by
  have notUtc : ¬ (sign = 'Z' ∨ sign = 'z') := by
    rcases signed with rfl | rfl <;> decide
  rw [List.cons_append, List.append_assoc, readOffset, if_neg notUtc, if_pos signed]
  simp only [readDigits_of_numeral hours_read, readOffsetMinutes_of_spells minutes_read]

theorem readOffset_of_spells (h : SpellsOffset s piece rest) :
    readOffset (piece ++ rest) = .ok (s, rest) := by
  cases h with
  | utc letter =>
      rw [List.singleton_append, readOffset, if_pos letter]
  | signed sign hours minutes hours_le minutes_le =>
      rw [readOffset_signed sign hours minutes, if_neg (Nat.not_lt.2 hours_le),
        if_neg (Nat.not_lt.2 minutes_le)]

theorem readOffset_of_fault (h : OffsetShape n m piece rest) (wrong : OffsetFault n m f) :
    readOffset (piece ++ rest) = .error (.range f) := by
  cases h with
  | utc =>
      -- There is nothing wrong with no hours and no minutes.
      cases wrong with
      | hours big | minutes _ big =>
          exact absurd big (by decide)
  | signed sign hours minutes =>
      rw [readOffset_signed sign hours minutes]
      cases wrong with
      | hours big =>
          rw [if_pos big]
      | minutes le big =>
          rw [if_neg (Nat.not_lt.2 le), if_pos big]

/-- What is not refused for its shape looks like an offset. -/
theorem exists_offsetShape_of_read (h : readOffset cs ≠ .error .shape) :
    ∃ n m piece rest, cs = piece ++ rest ∧ OffsetShape n m piece rest := by
  rcases cs with _ | ⟨c, cs⟩
  · exact absurd rfl h
  · rw [readOffset] at h
    split at h
    · rename_i utc
      exact ⟨0, 0, [c], cs, rfl, .utc utc⟩
    · split at h
      · rename_i signed
        split at h
        · exact absurd rfl h
        · rename_i n afterHours hours
          obtain ⟨first, rfl, numeral⟩ := numeral_of_readDigits hours
          split at h
          · exact absurd rfl h
          · rename_i m rest minutes
            obtain ⟨second, rfl, spelt⟩ := spells_of_readOffsetMinutes minutes
            exact ⟨n, m, c :: (first ++ second), rest, by simp, .signed signed numeral spelt⟩
      · exact absurd rfl h

theorem readOffset_eq_ok :
    readOffset cs = .ok (s, rest) ↔ ∃ piece, cs = piece ++ rest ∧ SpellsOffset s piece rest := by
  constructor
  · intro read
    have shaped : readOffset cs ≠ .error .shape := by
      rw [read]
      nofun
    rcases exists_offsetShape_of_read shaped with ⟨n, m, piece, rest', rfl, shape⟩
    rcases shape.spells_or_fault with ⟨s', spelt⟩ | ⟨f, wrong⟩
    · cases read.symm.trans (readOffset_of_spells spelt)
      exact ⟨piece, rfl, spelt⟩
    · cases read.symm.trans (readOffset_of_fault shape wrong)
  · rintro ⟨piece, rfl, spelt⟩
    exact readOffset_of_spells spelt

theorem readOffset_eq_range :
    readOffset cs = .error (.range f) ↔
      ∃ n m piece rest, cs = piece ++ rest ∧ OffsetShape n m piece rest ∧ OffsetFault n m f := by
  constructor
  · intro read
    have shaped : readOffset cs ≠ .error .shape := by
      rw [read]
      nofun
    rcases exists_offsetShape_of_read shaped with ⟨n, m, piece, rest, rfl, shape⟩
    refine ⟨n, m, piece, rest, rfl, shape, ?_⟩
    rcases shape.spells_or_fault with ⟨s, spelt⟩ | ⟨f', wrong⟩
    · cases read.symm.trans (readOffset_of_spells spelt)
    · cases read.symm.trans (readOffset_of_fault shape wrong)
      exact wrong
  · rintro ⟨n, m, piece, rest, rfl, shape, wrong⟩
    exact readOffset_of_fault shape wrong

/-! ## Tokens -/

/-- What a piece of a text stands for under a token, with `rest` behind it. -/
inductive Spells : DateToken → Datum → List Char → List Char → Prop
  | literal {text rest : List Char} :
      Spells (.literal text) .nothing text rest
  | number {field : DateField} {least greatest n : Nat} {piece rest : List Char} :
      Numeral least greatest n piece rest →
        Spells (.number field least greatest) (.number field n) piece rest
  | shortYear {n : Nat} {piece rest : List Char} :
      Numeral 2 2 n piece rest → Spells .shortYear (.number .year (2000 + n)) piece rest
  | monthName {i : Nat} {piece rest : List Char} :
      monthNames[i]? = some (lowered piece) → Spells .monthName (.number .month (i + 1)) piece rest
  | fraction {digits n : Nat} {piece rest : List Char} :
      Numeral digits digits n piece rest →
        Spells (.fraction digits) (.nano (n * 10 ^ (9 - digits))) piece rest
  | morning {piece rest : List Char} :
      lowered piece = ['a', 'm'] → Spells .halfDay (.afternoon false) piece rest
  | afternoon {piece rest : List Char} :
      lowered piece = ['p', 'm'] → Spells .halfDay (.afternoon true) piece rest
  | offset {s : Int} {piece rest : List Char} :
      SpellsOffset s piece rest → Spells .offset (.offset s) piece rest

/-- A text is cut into pieces, one for each token, and each stands for its datum. -/
inductive SpellsAll : List DateToken → List Datum → List Char → Prop
  | nil :
      SpellsAll [] [] []
  | cons {t : DateToken} {ts : List DateToken} {d : Datum} {ds : List Datum} {piece rest : List Char} :
      Spells t d piece rest → SpellsAll ts ds rest → SpellsAll (t :: ts) (d :: ds) (piece ++ rest)

theorem monthOfName?_eq_some :
    monthOfName? piece = some n ↔ ∃ i, n = i + 1 ∧ monthNames[i]? = some (lowered piece) := by
  have small : ∀ name ∈ monthNames, lowered name = name := by
    decide
  have apart : monthNames.Nodup := by
    decide
  simp only [monthOfName?, Option.map_eq_some_iff, List.findIdx?_eq_some_iff_getElem, sameLetters,
    beq_iff_eq]
  constructor
  · rintro ⟨i, ⟨inside, same, -⟩, rfl⟩
    rw [small _ (List.getElem_mem inside)] at same
    exact ⟨i, rfl, by rw [List.getElem?_eq_getElem inside, same]⟩
  · rintro ⟨i, rfl, found⟩
    obtain ⟨inside, same⟩ := List.getElem?_eq_some_iff.1 found
    refine ⟨i, ⟨inside, ?_, ?_⟩, rfl⟩
    · rw [small _ (List.getElem_mem inside), same]
    · -- No month before has this name too.
      intro j before twice
      rw [small _ (List.getElem_mem _), ← same] at twice
      have index : i = j := (List.Nodup.getElem_inj_iff apart).1 twice
      omega

theorem length_of_monthName {i : Nat} (h : monthNames[i]? = some (lowered piece)) :
    piece.length = 3 := by
  have three : ∀ name ∈ monthNames, name.length = 3 := by
    decide
  have length := three _ (List.mem_of_getElem? h)
  simpa [lowered] using length

theorem length_of_halfDay {a b : Char} (h : lowered piece = [a, b]) : piece.length = 2 := by
  have length := congrArg List.length h
  simpa [lowered] using length

theorem readToken_of_spells (h : Spells t d piece rest) :
    readToken t (piece ++ rest) = .ok (d, rest) := by
  cases h with
  | literal =>
      have front : piece.isPrefixOf (piece ++ rest) = true :=
        List.isPrefixOf_iff_prefix.2 (List.prefix_append piece rest)
      rw [readToken, if_pos front, List.drop_left]
  | number numeral =>
      simp only [readToken, readDigits_of_numeral numeral]
  | shortYear numeral =>
      simp only [readToken, readDigits_of_numeral numeral]
  | monthName name =>
      have three := length_of_monthName name
      have taken : (piece ++ rest).take 3 = piece := List.take_left' three
      have left : (piece ++ rest).drop 3 = rest := List.drop_left' three
      simp only [readToken, taken, left, monthOfName?_eq_some.2 ⟨_, rfl, name⟩]
  | fraction numeral =>
      simp only [readToken, readDigits_of_numeral numeral]
      rfl
  | morning letters =>
      have taken : (piece ++ rest).take 2 = piece := List.take_left' (length_of_halfDay letters)
      have left : (piece ++ rest).drop 2 = rest := List.drop_left' (length_of_halfDay letters)
      have am : sameLetters piece ['a', 'm'] = true := beq_iff_eq.2 letters
      rw [readToken, taken, if_pos am, left]
  | afternoon letters =>
      have taken : (piece ++ rest).take 2 = piece := List.take_left' (length_of_halfDay letters)
      have left : (piece ++ rest).drop 2 = rest := List.drop_left' (length_of_halfDay letters)
      have pm : sameLetters piece ['p', 'm'] = true := beq_iff_eq.2 letters
      have notAm : ¬ sameLetters piece ['a', 'm'] = true := by
        rw [sameLetters, letters]
        decide
      rw [readToken, taken, if_neg notAm, if_pos pm, left]
  | offset spelt =>
      simp only [readToken, readOffset_eq_ok.2 ⟨_, rfl, spelt⟩]

theorem spells_of_readToken (h : readToken t cs = .ok (d, rest)) :
    ∃ piece, cs = piece ++ rest ∧ Spells t d piece rest := by
  cases t with
  | literal text =>
      simp only [readToken] at h
      split at h
      · rename_i front
        cases h
        have split := List.prefix_iff_eq_append.1 (List.isPrefixOf_iff_prefix.1 front)
        exact ⟨text, split.symm, .literal⟩
      · cases h
  | number field least greatest =>
      obtain ⟨n, found, rfl⟩ := exists_number_of_read h
      obtain ⟨piece, rfl, numeral⟩ := numeral_of_readDigits found
      exact ⟨piece, rfl, .number numeral⟩
  | shortYear =>
      obtain ⟨n, found, rfl⟩ := exists_number_of_read h
      obtain ⟨piece, rfl, numeral⟩ := numeral_of_readDigits found
      exact ⟨piece, rfl, .shortYear numeral⟩
  | monthName =>
      simp only [readToken] at h
      split at h
      · rename_i n found
        cases h
        obtain ⟨i, rfl, name⟩ := monthOfName?_eq_some.1 found
        exact ⟨cs.take 3, (List.take_append_drop 3 cs).symm, .monthName name⟩
      · cases h
  | fraction digits =>
      obtain ⟨n, found, rfl⟩ := exists_number_of_read h
      obtain ⟨piece, rfl, numeral⟩ := numeral_of_readDigits found
      exact ⟨piece, rfl, .fraction numeral⟩
  | halfDay =>
      simp only [readToken] at h
      have split := (List.take_append_drop 2 cs).symm
      split at h
      · rename_i am
        cases h
        exact ⟨cs.take 2, split, .morning (beq_iff_eq.1 am)⟩
      · split at h
        · rename_i pm
          cases h
          exact ⟨cs.take 2, split, .afternoon (beq_iff_eq.1 pm)⟩
        · cases h
  | offset =>
      simp only [readToken] at h
      split at h
      · rename_i s rest' found
        cases h
        obtain ⟨piece, rfl, spelt⟩ := readOffset_eq_ok.1 found
        exact ⟨piece, rfl, .offset spelt⟩
      · cases h

theorem readToken_eq_ok :
    readToken t cs = .ok (d, rest) ↔ ∃ piece, cs = piece ++ rest ∧ Spells t d piece rest := by
  constructor
  · exact spells_of_readToken
  · rintro ⟨piece, rfl, spelt⟩
    exact readToken_of_spells spelt

/-- Reading finds what a text spells, and nothing else. -/
theorem scanRest_eq_ok : scanRest text ts cs = .ok ds ↔ SpellsAll ts ds cs := by
  -- What is left of the text is general, as each token leaves another rest.
  induction ts generalizing cs ds with
  | nil =>
      rcases cs with _ | ⟨c, cs⟩
      · constructor
        · rintro ⟨⟩
          exact .nil
        · rintro ⟨⟩
          rfl
      · constructor
        · rintro ⟨⟩
        · intro spelt
          generalize whole : c :: cs = cs' at spelt
          cases spelt
          cases whole
  | cons t ts ih =>
      rw [scanRest_cons_eq_ok]
      constructor
      · rintro ⟨d, rest, ds', first, later, rfl⟩
        obtain ⟨piece, rfl, spelt⟩ := readToken_eq_ok.1 first
        exact .cons spelt (ih.1 later)
      · rintro (⟨⟩ | ⟨spelt, later⟩)
        exact ⟨_, _, _, readToken_eq_ok.2 ⟨_, rfl, spelt⟩, ih.2 later, rfl⟩

theorem SpellsAll.unique (h : SpellsAll ts ds cs) (h' : SpellsAll ts ds' cs) : ds = ds' := by
  have read : scanRest cs ts cs = .ok ds := scanRest_eq_ok.2 h
  have read' : scanRest cs ts cs = .ok ds' := scanRest_eq_ok.2 h'
  exact Except.ok.inj (read.symm.trans read')

theorem scan_eq_ok {p : DatePattern} {literal : String} {c : Captured} :
    p.scan literal = .ok c ↔
      ∃ ds, SpellsAll p.tokens ds literal.toList ∧ c = Captured.ofData ds := by
  cases found : scanRest literal.toList p.tokens literal.toList with
  | error fault =>
      constructor
      · intro read
        simp [scan, found] at read
      · rintro ⟨ds, spelt, -⟩
        rw [scanRest_eq_ok.2 spelt] at found
        cases found
  | ok ds =>
      have spelt : SpellsAll p.tokens ds literal.toList := scanRest_eq_ok.1 found
      simp only [scan, found, Except.ok.injEq]
      constructor
      · rintro rfl
        exact ⟨ds, spelt, rfl⟩
      · rintro ⟨ds', spelt', rfl⟩
        rw [spelt.unique spelt']

end DatePattern
end RefFrame
