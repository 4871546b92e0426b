import RefFrame.Proofs.DatePattern.Compiled
import RefFrame.Proofs.DatePattern.Shape
import RefFrame.Proofs.Text.Utf8

/-!
# Reading texts by bytes and words

`DatePattern.scan` takes characters from the front of a text, and its numbers are as big as they come. In
memory a text is a row of bytes, a reader keeps its place there as a count of bytes, and a number has a
word of thirty-two bits. `DatePattern.scanBytes` reads like this. It cuts the text at its place for each
token, counts digits among the bytes and does its sums in words, and it stops where a cut would go through
a character or a number does not fit into its word.

For a compiled pattern it never comes to that: the two read the same from every text
(`scanBytes_eq`). So every place that is reported is one between two characters
(`isValid_of_scan_eq_shape`).
-/

namespace RefFrame

/-- How a computation on bytes and words ends without an answer. -/
inductive Mishap (ε : Type)
  /-- A text is cut inside of a character or beyond its end. -/
  | torn
  /-- A number does not fit into its word. -/
  | overflow
  /-- Something is wrong with what has been read. -/
  | fault (e : ε)
  deriving DecidableEq, Repr

def Mishap.map {ε ε' : Type} (g : ε → ε') : Mishap ε → Mishap ε'
  | torn => torn
  | overflow => overflow
  | fault e => fault (g e)

/-- A number as an unsigned word. -/
def word {ε : Type} (n : Nat) : Except (Mishap ε) Nat :=
  if n < 4294967296 then .ok n else .error .overflow

/-- A number as a signed word. -/
def signedWord {ε : Type} (n : Int) : Except (Mishap ε) Int :=
  if -2147483648 ≤ n ∧ n ≤ 2147483647 then .ok n else .error .overflow

/-- The difference of two unsigned words. -/
def wordMinus {ε : Type} (n m : Nat) : Except (Mishap ε) Nat :=
  if m ≤ n then .ok (n - m) else .error .overflow

theorem word_eq {ε : Type} {n : Nat} (h : n < 4294967296) : word n = (.ok n : Except (Mishap ε) Nat) :=
  if_pos h

theorem signedWord_eq {ε : Type} {n : Int} (low : -2147483648 ≤ n) (high : n ≤ 2147483647) :
    signedWord n = (.ok n : Except (Mishap ε) Int) :=
  if_pos ⟨low, high⟩

namespace DatePattern

open Text

/-! ## The reader -/

/-- The parts of a text before and behind a place. -/
def cut (place : Nat) (cs : List Char) : Except (Mishap Misfit) (List Char × List Char) :=
  match cutAt? place cs with
  | some parts => .ok parts
  | none => .error .torn

/-- What a token cannot do without. -/
def expected {α : Type} (found : Option α) : Except (Mishap Misfit) α :=
  match found with
  | some a => .ok a
  | none => .error (.fault .shape)

/-- Reads digits, at least and at most so many. Answers the number and the count of bytes. Digits that made
too big a number would be a mishap, and not just no number. -/
def digitsAt (least greatest : Nat) (cs : List Char) : Except (Mishap Misfit) (Option (Nat × Nat)) :=
  let count := (((bytes cs).take greatest).takeWhile isDigitByte).length
  if count < least then .ok none
  else do
    let (ds, _) ← cut count cs
    -- No digits are no number.
    if ds = [] then return none
    return some (← word (digitsValue ds), count)

/-- Reads minutes of an offset, with their count of bytes. -/
def minutesAt : List Char → Except (Mishap Misfit) (Nat × Nat)
  | ':' :: cs => do
    let (n, used) ← expected (← digitsAt 2 2 cs)
    return (n, used + 1)
  | cs => do
    return (← digitsAt 2 2 cs).getD (0, 0)

/-- What a byte makes of an offset, if it is one of the two signs. -/
def signOf? (b : UInt8) : Option Int :=
  if b = 0x2b then some 1 else if b = 0x2d then some (-1) else none

/-- The seconds of an offset of so many hours and minutes, if there is one that big. -/
def offsetOf (sign : Int) (hours minutes : Nat) : Except (Mishap Misfit) Int :=
  if 18 < hours then .error (.fault (.range ⟨"OffsetHours", -18, 18, hours⟩))
  else if 59 < minutes then .error (.fault (.range ⟨"OffsetMinutes", 0, 59, minutes⟩))
  else do
    let size ← word ((← word (hours * 3600)) + (← word (minutes * 60)))
    signedWord (sign * (← signedWord size))

/-- Reads an offset, with its count of bytes. -/
def offsetAt (cs : List Char) : Except (Mishap Misfit) (Int × Nat) :=
  if cs.head? = some 'Z' ∨ cs.head? = some 'z' then .ok (0, 1)
  else do
    let sign ← expected ((bytes cs).head?.bind signOf?)
    let (_, afterSign) ← cut 1 cs
    let (hours, used) ← expected (← digitsAt 2 2 afterSign)
    let (_, afterHours) ← cut (used + 1) cs
    let (minutes, more) ← minutesAt afterHours
    return (← offsetOf sign hours minutes, used + 1 + more)

/-- Reads the text of one token, with its count of bytes. -/
def tokenAt (t : DateToken) (cs : List Char) : Except (Mishap Misfit) (Datum × Nat) :=
  match t with
  | .literal text =>
    if text.isPrefixOf cs then .ok (.nothing, byteLength text) else .error (.fault .shape)
  | .number field least greatest => do
    let (n, used) ← expected (← digitsAt least greatest cs)
    return (.number field n, used)
  | .shortYear => do
    let (n, used) ← expected (← digitsAt 2 2 cs)
    return (.number .year (← word (2000 + n)), used)
  | .monthName => do
    let i ← expected ((cutAt? 3 cs).bind fun parts => monthNames.findIdx? (sameLetters parts.1))
    return (.number .month (← word (i + 1)), 3)
  | .fraction digits => do
    let (n, used) ← expected (← digitsAt digits digits cs)
    let scale ← word (10 ^ (← wordMinus 9 digits))
    return (.nano (← word (n * scale)), used)
  | .halfDay => do
    let (marker, _) ← expected (cutAt? 2 cs)
    if sameLetters marker ['a', 'm'] then return (.afternoon false, 2)
    else if sameLetters marker ['p', 'm'] then return (.afternoon true, 2)
    else .error (.fault .shape)
  | .offset => do
    let (seconds, used) ← offsetAt cs
    return (.offset seconds, used)

/-- A misfit at a place. -/
def Misfit.faultAt (text : List Char) (place : Nat) : Misfit → DateFault
  | .shape => .shape (String.ofList text) place
  | .range f => .range f

/-- Reads a text from a place on by the tokens that are left, to its end. -/
def scanAt (text : List Char) : List DateToken → Nat → Captured → Except (Mishap DateFault) Captured
  | [], place, c =>
    if place = byteLength text then .ok c else .error (.fault (Misfit.shape.faultAt text place))
  | t :: ts, place, c =>
    match (do let (_, rest) ← cut place text; tokenAt t rest) with
    | .error mishap => .error (mishap.map (Misfit.faultAt text place))
    | .ok (d, used) => scanAt text ts (place + used) (c.put d)

/-- Reads a text by a pattern, by bytes and words. -/
def scanBytes (p : DatePattern) (text : String) : Except (Mishap DateFault) Captured :=
  scanAt text.toList p.tokens 0 {}

variable {least greatest n m : Nat} {c : Char} {cs : List Char} {t : DateToken} {ts : List DateToken}
  {p : DatePattern} {pattern : String}

/-! ## Tokens -/

theorem cut_append (front rest : List Char) :
    cut (byteLength front) (front ++ rest) = .ok (front, rest) := by
  rw [cut, cutAt?_append]

/-- A row of at most nine digits is read by bytes as it is read by characters. -/
theorem digitsAt_spec (some_digit : 0 < least) (few : greatest ≤ 9) (cs : List Char) :
    (readDigits least greatest cs = none ∧ digitsAt least greatest cs = .ok none) ∨
      ∃ n piece rest, piece ++ rest = cs ∧ n < 10 ^ greatest ∧
        readDigits least greatest cs = some (n, rest) ∧
          digitsAt least greatest cs = .ok (some (n, byteLength piece)) := by
  cases read : readDigits least greatest cs with
  | none =>
      left
      simp only [readDigits] at read
      split at read
      · rename_i short
        rw [← length_takeWhile_isDigitByte] at short
        exact ⟨rfl, if_pos short⟩
      · cases read
  | some found =>
      rcases found with ⟨n, rest⟩
      have bound : n < 10 ^ greatest := readDigits_lt read
      have small : n < 4294967296 := by
        calc
          n < 10 ^ greatest := bound
          _ ≤ 10 ^ 9 := Nat.pow_le_pow_right (by decide) few
          _ < 4294967296 := by decide
      rcases numeral_of_readDigits read with ⟨piece, rfl, numeral⟩
      refine .inr ⟨n, piece, rest, rfl, bound, rfl, ?_⟩
      have single : byteLength piece = piece.length := byteLength_of_isDigit numeral.digits
      have count : (((bytes (piece ++ rest)).take greatest).takeWhile isDigitByte).length =
          byteLength piece := by
        rw [length_takeWhile_isDigitByte, numeral.takeWhile_eq, single]
      have enough : ¬ byteLength piece < least := by
        rw [single]
        exact Nat.not_lt.2 numeral.enough
      have nonempty : piece ≠ [] :=
        List.length_pos_iff.1 (Nat.lt_of_lt_of_le some_digit numeral.enough)
      simp only [digitsAt, count, if_neg enough, cut_append, bind, Except.bind, if_neg nonempty,
        digitsValue_eq, numeral.value, word_eq small]
      rfl

/-- Two readers agree on a text: both refuse it for the same, or both read the same from its front, of which
one counts the bytes. -/
def Agrees {α : Type} (cs : List Char) (read : Except Misfit (α × List Char))
    (readAt : Except (Mishap Misfit) (α × Nat)) : Prop :=
  (∃ misfit, read = .error misfit ∧ readAt = .error (.fault misfit)) ∨
    ∃ a piece rest, piece ++ rest = cs ∧ read = .ok (a, rest) ∧ readAt = .ok (a, byteLength piece)

theorem minutesAt_spec (cs : List Char) :
    (readOffsetMinutes cs = none ∧ minutesAt cs = .error (.fault .shape)) ∨
      ∃ n piece rest, piece ++ rest = cs ∧ readOffsetMinutes cs = some (n, rest) ∧
        minutesAt cs = .ok (n, byteLength piece) := by
  fun_cases readOffsetMinutes cs with
  | case1 cs =>
      rw [minutesAt]
      rcases digitsAt_spec Nat.two_pos (by decide : 2 ≤ 9) cs with
        ⟨unread, found⟩ | ⟨n, piece, rest, rfl, -, read, found⟩
      · left
        rw [unread, found]
        exact ⟨rfl, rfl⟩
      · right
        rw [read, found]
        exact ⟨n, ':' :: piece, rest, rfl, rfl, by rw [byteLength_cons, Nat.add_comm]; rfl⟩
  | case2 cs other =>
      right
      rw [minutesAt]
      · rcases digitsAt_spec Nat.two_pos (by decide : 2 ≤ 9) cs with
          ⟨unread, found⟩ | ⟨n, piece, rest, rfl, -, read, found⟩
        · rw [unread, found]
          exact ⟨0, [], cs, rfl, rfl, rfl⟩
        · rw [read, found]
          exact ⟨n, piece, rest, rfl, rfl, rfl⟩
      · exact other

/-- The first byte of a text is a sign if its first character is. -/
theorem signOf?_head (c : Char) (cs : List Char) :
    (bytes (c :: cs)).head?.bind signOf? =
      if c = '+' then some 1 else if c = '-' then some (-1) else none := by
  rcases exists_bytes_cons c cs with ⟨b, more, split, same⟩
  have sign : ∀ a : Char, a.toNat < 128 → (b = UInt8.ofNat a.toNat ↔ c = a) := by
    intro a ascii
    rw [← UInt8.toNat_inj, UInt8.toNat_ofNat_of_lt' (Nat.lt_trans ascii (by decide)), ← Char.toNat_inj]
    omega
  rw [split, List.head?_cons, Option.bind_some, signOf?]
  simp only [← sign '+' (by decide), ← sign '-' (by decide)]
  rfl

/-- An offset that is allowed has less seconds than fit into a word. -/
theorem offsetOf_eq (hours : n ≤ 18) (minutes : m ≤ 59) :
    offsetOf (if c = '-' then -1 else 1) n m =
      .ok (if c = '-' then -((n : Int) * 3600 + m * 60) else (n : Int) * 3600 + m * 60) := by
  have hours_word : word (n * 3600) = (.ok (n * 3600) : Except (Mishap Misfit) Nat) :=
    word_eq (by omega)
  have minutes_word : word (m * 60) = (.ok (m * 60) : Except (Mishap Misfit) Nat) :=
    word_eq (by omega)
  have size_word : word (n * 3600 + m * 60) = (.ok (n * 3600 + m * 60) : Except (Mishap Misfit) Nat) :=
    word_eq (by omega)
  have size_signed : signedWord ((n * 3600 + m * 60 : Nat) : Int) =
      (.ok ((n : Int) * 3600 + m * 60) : Except (Mishap Misfit) Int) := by
    rw [signedWord_eq (by omega) (by omega)]
    exact congrArg _ (by omega)
  rw [offsetOf, if_neg (Nat.not_lt.2 hours), if_neg (Nat.not_lt.2 minutes)]
  simp only [hours_word, minutes_word, size_word, size_signed, bind, Except.bind]
  split
  · rw [Int.neg_one_mul, signedWord_eq (by omega) (by omega)]
  · rw [Int.one_mul, signedWord_eq (by omega) (by omega)]

theorem offsetAt_signed (signed : c = '+' ∨ c = '-') (cs : List Char) :
    Agrees (c :: cs) (readOffset (c :: cs)) (offsetAt (c :: cs)) := by
  have not_utc : ¬ (c = 'Z' ∨ c = 'z') := by
    rcases signed with rfl | rfl <;> decide
  have single : byteLength [c] = 1 := by
    rcases signed with rfl | rfl <;> rfl
  have sign : (if c = '+' then some 1 else if c = '-' then some (-1) else none) =
      some (if c = '-' then (-1 : Int) else 1) := by
    rcases signed with rfl | rfl <;> rfl
  have cut_sign : cut 1 (c :: cs) = .ok ([c], cs) := by
    rw [← single]
    exact cut_append [c] cs
  simp only [readOffset, offsetAt, List.head?_cons, Option.some.injEq, signOf?_head, if_neg not_utc,
    if_pos signed, sign, expected, bind, Except.bind, cut_sign]
  rcases digitsAt_spec Nat.two_pos (by decide : 2 ≤ 9) cs with
    ⟨unread, found⟩ | ⟨n, hours, afterHours, rfl, -, read, found⟩
  · rw [unread, found]
    exact .inl ⟨.shape, rfl, rfl⟩
  · have cut_hours : cut (byteLength hours + 1) (c :: (hours ++ afterHours)) =
        .ok (c :: hours, afterHours) := by
      rw [Nat.add_comm, ← single, ← byteLength_append]
      exact cut_append (c :: hours) afterHours
    simp only [read, found, cut_hours]
    rcases minutesAt_spec afterHours with ⟨unread', found'⟩ | ⟨m, minutes, rest, rfl, read', found'⟩
    · rw [unread', found']
      exact .inl ⟨.shape, rfl, rfl⟩
    · -- The shape is there for both readers, and the hours are judged before the minutes.
      simp only [read', found']
      by_cases late : 18 < n
      · simp only [if_pos late, offsetOf]
        exact .inl ⟨_, rfl, rfl⟩
      · by_cases much : 59 < m
        · simp only [if_neg late, if_pos much, offsetOf]
          exact .inl ⟨_, rfl, rfl⟩
        · have used : byteLength hours + 1 + byteLength minutes =
              byteLength (c :: (hours ++ minutes)) := by
            rw [← List.singleton_append, byteLength_append, byteLength_append, single]
            omega
          rw [offsetOf_eq (Nat.not_lt.1 late) (Nat.not_lt.1 much), used]
          simp only [if_neg late, if_neg much]
          exact .inr ⟨_, c :: (hours ++ minutes), rest, by simp, rfl, rfl⟩

/-- An offset is read by bytes and words as it is read by characters. -/
theorem offsetAt_agrees (cs : List Char) : Agrees cs (readOffset cs) (offsetAt cs) := by
  rcases cs with _ | ⟨c, cs⟩
  · exact .inl ⟨.shape, rfl, rfl⟩
  · by_cases signed : c = '+' ∨ c = '-'
    · exact offsetAt_signed signed cs
    · have plus : c ≠ '+' := fun plus => signed (.inl plus)
      have minus : c ≠ '-' := fun minus => signed (.inr minus)
      simp only [readOffset, offsetAt, List.head?_cons, Option.some.injEq, signOf?_head, if_neg signed,
        if_neg plus, if_neg minus]
      by_cases utc : c = 'Z' ∨ c = 'z'
      · have single : byteLength [c] = 1 := by
          rcases utc with rfl | rfl <;> rfl
        simp only [if_pos utc]
        exact .inr ⟨0, [c], cs, rfl, rfl, by rw [single]⟩
      · simp only [if_neg utc]
        exact .inl ⟨.shape, rfl, rfl⟩

theorem monthName_agrees (cs : List Char) :
    Agrees cs (readToken .monthName cs) (tokenAt .monthName cs) := by
  have ascii : ∀ name ∈ monthNames, name.length = 3 ∧ byteLength name = 3 := by
    decide
  simp only [readToken, tokenAt, monthOfName?, findIdx?_sameLetters_take ascii]
  cases found : cutAt? 3 cs with
  | none =>
      exact .inl ⟨.shape, rfl, rfl⟩
  | some parts =>
      rcases parts with ⟨name, rest⟩
      rcases cutAt?_eq_some.1 found with ⟨rfl, three⟩
      cases named : monthNames.findIdx? (sameLetters name) with
      | none =>
          simp only [Option.bind_some, named]
          exact .inl ⟨.shape, rfl, rfl⟩
      | some i =>
          rcases List.findIdx?_eq_some_iff_getElem.1 named with ⟨within, same, -⟩
          have length : name.length = 3 :=
            (length_of_sameLetters same).trans (ascii _ (List.getElem_mem within)).1
          have few : i < 12 := within
          have behind : (name ++ rest).drop 3 = rest := by
            rw [← length, List.drop_left]
          have month_word : word (i + 1) = (.ok (i + 1) : Except (Mishap Misfit) Nat) :=
            word_eq (by omega)
          simp only [Option.bind_some, named, Option.map_some, behind, expected, bind, Except.bind,
            month_word]
          exact .inr ⟨_, name, rest, rfl, rfl, by rw [three]; rfl⟩

theorem halfDay_agrees (cs : List Char) : Agrees cs (readToken .halfDay cs) (tokenAt .halfDay cs) := by
  have am : sameLetters (cs.take 2) ['a', 'm'] =
      (cutAt? 2 cs).any fun parts => sameLetters parts.1 ['a', 'm'] :=
    sameLetters_take rfl rfl
  have pm : sameLetters (cs.take 2) ['p', 'm'] =
      (cutAt? 2 cs).any fun parts => sameLetters parts.1 ['p', 'm'] :=
    sameLetters_take rfl rfl
  simp only [readToken, tokenAt, am, pm]
  cases found : cutAt? 2 cs with
  | none =>
      exact .inl ⟨.shape, rfl, rfl⟩
  | some parts =>
      rcases parts with ⟨marker, rest⟩
      rcases cutAt?_eq_some.1 found with ⟨rfl, two⟩
      have behind : ∀ {mark}, sameLetters marker mark = true → mark.length = 2 →
          (marker ++ rest).drop 2 = rest := by
        intro mark same length
        rw [← length, ← length_of_sameLetters same, List.drop_left]
      simp only [Option.any_some, expected, bind, Except.bind]
      by_cases forenoon : sameLetters marker ['a', 'm'] = true
      · simp only [if_pos forenoon, behind forenoon rfl]
        exact .inr ⟨_, marker, rest, rfl, rfl, by rw [two]; rfl⟩
      · by_cases afternoon : sameLetters marker ['p', 'm'] = true
        · simp only [if_neg forenoon, if_pos afternoon, behind afternoon rfl]
          exact .inr ⟨_, marker, rest, rfl, rfl, by rw [two]; rfl⟩
        · simp only [if_neg forenoon, if_neg afternoon]
          exact .inl ⟨.shape, rfl, rfl⟩

/-- A number with at most nine digits is read by bytes as it is read by characters. -/
theorem number_agrees {field : DateField} (some_digit : 0 < least) (few : greatest ≤ 9) (cs : List Char) :
    Agrees cs (readToken (.number field least greatest) cs)
      (tokenAt (.number field least greatest) cs) := by
  simp only [readToken, tokenAt]
  rcases digitsAt_spec some_digit few cs with ⟨unread, found⟩ | ⟨n, piece, rest, rfl, -, read, found⟩
  · rw [unread, found]
    exact .inl ⟨.shape, rfl, rfl⟩
  · rw [read, found]
    exact .inr ⟨_, piece, rest, rfl, rfl, rfl⟩

/-- The tokens of compiled patterns are read by bytes and words as they are read by characters. -/
theorem tokenAt_agrees (proper : t.Proper) (cs : List Char) :
    Agrees cs (readToken t cs) (tokenAt t cs) := by
  cases proper with
  | literal =>
      rename_i literal nonempty
      simp only [readToken, tokenAt]
      split
      · rename_i front
        have split : literal ++ cs.drop literal.length = cs :=
          List.prefix_iff_eq_append.1 (List.isPrefixOf_iff_prefix.1 front)
        exact .inr ⟨_, literal, _, split, rfl, rfl⟩
      · exact .inl ⟨.shape, rfl, rfl⟩
  | short =>
      exact number_agrees Nat.one_pos (by decide) cs
  | full =>
      exact number_agrees Nat.two_pos (by decide) cs
  | year =>
      exact number_agrees (by decide) (by decide) cs
  | shortYear =>
      simp only [readToken, tokenAt]
      rcases digitsAt_spec Nat.two_pos (by decide : 2 ≤ 9) cs with
        ⟨unread, found⟩ | ⟨n, piece, rest, rfl, bound, read, found⟩
      · rw [unread, found]
        exact .inl ⟨.shape, rfl, rfl⟩
      · have year_word : word (2000 + n) = (.ok (2000 + n) : Except (Mishap Misfit) Nat) :=
          word_eq (by omega)
        simp only [read, found, expected, bind, Except.bind, year_word]
        exact .inr ⟨_, piece, rest, rfl, rfl, rfl⟩
  | monthName =>
      exact monthName_agrees cs
  | fraction positive few =>
      rename_i digits
      simp only [readToken, tokenAt]
      rcases digitsAt_spec positive few cs with
        ⟨unread, found⟩ | ⟨n, piece, rest, rfl, -, read, found⟩
      · rw [unread, found]
        exact .inl ⟨.shape, rfl, rfl⟩
      · have count : wordMinus 9 digits = (.ok (9 - digits) : Except (Mishap Misfit) Nat) := if_pos few
        have read_token : readToken (.fraction digits) (piece ++ rest) =
            .ok (.nano (n * 10 ^ (9 - digits)), rest) := by
          simp only [readToken, read]
          rfl
        have less : n * 10 ^ (9 - digits) < 10 ^ 9 :=
          bounded_readToken (DateToken.Proper.fraction positive few).bounded read_token
        -- The factor alone may be as much as a tenth of a billion, the product is less than a billion.
        have scale_word : word (10 ^ (9 - digits)) =
            (.ok (10 ^ (9 - digits)) : Except (Mishap Misfit) Nat) := by
          refine word_eq ?_
          calc
            10 ^ (9 - digits) ≤ 10 ^ 9 := Nat.pow_le_pow_right (by decide) (Nat.sub_le 9 digits)
            _ < 4294967296 := by decide
        have nano_word : word (n * 10 ^ (9 - digits)) =
            (.ok (n * 10 ^ (9 - digits)) : Except (Mishap Misfit) Nat) :=
          word_eq (Nat.lt_trans less (by decide))
        simp only [read, found, expected, bind, Except.bind, count, scale_word, nano_word]
        exact .inr ⟨_, piece, rest, rfl, rfl, rfl⟩
  | halfDay =>
      exact halfDay_agrees cs
  | offset =>
      simp only [readToken, tokenAt]
      rcases offsetAt_agrees cs with ⟨misfit, unread, found⟩ | ⟨s, piece, rest, rfl, read, found⟩
      · rw [unread, found]
        exact .inl ⟨misfit, rfl, rfl⟩
      · rw [read, found]
        exact .inr ⟨_, piece, rest, rfl, rfl, rfl⟩

/-! ## Whole texts -/

theorem faultAt_append (misfit : Misfit) (front rest : List Char) :
    misfit.faultAt (front ++ rest) (byteLength front) = misfit.fault (front ++ rest) rest := by
  cases misfit with
  | shape =>
      rw [Misfit.faultAt, Misfit.fault, byteLength_append, Nat.add_sub_cancel]
  | range f =>
      rfl

/-- From any place between two characters on, a text is read by bytes and words as it is read by
characters. -/
theorem scanAt_eq (proper : ∀ t ∈ ts, t.Proper) (front rest : List Char) (c : Captured) :
    scanAt (front ++ rest) ts (byteLength front) c =
      ((scanRest (front ++ rest) ts rest).map fun ds => ds.foldl Captured.put c).mapError .fault := by
  -- What has been read is general: each token moves the place on by the bytes of its piece, and the new
  -- place is again the length of a front.
  induction ts generalizing front rest c with
  | nil =>
      rcases rest with _ | ⟨x, rest⟩
      · rw [List.append_nil, scanAt, if_pos rfl]
        rfl
      · have positive : 0 < x.utf8Size := x.utf8Size_pos
        have short : byteLength front ≠ byteLength (front ++ x :: rest) := by
          rw [byteLength_append, byteLength_cons]
          omega
        rw [scanAt, if_neg short, faultAt_append]
        rfl
  | cons t ts ih =>
      rw [List.forall_mem_cons] at proper
      simp only [scanAt, cut_append, bind, Except.bind, scanRest]
      rcases tokenAt_agrees proper.1 rest with
        ⟨misfit, unread, found⟩ | ⟨d, piece, rest, rfl, read, found⟩
      · simp only [unread, found, Mishap.map, faultAt_append]
        rfl
      · simp only [read, found]
        rw [← byteLength_append, ← List.append_assoc, ih proper.2]
        cases scanRest ((front ++ piece) ++ rest) ts rest <;> rfl

/-- A compiled pattern reads every text by bytes and words as it reads it by characters. -/
theorem scanBytes_eq (compiled : compile pattern = .ok p) (text : String) :
    p.scanBytes text = (p.scan text).mapError .fault := by
  have whole := scanAt_eq (proper_compile compiled) [] text.toList {}
  rw [List.nil_append, byteLength_nil] at whole
  rw [scanBytes, scan, whole]
  cases scanRest text.toList p.tokens text.toList <;> rfl

theorem Stuck.exists_append {left : List Char} (h : Stuck ts cs left) : ∃ front, front ++ left = cs := by
  induction h with
  | beyond =>
      exact ⟨[], rfl⟩
  | here =>
      exact ⟨[], rfl⟩
  | @later _ _ piece _ _ _ _ ih =>
      rcases ih with ⟨front, rfl⟩
      exact ⟨piece ++ front, List.append_assoc piece front _⟩

/-- The place where a text does not have its shape is between two of its characters, or at an end. -/
theorem isValid_of_scan_eq_shape {literal literal' : String} {index : Nat}
    (h : p.scan literal = .error (.shape literal' index)) :
    literal' = literal ∧ (⟨index⟩ : String.Pos.Raw).IsValid literal ∧
      index ≤ literal.utf8ByteSize := by
  rcases (scanRest_eq_shape.1 (scan_eq_error.1 h)).1 with ⟨left, stuck, said⟩
  rcases stuck.exists_append with ⟨front, split⟩
  rw [← split, ← faultAt_append, split] at said
  simp only [Misfit.faultAt, String.ofList_toList, DateFault.shape.injEq] at said
  rcases said with ⟨rfl, rfl⟩
  have cut : cutAt? (byteLength front) literal.toList = some (front, left) := by
    rw [← split, cutAt?_append]
  have boundary := isValid_iff_exists_cutAt?.2 ⟨front, left, cut⟩
  have size : byteLength literal.toList = literal.utf8ByteSize := by
    rw [byteLength_eq, String.ofList_toList]
  rw [String.ofList_toList] at boundary
  refine ⟨rfl, boundary, ?_⟩
  rw [← size, ← split, byteLength_append]
  exact Nat.le_add_right _ _

end DatePattern
end RefFrame
