import Mathlib.Data.List.TakeWhile
import RefFrame.DatePattern.Scan

/-!
# Cutting texts by bytes

A text is a row of characters, and in memory a row of bytes, one to four for each character. A place
that is counted in bytes is not always one between two characters: `cutAt?` cuts a text behind a number
of bytes and has no answer inside of a character. The places that have one are the character boundaries
of the string (`isValid_iff_exists_cutAt?`).

ASCII characters are single bytes, so digits and keywords can be looked for among the bytes.
-/

namespace RefFrame
namespace Text

variable {cs front rest ds word : List Char} {c : Char} {n : Nat}

/-- The bytes of a text. -/
def bytes (cs : List Char) : List UInt8 :=
  cs.flatMap String.utf8EncodeChar

/-- Whether a byte is one of the ten digits. -/
def isDigitByte (b : UInt8) : Bool :=
  0x30 ≤ b && b ≤ 0x39

/-! ## Lengths -/

theorem byteLength_eq_foldl (cs : List Char) (n : Nat) :
    cs.foldl (fun n c => n + c.utf8Size) n = n + byteLength cs := by
  induction cs generalizing n with
  | nil =>
      rfl
  | cons c cs ih =>
      rw [byteLength, List.foldl_cons, List.foldl_cons, ih, ih (0 + c.utf8Size), Nat.zero_add,
        Nat.add_assoc]

@[simp]
theorem byteLength_nil : byteLength [] = 0 := rfl

@[simp]
theorem byteLength_cons (c : Char) (cs : List Char) :
    byteLength (c :: cs) = c.utf8Size + byteLength cs := by
  rw [byteLength, List.foldl_cons, byteLength_eq_foldl, Nat.zero_add]

@[simp]
theorem byteLength_append (front rest : List Char) :
    byteLength (front ++ rest) = byteLength front + byteLength rest := by
  rw [byteLength, List.foldl_append, byteLength_eq_foldl]
  rfl

theorem byteLength_eq (cs : List Char) : byteLength cs = (String.ofList cs).utf8ByteSize := by
  induction cs with
  | nil =>
      rfl
  | cons c cs ih =>
      rw [byteLength_cons, ih, ← List.singleton_append, String.ofList_append,
        String.utf8ByteSize_append, ← String.singleton_eq_ofList, String.utf8ByteSize_singleton]

/-! ## Cuts -/

theorem cutAt?_append (front rest : List Char) :
    cutAt? (byteLength front) (front ++ rest) = some (front, rest) := by
  induction front with
  | nil =>
      simp [cutAt?]
  | cons c front ih =>
      obtain ⟨n, count⟩ : ∃ n, c.utf8Size + byteLength front = n + 1 :=
        Nat.exists_eq_add_one.2 (Nat.add_pos_left c.utf8Size_pos _)
      have within : ¬ n + 1 < c.utf8Size := by omega
      have left : n + 1 - c.utf8Size = byteLength front := by omega
      rw [byteLength_cons, count, List.cons_append, cutAt?, if_neg within, left, ih, Option.map_some]

theorem cutAt?_eq_some :
    cutAt? n cs = some (front, rest) ↔ front ++ rest = cs ∧ byteLength front = n := by
  constructor
  · intro cut
    fun_induction cutAt? n cs generalizing front with
    | case1 cs =>
        cases cut
        exact ⟨rfl, rfl⟩
    | case2 =>
        cases cut
    | case3 =>
        cases cut
    | case4 n c cs within ih =>
        rcases Option.map_eq_some_iff.1 cut with ⟨⟨tail, rest'⟩, cut', same⟩
        cases same
        rcases ih cut' with ⟨rfl, count⟩
        refine ⟨rfl, ?_⟩
        rw [byteLength_cons]
        omega
  · rintro ⟨rfl, rfl⟩
    exact cutAt?_append front rest

/-- The places where a text can be cut are the boundaries between its characters. -/
theorem isValid_iff_exists_cutAt? :
    (⟨n⟩ : String.Pos.Raw).IsValid (String.ofList cs) ↔
      ∃ front rest, cutAt? n cs = some (front, rest) := by
  rw [String.Pos.Raw.isValid_iff_exists_append]
  constructor
  · rintro ⟨front, rest, whole, place⟩
    have count : byteLength front.toList = n := by
      rw [byteLength_eq, String.ofList_toList]
      exact (congrArg String.Pos.Raw.byteIdx place).symm
    have split : front.toList ++ rest.toList = cs := by
      rw [← String.toList_append, ← whole, String.toList_ofList]
    exact ⟨front.toList, rest.toList, cutAt?_eq_some.2 ⟨split, count⟩⟩
  · rintro ⟨front, rest, cut⟩
    rcases cutAt?_eq_some.1 cut with ⟨rfl, rfl⟩
    refine ⟨String.ofList front, String.ofList rest, String.ofList_append, ?_⟩
    rw [byteLength_eq]
    rfl

/-! ## ASCII -/

theorem utf8Size_of_isDigit (h : c.isDigit = true) : c.utf8Size = 1 := by
  simp only [Char.isDigit, Bool.and_eq_true, decide_eq_true_eq] at h
  exact Char.utf8Size_eq_one_iff.2 (UInt32.le_trans h.2 (by decide))

theorem byteLength_of_isDigit (h : ∀ c ∈ ds, c.isDigit = true) : byteLength ds = ds.length := by
  induction ds with
  | nil =>
      rfl
  | cons c ds ih =>
      rw [List.forall_mem_cons] at h
      rw [byteLength_cons, utf8Size_of_isDigit h.1, ih h.2, List.length_cons, Nat.add_comm]

/-- An ASCII character is one byte, and the first byte of any other character is none of ASCII. -/
theorem exists_bytes_cons (c : Char) (cs : List Char) :
    ∃ b more, bytes (c :: cs) = b :: (more ++ bytes cs) ∧
      (b.toNat = c.toNat ∧ more = [] ∨ 128 ≤ b.toNat ∧ 128 ≤ c.toNat) := by
  have value : c.toNat = c.val.toNat := rfl
  rw [bytes, List.flatMap_cons, value]
  simp only [String.utf8EncodeChar]
  generalize c.val.toNat = n
  have byte : ∀ k < 256, (UInt8.ofNat k).toNat = k := fun _ => UInt8.toNat_ofNat_of_lt'
  have lead : ∀ k < 256, 192 ≤ k → 128 ≤ (UInt8.ofNat k).toNat := by
    intro k fits high
    rw [byte k fits]
    omega
  split
  · exact ⟨_, [], rfl, .inl ⟨byte n (by omega), rfl⟩⟩
  · split
    · exact ⟨_, [_], rfl, .inr ⟨lead _ (by omega) (by omega), by omega⟩⟩
    · split
      · exact ⟨_, [_, _], rfl, .inr ⟨lead _ (by omega) (by omega), by omega⟩⟩
      · exact ⟨_, [_, _, _], rfl, .inr ⟨lead _ (by omega) (by omega), by omega⟩⟩

theorem isDigitByte_eq (b : UInt8) :
    isDigitByte b = (decide (48 ≤ b.toNat) && decide (b.toNat ≤ 57)) := by
  simp only [isDigitByte, UInt8.le_iff_toNat_le]
  rfl

/-- As many bytes as characters are digits at the beginning of a text. -/
theorem length_takeWhile_isDigitByte (n : Nat) (cs : List Char) :
    (((bytes cs).take n).takeWhile isDigitByte).length =
      ((cs.take n).takeWhile Char.isDigit).length := by
  induction cs generalizing n with
  | nil =>
      simp [bytes]
  | cons c cs ih =>
      cases n with
      | zero =>
          simp
      | succ n =>
          rcases exists_bytes_cons c cs with ⟨b, more, split, same⟩
          have digit_eq : c.isDigit = (decide (48 ≤ c.toNat) && decide (c.toNat ≤ 57)) := rfl
          rw [split, List.take_succ_cons, List.take_succ_cons]
          by_cases digit : c.isDigit = true
          · rcases same with ⟨same, rfl⟩ | ⟨-, high⟩
            · have digit_byte : isDigitByte b = true := by
                rwa [isDigitByte_eq, same, ← digit_eq]
              rw [List.takeWhile_cons_of_pos digit, List.takeWhile_cons_of_pos digit_byte,
                List.nil_append, List.length_cons, List.length_cons, ih]
            · simp only [digit_eq, Bool.and_eq_true, decide_eq_true_eq] at digit
              omega
          · have other : ¬ isDigitByte b = true := by
              rw [isDigitByte_eq]
              rcases same with ⟨same, -⟩ | ⟨high, -⟩
              · rwa [same, ← digit_eq]
              · simp only [Bool.and_eq_true, decide_eq_true_eq]
                omega
            rw [List.takeWhile_cons_of_neg digit, List.takeWhile_cons_of_neg other]
            rfl

theorem utf8Size_toLower (c : Char) : c.toLower.utf8Size = c.utf8Size := by
  unfold Char.toLower
  split
  · -- A capital and its small letter are both ASCII.
    rw [Char.utf8Size_eq_one_iff.2, Char.utf8Size_eq_one_iff.2]
    all_goals grind
  · rfl

theorem byteLength_lowered (cs : List Char) : byteLength (lowered cs) = byteLength cs := by
  induction cs with
  | nil =>
      rfl
  | cons c cs ih =>
      rw [byteLength_cons, ← ih, ← utf8Size_toLower c]
      exact byteLength_cons _ _

theorem length_of_sameLetters (h : sameLetters cs word = true) : cs.length = word.length := by
  simpa [lowered] using congrArg List.length (eq_of_beq h)

theorem byteLength_of_sameLetters (h : sameLetters cs word = true) :
    byteLength cs = byteLength word := by
  rw [← byteLength_lowered cs, ← byteLength_lowered word, eq_of_beq h]

/-- A keyword in ASCII is found in a text by so many bytes or by so many characters. -/
theorem sameLetters_take (length : word.length = n) (ascii : byteLength word = n) :
    sameLetters (cs.take n) word = (cutAt? n cs).any fun parts => sameLetters parts.1 word := by
  rw [Bool.eq_iff_iff, Option.any_eq_true]
  constructor
  · intro same
    have count : byteLength (cs.take n) = n := (byteLength_of_sameLetters same).trans ascii
    exact ⟨_, cutAt?_eq_some.2 ⟨List.take_append_drop n cs, count⟩, same⟩
  · rintro ⟨⟨front, rest⟩, cut, same⟩
    rcases cutAt?_eq_some.1 cut with ⟨rfl, -⟩
    rwa [← length, ← length_of_sameLetters same, List.take_left]

/-- The same for the first of several keywords that have so many letters each. -/
theorem findIdx?_sameLetters_take {words : List (List Char)}
    (ascii : ∀ word ∈ words, word.length = n ∧ byteLength word = n) :
    words.findIdx? (sameLetters (cs.take n)) =
      (cutAt? n cs).bind fun parts => words.findIdx? (sameLetters parts.1) := by
  induction words with
  | nil =>
      cases cutAt? n cs <;> rfl
  | cons word words ih =>
      rw [List.forall_mem_cons] at ascii
      rcases ascii with ⟨⟨length, count⟩, later⟩
      rw [List.findIdx?_cons, sameLetters_take length count, ih later]
      cases cutAt? n cs with
      | none =>
          rfl
      | some parts =>
          rw [Option.any_some, Option.bind_some, Option.bind_some, List.findIdx?_cons]

end Text
end RefFrame
