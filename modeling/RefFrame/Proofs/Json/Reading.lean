import RefFrame.Json.Printer
import RefFrame.Json.Reader

/-!
# Reading what was written

A text is written by `Json.compact` and read by `Json.read?`. A written string is read as it was, whatever
characters it holds (`spanString_flatMap`), the tokens of a written tree are cut as they were put together
(`tokens?_flatMap`), and the machine that they drive ends with the tree (`run_tokens`). So a tree without
numbers is read from its own text (`readWithin?_compact`).
-/

namespace RefFrame

namespace Members

variable {ms done : Members} {k : String} {v : Json}

theorem insert_of_not_mem (new : k ∉ ms.keys) : ms.insert k v = ms ++ [(k, v)] := by
  induction ms with
  | nil =>
      rfl
  | cons m ms ih =>
      rcases m with ⟨k', w⟩
      have other : k' ≠ k := fun same => new (same ▸ List.mem_cons_self)
      have later := ih fun mem => new (List.mem_cons_of_mem _ mem)
      simp only [insert, if_neg other, later, List.cons_append]

theorem not_mem_keys_of_nodup (once : (keys (done ++ (k, v) :: ms)).Nodup) : k ∉ done.keys := by
  rw [keys, List.map_append, List.map_cons] at once
  intro mem
  exact (List.nodup_append.1 once).2.2 k mem k List.mem_cons_self rfl

end Members

namespace Json

variable {c : Char} {done : List Nat} {rest s : List Char} {n : Nat}

/-! ## Strings -/

theorem codeUnit?_hexDigits (h : n < 0x20) :
    codeUnit? '0' '0' (hexDigit (n / 16)) (hexDigit n) = some n := by
  have each : ∀ n < 0x20, codeUnit? '0' '0' (hexDigit (n / 16)) (hexDigit n) = some n := by decide
  exact each n h

theorem spanUnits_plain (noQuote : c ≠ '"') (noBackslash : c ≠ '\\') (visible : ¬ c.toNat < 0x20) :
    spanUnits done (c :: rest) = spanUnits (c.toNat :: done) rest := by
  have noEscape : ¬ (c.toNat < 0x20 ∨ c = '\\') := not_or.2 ⟨visible, noBackslash⟩
  rw [spanUnits, if_neg noEscape]
  · exact noQuote
  · rintro _ _ _ _ _ rfl
    exact fun _ => noBackslash rfl
  · exact fun _ _ same _ => noBackslash same

/-- However a character is written, it is read as one unit. -/
theorem spanUnits_escaped (c : Char) (done : List Nat) (rest : List Char) :
    spanUnits done (escaped c ++ rest) = spanUnits (c.toNat :: done) rest := by
  by_cases short : c = '"' ∨ c = '\\' ∨ c = '\n' ∨ c = '\r' ∨ c = '\t' ∨ c = '\x08' ∨ c = '\x0c'
  · rcases short with rfl | rfl | rfl | rfl | rfl | rfl | rfl <;> rfl
  · simp only [not_or] at short
    rcases short with ⟨quote, backslash, line, carriage, tab, back, form⟩
    -- The last two of them are told by their numbers.
    have back' : ¬ c.toNat = 0x08 := fun same => back (Char.toNat_inj.1 same)
    have form' : ¬ c.toNat = 0x0c := fun same => form (Char.toNat_inj.1 same)
    simp only [escaped, quote, backslash, line, carriage, tab, back', form', if_false]
    by_cases control : c.toNat < 0x20
    · simp [control, spanUnits, codeUnit?_hexDigits control]
    · rw [if_neg control]
      exact spanUnits_plain quote backslash control

theorem spanUnits_flatMap (s : List Char) (done : List Nat) (rest : List Char) :
    spanUnits done (s.flatMap escaped ++ '"' :: rest) =
      some (done.reverse ++ s.map Char.toNat, rest) := by
  induction s generalizing done with
  | nil =>
      simp [spanUnits]
  | cons c s ih =>
      rw [List.flatMap_cons, List.append_assoc, spanUnits_escaped, ih]
      simp

-- No character is half of a surrogate pair.
theorem isLeading_toNat (c : Char) : isLeading c.toNat = false := by
  have valid : c.toNat < 0xd800 ∨ 0xdfff < c.toNat ∧ c.toNat < 0x110000 := c.valid
  simp only [isLeading, Bool.and_eq_false_iff, decide_eq_false_iff_not]
  omega

theorem isTrailing_toNat (c : Char) : isTrailing c.toNat = false := by
  have valid : c.toNat < 0xd800 ∨ 0xdfff < c.toNat ∧ c.toNat < 0x110000 := c.valid
  simp only [isTrailing, Bool.and_eq_false_iff, decide_eq_false_iff_not]
  omega

theorem joinUnits_toNat (s : List Char) : joinUnits (s.map Char.toNat) = some s := by
  induction s with
  | nil =>
      rfl
  | cons c s ih =>
      cases s with
      | nil =>
          simp [joinUnits, isLeading_toNat, isTrailing_toNat]
      | cons d s =>
          rw [List.map_cons] at ih
          simp [joinUnits, isLeading_toNat, isTrailing_toNat, ih]

/-- A written string is read as it was. -/
theorem spanString_flatMap (s rest : List Char) :
    spanString (s.flatMap escaped ++ '"' :: rest) = some (s, rest) := by
  simp [spanString, spanUnits_flatMap, joinUnits_toNat]

/-! ## Tokens -/

variable {t : Token} {ts : List Token}

/-- A token that is no number ends by itself, whatever comes behind it. -/
def Token.Closed : Token → Prop
  | .num _ => False
  | _ => True

theorem tokens?_cons [JsonLibrary] (rest : List Char) {tail : List Char} (visible : isBlank c = false)
    (h : Token.span c rest = some (t, tail)) :
    tokens? (c :: rest) = (tokens? tail).map (t :: ·) := by
  rw [tokens?, if_neg (Bool.eq_false_iff.1 visible)]
  split
  · rename_i missing
    rw [h] at missing
    cases missing
  · rename_i found
    rw [h] at found
    cases found
    rfl

theorem tokens?_text [JsonLibrary] (closed : t.Closed) (rest : List Char) :
    tokens? (t.text ++ rest) = (tokens? rest).map (t :: ·) := by
  cases t with
  | num n =>
      exact closed.elim
  | null =>
      have word : Token.null.text ++ rest = 'n' :: 'u' :: 'l' :: 'l' :: rest := by
        simp [Token.text]
      rw [word]
      exact tokens?_cons _ rfl (by simp [Token.span, dropWord?])
  | bool b =>
      cases b with
      | true =>
          have word : (Token.bool true).text ++ rest = 't' :: 'r' :: 'u' :: 'e' :: rest := by
            simp [Token.text]
          rw [word]
          exact tokens?_cons _ rfl (by simp [Token.span, dropWord?])
      | false =>
          have word : (Token.bool false).text ++ rest = 'f' :: 'a' :: 'l' :: 's' :: 'e' :: rest := by
            simp [Token.text]
          rw [word]
          exact tokens?_cons _ rfl (by simp [Token.span, dropWord?])
  | str s =>
      have quoted : (Token.str s).text ++ rest = '"' :: (s.flatMap escaped ++ '"' :: rest) := by
        simp [Token.text, quoted]
      rw [quoted]
      refine tokens?_cons _ rfl ?_
      simp [Token.span, spanString_flatMap]
  | _ =>
      exact tokens?_cons _ rfl rfl

theorem tokens?_flatMap [JsonLibrary] (closed : ∀ t ∈ ts, t.Closed) :
    tokens? (ts.flatMap Token.text) = some ts := by
  induction ts with
  | nil =>
      exact tokens?.eq_1
  | cons t ts ih =>
      rw [List.forall_mem_cons] at closed
      rw [List.flatMap_cons, tokens?_text closed.1, ih closed.2]
      rfl

/-! ## Trees -/

mutual

/-- A tree without numbers that is nested at most so deep and whose objects hold each key once. -/
def Legible (room : Nat) : Json → Prop
  | num _ => False
  | arr es => 0 < room ∧ LegibleAll (room - 1) es
  | obj ms => 0 < room ∧ (Members.keys ms).Nodup ∧ LegibleMembers (room - 1) ms
  | _ => True

/-- `Legible` of every element. -/
def LegibleAll (room : Nat) : List Json → Prop
  | [] => True
  | e :: es => Legible room e ∧ LegibleAll room es

/-- `Legible` of every member's value. -/
def LegibleMembers (room : Nat) : List (String × Json) → Prop
  | [] => True
  | (_, e) :: ms => Legible room e ∧ LegibleMembers room ms

end

mutual

theorem closed_tokens {room : Nat} : (v : Json) → Legible room v → ∀ t ∈ v.tokens, t.Closed
  | .null, _ => by simp [tokens, Token.Closed]
  | .bool b, _ => by simp [tokens, Token.Closed]
  | .num _, h => h.elim
  | .str s, _ => by simp [tokens, Token.Closed]
  | .arr es, h => by
      simpa [tokens, Token.Closed, or_imp, forall_and] using closed_elementTokens es h.2
  | .obj ms, h => by
      simpa [tokens, Token.Closed, or_imp, forall_and] using closed_memberTokens ms h.2.2

theorem closed_elementTokens {room : Nat} :
    (es : List Json) → LegibleAll room es → ∀ t ∈ elementTokens es, t.Closed
  | [], _ => by simp [elementTokens]
  | [e], h => closed_tokens e h.1
  | e :: e' :: es, h => by
      simpa [elementTokens, Token.Closed, or_imp, forall_and] using
        ⟨closed_tokens e h.1, closed_elementTokens (e' :: es) h.2⟩

theorem closed_memberTokens {room : Nat} :
    (ms : List (String × Json)) → LegibleMembers room ms → ∀ t ∈ memberTokens ms, t.Closed
  | [], _ => by simp [memberTokens]
  | [(k, v)], h => by
      simpa [memberTokens, Token.Closed, or_imp, forall_and] using closed_tokens v h.1
  | (k, v) :: m :: ms, h => by
      simpa [memberTokens, Token.Closed, or_imp, forall_and] using
        ⟨closed_tokens v h.1, closed_memberTokens (m :: ms) h.2⟩

end

variable {limit : Nat} {frames : List Frame}

/-- The first element of an array is read like any other one. -/
theorem run_firstElement {es : List Json} (some_element : es ≠ []) (ts : List Token) :
    Reading.run limit (.firstElement frames) (elementTokens es ++ ts) =
      Reading.run limit (.value (.elements [] :: frames)) (elementTokens es ++ ts) := by
  have first (e : Json) (ts : List Token) :
      Reading.run limit (.firstElement frames) (e.tokens ++ ts) =
        Reading.run limit (.value (.elements [] :: frames)) (e.tokens ++ ts) := by
    cases e <;> rfl
  match es with
  | [] => exact absurd rfl some_element
  | [e] => exact first e ts
  | e :: e' :: es => simp only [elementTokens, List.append_assoc, first]

/-- So is the first key of an object. -/
theorem run_firstKey {ms : Members} (some_member : ms ≠ []) (ts : List Token) :
    Reading.run limit (.firstKey frames) (memberTokens ms ++ ts) =
      Reading.run limit (.nextKey [] frames) (memberTokens ms ++ ts) := by
  match ms with
  | [] => exact absurd rfl some_member
  | [m] => rfl
  | m :: m' :: ms => rfl

/-- A key and its colon lead to the value. -/
theorem run_nextKey {k : String} {done : Members} (ts : List Token) :
    Reading.run limit (.nextKey done frames) (.str k.toList :: .colon :: ts) =
      Reading.run limit (.value (.member done k :: frames)) ts := by
  simp [Reading.run, Reading.step]

-- Any containers may be open around a tree, so that its case serves for the elements of arrays and the
-- members of objects, which are read inside of one container more.
mutual

/-- The machine reads the tokens of a tree and puts the tree where it was to come. -/
theorem run_tokens : (v : Json) → (frames : List Frame) → (ts : List Token) →
    Legible (limit - frames.length) v →
      Reading.run limit (.value frames) (v.tokens ++ ts) =
        Reading.run limit (Reading.put v frames) ts
  | .null, _, _, _ => rfl
  | .bool _, _, _, _ => rfl
  | .num _, _, _, h => h.elim
  | .str s, frames, ts, _ => by
      simp [tokens, Reading.run, Reading.step, Reading.begin]
  | .arr es, frames, ts, h => by
      have room : frames.length < limit := Nat.lt_of_sub_pos h.1
      have opened : Reading.run limit (.value frames) ((Json.arr es).tokens ++ ts) =
          Reading.run limit (.firstElement frames) (elementTokens es ++ .closeArray :: ts) := by
        simp [tokens, Reading.run, Reading.step, Reading.begin, room]
      rw [opened]
      by_cases none : es = []
      · rw [none]
        rfl
      · rw [run_firstElement none]
        exact run_elementTokens es [] frames ts none h.2
  | .obj ms, frames, ts, h => by
      have room : frames.length < limit := Nat.lt_of_sub_pos h.1
      have opened : Reading.run limit (.value frames) ((Json.obj ms).tokens ++ ts) =
          Reading.run limit (.firstKey frames) (memberTokens ms ++ .closeObject :: ts) := by
        simp [tokens, Reading.run, Reading.step, Reading.begin, room]
      rw [opened]
      by_cases none : ms = []
      · rw [none]
        rfl
      · rw [run_firstKey none]
        exact run_memberTokens ms [] frames ts none h.2.1 h.2.2

theorem run_elementTokens : (es done : List Json) → (frames : List Frame) → (ts : List Token) →
    es ≠ [] → LegibleAll (limit - frames.length - 1) es →
      Reading.run limit (.value (.elements done :: frames)) (elementTokens es ++ .closeArray :: ts) =
        Reading.run limit (Reading.put (.arr (done.reverse ++ es)) frames) ts
  | [], _, _, _, some_element, _ => absurd rfl some_element
  | [e], done, frames, ts, _, h => by
      rw [elementTokens, run_tokens e (.elements done :: frames) _ h.1]
      simp [Reading.put, Reading.run, Reading.step]
  | e :: e' :: es, done, frames, ts, _, h => by
      have rest := run_elementTokens (e' :: es) (e :: done) frames ts (List.cons_ne_nil _ _) h.2
      rw [List.reverse_cons, List.append_assoc, List.singleton_append] at rest
      simp only [elementTokens, List.append_assoc, List.cons_append]
      rw [run_tokens e (.elements done :: frames) _ h.1, ← rest]
      rfl

theorem run_memberTokens : (ms : List (String × Json)) → (done : Members) → (frames : List Frame) →
    (ts : List Token) → ms ≠ [] → (Members.keys (done ++ ms)).Nodup →
      LegibleMembers (limit - frames.length - 1) ms →
      Reading.run limit (.nextKey done frames) (memberTokens ms ++ .closeObject :: ts) =
        Reading.run limit (Reading.put (.obj (done ++ ms)) frames) ts
  | [], _, _, _, some_member, _, _ => absurd rfl some_member
  | [(k, v)], done, frames, ts, _, once, h => by
      have whole := Members.insert_of_not_mem (v := v) (Members.not_mem_keys_of_nodup once)
      simp only [memberTokens, List.cons_append]
      rw [run_nextKey, run_tokens v (.member done k :: frames) _ h.1, ← whole]
      rfl
  | (k, v) :: m :: ms, done, frames, ts, _, once, h => by
      -- The key is not among those before it, so its member comes last.
      have whole := Members.insert_of_not_mem (v := v) (Members.not_mem_keys_of_nodup once)
      have once' : (Members.keys (done.insert k v ++ m :: ms)).Nodup := by
        rwa [whole, List.append_assoc, List.singleton_append]
      have rest := run_memberTokens (m :: ms) (done.insert k v) frames ts (List.cons_ne_nil _ _) once' h.2
      rw [whole, List.append_assoc, List.singleton_append] at rest
      simp only [memberTokens, List.append_assoc, List.cons_append]
      rw [run_nextKey, run_tokens v (.member done k :: frames) _ h.1, ← rest, ← whole]
      rfl

end

/-- A text holds the tree that the machine makes of its tokens. -/
theorem readWithin?_of_tokens? [JsonLibrary] {text : String} {ts : List Token} {v : Json}
    (cut : tokens? text.toList = some ts)
    (read : Reading.run limit (.value []) ts = some (.complete v)) : readWithin? limit text = some v := by
  simp only [readWithin?, cut, read, Option.bind_eq_bind, Option.bind_some]

/-- A tree without numbers whose objects hold each key once is read from its text, if it is not nested too
deep. -/
theorem readWithin?_compact [JsonLibrary] {v : Json} (h : Legible limit v) :
    readWithin? limit v.compact = some v := by
  have cut : tokens? v.compact.toList = some v.tokens := by
    rw [compact, String.toList_ofList]
    exact tokens?_flatMap (closed_tokens v h)
  have read : Reading.run limit (.value []) v.tokens = some (.complete v) := by
    have whole := run_tokens v [] [] h
    rwa [List.append_nil] at whole
  exact readWithin?_of_tokens? cut read

end Json
end RefFrame
