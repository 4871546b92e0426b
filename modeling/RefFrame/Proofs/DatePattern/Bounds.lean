import RefFrame.DatePattern.WrittenTime
import RefFrame.Proofs.DatePattern.Compiled
import RefFrame.Proofs.Text.Digits

/-!
# What a pattern can read

A compiled pattern asks for a year in four digits, or in the two of this century, and for no more
than nine digits of a second. So a text that it reads names a date in the years from 0 to 9999, and a
fraction that is less than a second.

The bound is carried from the tokens to the data that they read, and from the data to what has been
captured in the end.
-/

namespace RefFrame

/-! ## Tokens -/

/-- The digits of years and fractions are few enough. -/
def DateToken.Bounded : DateToken → Prop
  | .number .year _ greatest => greatest ≤ 4
  | .fraction digits => digits ≤ 9
  | _ => True

theorem DateToken.Proper.bounded {t : DateToken} (h : t.Proper) : t.Bounded := by
  cases h with
  | @short field other =>
      cases field <;> simp_all [DateToken.Bounded]
  | @full field other =>
      cases field <;> simp_all [DateToken.Bounded]
  | year =>
      exact Nat.le_refl 4
  | fraction _ few =>
      exact few
  | _ =>
      trivial

/-- Every token of a compiled pattern is bounded. -/
theorem DatePattern.bounded_compile {text : String} {p : DatePattern} (h : compile text = .ok p) :
    ∀ t ∈ p.tokens, t.Bounded :=
  fun t mem => (proper_compile h t mem).bounded

/-! ## Data -/

/-- The year has four digits, and the fraction is less than a second. -/
def Datum.Bounded : Datum → Prop
  | .number .year n => n < 10 ^ 4
  | .nano n => n < 10 ^ 9
  | _ => True

namespace DatePattern

variable {t : DateToken} {ts : List DateToken} {text cs rest : List Char} {d : Datum}
  {ds : List Datum}

/-- What a token with a number reads is the datum of the number. -/
theorem exists_number_of_read {least greatest : Nat} {g : Nat → Datum}
    (h : (match readDigits least greatest cs with
      | some (n, rest) => Except.ok (g n, rest)
      | none => .error Misfit.shape) = .ok (d, rest)) :
    ∃ n, readDigits least greatest cs = some (n, rest) ∧ d = g n := by
  split at h
  · rename_i n rest' found
    cases h
    exact ⟨n, found, rfl⟩
  · cases h

theorem bounded_readToken (bounded : t.Bounded) (h : readToken t cs = .ok (d, rest)) :
    d.Bounded := by
  cases t with
  | literal a =>
      simp only [readToken] at h
      split at h
      · cases h
        trivial
      · cases h
  | number field least greatest =>
      obtain ⟨n, digits, rfl⟩ := exists_number_of_read h
      cases field with
      | year =>
          have few : greatest ≤ 4 := bounded
          exact Nat.lt_of_lt_of_le (readDigits_lt digits) (Nat.pow_le_pow_right (by decide) few)
      | _ =>
          trivial
  | shortYear =>
      obtain ⟨n, digits, rfl⟩ := exists_number_of_read h
      have few : n < 10 ^ 2 := readDigits_lt digits
      -- Two digits stand for a year of this century.
      show 2000 + n < 10 ^ 4
      omega
  | monthName =>
      cases name : monthOfName? (cs.take 3) with
      | none =>
          simp [readToken, name] at h
      | some n =>
          simp only [readToken, name, Except.ok.injEq, Prod.mk.injEq] at h
          rcases h with ⟨rfl, -⟩
          trivial
  | fraction count =>
      obtain ⟨n, digits, rfl⟩ := exists_number_of_read h
      have few : count ≤ 9 := bounded
      have less : n < 10 ^ count := readDigits_lt digits
      calc
        n * 10 ^ (9 - count) < 10 ^ count * 10 ^ (9 - count) :=
          Nat.mul_lt_mul_of_pos_right less (Nat.pow_pos (by decide))
        _ = 10 ^ 9 := by
          rw [← Nat.pow_add, Nat.add_sub_cancel' few]
  | halfDay =>
      simp only [readToken] at h
      split at h
      · cases h
        trivial
      · split at h
        · cases h
          trivial
        · cases h
  | offset =>
      cases found : readOffset cs with
      | error e =>
          simp [readToken, found] at h
      | ok result =>
          simp only [readToken, found, Except.ok.injEq, Prod.mk.injEq] at h
          rcases h with ⟨rfl, -⟩
          trivial

theorem scanRest_cons_eq_ok :
    scanRest text (t :: ts) cs = .ok ds ↔
      ∃ d rest ds', readToken t cs = .ok (d, rest) ∧ scanRest text ts rest = .ok ds' ∧
        ds = d :: ds' := by
  cases first : readToken t cs with
  | error e =>
      simp [scanRest, first]
  | ok found =>
      rcases found with ⟨d, rest⟩
      cases later : scanRest text ts rest with
      | error e =>
          simp [scanRest, first, later]
      | ok ds' =>
          constructor
          · intro h
            simp only [scanRest, first, later, Except.ok.injEq] at h
            exact ⟨d, rest, ds', rfl, later, h.symm⟩
          · rintro ⟨d', rest', ds'', ⟨⟩, later', rfl⟩
            rw [later] at later'
            cases later'
            simp [scanRest, first, later]

theorem scanRest_cons_eq_error {fault : DateFault} :
    scanRest text (t :: ts) cs = .error fault ↔
      (∃ misfit, readToken t cs = .error misfit ∧ misfit.fault text cs = fault) ∨
        ∃ d rest, readToken t cs = .ok (d, rest) ∧ scanRest text ts rest = .error fault := by
  constructor
  · intro h
    unfold scanRest at h
    split at h
    · rename_i misfit first
      exact .inl ⟨misfit, first, Except.error.inj h⟩
    · rename_i d rest first
      split at h
      · rename_i fault' later
        exact .inr ⟨d, rest, first, later.trans h⟩
      · cases h
  · rintro (⟨misfit, first, rfl⟩ | ⟨d, rest, first, later⟩)
    · simp only [scanRest, first]
    · simp only [scanRest, first, later]

theorem bounded_scanRest (bounded : ∀ t ∈ ts, t.Bounded) (h : scanRest text ts cs = .ok ds) :
    ∀ d ∈ ds, d.Bounded := by
  induction ts generalizing cs ds with
  | nil =>
      cases cs with
      | nil =>
          cases h
          simp
      | cons c cs =>
          cases h
  | cons t ts ih =>
      rcases scanRest_cons_eq_ok.1 h with ⟨d, rest, ds', first, later, rfl⟩
      intro d' mem
      rcases List.mem_cons.1 mem with rfl | mem
      · exact bounded_readToken (bounded t List.mem_cons_self) first
      · exact ih (fun t' mem' => bounded t' (List.mem_cons_of_mem t mem')) later d' mem

end DatePattern

/-! ## What is captured -/

namespace Captured

variable {c : Captured} {d : Datum} {ds : List Datum} {n : Nat}

/-- The captured year has four digits, and the captured fraction is less than a second. -/
structure Bounded (c : Captured) : Prop where
  year : ∀ n, c.year = some n → n < 10 ^ 4
  nano : ∀ n, c.nano = some n → n < 10 ^ 9

theorem Bounded.put (h : c.Bounded) (bounded : d.Bounded) : (c.put d).Bounded := by
  cases d with
  | number field n =>
      cases field with
      | year =>
          refine ⟨?_, h.nano⟩
          rintro m ⟨⟩
          exact bounded
      | _ =>
          exact ⟨h.year, h.nano⟩
  | nano n =>
      refine ⟨h.year, ?_⟩
      rintro m ⟨⟩
      exact bounded
  | _ =>
      exact ⟨h.year, h.nano⟩

theorem bounded_foldl_put (h : c.Bounded) (bounded : ∀ d ∈ ds, d.Bounded) :
    (ds.foldl put c).Bounded := by
  induction ds generalizing c with
  | nil =>
      exact h
  | cons d ds ih =>
      exact ih (h.put (bounded d List.mem_cons_self))
        fun d' mem => bounded d' (List.mem_cons_of_mem d mem)

theorem bounded_ofData (bounded : ∀ d ∈ ds, d.Bounded) : (ofData ds).Bounded :=
  bounded_foldl_put ⟨by simp, by simp⟩ bounded

theorem le_of_checkRange {f : DateField} (h : checkRange f n = .ok ()) :
    f.bounds.1 ≤ n ∧ n ≤ f.bounds.2 := by
  unfold checkRange at h
  split at h
  · assumption
  · cases h

theorem le_of_checkRanges (h : c.checkRanges = .ok ()) {f : DateField} (mem : (f, n) ∈ c.ranged) :
    f.bounds.1 ≤ n ∧ n ≤ f.bounds.2 := by
  have each := ok_of_forM h mem
  exact le_of_checkRange each

theorem date_eq_ok {date : Date} (h : c.date = .ok date) :
    ∃ y, c.year = some y ∧ date.year = y ∧ c.month = some date.month ∧ c.day = some date.day ∧
      date.IsValid := by
  unfold Captured.date at h
  split at h
  · rename_i y m d year month day
    dsimp only at h
    split at h
    · cases h
      exact ⟨y, year, rfl, month, day, by assumption⟩
    · cases h
  · cases h

theorem hourOfDay_lt (checked : c.checkRanges = .ok ()) {hour : Nat}
    (h : c.hourOfDay = .ok (some hour)) : hour < 24 := by
  unfold hourOfDay at h
  split at h
  · rename_i found _ _
    cases h
    have listed : (DateField.hour, hour) ∈ c.ranged := by simp [ranged, found]
    exact Nat.lt_succ_of_le (le_of_checkRanges checked listed).2
  · rename_i clock pm _ found _
    simp only [Except.ok.injEq, Option.some.injEq] at h
    subst h
    split <;> omega
  · cases h
  · cases h
  · cases h
  · cases h
  · cases h

theorem getD_le_of_checkRanges (h : c.checkRanges = .ok ()) {f : DateField} {o : Option Nat}
    (listed : ∀ n, o = some n → (f, n) ∈ c.ranged) : o.getD 0 ≤ f.bounds.2 := by
  cases found : o with
  | none =>
      exact Nat.zero_le _
  | some n =>
      exact (le_of_checkRanges h (listed n found)).2

theorem isValid_time (bounded : c.Bounded) (checked : c.checkRanges = .ok ())
    {hour : Option Nat} (h : c.hourOfDay = .ok hour) :
    ((c.time hour).getD .midnight).IsValid := by
  have hours : hour.getD 0 < 24 := by
    cases hour with
    | none =>
        decide
    | some n =>
        exact hourOfDay_lt checked h
  have minutes : c.minute.getD 0 ≤ 59 := by
    apply getD_le_of_checkRanges (f := .minute) checked
    intro n minute
    simp [ranged, minute]
  have seconds : c.second.getD 0 ≤ 59 := by
    apply getD_le_of_checkRanges (f := .second) checked
    intro n second
    simp [ranged, second]
  have nanos : c.nano.getD 0 < 10 ^ 9 := by
    cases nano : c.nano with
    | none =>
        decide
    | some n =>
        exact bounded.nano n nano
  unfold time
  split
  · exact ⟨hours, Nat.lt_succ_of_le minutes, Nat.lt_succ_of_le seconds, nanos⟩
  · decide

/-- What has been captured makes a civil time that exists, in a year of four digits. -/
theorem written_spec {w : WrittenTime} (bounded : c.Bounded) (checked : c.checkRanges = .ok ())
    (h : c.written = .ok w) :
    w.civil.IsValid ∧ 0 ≤ w.date.year ∧ w.date.year ≤ 9999 := by
  simp only [written, bind_ok_iff, pure_ok_iff] at h
  rcases h with ⟨date', date, hour', hour, rfl⟩
  rcases date_eq_ok date with ⟨y, year, same, -, -, valid⟩
  have few : y < 10 ^ 4 := bounded.year y year
  refine ⟨⟨valid, ?_⟩, by simp [same], ?_⟩
  · exact isValid_time bounded checked hour
  · simp only [same]
    omega

end Captured
end RefFrame
