import RefFrame.Proofs.DatePattern.Spelling
import RefFrame.Proofs.Fallible

/-!
# The shape of a text

The shape of a text is what its pattern makes of it whatever the values of its numbers are: an offset has
a shape (`OffsetShape`) even if there is no offset that big. A text fits a pattern if it is cut into pieces
of the right shapes (`FitsAll`), and otherwise it is stuck somewhere: no token is left, or the next one
finds nothing of its shape (`Stuck`).

Values are checked when the whole text is read, but for the offset, which is checked as soon as it is
there. So an offset that is too big hides what comes after it. `DatePattern.read_misfit` says which texts
are refused for their shape, and which for a value.
-/

namespace RefFrame
namespace DatePattern

open Text

variable {n m : Nat} {cs piece piece' rest rest' left text : List Char} {t : DateToken}
  {ts : List DateToken} {d : Datum} {ds : List Datum} {f : RangeFault} {fault : DateFault}
  {p : DatePattern}

/-! ## Tokens -/

/-- A piece of a text has the shape of a token, with `rest` behind it. -/
inductive Fits : DateToken → List Char → List Char → Prop
  | spelt {t : DateToken} {d : Datum} {piece rest : List Char} :
      t ≠ .offset → Spells t d piece rest → Fits t piece rest
  | offset {n m : Nat} {piece rest : List Char} :
      OffsetShape n m piece rest → Fits .offset piece rest

/-- A text is cut into pieces, one for each token, and each has its shape. -/
inductive FitsAll : List DateToken → List Char → Prop
  | nil :
      FitsAll [] []
  | cons {t : DateToken} {ts : List DateToken} {piece rest : List Char} :
      Fits t piece rest → FitsAll ts rest → FitsAll (t :: ts) (piece ++ rest)

/-- A text fits up to `left`, where the tokens end too early or the next one finds nothing of its shape. -/
inductive Stuck : List DateToken → List Char → List Char → Prop
  | beyond {c : Char} {cs : List Char} :
      Stuck [] (c :: cs) (c :: cs)
  | here {t : DateToken} {ts : List DateToken} {cs : List Char} :
      (∀ piece rest, cs = piece ++ rest → ¬ Fits t piece rest) → Stuck (t :: ts) cs cs
  | later {t : DateToken} {ts : List DateToken} {piece rest left : List Char} :
      Fits t piece rest → Stuck ts rest left → Stuck (t :: ts) (piece ++ rest) left

/-- An offset that is too big comes up, and all before it says something. -/
inductive Oversized : List DateToken → List Char → RangeFault → Prop
  | here {ts : List DateToken} {n m : Nat} {piece rest : List Char} {f : RangeFault} :
      OffsetShape n m piece rest → OffsetFault n m f → Oversized (.offset :: ts) (piece ++ rest) f
  | later {t : DateToken} {ts : List DateToken} {d : Datum} {piece rest : List Char}
      {f : RangeFault} :
      Spells t d piece rest → Oversized ts rest f → Oversized (t :: ts) (piece ++ rest) f

theorem Spells.fits (h : Spells t d piece rest) : Fits t piece rest := by
  -- Only the shape of an offset does not depend on what it stands for.
  by_cases other : t = .offset
  · subst other
    cases h with
    | offset spelt =>
        rcases spelt.shape with ⟨n, m, shape⟩
        exact .offset shape
  · exact .spelt other h

theorem SpellsAll.fitsAll (h : SpellsAll ts ds cs) : FitsAll ts cs := by
  induction h with
  | nil =>
      exact .nil
  | cons spelt later ih =>
      exact .cons spelt.fits ih

theorem readToken_eq_range :
    readToken t cs = .error (.range f) ↔
      t = .offset ∧ ∃ n m piece rest, cs = piece ++ rest ∧ OffsetShape n m piece rest ∧
        OffsetFault n m f := by
  constructor
  · intro read
    cases t with
    | offset =>
        refine ⟨rfl, readOffset_eq_range.1 ?_⟩
        simp only [readToken] at read
        split at read
        · cases read
        · rename_i e found
          rw [found, Except.error.inj read]
    | _ =>
        -- No other token looks at a value.
        simp only [readToken] at read
        repeat' split at read
        all_goals cases read
  · rintro ⟨rfl, shaped⟩
    simp only [readToken, readOffset_eq_range.2 shaped]

/-- What has the shape of a token says something, or it is an offset that is too big. -/
theorem Fits.spells_or_fault (h : Fits t piece rest) :
    (∃ d, Spells t d piece rest) ∨
      t = .offset ∧ ∃ n m f, OffsetShape n m piece rest ∧ OffsetFault n m f := by
  cases h with
  | spelt _ spelt =>
      exact .inl ⟨_, spelt⟩
  | offset shape =>
      rcases shape.spells_or_fault with ⟨s, spelt⟩ | ⟨f, wrong⟩
      · exact .inl ⟨_, .offset spelt⟩
      · exact .inr ⟨rfl, _, _, f, shape, wrong⟩

theorem readToken_eq_shape :
    readToken t cs = .error .shape ↔ ∀ piece rest, cs = piece ++ rest → ¬ Fits t piece rest := by
  constructor
  · rintro unread piece rest rfl fits
    rcases fits.spells_or_fault with ⟨d, spelt⟩ | ⟨rfl, n, m, f, shape, wrong⟩
    · cases unread.symm.trans (readToken_of_spells spelt)
    · cases unread.symm.trans (readToken_eq_range.2 ⟨rfl, n, m, piece, rest, rfl, shape, wrong⟩)
  · intro nothing
    cases read : readToken t cs with
    | error misfit =>
        cases misfit with
        | shape =>
            rfl
        | range f =>
            rcases readToken_eq_range.1 read with ⟨rfl, n, m, piece, rest, split, shape, -⟩
            exact absurd (.offset shape) (nothing piece rest split)
    | ok found =>
        rcases found with ⟨d, rest⟩
        rcases readToken_eq_ok.1 read with ⟨piece, split, spelt⟩
        exact absurd spelt.fits (nothing piece rest split)

/-! ## Whole texts -/

/-- A text is refused for a value before it is read to its end if an offset comes up that is too big. -/
theorem scanRest_eq_range : scanRest text ts cs = .error (.range f) ↔ Oversized ts cs f := by
  constructor
  · intro read
    -- What is left of the text is general, as each token leaves another rest.
    induction ts generalizing cs with
    | nil =>
        rcases cs with _ | ⟨c, cs⟩
        · cases read
        · cases read
    | cons t ts ih =>
        rcases scanRest_cons_eq_error.1 read with ⟨misfit, first, said⟩ | ⟨d, rest, first, later⟩
        · cases misfit with
          | shape =>
              cases said
          | range f' =>
              obtain rfl := DateFault.range.inj said
              rcases readToken_eq_range.1 first with ⟨rfl, n, m, piece, rest, rfl, shape, wrong⟩
              exact .here shape wrong
        · rcases readToken_eq_ok.1 first with ⟨piece, rfl, spelt⟩
          exact .later spelt (ih later)
  · intro oversized
    induction oversized with
    | here shape wrong =>
        have first := readToken_eq_range.2 ⟨rfl, _, _, _, _, rfl, shape, wrong⟩
        exact scanRest_cons_eq_error.2 (.inl ⟨_, first, rfl⟩)
    | later spelt oversized ih =>
        exact scanRest_cons_eq_error.2 (.inr ⟨_, _, readToken_of_spells spelt, ih⟩)

/-- A text is refused where it is stuck if all that comes before says something. -/
theorem Stuck.scanRest (h : Stuck ts cs left) (fair : ∀ f, ¬ Oversized ts cs f) :
    scanRest text ts cs = .error (Misfit.shape.fault text left) := by
  induction h with
  | beyond =>
      rfl
  | here nothing =>
      exact scanRest_cons_eq_error.2 (.inl ⟨.shape, readToken_eq_shape.2 nothing, rfl⟩)
  | later fits stuck ih =>
      -- A piece that fits is read, or it is an offset that is too big, and there is none.
      cases fits.spells_or_fault with
      | inl spelt =>
          rcases spelt with ⟨d, spelt⟩
          have fair_later : ∀ f, ¬ Oversized _ _ f := fun f oversized => fair f (.later spelt oversized)
          exact scanRest_cons_eq_error.2 (.inr ⟨d, _, readToken_of_spells spelt, ih fair_later⟩)
      | inr wrong =>
          rcases wrong with ⟨rfl, n, m, f, shape, wrong⟩
          exact absurd (.here shape wrong) (fair f)

/-- A text is refused for its shape where it is stuck, unless an offset that is too big comes up before. -/
theorem scanRest_eq_shape {literal : String} {index : Nat} :
    scanRest text ts cs = .error (.shape literal index) ↔
      (∃ left, Stuck ts cs left ∧ Misfit.shape.fault text left = .shape literal index) ∧
        ∀ f, ¬ Oversized ts cs f := by
  constructor
  · intro read
    refine ⟨?_, fun f oversized => ?_⟩
    · induction ts generalizing cs with
      | nil =>
          rcases cs with _ | ⟨c, cs⟩
          · cases read
          · exact ⟨c :: cs, .beyond, Except.error.inj read⟩
      | cons t ts ih =>
          rcases scanRest_cons_eq_error.1 read with ⟨misfit, first, said⟩ | ⟨d, rest, first, later⟩
          · cases misfit with
            | shape =>
                exact ⟨cs, .here (readToken_eq_shape.1 first), said⟩
            | range f =>
                cases said
          · rcases readToken_eq_ok.1 first with ⟨piece, rfl, spelt⟩
            rcases ih later with ⟨left, stuck, said⟩
            exact ⟨left, .later spelt.fits stuck, said⟩
    · cases read.symm.trans (scanRest_eq_range.2 oversized)
  · rintro ⟨⟨left, stuck, said⟩, fair⟩
    rw [stuck.scanRest fair, said]

theorem Stuck.of_read (h : Stuck ts rest left) (read : readToken t cs = .ok (d, rest)) :
    Stuck (t :: ts) cs left := by
  rcases readToken_eq_ok.1 read with ⟨piece, rfl, spelt⟩
  exact .later spelt.fits h

/-- An offset has one end, whatever its size. -/
theorem OffsetShape.rest_eq (h : OffsetShape n m piece rest) {n' m' : Nat}
    (h' : OffsetShape n' m' piece' rest') (same : piece ++ rest = piece' ++ rest') : rest = rest' := by
  cases h with
  | utc letter =>
      cases h' with
      | utc =>
          exact (List.cons.inj same).2
      | signed sign =>
          obtain rfl := (List.cons.inj same).1
          rcases letter with rfl | rfl <;> simp at sign
  | signed sign hours minutes =>
      cases h' with
      | utc letter =>
          obtain rfl := (List.cons.inj same).1
          rcases letter with rfl | rfl <;> simp at sign
      | signed sign' hours' minutes' =>
          -- Reading the hours leaves the same rest for both, and so do the minutes.
          rw [List.cons_append, List.cons_append, List.append_assoc, List.append_assoc] at same
          have after := (List.cons.inj same).2
          have hours_read := readDigits_of_numeral hours
          rw [after, readDigits_of_numeral hours'] at hours_read
          have behind_hours := (Prod.mk.inj (Option.some.inj hours_read)).2
          have minutes_read := readOffsetMinutes_of_spells minutes
          rw [← behind_hours, readOffsetMinutes_of_spells minutes'] at minutes_read
          exact (Prod.mk.inj (Option.some.inj minutes_read)).2.symm

theorem Fits.rest_eq (h : Fits t piece rest) (h' : Fits t piece' rest')
    (same : piece ++ rest = piece' ++ rest') : rest = rest' := by
  cases h with
  | spelt other spelt =>
      cases h' with
      | spelt _ spelt' =>
          have read := readToken_of_spells spelt
          rw [same, readToken_of_spells spelt'] at read
          exact (Prod.mk.inj (Except.ok.inj read)).2.symm
      | offset =>
          exact absurd rfl other
  | offset shape =>
      cases h' with
      | spelt other =>
          exact absurd rfl other
      | offset shape' =>
          exact shape.rest_eq shape' same

/-- A text fits to its end or is stuck somewhere, and never both. -/
theorem exists_stuck_iff : (∃ left, Stuck ts cs left) ↔ ¬ FitsAll ts cs := by
  constructor
  · rintro ⟨left, stuck⟩ fits
    induction stuck with
    | beyond =>
        cases fits
    | here nothing =>
        cases fits with
        | cons first later =>
            exact nothing _ _ rfl first
    | @later t ts piece rest left first stuck ih =>
        generalize whole : piece ++ rest = cs at fits
        cases fits with
        | cons first' later =>
            -- The piece is the same one, as the token has one end only.
            obtain rfl := first.rest_eq first' whole
            exact ih later
  · intro misfit
    induction ts generalizing cs with
    | nil =>
        cases cs with
        | nil =>
            exact absurd .nil misfit
        | cons c cs =>
            exact ⟨_, .beyond⟩
    | cons t ts ih =>
        by_cases first : ∃ piece rest, cs = piece ++ rest ∧ Fits t piece rest
        · rcases first with ⟨piece, rest, rfl, first⟩
          rcases ih fun later => misfit (.cons first later) with ⟨left, stuck⟩
          exact ⟨left, .later first stuck⟩
        · refine ⟨cs, .here fun piece rest split fits => ?_⟩
          exact first ⟨piece, rest, split, fits⟩

/-! ## Reading -/

/-- The faults of the values and parts that a text has given. -/
inductive ValueFault : DateFault → Prop
  | range (fault : RangeFault) : ValueFault (.range fault)
  | parts (fault : PartsFault) : ValueFault (.parts fault)

variable {c : Captured}

theorem valueFault_checkRanges (h : c.checkRanges = .error fault) : ValueFault fault := by
  rcases exists_of_forM_error h with ⟨⟨field, n⟩, -, outside⟩
  simp only [Captured.checkRange] at outside
  split at outside
  · cases outside
  · obtain rfl := Except.error.inj outside
    exact .range _

theorem valueFault_date (h : c.date = .error fault) : ValueFault fault := by
  unfold Captured.date at h
  split at h
  · dsimp only at h
    split at h
    · cases h
    · obtain rfl := Except.error.inj h
      exact .range _
  · obtain rfl := Except.error.inj h
    exact .parts _

theorem valueFault_hourOfDay (h : c.hourOfDay = .error fault) : ValueFault fault := by
  unfold Captured.hourOfDay at h
  split at h <;> cases h <;> exact .parts _

theorem valueFault_written (h : c.written = .error fault) : ValueFault fault := by
  simp only [Captured.written, bind_error_iff] at h
  rcases h with date | ⟨date, -, hour | ⟨hour, -, nothing⟩⟩
  · exact valueFault_date date
  · exact valueFault_hourOfDay hour
  · cases nothing

theorem scan_eq_error {literal : String} :
    p.scan literal = .error fault ↔
      scanRest literal.toList p.tokens literal.toList = .error fault := by
  cases found : scanRest literal.toList p.tokens literal.toList with
  | error fault' =>
      simp [scan, found]
  | ok ds =>
      simp [scan, found]

/-- A text is refused before it is read to its end, or it fits the pattern and a value or the parts are at
fault. -/
theorem fault_of_read {literal : String} (h : p.read literal = .error fault) :
    p.scan literal = .error fault ∨ FitsAll p.tokens literal.toList ∧ ValueFault fault := by
  simp only [read, bind_error_iff] at h
  rcases h with scanned | ⟨c, scanned, values⟩
  · exact .inl scanned
  · rcases scan_eq_ok.1 scanned with ⟨ds, spelt, -⟩
    refine .inr ⟨spelt.fitsAll, ?_⟩
    rcases values with ranges | ⟨-, -, written⟩
    · exact valueFault_checkRanges ranges
    · exact valueFault_written written

theorem read_of_scan {literal : String} (h : p.scan literal = .error fault) :
    p.read literal = .error fault := by
  simp only [read, bind_error_iff]
  exact .inl h

/-- A text is refused for its shape, at the byte where it is stuck, unless an offset that is too big comes
up before. -/
theorem read_eq_shape {literal literal' : String} {index : Nat} :
    p.read literal = .error (.shape literal' index) ↔
      (∃ left, Stuck p.tokens literal.toList left ∧ literal' = literal ∧
        index = byteLength literal.toList - byteLength left) ∧
        ∀ f, ¬ Oversized p.tokens literal.toList f := by
  have place : ∀ left, Misfit.shape.fault literal.toList left = .shape literal' index ↔
      literal' = literal ∧ index = byteLength literal.toList - byteLength left := by
    intro left
    simp only [Misfit.fault, String.ofList_toList, DateFault.shape.injEq, eq_comm]
  simp only [← place]
  constructor
  · intro read
    rcases fault_of_read read with scanned | ⟨-, values⟩
    · exact scanRest_eq_shape.1 (scan_eq_error.1 scanned)
    · -- Nothing is said of the shape once the text is read.
      cases values
  · intro stuck
    exact read_of_scan (scan_eq_error.2 (scanRest_eq_shape.2 stuck))

/-- A text that does not fit its pattern is refused for that, whatever its numbers are, unless an offset
that is too big comes up before it is stuck. Such an offset is what is said to be wrong, whatever comes
after it. Every other text that is refused for a value fits its pattern. -/
theorem read_misfit (p : DatePattern) (literal : String) :
    ((∃ index, p.read literal = .error (.shape literal index)) ↔
      ¬ FitsAll p.tokens literal.toList ∧ ∀ f, ¬ Oversized p.tokens literal.toList f) ∧
    (∀ f, Oversized p.tokens literal.toList f → p.read literal = .error (.range f)) ∧
    ∀ f, p.read literal = .error (.range f) →
      FitsAll p.tokens literal.toList ∨ Oversized p.tokens literal.toList f := by
  refine ⟨?shape, ?oversized, ?range⟩
  case shape =>
    rw [← exists_stuck_iff]
    constructor
    · rintro ⟨index, read⟩
      rcases read_eq_shape.1 read with ⟨⟨left, stuck, -, -⟩, fair⟩
      exact ⟨⟨left, stuck⟩, fair⟩
    · rintro ⟨⟨left, stuck⟩, fair⟩
      exact ⟨_, read_eq_shape.2 ⟨⟨left, stuck, rfl, rfl⟩, fair⟩⟩
  case oversized =>
    intro f oversized
    exact read_of_scan (scan_eq_error.2 (scanRest_eq_range.2 oversized))
  case range =>
    intro f read
    rcases fault_of_read read with scanned | ⟨fits, -⟩
    · exact .inr (scanRest_eq_range.1 (scan_eq_error.1 scanned))
    · exact .inl fits

/-- The tokens of a date in numbers with an offset behind it. -/
def dateAndOffset : List DateToken :=
  [.number .year 4 4, .literal ['-'], .number .month 2 2, .literal ['-'], .number .day 2 2, .offset]

theorem compile_dateAndOffset : compile "yyyy-MM-ddXXX" = .ok ⟨dateAndOffset⟩ := by
  decide +kernel

/-- A month that does not exist is no matter in a text that goes on too long. -/
theorem read_misfit_month :
    DatePattern.read ⟨dateAndOffset⟩ "2019-26-03+18:00x" = .error (.shape "2019-26-03+18:00x" 16) ∧
      ¬ FitsAll dateAndOffset "2019-26-03+18:00x".toList ∧
      ∀ f, ¬ Oversized dateAndOffset "2019-26-03+18:00x".toList f := by
  have refused : DatePattern.read ⟨dateAndOffset⟩ "2019-26-03+18:00x" =
      .error (.shape "2019-26-03+18:00x" 16) := by
    decide +kernel
  exact ⟨refused, (read_misfit ⟨dateAndOffset⟩ "2019-26-03+18:00x").1.1 ⟨16, refused⟩⟩

/-- An offset of nineteen hours is what is said to be wrong with a text, though the text goes on too long
as well. -/
theorem refused_for_offset_before_shape :
    compile "yyyy-MM-ddXXX" = .ok ⟨dateAndOffset⟩ ∧
      ¬ FitsAll dateAndOffset "2019-08-03+19:00x".toList ∧
      DatePattern.read ⟨dateAndOffset⟩ "2019-08-03+19:00x" =
        .error (.range ⟨"OffsetHours", -18, 18, 19⟩) := by
  refine ⟨compile_dateAndOffset, ?_, by decide +kernel⟩
  have hours : Numeral 2 2 19 ['1', '9'] [':', '0', '0', 'x'] :=
    ⟨by simp, by decide, by decide, by simp, rfl⟩
  have minutes : Numeral 2 2 0 ['0', '0'] ['x'] := ⟨by simp, by decide, by decide, by simp, rfl⟩
  have offset : Fits .offset ['+', '1', '9', ':', '0', '0'] ['x'] :=
    .offset (.signed (.inl rfl) hours (.colon minutes))
  -- The letter at the end is left over behind the offset, and each of the other tokens is read.
  have stuck : Stuck [.offset] ['+', '1', '9', ':', '0', '0', 'x'] ['x'] := .later offset .beyond
  have stuck_day : Stuck [.number .day 2 2, .offset] "03+19:00x".toList ['x'] := stuck.of_read rfl
  have stuck_month : Stuck [.number .month 2 2, .literal ['-'], .number .day 2 2, .offset]
      "08-03+19:00x".toList ['x'] :=
    stuck_day.of_read rfl |>.of_read rfl
  exact exists_stuck_iff.1 ⟨['x'], stuck_month.of_read rfl |>.of_read rfl⟩

end DatePattern
end RefFrame
