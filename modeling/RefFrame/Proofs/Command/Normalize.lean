import RefFrame.Command.Run
import RefFrame.Command.Workplace
import RefFrame.Json.Exact
import RefFrame.Proofs.Command.Arguments
import RefFrame.Proofs.Json.Reading
import RefFrame.Proofs.Record.Confinement
import RefFrame.Proofs.Record.History
import RefFrame.Proofs.Record.Panics
import RefFrame.Zone.Table

/-!
# Normalizing the records of a file

What the command does from its arguments to its exit code when it is to normalize
(`Host.run_normalize`): either the file holds no records, and nothing is written, or a document with the
normalized records is delivered, and what is said of them is a heading and each message about them.

Messages are printed as they are. As long as there is no new line in them or in the name of a record, each
is one line on the error output (`Text.lines_printed`); a new line makes two lines of one message.

The surroundings may be any that reading a file does not change. So "nothing is written" says that they
are what they were, and "the document is written" that they are what the one writing makes of them.
-/

namespace RefFrame

open Json

/-! ## Lines -/

namespace Text

/-- The lines of a text: what stands before each new line, from the one before it on. -/
def lines (text : String) : List String :=
  let (first, rest) := pieces '\n' text.toList
  (first :: rest).dropLast.map String.ofList

theorem pieces_append {mark : Char} {cs : List Char} (plain : mark ∉ cs) (rest : List Char) :
    pieces mark (cs ++ mark :: rest) = (cs, (pieces mark rest).1 :: (pieces mark rest).2) := by
  induction cs with
  | nil =>
      simp [pieces]
  | cons c cs ih =>
      rw [List.mem_cons, not_or] at plain
      rw [List.cons_append, pieces, ih plain.2]
      simp [Ne.symm plain.1]

theorem lines_append {line : String} (plain : '\n' ∉ line.toList) (text : String) :
    lines (line ++ "\n" ++ text) = line :: lines text := by
  have cut : (line ++ "\n" ++ text).toList = line.toList ++ '\n' :: text.toList := by
    simp [String.toList_append]
  rw [lines, cut, pieces_append plain]
  simp [lines]

/-- Notices without new lines are the lines of what is printed. -/
theorem lines_printed {notices : List String} (plain : ∀ n ∈ notices, '\n' ∉ n.toList) :
    lines (Completion.printed notices) = notices := by
  induction notices with
  | nil =>
      rfl
  | cons n notices ih =>
      rw [List.forall_mem_cons] at plain
      have first : Completion.printed (n :: notices) = n ++ "\n" ++ Completion.printed notices := by
        simp [Completion.printed]
      rw [first, lines_append plain.1, ih plain.2]

end Text

/-! ## Records in texts -/

/-- The trees of the records that a text holds: the elements of an array, or one object. -/
inductive HoldsRecords [JsonLibrary] (text : String) : List Json → Prop
  | array {trees : List Json} (read : Json.read? text = some (.arr trees)) : HoldsRecords text trees
  | object {ms : Members} (read : Json.read? text = some (.obj ms)) : HoldsRecords text [.obj ms]

theorem Batch.ofText_eq_ok [JsonLibrary] {text : String} {trees : List Json} :
    Batch.ofText text = .ok trees ↔ HoldsRecords text trees := by
  constructor
  · intro h
    cases read : Json.read? text with
    | none =>
        simp [Batch.ofText, read] at h
    | some document =>
        have held : Batch.ofJson document = .ok trees := by simpa [Batch.ofText, read] using h
        cases document with
        | arr vs =>
            obtain rfl := Except.ok.inj held
            exact .array read
        | obj ms =>
            obtain rfl := Except.ok.inj held
            exact .object read
        | _ =>
            cases held
  · rintro (read | read) <;> simp [Batch.ofText, read, Batch.ofJson]

/-- Whether a line is one about a message of a record. -/
def isMessageLine (line : String) : Bool :=
  "- ".toList.isPrefixOf line.toList

/-- A text has gone where it was to go, and nowhere else: into a file, or to the output. The surroundings
have become `s'`. -/
inductive Delivered {σ : Type} (host : Host (StateM σ)) (s : σ) (text : String) :
    Option String → Completion → σ → Prop
  | shown {done : Completion} (output : done.output = text) : Delivered host s text none done s
  | filed {path : String} {done : Completion} {s' : σ} (written : host.write path text s = (.ok (), s'))
      (output : done.output = "") : Delivered host s text (some path) done s'

namespace NormalizeRequest

variable [JsonLibrary] [ZoneLibrary] {r : NormalizeRequest} {trees : List Json} {text : String}

/-- What the request makes of a record that does not panic. -/
def normalized (r : NormalizeRequest) (t : Json) : Record :=
  (Record.fresh t).normalize r.passes

/-- The messages about the records, in the order of the records and of their messages. A record goes by
its identifier or, without one, by its place. -/
def messageLines (r : NormalizeRequest) (trees : List Json) : List String :=
  trees.zipIdx.flatMap fun (t, i) => (r.normalized t).messages.map fun m =>
    "- " ++ (Record.fresh t).id?.getD ("#" ++ toString i) ++ ": " ++ m

/-- None of the records panics when it is normalized. -/
def Ends (r : NormalizeRequest) (trees : List Json) : Prop :=
  ∀ t ∈ trees, ((Record.fresh t).normalize? r.passes).isSome = true

/-- What there is to say when the records have been normalized and `text` has been delivered. -/
structure Reported (r : NormalizeRequest) (trees : List Json) (text : String) (done : Completion) :
    Prop where
  document : ∃ vs : List Json, Json.read? text = some (.arr vs) ∧ vs.length = trees.length ∧
    ∀ (i : Nat) (t : Json), trees[i]? = some t → vs[i]? = some (r.normalized t).tree
  errors : done.errors = Completion.printed
    ((if r.messageLines trees = [] then [] else "Diagnostics:" :: r.messageLines trees) ++
      r.output.toList.map ("Output: " ++ ·))
  messages : (∀ line ∈ r.messageLines trees, '\n' ∉ line.toList) →
    (∀ path ∈ r.output, '\n' ∉ path.toList) →
      (Text.lines done.errors).filter isMessageLine = r.messageLines trees
  exit : (done.exit = 1 ↔ r.failOnError = true ∧ ∃ t ∈ trees, (r.normalized t).messages ≠ []) ∧
    (done.exit = 1 ∨ done.exit = 0)

/-! ## Records that do not panic -/

theorem normalize?_fresh {t : Json} (ends : ((Record.fresh t).normalize? r.passes).isSome = true) :
    (Record.fresh t).normalize? r.passes = some (r.normalized t) := by
  rcases Option.isSome_iff_exists.1 ends with ⟨done, h⟩
  rw [h, normalized, Record.normalize_of_normalize? h]

theorem normalize?_batch (ends : r.Ends trees) :
    Batch.normalize? r.passes trees = some (trees.map r.normalized) := by
  induction trees with
  | nil =>
      rfl
  | cons t trees ih =>
      rw [Ends, List.forall_mem_cons] at ends
      have rest := ih ends.2
      rw [Batch.normalize?] at rest ⊢
      rw [List.mapM_cons, normalize?_fresh ends.1, rest]
      rfl

/-- Without the pass for dates there is nothing to panic about. -/
theorem ends_of_noDates (noDates : r.passes.dates = false) (trees : List Json) : r.Ends trees := by
  intro t _
  rw [Record.normalize?, noDates]
  cases r.passes.units <;> simp [Record.run?_unit]

/-! ## Notices -/

theorem id?_normalized (t : Json) : (r.normalized t).id? = (Record.fresh t).id? := by
  rw [Record.id?, normalized, member?_normalize (by decide) (by decide), Record.id?]

theorem diagnostics_normalized :
    diagnostics (trees.map r.normalized) = r.messageLines trees := by
  simp only [diagnostics, Batch.rows, messageLines, List.zipIdx_map, List.map_map, List.flatMap_map,
    Function.comp_def, Batch.label, Prod.map_fst, Prod.map_snd, id_eq, id?_normalized]

theorem notices_normalized :
    r.notices (trees.map r.normalized) =
      (if r.messageLines trees = [] then [] else "Diagnostics:" :: r.messageLines trees) ++
        r.output.toList.map ("Output: " ++ ·) := by
  simp only [notices, diagnostics_normalized, List.isEmpty_iff]

theorem isMessageLine_of_mem_messageLines {line : String} (h : line ∈ r.messageLines trees) :
    isMessageLine line = true := by
  simp only [messageLines, List.mem_flatMap, List.mem_map] at h
  rcases h with ⟨⟨t, i⟩, -, m, -, rfl⟩
  simp [isMessageLine, String.toList_append]

/-- The notice before the messages and the one behind them begin otherwise. -/
theorem filter_notices :
    (r.notices (trees.map r.normalized)).filter isMessageLine = r.messageLines trees := by
  have all : (r.messageLines trees).filter isMessageLine = r.messageLines trees :=
    List.filter_eq_self.2 fun line mem => isMessageLine_of_mem_messageLines mem
  have filed : (r.output.toList.map ("Output: " ++ ·)).filter isMessageLine = [] := by
    cases r.output <;> simp [isMessageLine, String.toList_append]
  have heading : isMessageLine "Diagnostics:" = false := by decide
  rw [notices_normalized, List.filter_append, filed, List.append_nil]
  cases found : r.messageLines trees with
  | nil =>
      rfl
  | cons first rest =>
      rw [found] at all
      simp [heading, all]

theorem plain_notices (messages : ∀ line ∈ r.messageLines trees, '\n' ∉ line.toList)
    (place : ∀ path ∈ r.output, '\n' ∉ path.toList) :
    ∀ n ∈ r.notices (trees.map r.normalized), '\n' ∉ n.toList := by
  have said : ∀ n ∈ (if r.messageLines trees = [] then []
      else "Diagnostics:" :: r.messageLines trees), '\n' ∉ n.toList := by
    split
    · exact List.forall_mem_nil _
    · exact List.forall_mem_cons.2 ⟨by decide, messages⟩
  have filed : ∀ n ∈ r.output.toList.map ("Output: " ++ ·), '\n' ∉ n.toList := by
    cases output : r.output with
    | none =>
        simp
    | some path =>
        simpa [String.toList_append] using place path output
  rw [notices_normalized]
  exact List.forall_mem_append.2 ⟨said, filed⟩

/-! ## The exit code -/

theorem hasErrors_normalized :
    (Batch.counts (trees.map r.normalized)).hasErrors = true ↔
      ∃ t ∈ trees, (r.normalized t).messages ≠ [] := by
  -- An outcome is counted as an error, and a message makes it one.
  have consistent (t : Json) : (r.normalized t).Consistent :=
    Record.Reached.consistent (.act (.new t) (.normalize r.passes))
  simp only [Batch.counts, Counts.ofStatuses, Counts.hasErrors, decide_eq_true_eq, List.count_pos_iff,
    List.map_map, List.mem_map, Function.comp_apply]
  exact exists_congr fun t => and_congr_right fun _ => consistent t

/-! ## The run -/

/-- The text that is delivered for the records. -/
def textOf (r : NormalizeRequest) (trees : List Json) : String :=
  (Json.arr (trees.map fun t => (r.normalized t).tree)).pretty ++ "\n"

theorem reported_of_readsBack (output : String)
    (readsBack : Json.read? (r.textOf trees) =
      some (.arr (trees.map fun t => (r.normalized t).tree))) :
    r.Reported trees (r.textOf trees)
      ⟨r.exit (trees.map r.normalized), output,
        Completion.printed (r.notices (trees.map r.normalized))⟩ where
  document := by
    refine ⟨_, readsBack, List.length_map _, ?_⟩
    intro i t found
    rw [List.getElem?_map, found]
    rfl
  errors := by
    rw [notices_normalized]
  messages messages place := by
    rw [Text.lines_printed (plain_notices messages place), filter_notices]
  exit := by
    rw [← hasErrors_normalized]
    cases failing : r.failOnError <;>
      cases errors : (Batch.counts (trees.map r.normalized)).hasErrors <;>
        simp [exit, failing, errors]

section

variable {σ : Type} {host : Host (StateM σ)} {s s' : σ}

theorem run_of_unreadable {e : FileFault} (read : host.read r.input s = (.error e, s')) :
    r.run host s = (.failed (e.about "read" r.input), s') := by
  simp only [run, bind, StateT.bind, read]
  rfl

theorem run_of_fault {e : Batch.Fault} (read : host.read r.input s = (.ok text, s'))
    (fault : Batch.ofText text = .error e) :
    r.run host s = (.failed ("load " ++ r.input ++ ": " ++ e.message), s') := by
  have none : r.records text = .error e := by
    rw [records, fault]
    rfl
  simp only [run, bind, StateT.bind, read, none]
  rfl

theorem records_of_holds (holds : HoldsRecords text trees) (ends : r.Ends trees) :
    r.records text = .ok (some (trees.map r.normalized)) := by
  rw [records, Batch.ofText_eq_ok.2 holds, ← normalize?_batch ends]
  rfl

theorem document_normalized :
    document (trees.map r.normalized) = .arr (trees.map fun t => (r.normalized t).tree) := by
  rw [document, List.map_map]
  rfl

/-- The records are there, and so is the place for the document. -/
theorem exists_run_of_holds (read : host.read r.input s = (.ok text, s))
    (holds : HoldsRecords text trees) (ends : r.Ends trees)
    (writable : ∀ path, r.output = some path → (host.write path (r.textOf trees) s).1 = .ok ()) :
    ∃ output s', Delivered host s (r.textOf trees) r.output
        ⟨r.exit (trees.map r.normalized), output,
          Completion.printed (r.notices (trees.map r.normalized))⟩ s' ∧
      r.run host s =
        (⟨r.exit (trees.map r.normalized), output,
          Completion.printed (r.notices (trees.map r.normalized))⟩, s') := by
  have found := records_of_holds (r := r) holds ends
  cases place : r.output with
  | none =>
      refine ⟨r.textOf trees, s, .shown rfl, ?_⟩
      simp only [run, bind, StateT.bind, read, found, Host.deliver, place, document_normalized]
      rfl
  | some path =>
      have done := writable path place
      rcases written : host.write path (r.textOf trees) s with ⟨outcome, s'⟩
      rw [written] at done
      obtain rfl : outcome = .ok () := done
      refine ⟨"", s', .filed written rfl, ?_⟩
      rw [textOf] at written
      simp only [run, bind, StateT.bind, read, found, Host.deliver, place, document_normalized, written]
      rfl

end

end NormalizeRequest

/-- The command normalizes the records of a file. Its surroundings may be any that reading a file does
not change, and every combination of settings can be given to it.

If the file cannot be read or holds no records, the exit code is 1, and nothing is written or changed.
Otherwise the document is delivered, if it can be and if no record panics, which none does without the pass
for dates: it reads back to the array of what each record is normalized to, in their order. Of the table
and the log apart, the error output has a heading if there are messages, and then the messages of the
records as they are, in the order of the records and of their messages. Where there is no new line in them
or in the name of the output, they are the lines about messages. The exit code is 1 just if there is a
message and this was to count as a failure. -/
theorem Host.run_normalize [JsonLibrary] [ZoneLibrary] {σ : Type} (host : Host (StateM σ))
    (reading : ∀ path s, (host.read path s).2 = s) :
    (∀ input output chosen, Arguments.IsWord input → (∀ path ∈ output, Arguments.IsWord path) →
        (∀ s ∈ chosen, s ∈ Arguments.flags) → chosen.Nodup →
        Arguments.read (Arguments.commandLine input output chosen) =
          .ok ⟨.normalize (Arguments.normalizeRequest input output chosen), none⟩) ∧
      ∀ args r s, Arguments.read args = .ok ⟨.normalize r, none⟩ →
        ((∀ text trees, (host.read r.input s).1 = .ok text → ¬ HoldsRecords text trees) →
          ∃ errors, host.run args s = (⟨1, "", errors⟩, s)) ∧
        (r.passes.dates = false → ∀ trees, r.Ends trees) ∧
        ∀ text trees, (host.read r.input s).1 = .ok text → HoldsRecords text trees → r.Ends trees →
          Json.read? (r.textOf trees) = some (.arr (trees.map fun t => (r.normalized t).tree)) →
          (∀ path, r.output = some path → (host.write path (r.textOf trees) s).1 = .ok ()) →
          (∀ t ∈ trees, (Record.fresh t).normalize? r.passes = some (r.normalized t)) ∧
          ∃ written done s', host.run args s = (done, s') ∧
            Delivered host s written r.output done s' ∧ r.Reported trees written done := by
  refine ⟨fun input output chosen => Arguments.read_commandLine, ?_⟩
  intro args r s asked
  have run : host.run args s = r.run host s := by
    rw [Host.run, asked]
    rfl
  -- Whatever has been read, the surroundings are still `s`.
  have state := reading r.input s
  rw [run]
  refine ⟨?none, NormalizeRequest.ends_of_noDates, ?some⟩
  case none =>
    intro none
    rcases read : host.read r.input s with ⟨found, s'⟩
    rw [read] at none state
    obtain rfl : s' = s := state
    cases found with
    | error e =>
        exact ⟨_, NormalizeRequest.run_of_unreadable read⟩
    | ok text =>
        cases held : Batch.ofText text with
        | error e =>
            exact ⟨_, NormalizeRequest.run_of_fault read held⟩
        | ok trees =>
            exact absurd (Batch.ofText_eq_ok.1 held) (none text trees rfl)
  case some =>
    intro text trees found holds ends readsBack writable
    have read : host.read r.input s = (.ok text, s) := Prod.ext found state
    rcases NormalizeRequest.exists_run_of_holds read holds ends writable with
      ⟨output, s', delivered, done⟩
    exact ⟨fun t mem => NormalizeRequest.normalize?_fresh (ends t mem), _, _, s', done, delivered,
      NormalizeRequest.reported_of_readsBack output readsBack⟩

/-! ## Runs -/

/-- A batch of two records, of which the second has a fault. -/
def batchText : String :=
  "[\x7b\"meta\":[]\x7d,\x7b\"data\":1,\"meta\":[\x7b\"kind\":\"unit\"\x7d]\x7d]"

def batchTrees : List Json :=
  [.obj [("meta", .arr [])],
    .obj [("data", .num (.int 1)), ("meta", .arr [.obj [("kind", .str "unit")]])]]

/-- A place to work with the batch in a file. -/
def batchPlace : Workplace :=
  .ofDirectory ⟨[("in.json", batchText)]⟩

/-- A record without data whose name goes over two lines. -/
def twoLinesText : String :=
  "[\x7b\"id\":\"a: b\\n- c\"\x7d]"

def twoLinesTree : Json :=
  .obj [("id", .str "a: b\n- c")]

def twoLinesPlace : Workplace :=
  .ofDirectory ⟨[("in.json", twoLinesText)]⟩

def twoLinesRequest : NormalizeRequest :=
  ⟨"in.json", none, ⟨true, true⟩, false⟩

section

open BuiltIn

theorem read?_batchText : Json.read? batchText = some (.arr batchTrees) := by
  have tokens : tokens? batchText.toList = some (Json.arr batchTrees).tokens := by
    decide +kernel
  exact readWithin?_of_tokens? tokens rfl

theorem read?_batchTrees :
    Json.read? ((Json.arr batchTrees).pretty ++ "\n") = some (.arr batchTrees) := by
  have tokens : tokens? ((Json.arr batchTrees).pretty ++ "\n").toList =
      some (Json.arr batchTrees).tokens := by
    decide +kernel
  exact readWithin?_of_tokens? tokens rfl

theorem read?_twoLinesText : Json.read? twoLinesText = some (.arr [twoLinesTree]) := by
  have tokens : tokens? twoLinesText.toList = some (Json.arr [twoLinesTree]).tokens := by
    decide +kernel
  exact readWithin?_of_tokens? tokens rfl

/-- A document is made although the run counts as failed; from a file that is not there none is. -/
theorem Host.run_normalize_batch :
    (∃ done w, Workplace.host.run
        (Arguments.commandLine "in.json" (some "out.json") [.failOnError, .noDates]) batchPlace =
          (done, w) ∧
      done.exit = 1 ∧ done.output = "" ∧
      (∃ vs, (w.read "out.json").toOption.bind Json.read? = some (.arr vs) ∧ vs.length = 2) ∧
      (Text.lines done.errors).filter isMessageLine =
        ["- #1: Unit conversion: property names missing"]) ∧
      ∃ errors, Workplace.host.run (Arguments.commandLine "other.json" none []) batchPlace =
        (⟨1, "", errors⟩, batchPlace) := by
  rcases Host.run_normalize Workplace.host (fun _ _ => rfl) with ⟨asked, runs⟩
  constructor
  · have filed := asked "in.json" (some "out.json") [.failOnError, .noDates] ⟨by decide, by decide⟩
      (by rintro path ⟨⟩; exact ⟨by decide, by decide⟩) (by decide) (by decide)
    rcases runs _ _ batchPlace filed with ⟨-, noDates, held⟩
    rcases held batchText batchTrees rfl (.array read?_batchText) (noDates rfl _) read?_batchTrees
      (by rintro path ⟨⟩; rfl) with ⟨-, written, done, w, run, delivered, reported⟩
    rcases reported.document with ⟨vs, readsBack, length, -⟩
    have failing : ∃ t ∈ batchTrees, ((Record.fresh t).normalize ⟨true, false⟩).messages ≠ [] :=
      ⟨_, List.mem_cons_of_mem _ List.mem_cons_self, by decide⟩
    rcases delivered with _ | ⟨filing, output⟩
    obtain rfl := congrArg Prod.snd filing
    refine ⟨done, _, run, reported.exit.1.2 ⟨rfl, failing⟩, output, ⟨vs, readsBack, length⟩, ?_⟩
    rw [reported.messages (by decide) (by decide)]
    decide
  · have unread := asked "other.json" none [] ⟨by decide, by decide⟩ nofun nofun .nil
    rcases runs _ _ batchPlace unread with ⟨none, -⟩
    refine none ?_
    intro text trees read
    cases read

/-- One message about a record whose name goes over two lines makes two lines that look like messages. -/
theorem NormalizeRequest.two_lines_of_one_message :
    HoldsRecords twoLinesText [twoLinesTree] ∧
      (Record.fresh twoLinesTree).normalize? ⟨true, true⟩ =
        some ⟨twoLinesTree, ["DateTime conversion: missing data block"], .error⟩ ∧
      ∃ done w, Workplace.host.run ["normalize", "in.json", "-q"] twoLinesPlace = (done, w) ∧
        done.exit = 0 ∧
        (Text.lines done.errors).filter isMessageLine =
          ["- a: b", "- c: DateTime conversion: missing data block"] := by
  have holds : HoldsRecords twoLinesText [twoLinesTree] := .array read?_twoLinesText
  have normal : (Record.fresh twoLinesTree).normalize? ⟨true, true⟩ =
      some ⟨twoLinesTree, ["DateTime conversion: missing data block"], .error⟩ := rfl
  have ends : twoLinesRequest.Ends [twoLinesTree] := by
    intro t mem
    rw [List.mem_singleton.1 mem]
    rfl
  have asked : Arguments.read ["normalize", "in.json", "-q"] =
      .ok ⟨.normalize twoLinesRequest, none⟩ := by
    decide +kernel
  have started : Workplace.host.run ["normalize", "in.json", "-q"] twoLinesPlace =
      twoLinesRequest.run Workplace.host twoLinesPlace := by
    rw [Host.run, asked]
    rfl
  have read : Workplace.host.read twoLinesRequest.input twoLinesPlace =
      (.ok twoLinesText, twoLinesPlace) := rfl
  have exit : twoLinesRequest.exit ([twoLinesTree].map twoLinesRequest.normalized) = 0 := by
    decide +kernel
  have lines : (Text.lines (Completion.printed (twoLinesRequest.notices
      ([twoLinesTree].map twoLinesRequest.normalized)))).filter isMessageLine =
        ["- a: b", "- c: DateTime conversion: missing data block"] := by
    decide +kernel
  rcases exists_run_of_holds read holds ends nofun with ⟨output, w, -, run⟩
  exact ⟨holds, normal, _, w, started.trans run, exit, lines⟩

end

end RefFrame
