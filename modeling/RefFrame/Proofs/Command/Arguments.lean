import RefFrame.Command.Arguments
import RefFrame.Proofs.Fallible

/-!
# Command lines for normalizing

A command line for normalizing names the verb and the input, then the output if there is to be one, and
ends with settings that take nothing, in any order (`Arguments.commandLine`). It is read as the request
that has just these settings (`Arguments.read_commandLine`), so there is one for every combination.
-/

namespace RefFrame
namespace Arguments

open Reading

/-- A word that can stand for an input or an output: there is something to it, and it does not look like
a setting. -/
structure IsWord (word : String) : Prop where
  nonempty : word ≠ ""
  plain : looksLikeSetting word.toList = false

/-- The settings for normalizing that take nothing. -/
def flags : List Setting :=
  [.noUnits, .noDates, .failOnError]

def commandLine (input : String) (output : Option String) (chosen : List Setting) : List String :=
  ["normalize", input] ++ output.toList.flatMap (fun path => ["--output", path]) ++
    chosen.map fun s => "--" ++ s.long

/-- What is asked for when some of these settings have been chosen. -/
def normalizeRequest (input : String) (output : Option String) (chosen : List Setting) :
    NormalizeRequest where
  input := input
  output := output
  passes := ⟨.noUnits ∉ chosen, .noDates ∉ chosen⟩
  failOnError := .failOnError ∈ chosen

/-- The settings of such a command line. -/
def settings (output : Option String) (chosen : List Setting) : Given :=
  (output.toList.map fun path => (Setting.output, path)) ++ chosen.map fun s => (s, "")

/-! ## Settings that have been given -/

variable {input word : String} {output : Option String} {chosen : List Setting} {s : Setting}
  {g : Given} {p : Stretch} {v : Verb} {outer present : Stretch}

theorem lookup_chosen (chosen : List Setting) (s : Setting) :
    (chosen.map fun s => (s, "")).lookup s = if s ∈ chosen then some "" else none := by
  induction chosen with
  | nil =>
      rfl
  | cons first chosen ih =>
      by_cases same : s = first
      · simp [same]
      · simp [List.lookup_cons, same, beq_false_of_ne same, ih]

theorem lookup_output (output : Option String) (s : Setting) :
    (output.toList.map fun path => (Setting.output, path)).lookup s =
      if s = .output then output else none := by
  cases output with
  | none =>
      simp
  | some path =>
      by_cases same : s = .output
      · simp [same]
      · simp [List.lookup_cons, same, beq_false_of_ne same]

theorem lookup_settings (output : Option String) (chosen : List Setting) (s : Setting) :
    (settings output chosen).lookup s =
      (if s = .output then output else none).or (if s ∈ chosen then some "" else none) := by
  rw [settings, List.lookup_append, lookup_output, lookup_chosen]

theorem has_settings (other : s ≠ .output) :
    Given.has (settings output chosen) s = decide (s ∈ chosen) := by
  rw [Given.has, lookup_settings, if_neg other]
  by_cases mem : s ∈ chosen <;> simp [mem]

theorem flag_cases (flag : s ∈ flags) : s = .noUnits ∨ s = .noDates ∨ s = .failOnError := by
  simpa [flags] using flag

theorem not_mem_chosen (chosen_flags : ∀ s ∈ chosen, s ∈ flags) (other : s ∉ flags) : s ∉ chosen :=
  fun mem => other (chosen_flags s mem)

/-! ## Reading words -/

theorem step_word {v : Option Verb} {input : Option String}
    (plain : looksLikeSetting word.toList = false) :
    (Reading.mk v outer present input .plain).step word =
      (Reading.mk v outer present input .plain).takeWord word := by
  simp only [Reading.step]
  -- The first modes are not this one, and the patterns after them are of what looks like a setting.
  split
  · contradiction
  · contradiction
  · contradiction
  · contradiction
  · rename_i chars
    rw [chars] at plain
    cases plain
  · rename_i chars
    rw [chars] at plain
    cases plain
  · rename_i chars
    rw [chars] at plain
    cases plain
  · rfl

theorem step_input (h : IsWord word) :
    (Reading.mk (some v) outer present none .plain).step word =
      .ok ⟨some v, outer, present, some word, .plain⟩ := by
  rw [step_word h.plain]
  simp [takeWord, h.nonempty]

/-- An operand is held until the next setting comes. -/
theorem step_operand {v : Option Verb} {input : Option String} (h : IsWord word) :
    (Reading.mk v outer present input (.operand s)).step word =
      .ok ⟨v, outer, ⟨present.given, some (s, word)⟩, input, .plain⟩ := by
  simp [Reading.step, h.plain]

theorem settle_output (h : IsWord word) :
    (Stretch.mk [] (some (.output, word))).settle = .ok [(.output, word)] := by
  simp [Stretch.settle, Given.addOperand, Setting.operand, Operand.accepts, h.nonempty, Given.add,
    Given.has]

theorem step_flag (input : String) (flag : s ∈ flags) (settled : p.settle = .ok g) (fresh : g.has s = false) :
    (Reading.mk (some .normalize) .empty p (some input) .plain).step ("--" ++ s.long) =
      .ok ⟨some .normalize, .empty, ⟨g ++ [(s, "")], none⟩, some input, .plain⟩ := by
  have settled' : (Reading.mk (some .normalize) .empty p (some input) .plain).settle =
      .ok ⟨some .normalize, .empty, ⟨g, none⟩, some input, .plain⟩ := by
    rw [Reading.settle, settled]
    rfl
  have added : g.add s "" = .ok (g ++ [(s, "")]) := by
    simp [Given.add, fresh]
  calc
    (Reading.mk (some .normalize) .empty p (some input) .plain).step ("--" ++ s.long)
        = (Reading.mk (some .normalize) .empty p (some input) .plain).settle.bind
            fun r => r.takeLong s.long none := by
          rcases flag_cases flag with rfl | rfl | rfl <;> rfl
    _ = (Reading.mk (some .normalize) .empty ⟨g, none⟩ (some input) .plain).takeLong s.long none := by
          rw [settled']
          rfl
    _ = (g.add s "").map (Reading.mk (some .normalize) .empty ⟨g, none⟩ (some input)
          .plain).withGiven := by
          rcases flag_cases flag with rfl | rfl | rfl <;> rfl
    _ = .ok ⟨some .normalize, .empty, ⟨g ++ [(s, "")], none⟩, some input, .plain⟩ := by
          rw [added]
          rfl

/-- The output, if there is one, is held when the settings come. -/
theorem foldlM_output (input : String) (output_word : ∀ path ∈ output, IsWord path) :
    ∃ p : Stretch, (output.toList.flatMap fun path => ["--output", path]).foldlM
        Reading.step ⟨some .normalize, .empty, .empty, some input, .plain⟩ =
          .ok ⟨some .normalize, .empty, p, some input, .plain⟩ ∧
      p.settle = .ok (output.toList.map fun path => (Setting.output, path)) := by
  cases output with
  | none =>
      exact ⟨.empty, rfl, rfl⟩
  | some path =>
      have word := output_word path rfl
      have asked : (Reading.mk (some .normalize) .empty .empty (some input) .plain).step "--output" =
          .ok ⟨some .normalize, .empty, .empty, some input, .operand .output⟩ := rfl
      refine ⟨⟨[], some (.output, path)⟩, ?_, settle_output word⟩
      simp only [Option.toList_some, List.flatMap_cons, List.flatMap_nil, List.append_nil,
        List.foldlM_cons, List.foldlM_nil, asked]
      exact congrArg (· >>= pure) (step_operand word)

/-- A row of settings is taken, in the order in which they come. -/
theorem foldlM_flags (input : String) (chosen_flags : ∀ s ∈ chosen, s ∈ flags) (once : chosen.Nodup)
    (settled : p.settle = .ok g) (fresh : ∀ s ∈ chosen, g.has s = false) :
    ∃ p', (chosen.map fun s => "--" ++ s.long).foldlM Reading.step
        ⟨some .normalize, .empty, p, some input, .plain⟩ =
          .ok ⟨some .normalize, .empty, p', some input, .plain⟩ ∧
      p'.settle = .ok (g ++ chosen.map fun s => (s, "")) := by
  induction chosen generalizing p g with
  | nil =>
      exact ⟨p, rfl, by simpa using settled⟩
  | cons s chosen ih =>
      rcases List.nodup_cons.1 once with ⟨new, once'⟩
      have first := step_flag input (chosen_flags s List.mem_cons_self) settled
        (fresh s List.mem_cons_self)
      -- The settings to come are neither among the old ones nor the one just taken.
      have fresh' : ∀ s' ∈ chosen, Given.has (g ++ [(s, "")]) s' = false := by
        intro s' mem
        have old : g.lookup s' = none := by
          simpa [Given.has] using fresh s' (List.mem_cons_of_mem s mem)
        have other : s' ≠ s := by
          rintro rfl
          exact new mem
        simp [Given.has, List.lookup_append, old, List.lookup_cons, beq_false_of_ne other]
      rcases ih (p := ⟨g ++ [(s, "")], none⟩) (fun s' mem => chosen_flags s' (List.mem_cons_of_mem s mem))
        once' rfl fresh' with ⟨p', later, settled'⟩
      refine ⟨p', ?_, by simpa using settled'⟩
      rw [List.map_cons, List.foldlM_cons, first]
      exact later

/-- The settings make the request that has them. -/
theorem request?_settings (chosen_flags : ∀ s ∈ chosen, s ∈ flags) :
    request? input (settings output chosen) .normalize =
      some (.normalize (normalizeRequest input output chosen)) := by
  have out : (settings output chosen).lookup .output = output := by
    rw [lookup_settings, if_pos rfl, if_neg (not_mem_chosen chosen_flags (by decide)),
      Option.or_none]
  simp [request?, out, has_settings, normalizeRequest]

/-- Nothing speaks against the settings, and they say nothing of a log. -/
theorem invocation?_settings (chosen_flags : ∀ s ∈ chosen, s ∈ flags) :
    (Reading.mk (some .normalize) .empty p (some input) .plain).invocation? []
        (settings output chosen) =
      some ⟨.normalize (normalizeRequest input output chosen), none⟩ := by
  have verbose : Given.has (settings output chosen) .verbose = false := by
    rw [has_settings (by decide), decide_eq_false (not_mem_chosen chosen_flags (by decide))]
  have logged : (settings output chosen).lookup .logFile = none := by
    rw [lookup_settings, if_neg (by decide), if_neg (not_mem_chosen chosen_flags (by decide))]
    rfl
  have agree : Given.agree (settings output chosen) = true := by
    rw [Given.agree, verbose]
    rfl
  have nothing : Given.agree [] = true := rfl
  simp [invocation?, request?_settings chosen_flags, agree, nothing, logged]

/-- Every combination of settings for normalizing can be given, in every order, and is read as the
request for it. -/
theorem read_commandLine (input_word : IsWord input) (output_word : ∀ path ∈ output, IsWord path)
    (chosen_flags : ∀ s ∈ chosen, s ∈ flags) (once : chosen.Nodup) :
    read (commandLine input output chosen) =
      .ok ⟨.normalize (normalizeRequest input output chosen), none⟩ := by
  -- The verb and the input come first, the output is held next, and the settings are the rest.
  have verb : Reading.start.step "normalize" =
      .ok ⟨some .normalize, .empty, .empty, none, .plain⟩ := rfl
  have named : (Reading.mk (some .normalize) .empty .empty none .plain).step input =
      .ok ⟨some .normalize, .empty, .empty, some input, .plain⟩ := step_input input_word
  rcases foldlM_output input output_word with ⟨p, first, settled⟩
  have absent : ∀ s ∈ chosen, Given.has (output.toList.map fun path => (Setting.output, path)) s =
      false := by
    intro s mem
    have other : s ≠ .output := by
      rintro rfl
      exact not_mem_chosen chosen_flags (by decide) mem
    simp [Given.has, lookup_output, other]
  rcases foldlM_flags input chosen_flags once settled absent with ⟨p', later, settled'⟩
  have taken : (commandLine input output chosen).foldlM Reading.step .start =
      .ok ⟨some .normalize, .empty, p', some input, .plain⟩ := by
    rw [commandLine, List.foldlM_append, List.foldlM_append]
    exact bind_ok_iff.2 ⟨_, bind_ok_iff.2 ⟨_, bind_ok_iff.2 ⟨_, verb, bind_ok_iff.2
      ⟨_, named, rfl⟩⟩, first⟩, later⟩
  have known : p'.settle = .ok (settings output chosen) := settled'
  refine bind_ok_iff.2 ⟨_, taken, bind_ok_iff.2 ⟨[], rfl, bind_ok_iff.2 ⟨_, known, ?_⟩⟩⟩
  rw [invocation?_settings chosen_flags]

end Arguments
end RefFrame
