import Mathlib.Data.List.Basic
import Mathlib.Data.List.Induction

/-! Runs of a deterministic step function over a list of inputs, and properties of
all their steps and all their states. -/

namespace UssdCredit.Library

variable {σ ι : Type} {step : σ → ι → σ} {condition : σ → ι → Prop} {good invariant : σ → Prop}

/-- Every step of the run meets a condition on the state before it and its input. -/
def AllSteps (step : σ → ι → σ) (condition : σ → ι → Prop) : σ → List ι → Prop
  | _, [] => True
  | s, input :: rest => condition s input ∧ AllSteps step condition (step s input) rest

instance AllSteps.decidable [∀ s input, Decidable (condition s input)] :
    ∀ (s : σ) (inputs : List ι), Decidable (AllSteps step condition s inputs)
  | _, [] => isTrue trivial
  | s, input :: rest =>
      have := AllSteps.decidable (step s input) rest
      inferInstanceAs (Decidable (condition s input ∧ AllSteps step condition (step s input) rest))

/-- The last of the inputs that reset, if one of them does, met the condition. -/
def LastMeets (step : σ → ι → σ) (condition : σ → ι → Prop) (resets : ι → Prop) (s : σ)
    (inputs : List ι) : Prop :=
  ∀ before input after, inputs = before ++ input :: after → resets input →
    (∀ later ∈ after, ¬resets later) → condition (before.foldl step s) input

/-- Every state of the run is good, the first one included. -/
def Throughout (step : σ → ι → σ) (good : σ → Prop) : σ → List ι → Prop
  | s, [] => good s
  | s, input :: rest => good s ∧ Throughout step good (step s input) rest

theorem run_invariant (invariant : σ → Prop)
    (keeps : ∀ s input, invariant s → invariant (step s input))
    {s : σ} (start : invariant s) (inputs : List ι) : invariant (inputs.foldl step s) := by
  induction inputs generalizing s with
  | nil => exact start
  | cons input rest ih => exact ih (keeps s input start)

/-- Inputs of a kind that keeps the invariant, one after another. -/
theorem run_invariant_of_forall (invariant : σ → Prop) {kind : ι → Prop}
    (keeps : ∀ s input, invariant s → kind input → invariant (step s input)) {s : σ}
    (start : invariant s) {inputs : List ι} (all : ∀ input ∈ inputs, kind input) :
    invariant (inputs.foldl step s) := by
  induction inputs generalizing s with
  | nil => exact start
  | cons input rest ih =>
    obtain ⟨first, later⟩ := List.forall_mem_cons.mp all
    exact ih (keeps s input start first) later

theorem AllSteps.run_invariant (invariant : σ → Prop)
    (keeps : ∀ s input, invariant s → condition s input → invariant (step s input))
    {s : σ} {inputs : List ι} (all : AllSteps step condition s inputs) (start : invariant s) :
    invariant (inputs.foldl step s) := by
  induction inputs generalizing s with
  | nil => exact start
  | cons input rest ih => exact ih all.2 (keeps s input start all.1)

/-- Inputs that a relation does not see can be left out of one of two runs. -/
theorem run_filter {related : σ → σ → Prop} (concerns : ι → Bool)
    (moves : ∀ s t input, concerns input = true → related s t → related (step s input) (step t input))
    (skips : ∀ s t input, concerns input = false → related s t → related (step s input) t)
    {s t : σ} (start : related s t) (inputs : List ι) :
    related (inputs.foldl step s) ((inputs.filter concerns).foldl step t) := by
  induction inputs generalizing s t with
  | nil => exact start
  | cons input rest ih =>
    cases seen : concerns input with
    | true =>
      rw [List.filter_cons_of_pos seen]
      exact ih (moves s t input seen start)
    | false =>
      rw [List.filter_cons_of_neg (by rw [seen]; exact Bool.false_ne_true)]
      exact ih (skips s t input seen start)

/-- Where each input does to the world what its command does, if it has one, and nothing else, the
world comes out of the run as out of the commands alone. -/
theorem run_filterMap {World Command : Type} {world : σ → World} {serve : World → Command → World}
    {command : ι → Option Command} (invariant : σ → Prop)
    (keeps : ∀ s input, invariant s → invariant (step s input))
    (moves : ∀ s input, invariant s →
      world (step s input) = (command input).toList.foldl serve (world s))
    {s : σ} (start : invariant s) (inputs : List ι) :
    world (inputs.foldl step s) = (inputs.filterMap command).foldl serve (world s) := by
  induction inputs generalizing s with
  | nil => rfl
  | cons input rest ih =>
    rw [List.foldl_cons, ih (keeps s input start), moves s input start]
    cases asked : command input with
    | none => rw [List.filterMap_cons_none asked]; rfl
    | some request => rw [List.filterMap_cons_some asked]; rfl

/-- What an invariant implies holds in every state. -/
theorem throughout_of_invariant (reads : ∀ s, invariant s → good s)
    (keeps : ∀ s input, invariant s → invariant (step s input)) {s : σ} (start : invariant s)
    (inputs : List ι) : Throughout step good s inputs := by
  induction inputs generalizing s with
  | nil => exact reads s start
  | cons input rest ih => exact ⟨reads s start, ih (keeps s input start)⟩

/-- What the condition on each step keeps holds in every state of the run. -/
theorem AllSteps.throughout (invariant : σ → Prop) (reads : ∀ s, invariant s → good s)
    (keeps : ∀ s input, invariant s → condition s input → invariant (step s input))
    {s : σ} (start : invariant s) {inputs : List ι} (all : AllSteps step condition s inputs) :
    Throughout step good s inputs := by
  induction inputs generalizing s with
  | nil => exact reads s start
  | cons input rest ih => exact ⟨reads s start, ih (keeps s input start all.1) all.2⟩

theorem Throughout.mono {weaker : σ → Prop} (implies : ∀ s, good s → weaker s) {s : σ}
    {inputs : List ι} (all : Throughout step good s inputs) : Throughout step weaker s inputs := by
  induction inputs generalizing s with
  | nil => exact implies s all
  | cons input rest ih => exact ⟨implies s all.1, ih all.2⟩

/-- The state a run ends in is one of its states. -/
theorem Throughout.last {s : σ} {inputs : List ι} (all : Throughout step good s inputs) :
    good (inputs.foldl step s) := by
  induction inputs generalizing s with
  | nil => exact all
  | cons input rest ih => exact ih all.2

theorem AllSteps.mono {weaker : σ → ι → Prop} {s : σ} {inputs : List ι}
    (implies : ∀ s input, condition s input → weaker s input)
    (all : AllSteps step condition s inputs) : AllSteps step weaker s inputs := by
  induction inputs generalizing s with
  | nil => trivial
  | cons input rest ih => exact ⟨implies _ _ all.1, ih all.2⟩

/-- A condition may use what the run has kept so far. -/
theorem AllSteps.mono_of_invariant {weaker : σ → ι → Prop} {s : σ} {inputs : List ι}
    (implies : ∀ s input, invariant s → condition s input → weaker s input)
    (keeps : ∀ s input, invariant s → condition s input → invariant (step s input))
    (start : invariant s) (all : AllSteps step condition s inputs) : AllSteps step weaker s inputs := by
  induction inputs generalizing s with
  | nil => trivial
  | cons input rest ih => exact ⟨implies _ _ start all.1, ih (keeps _ _ start all.1) all.2⟩

theorem allSteps_append {s : σ} {before after : List ι} :
    AllSteps step condition s (before ++ after) ↔
      AllSteps step condition s before ∧ AllSteps step condition (before.foldl step s) after := by
  induction before generalizing s with
  | nil => simp [AllSteps]
  | cons input rest ih => simp only [List.cons_append, AllSteps, List.foldl_cons, ih, and_assoc]

/-- A run that fails a condition does so at a first step. -/
theorem exists_first_violation {s : σ} {inputs : List ι} (fails : ¬AllSteps step condition s inputs) :
    ∃ before input after, inputs = before ++ input :: after ∧
      AllSteps step condition s before ∧ ¬condition (before.foldl step s) input := by
  induction inputs generalizing s with
  | nil => exact absurd trivial fails
  | cons input rest ih =>
    by_cases met : condition s input
    · obtain ⟨before, other, after, rfl, all, broken⟩ := ih fun later => fails ⟨met, later⟩
      exact ⟨input :: before, other, after, rfl, ⟨met, all⟩, broken⟩
    · exact ⟨[], input, rest, rfl, trivial, met⟩

/-- Conditions that agree on each step from an invariant state, which they lead to again. -/
theorem allSteps_congr {condition' : σ → ι → Prop}
    (same : ∀ s input, invariant s → (condition s input ↔ condition' s input))
    (keeps : ∀ s input, invariant s → condition s input → invariant (step s input))
    {s : σ} (start : invariant s) (inputs : List ι) :
    AllSteps step condition s inputs ↔ AllSteps step condition' s inputs := by
  induction inputs generalizing s with
  | nil => rfl
  | cons input rest ih =>
    by_cases met : condition s input
    · have later := ih (keeps s input start met)
      exact ⟨fun all => ⟨(same s input start).mp met, later.mp all.2⟩, fun all => ⟨met, later.mpr all.2⟩⟩
    · have met' : ¬condition' s input := fun holds => met ((same s input start).mpr holds)
      exact ⟨fun all => absurd all.1 met, fun all => absurd all.1 met'⟩

/-- A condition that decides each step from an invariant state decides the run. -/
theorem throughout_iff_allSteps (reads : ∀ s, invariant s → good s)
    (keeps : ∀ s input, invariant s → condition s input → invariant (step s input))
    (breaks : ∀ s input, invariant s → ¬condition s input → ¬good (step s input))
    {s : σ} (start : invariant s) (inputs : List ι) :
    Throughout step good s inputs ↔ AllSteps step condition s inputs := by
  induction inputs generalizing s with
  | nil => exact ⟨fun _ => trivial, fun _ => reads s start⟩
  | cons input rest ih =>
    by_cases met : condition s input
    · have later := ih (keeps s input start met)
      exact ⟨fun h => ⟨met, later.mp h.2⟩, fun h => ⟨reads s start, later.mpr h.2⟩⟩
    · refine ⟨fun h => absurd ?_ (breaks s input start met), fun h => absurd h.1 met⟩
      cases rest with
      | nil => exact h.2
      | cons _ _ => exact h.2.1

/-! Properties that some of the inputs reset and the others keep. -/

section LastReset

variable {resets : ι → Prop}

theorem lastMeets_concat_of_resets {s : σ} {inputs : List ι} {input : ι} (reset : resets input) :
    LastMeets step condition resets s (inputs ++ [input]) ↔
      condition (inputs.foldl step s) input := by
  constructor
  · intro last
    exact last inputs input [] rfl reset fun _ later => absurd later List.not_mem_nil
  · intro met before other after split _ none_later
    rcases List.eq_nil_or_concat' after with rfl | ⟨front, last, rfl⟩
    · obtain ⟨rfl, same⟩ := List.append_inj' split rfl
      cases same
      exact met
    · rw [← List.cons_append, ← List.append_assoc] at split
      cases (List.append_inj' split rfl).2
      exact absurd reset (none_later input (List.mem_append_right _ List.mem_cons_self))

theorem lastMeets_concat_of_keeps {s : σ} {inputs : List ι} {input : ι} (keep : ¬resets input) :
    LastMeets step condition resets s (inputs ++ [input]) ↔
      LastMeets step condition resets s inputs := by
  constructor
  · intro last before other after split reset none_later
    refine last before other (after ++ [input]) (by rw [split]; simp) reset fun later member => ?_
    rcases List.mem_append.mp member with early | final
    · exact none_later later early
    · rw [List.mem_singleton.mp final]
      exact keep
  · intro last before other after split reset none_later
    rcases List.eq_nil_or_concat' after with rfl | ⟨front, final, rfl⟩
    · cases (List.append_inj' split rfl).2
      exact absurd reset keep
    · rw [← List.cons_append, ← List.append_assoc] at split
      refine last before other front (List.append_inj' split rfl).1 reset fun later member => ?_
      exact none_later later (List.mem_append_left _ member)

/-- A property of the first state holds in the last one just when the last reset met the
condition under which it sets the property. -/
theorem holds_iff_lastMeets (invariant holds : σ → Prop)
    (stays : ∀ s input, invariant s → invariant (step s input))
    (set : ∀ s input, invariant s → resets input → (holds (step s input) ↔ condition s input))
    (kept : ∀ s input, invariant s → ¬resets input → (holds (step s input) ↔ holds s))
    {s : σ} (start : invariant s) (first : holds s) (inputs : List ι) :
    holds (inputs.foldl step s) ↔ LastMeets step condition resets s inputs := by
  induction inputs using List.reverseRecOn with
  | nil =>
    refine iff_of_true first fun before input after split => ?_
    exact absurd split.symm (by simp)
  | append_singleton inputs input ih =>
    have reached := run_invariant invariant stays start inputs
    rw [List.foldl_append, List.foldl_cons, List.foldl_nil]
    by_cases reset : resets input
    · rw [set _ input reached reset, lastMeets_concat_of_resets reset]
    · rw [kept _ input reached reset, lastMeets_concat_of_keeps reset, ih]

end LastReset

end UssdCredit.Library
