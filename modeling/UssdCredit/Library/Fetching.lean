import UssdCredit.Library.Runs

/-! A view of a fixed source: every change of its query launches a fetch of its own, and whatever
answer arrives is put on the screen, in any order. -/

namespace UssdCredit.Library

structure FetchingView (Query Screen : Type) where
  query : Query
  screen : Screen
  inFlight : List Query

inductive ViewInput (Action : Type) where
  | act (action : Action)
  | receive (i : Nat)

namespace FetchingView

variable {Query Screen Answer Action : Type}

/-- What the view is made of: the source, what an answer or a failure does to the screen, and the
query an action leads to. -/
structure Wiring (Query Screen Answer Action : Type) where
  source : Query → Option Answer
  absorb : Screen → Option Answer → Screen
  moves : Query → Screen → Action → Query

variable (wiring : Wiring Query Screen Answer Action)

def ask [DecidableEq Query] (view : FetchingView Query Screen) (query : Query) :
    FetchingView Query Screen :=
  if query = view.query then view
  else { view with query := query, inFlight := view.inFlight ++ [query] }

def receive (view : FetchingView Query Screen) (i : Nat) : FetchingView Query Screen :=
  match view.inFlight[i]? with
  | none => view
  | some query =>
      { view with
        screen := wiring.absorb view.screen (wiring.source query)
        inFlight := view.inFlight.eraseIdx i }

def step [DecidableEq Query] (view : FetchingView Query Screen) :
    ViewInput Action → FetchingView Query Screen
  | .act action => view.ask (wiring.moves view.query view.screen action)
  | .receive i => receive wiring view i

/-- The view as it is first shown: its fetch is under way. -/
def mounted (query : Query) (screen : Screen) : FetchingView Query Screen := ⟨query, screen, [query]⟩

def Quiet (view : FetchingView Query Screen) : Prop := view.inFlight = []

/-- The screen shows the answer to the query, which the query accepts. -/
def Shows (reads : Screen → Answer) (accepts : Query → Answer → Prop)
    (view : FetchingView Query Screen) : Prop :=
  wiring.source view.query = some (reads view.screen) ∧ accepts view.query (reads view.screen)

/-- The source has an answer that the query accepts. -/
def Sound (accepts : Query → Answer → Prop) (query : Query) : Prop :=
  ∃ answer, wiring.source query = some answer ∧ accepts query answer

/-- Actions lead to sound queries, and the fetch that is answered last has the answer to the
current query. -/
def Meets (accepts : Query → Answer → Prop) (view : FetchingView Query Screen) :
    ViewInput Action → Prop
  | .act action => Sound wiring accepts (wiring.moves view.query view.screen action)
  | .receive i => ∀ query, view.inFlight = [query] → i = 0 →
      wiring.source query = wiring.source view.query

/-- What meeting the conditions keeps. -/
structure Fresh (reads : Screen → Answer) (accepts : Query → Answer → Prop)
    (view : FetchingView Query Screen) : Prop where
  sound : Sound wiring accepts view.query
  launched : ∀ query ∈ view.inFlight, Sound wiring accepts query
  shown : view.Quiet → wiring.source view.query = some (reads view.screen)

variable {wiring} {reads : Screen → Answer} {accepts : Query → Answer → Prop}
  {view : FetchingView Query Screen}

theorem Fresh.shows (fresh : Fresh wiring reads accepts view) (quiet : view.Quiet) :
    Shows wiring reads accepts view := by
  have shown := fresh.shown quiet
  obtain ⟨answer, answered, accepted⟩ := fresh.sound
  rw [Option.some.inj (answered.symm.trans shown)] at accepted
  exact ⟨shown, accepted⟩

theorem fresh_mounted {query : Query} (sound : Sound wiring accepts query) (screen : Screen) :
    Fresh wiring reads accepts (mounted query screen) where
  sound := sound
  launched := by
    intro other member
    rw [List.mem_singleton.mp member]
    exact sound
  shown := by
    intro quiet
    cases quiet

theorem fresh_ask [DecidableEq Query] {query : Query} (fresh : Fresh wiring reads accepts view)
    (sound : Sound wiring accepts query) : Fresh wiring reads accepts (view.ask query) := by
  rw [ask]
  split
  · exact fresh
  · refine ⟨sound, fun other member => ?_, fun quiet => ?_⟩
    · rcases List.mem_append.mp member with early | new
      · exact fresh.launched other early
      · rw [List.mem_singleton.mp new]
        exact sound
    · exact absurd quiet (List.append_ne_nil_of_right_ne_nil _ (List.cons_ne_nil _ _))

theorem eraseIdx_eq_nil {i : Nat} {query : Query} (waits : view.inFlight[i]? = some query)
    (quiet : view.inFlight.eraseIdx i = []) : i = 0 ∧ view.inFlight = [query] := by
  obtain ⟨bound, held⟩ := List.getElem?_eq_some_iff.mp waits
  have length := List.length_eraseIdx_of_lt bound
  rw [quiet, List.length_nil] at length
  obtain rfl : i = 0 := by omega
  obtain ⟨only, single⟩ := List.length_eq_one_iff.mp (by omega : view.inFlight.length = 1)
  simp only [single, List.getElem_cons_zero] at held
  exact ⟨rfl, by rw [single, held]⟩

section Absorbing

variable (absorbs : ∀ screen answer, reads (wiring.absorb screen (some answer)) = answer)

include absorbs

theorem fresh_receive (fresh : Fresh wiring reads accepts view) {i : Nat}
    (meets : Meets wiring accepts view (.receive i)) :
    Fresh wiring reads accepts (receive wiring view i) := by
  rw [receive]
  cases waits : view.inFlight[i]? with
  | none => exact fresh
  | some query =>
    refine ⟨fresh.sound, fun other member => fresh.launched other (List.mem_of_mem_eraseIdx member),
      fun quiet => ?_⟩
    obtain ⟨first, single⟩ := eraseIdx_eq_nil waits quiet
    obtain ⟨answer, answered, -⟩ := fresh.launched query (List.mem_of_getElem? waits)
    change wiring.source view.query = some (reads (wiring.absorb view.screen (wiring.source query)))
    rw [← meets query single first, answered, absorbs]

theorem fresh_step [DecidableEq Query] (view : FetchingView Query Screen) (input : ViewInput Action)
    (fresh : Fresh wiring reads accepts view) (meets : Meets wiring accepts view input) :
    Fresh wiring reads accepts (step wiring view input) := by
  cases input with
  | act action => exact fresh_ask fresh meets
  | receive i => exact fresh_receive absorbs fresh meets

end Absorbing

/-! What a step that does not meet its condition leads to. -/

theorem ask_query [DecidableEq Query] (view : FetchingView Query Screen) (query : Query) :
    (view.ask query).query = query := by
  rw [ask]
  split
  next same => exact same.symm
  next => rfl

theorem receive_query (view : FetchingView Query Screen) (i : Nat) :
    (receive wiring view i).query = view.query := by
  rw [receive]
  cases view.inFlight[i]? <;> rfl

theorem not_shows_of_unsound (unsound : ¬Sound wiring accepts view.query) :
    ¬Shows wiring reads accepts view :=
  fun shows => unsound ⟨reads view.screen, shows⟩

/-- Once the fetches under way are answered the view is quiet, with its query. -/
theorem exists_drained [DecidableEq Query] (wiring : Wiring Query Screen Answer Action)
    (view : FetchingView Query Screen) :
    ∃ responses : List (ViewInput Action), (∀ response ∈ responses, ∃ i, response = .receive i) ∧
      (responses.foldl (step wiring) view).Quiet ∧
      (responses.foldl (step wiring) view).query = view.query := by
  cases waiting : view.inFlight with
  | nil => exact ⟨[], fun _ member => absurd member List.not_mem_nil, waiting, rfl⟩
  | cons query others =>
    have shorter : (receive wiring view 0).inFlight = others := by
      simp only [receive, waiting, List.getElem?_cons_zero, List.eraseIdx_cons_zero]
    have fewer : (receive wiring view 0).inFlight.length < view.inFlight.length := by
      rw [shorter, waiting]
      exact Nat.lt_succ_self others.length
    obtain ⟨responses, all, quiet, kept⟩ := exists_drained wiring (receive wiring view 0)
    refine ⟨.receive 0 :: responses, ?_, quiet, kept.trans (receive_query view 0)⟩
    exact List.forall_mem_cons.mpr ⟨⟨0, rfl⟩, all⟩
termination_by view.inFlight.length

section Breaking

variable [DecidableEq Query]
  (absorbs : ∀ screen answer, reads (wiring.absorb screen (some answer)) = answer)

/-- From a query that is not sound, responses alone lead to a quiet view that does not show it. -/
theorem breaks_of_unsound (reads : Screen → Answer) (view : FetchingView Query Screen)
    (unsound : ¬Sound wiring accepts view.query) :
    ∃ responses : List (ViewInput Action), (∀ response ∈ responses, ∃ i, response = .receive i) ∧
      (responses.foldl (step wiring) view).Quiet ∧
      ¬Shows wiring reads accepts (responses.foldl (step wiring) view) := by
  obtain ⟨responses, all, quiet, kept⟩ := exists_drained wiring view
  refine ⟨responses, all, quiet, not_shows_of_unsound ?_⟩
  rw [kept]
  exact unsound

include absorbs

theorem breaks_of_not_meets (fresh : Fresh wiring reads accepts view) {input : ViewInput Action}
    (fails : ¬Meets wiring accepts view input) :
    ∃ responses : List (ViewInput Action), (∀ response ∈ responses, ∃ i, response = .receive i) ∧
      (responses.foldl (step wiring) (step wiring view input)).Quiet ∧
      ¬Shows wiring reads accepts (responses.foldl (step wiring) (step wiring view input)) := by
  cases input with
  | act action =>
    apply breaks_of_unsound
    rw [step, ask_query]
    exact fails
  | receive i =>
    rw [Meets] at fails
    push Not at fails
    obtain ⟨query, single, rfl, differ⟩ := fails
    refine ⟨[], fun _ member => absurd member List.not_mem_nil, ?_, fun shows => differ ?_⟩
    · simp [step, receive, single, Quiet]
    · obtain ⟨answer, answered, -⟩ := fresh.launched query (by rw [single]; exact List.mem_cons_self)
      have shown := shows.1
      simp only [List.foldl_nil, step, receive, single, List.getElem?_cons_zero] at shown
      rw [answered, absorbs] at shown
      exact answered.trans shown.symm

/-- A run from a mounted view that does not meet the conditions has a part after which responses
alone lead to a quiet view that does not show its query. -/
theorem breaks_of_not_allSteps {query : Query} {screen : Screen} {inputs : List (ViewInput Action)}
    (fails : ¬(Sound wiring accepts query ∧
      AllSteps (step wiring) (Meets wiring accepts) (mounted query screen) inputs)) :
    ∃ before responses : List (ViewInput Action), before <+: inputs ∧
      (∀ response ∈ responses, ∃ i, response = .receive i) ∧
      ((before ++ responses).foldl (step wiring) (mounted query screen)).Quiet ∧
      ¬Shows wiring reads accepts
        ((before ++ responses).foldl (step wiring) (mounted query screen)) := by
  by_cases sound : Sound wiring accepts query
  · obtain ⟨before, input, after, rfl, all, broken⟩ :=
      exists_first_violation fun all => fails ⟨sound, all⟩
    have fresh := AllSteps.run_invariant (Fresh wiring reads accepts)
      (fresh_step absorbs) all (fresh_mounted sound screen)
    obtain ⟨responses, replies, quiet, hidden⟩ := breaks_of_not_meets absorbs fresh broken
    refine ⟨before ++ [input], responses, ⟨after, by simp⟩, replies, ?_, ?_⟩
    · simpa [List.foldl_append] using quiet
    · simpa [List.foldl_append] using hidden
  · obtain ⟨responses, replies, quiet, hidden⟩ :=
      breaks_of_unsound reads (mounted query screen) sound
    exact ⟨[], responses, List.nil_prefix, replies, quiet, hidden⟩

end Breaking

end FetchingView

end UssdCredit.Library
