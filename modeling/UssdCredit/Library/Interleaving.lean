import UssdCredit.Library.Program
import UssdCredit.Library.Runs

/-! Programs interleaved on a shared state. A schedule names, step by step, the
thread whose next operation is performed; each operation is atomic. -/

namespace UssdCredit.Library

variable {Op : Type} {Res : Op → Type} {ε α σ : Type}

/-- The shared state and what is left of each thread. -/
structure Pool (Op : Type) (Res : Op → Type) (ε α σ : Type) where
  store : σ
  threads : List (Program Op Res ε α)

namespace Pool

/-- The next operation of one thread; a finished or absent thread leaves the pool alone. -/
def step (exec : Program.Exec Op Res ε σ) (pool : Pool Op Res ε α σ) (thread : Nat) :
    Pool Op Res ε α σ :=
  match pool.threads[thread]? with
  | some (.call op next) =>
      { store := (exec op pool.store).2,
        threads := pool.threads.set thread (next (exec op pool.store).1) }
  | _ => pool

/-- The operation the schedule performs next, if any. -/
def pending (pool : Pool Op Res ε α σ) (thread : Nat) : Option Op :=
  match pool.threads[thread]? with
  | some (.call op _) => some op
  | _ => none

variable (exec : Program.Exec Op Res ε σ)

theorem step_cases (pool : Pool Op Res ε α σ) (thread : Nat) :
    (pool.pending thread = none ∧ pool.step exec thread = pool) ∨
      ∃ op next, pool.threads[thread]? = some (.call op next) ∧
        pool.pending thread = some op ∧
        pool.step exec thread =
          { store := (exec op pool.store).2,
            threads := pool.threads.set thread (next (exec op pool.store).1) } := by
  unfold step pending
  cases found : pool.threads[thread]? with
  | none => exact .inl ⟨rfl, rfl⟩
  | some program =>
    cases program with
    | done result => exact .inl ⟨rfl, rfl⟩
    | call op next => exact .inr ⟨op, next, rfl, rfl, rfl⟩

/-- An invariant of each thread along a schedule: it may speak of the states passed so far, so
a thread is carried from the state it takes its step in to all later ones. -/
theorem run_threads (invariant : List Nat → Nat → Program Op Res ε α → Prop)
    {start : Pool Op Res ε α σ}
    (first : ∀ thread program, start.threads[thread]? = some program → invariant [] thread program)
    (later : ∀ before other thread program, invariant before thread program →
      invariant (before ++ [other]) thread program)
    (own : ∀ before thread op next, invariant before thread (.call op next) →
      invariant (before ++ [thread]) thread
        (next (exec op (before.foldl (step exec) start).store).1))
    (schedule : List Nat) : ∀ thread program,
      (schedule.foldl (step exec) start).threads[thread]? = some program →
        invariant schedule thread program := by
  induction schedule using List.reverseRecOn with
  | nil => exact first
  | append_singleton before other ih =>
    intro thread program here
    rw [List.foldl_append, List.foldl_cons, List.foldl_nil] at here
    rcases step_cases exec (before.foldl (step exec) start) other with
      ⟨-, idle⟩ | ⟨op, next, found, -, moved⟩
    · rw [idle] at here
      exact later before other thread program (ih thread program here)
    · rw [moved] at here
      by_cases same : other = thread
      · subst same
        have inside := (List.getElem?_eq_some_iff.mp found).1
        rw [List.getElem?_set_self inside] at here
        rw [← Option.some.inj here]
        exact own before other op next (ih other _ found)
      · rw [List.getElem?_set_ne same] at here
        exact later before other thread program (ih thread program here)

/-- Letting one thread run alone is one of the schedules: it ends in the state and
with the result of the sequential run. -/
theorem sequential_schedule (program : Program Op Res ε α) (store : σ)
    (threads : List (Program Op Res ε α)) (thread : Nat)
    (here : threads[thread]? = some program) :
    ∃ steps, (List.replicate steps thread).foldl (step exec) ⟨store, threads⟩ =
      ⟨(program.run exec store).2, threads.set thread (.done (program.run exec store).1)⟩ := by
  induction program generalizing store threads with
  | done result =>
    refine ⟨0, ?_⟩
    have inside := (List.getElem?_eq_some_iff.mp here).1
    simp only [List.replicate_zero, List.foldl_nil, Program.run, mk.injEq, true_and]
    exact (List.set_getElem_self inside).symm.trans
      (by rw [(List.getElem?_eq_some_iff.mp here).2])
  | call op next ih =>
    have inside := (List.getElem?_eq_some_iff.mp here).1
    obtain ⟨steps, run⟩ := ih (exec op store).1 (exec op store).2
      (threads.set thread (next (exec op store).1)) (by simp [inside])
    refine ⟨steps + 1, ?_⟩
    rw [List.replicate_succ, List.foldl_cons]
    have first : step exec ⟨store, threads⟩ thread =
        ⟨(exec op store).2, threads.set thread (next (exec op store).1)⟩ := by
      unfold step
      simp only [here]
    rw [first, run, List.set_set]
    rfl

end Pool

end UssdCredit.Library
