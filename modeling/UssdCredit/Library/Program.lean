import Mathlib.Logic.Basic

/-! Programs over a signature of atomic operations, kept as trees. One tree has two
readings: `run` performs its operations one after another on a state, and a
scheduler may interleave the operations of several trees on a shared state. -/

namespace UssdCredit.Library

/-- A program performs operations that succeed with a result or fail with an error,
and ends with a result or an error of its own. -/
inductive Program (Op : Type) (Res : Op → Type) (ε α : Type) where
  | done (result : Except ε α)
  | call (op : Op) (next : Except ε (Res op) → Program Op Res ε α)

namespace Program

variable {Op : Type} {Res : Op → Type} {ε α β σ τ : Type}

/-- Sequencing; an error ends the program. -/
def bind : Program Op Res ε α → (α → Program Op Res ε β) → Program Op Res ε β
  | .done (.ok a), f => f a
  | .done (.error e), _ => .done (.error e)
  | .call op next, f => .call op (fun answer => (next answer).bind f)

instance : Monad (Program Op Res ε) where
  pure a := .done (.ok a)
  bind := bind

instance : MonadLift (Except ε) (Program Op Res ε) := ⟨.done⟩

/-- One operation, whose failure is the program's failure. -/
def perform (op : Op) : Program Op Res ε (Res op) := .call op .done

/-- Errors of the first program go to the handler. -/
def handle : Program Op Res ε α → (ε → Program Op Res ε α) → Program Op Res ε α
  | .done (.ok a), _ => .done (.ok a)
  | .done (.error e), recover => recover e
  | .call op next, recover => .call op (fun answer => (next answer).handle recover)

/-- The meaning of the operations on a state. -/
abbrev Exec (Op : Type) (Res : Op → Type) (ε σ : Type) := (op : Op) → σ → Except ε (Res op) × σ

/-- Sequential meaning: every operation takes effect before the next one is chosen. -/
def run (exec : Exec Op Res ε σ) : Program Op Res ε α → σ → Except ε α × σ
  | .done result, s => (result, s)
  | .call op next, s => (next (exec op s).1).run exec (exec op s).2

/-! Postconditions of a sequential run. -/

/-- `Q` holds of the result and the final state of the run from `s`. -/
def Post (exec : Exec Op Res ε σ) (p : Program Op Res ε α) (s : σ)
    (Q : Except ε α → σ → Prop) : Prop :=
  Q (p.run exec s).1 (p.run exec s).2

theorem run_bind (exec : Exec Op Res ε σ) (p : Program Op Res ε α)
    (f : α → Program Op Res ε β) (s : σ) :
    (p >>= f).run exec s =
      match p.run exec s with
      | (.ok a, s') => (f a).run exec s'
      | (.error e, s') => (.error e, s') := by
  change (p.bind f).run exec s = _
  induction p generalizing s with
  | done result => cases result <;> rfl
  | call op next ih => exact ih _ _

/-- A first part that ends well hands its result and its state on. -/
theorem run_bind_ok {exec : Exec Op Res ε σ} {p : Program Op Res ε α} {a : α} {s s' : σ}
    (ran : p.run exec s = (.ok a, s')) (f : α → Program Op Res ε β) :
    (p >>= f).run exec s = (f a).run exec s' := by
  rw [run_bind, ran]

theorem run_handle (exec : Exec Op Res ε σ) (p : Program Op Res ε α)
    (recover : ε → Program Op Res ε α) (s : σ) :
    (p.handle recover).run exec s =
      match p.run exec s with
      | (.ok a, s') => (.ok a, s')
      | (.error e, s') => (recover e).run exec s' := by
  induction p generalizing s with
  | done result => cases result <;> rfl
  | call op next ih => exact ih _ _

theorem run_lift_bind (exec : Exec Op Res ε σ) {x : Except ε α} {a : α} (passed : x = .ok a)
    (f : α → Program Op Res ε β) (s : σ) :
    ((liftM x : Program Op Res ε α) >>= f).run exec s = (f a).run exec s := by
  subst passed
  rfl

theorem run_perform_bind {exec : Exec Op Res ε σ} {op : Op} {a : Res op} {s s' : σ}
    (answered : exec op s = (.ok a, s')) (f : Res op → Program Op Res ε β) :
    (perform op >>= f).run exec s = (f a).run exec s' := by
  change ((perform op).bind f).run exec s = _
  simp only [perform, bind, run, answered]

theorem run_perform_error {exec : Exec Op Res ε σ} {op : Op} {e : ε} {s s' : σ}
    (raised : exec op s = (.error e, s')) (f : Res op → Program Op Res ε β) :
    (perform op >>= f).run exec s = (.error e, s') := by
  change ((perform op).bind f).run exec s = _
  simp only [perform, bind, run, raised]

theorem post_mono {exec : Exec Op Res ε σ} {p : Program Op Res ε α} {s : σ}
    {Q Q' : Except ε α → σ → Prop} (holds : Post exec p s Q)
    (implies : ∀ result s', Q result s' → Q' result s') : Post exec p s Q' := implies _ _ holds

theorem post_bind {exec : Exec Op Res ε σ} {p : Program Op Res ε α}
    {f : α → Program Op Res ε β} {s : σ} {Q : Except ε β → σ → Prop}
    (first : Post exec p s (fun r s' => match r with
      | .ok a => Post exec (f a) s' Q
      | .error e => Q (.error e) s')) : Post exec (p >>= f) s Q := by
  unfold Post at *
  rw [run_bind]
  split <;> simp_all only

/-- A first part that keeps an invariant, however it ends. -/
theorem post_bind_invariant {exec : Exec Op Res ε σ} {p : Program Op Res ε α}
    {f : α → Program Op Res ε β} {s : σ} {Q : Except ε β → σ → Prop} {I : σ → Prop}
    (first : Post exec p s fun _ s' => I s') (failed : ∀ e s', I s' → Q (.error e) s')
    (rest : ∀ a s', I s' → Post exec (f a) s' Q) : Post exec (p >>= f) s Q := by
  refine post_bind (post_mono first fun result s' kept => ?_)
  cases result with
  | ok a => exact rest a s' kept
  | error e => exact failed e s' kept

/-- A pure step either ends the run where it stands or hands its value on. -/
theorem post_lift_bind {exec : Exec Op Res ε σ} {x : Except ε α}
    {f : α → Program Op Res ε β} {s : σ} {Q : Except ε β → σ → Prop}
    (failed : ∀ e, x = .error e → Q (.error e) s)
    (passed : ∀ a, x = .ok a → Post exec (f a) s Q) :
    Post exec ((liftM x : Program Op Res ε α) >>= f) s Q := by
  cases x with
  | error e => exact failed e rfl
  | ok a => exact passed a rfl

/-- An operation either ends the run in the state it leaves or hands its result on. -/
theorem post_perform_bind {exec : Exec Op Res ε σ} {op : Op}
    {f : Res op → Program Op Res ε β} {s : σ} {Q : Except ε β → σ → Prop}
    (failed : ∀ e, (exec op s).1 = .error e → Q (.error e) (exec op s).2)
    (passed : ∀ a, (exec op s).1 = .ok a → Post exec (f a) (exec op s).2 Q) :
    Post exec (perform op >>= f) s Q := by
  apply post_bind
  cases answer : (exec op s).1 with
  | error e =>
    have result := failed e answer
    simpa only [Post, perform, run, answer] using result
  | ok a =>
    have result := passed a answer
    simpa only [Post, perform, run, answer] using result

theorem post_handle {exec : Exec Op Res ε σ} {p : Program Op Res ε α}
    {recover : ε → Program Op Res ε α} {s : σ} {Q : Except ε α → σ → Prop}
    (first : Post exec p s (fun r s' => match r with
      | .ok a => Q (.ok a) s'
      | .error e => Post exec (recover e) s' Q)) : Post exec (p.handle recover) s Q := by
  unfold Post at *
  rw [run_handle]
  split <;> simp_all only

/-! Every operation a program can perform, whatever the answers were. -/

/-- Along every path of answers, only operations in `allowed` are called. -/
def Calls (allowed : Op → Prop) : Program Op Res ε α → Prop
  | .done _ => True
  | .call op next => allowed op ∧ ∀ answer, (next answer).Calls allowed

theorem calls_pure {allowed : Op → Prop} (a : α) :
    (pure a : Program Op Res ε α).Calls allowed := trivial

theorem calls_error {allowed : Op → Prop} (e : ε) :
    (done (.error e) : Program Op Res ε α).Calls allowed := trivial

theorem calls_done {allowed : Op → Prop} (result : Except ε α) :
    (done result : Program Op Res ε α).Calls allowed := trivial

/-- What is left after an operation. -/
theorem Calls.next {allowed : Op → Prop} {op : Op} {next : Except ε (Res op) → Program Op Res ε α}
    (calls : (call op next).Calls allowed) (answer : Except ε (Res op)) :
    (next answer).Calls allowed := calls.2 answer

theorem Calls.op {allowed : Op → Prop} {op : Op} {next : Except ε (Res op) → Program Op Res ε α}
    (calls : (call op next).Calls allowed) : allowed op := calls.1

theorem calls_lift {allowed : Op → Prop} (x : Except ε α) :
    (liftM x : Program Op Res ε α).Calls allowed := trivial

theorem calls_perform {allowed : Op → Prop} {op : Op} (may : allowed op) :
    (perform op : Program Op Res ε (Res op)).Calls allowed := ⟨may, fun _ => trivial⟩

theorem calls_bind {allowed : Op → Prop} {p : Program Op Res ε α}
    {f : α → Program Op Res ε β} (first : p.Calls allowed)
    (rest : ∀ a, (f a).Calls allowed) : (p >>= f).Calls allowed := by
  change (p.bind f).Calls allowed
  induction p with
  | done result =>
    cases result with
    | ok a => exact rest a
    | error e => trivial
  | call op next ih => exact ⟨first.1, fun answer => ih answer (first.2 answer)⟩

/-- The rest may rely on what a pure step gave. -/
theorem calls_lift_bind {allowed : Op → Prop} {x : Except ε α} {f : α → Program Op Res ε β}
    (rest : ∀ a, x = .ok a → (f a).Calls allowed) :
    ((liftM x : Program Op Res ε α) >>= f).Calls allowed := by
  cases x with
  | ok a => exact rest a rfl
  | error e => trivial

theorem calls_handle {allowed : Op → Prop} {p : Program Op Res ε α}
    {recover : ε → Program Op Res ε α} (first : p.Calls allowed)
    (rest : ∀ e, (recover e).Calls allowed) : (p.handle recover).Calls allowed := by
  induction p with
  | done result =>
    cases result with
    | ok a => trivial
    | error e => exact rest e
  | call op next ih => exact ⟨first.1, fun answer => ih answer (first.2 answer)⟩

theorem Calls.mono {allowed allowed' : Op → Prop} (weaker : ∀ op, allowed op → allowed' op)
    {p : Program Op Res ε α} (calls : p.Calls allowed) : p.Calls allowed' := by
  induction p with
  | done result => trivial
  | call op next ih => exact ⟨weaker op calls.1, fun answer => ih answer (calls.2 answer)⟩

/-- A part of the state that no allowed operation changes is the same after the run. -/
theorem Calls.run_frame {exec : Exec Op Res ε σ} {allowed : Op → Prop} {part : σ → τ}
    (keeps : ∀ op s, allowed op → part (exec op s).2 = part s) {p : Program Op Res ε α}
    (calls : p.Calls allowed) (s : σ) : part (p.run exec s).2 = part s := by
  induction p generalizing s with
  | done result => rfl
  | call op next ih => exact (ih _ (calls.2 _) _).trans (keeps op s calls.1)

/-! Two runs side by side. -/

/-- The two programs call the same operations, all of them in `allowed`, as long as the
answers correspond under `R`, and then end with corresponding results or with the same error. -/
inductive Similar (allowed : Op → Prop) (R : (op : Op) → Res op → Res op → Prop)
    (A : α → β → Prop) : Program Op Res ε α → Program Op Res ε β → Prop where
  | ok {a : α} {b : β} (same : A a b) : Similar allowed R A (.done (.ok a)) (.done (.ok b))
  | error (e : ε) : Similar allowed R A (.done (.error e)) (.done (.error e))
  | call (op : Op) {next : Except ε (Res op) → Program Op Res ε α}
      {next' : Except ε (Res op) → Program Op Res ε β} (may : allowed op)
      (failed : ∀ e, Similar allowed R A (next (.error e)) (next' (.error e)))
      (answered : ∀ x y, R op x y → Similar allowed R A (next (.ok x)) (next' (.ok y))) :
      Similar allowed R A (.call op next) (.call op next')

/-- Two outcomes correspond: related results, or the same error. -/
inductive Corresponds (A : α → β → Prop) : Except ε α → Except ε β → Prop where
  | ok {a : α} {b : β} (same : A a b) : Corresponds A (.ok a) (.ok b)
  | error (e : ε) : Corresponds A (.error e) (.error e)

theorem Corresponds.eq {x y : Except ε α} (same : Corresponds Eq x y) : x = y := by
  cases same with
  | ok same => rw [same]
  | error e => rfl

/-- Each allowed operation keeps the states related and answers correspondingly. -/
def Respects (execL : Exec Op Res ε σ) (execR : Exec Op Res ε τ) (allowed : Op → Prop)
    (S : σ → τ → Prop) (R : (op : Op) → Res op → Res op → Prop) : Prop :=
  ∀ op s t, allowed op → S s t → S (execL op s).2 (execR op t).2 ∧
    Corresponds (R op) (execL op s).1 (execR op t).1

variable {α' β' : Type} {allowed : Op → Prop} {R : (op : Op) → Res op → Res op → Prop}
  {A : α → β → Prop} {B : α' → β' → Prop}

theorem Similar.run {execL : Exec Op Res ε σ} {execR : Exec Op Res ε τ} {S : σ → τ → Prop}
    (respects : Respects execL execR allowed S R) {p : Program Op Res ε α}
    {q : Program Op Res ε β} (similar : Similar allowed R A p q) {s : σ} {t : τ}
    (related : S s t) :
    S (p.run execL s).2 (q.run execR t).2 ∧
      Corresponds A (p.run execL s).1 (q.run execR t).1 := by
  induction similar generalizing s t with
  | ok same => exact ⟨related, .ok same⟩
  | error e => exact ⟨related, .error e⟩
  | call op may failed answered ihFailed ihAnswered =>
    obtain ⟨after, answers⟩ := respects op s t may related
    simp only [Program.run]
    revert answers
    generalize (execL op s).1 = left, (execR op t).1 = right
    intro answers
    cases answers with
    | ok same => exact ihAnswered _ _ same after
    | error e => exact ihFailed e after

theorem Similar.bind {p : Program Op Res ε α} {q : Program Op Res ε β}
    {f : α → Program Op Res ε α'} {g : β → Program Op Res ε β'}
    (first : Similar allowed R A p q) (rest : ∀ a b, A a b → Similar allowed R B (f a) (g b)) :
    Similar allowed R B (p >>= f) (q >>= g) := by
  change Similar allowed R B (p.bind f) (q.bind g)
  induction first with
  | ok same => exact rest _ _ same
  | error e => exact .error e
  | call op may failed answered ihFailed ihAnswered => exact .call op may ihFailed ihAnswered

theorem Similar.handle {p : Program Op Res ε α} {q : Program Op Res ε β}
    {recover : ε → Program Op Res ε α} {recover' : ε → Program Op Res ε β}
    (first : Similar allowed R A p q)
    (rest : ∀ e, Similar allowed R A (recover e) (recover' e)) :
    Similar allowed R A (p.handle recover) (q.handle recover') := by
  induction first with
  | ok same => exact .ok same
  | error e => exact rest e
  | call op may failed answered ihFailed ihAnswered => exact .call op may ihFailed ihAnswered

/-- The same operation on both sides, and then what its answers lead to. -/
theorem Similar.perform_bind {op : Op} {f : Res op → Program Op Res ε α}
    {g : Res op → Program Op Res ε β} (may : allowed op)
    (rest : ∀ x y, R op x y → Similar allowed R A (f x) (g y)) :
    Similar allowed R A (Program.perform op >>= f) (Program.perform op >>= g) :=
  Similar.bind (Similar.call op may .error fun _ _ same => .ok same) rest

/-- The same pure step on both sides. -/
theorem Similar.lift_bind {x : Except ε α'} {f : α' → Program Op Res ε α}
    {g : α' → Program Op Res ε β}
    (rest : ∀ a, x = .ok a → Similar allowed R A (f a) (g a)) :
    Similar allowed R A ((liftM x : Program Op Res ε α') >>= f)
      ((liftM x : Program Op Res ε α') >>= g) := by
  cases x with
  | error e => exact .error e
  | ok a => exact rest a rfl

/-- A program is similar to itself when its operations answer alike. -/
theorem Calls.similar {p : Program Op Res ε α} {calling : Op → Prop} (calls : p.Calls calling)
    (may : ∀ op, calling op → allowed op)
    (equal : ∀ op, calling op → ∀ x y, R op x y → x = y) : Similar allowed R Eq p p := by
  induction p with
  | done result =>
    cases result with
    | ok a => exact .ok rfl
    | error e => exact .error e
  | call op next ih =>
    refine .call op (may op calls.1) (fun e => ih _ (calls.2 _)) fun x y same => ?_
    rw [equal op calls.1 x y same]
    exact ih _ (calls.2 _)

-- Handlers are large: from here on only the rules look inside.
attribute [irreducible] Calls

end Program

end UssdCredit.Library
