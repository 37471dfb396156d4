import UssdCredit.Library.Interleaving

/-! Threads that keep to a protocol. What a thread may do next depends on what its last
operations answered, and what it relies on in the shared state is left intact by the others. -/

namespace UssdCredit.Library

/-- The operations allowed in a phase, and the phase an answer leads to. -/
structure Protocol (Op : Type) (Res : Op → Type) (ε π : Type) where
  allowed : π → Op → Prop
  advance : π → (op : Op) → Except ε (Res op) → π

variable {Op : Type} {Res : Op → Type} {ε α β σ π : Type} {protocol : Protocol Op Res ε π}
  {phase : π}

namespace Program

/-- Along every path of answers, each operation is allowed in the phase it is called in. -/
def Follows (protocol : Protocol Op Res ε π) : Program Op Res ε α → π → Prop
  | .done _, _ => True
  | .call op next, phase =>
      protocol.allowed phase op ∧
        ∀ answer, (next answer).Follows protocol (protocol.advance phase op answer)

theorem follows_pure (a : α) : (pure a : Program Op Res ε α).Follows protocol phase := trivial

theorem follows_lift_bind {x : Except ε α} {f : α → Program Op Res ε β}
    (rest : ∀ a, x = .ok a → (f a).Follows protocol phase) :
    ((liftM x : Program Op Res ε α) >>= f).Follows protocol phase := by
  cases x with
  | error e => exact trivial
  | ok a => exact rest a rfl

/-- An operation that fails ends the program. -/
theorem follows_perform_bind {op : Op} {f : Res op → Program Op Res ε β}
    (may : protocol.allowed phase op)
    (rest : ∀ a, (f a).Follows protocol (protocol.advance phase op (.ok a))) :
    (perform op >>= f).Follows protocol phase := by
  refine ⟨may, fun answer => ?_⟩
  cases answer with
  | error e => exact trivial
  | ok a => exact rest a

/-- A second part that keeps to the protocol from every phase. -/
theorem follows_bind {p : Program Op Res ε α} {f : α → Program Op Res ε β}
    (first : p.Follows protocol phase) (rest : ∀ a phase, (f a).Follows protocol phase) :
    (p >>= f).Follows protocol phase := by
  change (p.bind f).Follows protocol phase
  induction p generalizing phase with
  | done result =>
    cases result with
    | ok a => exact rest a phase
    | error e => exact trivial
  | call op next ih => exact ⟨first.1, fun answer => ih answer (first.2 answer)⟩

theorem follows_handle {p : Program Op Res ε α} {recover : ε → Program Op Res ε α}
    (first : p.Follows protocol phase) (rest : ∀ e phase, (recover e).Follows protocol phase) :
    (p.handle recover).Follows protocol phase := by
  induction p generalizing phase with
  | done result =>
    cases result with
    | ok a => exact trivial
    | error e => exact rest e phase
  | call op next ih => exact ⟨first.1, fun answer => ih answer (first.2 answer)⟩

end Program

namespace Pool

/-- Every thread is in some phase of the protocol, and what it relies on there holds. -/
def Conforms (protocol : Protocol Op Res ε π) (rely : π → σ → Prop)
    (pool : Pool Op Res ε α σ) : Prop :=
  ∀ program ∈ pool.threads, ∃ phase, program.Follows protocol phase ∧ rely phase pool.store

variable {rely : π → σ → Prop} {pool : Pool Op Res ε α σ} {thread : Nat}

theorem Conforms.pending (conforms : pool.Conforms protocol rely) {op : Op}
    (next : pool.pending thread = some op) :
    ∃ phase, protocol.allowed phase op ∧ rely phase pool.store := by
  unfold Pool.pending at next
  split at next
  · next op' rest found =>
    obtain rfl := Option.some.inj next
    obtain ⟨phase, follows, relied⟩ := conforms _ (List.mem_of_getElem? found)
    exact ⟨phase, follows.1, relied⟩
  · cases next

/-- An operation leads its own thread to a phase whose assumption holds, and keeps the
assumptions of the others. -/
theorem Conforms.step (exec : Program.Exec Op Res ε σ) (conforms : pool.Conforms protocol rely)
    (own : ∀ phase op, pool.pending thread = some op → protocol.allowed phase op →
      rely phase pool.store →
      rely (protocol.advance phase op (exec op pool.store).1) (exec op pool.store).2)
    (others : ∀ phase op, pool.pending thread = some op → rely phase pool.store →
      rely phase (exec op pool.store).2) :
    (pool.step exec thread).Conforms protocol rely := by
  rcases step_cases exec pool thread with ⟨-, same⟩ | ⟨op, next, found, called, moved⟩
  · rwa [same]
  · rw [moved]
    intro program member
    rcases List.mem_or_eq_of_mem_set member with old | rfl
    · obtain ⟨phase, follows, relied⟩ := conforms program old
      exact ⟨phase, follows, others phase op called relied⟩
    · obtain ⟨phase, follows, relied⟩ := conforms _ (List.mem_of_getElem? found)
      exact ⟨_, follows.2 _, own phase op called follows.1 relied⟩

end Pool

end UssdCredit.Library
