import UssdCredit.SubscriptionIds

/-! Creations and updates of subscriptions are all or nothing: a request that is not answered
with success leaves the list as it was, although an update writes field by field. -/

namespace UssdCredit

open Library Program

/-- `after` is `before` up to the four fields an update writes. -/
structure Subscription.Edited (before after : Subscription) : Prop where
  id : after.id = before.id
  influencerId : after.influencerId = before.influencerId
  fanPhone : after.fanPhone = before.fanPhone
  createdAt : after.createdAt = before.createdAt

/-- A write that edits whatever it is given. -/
def EditsOnly (write : Subscription → Subscription) : Prop :=
  ∀ record : Subscription, record.Edited (write record)

theorem EditsOnly.comp {first second : Subscription → Subscription} (edits' : EditsOnly second)
    (edits : EditsOnly first) : EditsOnly fun record => second (first record) := by
  intro record
  have before := edits record
  have after := edits' (first record)
  exact ⟨after.id.trans before.id, after.influencerId.trans before.influencerId,
    after.fanPhone.trans before.fanPhone, after.createdAt.trans before.createdAt⟩

/-- The first record with the id was edited, and nothing else was touched. -/
def EditedFrom (subscriptionId : Int) (s s' : Server) : Prop :=
  ∃ write : Subscription → Subscription, EditsOnly write ∧
    s' = s.setSubscribers (Records.modify Subscription.id subscriptionId write s.subscribersDb)

/-- A state an update reaches between two fields: only an object gets anything written. -/
def Between (payload : Value) (subscriptionId : Int) (s s' : Server) : Prop :=
  s' = s ∨ (∃ entries, payload = .dict entries) ∧ EditedFrom subscriptionId s s'

/-- One field: an exception finds the list as it was before the first one. -/
def FieldEnds (payload : Value) (subscriptionId : Int) (s : Server) :
    Except PyExn Unit → Server → Prop
  | .ok _, s' => Between payload subscriptionId s s'
  | .error _, s' => s' = s

section Update

variable {rt : Runtime} {req : Http} {s : Server} {payload : Value} {subscriptionId : Int}

theorem editedFrom_set {write : Subscription → Subscription}
    (edits : EditsOnly write) {s' : Server}
    (here : s' = s ∨ EditedFrom subscriptionId s s') :
    Post exec (SubscribersSimple.setSubscription subscriptionId write) s' fun result s'' =>
      result = .ok () ∧ EditedFrom subscriptionId s s'' := by
  rcases here with rfl | ⟨earlier, kept, rfl⟩
  · exact ⟨rfl, write, edits, rfl⟩
  · have once := Records.modify_modify (fun record => (kept record).id) subscriptionId write
      s.subscribersDb
    exact ⟨rfl, fun record => write (earlier record), edits.comp kept, congrArg s.setSubscribers once⟩

/-- The membership test and the lookup cannot fail on an object, so once something is written
only the conversion could raise. -/
theorem post_field {key : String} {convert : Value → Except PyExn (Subscription → Subscription)}
    {s' : Server} (here : Between payload subscriptionId s s')
    (edits : ∀ value write, convert value = .ok write → EditsOnly write)
    (total : s' ≠ s → ∀ value, ∃ write, convert value = .ok write) :
    Post exec (SubscribersSimple.assign payload key subscriptionId convert) s'
      (FieldEnds payload subscriptionId s) := by
  have object : s' ≠ s → ∃ entries, payload = .dict entries :=
    fun written => (here.resolve_left written).1
  unfold SubscribersSimple.assign
  apply post_lift_bind
  · intro e raised
    by_contra written
    obtain ⟨entries, rfl⟩ := object written
    cases raised
  · intro present member
    split_ifs with found
    · apply post_lift_bind
      · intro e raised
        by_contra written
        obtain ⟨entries, rfl⟩ := object written
        obtain ⟨item, stored⟩ := Option.isSome_iff_exists.mp (Except.ok.inj member ▸ found)
        simp only [Value.pyIndex, stored] at raised
        cases raised
      · intro value indexed
        apply post_lift_bind
        · intro e raised
          by_contra written
          obtain ⟨write, converted⟩ := total written value
          rw [converted] at raised
          cases raised
        · intro write converted
          obtain ⟨entries, same, -⟩ := Value.pyIndex_ok indexed
          refine post_mono (editedFrom_set (edits value write converted) (here.imp_right And.right))
            fun result s'' ended => ?_
          obtain ⟨rfl, edited⟩ := ended
          exact .inr ⟨⟨entries, same⟩, edited⟩
    · exact post_pure here

/-- A field that is converted without exceptions. -/
theorem post_field_total {key : String} {convert : Value → Subscription → Subscription}
    {s' : Server} (here : Between payload subscriptionId s s')
    (edits : ∀ value, EditsOnly (convert value)) :
    Post exec (SubscribersSimple.assign payload key subscriptionId fun value =>
      return convert value) s' (FieldEnds payload subscriptionId s) := by
  refine post_field here ?_ fun _ value => ⟨_, rfl⟩
  intro value write converted record
  rw [← Except.ok.inj converted]
  exact edits value record

/-- How an update ends: with success after an edit, or as a refusal that changes nothing. -/
def UpdateEnds (subscriptionId : Int) (s : Server) (outcome : Outcome) (s' : Server) : Prop :=
  (s' = s ∧ IsRefusal outcome) ∨
    EditedFrom subscriptionId s s' ∧ ∃ body, outcome = .ok (jsonify 200 body)

theorem post_field_then {p : Prog Unit} {rest : Unit → Prog Response} {s' : Server}
    (first : Post exec p s' (FieldEnds payload subscriptionId s))
    (later : ∀ s'', Between payload subscriptionId s s'' →
      Post exec (rest ()) s'' (UpdateEnds subscriptionId s)) :
    Post exec (p >>= rest) s' (UpdateEnds subscriptionId s) := by
  refine post_bind (post_mono first fun result s'' ended => ?_)
  cases result with
  | ok _ => exact later s'' ended
  | error e => exact .inl ⟨ended, isRefusal_error e⟩

theorem updateSimpleSubscription_ends (subscriptionId : Nat) :
    Post exec (SubscribersSimple.updateSimpleSubscription rt req subscriptionId) s
      (UpdateEnds subscriptionId s) := by
  apply post_attempt
  · intro e s' ended
    rcases ended with ⟨same, -⟩ | ⟨-, body, impossible⟩
    · exact .inl ⟨same, isRefusal_message (by decide) _⟩
    · cases impossible
  · apply post_lift_bind
    · exact fun e _ => .inl ⟨rfl, isRefusal_error e⟩
    · intro payload parsed
      refine post_readSubscribers ?_
      split
      · exact post_pure (.inl ⟨rfl, isRefusal_message (by decide) _⟩)
      · have amount : ∀ value write, SubscribersSimple.writeAmount rt value = .ok write →
            EditsOnly write := by
          intro value write converted record
          obtain ⟨amount, -, written⟩ := bind_eq_ok.mp converted
          rw [← Except.ok.inj written]
          exact ⟨rfl, rfl, rfl, rfl⟩
        -- Only the first conversion can raise, and nothing is written before it.
        apply post_field_then (post_field (.inl rfl) amount (absurd rfl))
        intro s₁ here
        refine post_field_then (post_field_total here ?_) fun s₂ here => ?_
        · exact fun _ _ => ⟨rfl, rfl, rfl, rfl⟩
        refine post_field_then (post_field_total here ?_) fun s₃ here => ?_
        · exact fun _ _ => ⟨rfl, rfl, rfl, rfl⟩
        refine post_bind (post_mono (editedFrom_set ?_ (here.imp_right And.right)) ?_)
        · exact fun _ => ⟨rfl, rfl, rfl, rfl⟩
        · intro result s₄ ended
          obtain ⟨rfl, edited⟩ := ended
          exact post_readSubscribers (post_pure (.inr ⟨edited, _, rfl⟩))

end Update

theorem IsRefusal.not_succeeds {outcome : Outcome} (refused : IsRefusal outcome) :
    (Outcome.answer outcome).succeeds = false := by
  have high := refused.answer_status
  unfold Response.succeeds
  have large : ¬(Outcome.answer outcome).status < 300 := by omega
  simp only [large, decide_false, Bool.and_false]

/-- A creation or an update that is not answered with success changes nothing. A creation that
is appends one record, and an update that is edits the first record with the id. -/
theorem failed_subscription_writes_change_nothing (rt : Runtime) (req : Http) (s : Server) :
    (let created := (SubscribersSimple.createSimpleSubscription rt req).serve s
      if (Outcome.answer created.1).succeeds then
        ∃ record, created.2 = s.setSubscribers (s.subscribersDb ++ [record])
      else created.2 = s) ∧
    ∀ subscriptionId : Nat,
      let updated := (SubscribersSimple.updateSimpleSubscription rt req subscriptionId).serve s
      if (Outcome.answer updated.1).succeeds then
        ∃ write : Subscription → Subscription, EditsOnly write ∧
          updated.2 = s.setSubscribers
            (Records.modify Subscription.id subscriptionId write s.subscribersDb)
      else updated.2 = s := by
  constructor
  · intro created
    rcases @post_createSimpleSubscription rt req s with ⟨same, refused⟩ | ⟨new, moved, answered⟩
    · have failed : (Outcome.answer created.1).succeeds = false := refused.not_succeeds
      rw [if_neg (ne_true_of_eq_false failed)]
      exact same
    · have ok : (Outcome.answer created.1).succeeds = true := congrArg _ (congrArg _ answered)
      rw [if_pos ok]
      exact ⟨_, moved⟩
  · intro subscriptionId updated
    rcases @updateSimpleSubscription_ends rt req s subscriptionId with
      ⟨same, refused⟩ | ⟨edited, body, answered⟩
    · have failed : (Outcome.answer updated.1).succeeds = false := refused.not_succeeds
      rw [if_neg (ne_true_of_eq_false failed)]
      exact same
    · have ok : (Outcome.answer updated.1).succeeds = true := congrArg _ (congrArg _ answered)
      rw [if_pos ok]
      exact edited

end UssdCredit
