import UssdCredit.Library.Runs
import UssdCredit.Routes

/-! The subscriptions in memory over a run of requests: what one request does to the list,
and when the ids stay distinct although a creation counts the records and the demo records
continue from the largest id. -/

namespace UssdCredit

open Library Program

/-! The requests and their effects. -/

/-- A request to one of the routes that write to the list. -/
inductive SubscriptionCall where
  | create (req : Http)
  | update (req : Http) (subscriptionId : Nat)
  | delete (subscriptionId : Nat)
  | populate (req : Http)

namespace SubscriptionCall

variable (rt : Runtime)

def body : SubscriptionCall → Prog Response
  | .create req => SubscribersSimple.createSimpleSubscription rt req
  | .update req subscriptionId => SubscribersSimple.updateSimpleSubscription rt req subscriptionId
  | .delete subscriptionId => SubscribersSimple.deleteSimpleSubscription subscriptionId
  | .populate req => SubscribersSimple.populateDemoSubscribers req

def step (s : Server) (call : SubscriptionCall) : Server := ((call.body rt).serve s).2

end SubscriptionCall

/-- What identifies a fan's subscription: no update writes to it. -/
def Subscription.keys (s : Subscription) : Int × Value × Value := (s.id, s.influencerId, s.fanPhone)

/-- The subscription a creation request describes, up to its id. -/
structure NewSubscription (rt : Runtime) (req : Http) where
  payload : Value
  influencerId : Value
  fanPhone : Value
  amountGiven : Value
  amount : PyFloat
  frequency : Value
  isActive : Value
  parsed : req.getJson = .ok payload
  complete : payload.missingField ["influencer_id", "fan_phone", "amount"] = .ok none
  influencerId_given : payload.pyGet "influencer_id" .null = .ok influencerId
  fanPhone_given : payload.pyGet "fan_phone" .null = .ok fanPhone
  amount_given : payload.pyGet "amount" (.int 0) = .ok amountGiven
  amount_read : rt.float amountGiven = .ok amount
  frequency_given : payload.pyGet "frequency" (.str "monthly") = .ok frequency
  isActive_given : payload.pyGet "is_active" (.bool true) = .ok isActive

def NewSubscription.record {rt : Runtime} {req : Http} (new : NewSubscription rt req)
    (db : List Subscription) : Subscription where
  id := db.length + 1
  influencerId := new.influencerId
  fanPhone := new.fanPhone
  amount := new.amount
  frequency := new.frequency
  isActive := new.isActive.truthy
  createdAt := isoformat req.now
  updatedAt := isoformat req.now

/-- A state with another list of subscriptions. -/
def Server.setSubscribers (s : Server) (db : List Subscription) : Server := { s with subscribersDb := db }

section Calls

variable {rt : Runtime} {req : Http} {s : Server}

theorem post_attempt {doing : String} {body : Prog Response} {Q : Outcome → Server → Prop}
    (answered : ∀ e s', Q (.error e) s' → Q (.ok (message 500 s!"Error {doing}: {e.text}")) s')
    (attempted : Post exec body s Q) : Post exec (SubscribersSimple.attempt doing body) s Q := by
  unfold SubscribersSimple.attempt
  refine post_handle (post_mono attempted fun outcome s' holds => ?_)
  cases outcome with
  | ok response => exact holds
  | error e => exact post_pure (answered e s' holds)

/-- A creation appends one record, or it is refused and changes nothing. -/
theorem post_createSimpleSubscription :
    Post exec (SubscribersSimple.createSimpleSubscription rt req) s fun outcome s' =>
      (s' = s ∧ IsRefusal outcome) ∨ ∃ new : NewSubscription rt req,
        s' = s.setSubscribers (s.subscribersDb ++ [new.record s.subscribersDb]) ∧
        outcome = .ok (jsonify 201 (.dict [
          ("message", .str "Subscription created successfully"),
          ("subscription", (new.record s.subscribersDb).toJson)])) := by
  have failed : ∀ e : PyExn, (s = s ∧ IsRefusal (.error e : Outcome)) ∨ ∃ new : NewSubscription rt req,
        s = s.setSubscribers (s.subscribersDb ++ [new.record s.subscribersDb]) ∧
        (.error e : Outcome) = .ok (jsonify 201 (.dict [
          ("message", .str "Subscription created successfully"),
          ("subscription", (new.record s.subscribersDb).toJson)])) :=
    fun e => .inl ⟨rfl, isRefusal_error e⟩
  refine post_attempt (fun e s' done => ?_) ?_
  · rcases done with ⟨same, -⟩ | ⟨new, -, impossible⟩
    · exact .inl ⟨same, isRefusal_message (by decide) _⟩
    · cases impossible
  · refine post_lift_bind (fun e _ => failed e) fun payload parsed => ?_
    refine post_lift_bind (fun e _ => failed e) fun missing complete => ?_
    cases missing with
    | some field => exact post_pure (.inl ⟨rfl, isRefusal_message (by decide) _⟩)
    | none =>
      refine post_readSubscribers ?_
      refine post_lift_bind (fun e _ => failed e) fun influencerId influencerId_given => ?_
      refine post_lift_bind (fun e _ => failed e) fun fanPhone fanPhone_given => ?_
      refine post_lift_bind (fun e _ => failed e) fun amountGiven amount_given => ?_
      refine post_lift_bind (fun e _ => failed e) fun amount amount_read => ?_
      refine post_lift_bind (fun e _ => failed e) fun frequency frequency_given => ?_
      refine post_lift_bind (fun e _ => failed e) fun isActive isActive_given => ?_
      refine post_writeSubscribers (post_pure (.inr ⟨⟨payload, influencerId, fanPhone, amountGiven,
        amount, frequency, isActive, parsed, complete, influencerId_given, fanPhone_given,
        amount_given, amount_read, frequency_given, isActive_given⟩, rfl, rfl⟩))

/-- A creation that describes a subscription stores it. -/
theorem run_createSimpleSubscription (new : NewSubscription rt req) :
    ((SubscribersSimple.createSimpleSubscription rt req).serve s).2 =
      s.setSubscribers (s.subscribersDb ++ [new.record s.subscribersDb]) := by
  unfold Prog.serve SubscribersSimple.createSimpleSubscription SubscribersSimple.attempt
  rw [run_handle, run_lift_bind exec new.parsed, run_lift_bind exec new.complete]
  dsimp only
  rw [run_readSubscribers]
  rw [run_lift_bind exec new.influencerId_given, run_lift_bind exec new.fanPhone_given]
  rw [run_lift_bind exec new.amount_given, run_lift_bind exec new.amount_read]
  rw [run_lift_bind exec new.frequency_given, run_lift_bind exec new.isActive_given]
  rfl

/-- The list has the keys of the one in `s`, and nothing else differs from `s`. -/
def SameKeys (s s' : Server) : Prop :=
  ∃ db, db.map Subscription.keys = s.subscribersDb.map Subscription.keys ∧ s' = s.setSubscribers db

theorem post_setSubscription {s₀ : Server} {write : Subscription → Subscription}
    (keeps : ∀ subscription, (write subscription).keys = subscription.keys) (here : SameKeys s₀ s)
    (subscriptionId : Int) :
    Post exec (SubscribersSimple.setSubscription subscriptionId write) s fun _ s' => SameKeys s₀ s' := by
  obtain ⟨db, same, rfl⟩ := here
  exact ⟨_, by rw [Records.map_modify keeps]; exact same, rfl⟩

theorem post_assignSubscription {s₀ : Server} {payload : Value} {key : String}
    {convert : Value → Except PyExn (Subscription → Subscription)}
    (keeps : ∀ value write, convert value = .ok write →
      ∀ subscription, (write subscription).keys = subscription.keys)
    (here : SameKeys s₀ s) (subscriptionId : Int) :
    Post exec (SubscribersSimple.assign payload key subscriptionId convert) s
      fun _ s' => SameKeys s₀ s' := by
  unfold SubscribersSimple.assign
  refine post_lift_bind (fun _ _ => here) fun present _ => ?_
  split_ifs
  · refine post_lift_bind (fun _ _ => here) fun value _ => ?_
    refine post_lift_bind (fun _ _ => here) fun write converted => ?_
    exact post_setSubscription (keeps value write converted) here subscriptionId
  · exact post_pure here

theorem post_updateSimpleSubscription (subscriptionId : Nat) :
    Post exec (SubscribersSimple.updateSimpleSubscription rt req subscriptionId) s
      fun _ s' => SameKeys s s' := by
  have start : SameKeys s s := ⟨_, rfl, rfl⟩
  have failed : ∀ (e : PyExn) (s' : Server), SameKeys s s' → SameKeys s s' := fun _ _ same => same
  refine post_attempt failed ?_
  refine post_lift_bind (fun _ _ => start) fun payload _ => post_readSubscribers ?_
  split
  · exact post_pure start
  · have amount : ∀ value write, SubscribersSimple.writeAmount rt value = .ok write →
        ∀ subscription, (write subscription).keys = subscription.keys := by
      intro value write converted subscription
      obtain ⟨amount, -, written⟩ := bind_eq_ok.mp converted
      rw [← Except.ok.inj written]
      rfl
    refine post_bind_invariant (post_assignSubscription amount start _) failed fun _ s₁ here => ?_
    refine post_bind_invariant (post_assignSubscription ?_ here _) failed fun _ s₂ here => ?_
    · intro value write converted subscription
      rw [← Except.ok.inj converted]
      rfl
    refine post_bind_invariant (post_assignSubscription ?_ here _) failed fun _ s₃ here => ?_
    · intro value write converted subscription
      rw [← Except.ok.inj converted]
      rfl
    refine post_bind_invariant (post_setSubscription ?_ here _) failed fun _ s₄ here => ?_
    · intro subscription
      simp only [Subscription.keys]
    exact post_readSubscribers (post_pure here)

/-- Records that are equal in Python have the same id. -/
theorem id_of_toJson_pyEq {a b : Subscription} (equal : a.toJson.pyEq b.toJson = true) :
    a.id = b.id := by
  have ids := Value.lookup_of_pyEq equal (by simp) (by simp) "id"
  simpa [Library.Dict.lookup_cons, Value.mapScalar, Value.sortKeys, Value.pyNumber, Value.integral]
    using ids

/-- Removing by equality removes the record that was found. -/
theorem removeSubscription_eq {subscriptionId : Int} {db : List Subscription}
    {subscription : Subscription}
    (found : SubscribersSimple.findSubscription subscriptionId db = some subscription) :
    SubscribersSimple.removeSubscription subscription db =
      Records.remove Subscription.id subscriptionId db := by
  refine Records.eraseP_eq_remove found (by simp) fun other _ passes => ?_
  have same : other.id = subscription.id := by
    rcases (Bool.or_eq_true _ _).mp passes with identical | equal
    · rw [of_decide_eq_true identical]
    · exact id_of_toJson_pyEq equal
  exact same.trans (Records.find_some found).2

theorem post_deleteSimpleSubscription (subscriptionId : Nat) :
    Post exec (SubscribersSimple.deleteSimpleSubscription subscriptionId) s fun _ s' =>
      s' = s.setSubscribers (Records.remove Subscription.id subscriptionId s.subscribersDb) := by
  refine post_attempt (fun _ _ done => done) (post_readSubscribers ?_)
  split
  · next absent =>
    rw [Records.remove_of_find_none absent]
    exact post_pure rfl
  · next subscription found =>
    rw [removeSubscription_eq found]
    exact post_writeSubscribers (post_pure rfl)

theorem post_populateDemoSubscribers :
    Post exec (SubscribersSimple.populateDemoSubscribers req) s fun _ s' =>
      s' = s.setSubscribers (SubscribersSimple.sampleSubscribers.foldl
        (SubscribersSimple.addSample (isoformat req.now)) s.subscribersDb) := by
  unfold SubscribersSimple.populateDemoSubscribers
  exact post_readSubscribers (post_writeSubscribers (post_pure rfl))

end Calls

/-- What a request does to the list. -/
inductive SubscriptionEffect (rt : Runtime) (call : SubscriptionCall) (db : List Subscription) :
    List Subscription → Prop where
  | kept {db' : List Subscription} (same : db'.map Subscription.keys = db.map Subscription.keys) :
      SubscriptionEffect rt call db db'
  | created {req : Http} (create : call = .create req) (new : NewSubscription rt req) :
      SubscriptionEffect rt call db (db ++ [new.record db])
  | deleted {subscriptionId : Nat} (delete : call = .delete subscriptionId) :
      SubscriptionEffect rt call db (Records.remove Subscription.id subscriptionId db)
  | populated {req : Http} (populate : call = .populate req) :
      SubscriptionEffect rt call db (SubscribersSimple.sampleSubscribers.foldl
        (SubscribersSimple.addSample (isoformat req.now)) db)

/-- One request: its effect on the list, and nothing else. -/
theorem subscription_effect (rt : Runtime) (s : Server) (call : SubscriptionCall) :
    ∃ db, SubscriptionEffect rt call s.subscribersDb db ∧ call.step rt s = s.setSubscribers db := by
  cases call with
  | create req =>
    rcases @post_createSimpleSubscription rt req s with ⟨same, -⟩ | ⟨new, moved, -⟩
    · exact ⟨_, .kept rfl, same⟩
    · exact ⟨_, .created rfl new, moved⟩
  | update req subscriptionId =>
    obtain ⟨db, same, moved⟩ := @post_updateSimpleSubscription rt req s subscriptionId
    exact ⟨db, .kept same, moved⟩
  | delete subscriptionId => exact ⟨_, .deleted rfl, post_deleteSimpleSubscription subscriptionId⟩
  | populate req => exact ⟨_, .populated rfl, post_populateDemoSubscribers⟩

/-! Distinct ids. -/

def DistinctIds (s : Server) : Prop := (s.subscribersDb.map Subscription.id).Nodup

/-- A creation that goes through finds no record under the id it computes. -/
def CountIsFree (rt : Runtime) (s : Server) (call : SubscriptionCall) : Prop :=
  ∀ req, call = .create req → Nonempty (NewSubscription rt req) →
    ∀ subscription ∈ s.subscribersDb, subscription.id ≠ s.subscribersDb.length + 1

theorem ids_eq (db : List Subscription) :
    db.map Subscription.id = (db.map Subscription.keys).map Prod.fst := by
  rw [List.map_map]
  rfl

theorem nodup_addSamples (now : String) {db : List Subscription}
    (distinct : (db.map Subscription.id).Nodup) (samples : List SubscribersSimple.Sample) :
    ((samples.foldl (SubscribersSimple.addSample now) db).map Subscription.id).Nodup := by
  refine run_invariant (fun db : List Subscription => (db.map Subscription.id).Nodup)
    (fun db sample distinct => ?_) distinct samples
  rw [SubscribersSimple.addSample, List.map_append, List.map_singleton]
  exact Records.nodup_append_nextId distinct

theorem distinctIds_step {rt : Runtime} {s : Server} {call : SubscriptionCall}
    (distinct : DistinctIds s) (free : CountIsFree rt s call) : DistinctIds (call.step rt s) := by
  obtain ⟨db, effect, moved⟩ := subscription_effect rt s call
  rw [moved]
  change (db.map Subscription.id).Nodup
  cases effect with
  | kept same =>
    rw [ids_eq, same, ← ids_eq]
    exact distinct
  | created create new =>
    rw [List.map_append, List.map_singleton, List.nodup_append]
    refine ⟨distinct, List.nodup_singleton _, ?_⟩
    intro id member other last same
    obtain ⟨subscription, stored, rfl⟩ := List.mem_map.mp member
    rw [List.mem_singleton.mp last] at same
    exact free _ create ⟨new⟩ subscription stored same
  | deleted delete => exact distinct.sublist ((Records.remove_sublist _ _).map _)
  | populated populate => exact nodup_addSamples _ distinct _

/-- A clash shows at once. -/
theorem clash_step {rt : Runtime} {s : Server} {call : SubscriptionCall}
    (clash : ¬CountIsFree rt s call) : ¬DistinctIds (call.step rt s) := by
  unfold CountIsFree at clash
  push Not at clash
  obtain ⟨req, rfl, ⟨new⟩, subscription, stored, same⟩ := clash
  have moved : SubscriptionCall.step rt s (.create req) = _ := run_createSimpleSubscription new
  rw [moved]
  intro distinct
  change ((s.subscribersDb ++ [new.record s.subscribersDb]).map Subscription.id).Nodup at distinct
  rw [List.map_append, List.map_singleton, List.nodup_append] at distinct
  exact distinct.2.2 _ (List.mem_map_of_mem stored) _ (List.mem_singleton.mpr rfl) same

/-! The id of a creation addresses what was created. -/

/-- The record an access with the id reaches has these keys. -/
def Reaches (db : List Subscription) (keys : Int × Value × Value) : Prop :=
  (SubscribersSimple.findSubscription keys.1 db).map Subscription.keys = some keys

theorem reaches_iff (db : List Subscription) (keys : Int × Value × Value) :
    Reaches db keys ↔ (db.map Subscription.keys).find? (fun stored => stored.1 = keys.1) = some keys := by
  rw [List.find?_map]
  rfl

theorem Reaches.append {db : List Subscription} {keys : Int × Value × Value}
    (reaches : Reaches db keys) (later : List Subscription) : Reaches (db ++ later) keys := by
  obtain ⟨subscription, found, same⟩ := Option.map_eq_some_iff.mp reaches
  unfold Reaches SubscribersSimple.findSubscription at *
  rw [Records.find_append_of_some found, Option.map_some, same]

/-- A record that was created under a free id is reached under that id. -/
theorem reaches_created {rt : Runtime} {req : Http} (new : NewSubscription rt req)
    {db : List Subscription} (free : ∀ subscription ∈ db, subscription.id ≠ db.length + 1) :
    Reaches (db ++ [new.record db]) (new.record db).keys := by
  unfold Reaches SubscribersSimple.findSubscription Records.find
  have absent : db.find? (fun subscription => subscription.id = (new.record db).keys.1) = none :=
    List.find?_eq_none.mpr fun subscription stored same =>
      free subscription stored (of_decide_eq_true same)
  rw [List.find?_append, absent, Option.none_or, List.find?_cons_of_pos (by simp [Subscription.keys])]
  rfl

/-- Only a deletion of the id ends that. -/
theorem reaches_step {rt : Runtime} {s : Server} {call : SubscriptionCall}
    {keys : Int × Value × Value} (reaches : Reaches s.subscribersDb keys)
    (other : ∀ subscriptionId : Nat, call = .delete subscriptionId → (subscriptionId : Int) ≠ keys.1) :
    Reaches (call.step rt s).subscribersDb keys := by
  obtain ⟨db, effect, moved⟩ := subscription_effect rt s call
  rw [moved]
  change Reaches db keys
  cases effect with
  | kept same => rwa [reaches_iff, same, ← reaches_iff]
  | created create new => exact reaches.append _
  | deleted delete =>
    unfold Reaches SubscribersSimple.findSubscription at *
    rwa [Records.find_remove (other _ delete).symm]
  | populated populate =>
    refine run_invariant (fun db => Reaches db keys) (fun db sample reaches => ?_) reaches _
    exact reaches.append _

theorem reaches_run {rt : Runtime} {s : Server} {calls : List SubscriptionCall}
    {keys : Int × Value × Value} (reaches : Reaches s.subscribersDb keys)
    (others : ∀ subscriptionId : Nat, .delete subscriptionId ∈ calls → (subscriptionId : Int) ≠ keys.1) :
    Reaches (calls.foldl (SubscriptionCall.step rt) s).subscribersDb keys := by
  induction calls generalizing s with
  | nil => exact reaches
  | cons call rest ih =>
    refine ih (reaches_step reaches fun subscriptionId delete => ?_) fun subscriptionId later => ?_
    · exact others subscriptionId (delete ▸ List.mem_cons_self ..)
    · exact others subscriptionId (List.mem_cons_of_mem _ later)

/-- In a run from the empty list the ids are distinct in every state exactly when every
creation finds the id it counted out free. In such a run the id of a creation leads to that
fan's subscription, and to no other, until it is deleted. -/
theorem subscription_ids_distinct_iff (rt : Runtime) (s : Server) (calls : List SubscriptionCall) :
    let start := s.setSubscribers []
    let reached := (calls.foldl (SubscriptionCall.step rt) start).subscribersDb
    (Throughout (SubscriptionCall.step rt) DistinctIds start calls ↔
      AllSteps (SubscriptionCall.step rt) (CountIsFree rt) start calls) ∧
    (AllSteps (SubscriptionCall.step rt) (CountIsFree rt) start calls →
      ∀ (before : List SubscriptionCall) (req : Http) (after : List SubscriptionCall),
        calls = before ++ .create req :: after → ∀ new : NewSubscription rt req,
        let created := new.record (before.foldl (SubscriptionCall.step rt) start).subscribersDb
        (∀ subscriptionId : Nat, .delete subscriptionId ∈ after → (subscriptionId : Int) ≠ created.id) →
        ∃ found, SubscribersSimple.findSubscription created.id reached = some found ∧
          found.keys = created.keys ∧ ∀ other ∈ reached, other.id = created.id → other = found) := by
  intro start reached
  have begun : DistinctIds start := List.nodup_nil
  have exactly := @throughout_iff_allSteps _ _ (SubscriptionCall.step rt) (CountIsFree rt)
    DistinctIds DistinctIds (fun _ distinct => distinct) (fun _ _ => distinctIds_step)
    (fun _ _ _ => clash_step) start begun calls
  refine ⟨exactly, ?_⟩
  intro all before req after split new created others
  obtain ⟨-, creation, -⟩ := allSteps_append.mp (split ▸ all)
  have stored : ((SubscriptionCall.create req).step rt
      (before.foldl (SubscriptionCall.step rt) start)).subscribersDb = _ :=
    congrArg Server.subscribersDb (run_createSimpleSubscription new)
  have reaches : Reaches reached created.keys := by
    have first := reaches_created new (creation req rfl ⟨new⟩)
    have later := @reaches_run rt _ after created.keys (by rw [stored]; exact first) others
    change Reaches (calls.foldl (SubscriptionCall.step rt) start).subscribersDb created.keys
    rwa [split, List.foldl_append, List.foldl_cons]
  obtain ⟨found, here, same⟩ := Option.map_eq_some_iff.mp reaches
  have distinct : DistinctIds (calls.foldl (SubscriptionCall.step rt) start) :=
    all.run_invariant DistinctIds (fun _ _ => distinctIds_step) begun
  refine ⟨found, here, same, fun other member id => ?_⟩
  have there := Records.find_of_mem distinct member
  rw [id] at there
  exact Option.some.inj (there.symm.trans here)

/-- The form's request for a subscription to an influencer. -/
def subscriptionRequest (influencerId : Int) (fanPhone : String) : Http := .ofEntries none [
  ("influencer_id", .int influencerId), ("fan_phone", .str fanPhone), ("amount", .int 100)] rfl 0

/-- A creation after a deletion gets the id of a subscription that is still there, whose fan
is the one the id leads to. -/
theorem subscription_ids_clash :
    let calls : List SubscriptionCall := [.create (subscriptionRequest 1 "+254700000201"),
      .create (subscriptionRequest 1 "+254700000202"), .delete 1,
      .create (subscriptionRequest 1 "+254700000203")]
    let reached := calls.foldl (SubscriptionCall.step plainRuntime) (Server.initial.setSubscribers [])
    reached.subscribersDb.map Subscription.keys =
        [(2, .int 1, .str "+254700000202"), (2, .int 1, .str "+254700000203")] ∧
      ¬DistinctIds reached := by
  intro calls reached
  have keys : reached.subscribersDb.map Subscription.keys =
      [(2, .int 1, .str "+254700000202"), (2, .int 1, .str "+254700000203")] := by decide +kernel
  refine ⟨keys, fun distinct => ?_⟩
  unfold DistinctIds at distinct
  rw [ids_eq, keys] at distinct
  simp at distinct

end UssdCredit
