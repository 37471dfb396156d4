import UssdCredit.DemoInfluencers
import UssdCredit.SubscriptionIds

/-! Whom a subscription pays, over runs that mix requests on both stores: the influencer its
influencer_id leads to, as long as no id is given out again while a subscription holds it. -/

namespace UssdCredit

open Library Program

/-! The ids a call gives out. -/

/-- A call that goes through gives an id to an influencer that was not there before. -/
inductive Assigns : InfluencerCall → List Influencer → Int → Prop where
  | create {req : Http} {db : List Influencer} (new : NewInfluencer req)
      (free : phoneTaken new.phone db = false) : Assigns (.create req) db (nextInfluencerId db)
  | populate {db : List Influencer} {id : Int} (least : nextInfluencerId db ≤ id)
      (below : id < nextInfluencerId db + (newSamples db).length) : Assigns .populate db id

theorem nextInfluencerId_new (db : List Influencer) {id : Int} (least : nextInfluencerId db ≤ id) :
    id ∉ db.map Influencer.id := by
  intro member
  have above : id < nextInfluencerId db := Records.lt_nextId member
  omega

/-- A creation assigns the one id it adds, if it adds a record. -/
theorem assigns_create_iff (s : Server) (req : Http) (id : Int) :
    Assigns (.create req) s.influencersDb id ↔
      id ∈ (InfluencerCall.step s (.create req)).influencersDb.map Influencer.id ∧
        id ∉ s.influencersDb.map Influencer.id := by
  by_cases accepted : ∃ new : NewInfluencer req, phoneTaken new.phone s.influencersDb = false
  · obtain ⟨new, free⟩ := accepted
    have moved : InfluencerCall.step s (.create req) = _ := run_adminCreateInfluencer new free
    rw [moved]
    change _ ↔ id ∈ (s.influencersDb ++ [new.record s.influencersDb]).map Influencer.id ∧ _
    rw [List.map_append, List.map_singleton, List.mem_append, List.mem_singleton]
    constructor
    · rintro ⟨⟩
      exact ⟨.inr rfl, nextInfluencerId_new _ le_rfl⟩
    · rintro ⟨old | rfl, absent⟩
      · exact absurd old absent
      · exact .create new free
  · have same : InfluencerCall.step s (.create req) = s := by
      rcases step_create s req with same | ⟨new, free, -⟩
      · exact same
      · exact absurd ⟨new, free⟩ accepted
    rw [same]
    constructor
    · rintro ⟨new, free⟩
      exact absurd ⟨new, free⟩ accepted
    · rintro ⟨present, absent⟩
      exact absurd present absent

/-- An update keeps the ids, whatever it finds in the payload. -/
theorem influencerIds_update (s : Server) (req : Http) (influencerId : Nat) :
    (InfluencerCall.step s (.update req influencerId)).influencersDb.map Influencer.id =
      s.influencersDb.map Influencer.id := by
  obtain ⟨db, keys, moved⟩ := @post_adminUpdateInfluencer req s influencerId
  have moved : InfluencerCall.step s (.update req influencerId) = s.setInfluencers db := moved
  rw [moved, setInfluencers_influencersDb]
  rcases keys with same | ⟨phone, -, same⟩
  · rw [influencerIds_eq, same, ← influencerIds_eq]
  · rw [influencerIds_eq, same, ← influencerIds_eq, influencerIds_rephone]

/-- These are the ids that were not there before a call and are there after it. -/
theorem assigns_iff (s : Server) (call : InfluencerCall) (id : Int) :
    Assigns call s.influencersDb id ↔
      id ∈ (call.step s).influencersDb.map Influencer.id ∧ id ∉ s.influencersDb.map Influencer.id := by
  cases call with
  | create req => exact assigns_create_iff s req id
  | update req influencerId =>
    rw [influencerIds_update]
    exact ⟨nofun, fun ⟨present, absent⟩ => absurd present absent⟩
  | delete influencerId =>
    refine ⟨nofun, fun ⟨present, absent⟩ => absurd ?_ absent⟩
    rcases step_delete s influencerId with same | moved
    · rwa [same] at present
    · rw [moved] at present
      exact ((Records.remove_sublist _ _).map _).subset present
  | populate =>
    rw [step_populate, setInfluencers_influencersDb, ids_addSamples sampleInfluencers_phones, List.mem_append,
      Records.mem_consecutive]
    constructor
    · rintro (_ | ⟨least, below⟩)
      exact ⟨.inr ⟨least, below⟩, nextInfluencerId_new _ least⟩
    · rintro ⟨old | ⟨least, below⟩, absent⟩
      · exact absurd old absent
      · exact .populate least below

/-! Histories. -/

/-- A request to one of the two stores. -/
inductive StoreCall where
  | influencer (call : InfluencerCall)
  | subscription (call : SubscriptionCall)

def StoreCall.step (rt : Runtime) (s : Server) : StoreCall → Server
  | .influencer request => request.step s
  | .subscription request => request.step rt s

/-- An influencer under its id, told apart from earlier holders of the id by its arrival. -/
structure Payee where
  id : Int
  arrival : Nat
  deriving DecidableEq

/-- The server, and what the run so far says about it: for each id that is in use the call
that brought its holder, and for each subscription whom it denoted when it was created. -/
structure History where
  server : Server
  clock : Nat
  arrived : Int → Nat
  payees : List (Option Payee)

namespace History

/-- The influencer whose id equals an influencer_id. -/
def denotes (h : History) (influencerId : Value) : Option Payee :=
  (h.server.influencersDb.find? fun inf => (Value.int inf.id).pyEq influencerId).map
    fun inf => ⟨inf.id, h.arrived inf.id⟩

/-- The stored subscriptions: their influencer_id, and whom it denoted. -/
def entries (h : History) : List (Value × Option Payee) :=
  (h.server.subscribersDb.zip h.payees).map fun entry => (entry.1.influencerId, entry.2)

variable (rt : Runtime)

def payeesAfter (h : History) : StoreCall → List (Option Payee)
  | .subscription (.delete subscriptionId) =>
      Records.removeNote Subscription.id subscriptionId h.server.subscribersDb h.payees
  | request => h.payees ++ ((request.step rt h.server).subscribersDb.drop h.payees.length).map
      fun new => h.denotes new.influencerId

def step (h : History) (call : StoreCall) : History where
  server := call.step rt h.server
  clock := h.clock + 1
  arrived id := if id ∈ h.server.influencersDb.map Influencer.id then h.arrived id else h.clock + 1
  payees := h.payeesAfter rt call

/-- The history begins with the lists the modules start with. -/
def initial (s : Server) : History where
  server := (s.setInfluencers initialInfluencers).setSubscribers []
  clock := 0
  arrived _ := 0
  payees := []

/-- What the notes are worth: one for each subscription, and none from the future. -/
structure Consistent (h : History) : Prop where
  beside : h.payees.length = h.server.subscribersDb.length
  past : ∀ entry ∈ h.entries, ∀ payee, entry.2 = some payee → payee.arrival ≤ h.clock
  present : ∀ id ∈ h.server.influencersDb.map Influencer.id, h.arrived id ≤ h.clock

/-- The notes never change what the server does. -/
theorem server_run (h : History) (calls : List StoreCall) :
    (calls.foldl (step rt) h).server = calls.foldl (StoreCall.step rt) h.server := by
  induction calls generalizing h with
  | nil => rfl
  | cons call rest ih => exact ih _

theorem denotes_iff {h : History} {influencerId : Value} {payee : Payee} :
    h.denotes influencerId = some payee ↔
      payee.id ∈ h.server.influencersDb.map Influencer.id ∧
        (Value.int payee.id).pyEq influencerId = true ∧ payee.arrival = h.arrived payee.id := by
  unfold denotes
  constructor
  · intro denoted
    obtain ⟨inf, found, rfl⟩ := Option.map_eq_some_iff.mp denoted
    have equal := List.find?_some found
    exact ⟨List.mem_map_of_mem (List.mem_of_find?_eq_some found), equal, rfl⟩
  · rintro ⟨member, equal, arrival⟩
    obtain ⟨inf, stored, id⟩ := List.mem_map.mp member
    cases found : h.server.influencersDb.find? fun inf => (Value.int inf.id).pyEq influencerId with
    | none => exact absurd (id ▸ equal) (List.find?_eq_none.mp found inf stored)
    | some other =>
      have equal' := List.find?_some found
      have same : other.id = payee.id := Value.int_pyEq_inj equal' equal
      rw [Option.map_some, same, ← arrival]

theorem entries_eq (h : History) :
    h.entries = (h.server.subscribersDb.map Subscription.influencerId).zip h.payees := by
  rw [List.zip_map_left]
  rfl

end History

theorem influencerCall_subscribers (s : Server) (request : InfluencerCall) :
    (request.step s).subscribersDb = s.subscribersDb := by
  obtain ⟨db, -, moved⟩ := influencer_effect s request
  rw [moved]
  rfl

theorem subscriptionCall_influencers (rt : Runtime) (s : Server) (request : SubscriptionCall) :
    (request.step rt s).influencersDb = s.influencersDb := by
  obtain ⟨db, -, moved⟩ := subscription_effect rt s request
  rw [moved]
  rfl

/-- A request that deletes nothing keeps what identifies each subscription, and may append. -/
theorem subscriptionCall_grows (rt : Runtime) (s : Server) (request : SubscriptionCall)
    (keeps : ∀ subscriptionId, request ≠ .delete subscriptionId) :
    ∃ kept more, (request.step rt s).subscribersDb = kept ++ more ∧
      kept.map Subscription.keys = s.subscribersDb.map Subscription.keys := by
  obtain ⟨db, effect, moved⟩ := subscription_effect rt s request
  rw [moved]
  change ∃ kept more, db = kept ++ more ∧ _
  cases effect with
  | kept same => exact ⟨db, [], (List.append_nil _).symm, same⟩
  | created create new => exact ⟨_, _, rfl, rfl⟩
  | deleted delete => exact absurd delete (keeps _)
  | populated populate =>
    refine run_invariant (fun db => ∃ kept more, db = kept ++ more ∧
      kept.map Subscription.keys = s.subscribersDb.map Subscription.keys) ?_
      ⟨_, [], (List.append_nil _).symm, rfl⟩ _
    rintro _ sample ⟨kept, more, rfl, same⟩
    exact ⟨kept, _, List.append_assoc .., same⟩

namespace History

variable {rt : Runtime} {h : History}

/-- Subscriptions that stay keep their entries, and new ones get whom they denote. -/
theorem entries_grow (beside : h.payees.length = h.server.subscribersDb.length) {call : StoreCall}
    (keeps : ∀ subscriptionId, call ≠ .subscription (.delete subscriptionId))
    {kept more : List Subscription} (after : (call.step rt h.server).subscribersDb = kept ++ more)
    (same : kept.map Subscription.keys = h.server.subscribersDb.map Subscription.keys) :
    (h.step rt call).payees.length = (kept ++ more).length ∧
      (h.step rt call).entries =
        h.entries ++ more.map fun new => (new.influencerId, h.denotes new.influencerId) := by
  have length : kept.length = h.payees.length := by
    rw [beside, ← List.length_map Subscription.keys, same, List.length_map]
  have payees : (h.step rt call).payees = h.payees ++ more.map fun new => h.denotes new.influencerId := by
    change h.payeesAfter rt call = _
    unfold payeesAfter
    split
    · next subscriptionId => exact absurd rfl (keeps subscriptionId)
    · rw [after, List.drop_left' length]
  have ids : kept.map Subscription.influencerId =
      h.server.subscribersDb.map Subscription.influencerId := by
    have proj : ∀ db : List Subscription,
        db.map Subscription.influencerId = (db.map Subscription.keys).map fun keys => keys.2.1 := by
      intro db
      rw [List.map_map]
      rfl
    rw [proj, same, ← proj]
  constructor
  · rw [payees, List.length_append, List.length_map, List.length_append, length]
  · rw [entries_eq, entries_eq, payees]
    change ((call.step rt h.server).subscribersDb.map Subscription.influencerId).zip _ = _
    rw [after, List.map_append, List.zip_append (by rw [List.length_map, length]), ids]
    rw [List.zip_map']

theorem influencerCall_entries (beside : h.payees.length = h.server.subscribersDb.length)
    (request : InfluencerCall) :
    (h.step rt (.influencer request)).payees.length =
        (h.step rt (.influencer request)).server.subscribersDb.length ∧
      (h.step rt (.influencer request)).entries = h.entries := by
  have after : (StoreCall.step rt h.server (.influencer request)).subscribersDb =
      h.server.subscribersDb ++ [] :=
    (influencerCall_subscribers h.server request).trans (List.append_nil _).symm
  obtain ⟨length, entries⟩ := entries_grow beside (fun _ => StoreCall.noConfusion) after rfl
  exact ⟨length.trans (congrArg List.length after).symm, by simpa using entries⟩

theorem subscriptionCall_entries (beside : h.payees.length = h.server.subscribersDb.length)
    (request : SubscriptionCall) :
    (h.step rt (.subscription request)).payees.length =
        (h.step rt (.subscription request)).server.subscribersDb.length ∧
      ∀ entry ∈ (h.step rt (.subscription request)).entries,
        entry ∈ h.entries ∨ entry.2 = h.denotes entry.1 := by
  by_cases deletes : ∃ subscriptionId, request = .delete subscriptionId
  · obtain ⟨subscriptionId, rfl⟩ := deletes
    have after : (StoreCall.step rt h.server (.subscription (.delete subscriptionId))).subscribersDb =
        Records.remove Subscription.id subscriptionId h.server.subscribersDb :=
      congrArg Server.subscribersDb (post_deleteSimpleSubscription subscriptionId)
    constructor
    · exact (Records.length_removeNote beside).trans (congrArg List.length after).symm
    · intro entry member
      obtain ⟨noted, present, rfl⟩ := List.mem_map.mp member
      change noted ∈ (StoreCall.step rt h.server _).subscribersDb.zip _ at present
      rw [after] at present
      exact .inl (List.mem_map_of_mem (Records.mem_zip_remove present))
  · obtain ⟨kept, more, after, same⟩ := subscriptionCall_grows rt h.server request
      fun subscriptionId delete => deletes ⟨subscriptionId, delete⟩
    have other : ∀ subscriptionId, StoreCall.subscription request ≠ .subscription (.delete subscriptionId) :=
      fun subscriptionId delete => deletes ⟨subscriptionId, StoreCall.subscription.inj delete⟩
    obtain ⟨length, entries⟩ := entries_grow beside other after same
    refine ⟨length.trans (congrArg List.length after).symm, fun entry member => ?_⟩
    rw [entries] at member
    rcases List.mem_append.mp member with old | new
    · exact .inl old
    · obtain ⟨subscription, -, rfl⟩ := List.mem_map.mp new
      exact .inr rfl

theorem Consistent.step (consistent : h.Consistent) (call : StoreCall) : (h.step rt call).Consistent := by
  have present : ∀ id ∈ (h.step rt call).server.influencersDb.map Influencer.id,
      (h.step rt call).arrived id ≤ (h.step rt call).clock := by
    intro id _
    change (if _ then _ else _) ≤ h.clock + 1
    split_ifs with old
    · exact Nat.le_succ_of_le (consistent.present id old)
    · exact le_rfl
  have old : ∀ entry ∈ h.entries, ∀ payee, entry.2 = some payee → payee.arrival ≤ h.clock + 1 :=
    fun entry member payee noted => Nat.le_succ_of_le (consistent.past entry member payee noted)
  cases call with
  | influencer request =>
    obtain ⟨beside, entries⟩ := @influencerCall_entries rt h consistent.beside request
    exact ⟨beside, by rw [entries]; exact old, present⟩
  | subscription request =>
    obtain ⟨beside, entries⟩ := @subscriptionCall_entries rt h consistent.beside request
    refine ⟨beside, fun entry member payee noted => ?_, present⟩
    rcases entries entry member with before | denoted
    · exact old entry before payee noted
    · obtain ⟨member, -, arrival⟩ := denotes_iff.mp (denoted.symm.trans noted)
      rw [arrival]
      exact Nat.le_succ_of_le (consistent.present _ member)

/-! Keeping the payee. -/

/-- Whatever influencer a stored subscription denotes now is the one it denoted when it was
created, for the subscriptions that count. -/
def KeepsPayees (counted : Option Payee → Prop) (h : History) : Prop :=
  ∀ entry ∈ h.entries, counted entry.2 →
    ∀ payee, h.denotes entry.1 = some payee → entry.2 = some payee

/-- The call gives out no id that one of these subscriptions holds. -/
def NoHeldId (counted : Option Payee → Prop) (h : History) (call : StoreCall) : Prop :=
  ∀ request, call = .influencer request → ∀ id, Assigns request h.server.influencersDb id →
    ∀ entry ∈ h.entries, counted entry.2 → (Value.int id).pyEq entry.1 = false

variable {counted : Option Payee → Prop}

/-- A request on subscriptions changes nothing that a value denotes. -/
theorem denotes_subscriptionCall (request : SubscriptionCall) (influencerId : Value) :
    (h.step rt (.subscription request)).denotes influencerId = h.denotes influencerId := by
  have influencers : (StoreCall.step rt h.server (.subscription request)).influencersDb =
      h.server.influencersDb := subscriptionCall_influencers rt h.server request
  ext payee
  rw [denotes_iff, denotes_iff]
  change payee.id ∈ (StoreCall.step rt h.server _).influencersDb.map Influencer.id ∧ _ ∧
    _ = (if _ then _ else _) ↔ _
  rw [influencers]
  refine and_congr_right fun member => ?_
  rw [if_pos member]

theorem keepsPayees_step (consistent : h.Consistent) (keeps : h.KeepsPayees counted)
    {call : StoreCall} (free : h.NoHeldId counted call) : (h.step rt call).KeepsPayees counted := by
  cases call with
  | subscription request =>
    intro entry member counts payee denoted
    rw [denotes_subscriptionCall] at denoted
    obtain ⟨-, entries⟩ := @subscriptionCall_entries rt h consistent.beside request
    rcases entries entry member with old | new
    · exact keeps entry old counts payee denoted
    · exact new.trans denoted
  | influencer request =>
    intro entry member counts payee denoted
    rw [(@influencerCall_entries rt h consistent.beside request).2] at member
    obtain ⟨present, equal, arrival⟩ := denotes_iff.mp denoted
    by_cases before : payee.id ∈ h.server.influencersDb.map Influencer.id
    · refine keeps entry member counts payee (denotes_iff.mpr ⟨before, equal, ?_⟩)
      rw [arrival]
      exact if_pos before
    · -- The id is new, so no subscription that counts holds it.
      have assigned := (assigns_iff h.server request payee.id).mpr ⟨present, before⟩
      rw [free request rfl payee.id assigned entry member counts] at equal
      cases equal

/-- A held id that is given out leads to an influencer that was not there at the creation. -/
theorem not_keepsPayees_step (consistent : h.Consistent) {call : StoreCall}
    (held : ¬h.NoHeldId counted call) : ¬(h.step rt call).KeepsPayees counted := by
  unfold NoHeldId at held
  push Not at held
  obtain ⟨request, rfl, id, assigned, entry, member, counts, equal⟩ := held
  obtain ⟨present, fresh⟩ := (assigns_iff h.server request id).mp assigned
  intro keeps
  have denoted : (h.step rt (.influencer request)).denotes entry.1 = some ⟨id, h.clock + 1⟩ := by
    refine denotes_iff.mpr ⟨present, by simpa using equal, ?_⟩
    exact (if_neg fresh).symm
  have there : entry ∈ (h.step rt (.influencer request)).entries := by
    rw [(@influencerCall_entries rt h consistent.beside request).2]
    exact member
  have noted := consistent.past entry member _ (keeps entry there counts _ denoted)
  exact absurd noted (by simp)

end History

open History in
/-- In a run from the initial lists every subscription that counts keeps its payee, in every
state, exactly when no call gives out an id that such a subscription holds. -/
theorem subscription_payees_kept_iff (rt : Runtime) (s : Server) (counted : Option Payee → Prop)
    (calls : List StoreCall) :
    Throughout (History.step rt) (History.KeepsPayees counted) (.initial s) calls ↔
      AllSteps (History.step rt) (History.NoHeldId counted) (.initial s) calls := by
  let invariant := fun h : History => h.Consistent ∧ h.KeepsPayees counted
  have start : invariant (.initial s) := by
    refine ⟨⟨rfl, fun _ member => ?_, fun _ _ => le_rfl⟩, fun _ member => ?_⟩ <;> cases member
  refine throughout_iff_allSteps (fun h holds => holds.2) ?_ ?_ start calls
  · intro h call holds free
    exact ⟨holds.1.step call, keepsPayees_step holds.1 holds.2 free⟩
  · intro h call holds held
    exact not_keepsPayees_step holds.1 held

/-- The console's request for a new influencer. -/
def influencerRequest (name phone : String) : Http :=
  .ofEntries none [("name", .str name), ("phone", .str phone)] rfl 0

/-- The subscription to an influencer who was deleted pays the next one who is created. -/
theorem subscription_payee_changes :
    let calls : List StoreCall := [
      .influencer (.create (influencerRequest "Sarah Kimani" "+254700000001")),
      .subscription (.create (subscriptionRequest 2 "+254700000201")),
      .influencer (.delete 2),
      .influencer (.create (influencerRequest "David Ochieng" "+254700000002"))]
    ¬Throughout (History.step plainRuntime) (History.KeepsPayees (·.isSome)) (.initial Server.initial)
      calls := by
  intro calls
  let reached := calls.foldl (History.step plainRuntime) (.initial Server.initial)
  have entries : reached.entries = [(.int 2, some ⟨2, 1⟩)] := by decide +kernel
  have denoted : reached.denotes (.int 2) = some ⟨2, 4⟩ := by decide +kernel
  have there : (Value.int 2, some ⟨2, 1⟩) ∈ reached.entries := entries ▸ List.mem_cons_self ..
  intro all
  have noted := all.last _ there rfl _ denoted
  simp at noted

end UssdCredit
