import UssdCredit.Library.Runs
import UssdCredit.InfluencerStore

/-! The influencers in memory over a run of the handler bodies: what one call does to the
list, and that ids and phones stay unique. -/

namespace UssdCredit

open Library Program

/-! The calls and their effects. -/

/-- A call of one of the handler bodies that write to the list. -/
inductive InfluencerCall where
  | create (req : Http)
  | update (req : Http) (influencerId : Nat)
  | delete (influencerId : Nat)
  | populate

namespace InfluencerCall

def body : InfluencerCall → Prog Response
  | .create req => AdminInfluencers.adminCreateInfluencer req
  | .update req influencerId => AdminInfluencers.adminUpdateInfluencer req influencerId
  | .delete influencerId => AdminInfluencers.adminDeleteInfluencer influencerId
  | .populate => InfluencersSimple.populateDemoInfluencers

/-- The state after a call, whether it succeeds or not. -/
def step (s : Server) (call : InfluencerCall) : Server := (call.body.serve s).2

end InfluencerCall

/-- The influencer a creation request describes, up to its id. -/
structure NewInfluencer (req : Http) where
  payload : Value
  phone : Value
  name : Value
  received : Value
  imageUrl : Value
  code : Value
  parsed : req.getJson = .ok payload
  complete : payload.missingField ["name", "phone"] = .ok none
  phone_given : payload.pyIndex "phone" = .ok phone
  name_given : payload.pyIndex "name" = .ok name
  received_given : payload.pyGet "received" (.int 0) = .ok received
  imageUrl_given : payload.pyGet "imageUrl" (.str "") = .ok imageUrl
  code_given : payload.pyGet "ussd_shortcode" (.str "") = .ok code

def NewInfluencer.record {req : Http} (new : NewInfluencer req) (db : List Influencer) :
    Influencer where
  id := nextInfluencerId db
  name := new.name
  phone := new.phone
  received := new.received
  imageUrl := new.imageUrl
  ussdShortcode := some new.code
  createdAt := some "2025-08-10T20:00:00Z"

/-- The id and the phone of a record, which the invariant is about. -/
def Influencer.keys (inf : Influencer) : Int × Value := (inf.id, inf.phone)

/-- A write that leaves id and phone alone. -/
def KeepsKeys (write : Value → Influencer → Influencer) : Prop :=
  ∀ value inf, (write value inf).keys = inf.keys

/-- What a call does to the list. -/
inductive InfluencerEffect (call : InfluencerCall) (db : List Influencer) :
    List Influencer → Prop where
  | kept {db' : List Influencer} (same : db'.map Influencer.keys = db.map Influencer.keys) :
      InfluencerEffect call db db'
  | created {req : Http} {new : Influencer} (create : call = .create req)
      (next : new.id = nextInfluencerId db) (free : phoneTaken new.phone db = false) :
      InfluencerEffect call db (db ++ [new])
  | rephoned {req : Http} {influencerId : Nat} {phone : Value} {db' : List Influencer}
      (update : call = .update req influencerId)
      (free : ∀ inf ∈ db, inf.id ≠ influencerId → inf.phone.pyEq phone = false)
      (written : db'.map Influencer.keys = (Records.modify Influencer.id influencerId
        (fun inf => { inf with phone }) db).map Influencer.keys) : InfluencerEffect call db db'
  | deleted {influencerId : Nat} (delete : call = .delete influencerId) :
      InfluencerEffect call db (Records.remove Influencer.id influencerId db)
  | populated (populate : call = .populate) :
      InfluencerEffect call db (InfluencersSimple.sampleInfluencers.foldl InfluencersSimple.addSample db)

/-- A state with another list of influencers. -/
def Server.setInfluencers (s : Server) (db : List Influencer) : Server := { s with influencersDb := db }

@[simp] theorem setInfluencers_influencersDb (s : Server) (db : List Influencer) :
    (s.setInfluencers db).influencersDb = db := rfl

/-! The calls, one by one. -/

section Calls

variable {req : Http} {s : Server} {α : Type}

/-- A creation appends one record, or it is refused and changes nothing. -/
theorem post_adminCreateInfluencer :
    Post exec (AdminInfluencers.adminCreateInfluencer req) s fun _ s' =>
      s' = s ∨ ∃ new : NewInfluencer req, phoneTaken new.phone s.influencersDb = false ∧
        s' = s.setInfluencers (s.influencersDb ++ [new.record s.influencersDb]) := by
  unfold AdminInfluencers.adminCreateInfluencer
  refine post_lift_bind (fun _ _ => .inl rfl) fun payload parsed => ?_
  refine post_lift_bind (fun _ _ => .inl rfl) fun missing complete => ?_
  cases missing with
  | some field => exact post_pure (.inl rfl)
  | none =>
    refine post_lift_bind (fun _ _ => .inl rfl) fun phone phone_given => post_readInfluencers ?_
    split_ifs with taken
    · exact post_pure (.inl rfl)
    · refine post_lift_bind (fun _ _ => .inl rfl) fun name name_given => ?_
      refine post_lift_bind (fun _ _ => .inl rfl) fun received received_given => ?_
      refine post_lift_bind (fun _ _ => .inl rfl) fun imageUrl imageUrl_given => ?_
      refine post_lift_bind (fun _ _ => .inl rfl) fun code code_given => ?_
      refine post_writeInfluencers (post_pure (.inr ⟨⟨payload, phone, name, received, imageUrl, code,
        parsed, complete, phone_given, name_given, received_given, imageUrl_given, code_given⟩,
        by simpa using taken, rfl⟩))

/-- A creation that describes an influencer under a new phone stores it. -/
theorem run_adminCreateInfluencer (new : NewInfluencer req)
    (free : phoneTaken new.phone s.influencersDb = false) :
    ((AdminInfluencers.adminCreateInfluencer req).serve s).2 =
      s.setInfluencers (s.influencersDb ++ [new.record s.influencersDb]) := by
  unfold Prog.serve AdminInfluencers.adminCreateInfluencer
  rw [run_lift_bind exec new.parsed, run_lift_bind exec new.complete]
  dsimp only
  rw [run_lift_bind exec new.phone_given, run_readInfluencers]
  rw [if_neg (by rw [free]; exact Bool.false_ne_true)]
  rw [run_lift_bind exec new.name_given, run_lift_bind exec new.received_given]
  rw [run_lift_bind exec new.imageUrl_given, run_lift_bind exec new.code_given]
  rfl

/-- An assignment writes to the record with the id, if the payload has the key. -/
theorem post_assign {payload : Value} {key : String} {influencerId : Int}
    {write : Value → Influencer → Influencer} {f : Unit → Prog α}
    {Q : Except PyExn α → Server → Prop} (failed : ∀ e, Q (.error e) s)
    (absent : Post exec (f ()) s Q)
    (written : ∀ value, Value.pyIn key payload = .ok true → payload.pyIndex key = .ok value →
      Post exec (f ()) (s.setInfluencers
        (Records.modify Influencer.id influencerId (write value) s.influencersDb)) Q) :
    Post exec (AdminInfluencers.assign payload key influencerId write >>= f) s Q := by
  unfold AdminInfluencers.assign
  apply post_bind
  refine post_lift_bind (fun e _ => failed e) fun present asked => ?_
  split_ifs with yes
  · refine post_lift_bind (fun e _ => failed e) fun value given => post_readInfluencers ?_
    exact post_writeInfluencers (written value (yes ▸ asked) given)
  · exact post_pure absent

/-- The conflict test is about the phone of the payload, if it has one. -/
theorem post_phoneConflict {payload : Value} {influencerId : Int} {f : Bool → Prog α}
    {Q : Except PyExn α → Server → Prop} (failed : ∀ e, Q (.error e) s)
    (absent : Value.pyIn "phone" payload = .ok false → Post exec (f false) s Q)
    (tested : ∀ phone, payload.pyIndex "phone" = .ok phone → Post exec (f (s.influencersDb.any
      fun inf => inf.phone.pyEq phone && inf.id ≠ influencerId)) s Q) :
    Post exec (AdminInfluencers.phoneConflict payload influencerId >>= f) s Q := by
  unfold AdminInfluencers.phoneConflict
  apply post_bind
  refine post_lift_bind (fun e _ => failed e) fun present asked => ?_
  cases present with
  | false => exact post_pure (absent asked)
  | true =>
    refine post_lift_bind (fun e _ => failed e) fun phone given => post_readInfluencers ?_
    exact post_pure (tested phone given)

/-- The list of the state has keys of a kind, and nothing else differs from `s`. -/
def HasKeys (s : Server) (K : List (Int × Value) → Prop) (s' : Server) : Prop :=
  ∃ db, K (db.map Influencer.keys) ∧ s' = s.setInfluencers db

theorem post_assign_keeps {s₀ : Server} {K : List (Int × Value) → Prop} {payload : Value}
    {key : String} {influencerId : Int} {write : Value → Influencer → Influencer}
    {f : Unit → Prog α} {Q : Except PyExn α → Server → Prop} (keeps : KeepsKeys write)
    (here : HasKeys s₀ K s) (failed : ∀ e, Q (.error e) s)
    (rest : ∀ s', HasKeys s₀ K s' → Post exec (f ()) s' Q) :
    Post exec (AdminInfluencers.assign payload key influencerId write >>= f) s Q := by
  refine post_assign failed (rest s here) fun value _ _ => rest _ ?_
  obtain ⟨db, keyed, rfl⟩ := here
  exact ⟨_, by rw [Records.map_modify (keeps value)]; exact keyed, rfl⟩

/-- The keys an update leaves: the old ones, or those with a phone that no other record has. -/
def UpdatedKeys (db : List Influencer) (influencerId : Nat) (keys : List (Int × Value)) : Prop :=
  keys = db.map Influencer.keys ∨
    ∃ phone, (∀ inf ∈ db, inf.id ≠ influencerId → inf.phone.pyEq phone = false) ∧
      keys = (Records.modify Influencer.id influencerId (fun inf => { inf with phone }) db).map
        Influencer.keys

/-- The conflict test looks at keys only. -/
theorem any_keys {db db' : List Influencer} (same : db'.map Influencer.keys = db.map Influencer.keys)
    (test : Int × Value → Bool) : db'.any (fun inf => test inf.keys) = db.any fun inf => test inf.keys := by
  have left : (db'.map Influencer.keys).any test = db'.any fun inf => test inf.keys := List.any_map
  have right : (db.map Influencer.keys).any test = db.any fun inf => test inf.keys := List.any_map
  rw [← left, same, right]

/-- What follows the assignment of the phone leaves the keys alone. -/
theorem post_updateRest {s₀ : Server} {K : List (Int × Value) → Prop} {payload : Value}
    {influencer : Influencer} (influencerId : Int) (here : HasKeys s₀ K s) :
    Post exec (do
      AdminInfluencers.assign payload "received" influencerId fun received inf => { inf with received }
      AdminInfluencers.assign payload "imageUrl" influencerId fun imageUrl inf => { inf with imageUrl }
      AdminInfluencers.assign payload "ussd_shortcode" influencerId fun code inf =>
        { inf with ussdShortcode := some code }
      let updated ← perform .readInfluencers
      return jsonify 200 (.dict [
        ("message", .str "Influencer updated successfully"),
        ("influencer",
          ((AdminInfluencers.findInfluencer influencerId updated).getD influencer).toJson)]))
      s fun _ s' => HasKeys s₀ K s' := by
  refine post_assign_keeps (fun _ _ => rfl) here (fun _ => here) fun s₁ here => ?_
  refine post_assign_keeps (fun _ _ => rfl) here (fun _ => here) fun s₂ here => ?_
  refine post_assign_keeps (fun _ _ => rfl) here (fun _ => here) fun s₃ here => ?_
  exact post_readInfluencers (post_pure here)

theorem post_adminUpdateInfluencer (influencerId : Nat) :
    Post exec (AdminInfluencers.adminUpdateInfluencer req influencerId) s fun _ s' =>
      HasKeys s (UpdatedKeys s.influencersDb influencerId) s' := by
  have start : HasKeys s (UpdatedKeys s.influencersDb influencerId) s := ⟨_, .inl rfl, rfl⟩
  unfold AdminInfluencers.adminUpdateInfluencer
  refine post_lift_bind (fun _ _ => start) fun payload _ => post_readInfluencers ?_
  split
  · exact post_pure start
  · next influencer found =>
    let K := fun keys => keys = s.influencersDb.map Influencer.keys
    have begun : HasKeys s K s := ⟨_, rfl, rfl⟩
    refine post_assign_keeps (fun _ _ => rfl) begun (fun _ => start) fun s₁ named => ?_
    obtain ⟨db, same, rfl⟩ := named
    have unchanged : HasKeys s (UpdatedKeys s.influencersDb influencerId) (s.setInfluencers db) :=
      ⟨db, .inl same, rfl⟩
    refine post_phoneConflict (fun _ => unchanged) (fun absent => ?_) fun phone given => ?_
    · rw [if_neg Bool.false_ne_true]
      refine post_assign (fun _ => unchanged) (post_updateRest influencerId unchanged)
        fun _ present _ => ?_
      cases present.symm.trans absent
    · split_ifs with conflict
      · exact post_pure unchanged
      · refine post_assign (fun _ => unchanged) (post_updateRest influencerId unchanged)
          fun phone' _ given' => post_updateRest influencerId ?_
        obtain rfl : phone = phone' := Except.ok.inj (given.symm.trans given')
        refine ⟨_, .inr ⟨phone, ?_, ?_⟩, rfl⟩
        · have tested := any_keys same fun keys => keys.2.pyEq phone && keys.1 ≠ influencerId
          have free := Bool.eq_false_iff.mpr conflict
          intro inf member other
          have miss := List.any_eq_false.mp (tested.symm.trans free) inf member
          simpa [Influencer.keys, other] using miss
        · refine Records.map_modify_congr (fun a b keys => ?_) influencerId same
          have ids : a.id = b.id := congrArg Prod.fst keys
          exact ⟨ids, Prod.ext ids rfl⟩

theorem post_adminDeleteInfluencer (influencerId : Nat) :
    Post exec (AdminInfluencers.adminDeleteInfluencer influencerId) s fun _ s' =>
      s' = s ∨ s' = s.setInfluencers (Records.remove Influencer.id influencerId s.influencersDb) := by
  unfold AdminInfluencers.adminDeleteInfluencer
  refine post_readInfluencers ?_
  split
  · exact post_pure (.inl rfl)
  · exact post_writeInfluencers (post_pure (.inr rfl))

/-- The loop counts what it appends. -/
theorem foldl_countSample (samples : List InfluencersSimple.Sample) (db : List Influencer) (count : Int) :
    samples.foldl InfluencersSimple.countSample (db, count) =
      (samples.foldl InfluencersSimple.addSample db,
        count + ((samples.foldl InfluencersSimple.addSample db).length - db.length)) := by
  induction samples generalizing db count with
  | nil => simp
  | cons sample rest ih =>
    rw [List.foldl_cons, List.foldl_cons, InfluencersSimple.countSample, InfluencersSimple.addSample]
    dsimp only
    split_ifs with taken
    · exact ih db count
    · rw [ih, List.length_append, List.length_singleton]
      congr 1
      omega

/-- How the endpoint answers when it takes the list from one to another. -/
def populatedAnswer (db populated : List Influencer) : Response :=
  let addedCount : Int := populated.length - db.length
  jsonify 200 (.dict [
    ("message", .str s!"Successfully added {addedCount} demo influencers"),
    ("total_influencers", .int populated.length),
    ("added_count", .int addedCount)])

theorem run_populateDemoInfluencers :
    InfluencersSimple.populateDemoInfluencers.serve s =
      let populated := InfluencersSimple.sampleInfluencers.foldl InfluencersSimple.addSample s.influencersDb
      (.ok (populatedAnswer s.influencersDb populated), s.setInfluencers populated) := by
  unfold Prog.serve InfluencersSimple.populateDemoInfluencers
  rw [run_readInfluencers, foldl_countSample, zero_add]
  rfl

theorem step_populate (s : Server) : InfluencerCall.step s .populate =
    s.setInfluencers (InfluencersSimple.sampleInfluencers.foldl InfluencersSimple.addSample s.influencersDb) :=
  congrArg Prod.snd run_populateDemoInfluencers

theorem step_delete (s : Server) (influencerId : Nat) :
    InfluencerCall.step s (.delete influencerId) = s ∨ InfluencerCall.step s (.delete influencerId) =
      s.setInfluencers (Records.remove Influencer.id influencerId s.influencersDb) :=
  post_adminDeleteInfluencer influencerId

theorem step_create (s : Server) (req : Http) :
    InfluencerCall.step s (.create req) = s ∨ ∃ new : NewInfluencer req,
      phoneTaken new.phone s.influencersDb = false ∧ InfluencerCall.step s (.create req) =
        s.setInfluencers (s.influencersDb ++ [new.record s.influencersDb]) :=
  post_adminCreateInfluencer

end Calls

/-- One call: its effect on the list, and nothing else. -/
theorem influencer_effect (s : Server) (call : InfluencerCall) :
    ∃ db, InfluencerEffect call s.influencersDb db ∧ call.step s = s.setInfluencers db := by
  cases call with
  | create req =>
    rcases step_create s req with same | ⟨new, free, moved⟩
    · exact ⟨_, .kept rfl, same⟩
    · exact ⟨_, .created rfl rfl free, moved⟩
  | update req influencerId =>
    obtain ⟨db, keys, moved⟩ := @post_adminUpdateInfluencer req s influencerId
    rcases keys with same | ⟨phone, free, written⟩
    · exact ⟨db, .kept same, moved⟩
    · exact ⟨db, .rephoned rfl free written, moved⟩
  | delete influencerId =>
    rcases step_delete s influencerId with same | moved
    · exact ⟨_, .kept rfl, same⟩
    · exact ⟨_, .deleted rfl, moved⟩
  | populate => exact ⟨_, .populated rfl, step_populate s⟩

/-! The invariant. -/

/-- The ids are distinct, and no two phones are equal in Python. -/
structure UniqueInfluencers (db : List Influencer) : Prop where
  ids : (db.map Influencer.id).Nodup
  phones : db.Pairwise fun a b => a.phone.pyEq b.phone = false

theorem influencerIds_eq (db : List Influencer) :
    db.map Influencer.id = (db.map Influencer.keys).map Prod.fst := by
  rw [List.map_map]
  rfl

theorem influencerIds_rephone (influencerId : Int) (phone : Value) (db : List Influencer) :
    (Records.modify Influencer.id influencerId (fun inf => { inf with phone }) db).map Influencer.id =
      db.map Influencer.id := by
  refine Records.map_modify ?_ influencerId db
  exact fun _ => rfl

/-- The invariant is about ids and phones. -/
theorem UniqueInfluencers.of_keys {db db' : List Influencer} (unique : UniqueInfluencers db)
    (same : db'.map Influencer.keys = db.map Influencer.keys) : UniqueInfluencers db' where
  ids := by
    rw [influencerIds_eq, same, ← influencerIds_eq]
    exact unique.ids
  phones := by
    have phones : ∀ l : List Influencer, l.Pairwise (fun a b => a.phone.pyEq b.phone = false) ↔
        (l.map Influencer.keys).Pairwise fun a b => a.2.pyEq b.2 = false :=
      fun l => by rw [List.pairwise_map]; rfl
    rw [phones, same, ← phones]
    exact unique.phones

/-- A record whose phone is not taken keeps the phones apart. -/
theorem phones_append {db : List Influencer}
    (phones : db.Pairwise fun a b => a.phone.pyEq b.phone = false) {new : Influencer}
    (free : phoneTaken new.phone db = false) :
    (db ++ [new]).Pairwise fun a b => a.phone.pyEq b.phone = false := by
  rw [List.pairwise_append]
  refine ⟨phones, List.pairwise_singleton .., ?_⟩
  intro inf member other last
  rw [List.mem_singleton.mp last]
  simpa using List.any_eq_false.mp free inf member

/-- A new record under the next id, with a phone that is not taken. -/
theorem UniqueInfluencers.append {db : List Influencer} (unique : UniqueInfluencers db)
    {new : Influencer} (next : new.id = nextInfluencerId db)
    (free : phoneTaken new.phone db = false) : UniqueInfluencers (db ++ [new]) where
  ids := by
    rw [List.map_append, List.map_singleton, next]
    exact Records.nodup_append_nextId unique.ids
  phones := phones_append unique.phones free

/-! The demo records go through the same checks one by one. -/

theorem nodup_addDemo {db : List Influencer} (distinct : (db.map Influencer.id).Nodup)
    (samples : List InfluencersSimple.Sample) :
    ((samples.foldl InfluencersSimple.addSample db).map Influencer.id).Nodup := by
  refine run_invariant (fun db : List Influencer => (db.map Influencer.id).Nodup)
    (fun db sample distinct => ?_) distinct samples
  unfold InfluencersSimple.addSample
  split_ifs with taken
  · exact distinct
  · rw [List.map_append, List.map_singleton]
    exact Records.nodup_append_nextId distinct

theorem phones_addDemo {db : List Influencer}
    (phones : db.Pairwise fun a b => a.phone.pyEq b.phone = false)
    (samples : List InfluencersSimple.Sample) :
    (samples.foldl InfluencersSimple.addSample db).Pairwise
      fun a b => a.phone.pyEq b.phone = false := by
  refine run_invariant (fun db : List Influencer => db.Pairwise fun a b => a.phone.pyEq b.phone = false)
    (fun db sample phones => ?_) phones samples
  unfold InfluencersSimple.addSample
  split_ifs with taken
  · exact phones
  · exact phones_append phones (Bool.eq_false_iff.mpr taken)

theorem UniqueInfluencers.populate {db : List Influencer} (unique : UniqueInfluencers db)
    (samples : List InfluencersSimple.Sample) :
    UniqueInfluencers (samples.foldl InfluencersSimple.addSample db) :=
  ⟨nodup_addDemo unique.ids samples, phones_addDemo unique.phones samples⟩

theorem UniqueInfluencers.effect {call : InfluencerCall} {db db' : List Influencer}
    (unique : UniqueInfluencers db) (effect : InfluencerEffect call db db') :
    UniqueInfluencers db' := by
  cases effect with
  | kept same => exact unique.of_keys same
  | created create next free => exact unique.append next free
  | @rephoned req influencerId phone db' update free written =>
    -- Only the record with this id gets the phone, because no other record has the id.
    refine UniqueInfluencers.of_keys ⟨?_, ?_⟩ written
    · rw [influencerIds_rephone]
      exact unique.ids
    · refine Records.pairwise_modify (fun a b apart => ?_) unique.ids unique.phones ?_
      · rw [Value.pyEq_symm, apart]
      · intro a member b other _
        rw [Value.pyEq_symm]
        exact free a member other
  | deleted delete =>
    have part := @Records.remove_sublist Influencer Influencer.id
    exact ⟨unique.ids.sublist ((part _ _).map _), unique.phones.sublist (part _ _)⟩
  | populated populate => exact unique.populate _

/-- In every run of the handler bodies, from the list the module starts with: the ids of the
influencers are distinct and their phones pairwise unequal, in every state. -/
theorem influencer_ids_and_phones_unique (s : Server) (calls : List InfluencerCall) :
    let reached := calls.foldl InfluencerCall.step (s.setInfluencers initialInfluencers)
    (reached.influencersDb.map Influencer.id).Nodup ∧
      reached.influencersDb.Pairwise fun a b => a.phone.pyEq b.phone = false := by
  have start : UniqueInfluencers initialInfluencers :=
    ⟨List.nodup_singleton _, List.pairwise_singleton ..⟩
  have kept : UniqueInfluencers
      (calls.foldl InfluencerCall.step (s.setInfluencers initialInfluencers)).influencersDb := by
    refine run_invariant (fun s : Server => UniqueInfluencers s.influencersDb)
      (fun s call unique => ?_) start calls
    obtain ⟨db, effect, moved⟩ := influencer_effect s call
    rw [moved]
    exact unique.effect effect
  exact ⟨kept.ids, kept.phones⟩

end UssdCredit
