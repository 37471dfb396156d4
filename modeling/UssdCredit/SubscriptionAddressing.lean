import UssdCredit.SubscriptionWrites

/-! The operations on the subscription with an id: they all reach the first record that has it,
and those under different ids commute. -/

namespace UssdCredit

open Library Program

/-! What an update does, whatever is stored. -/

/-- One field of a payload: the write it asks for, which is none where the key is absent. -/
def revise (payload : Value) (key : String)
    (convert : Value → Except PyExn (Subscription → Subscription)) :
    Except PyExn (Subscription → Subscription) := do
  if ← Value.pyIn key payload then convert (← payload.pyIndex key)
  else return fun s => s

/-- The fields of a payload one after another. -/
def revision (rt : Runtime) (payload : Value) : Except PyExn (Subscription → Subscription) := do
  let amount ← revise payload "amount" (SubscribersSimple.writeAmount rt)
  let frequency ← revise payload "frequency" fun frequency => return fun s => { s with frequency }
  let isActive ← revise payload "is_active" fun isActive =>
    return fun s => { s with isActive := isActive.truthy }
  return fun s => isActive (frequency (amount s))

/-- A payload that is no object has nothing to write. -/
theorem revise_of_not_dict {payload : Value} {key : String}
    {convert : Value → Except PyExn (Subscription → Subscription)} {write : Subscription → Subscription}
    (other : ∀ entries, payload ≠ .dict entries) (revised : revise payload key convert = .ok write) :
    write = fun s => s := by
  unfold revise at revised
  obtain ⟨present, -, later⟩ := bind_eq_ok.mp revised
  split_ifs at later
  · obtain ⟨value, indexed, -⟩ := bind_eq_ok.mp later
    obtain ⟨entries, same, -⟩ := Value.pyIndex_ok indexed
    exact absurd same (other entries)
  · exact (Except.ok.inj later).symm

/-- What holds of the identity and of every converted write holds of the write. -/
theorem revise_holds {payload : Value} {key : String} {holds : (Subscription → Subscription) → Prop}
    {convert : Value → Except PyExn (Subscription → Subscription)} {write : Subscription → Subscription}
    (same : holds fun s => s) (converts : ∀ value write, convert value = .ok write → holds write)
    (revised : revise payload key convert = .ok write) : holds write := by
  unfold revise at revised
  obtain ⟨present, -, later⟩ := bind_eq_ok.mp revised
  split_ifs at later
  · obtain ⟨value, -, converted⟩ := bind_eq_ok.mp later
    exact converts value write converted
  · rw [← Except.ok.inj later]
    exact same

theorem editsOnly_id : EditsOnly fun record => record := fun _ => ⟨rfl, rfl, rfl, rfl⟩

theorem writeAmount_holds {rt : Runtime} {holds : (Subscription → Subscription) → Prop}
    (each : ∀ amount, holds fun s => { s with amount }) (value : Value) (write : Subscription → Subscription)
    (converted : SubscribersSimple.writeAmount rt value = .ok write) : holds write := by
  obtain ⟨amount, -, written⟩ := bind_eq_ok.mp converted
  rw [← Except.ok.inj written]
  exact each amount

theorem return_holds {holds : (Subscription → Subscription) → Prop}
    {convert : Value → Subscription → Subscription} (each : ∀ value, holds (convert value)) (value : Value)
    (write : Subscription → Subscription)
    (converted : (return convert value : Except PyExn (Subscription → Subscription)) = .ok write) :
    holds write := by
  rw [← Except.ok.inj converted]
  exact each value

/-- What holds of the identity and of a write to each of the three fields, and is kept by the
composition, holds of the whole write. -/
theorem revision_holds {rt : Runtime} {payload : Value} {holds : (Subscription → Subscription) → Prop}
    {write : Subscription → Subscription} (same : holds fun s => s)
    (comp : ∀ first second, holds first → holds second → holds fun s => second (first s))
    (amount : ∀ amount, holds fun s => { s with amount })
    (frequency : ∀ frequency, holds fun s => { s with frequency })
    (isActive : ∀ isActive, holds fun s => { s with isActive })
    (revised : revision rt payload = .ok write) : holds write := by
  unfold revision at revised
  obtain ⟨first, amounts, later⟩ := bind_eq_ok.mp revised
  obtain ⟨second, frequencies, later⟩ := bind_eq_ok.mp later
  obtain ⟨third, activities, later⟩ := bind_eq_ok.mp later
  rw [← Except.ok.inj later]
  exact comp _ _ (comp _ _ (revise_holds same (writeAmount_holds amount) amounts)
    (revise_holds same (return_holds frequency) frequencies))
    (revise_holds same (return_holds fun value => isActive value.truthy) activities)

theorem revision_edits {rt : Runtime} {payload : Value} {write : Subscription → Subscription}
    (revised : revision rt payload = .ok write) : EditsOnly write :=
  revision_holds editsOnly_id (fun _ _ first second => second.comp first)
    (fun _ _ => ⟨rfl, rfl, rfl, rfl⟩) (fun _ _ => ⟨rfl, rfl, rfl, rfl⟩) (fun _ _ => ⟨rfl, rfl, rfl, rfl⟩)
    revised

/-- The record without the time of its last update. -/
def Subscription.timeless (s : Subscription) : Subscription := { s with updatedAt := "" }

/-- The fields of a payload are written alike whenever it is. -/
theorem revision_timeless {rt : Runtime} {payload : Value} {write : Subscription → Subscription}
    (revised : revision rt payload = .ok write) (record : Subscription) :
    (write record).timeless = write record.timeless := by
  refine @revision_holds rt payload (fun write => ∀ record, (write record).timeless = write record.timeless)
    write (fun _ => rfl) ?_ (fun _ _ => rfl) (fun _ _ => rfl) (fun _ _ => rfl) revised record
  intro first second before after record
  rw [after, before]

/-- On an object only the conversion can raise. -/
theorem revise_dict (entries : Fields) (key : String)
    (convert : Value → Except PyExn (Subscription → Subscription)) :
    revise (.dict entries) key convert =
      match entries.lookup key with
      | none => .ok fun s => s
      | some value => convert value := by
  unfold revise
  cases present : entries.lookup key with
  | none =>
    have asked : Value.pyIn key (.dict entries) = .ok false := by simp only [Value.pyIn, present]; rfl
    rw [asked]
    rfl
  | some value =>
    have asked : Value.pyIn key (.dict entries) = .ok true := by simp only [Value.pyIn, present]; rfl
    have indexed : (Value.dict entries).pyIndex key = .ok value := Value.pyIndex_held present
    rw [asked, indexed]
    rfl

theorem revise_dict_total (entries : Fields) (key : String) (convert : Value → Subscription → Subscription) :
    ∃ write, revise (.dict entries) key (fun value => return convert value) = .ok write := by
  rw [revise_dict]
  cases entries.lookup key with
  | none => exact ⟨_, rfl⟩
  | some value => exact ⟨_, rfl⟩

section Runs

variable {rt : Runtime} {req : Http} {s : Server} {subscriptionId : Nat} {payload : Value}

theorem run_assignSubscription (key : String)
    (convert : Value → Except PyExn (Subscription → Subscription)) :
    (SubscribersSimple.assign payload key subscriptionId convert).run exec s =
      match revise payload key convert with
      | .error e => (.error e, s)
      | .ok write => (.ok (), s.setSubscribers
          (Records.modify Subscription.id subscriptionId write s.subscribersDb)) := by
  unfold SubscribersSimple.assign revise
  cases asked : Value.pyIn key payload with
  | error e => rfl
  | ok present =>
    cases present with
    | false =>
      have kept : Records.modify Subscription.id subscriptionId (fun s => s) s.subscribersDb =
          s.subscribersDb := Records.modify_id (subscriptionId : Int) s.subscribersDb
      change (Except.ok (), s) = (Except.ok (), s.setSubscribers _)
      rw [kept]
      rfl
    | true =>
      change ((payload.pyIndex key : Prog Value) >>= fun value => do
        let write ← convert value
        SubscribersSimple.setSubscription subscriptionId write).run exec s =
          match payload.pyIndex key >>= convert with
          | .error e => (.error e, s)
          | .ok write => (.ok (), s.setSubscribers
              (Records.modify Subscription.id subscriptionId write s.subscribersDb))
      cases indexed : payload.pyIndex key with
      | error e => rfl
      | ok value =>
        change ((convert value : Prog _) >>= fun write =>
          SubscribersSimple.setSubscription subscriptionId write).run exec s =
            match convert value with
            | .error e => (.error e, s)
            | .ok write => (.ok (), s.setSubscribers
                (Records.modify Subscription.id subscriptionId write s.subscribersDb))
        cases convert value <;> rfl

theorem setSubscribers_modify_id (subscriptionId : Int) (s : Server) : s.setSubscribers
    (Records.modify Subscription.id subscriptionId (fun s => s) s.subscribersDb) = s := by
  rw [Records.modify_id]
  rfl

/-- A second write reaches the record the first one has edited. -/
theorem setSubscribers_modify {first : Subscription → Subscription} (edits : EditsOnly first)
    (subscriptionId : Int) (second : Subscription → Subscription) (s : Server) :
    let s' := s.setSubscribers (Records.modify Subscription.id subscriptionId first s.subscribersDb)
    s'.setSubscribers (Records.modify Subscription.id subscriptionId second s'.subscribersDb) =
      s.setSubscribers (Records.modify Subscription.id subscriptionId
        (fun record => second (first record)) s.subscribersDb) :=
  congrArg s.setSubscribers
    (Records.modify_modify (fun record => (edits record).id) subscriptionId second s.subscribersDb)

/-- The three assignments one after another. Only the first can raise once something is written,
and then nothing was. -/
theorem run_fields {α : Type} (rest : Prog α) :
    (do
      SubscribersSimple.assign payload "amount" subscriptionId (SubscribersSimple.writeAmount rt)
      SubscribersSimple.assign payload "frequency" subscriptionId fun frequency =>
        return fun s => { s with frequency }
      SubscribersSimple.assign payload "is_active" subscriptionId fun isActive =>
        return fun s => { s with isActive := isActive.truthy }
      rest : Prog α).run exec s =
      match revision rt payload with
      | .error e => (.error e, s)
      | .ok write => rest.run exec (s.setSubscribers
          (Records.modify Subscription.id subscriptionId write s.subscribersDb)) := by
  by_cases object : ∃ entries, payload = .dict entries
  · obtain ⟨entries, rfl⟩ := object
    obtain ⟨frequency, second⟩ := revise_dict_total entries "frequency" fun frequency s => { s with frequency }
    obtain ⟨isActive, third⟩ := revise_dict_total entries "is_active" fun isActive s =>
      { s with isActive := isActive.truthy }
    rw [run_bind, run_assignSubscription]
    cases first : revise (.dict entries) "amount" (SubscribersSimple.writeAmount rt) with
    | error e => simp only [revision, first]; rfl
    | ok amount =>
      have revised : revision rt (.dict entries) =
          .ok fun s => isActive (frequency (amount s)) := by
        simp only [revision, first, second, third]
        rfl
      have edits : EditsOnly amount :=
        revise_holds editsOnly_id (writeAmount_holds fun _ _ => ⟨rfl, rfl, rfl, rfl⟩) first
      have edits' : EditsOnly frequency := by
        refine revise_holds editsOnly_id (return_holds fun value => ?_) second
        exact fun _ => ⟨rfl, rfl, rfl, rfl⟩
      rw [revised]
      dsimp only
      rw [run_bind, run_assignSubscription, second]
      dsimp only
      rw [run_bind, run_assignSubscription, third]
      dsimp only
      rw [setSubscribers_modify edits, setSubscribers_modify (edits'.comp edits)]
  · have other : ∀ entries, payload ≠ .dict entries := fun entries same => object ⟨entries, same⟩
    rw [run_bind, run_assignSubscription]
    cases first : revise payload "amount" (SubscribersSimple.writeAmount rt) with
    | error e => simp only [revision, first]; rfl
    | ok amount =>
      obtain rfl := revise_of_not_dict other first
      dsimp only
      rw [setSubscribers_modify_id, run_bind, run_assignSubscription]
      cases second : revise payload "frequency" fun frequency => return fun s => { s with frequency } with
      | error e => simp only [revision, first, second]; rfl
      | ok frequency =>
        obtain rfl := revise_of_not_dict other second
        dsimp only
        rw [setSubscribers_modify_id, run_bind, run_assignSubscription]
        cases third : revise payload "is_active" fun isActive =>
            return fun s => { s with isActive := isActive.truthy } with
        | error e => simp only [revision, first, second, third]; rfl
        | ok isActive =>
          simp only [revision, first, second, third]
          rfl

/-- The fields an update writes, or the exception that keeps it from writing. -/
def requested (rt : Runtime) (req : Http) : Except PyExn (Subscription → Subscription) :=
  req.getJson >>= revision rt

/-- The write of an update, which is none where it raises. -/
def edition (rt : Runtime) (req : Http) : Subscription → Subscription :=
  match requested rt req with
  | .ok write => fun s => { write s with updatedAt := isoformat req.now }
  | .error _ => fun s => s

/-- How an update is answered for the record it finds. -/
def updateAnswer (rt : Runtime) (req : Http) (found : Option Subscription) : Response :=
  let failed (e : PyExn) := message 500 s!"Error updating subscription: {e.text}"
  match req.getJson with
  | .error e => failed e
  | .ok _ =>
      match found with
      | none => message 404 "Subscription not found"
      | some record =>
          match requested rt req with
          | .error e => failed e
          | .ok _ => jsonify 200 (.dict [
              ("message", .str "Subscription updated successfully"),
              ("subscription", (edition rt req record).toJson)])

theorem requested_of_parsed (parsed : req.getJson = .ok payload) : requested rt req = revision rt payload := by
  rw [requested, parsed]
  rfl

theorem edition_ok {write : Subscription → Subscription} (writes : requested rt req = .ok write) :
    edition rt req = fun s => { write s with updatedAt := isoformat req.now } := by
  rw [edition, writes]

theorem edition_error {e : PyExn} (raised : requested rt req = .error e) : edition rt req = fun s => s := by
  rw [edition, raised]

theorem requested_edits {write : Subscription → Subscription} (writes : requested rt req = .ok write) :
    EditsOnly write := by
  obtain ⟨payload, -, revised⟩ := bind_eq_ok.mp writes
  exact revision_edits revised

theorem edition_edits : EditsOnly (edition rt req) := by
  cases writes : requested rt req with
  | error e =>
    rw [edition_error writes]
    exact editsOnly_id
  | ok write =>
    rw [edition_ok writes]
    exact fun s =>
      have kept := requested_edits writes s
      ⟨kept.id, kept.influencerId, kept.fanPhone, kept.createdAt⟩

/-- The end of an update that goes through. -/
theorem run_stamp (stamp : Subscription → Subscription) (record : Subscription) :
    (do
      SubscribersSimple.setSubscription subscriptionId stamp
      let updated ← perform .readSubscribers
      return jsonify 200 (.dict [
        ("message", .str "Subscription updated successfully"),
        ("subscription", ((SubscribersSimple.findSubscription subscriptionId updated).getD record).toJson)])
      : Prog Response).run exec s =
      let db := Records.modify Subscription.id subscriptionId stamp s.subscribersDb
      (.ok (jsonify 200 (.dict [
        ("message", .str "Subscription updated successfully"),
        ("subscription", ((SubscribersSimple.findSubscription subscriptionId db).getD record).toJson)])),
        s.setSubscribers db) := rfl

/-- An update answers for the first record with the id, and writes to it. -/
theorem run_updateSimpleSubscription :
    (SubscribersSimple.updateSimpleSubscription rt req subscriptionId).serve s =
      (.ok (updateAnswer rt req (SubscribersSimple.findSubscription subscriptionId s.subscribersDb)),
        s.setSubscribers (Records.modify Subscription.id subscriptionId (edition rt req)
          s.subscribersDb)) := by
  unfold Prog.serve SubscribersSimple.updateSimpleSubscription SubscribersSimple.attempt updateAnswer
  rw [run_handle]
  cases parsed : req.getJson with
  | error e =>
    have raised : requested rt req = .error e := by rw [requested, parsed]; rfl
    rw [edition_error raised, setSubscribers_modify_id]
    rfl
  | ok payload =>
    have same : requested rt req = revision rt payload := requested_of_parsed parsed
    rw [run_lift_bind exec rfl, run_readSubscribers]
    cases found : SubscribersSimple.findSubscription subscriptionId s.subscribersDb with
    | none =>
      rw [Records.modify_of_find_none found]
      rfl
    | some record =>
      dsimp only
      rw [run_fields]
      cases revised : revision rt payload with
      | error e =>
        rw [edition_error (same.trans revised), setSubscribers_modify_id, same, revised]
        rfl
      | ok write =>
        have stamped := setSubscribers_modify (revision_edits revised) subscriptionId
          (fun s => { s with updatedAt := isoformat req.now }) s
        have again := Records.find_modify_self (fun s => (@edition_edits rt req s).id) found
        rw [edition_ok (same.trans revised)] at again ⊢
        rw [same, revised]
        dsimp only
        rw [run_stamp]
        dsimp only
        rw [stamped]
        have written := congrArg Server.subscribersDb stamped
        have there := (congrArg (SubscribersSimple.findSubscription subscriptionId) written).trans again
        exact congrArg (fun found : Option Subscription => ((Except.ok (jsonify 200 (.dict [
          ("message", .str "Subscription updated successfully"),
          ("subscription", (found.getD record).toJson)])) : Outcome), _)) there

theorem run_getSimpleSubscription :
    (SubscribersSimple.getSimpleSubscription subscriptionId).serve s =
      (.ok (match SubscribersSimple.findSubscription subscriptionId s.subscribersDb with
        | none => message 404 "Subscription not found"
        | some record => jsonify 200 record.toJson), s) := by
  unfold Prog.serve SubscribersSimple.getSimpleSubscription SubscribersSimple.attempt
  rw [run_handle, run_readSubscribers]
  cases SubscribersSimple.findSubscription subscriptionId s.subscribersDb <;> rfl

theorem run_deleteSimpleSubscription :
    (SubscribersSimple.deleteSimpleSubscription subscriptionId).serve s =
      (.ok (if (SubscribersSimple.findSubscription subscriptionId s.subscribersDb).isSome then
          message 200 "Subscription deleted successfully"
        else message 404 "Subscription not found"),
        s.setSubscribers (Records.remove Subscription.id subscriptionId s.subscribersDb)) := by
  unfold Prog.serve SubscribersSimple.deleteSimpleSubscription SubscribersSimple.attempt
  rw [run_handle, run_readSubscribers]
  cases found : SubscribersSimple.findSubscription subscriptionId s.subscribersDb with
  | none =>
    rw [Records.remove_of_find_none found]
    rfl
  | some record =>
    dsimp only
    rw [removeSubscription_eq found]
    rfl

end Runs

/-! Operations under different ids. -/

/-- An operation on a subscription. An update takes its body from a request. -/
inductive SubscriptionOp where
  | update (req : Http)
  | delete

namespace SubscriptionOp

variable (rt : Runtime)

/-- The operation on the subscription with an id, when the clock shows `now`. -/
def call (op : SubscriptionOp) (subscriptionId : Nat) (now : Int) : SubscriptionCall :=
  match op with
  | .update req => .update { req with now } subscriptionId
  | .delete => .delete subscriptionId

def status (op : SubscriptionOp) (subscriptionId : Nat) (now : Int) (s : Server) : Nat :=
  (Outcome.answer (((op.call subscriptionId now).body rt).serve s).1).status

/-- The operation on a list without times. -/
def effect (op : SubscriptionOp) (subscriptionId : Int) (db : List Subscription) : List Subscription :=
  match op with
  | .update req =>
      match requested rt req with
      | .ok write => Records.modify Subscription.id subscriptionId write db
      | .error _ => db
  | .delete => Records.remove Subscription.id subscriptionId db

/-- The status depends on the body and on whether there is a record with the id. -/
def statusFor (op : SubscriptionOp) (present : Bool) : Nat :=
  match op with
  | .update req =>
      match req.getJson with
      | .error _ => 500
      | .ok payload =>
          if present then
            match revision rt payload with
            | .error _ => 500
            | .ok _ => 200
          else 404
  | .delete => if present then 200 else 404

end SubscriptionOp

section Operations

variable {rt : Runtime} {req : Http}

theorem timeless_id (record : Subscription) : record.timeless.id = record.id := rfl

theorem timeless_stamped (record : Subscription) (updatedAt : String) :
    Subscription.timeless { record with updatedAt } = record.timeless := rfl

theorem requested_timeless {write : Subscription → Subscription} (writes : requested rt req = .ok write)
    (record : Subscription) : (write record).timeless = write record.timeless := by
  obtain ⟨payload, -, revised⟩ := bind_eq_ok.mp writes
  exact revision_timeless revised record

theorem effect_update {write : Subscription → Subscription} (writes : requested rt req = .ok write)
    (subscriptionId : Int) (db : List Subscription) :
    SubscriptionOp.effect rt (.update req) subscriptionId db =
      Records.modify Subscription.id subscriptionId write db := by
  simp only [SubscriptionOp.effect, writes]

theorem effect_update_error {e : PyExn} (raised : requested rt req = .error e) (subscriptionId : Int)
    (db : List Subscription) : SubscriptionOp.effect rt (.update req) subscriptionId db = db := by
  simp only [SubscriptionOp.effect, raised]

/-- But for the times, an operation does to the list what its effect is. -/
theorem timeless_step (op : SubscriptionOp) (subscriptionId : Nat) (now : Int) (s : Server) :
    (SubscriptionCall.step rt s (op.call subscriptionId now)).subscribersDb.map Subscription.timeless =
      op.effect rt subscriptionId (s.subscribersDb.map Subscription.timeless) := by
  cases op with
  | update req =>
    have moved : SubscriptionCall.step rt s (SubscriptionOp.call (.update req) subscriptionId now) =
        s.setSubscribers (Records.modify Subscription.id subscriptionId (edition rt { req with now })
          s.subscribersDb) := congrArg Prod.snd run_updateSimpleSubscription
    rw [moved]
    change (Records.modify _ _ _ _).map _ = _
    cases writes : requested rt req with
    | error e =>
      have raised : requested rt { req with now } = .error e := writes
      rw [edition_error raised, Records.modify_id, effect_update_error writes]
    | ok write =>
      have writes' : requested rt { req with now } = .ok write := writes
      rw [edition_ok writes', effect_update writes]
      refine Records.map_modify_hom timeless_id ?_ _ _
      intro record
      rw [timeless_stamped, requested_timeless writes]
  | delete =>
    have moved : SubscriptionCall.step rt s (SubscriptionOp.call .delete subscriptionId now) =
        s.setSubscribers (Records.remove Subscription.id subscriptionId s.subscribersDb) :=
      congrArg Prod.snd run_deleteSimpleSubscription
    rw [moved]
    exact Records.map_remove timeless_id _ _

theorem status_eq (op : SubscriptionOp) (subscriptionId : Nat) (now : Int) (s : Server) :
    op.status rt subscriptionId now s =
      op.statusFor rt (SubscribersSimple.findSubscription subscriptionId s.subscribersDb).isSome := by
  cases op with
  | update req =>
    have answered : SubscriptionOp.status rt (.update req) subscriptionId now s =
        (updateAnswer rt { req with now }
          (SubscribersSimple.findSubscription subscriptionId s.subscribersDb)).status :=
      congrArg (fun ended : Outcome × Server => ended.1.answer.status) run_updateSimpleSubscription
    rw [answered]
    have parsed : Http.getJson { req with now } = req.getJson := rfl
    have same : requested rt { req with now } = requested rt req := rfl
    simp only [updateAnswer, SubscriptionOp.statusFor, parsed, same]
    cases read : req.getJson with
    | error e => rfl
    | ok payload =>
      rw [requested_of_parsed read]
      cases SubscribersSimple.findSubscription subscriptionId s.subscribersDb with
      | none => rfl
      | some record =>
        cases revised : revision rt payload with
        | error e => simp only [Option.isSome_some, revised]; rfl
        | ok write => simp only [Option.isSome_some, revised]; rfl
  | delete =>
    have answered : SubscriptionOp.status rt .delete subscriptionId now s = _ :=
      congrArg (fun ended : Outcome × Server => ended.1.answer.status) run_deleteSimpleSubscription
    rw [answered]
    simp only [SubscriptionOp.statusFor]
    split_ifs <;> rfl

/-- An operation leaves the records with other ids in their places. -/
theorem isSome_find_effect (op : SubscriptionOp) {i j : Int} (different : i ≠ j) (db : List Subscription) :
    (Records.find Subscription.id i (op.effect rt j db)).isSome =
      (Records.find Subscription.id i db).isSome := by
  cases op with
  | update req =>
    cases writes : requested rt req with
    | error e => rw [effect_update_error writes]
    | ok write =>
      rw [effect_update writes]
      exact Records.isSome_find_modify (fun record => (requested_edits writes record).id) db
  | delete => exact congrArg Option.isSome (Records.find_remove different db)

theorem effect_comm (a b : SubscriptionOp) {i j : Int} (different : i ≠ j) (db : List Subscription) :
    a.effect rt i (b.effect rt j db) = b.effect rt j (a.effect rt i db) := by
  cases a with
  | update req =>
    cases writes : requested rt req with
    | error e => rw [effect_update_error writes, effect_update_error writes]
    | ok write =>
      rw [effect_update writes, effect_update writes]
      have keeps := fun record => (requested_edits writes record).id
      cases b with
      | update req' =>
        cases writes' : requested rt req' with
        | error e => rw [effect_update_error writes', effect_update_error writes']
        | ok write' =>
          rw [effect_update writes', effect_update writes']
          exact Records.modify_comm different keeps (fun record => (requested_edits writes' record).id) db
      | delete => exact (Records.remove_modify different keeps db).symm
  | delete =>
    cases b with
    | update req' =>
      cases writes' : requested rt req' with
      | error e => rw [effect_update_error writes', effect_update_error writes']
      | ok write' =>
        rw [effect_update writes', effect_update writes']
        exact Records.remove_modify different.symm (fun record => (requested_edits writes' record).id) db
    | delete => exact Records.remove_comm different db

/-- The status of an operation does not show whether one under another id came first. -/
theorem status_after (a b : SubscriptionOp) {i j : Nat} (different : i ≠ j) (t t' t'' : Int) (s : Server) :
    a.status rt i t (SubscriptionCall.step rt s (b.call j t')) = a.status rt i t'' s := by
  have apart : (i : Int) ≠ j := fun same => different (Int.ofNat.inj same)
  rw [status_eq, status_eq]
  congr 1
  calc (SubscribersSimple.findSubscription i
        (SubscriptionCall.step rt s (b.call j t')).subscribersDb).isSome
      = (Records.find Subscription.id i
          ((SubscriptionCall.step rt s (b.call j t')).subscribersDb.map Subscription.timeless)).isSome :=
        (Records.isSome_find_map timeless_id _ _).symm
    _ = (Records.find Subscription.id i
          (b.effect rt j (s.subscribersDb.map Subscription.timeless))).isSome := by rw [timeless_step]
    _ = (Records.find Subscription.id i (s.subscribersDb.map Subscription.timeless)).isSome :=
        isSome_find_effect b apart _
    _ = (SubscribersSimple.findSubscription i s.subscribersDb).isSome :=
        Records.isSome_find_map timeless_id _ _

end Operations

/-- The three operations with an id all reach this record, and leave the others in their order. -/
structure Addresses (rt : Runtime) (s : Server) (subscriptionId : Nat) (before : List Subscription)
    (record : Subscription) (after : List Subscription) : Prop where
  stored : s.subscribersDb = before ++ record :: after
  here : record.id = subscriptionId
  first : ∀ other ∈ before, other.id ≠ subscriptionId
  get : (SubscribersSimple.getSimpleSubscription subscriptionId).serve s =
    (.ok (jsonify 200 record.toJson), s)
  delete : (SubscribersSimple.deleteSimpleSubscription subscriptionId).serve s =
    (.ok (message 200 "Subscription deleted successfully"), s.setSubscribers (before ++ after))
  update : ∀ req, ∃ edited, record.Edited edited ∧
    ((SubscribersSimple.updateSimpleSubscription rt req subscriptionId).serve s).2 =
      s.setSubscribers (before ++ edited :: after)

/-- There is no record with the id: the operations are refused and change nothing. -/
structure AddressesNone (rt : Runtime) (s : Server) (subscriptionId : Nat) : Prop where
  absent : ∀ record ∈ s.subscribersDb, record.id ≠ subscriptionId
  get : (SubscribersSimple.getSimpleSubscription subscriptionId).serve s =
    (.ok (message 404 "Subscription not found"), s)
  delete : (SubscribersSimple.deleteSimpleSubscription subscriptionId).serve s =
    (.ok (message 404 "Subscription not found"), s)
  update : ∀ req, let ended := (SubscribersSimple.updateSimpleSubscription rt req subscriptionId).serve s
    (Outcome.answer ended.1).succeeds = false ∧ ended.2 = s

theorem addresses (rt : Runtime) (s : Server) (subscriptionId : Nat) :
    AddressesNone rt s subscriptionId ∨
      ∃ before record after, Addresses rt s subscriptionId before record after := by
  cases found : SubscribersSimple.findSubscription subscriptionId s.subscribersDb with
  | none =>
    left
    refine ⟨Records.find_none.mp found, ?_, ?_, fun req => ?_⟩
    · rw [run_getSimpleSubscription, found]
    · rw [run_deleteSimpleSubscription, found, Records.remove_of_find_none found]
      rfl
    · intro ended
      have ran : ended = _ := run_updateSimpleSubscription
      rw [ran, found, Records.modify_of_find_none found]
      refine ⟨?_, rfl⟩
      unfold updateAnswer
      cases req.getJson <;> rfl
  | some record =>
    right
    obtain ⟨here, before, after, stored, first⟩ := Records.find_eq_some_iff.mp found
    refine ⟨before, record, after, stored, here, first, ?_, ?_, fun req => ⟨edition rt req record,
      edition_edits record, ?_⟩⟩
    · rw [run_getSimpleSubscription, found]
    · rw [run_deleteSimpleSubscription, found, stored, Records.remove_split here first]
      rfl
    · rw [run_updateSimpleSubscription]
      dsimp only
      rw [stored, Records.modify_split here first]

/-- Every operation with an id reaches the first record that has it and no other. Two updates or
deletions under different ids leave the same list in either order, but for the times of the
updates, and are answered with the same statuses. -/
theorem subscription_operations_independent (rt : Runtime) (s : Server) :
    (∀ subscriptionId : Nat, AddressesNone rt s subscriptionId ∨
      ∃ before record after, Addresses rt s subscriptionId before record after) ∧
    ∀ (a b : SubscriptionOp) (i j : Nat), i ≠ j → ∀ t₁ t₂ t₃ t₄ : Int,
      let sa := SubscriptionCall.step rt s (a.call i t₁)
      let sb := SubscriptionCall.step rt s (b.call j t₃)
      (SubscriptionCall.step rt sa (b.call j t₂)).subscribersDb.map Subscription.timeless =
        (SubscriptionCall.step rt sb (a.call i t₄)).subscribersDb.map Subscription.timeless ∧
      a.status rt i t₁ s = a.status rt i t₄ sb ∧ b.status rt j t₂ sa = b.status rt j t₃ s := by
  refine ⟨addresses rt s, fun a b i j different t₁ t₂ t₃ t₄ => ⟨?_, ?_, ?_⟩⟩
  · have apart : (i : Int) ≠ j := fun same => different (Int.ofNat.inj same)
    rw [timeless_step, timeless_step, timeless_step, timeless_step]
    exact (effect_comm a b apart _).symm
  · exact (status_after a b different t₄ t₃ t₁ s).symm
  · exact status_after b a different.symm t₂ t₁ t₃ s

end UssdCredit
