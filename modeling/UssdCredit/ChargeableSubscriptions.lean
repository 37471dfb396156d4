import UssdCredit.SubscriptionAddressing

/-! Whether the stored subscriptions can be charged, over runs from the empty list: a creation
asks that the amount is given and not zero, an update asks nothing. -/

namespace UssdCredit

open Library Program

def PyFloat.Positive : PyFloat → Prop
  | .finite q => 0 < q
  | .infinite negative => negative = false
  | .nan => False

/-- `float(n)` lies on the same side of zero as `n`. -/
def Runtime.FloatSigned (rt : Runtime) : Prop :=
  ∀ (n : Int) (x : PyFloat), rt.float (.int n) = .ok x → (x.Positive ↔ 0 < n)

theorem plainRuntime_floatSigned : plainRuntime.FloatSigned := by
  intro n x read
  rw [← Except.ok.inj read]
  exact Rat.intCast_pos

structure Subscription.Chargeable (s : Subscription) : Prop where
  influencerId : s.influencerId.truthy = true
  fanPhone : s.fanPhone.truthy = true
  amount : s.amount.Positive

/-- Every stored subscription can be charged. -/
def AllChargeable (s : Server) : Prop := ∀ subscription ∈ s.subscribersDb, subscription.Chargeable

/-- A request whose amount, if it has one, is an integer. -/
structure IntegerCall where
  call : SubscriptionCall
  integer : ∀ req, (call = .create req ∨ ∃ subscriptionId, call = .update req subscriptionId) →
    ∀ amount, req.field "amount" = some amount → ∃ n, amount = .int n

def IntegerCall.step (rt : Runtime) (s : Server) (integers : IntegerCall) : Server :=
  integers.call.step rt s

/-- A creation or an update that goes through gives a positive amount, or the update none. -/
def AmountPositive (rt : Runtime) (s : Server) : SubscriptionCall → Prop
  | .create req => Nonempty (NewSubscription rt req) → ∀ n, req.field "amount" = some (.int n) → 0 < n
  | .update req subscriptionId =>
      (SubscribersSimple.findSubscription subscriptionId s.subscribersDb).isSome →
        ∀ n x, req.field "amount" = some (.int n) → rt.float (.int n) = .ok x → 0 < n
  | .delete _ | .populate _ => True

section Update

variable {rt : Runtime} {req : Http}

theorem revise_keeps_amount {payload : Value} {key : String} {write : Subscription → Subscription}
    {convert : Value → Subscription → Subscription}
    (keeps : ∀ value record, (convert value record).amount = record.amount)
    (revised : revise payload key (fun value => return convert value) = .ok write) (record : Subscription) :
    (write record).amount = record.amount :=
  @revise_holds payload key (fun write => ∀ record : Subscription, (write record).amount = record.amount)
    _ write (fun _ => rfl) (return_holds keeps) revised record

/-- The amount after an update is the converted one of the payload, or the old one. -/
theorem amount_requested {write : Subscription → Subscription} (writes : requested rt req = .ok write) :
    (req.field "amount" = none ∧ ∀ record, (write record).amount = record.amount) ∨
      ∃ value amount, req.field "amount" = some value ∧ rt.float value = .ok amount ∧
        ∀ record, (write record).amount = amount := by
  obtain ⟨payload, parsed, revised⟩ := bind_eq_ok.mp writes
  unfold revision at revised
  obtain ⟨first, amounts, later⟩ := bind_eq_ok.mp revised
  obtain ⟨second, frequencies, later⟩ := bind_eq_ok.mp later
  obtain ⟨third, activities, later⟩ := bind_eq_ok.mp later
  have kept : ∀ record, (write record).amount = (first record).amount := by
    intro record
    have isActive := revise_keeps_amount (by exact fun _ _ => rfl) activities
    have frequency := revise_keeps_amount (by exact fun _ _ => rfl) frequencies
    rw [← Except.ok.inj later]
    exact (isActive _).trans (frequency _)
  by_cases object : ∃ entries, payload = .dict entries
  · obtain ⟨entries, rfl⟩ := object
    rw [Http.field_dict parsed]
    rw [revise_dict] at amounts
    cases given : entries.lookup "amount" with
    | none =>
      rw [given] at amounts
      obtain rfl := Except.ok.inj amounts
      exact .inl ⟨rfl, kept⟩
    | some value =>
      rw [given] at amounts
      obtain ⟨amount, read, written⟩ := bind_eq_ok.mp amounts
      obtain rfl := Except.ok.inj written
      exact .inr ⟨value, amount, rfl, read, kept⟩
  · have other : ∀ entries, payload ≠ .dict entries := fun entries same => object ⟨entries, same⟩
    obtain rfl := revise_of_not_dict other amounts
    exact .inl ⟨Http.field_of_not_dict parsed other _, kept⟩

/-- An update with an amount that can be converted goes through. -/
theorem requested_of_amount {value : Value} {amount : PyFloat} (given : req.field "amount" = some value)
    (read : rt.float value = .ok amount) : ∃ write, requested rt req = .ok write := by
  cases parsed : req.getJson with
  | error e => simp [Http.field, parsed] at given
  | ok payload =>
    by_cases object : ∃ entries, payload = .dict entries
    · obtain ⟨entries, rfl⟩ := object
      rw [Http.field_dict parsed] at given
      have first : revise (.dict entries) "amount" (SubscribersSimple.writeAmount rt) =
          .ok fun s => { s with amount } := by
        rw [revise_dict, given]
        exact bind_eq_ok.mpr ⟨amount, read, rfl⟩
      obtain ⟨second, frequencies⟩ := revise_dict_total entries "frequency" fun frequency s =>
        { s with frequency }
      obtain ⟨third, activities⟩ := revise_dict_total entries "is_active" fun isActive s =>
        { s with isActive := isActive.truthy }
      rw [requested_of_parsed parsed, revision, first]
      exact ⟨_, bind_eq_ok.mpr ⟨_, rfl, bind_eq_ok.mpr ⟨second, frequencies,
        bind_eq_ok.mpr ⟨third, activities, rfl⟩⟩⟩⟩
    · have absent := Http.field_of_not_dict parsed (fun entries same => object ⟨entries, same⟩) "amount"
      cases absent.symm.trans given

end Update

/-! One request. -/

section Steps

variable {rt : Runtime} {s : Server}

theorem NewSubscription.truthy {req : Http} (new : NewSubscription rt req) {field : String}
    (listed : field ∈ ["influencer_id", "fan_phone", "amount"]) :
    ((req.field field).getD .null).truthy = true := by
  obtain ⟨entries, same, -⟩ := Value.pyGet_ok new.amount_given
  have complete := new.complete
  have parsed := new.parsed
  rw [same] at complete parsed
  rw [Http.field_dict parsed]
  exact Value.truthy_of_missingField complete listed

theorem NewSubscription.amount_field {req : Http} (new : NewSubscription rt req) :
    req.field "amount" = some new.amountGiven := by
  have given := Http.field_getD new.parsed new.amount_given
  have truthy := new.truthy (List.mem_cons_of_mem _ (List.mem_cons_of_mem _ List.mem_cons_self))
  cases found : req.field "amount" with
  | none =>
    rw [found] at truthy
    cases truthy
  | some value =>
    rw [found] at given
    exact congrArg some given

/-- What a creation stores can be charged exactly when its amount is positive. -/
theorem NewSubscription.chargeable_iff {req : Http} (new : NewSubscription rt req) (db : List Subscription) :
    (new.record db).Chargeable ↔ new.amount.Positive := by
  refine ⟨fun chargeable => chargeable.amount, fun positive => ⟨?_, ?_, positive⟩⟩
  · have given := Http.field_getD new.parsed new.influencerId_given
    have truthy := @NewSubscription.truthy rt req new "influencer_id" (by decide)
    rwa [given] at truthy
  · have given := Http.field_getD new.parsed new.fanPhone_given
    have truthy := @NewSubscription.truthy rt req new "fan_phone" (by decide)
    rwa [given] at truthy

theorem Subscription.Edited.chargeable {before after : Subscription} (edited : before.Edited after)
    (chargeable : before.Chargeable) (positive : after.amount.Positive) : after.Chargeable where
  influencerId := edited.influencerId ▸ chargeable.influencerId
  fanPhone := edited.fanPhone ▸ chargeable.fanPhone
  amount := positive

theorem chargeable_addSamples (now : String) {db : List Subscription} (all : ∀ s ∈ db, s.Chargeable)
    {samples : List SubscribersSimple.Sample}
    (good : ∀ sample ∈ samples, sample.influencerId ≠ 0 ∧ sample.fanPhone ≠ "" ∧ 0 < sample.amount) :
    ∀ s ∈ samples.foldl (SubscribersSimple.addSample now) db, s.Chargeable := by
  induction samples generalizing db with
  | nil => exact all
  | cons sample rest ih =>
    refine ih (fun s member => ?_) fun sample' later => good sample' (List.mem_cons_of_mem _ later)
    rcases List.mem_append.mp member with old | new
    · exact all s old
    · obtain ⟨influencerId, fanPhone, amount⟩ := good sample List.mem_cons_self
      rw [List.mem_singleton.mp new]
      exact ⟨by simpa [Value.truthy] using influencerId, by simpa [Value.truthy] using fanPhone, amount⟩

theorem chargeable_create (signed : rt.FloatSigned) {req : Http}
    (integer : ∀ amount, req.field "amount" = some amount → ∃ n, amount = .int n) (all : AllChargeable s)
    (positive : AmountPositive rt s (.create req)) :
    AllChargeable (SubscriptionCall.step rt s (.create req)) := by
  rcases @post_createSimpleSubscription rt req s with ⟨same, -⟩ | ⟨new, moved, -⟩
  · have same : SubscriptionCall.step rt s (.create req) = s := same
    rwa [same]
  · have moved : SubscriptionCall.step rt s (.create req) = _ := moved
    rw [moved]
    intro subscription member
    rcases List.mem_append.mp member with old | last
    · exact all subscription old
    · rw [List.mem_singleton.mp last, new.chargeable_iff]
      have given := new.amount_field
      obtain ⟨n, whole⟩ := integer _ given
      have read := new.amount_read
      rw [whole] at given read
      exact (signed n _ read).mpr (positive ⟨new⟩ n given)

theorem chargeable_update (signed : rt.FloatSigned) {req : Http} {subscriptionId : Nat}
    (integer : ∀ amount, req.field "amount" = some amount → ∃ n, amount = .int n) (all : AllChargeable s)
    (positive : AmountPositive rt s (.update req subscriptionId)) :
    AllChargeable (SubscriptionCall.step rt s (.update req subscriptionId)) := by
  have moved : SubscriptionCall.step rt s (.update req subscriptionId) = _ :=
    congrArg Prod.snd run_updateSimpleSubscription
  rw [moved]
  intro subscription member
  rcases Records.mem_modify member with old | ⟨record, stored, here, rfl⟩
  · exact all subscription old
  · have present : (SubscribersSimple.findSubscription subscriptionId s.subscribersDb).isSome := by
      by_contra none
      have absent := Records.find_none.mp (Option.not_isSome_iff_eq_none.mp none)
      exact absent record stored here
    refine (edition_edits record).chargeable (all record stored) ?_
    cases writes : requested rt req with
    | error e =>
      rw [edition_error writes]
      exact (all record stored).amount
    | ok write =>
      rw [edition_ok writes]
      change (write record).amount.Positive
      rcases amount_requested writes with ⟨-, kept⟩ | ⟨value, amount, given, read, set⟩
      · rw [kept]
        exact (all record stored).amount
      · obtain ⟨n, rfl⟩ := integer value given
        rw [set]
        exact (signed n amount read).mpr (positive present n amount given read)

theorem chargeable_step (signed : rt.FloatSigned) (integers : IntegerCall) (all : AllChargeable s)
    (positive : AmountPositive rt s integers.call) : AllChargeable (integers.step rt s) := by
  obtain ⟨call, integer⟩ := integers
  cases call with
  | create req => exact chargeable_create signed (integer req (.inl rfl)) all positive
  | update req subscriptionId =>
    exact chargeable_update signed (integer req (.inr ⟨subscriptionId, rfl⟩)) all positive
  | delete subscriptionId =>
    have moved : SubscriptionCall.step rt s (.delete subscriptionId) = _ :=
      post_deleteSimpleSubscription subscriptionId
    change AllChargeable (SubscriptionCall.step rt s (.delete subscriptionId))
    rw [moved]
    exact fun subscription member => all subscription ((Records.remove_sublist _ _).subset member)
  | populate req =>
    have moved : SubscriptionCall.step rt s (.populate req) = _ := post_populateDemoSubscribers
    change AllChargeable (SubscriptionCall.step rt s (.populate req))
    rw [moved]
    exact chargeable_addSamples _ all (by decide)

/-- An amount that is not positive is stored at once. -/
theorem unchargeable_step (signed : rt.FloatSigned) {call : SubscriptionCall}
    (negative : ¬AmountPositive rt s call) : ¬AllChargeable (call.step rt s) := by
  intro all
  cases call with
  | create req =>
    simp only [AmountPositive, not_forall] at negative
    obtain ⟨⟨new⟩, n, given, low⟩ := negative
    have moved : SubscriptionCall.step rt s (.create req) = _ := run_createSimpleSubscription new
    rw [moved] at all
    have stored := all (new.record s.subscribersDb)
      (List.mem_append_right _ (List.mem_singleton.mpr rfl))
    have read := new.amount_read
    rw [Option.some.inj (new.amount_field.symm.trans given)] at read
    exact low ((signed n _ read).mp stored.amount)
  | update req subscriptionId =>
    simp only [AmountPositive, not_forall] at negative
    obtain ⟨present, n, amount, given, read, low⟩ := negative
    obtain ⟨record, found⟩ := Option.isSome_iff_exists.mp present
    obtain ⟨write, writes⟩ := requested_of_amount given read
    have moved : SubscriptionCall.step rt s (.update req subscriptionId) = _ :=
      congrArg Prod.snd run_updateSimpleSubscription
    rw [moved] at all
    have again := Records.find_modify_self (fun s => (@edition_edits rt req s).id) found
    have stored := (all _ (Records.find_some again).1).amount
    rw [edition_ok writes] at stored
    rcases amount_requested writes with ⟨absent, -⟩ | ⟨value, amount', given', read', set⟩
    · cases absent.symm.trans given
    · obtain rfl := Option.some.inj (given'.symm.trans given)
      obtain rfl := Except.ok.inj (read'.symm.trans read)
      have positive : (write record).amount.Positive := stored
      rw [set] at positive
      exact low ((signed n _ read).mp positive)
  | delete subscriptionId => exact negative trivial
  | populate req => exact negative trivial

end Steps

/-- In a run from the empty list whose amounts are integers, every stored subscription can be
charged, in every state, exactly when every creation and every update that goes through gives a
positive amount or, the update, none. -/
theorem stored_subscriptions_chargeable_iff (rt : Runtime) (signed : rt.FloatSigned) (s : Server)
    (calls : List IntegerCall) :
    let step := fun s (integers : IntegerCall) => integers.step rt s
    Throughout step AllChargeable (s.setSubscribers []) calls ↔
      AllSteps step (fun s integers => AmountPositive rt s integers.call) (s.setSubscribers []) calls := by
  intro step
  have start : AllChargeable (s.setSubscribers []) := fun _ member => absurd member List.not_mem_nil
  refine throughout_iff_allSteps (fun _ all => all) ?_ ?_ start calls
  · exact fun s integers all positive => chargeable_step signed integers all positive
  · exact fun s integers _ negative => unchargeable_step signed negative

/-- The form's request with another amount, as a call. -/
def createWith (amount : Int) : IntegerCall where
  call := .create (.ofEntries none [("influencer_id", .int 1), ("fan_phone", .str "+254700000101"),
    ("amount", .int amount)] rfl 0)
  integer := by
    rintro req (same | ⟨subscriptionId, impossible⟩) value given
    · obtain rfl := SubscriptionCall.create.inj same
      exact ⟨amount, (Option.some.inj given).symm⟩
    · cases impossible

theorem stored_subscriptions_chargeable_iff_form :
    plainRuntime.FloatSigned ∧
      let step := fun s (integers : IntegerCall) => integers.step plainRuntime s
      (Throughout step AllChargeable (Server.initial.setSubscribers []) [createWith 100] ↔
        AllSteps step (fun s integers => AmountPositive plainRuntime s integers.call)
          (Server.initial.setSubscribers []) [createWith 100]) :=
  ⟨plainRuntime_floatSigned,
    stored_subscriptions_chargeable_iff plainRuntime plainRuntime_floatSigned Server.initial [createWith 100]⟩

/-- A creation with a negative amount is accepted, and so is an update to nothing. -/
theorem negative_amount_stored :
    let created := (createWith (-5)).step plainRuntime (Server.initial.setSubscribers [])
    let updated := SubscriptionCall.step plainRuntime ((createWith 100).step plainRuntime
      (Server.initial.setSubscribers [])) (.update (.ofEntries none [("amount", .int 0)] rfl 0) 1)
    created.subscribersDb.map Subscription.amount = [.finite (-5)] ∧ ¬AllChargeable created ∧
      updated.subscribersDb.map Subscription.amount = [.finite 0] ∧ ¬AllChargeable updated := by
  intro created updated
  have negative : created.subscribersDb.map Subscription.amount = [.finite (-5)] := by decide +kernel
  have zero : updated.subscribersDb.map Subscription.amount = [.finite 0] := by decide +kernel
  have stored : ∀ {s : Server} {amount : PyFloat}, s.subscribersDb.map Subscription.amount = [amount] →
      AllChargeable s → amount.Positive := by
    intro s amount same all
    have member : amount ∈ s.subscribersDb.map Subscription.amount := same ▸ List.mem_singleton.mpr rfl
    obtain ⟨subscription, present, rfl⟩ := List.mem_map.mp member
    exact (all subscription present).amount
  refine ⟨negative, fun all => ?_, zero, fun all => ?_⟩
  · exact absurd (stored negative all) (by decide : ¬(0 : Rat) < -5)
  · exact absurd (stored zero all) (by decide : ¬(0 : Rat) < 0)

end UssdCredit
