import UssdCredit.AuthContext

/-! The subscriber dashboard: the list it fetches, the subscriptions it keeps of it, and what it
shows of them. -/

namespace UssdCredit

namespace Value

mutual
/-- The text of the value is one that `JSON.parse` takes: `NaN` and `Infinity` are not. -/
def standard : Value → Bool
  | .float (.finite _) => true
  | .float _ => false
  | .scalar _ => true
  | .list items => standardList items
  | .dict entries => standardEntries entries

def standardList : List Value → Bool
  | [] => true
  | item :: rest => standard item && standardList rest

def standardEntries : List (String × Value) → Bool
  | [] => true
  | (_, item) :: rest => standard item && standardEntries rest
end

theorem standardList_iff {items : List Value} :
    standardList items = true ↔ ∀ item ∈ items, item.standard = true := by
  induction items with
  | nil => simp [standardList]
  | cons item rest ih => simp [standardList, ih]

mutual
/-- Datetimes are written as texts. -/
theorem standard_jsonScalar : (v : Value) → (v.mapScalar jsonScalar).standard = v.standard
  | .scalar s => by cases s <;> rfl
  | .list items => by simp only [mapScalar, standard, standardList_jsonScalar items]
  | .dict entries => by simp only [mapScalar, standard, standardEntries_jsonScalar entries]

theorem standardList_jsonScalar : (items : List Value) →
    standardList (mapScalarList jsonScalar items) = standardList items
  | [] => rfl
  | item :: rest => by
      simp only [mapScalarList, standardList, standard_jsonScalar item, standardList_jsonScalar rest]

theorem standardEntries_jsonScalar : (entries : List (String × Value)) →
    standardEntries (mapScalarEntries jsonScalar entries) = standardEntries entries
  | [] => rfl
  | (_, item) :: rest => by
      simp only [mapScalarEntries, standardEntries, standard_jsonScalar item,
        standardEntries_jsonScalar rest]
end

end Value

/-- What the page needs of the browser: doubles, and the texts made of values. -/
structure JsEngine where
  /-- The double nearest to a number. -/
  round : Rat → PyFloat
  /-- `String(v)`. -/
  text : Js → String
  encodeURIComponent : String → String
  /-- The body of a response as it was sent. -/
  raw : Value → String

namespace JsEngine

variable (engine : JsEngine)

/-- Every number is a double. -/
def number : Scalar → Scalar
  | .int n => .float (engine.round n)
  | s => s

/-- `a === b`. Two arrays or objects from different sources are never the same one. -/
def strictEq : Js → Js → Bool
  | none, none => true
  | some (.scalar a), some (.scalar b) =>
      engine.number a ≠ .float .nan && engine.number a = engine.number b
  | _, _ => false

/-- `Number(v)`, for the operands `+` does not join as texts. -/
def addend : Js → Option PyFloat
  | none => some .nan
  | some .null => some (.finite 0)
  | some (.bool b) => some (.finite (if b then 1 else 0))
  | some (.int n) => some (engine.round n)
  | some (.float x) => some x
  | _ => none

def add : PyFloat → PyFloat → PyFloat
  | .finite p, .finite q => engine.round (p + q)
  | .nan, _ => .nan
  | _, .nan => .nan
  | .infinite a, .infinite b => if a = b then .infinite a else .nan
  | .infinite a, .finite _ => .infinite a
  | .finite _, .infinite b => .infinite b

/-- `a + b`. -/
def plus (a b : Js) : Js :=
  match engine.addend a, engine.addend b with
  | some x, some y => some (.float (engine.add x y))
  | _, _ => some (.str (engine.text a ++ engine.text b))

/-- `response.data` before the interceptors: a body that does not parse stays a text. -/
def received (body : Value) : Value :=
  if body.standard then body.mapScalar engine.number else .str (engine.raw body)

/-- What a request through `api` resolves with, or the response it throws. -/
def resolved (request : ApiRequest) (response : Response) : Except Response Value :=
  if response.succeeds then .ok (intercept request.url (engine.received response.body))
  else .error response

end JsEngine

/-- `subscriptionAPI.getAll`. -/
def SubscriptionApi.getAll : ApiRequest := ⟨"/api/subscribers", .listSimpleSubscribers, none⟩

/-! The page. -/

/-- `Subscription`, as the page has it. -/
structure ShownSubscription where
  id : Js
  influencerName : Js
  influencerImage : Js
  amount : Js
  frequency : Js
  isActive : Js
  lastPaid : Js
  deriving DecidableEq

structure Transaction where
  id : Js
  amount : Js
  date : Js
  influencer : Js
  deriving DecidableEq

structure SubscriberData where
  id : Js
  name : Js
  phone : Js
  imageUrl : Js
  totalPaid : Js
  subscriptions : List ShownSubscription
  transactions : List Transaction
  deriving DecidableEq

/-- The state of the page. -/
structure SubscriberDashboard where
  subscriberData : Option SubscriberData
  subscriptions : List ShownSubscription
  isLoading : Bool
  error : Option String

namespace SubscriberDashboard

variable (engine : JsEngine)

def initial : SubscriberDashboard := ⟨none, [], true, none⟩

/-- The filter of `fetchSubscriberData`. -/
def belongs (user sub : Js) : Bool :=
  engine.strictEq (sub.property "fan_phone") (user.property "phone") ||
    engine.strictEq (sub.property "user_id") (user.property "id")

def avatar (name : Js) : Js :=
  some (.str ("https://ui-avatars.com/api/?name=" ++ engine.encodeURIComponent (engine.text name)))

def transform (sub : Js) : ShownSubscription where
  id := sub.property "id"
  influencerName := (sub.property "influencer_name").or
    (some (.str ("Influencer " ++ engine.text (sub.property "influencer_id"))))
  influencerImage := (sub.property "influencer_image").or
    (avatar engine ((sub.property "influencer_name").or (some (.str "Influencer"))))
  amount := sub.property "amount"
  frequency := sub.property "frequency"
  isActive := sub.property "is_active"
  lastPaid := (sub.property "last_paid").or (sub.property "created_at")

def totalPaid (subscriptions : List ShownSubscription) : Js :=
  subscriptions.foldl (fun sum sub => engine.plus sum sub.amount) (some (.float (.finite 0)))

/-- The user's data; `none` where the page throws. -/
def subscriberDataOf (user : Js) (data : Value) : Option SubscriberData :=
  match data with
  | .list items =>
      -- `null` has no properties to filter by.
      if .null ∈ items then none
      else
        let transformed := ((items.map some).filter (belongs engine user)).map (transform engine)
        let firstName := user.property "first_name"
        let lastName := user.property "last_name"
        let email := user.property "email"
        some {
          id := user.property "id"
          name :=
            if firstName.truthy && lastName.truthy then
              some (.str (engine.text firstName ++ " " ++ engine.text lastName))
            else email.or (some (.str "User"))
          phone := (user.property "phone").or (some (.str "N/A"))
          imageUrl := (user.property "avatar_url").or
            (avatar engine ((firstName.or email).or (some (.str "User"))))
          totalPaid := totalPaid engine transformed
          subscriptions := transformed
          transactions := transformed.map fun sub =>
            ⟨sub.id, sub.amount, sub.lastPaid, sub.influencerName⟩ }
  | _ => none

def fetchSubscriberData (user : Js) (response : Except Response Value)
    (page : SubscriberDashboard) : SubscriberDashboard :=
  if user.truthy then
    match response.toOption.bind (subscriberDataOf engine user) with
    | some data => ⟨some data, data.subscriptions, false, none⟩
    | none => { page with
        isLoading := false
        error := some "Failed to load subscriber data. Please try again." }
  else page

/-- The profile and the list on the screen, where the page gets that far. -/
def rendered (page : SubscriberDashboard) : Option (SubscriberData × List ShownSubscription) :=
  if page.isLoading || page.error.isSome then none
  else page.subscriberData.map fun data => (data, page.subscriptions)

/-- The page of a user after its fetch. -/
def opened (rt : Runtime) (oidText : Nat → String) (server : Server) (storage : LocalStorage)
    (occasion : Occasion) (user : Fields) : SubscriberDashboard :=
  let request := SubscriptionApi.getAll
  let served := serve rt oidText server (request.sent storage occasion)
  fetchSubscriberData engine (some (.dict user)) (engine.resolved request served.1) initial

/-! What the page is to show. -/

/-- The user has a phone number. -/
def HasPhone (user : Fields) : Prop := user.lookup "phone" ≠ none ∧ user.lookup "phone" ≠ some .null

instance (user : Fields) : Decidable (HasPhone user) := by unfold HasPhone; infer_instance

/-- The stored records with the phone number of the user. -/
def recordsOf (user : Fields) (db : List Subscription) : List Subscription :=
  if HasPhone user then
    db.filter fun record => engine.strictEq (some record.fanPhone) (user.lookup "phone")
  else []

/-- A stored record as it is sent and read. -/
def delivered (record : Subscription) : Js :=
  some ((record.toJson.mapScalar jsonScalar).mapScalar engine.number)

def amountPaid (record : Subscription) : Rat :=
  match record.amount with
  | .finite q => q
  | _ => 0

/-- The page shows the user's records, each once and in the order of the store, and the sum of
their amounts. -/
def ShowsRecords (user : Fields) (db : List Subscription) (page : SubscriberDashboard) : Prop :=
  ∃ data, page.rendered =
      some (data, (recordsOf engine user db).map fun record => transform engine (delivered engine record)) ∧
    data.totalPaid = some (.float (.finite ((recordsOf engine user db).map amountPaid).sum))

section Opened

variable {engine : JsEngine} {rt : Runtime} {oidText : Nat → String} {server : Server}
  {storage : LocalStorage} {occasion : Occasion} {user : Fields}

/-- The body of the list is an object, whatever is stored. -/
def envelope (db : List Subscription) : Fields := [
  ("total", .int db.length),
  ("subscribers", .list (db.map Subscription.toJson))]

theorem served_getAll :
    (serve rt oidText server (SubscriptionApi.getAll.sent storage occasion)).1 =
      jsonify 200 (.dict (envelope server.subscribersDb)) := rfl

theorem standard_envelope (db : List Subscription) :
    (Value.dict (envelope db)).standard = true ↔ ∀ record ∈ db, record.toJson.standard = true := by
  simp only [envelope, Value.standard, Value.standardEntries, Bool.true_and, Bool.and_true,
    Value.standardList_iff, List.forall_mem_map]

/-- An object has none of the properties the page filters by when its keys are others. -/
theorem property_delivered {entries : Fields} {name : String} (f : Scalar → Scalar)
    (absent : entries.lookup name = none) :
    Js.property (some ((Value.dict entries).mapScalar f)) name = none := by
  change (Value.mapScalarEntries f entries).lookup name = none
  rw [Value.lookup_mapScalarEntries, absent, Option.map_none]

theorem strictEq_none (v : Js) : engine.strictEq none v = true ↔ v = none := by
  cases v <;> simp [JsEngine.strictEq]

/-- What the screen shows after the fetch is what the response gives. -/
theorem rendered_fetch (response : Except Response Value) :
    (fetchSubscriberData engine (some (.dict user)) response initial).rendered =
      (response.toOption.bind (subscriberDataOf engine (some (.dict user)))).map
        fun data => (data, data.subscriptions) := by
  rw [fetchSubscriberData, if_pos (show Js.truthy (some (.dict user)) = true from rfl)]
  cases response.toOption.bind (subscriberDataOf engine (some (.dict user))) <;> rfl

/-- The envelope as the page gets it. -/
def deliveredEnvelope (engine : JsEngine) (db : List Subscription) : Value :=
  ((Value.dict (envelope db)).mapScalar jsonScalar).mapScalar engine.number

theorem resolved_jsonify (request : ApiRequest) (body : Value) :
    engine.resolved request (jsonify 200 body) =
      .ok (intercept request.url (engine.received (body.mapScalar jsonScalar))) := rfl

theorem resolved_standard (standard : ∀ record ∈ server.subscribersDb, record.toJson.standard = true) :
    engine.resolved SubscriptionApi.getAll
      (serve rt oidText server (SubscriptionApi.getAll.sent storage occasion)).1 =
        .ok (.list [deliveredEnvelope engine server.subscribersDb]) := by
  rw [served_getAll]
  have parses := (Value.standard_jsonScalar (.dict (envelope server.subscribersDb))).trans
    ((standard_envelope server.subscribersDb).mpr standard)
  have wrapped : "/api/".toList <:+: SubscriptionApi.getAll.url.toList := by
    simp only [SubscriptionApi.getAll]
    decide +kernel
  rw [resolved_jsonify, JsEngine.received, if_pos parses]
  exact congrArg Except.ok (intercept_object wrapped _)

/-- A text is not wrapped, and cannot be filtered. -/
theorem resolved_nonstandard
    (broken : ¬∀ record ∈ server.subscribersDb, record.toJson.standard = true) :
    ∃ text, engine.resolved SubscriptionApi.getAll
      (serve rt oidText server (SubscriptionApi.getAll.sent storage occasion)).1 =
        .ok (.str text) := by
  rw [served_getAll]
  have stays : ¬((Value.dict (envelope server.subscribersDb)).mapScalar jsonScalar).standard = true := by
    rw [Value.standard_jsonScalar, standard_envelope]
    exact broken
  rw [resolved_jsonify, JsEngine.received, if_neg stays]
  exact ⟨_, rfl⟩

/-- The envelope passes the filter when the user lacks what it is compared by. -/
theorem belongs_envelope (db : List Subscription) :
    belongs engine (some (.dict user)) (some (deliveredEnvelope engine db)) = true ↔
      user.lookup "phone" = none ∨ user.lookup "id" = none := by
  have lacks : ∀ name, (envelope db).lookup name = none →
      Js.property (some (deliveredEnvelope engine db)) name = none := by
    intro name absent
    apply property_delivered
    rw [Value.lookup_mapScalarEntries, absent, Option.map_none]
  rw [belongs, lacks "fan_phone" rfl, lacks "user_id" rfl, Bool.or_eq_true, strictEq_none,
    strictEq_none]
  rfl

/-- The row made of the envelope has no id, and that of a record has one. -/
theorem transform_envelope_ne (db : List Subscription) (record : Subscription) :
    transform engine (some (deliveredEnvelope engine db)) ≠
      transform engine (delivered engine record) := by
  intro same
  have ids : (none : Js) = some (.float (engine.round record.id)) := congrArg ShownSubscription.id same
  cases ids

/-- With the envelope as the only item, the page shows a row of it or nothing. -/
theorem showsRecords_envelope (db : List Subscription) {page : SubscriberDashboard}
    (shown : page.rendered = (subscriberDataOf engine (some (.dict user))
      (.list [deliveredEnvelope engine db])).map fun data => (data, data.subscriptions)) :
    ShowsRecords engine user db page ↔
      ¬(user.lookup "phone" = none ∨ user.lookup "id" = none) ∧ recordsOf engine user db = [] := by
  unfold ShowsRecords
  rw [shown]
  have object : Value.null ∉ [deliveredEnvelope engine db] := by
    simp [deliveredEnvelope, Value.mapScalar]
  by_cases passes : user.lookup "phone" = none ∨ user.lookup "id" = none
  · have kept := (@belongs_envelope engine user db).mpr passes
    simp only [subscriberDataOf, if_neg object, List.map_cons, List.map_nil, List.filter_cons, kept,
      ↓reduceIte, List.filter_nil, Option.map_some, Option.some.injEq, Prod.mk.injEq]
    constructor
    · rintro ⟨data, ⟨-, same⟩, -⟩
      cases records : recordsOf engine user db with
      | nil =>
        rw [records] at same
        cases same
      | cons record rest =>
        rw [records] at same
        exact absurd (List.cons.inj same).1 (transform_envelope_ne db record)
    · intro shown
      exact absurd passes shown.1
  · have dropped : belongs engine (some (.dict user)) (some (deliveredEnvelope engine db)) ≠ true :=
      fun kept => passes (belongs_envelope db |>.mp kept)
    simp only [subscriberDataOf, if_neg object, List.map_cons, List.map_nil, List.filter_cons, dropped,
      List.filter_nil, Option.map_some, Option.some.injEq, Prod.mk.injEq]
    constructor
    · rintro ⟨data, ⟨-, same⟩, -⟩
      exact ⟨passes, List.map_eq_nil_iff.mp same.symm⟩
    · rintro ⟨-, empty⟩
      rw [empty]
      exact ⟨_, ⟨rfl, rfl⟩, rfl⟩

end Opened

/-- The page shows a user's records exactly where there is none to show: of a user with an id and
a phone field, while no record has the phone number and the whole store is JSON a browser parses. -/
theorem dashboard_shows_records_iff (engine : JsEngine) (rt : Runtime) (oidText : Nat → String)
    (server : Server) (storage : LocalStorage) (occasion : Occasion) (user : Fields) :
    ShowsRecords engine user server.subscribersDb
        (opened engine rt oidText server storage occasion user) ↔
      (∀ record ∈ server.subscribersDb, record.toJson.standard = true) ∧
      user.lookup "phone" ≠ none ∧ user.lookup "id" ≠ none ∧
      (HasPhone user → ∀ record ∈ server.subscribersDb,
        engine.strictEq (some record.fanPhone) (user.lookup "phone") = false) := by
  have noRecords : recordsOf engine user server.subscribersDb = [] ↔
      (HasPhone user → ∀ record ∈ server.subscribersDb,
        engine.strictEq (some record.fanPhone) (user.lookup "phone") = false) := by
    unfold recordsOf
    split_ifs with phone <;> simp [phone, List.filter_eq_nil_iff]
  rw [← noRecords]
  by_cases standard : ∀ record ∈ server.subscribersDb, record.toJson.standard = true
  · rw [showsRecords_envelope server.subscribersDb, not_or, and_assoc]
    · exact ⟨fun empty => ⟨standard, empty⟩, And.right⟩
    · rw [opened, rendered_fetch, resolved_standard standard]
      rfl
  · obtain ⟨text, resolved⟩ := @resolved_nonstandard engine rt oidText server storage occasion standard
    constructor
    · rintro ⟨data, shown, -⟩
      rw [opened, rendered_fetch, resolved] at shown
      cases shown
    · intro shown
      exact absurd shown.1 standard

/-- Doubles without rounding, and texts for the pages below. -/
def plainJsEngine : JsEngine where
  round := .finite
  text
    | none => "undefined"
    | some (.str s) => s
    | some _ => "[object Object]"
  encodeURIComponent := id
  raw _ := ""

/-- A user with the phone number of the first demo subscription is shown none and a total of 0,
and a user without phone number one that does not exist, with a total that is no number. -/
theorem dashboard_misses_subscription :
    let server := step plainRuntime Server.initial
      ⟨.populateDemoSubscribers, ⟨none, none, [], 0, 0, 0⟩⟩
    let openedBy := opened plainJsEngine plainRuntime toString server [] ⟨0, 0, 0⟩
    let subscriber : Fields := [("id", .int 1), ("phone", .str "+254700000101")]
    let guest : Fields := [("id", .int 2)]
    (recordsOf plainJsEngine subscriber server.subscribersDb).map Subscription.id = [1] ∧
      ¬ShowsRecords plainJsEngine subscriber server.subscribersDb (openedBy subscriber) ∧
      (openedBy subscriber).rendered.map (fun shown => (shown.1.totalPaid, shown.2)) =
        some (some (.float (.finite 0)), []) ∧
      ¬ShowsRecords plainJsEngine guest server.subscribersDb (openedBy guest) ∧
      (openedBy guest).rendered.map (fun shown =>
        (shown.1.totalPaid, shown.2.map fun sub => (sub.id, sub.influencerName))) =
          some (some (.float .nan), [(none, some (.str "Influencer undefined"))]) := by
  intro server openedBy subscriber guest
  have records : (recordsOf plainJsEngine subscriber server.subscribersDb).map Subscription.id = [1] := by
    decide +kernel
  have nothing : (openedBy subscriber).rendered.map (fun shown => (shown.1.totalPaid, shown.2)) =
      some (some (.float (.finite 0)), []) := by decide +kernel
  have invented : (openedBy guest).rendered.map (fun shown =>
      (shown.1.totalPaid, shown.2.map fun sub => (sub.id, sub.influencerName))) =
        some (some (.float .nan), [(none, some (.str "Influencer undefined"))]) := by decide +kernel
  refine ⟨records, ?_, nothing, ?_, invented⟩
  · rintro ⟨data, shown, -⟩
    rw [shown] at nothing
    have unshown := congrArg Prod.snd (Option.some.inj nothing)
    rw [List.map_eq_nil_iff.mp unshown] at records
    cases records
  · rintro ⟨data, shown, -⟩
    rw [shown] at invented
    have rows := congrArg Prod.snd (Option.some.inj invented)
    cases rows

end SubscriberDashboard

end UssdCredit
