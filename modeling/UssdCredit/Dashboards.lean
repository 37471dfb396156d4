import UssdCredit.OpenPages

/-! The dashboards of the administrators and of the subscribers: the lists they load, and the
buttons beside their rows. The lists come in envelopes, and no button leads to a route. -/

namespace UssdCredit

open Library Program

/-- The row of a table that stands for nobody has no id. -/
theorem id_of_nobody {Row : Type} {rows : List Row} {rowId : Row → Js}
    (nameless : ∀ row ∈ rows, rowId row = none) {i : Nat} {id : Js}
    (shown : (rows[i]?).map rowId = some id) : id = none := by
  obtain ⟨row, there, rfl⟩ := Option.map_eq_some_iff.mp shown
  exact nameless row (List.mem_of_getElem? there)

def SubscriptionApi.update (engine : JsEngine) (id : Js) (isActive : Bool) : Option ApiRequest :=
  (intSegment (idText engine id)).map fun subscriptionId =>
    ⟨"/api/subscribers/" ++ idText engine id, .updateSimpleSubscription subscriptionId,
      some ⟨.dict [("is_active", .bool isActive)], rfl⟩⟩

theorem update_nobody (engine : JsEngine) (isActive : Bool) :
    SubscriptionApi.update engine none isActive = none := by
  rw [SubscriptionApi.update, intSegment_undefined]
  rfl

namespace AdminDashboard

structure ShownInfluencer where
  id : Js
  name : Js
  status : String
  receivedToday : Js
  receivedTotal : Js

structure ShownSubscriber where
  id : Js
  name : Js
  status : String
  subscriptions : Nat

structure ShownUser where
  id : Js
  phone : Js
  status : String

/-- What `fetchData` waits for. -/
inductive Awaits where
  | influencers
  | subscribers
  | users
  | nothing

/-- What the page has fetched. The renewals and expiries beside it are constants of the page, and the
buttons that reset a password only say so. -/
structure Page where
  influencers : List ShownInfluencer
  subscribers : List ShownSubscriber
  users : List ShownUser
  isLoading : Bool
  error : Option String
  awaits : Awaits

def Page.initial : Page := ⟨[], [], [], true, none, .influencers⟩

inductive Kind where
  | influencer
  | subscriber
  | user

inductive Act where
  /-- The next answer of `fetchData` arrives. -/
  | fetched
  | click (kind : Kind) (row : Nat) (newStatus : String)

section Definitions

variable (engine : JsEngine) (rt : Runtime) (oidText : Nat → String)

def influencerRow (inf : Js) : ShownInfluencer where
  id := inf.property "id"
  name := inf.property "name"
  status := if (inf.property "is_active").truthy then "active" else "suspended"
  receivedToday := (inf.property "received_today").or (some (.float (.finite 0)))
  receivedTotal := (inf.property "received").or (some (.float (.finite 0)))

def subscriberRow (sub : Js) : ShownSubscriber where
  id := sub.property "id"
  name := (sub.property "fan_phone").or (some (.str ("Subscriber " ++ engine.text (sub.property "id"))))
  status := if (sub.property "is_active").truthy then "active" else "inactive"
  subscriptions := 1

def userRow (user : Js) : ShownUser where
  id := user.property "id"
  phone := (user.property "phone").or (user.property "email")
  status := if (user.property "is_active").truthy then "active" else "suspended"

/-- `Array.isArray(data) ? data.map(row) : []`, or `none` where the page throws: `null` has no
properties. -/
def rowsOf {Row : Type} (row : Js → Row) (data : Value) : Option (List Row) :=
  match data with
  | .list items => if .null ∈ items then none else some (items.map fun item => row (some item))
  | _ => some []

def failed (page : Page) : Page :=
  { page with
    isLoading := false
    error := some "Failed to load dashboard data. Please try again."
    awaits := .nothing }

/-- The three requests of `fetchData` follow one another; the first that fails ends it. -/
def fetchData (visit : OpenPage Page) (occasion : Occasion) : OpenPage Page :=
  let page := visit.page
  match page.awaits with
  | .influencers =>
      let (data, visit) := visit.ask engine rt oidText (some InfluencerApi.getAll) occasion
      match data.toOption.bind (rowsOf influencerRow) with
      | some influencers => visit.show { page with influencers, awaits := .subscribers }
      | none => visit.show (failed page)
  | .subscribers =>
      let (data, visit) := visit.ask engine rt oidText (some SubscriptionApi.getAll) occasion
      match data.toOption.bind (rowsOf (subscriberRow engine)) with
      | some subscribers => visit.show { page with subscribers, awaits := .users }
      | none => visit.show (failed page)
  | .users =>
      let (data, visit) := visit.ask engine rt oidText (some AdminApi.getUsers) occasion
      match data.toOption.bind (rowsOf userRow) with
      | some users => visit.show { page with users, isLoading := false, awaits := .nothing }
      | none => visit.show (failed page)
  | .nothing => visit

/-- The id of a row on the screen. -/
def Page.rowId (page : Page) (kind : Kind) (row : Nat) : Option Js :=
  if page.isLoading || page.error.isSome then none
  else
    match kind with
    | .influencer => (page.influencers[row]?).map ShownInfluencer.id
    | .subscriber => (page.subscribers[row]?).map ShownSubscriber.id
    | .user => (page.users[row]?).map ShownUser.id

/-- The request of a status change, if its URL leads to a route: nothing takes a change of a single
influencer here, and nothing deactivates a user. -/
def statusRequest (kind : Kind) (id : Js) (newStatus : String) : Option ApiRequest :=
  match kind with
  | .influencer => none
  | .subscriber => SubscriptionApi.update engine id (newStatus = "active")
  | .user =>
      if newStatus = "active" then
        (intSegment (idText engine id)).map fun userId =>
          ⟨"/api/admin/users/" ++ idText engine id ++ "/activate", .activateUser userId, none⟩
      else none

/-- The rows with the id get the new status. -/
def Page.withStatus (page : Page) (kind : Kind) (id : Js) (newStatus : String) : Page :=
  let same (rowId : Js) : Bool := engine.strictEq rowId id
  match kind with
  | .influencer => { page with
      influencers := page.influencers.map fun i => if same i.id then { i with status := newStatus } else i }
  | .subscriber => { page with
      subscribers := page.subscribers.map fun s => if same s.id then { s with status := newStatus } else s }
  | .user => { page with
      users := page.users.map fun u => if same u.id then { u with status := newStatus } else u }

def handleStatusChange (visit : OpenPage Page) (kind : Kind) (id : Js) (newStatus : String)
    (occasion : Occasion) : OpenPage Page :=
  let (data, after) := visit.ask engine rt oidText (statusRequest engine kind id newStatus) occasion
  match data with
  | .ok _ => after.show (visit.page.withStatus engine kind id newStatus)
  | .error _ => after

def act (visit : OpenPage Page) (a : Act) (occasion : Occasion) : OpenPage Page :=
  match a with
  | .fetched => fetchData engine rt oidText visit occasion
  | .click kind row newStatus =>
      match visit.page.rowId kind row with
      | some id => handleStatusChange engine rt oidText visit kind id newStatus occasion
      | none => visit

end Definitions

/-! What can be on the page. -/

/-- Influencers are suspended and have received nothing today; and where the subscribers and the users
should be, there is one row at most, for nobody. -/
structure Inert (engine : JsEngine) (page : Page) : Prop where
  influencers : ∀ row ∈ page.influencers, row.status = "suspended" ∧
    row.receivedToday = some (.float (.finite 0))
  subscribers : page.subscribers = [] ∨
    page.subscribers = [⟨none, some (.str ("Subscriber " ++ engine.text none)), "inactive", 1⟩]
  users : page.users = [] ∨ page.users = [⟨none, none, "suspended"⟩]

section Loading

variable {engine : JsEngine} {rt : Runtime} {oidText : Nat → String} {visit : OpenPage Page}
  {occasion : Occasion}

theorem Inert.failed {page : Page} (inert : Inert engine page) : Inert engine (failed page) :=
  ⟨inert.influencers, inert.subscribers, inert.users⟩

/-- An envelope is a row without what a row is made of. -/
theorem rowsOf_envelope {Row : Type} {row : Js → Row} {names : List String} {data : Value}
    {rows : List Row} (envelope : Envelope names data) (loaded : rowsOf row data = some rows) :
    rows = [] ∨ ∃ item, rows = [row item] ∧ ∀ name ∉ names, item.property name = none := by
  rcases envelope with ⟨text, rfl⟩ | ⟨item, rfl, -, absent⟩
  · exact .inl (Option.some.inj loaded).symm
  · unfold rowsOf at loaded
    dsimp only at loaded
    split_ifs at loaded
    exact .inr ⟨some item, (Option.some.inj loaded).symm, absent⟩

/-- No record of an influencer says whether it is active, or what it has received today. -/
theorem silent_influencer (engine : JsEngine) (record : Influencer) {name : String}
    (unsaid : name ∈ ["is_active", "received_today"]) :
    Js.property (some (AdminInfluencerManagement.delivered engine record)) name = none := by
  change Js.property (some ((record.toJson.mapScalar jsonScalar).mapScalar engine.number)) name = none
  refine property_object ?_
  revert name
  cases record.ussdShortcode <;> cases record.createdAt <;> simp

theorem influencers_suspended {rows : List ShownInfluencer}
    (loaded : (visit.ask engine rt oidText (some InfluencerApi.getAll) occasion).1.toOption.bind
      (rowsOf influencerRow) = some rows) :
    ∀ row ∈ rows, row.status = "suspended" ∧ row.receivedToday = some (.float (.finite 0)) := by
  let db := visit.server.influencersDb
  have body : (visit.ask engine rt oidText (some InfluencerApi.getAll) occasion).1 =
      .ok (intercept "/api/influencers" (engine.received
        ((Value.list (db.map Influencer.toJson)).mapScalar jsonScalar))) := rfl
  rw [body] at loaded
  by_cases parses : ((Value.list (db.map Influencer.toJson)).mapScalar jsonScalar).standard = true
  · rw [JsEngine.received, if_pos parses] at loaded
    simp only [Value.mapScalar, Value.mapScalarList_eq, List.map_map] at loaded
    have listed : rowsOf influencerRow (.list (db.map (AdminInfluencerManagement.delivered engine))) =
        some rows := loaded
    unfold rowsOf at listed
    dsimp only at listed
    split_ifs at listed
    rw [← Option.some.inj listed]
    intro row member
    rw [List.map_map, List.mem_map] at member
    obtain ⟨record, -, rfl⟩ := member
    change (if (Js.property (some (AdminInfluencerManagement.delivered engine record)) "is_active").truthy
      then "active" else "suspended") = "suspended" ∧
        (Js.property (some (AdminInfluencerManagement.delivered engine record)) "received_today").or
          (some (.float (.finite 0))) = _
    rw [silent_influencer engine record (by decide), silent_influencer engine record (by decide)]
    exact ⟨rfl, rfl⟩
  · rw [JsEngine.received, if_neg parses] at loaded
    have none_listed : some [] = some rows := loaded
    rw [← Option.some.inj none_listed]
    exact List.forall_mem_nil _

theorem subscribers_nobody {rows : List ShownSubscriber}
    (loaded : (visit.ask engine rt oidText (some SubscriptionApi.getAll) occasion).1.toOption.bind
      (rowsOf (subscriberRow engine)) = some rows) :
    rows = [] ∨ rows = [⟨none, some (.str ("Subscriber " ++ engine.text none)), "inactive", 1⟩] := by
  obtain ⟨data, asked, envelope⟩ := @ask_subscriptions engine rt oidText _ visit occasion
  rw [asked] at loaded
  refine (rowsOf_envelope envelope loaded).imp_right ?_
  rintro ⟨item, rfl, absent⟩
  rw [subscriberRow, absent "id" (by decide), absent "fan_phone" (by decide), absent "is_active" (by decide)]
  rfl

theorem users_nobody {rows : List ShownUser}
    (loaded : (visit.ask engine rt oidText (some AdminApi.getUsers) occasion).1.toOption.bind
      (rowsOf userRow) = some rows) : rows = [] ∨ rows = [⟨none, none, "suspended"⟩] := by
  cases asked : (visit.ask engine rt oidText (some AdminApi.getUsers) occasion).1 with
  | error response =>
    rw [asked] at loaded
    cases loaded
  | ok data =>
    rw [asked] at loaded
    refine (rowsOf_envelope (ask_users asked) loaded).imp_right ?_
    rintro ⟨item, rfl, absent⟩
    rw [userRow, absent "id" (by decide), absent "phone" (by decide), absent "email" (by decide),
      absent "is_active" (by decide)]
    rfl

theorem fetchData_inert (inert : Inert engine visit.page) :
    Inert engine (fetchData engine rt oidText visit occasion).page ∧
      (fetchData engine rt oidText visit occasion).server = visit.server := by
  unfold fetchData
  dsimp only
  cases visit.page.awaits with
  | influencers =>
    have server := @ask_list engine rt oidText _ visit occasion InfluencerApi.getAll (by decide)
    dsimp only
    split
    · next influencers loaded =>
      exact ⟨⟨influencers_suspended loaded, inert.subscribers, inert.users⟩, server⟩
    · exact ⟨inert.failed, server⟩
  | subscribers =>
    have server := @ask_list engine rt oidText _ visit occasion SubscriptionApi.getAll (by decide)
    dsimp only
    split
    · next subscribers loaded =>
      exact ⟨⟨inert.influencers, subscribers_nobody loaded, inert.users⟩, server⟩
    · exact ⟨inert.failed, server⟩
  | users =>
    have server := @ask_list engine rt oidText _ visit occasion AdminApi.getUsers (by decide)
    dsimp only
    split
    · next users loaded => exact ⟨⟨inert.influencers, inert.subscribers, users_nobody loaded⟩, server⟩
    · exact ⟨inert.failed, server⟩
  | nothing => exact ⟨inert, rfl⟩

/-- No button of such a page leads to a route. -/
theorem click_unrouted {page : Page} (inert : Inert engine page) {kind : Kind} {row : Nat} {id : Js}
    (shown : page.rowId kind row = some id) (newStatus : String) :
    statusRequest engine kind id newStatus = none := by
  unfold Page.rowId at shown
  split_ifs at shown
  cases kind with
  | influencer => rfl
  | subscriber =>
    have nameless : ∀ row ∈ page.subscribers, row.id = none := by
      rcases inert.subscribers with rows | rows <;> rw [rows] <;> simp
    rw [id_of_nobody nameless shown]
    exact update_nobody engine _
  | user =>
    have nameless : ∀ row ∈ page.users, row.id = none := by
      rcases inert.users with rows | rows <;> rw [rows] <;> simp
    rw [id_of_nobody nameless shown]
    unfold statusRequest
    dsimp only
    rw [intSegment_undefined]
    split_ifs <;> rfl

theorem act_inert (visit : OpenPage Page) (a : Act) (occasion : Occasion)
    (inert : Inert engine visit.page) :
    Inert engine (act engine rt oidText visit a occasion).page ∧
      (act engine rt oidText visit a occasion).server = visit.server := by
  cases a with
  | fetched => exact fetchData_inert inert
  | click kind row newStatus =>
    unfold act
    dsimp only
    cases shown : visit.page.rowId kind row with
    | none => exact ⟨inert, rfl⟩
    | some id =>
      dsimp only
      unfold handleStatusChange
      rw [click_unrouted inert shown newStatus]
      exact ⟨inert, rfl⟩

end Loading

/-- The dashboard of the administrators, in every run of its answers and clicks between the requests
of others: it shows every influencer as suspended, and instead of the subscriptions and of the users
a row for nobody at most; and nothing that is clicked on it changes anything on the server. -/
theorem admin_dashboard_inert (engine : JsEngine) (rt : Runtime) (oidText : Nat → String)
    (storage : LocalStorage) (server : Server) (events : List (PageEvent Act)) :
    let later := events.foldl (OpenPage.step rt (act engine rt oidText)) ⟨.initial, storage, server⟩
    Inert engine later.page ∧ later.server = run rt server (events.filterMap PageEvent.request?) :=
  OpenPage.inert_run (Inert engine) act_inert ⟨List.forall_mem_nil _, .inl rfl, .inl rfl⟩ events

end AdminDashboard

/-! The subscriber's dashboard. -/

namespace SubscriberDashboard

inductive Act where
  /-- The answer to the effect of a render with the user arrives. -/
  | fetched (user : Js)
  | cancel (row : Nat)
  | renew (row : Nat)

section Definitions

variable (engine : JsEngine) (rt : Runtime) (oidText : Nat → String)

/-- The row on the screen, if its button is the one asked for. -/
def button (page : SubscriberDashboard) (row : Nat) (isActive : Bool) : Option ShownSubscription :=
  (page.rendered.bind fun shown => shown.2[row]?).filter fun sub => sub.isActive.truthy = isActive

def withActive (page : SubscriberDashboard) (id : Js) (isActive : Bool) : SubscriberDashboard :=
  { page with
    subscriptions := page.subscriptions.map fun sub =>
      if engine.strictEq sub.id id then { sub with isActive := some (.bool isActive) } else sub }

/-- `handleCancel` and `handleRenew`. -/
def handleActive (visit : OpenPage SubscriberDashboard) (id : Js) (isActive : Bool) (occasion : Occasion) :
    OpenPage SubscriberDashboard :=
  let (data, after) := visit.ask engine rt oidText (SubscriptionApi.update engine id isActive) occasion
  match data with
  | .ok _ => after.show (withActive engine visit.page id isActive)
  | .error _ => after

def act (visit : OpenPage SubscriberDashboard) (a : Act) (occasion : Occasion) : OpenPage SubscriberDashboard :=
  match a with
  | .fetched user =>
      if user.truthy then
        let (data, after) := visit.ask engine rt oidText (some SubscriptionApi.getAll) occasion
        after.show (fetchSubscriberData engine user data visit.page)
      else visit
  | .cancel row =>
      match button visit.page row true with
      | some sub => handleActive engine rt oidText visit sub.id false occasion
      | none => visit
  | .renew row =>
      match button visit.page row false with
      | some sub => handleActive engine rt oidText visit sub.id true occasion
      | none => visit

end Definitions

/-- The page names no subscription that there is. -/
def Nameless (page : SubscriberDashboard) : Prop := ∀ sub ∈ page.subscriptions, sub.id = none

section Acts

variable {engine : JsEngine} {rt : Runtime} {oidText : Nat → String}

theorem fetch_nameless {user : Js} {data : Value} (envelope : Envelope ["total", "subscribers"] data)
    {page : SubscriberDashboard} (nameless : Nameless page) :
    Nameless (fetchSubscriberData engine user (.ok data) page) := by
  unfold fetchSubscriberData
  split_ifs
  · rcases envelope with ⟨text, rfl⟩ | ⟨item, rfl, object, absent⟩
    · exact nameless
    · have listed : Value.null ∉ [item] := fun member => object (List.mem_singleton.mp member).symm
      dsimp only [Except.toOption, Option.bind_some, subscriberDataOf]
      rw [if_neg listed]
      intro sub member
      obtain ⟨shown, kept, rfl⟩ := List.mem_map.mp member
      have only : shown = some item := List.mem_singleton.mp (List.mem_filter.mp kept).1
      rw [only]
      exact absent "id" (by decide)
  · exact nameless

theorem button_nameless {page : SubscriberDashboard} (nameless : Nameless page) {row : Nat}
    {isActive : Bool} {sub : ShownSubscription} (shown : button page row isActive = some sub) :
    sub.id = none := by
  obtain ⟨there, -⟩ := Option.filter_eq_some_iff.mp shown
  obtain ⟨⟨data, subscriptions⟩, rendered, listed⟩ := Option.bind_eq_some_iff.mp there
  have same : subscriptions = page.subscriptions := by
    unfold SubscriberDashboard.rendered at rendered
    split_ifs at rendered
    obtain ⟨_, -, equal⟩ := Option.map_eq_some_iff.mp rendered
    exact (congrArg Prod.snd equal).symm
  exact nameless sub (same ▸ List.mem_of_getElem? listed)

theorem act_nameless (visit : OpenPage SubscriberDashboard) (a : Act) (occasion : Occasion)
    (nameless : Nameless visit.page) :
    Nameless (act engine rt oidText visit a occasion).page ∧
      (act engine rt oidText visit a occasion).server = visit.server := by
  have unrouted : ∀ (sub : ShownSubscription) isActive, sub.id = none →
      handleActive engine rt oidText visit sub.id isActive occasion = visit := by
    intro sub isActive none
    unfold handleActive
    rw [none, update_nobody]
    rfl
  cases a with
  | fetched user =>
    unfold act
    dsimp only
    split_ifs
    · obtain ⟨data, asked, envelope⟩ := @ask_subscriptions engine rt oidText _ visit occasion
      rw [asked]
      exact ⟨fetch_nameless envelope nameless, @ask_list engine rt oidText _ visit occasion _ (by decide)⟩
    · exact ⟨nameless, rfl⟩
  | cancel row =>
    unfold act
    dsimp only
    split
    · next sub shown =>
      rw [unrouted sub false (button_nameless nameless shown)]
      exact ⟨nameless, rfl⟩
    · exact ⟨nameless, rfl⟩
  | renew row =>
    unfold act
    dsimp only
    split
    · next sub shown =>
      rw [unrouted sub true (button_nameless nameless shown)]
      exact ⟨nameless, rfl⟩
    · exact ⟨nameless, rfl⟩

end Acts

/-- The subscriber's dashboard, for whatever users it is rendered and in every run of its answers and
clicks between the requests of others: no row names a subscription that there is, and nothing that
is clicked cancels or renews one. -/
theorem subscriber_dashboard_inert (engine : JsEngine) (rt : Runtime) (oidText : Nat → String)
    (storage : LocalStorage) (server : Server) (events : List (PageEvent Act)) :
    let later := events.foldl (OpenPage.step rt (act engine rt oidText)) ⟨initial, storage, server⟩
    Nameless later.page ∧ later.server = run rt server (events.filterMap PageEvent.request?) := by
  have start : Nameless initial := List.forall_mem_nil _
  exact OpenPage.inert_run Nameless act_nameless start events

end SubscriberDashboard

end UssdCredit
