import UssdCredit.InfluencerSearch
import UssdCredit.StoreIndependence
import UssdCredit.SubscriptionWrites
import UssdCredit.UserPages

/-! An open page of the client, between the requests of others: what the page asks for, and
what the lists of the API are when they come to it. -/

namespace UssdCredit

open Library Program

/-- `adminAPI.getUsers`. -/
def AdminApi.getUsers : ApiRequest := ⟨"/api/admin/users", .listUsers, none⟩

/-- A page that is open, with the storage it shares with other tabs, and the server. -/
structure OpenPage (Page : Type) where
  page : Page
  localStorage : LocalStorage
  server : Server

inductive PageEvent (Act : Type) where
  /-- Something of the page: an answer it has waited for, or what somebody does on it. -/
  | act (act : Act) (occasion : Occasion)
  /-- Another tab has written the storage. -/
  | stored (storage : LocalStorage)
  /-- A request of somebody else. -/
  | other (request : Request)

section Definitions

variable {Page Act : Type} (engine : JsEngine) (rt : Runtime) (oidText : Nat → String)

/-- A request through `api`, if its URL leads to a route: the data it resolves with, or the response
it throws. A 401 ends the session of the browser. -/
def OpenPage.ask (visit : OpenPage Page) (request : Option ApiRequest) (occasion : Occasion) :
    Except Response Value × OpenPage Page :=
  match request with
  | none => (.error notFound, visit)
  | some request =>
      let served := serve rt oidText visit.server (request.sent visit.localStorage occasion)
      let storage :=
        if served.1.status = 401 then visit.localStorage.signOut else visit.localStorage
      (engine.resolved request served.1, ⟨visit.page, storage, served.2⟩)

def OpenPage.show (visit : OpenPage Page) (page : Page) : OpenPage Page := { visit with page }

def PageEvent.request? : PageEvent Act → Option Request
  | .other request => some request
  | _ => none

def OpenPage.step (act : OpenPage Page → Act → Occasion → OpenPage Page) (visit : OpenPage Page) :
    PageEvent Act → OpenPage Page
  | .act a occasion => act visit a occasion
  | .stored storage => { visit with localStorage := storage }
  | .other request => { visit with server := UssdCredit.step rt visit.server request }

/-- `${id}`. -/
def idText : Js → String
  | none => "undefined"
  | some id => engine.text (some id)

/-- A part of a URL that the routes read as a number. -/
def intSegment (text : String) : Option Nat :=
  if text ≠ "" ∧ text.toList.all Char.isDigit then some (Nat.ofDigitChars 10 text.toList 0) else none

end Definitions

/-! A page that changes nothing on the server leaves it to the others. -/

theorem OpenPage.inert_run {Page Act : Type} {rt : Runtime}
    {act : OpenPage Page → Act → Occasion → OpenPage Page} (invariant : Page → Prop)
    (inert : ∀ visit a occasion, invariant visit.page →
      invariant (act visit a occasion).page ∧ (act visit a occasion).server = visit.server)
    {visit : OpenPage Page} (start : invariant visit.page) (events : List (PageEvent Act)) :
    let later := events.foldl (OpenPage.step rt act) visit
    invariant later.page ∧ later.server = run rt visit.server (events.filterMap PageEvent.request?) := by
  have keeps : ∀ (visit : OpenPage Page) event, invariant visit.page →
      invariant (OpenPage.step rt act visit event).page := by
    intro visit event holds
    cases event with
    | act a occasion => exact (inert visit a occasion holds).1
    | stored storage => exact holds
    | other request => exact holds
  refine ⟨run_invariant (fun visit : OpenPage Page => invariant visit.page) keeps start events, ?_⟩
  refine @run_filterMap _ _ _ _ _ OpenPage.server (UssdCredit.step rt) PageEvent.request?
    (fun visit => invariant visit.page) keeps ?_ _ start events
  intro visit event holds
  cases event with
  | act a occasion => exact (inert visit a occasion holds).2
  | stored storage => rfl
  | other request => rfl

/-! The lists. -/

section Lists

variable {engine : JsEngine} {rt : Runtime} {oidText : Nat → String} {Page : Type} {visit : OpenPage Page}
  {occasion : Occasion}

/-- A list is answered from the stores and changes none. -/
theorem step_list {endpoint : Endpoint}
    (lists : endpoint ∈ [.listSimpleInfluencers, .listSimpleSubscribers, .listUsers]) (s : Server) (req : Http) :
    step rt s ⟨endpoint, req⟩ = s := by
  simp only [List.mem_cons, List.not_mem_nil, or_false] at lists
  obtain rfl | rfl | rfl := lists
  · rfl
  · rfl
  · refine Server.eq_of_agree ?_ ?_ ?_
    · exact step_reads rfl
    · exact @step_other rt s ⟨.listUsers, req⟩ .influencers Store.noConfusion
    · exact @step_other rt s ⟨.listUsers, req⟩ .subscriptions Store.noConfusion

theorem ask_list {request : ApiRequest}
    (lists : request.endpoint ∈ [.listSimpleInfluencers, .listSimpleSubscribers, .listUsers]) :
    (visit.ask engine rt oidText (some request) occasion).2.server = visit.server := by
  have plain : ∀ endpoint ∈ [Endpoint.listSimpleInfluencers, .listSimpleSubscribers, .listUsers],
      endpoint ≠ .getProfile := by decide
  have served : (serve rt oidText visit.server (request.sent visit.localStorage occasion)).2 =
      step rt visit.server (request.sent visit.localStorage occasion) := by
    unfold serve
    split
    · next profile => exact absurd profile (plain _ lists)
    · rfl
  exact served.trans (step_list lists visit.server _)

/-- An object of the API comes in an array, and a body that does not parse is a text. -/
theorem intercept_received {url : String} (api : "/api/".toList <:+: url.toList) (entries : Fields) :
    intercept url (engine.received ((Value.dict entries).mapScalar jsonScalar)) =
        .list [((Value.dict entries).mapScalar jsonScalar).mapScalar engine.number] ∨
      ∃ text, intercept url (engine.received ((Value.dict entries).mapScalar jsonScalar)) = .str text := by
  by_cases parses : ((Value.dict entries).mapScalar jsonScalar).standard = true
  · left
    rw [JsEngine.received, if_pos parses]
    exact intercept_object api _
  · right
    rw [JsEngine.received, if_neg parses]
    exact ⟨_, rfl⟩

/-- The object has the properties it was sent with and no others. -/
theorem property_object {entries : Fields} {name : String} (absent : name ∉ entries.map Prod.fst) :
    Js.property (some (((Value.dict entries).mapScalar jsonScalar).mapScalar engine.number)) name = none := by
  refine @SubscriberDashboard.property_delivered (Value.mapScalarEntries jsonScalar entries) name _ ?_
  rw [Value.lookup_mapScalarEntries, Dict.lookup_eq_none absent, Option.map_none]

theorem api_subscribers : "/api/".toList <:+: SubscriptionApi.getAll.url.toList := by
  simp only [SubscriptionApi.getAll]
  decide +kernel

theorem api_users : "/api/".toList <:+: AdminApi.getUsers.url.toList := by
  simp only [AdminApi.getUsers]
  decide +kernel

/-- What a page reads of data that is no array of records. -/
def Envelope (names : List String) (data : Value) : Prop :=
  (∃ text, data = .str text) ∨
    ∃ item, data = .list [item] ∧ item ≠ .null ∧ ∀ name ∉ names, Js.property (some item) name = none

theorem envelope_received {url : String} (api : "/api/".toList <:+: url.toList) (entries : Fields) :
    Envelope (entries.map Prod.fst)
      (intercept url (engine.received ((Value.dict entries).mapScalar jsonScalar))) := by
  rcases @intercept_received engine url api entries with object | text
  · exact .inr ⟨_, object, Value.noConfusion, fun _ absent => property_object absent⟩
  · exact .inl text

/-- The subscriptions come in an envelope. -/
theorem ask_subscriptions :
    ∃ data, (visit.ask engine rt oidText (some SubscriptionApi.getAll) occasion).1 = .ok data ∧
      Envelope ["total", "subscribers"] data :=
  ⟨_, rfl, envelope_received api_subscribers (SubscriberDashboard.envelope visit.server.subscribersDb)⟩

theorem answer_listUsers {req : Http} (plain : req.args = []) {s : Server}
    (succeeds : (answer rt s ⟨.listUsers, req⟩).succeeds = true) :
    ∃ total users, answer rt s ⟨.listUsers, req⟩ = pageAnswer 1 20 total users := by
  have pageArg : Admin.intArg req "page" 1 = .ok 1 := by
    unfold Admin.intArg Http.arg
    rw [plain]
    rfl
  have perPageArg : Admin.intArg req "per_page" 20 = .ok 20 := by
    unfold Admin.intArg Http.arg
    rw [plain]
    rfl
  have ended : Post exec (Auth.adminRequired rt req fun _ => Admin.listUsers rt req) s
      fun outcome _ => (Outcome.answer outcome).succeeds = true →
        ∃ total users, Outcome.answer outcome = pageAnswer 1 20 total users := by
    refine Auth.post_adminRequired (fun outcome refused succeeds => ?_) fun _ _ _ _ => ?_
    · rw [refused.not_succeeds] at succeeds
      cases succeeds
    · refine post_mono (listUsers_succeeds pageArg perPageArg s) fun outcome _ pages succeeds => ?_
      cases outcome with
      | error e =>
        rw [show (Outcome.answer (.error e)).succeeds = false from e.answer_fails] at succeeds
        cases succeeds
      | ok response =>
        obtain ⟨filter, users, -, -, same⟩ := pages response rfl succeeds
        exact ⟨_, users, same⟩
  exact ended succeeds

/-- The users come in an envelope, where they come. -/
theorem ask_users {data : Value}
    (asked : (visit.ask engine rt oidText (some AdminApi.getUsers) occasion).1 = .ok data) :
    Envelope ["message", "users", "pagination"] data := by
  let request := AdminApi.getUsers.sent visit.localStorage occasion
  have resolved : engine.resolved AdminApi.getUsers (answer rt visit.server request) = .ok data := asked
  rw [JsEngine.resolved] at resolved
  split_ifs at resolved with succeeds
  · obtain ⟨total, users, page⟩ := @answer_listUsers rt request.http rfl visit.server succeeds
    have same : answer rt visit.server request = pageAnswer 1 20 total users := page
    rw [same] at resolved
    rw [← Except.ok.inj resolved]
    exact envelope_received api_users [("message", .str "Users retrieved successfully"),
      ("users", .list users), ("pagination", .dict [("page", .int 1), ("per_page", .int 20),
        ("total", .int total), ("pages", .int (Int.fdiv (total + 20 - 1) 20))])]

/-- `undefined` is no number. -/
theorem intSegment_undefined (engine : JsEngine) : intSegment (idText engine none) = none := by
  have text : idText engine none = "undefined" := rfl
  rw [text]
  decide

end Lists

end UssdCredit
