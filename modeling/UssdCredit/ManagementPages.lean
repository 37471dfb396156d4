import UssdCredit.ClientForms
import UssdCredit.Dashboards
import UssdCredit.InfluencerTable

/-! The pages on which administrators manage users and influencers, on the deployed server: what can
be on the screen, and what its buttons and forms do. -/

namespace UssdCredit

open Library Program

/-- `{ ...v, name: value }`, of an object. -/
def Value.spread (name : String) (value : Value) : Value → Value
  | .dict entries => .dict (Dict.set name value entries)
  | v => v

/-! The users. -/

namespace AdminUserManagement

structure Page where
  users : Js
  isLoading : Bool
  searchTerm : String
  filterType : String
  message : Option PageMessage

def Page.initial : Page := ⟨some (.list []), true, "", "all", none⟩

inductive Act where
  | fetched
  | search (term : String)
  | filter (userType : String)
  | toggle (row : Nat)
  | changeType (row : Nat) (newType : String)

section Definitions

variable (engine : JsEngine) (toLowerCase : String → String) (rt : Runtime) (oidText : Nat → String)

/-- `v.toLowerCase().includes(term.toLowerCase())`, or `none` where it throws. -/
def includesLower (v : Js) (term : String) : Option Bool :=
  match v with
  | some (.str text) => some (decide ((toLowerCase term).toList <:+: (toLowerCase text).toList))
  | _ => none

/-- The names are asked for only as long as the term is not found. -/
def matchesSearch (page : Page) (user : Js) : Option Bool :=
  match includesLower toLowerCase (user.property "email") page.searchTerm with
  | some false =>
      match includesLower toLowerCase (user.property "first_name") page.searchTerm with
      | some false => includesLower toLowerCase (user.property "last_name") page.searchTerm
      | included => included
  | included => included

def matchesFilter (page : Page) (user : Js) : Bool :=
  page.filterType = "all" || engine.strictEq (user.property "user_type") (some (.str page.filterType))

/-- `none` where the page throws. -/
def filteredUsers (page : Page) : Option (List Value) :=
  match page.users with
  | some (.list items) =>
      Filters.filterPartial (fun user =>
        (matchesSearch toLowerCase page (some user)).map fun found =>
          found && matchesFilter engine page (some user)) items
  | _ => none

/-- The rows on the screen. -/
def rows (page : Page) : List Value :=
  if page.isLoading then [] else (filteredUsers engine toLowerCase page).getD []

def fetchUsers (page : Page) (response : Except Response Value) : Page :=
  match response with
  | .ok data => { page with users := some data, isLoading := false }
  | .error _ => { page with
      isLoading := false
      message := some (.error (some (.str "Failed to fetch users. Please try again."))) }

/-- The users with the id, and what becomes of them. -/
def Page.mapUser (page : Page) (userId : Js) (change : Value → Value) : Page :=
  match page.users with
  | some (.list items) => { page with
      users := some (.list (items.map fun u =>
        if engine.strictEq (Js.property (some u) "id") userId then change u else u)) }
  | _ => page

def Page.findUser (page : Page) (userId : Js) : Option Value :=
  match page.users with
  | some (.list items) => items.find? fun u => engine.strictEq (Js.property (some u) "id") userId
  | _ => none

/-- There is no route to deactivate a user. -/
def statusRequest (user : Value) (userId : Js) : Option ApiRequest :=
  if (Js.property (some user) "is_active").truthy then none
  else (intSegment (idText engine userId)).map fun id =>
    ⟨"/api/admin/users/" ++ idText engine userId ++ "/activate", .activateUser id, none⟩

def toggled (user : Value) : Value :=
  user.spread "is_active" (.bool (!(Js.property (some user) "is_active").truthy))

def handleUserStatusToggle (visit : OpenPage Page) (userId : Js) (occasion : Occasion) : OpenPage Page :=
  match visit.page.findUser engine userId with
  | none => visit
  | some user =>
      let (data, after) := visit.ask engine rt oidText (statusRequest engine user userId) occasion
      after.show <| match data with
        | .ok _ => { visit.page.mapUser engine userId toggled with
            message := some (.success "User status updated successfully!") }
        | .error _ => { visit.page with
            message := some (.error (some (.str "Failed to update user status. Please try again."))) }

def updateRequest (userId : Js) (newType : String) : Option ApiRequest :=
  (intSegment (idText engine userId)).map fun id =>
    ⟨"/api/admin/users/" ++ idText engine userId, .updateUser id,
      some ⟨.dict [("user_type", .str newType)], rfl⟩⟩

def handleUserTypeChange (visit : OpenPage Page) (userId : Js) (newType : String) (occasion : Occasion) :
    OpenPage Page :=
  let (data, after) := visit.ask engine rt oidText (updateRequest engine userId newType) occasion
  after.show <| match data with
    | .ok _ => { visit.page.mapUser engine userId (Value.spread "user_type" (.str newType)) with
        message := some (.success "User type updated successfully!") }
    | .error _ => { visit.page with
        message := some (.error (some (.str "Failed to update user type. Please try again."))) }

def act (visit : OpenPage Page) (a : Act) (occasion : Occasion) : OpenPage Page :=
  match a with
  | .fetched =>
      if visit.page.isLoading then
        let (data, after) := visit.ask engine rt oidText (some AdminApi.getUsers) occasion
        after.show (fetchUsers visit.page data)
      else visit
  | .search searchTerm => visit.show { visit.page with searchTerm }
  | .filter filterType => visit.show { visit.page with filterType }
  | .toggle row =>
      match (rows engine toLowerCase visit.page)[row]? with
      | some user =>
          handleUserStatusToggle engine rt oidText visit (Js.property (some user) "id") occasion
      | none => visit
  | .changeType row newType =>
      match (rows engine toLowerCase visit.page)[row]? with
      | some user =>
          let userId := Js.property (some user) "id"
          -- The list of the user with the id 1 is disabled.
          if engine.strictEq userId (some (.int 1)) then visit
          else handleUserTypeChange engine rt oidText visit userId newType occasion
      | none => visit

end Definitions

/-- The list of the page is empty, or one the page cannot filter. -/
def Unlisted (page : Page) : Prop :=
  page.users = some (.list []) ∨
    ∃ data, page.users = some data ∧ Envelope ["message", "users", "pagination"] data

/-- The page has no users and reports no success. -/
structure Inert (page : Page) : Prop where
  unlisted : Unlisted page
  failures : ∀ text, page.message ≠ some (.success text)

section Acts

variable {engine : JsEngine} {toLowerCase : String → String} {rt : Runtime} {oidText : Nat → String}

theorem Unlisted.rows {page : Page} (unlisted : Unlisted page) : rows engine toLowerCase page = [] := by
  have filtered : (filteredUsers engine toLowerCase page).getD [] = [] := by
    unfold filteredUsers
    rcases unlisted with empty | ⟨data, listed, ⟨text, rfl⟩ | ⟨item, rfl, -, absent⟩⟩
    · rw [empty]
      rfl
    · rw [listed]
      rfl
    · have thrown : matchesSearch toLowerCase page (some item) = none := by
        unfold matchesSearch
        rw [absent "email" (by decide)]
        rfl
      rw [listed]
      dsimp only
      rw [Filters.filterPartial, thrown]
      rfl
  unfold AdminUserManagement.rows
  rw [filtered, ite_self]

theorem act_inert (visit : OpenPage Page) (a : Act) (occasion : Occasion) (inert : Inert visit.page) :
    Inert (act engine toLowerCase rt oidText visit a occasion).page ∧
      (act engine toLowerCase rt oidText visit a occasion).server = visit.server := by
  have empty : rows engine toLowerCase visit.page = [] := inert.unlisted.rows
  cases a with
  | fetched =>
    unfold act OpenPage.show fetchUsers
    dsimp only
    split_ifs
    · refine ⟨?_, @ask_list engine rt oidText _ visit occasion _ (by decide)⟩
      dsimp only
      split
      · next data asked => exact ⟨.inr ⟨data, rfl, ask_users asked⟩, inert.failures⟩
      · refine ⟨inert.unlisted, fun text reported => ?_⟩
        cases reported
    · exact ⟨inert, rfl⟩
  | search term => exact ⟨⟨inert.unlisted, inert.failures⟩, rfl⟩
  | filter userType => exact ⟨⟨inert.unlisted, inert.failures⟩, rfl⟩
  | toggle row =>
    unfold act
    dsimp only
    rw [empty]
    exact ⟨inert, rfl⟩
  | changeType row newType =>
    unfold act
    dsimp only
    rw [empty]
    exact ⟨inert, rfl⟩

end Acts

/-- The user management, in every run of its answers, searches and clicks between the requests of
others: no user is ever on the screen, no success is reported, and nothing changes on the server. -/
theorem user_management_inert (engine : JsEngine) (toLowerCase : String → String) (rt : Runtime)
    (oidText : Nat → String) (storage : LocalStorage) (server : Server)
    (events : List (PageEvent Act)) :
    let later := events.foldl (OpenPage.step rt (act engine toLowerCase rt oidText))
      ⟨.initial, storage, server⟩
    rows engine toLowerCase later.page = [] ∧ (∀ text, later.page.message ≠ some (.success text)) ∧
      later.server = run rt server (events.filterMap PageEvent.request?) := by
  intro later
  have start : Inert Page.initial := ⟨.inl rfl, fun _ reported => by cases reported⟩
  obtain ⟨inert, server⟩ := @OpenPage.inert_run Page Act rt _ Inert (@act_inert engine toLowerCase rt oidText)
    ⟨.initial, storage, server⟩ start events
  exact ⟨inert.unlisted.rows, inert.failures, server⟩

end AdminUserManagement

/-! The influencers. -/

namespace InfluencerApi

def createData (form : CreateInfluencerForm) : Fields := [
  ("name", .str form.name),
  ("phone", .str form.phone),
  ("ussd_shortcode", .str form.ussdShortcode),
  ("imageUrl", .str form.imageUrl)]

theorem createData_isJson (form : CreateInfluencerForm) : (Value.dict (createData form)).isJson = true := rfl

def create (form : CreateInfluencerForm) : ApiRequest :=
  ⟨"/api/influencers", .createInfluencer, some ⟨.dict (createData form), createData_isJson form⟩⟩

/-- `update`, `delete`, `suspend`, `activate` and `terminate`: the deployed server has no route for a
single influencer. -/
def single (_id : Js) : Option ApiRequest := none

end InfluencerApi

namespace AdminInfluencerManagement

inductive FormField where
  | name
  | phone
  | ussdShortcode
  | imageUrl

def FormField.key : FormField → String
  | .name => "name"
  | .phone => "phone"
  | .ussdShortcode => "ussd_shortcode"
  | .imageUrl => "imageUrl"

def FormField.write (form : CreateInfluencerForm) (text : String) : FormField → CreateInfluencerForm
  | .name => { form with name := text }
  | .phone => { form with phone := text }
  | .ussdShortcode => { form with ussdShortcode := text }
  | .imageUrl => { form with imageUrl := text }

def emptyForm : CreateInfluencerForm := ⟨"", "", "", ""⟩

structure Page where
  influencers : Js
  isLoading : Bool
  searchTerm : String
  filterStatus : String
  message : Option PageMessage
  showCreateForm : Bool
  editingInfluencer : Option Value
  createForm : CreateInfluencerForm

def Page.initial : Page := ⟨some (.list []), true, "", "all", none, false, none, emptyForm⟩

inductive Act where
  | fetched
  | search (term : String)
  | filter (status : String)
  | dismiss
  | showForm
  | cancelForm
  | input (field : FormField) (text : String)
  | submit
  | edit (row : Nat)
  /-- The deletion of a row, confirmed. -/
  | delete (row : Nat)
  | changeStatus (row : Nat) (action : StatusAction)

section Definitions

variable (engine : JsEngine) (toLowerCase : String → String) (rt : Runtime) (oidText : Nat → String)

/-- The rows on the screen; `none` where the page throws. A row asks for the text of what has been
received. -/
def rendered (page : Page) : Option (List Value) :=
  (filteredInfluencers engine toLowerCase page.searchTerm page.filterStatus page.influencers).bind fun rows =>
    if page.isLoading then some []
    else if rows.all fun inf => Js.property (some inf) "received" ∉ [none, some .null] then some rows
    else none

def Page.fails (page : Page) (text : Js) : Page := { page with message := some (.error text) }

def Page.reports (page : Page) (text : String) : Page := { page with message := some (.success text) }

/-- The list the page keeps, where it is one. -/
def Page.items (page : Page) : List Value :=
  match page.influencers with
  | some (.list items) => items
  | _ => []

def described (response : Response) (text : String) : Js :=
  (Js.property (some response.body) "description").or (some (.str text))

def handleCreateInfluencer (visit : OpenPage Page) (occasion : Occasion) : OpenPage Page :=
  let page := visit.page
  if page.createForm.name = "" || page.createForm.ussdShortcode = "" then
    visit.show (page.fails (some (.str "Name and USSD shortcode are required!")))
  else
    let (data, after) := visit.ask engine rt oidText (some (InfluencerApi.create page.createForm)) occasion
    after.show <| match data with
      | .ok data => { page.reports "Influencer created successfully!" with
          influencers := some (.list (page.items ++ [data]))
          createForm := emptyForm
          showCreateForm := false }
      | .error response =>
          page.fails (described response "Failed to create influencer. Please try again.")

def handleUpdateInfluencer (visit : OpenPage Page) (editing : Value) (occasion : Occasion) : OpenPage Page :=
  let page := visit.page
  let id := Js.property (some editing) "id"
  let (data, after) := visit.ask engine rt oidText (InfluencerApi.single id) occasion
  after.show <| match data with
    | .ok data => { page.reports "Influencer updated successfully!" with
        influencers := some (.list (page.items.map fun inf =>
          if engine.strictEq (Js.property (some inf) "id") id then data else inf))
        editingInfluencer := none }
    | .error response => page.fails (described response "Failed to update influencer. Please try again.")

def handleDeleteInfluencer (visit : OpenPage Page) (id : Js) (occasion : Occasion) : OpenPage Page :=
  let page := visit.page
  let (data, after) := visit.ask engine rt oidText (InfluencerApi.single id) occasion
  after.show <| match data with
    | .ok _ => { page.reports "Influencer deleted successfully!" with
        influencers := some (.list (page.items.filter fun inf =>
          !engine.strictEq (Js.property (some inf) "id") id)) }
    | .error _ => page.fails (some (.str "Failed to delete influencer. Please try again."))

def handleStatusChange (visit : OpenPage Page) (id : Js) (action : StatusAction) (occasion : Occasion) :
    OpenPage Page :=
  let page := visit.page
  let (data, after) := visit.ask engine rt oidText (InfluencerApi.single id) occasion
  after.show <| match data with
    | .ok _ => { page.reports ("Influencer " ++ action.name ++ "d successfully!") with
        influencers := some (.list (page.items.map fun inf =>
          if engine.strictEq (Js.property (some inf) "id") id then
            inf.spread "status" (.str action.written)
          else inf)) }
    | .error _ =>
        page.fails (some (.str ("Failed to " ++ action.name ++ " influencer. Please try again.")))

/-- The button for the action stands in the row. -/
def offers (inf : Value) (action : StatusAction) : Bool :=
  let hasStatus (status : String) : Bool :=
    engine.strictEq (Js.property (some inf) "status") (some (.str status))
  match action with
  | .suspend => hasStatus "active"
  | .activate => hasStatus "suspended"
  | .terminate => !hasStatus "terminated"

def Page.input (page : Page) (field : FormField) (text : String) : Page :=
  match page.editingInfluencer with
  | some editing => { page with editingInfluencer := some (editing.spread field.key (.str text)) }
  | none => { page with createForm := field.write page.createForm text }

/-- What is done on the page as it is on the screen. -/
def actOn (visit : OpenPage Page) (rows : List Value) (a : Act) (occasion : Occasion) : OpenPage Page :=
  let page := visit.page
  match a with
  | .fetched =>
      if page.isLoading then
        let (data, after) := visit.ask engine rt oidText (some InfluencerApi.getAll) occasion
        after.show <| match data with
          | .ok _ => { page with influencers := fetchInfluencers data, isLoading := false }
          | .error _ => { page.fails (some (.str "Failed to fetch influencers. Please try again.")) with
              isLoading := false }
      else visit
  | .search searchTerm => visit.show { page with searchTerm }
  | .filter filterStatus => visit.show { page with filterStatus }
  | .dismiss => visit.show { page with message := none }
  | .showForm => visit.show { page with showCreateForm := true }
  | .cancelForm => visit.show { page with
      showCreateForm := false
      editingInfluencer := none
      createForm := emptyForm }
  | .input field text => visit.show (page.input field text)
  | .submit =>
      match page.editingInfluencer with
      | some editing => handleUpdateInfluencer engine rt oidText visit editing occasion
      | none =>
          if page.showCreateForm then handleCreateInfluencer engine rt oidText visit occasion else visit
  | .edit row => visit.show { page with editingInfluencer := rows[row]?.or page.editingInfluencer }
  | .delete row =>
      match rows[row]? with
      | some inf =>
          handleDeleteInfluencer engine rt oidText visit (Js.property (some inf) "id") occasion
      | none => visit
  | .changeStatus row action =>
      match rows[row]?.filter fun inf => offers engine inf action with
      | some inf =>
          handleStatusChange engine rt oidText visit (Js.property (some inf) "id") action occasion
      | none => visit

/-- A page that has thrown is gone. -/
def act (visit : OpenPage Page) (a : Act) (occasion : Occasion) : OpenPage Page :=
  match rendered engine toLowerCase visit.page with
  | some rows => actOn engine rt oidText visit rows a occasion
  | none => visit

end Definitions

/-! A creation is answered with an object that is stored nowhere, and comes as an array. -/

section Acts

variable {engine : JsEngine} {toLowerCase : String → String} {rt : Runtime} {oidText : Nat → String}
  {visit : OpenPage Page} {occasion : Occasion}

theorem ask_create (form : CreateInfluencerForm) :
    (∃ created, (visit.ask engine rt oidText (some (InfluencerApi.create form)) occasion).1 =
      .ok (.list [created])) ∧
      (visit.ask engine rt oidText (some (InfluencerApi.create form)) occasion).2.server = visit.server := by
  have api : "/api/".toList <:+: (InfluencerApi.create form).url.toList := by
    simp only [InfluencerApi.create]
    decide +kernel
  let entries : Fields := [("id", .int 999), ("name", .str form.name), ("phone", .str form.phone),
    ("received", .int 0), ("imageUrl", .str form.imageUrl)]
  have resolved : (visit.ask engine rt oidText (some (InfluencerApi.create form)) occasion).1 =
      .ok (intercept (InfluencerApi.create form).url
        (engine.received ((Value.dict entries).mapScalar jsonScalar))) := rfl
  have parses : ((Value.dict entries).mapScalar jsonScalar).standard = true := rfl
  refine ⟨⟨((Value.dict entries).mapScalar jsonScalar).mapScalar engine.number, ?_⟩, rfl⟩
  rw [resolved, JsEngine.received, if_pos parses]
  exact congrArg Except.ok (intercept_object api _)

/-- There is an array among the records. -/
def Broken (page : Page) : Prop :=
  ∃ items records, page.influencers = some (.list items) ∧ Value.list records ∈ items

theorem Broken.unrendered {page : Page} (broken : Broken page) : rendered engine toLowerCase page = none := by
  obtain ⟨items, records, listed, member⟩ := broken
  have thrown : filteredInfluencers engine toLowerCase page.searchTerm page.filterStatus page.influencers =
      none := by
    rw [listed]
    by_contra kept
    obtain ⟨rows, filtered⟩ := Option.ne_none_iff_exists'.mp kept
    have tested := Filters.isSome_of_filterPartial filtered _ member
    cases tested
  rw [rendered, thrown]
  rfl

/-- The list is one of those it may be, and no success has been reported, or the page has thrown. -/
def Shows (listed : Js → Prop) (page : Page) : Prop :=
  (listed page.influencers ∧ ∀ text, page.message ≠ some (.success text)) ∨ Broken page

theorem handleCreateInfluencer_shows {listed : Js → Prop} (may : listed visit.page.influencers) :
    Shows listed (handleCreateInfluencer engine rt oidText visit occasion).page ∧
      (handleCreateInfluencer engine rt oidText visit occasion).server = visit.server := by
  unfold handleCreateInfluencer
  dsimp only
  split_ifs
  · refine ⟨.inl ⟨may, fun text reported => ?_⟩, rfl⟩
    cases reported
  · obtain ⟨⟨created, asked⟩, server⟩ :=
      @ask_create engine rt oidText visit occasion visit.page.createForm
    refine ⟨.inr ?_, server⟩
    rw [asked]
    exact ⟨_, [created], rfl, List.mem_append_right _ (List.mem_singleton_self _)⟩

theorem act_shows {listed : Js → Prop}
    (fetches : listed (fetchInfluencers (visit.ask engine rt oidText (some InfluencerApi.getAll) occasion).1))
    (shows : Shows listed visit.page) (a : Act) :
    Shows listed (act engine toLowerCase rt oidText visit a occasion).page ∧
      (act engine toLowerCase rt oidText visit a occasion).server = visit.server := by
  unfold act
  cases onScreen : rendered engine toLowerCase visit.page with
  | none => exact ⟨shows, rfl⟩
  | some rows =>
    rcases shows with ⟨may, failures⟩ | broken
    · have failed : ∀ text, Shows listed (visit.page.fails text) := by
        refine fun _ => .inl ⟨may, fun text reported => ?_⟩
        cases reported
      cases a with
      | fetched =>
        unfold actOn
        dsimp only
        split_ifs
        · exact ⟨.inl ⟨fetches, failures⟩, rfl⟩
        · exact ⟨.inl ⟨may, failures⟩, rfl⟩
      | dismiss =>
        refine ⟨.inl ⟨may, fun text reported => ?_⟩, rfl⟩
        cases reported
      | input field text =>
        refine ⟨.inl ?_, rfl⟩
        unfold actOn OpenPage.show Page.input
        dsimp only
        split <;> exact ⟨may, failures⟩
      | submit =>
        unfold actOn
        dsimp only
        split
        · exact ⟨failed _, rfl⟩
        · split_ifs
          · exact handleCreateInfluencer_shows may
          · exact ⟨.inl ⟨may, failures⟩, rfl⟩
      | delete row =>
        unfold actOn
        dsimp only
        split
        · exact ⟨failed _, rfl⟩
        · exact ⟨.inl ⟨may, failures⟩, rfl⟩
      | changeStatus row action =>
        unfold actOn
        dsimp only
        split
        · exact ⟨failed _, rfl⟩
        · exact ⟨.inl ⟨may, failures⟩, rfl⟩
      | search _ | filter _ | showForm | cancelForm | edit _ => exact ⟨.inl ⟨may, failures⟩, rfl⟩
    · rw [broken.unrendered] at onScreen
      cases onScreen

/-- The records as they come to the page, or a text. -/
theorem fetchInfluencers_ask :
    let fetched := fetchInfluencers (visit.ask engine rt oidText (some InfluencerApi.getAll) occasion).1
    fetched = some (.list (visit.server.influencersDb.map (delivered engine))) ∨
      fetched = some (.list []) ∨ ∃ text, fetched = some (.str text) := by
  intro fetched
  by_cases standard : ∀ record ∈ visit.server.influencersDb, record.toJson.standard = true
  · exact .inl (@loaded_standard engine rt oidText visit.server visit.localStorage occasion standard)
  · right
    have stays : ¬((Value.list (visit.server.influencersDb.map Influencer.toJson)).mapScalar
        jsonScalar).standard = true := by
      rw [Value.standard_jsonScalar, standard_influencers]
      exact standard
    have text : fetched = Js.or (some (intercept "/api/influencers" (engine.received
        ((Value.list (visit.server.influencersDb.map Influencer.toJson)).mapScalar jsonScalar))))
          (some (.list [])) := rfl
    rw [text, JsEngine.received, if_neg stays]
    unfold Js.or
    split_ifs
    · exact .inr ⟨_, rfl⟩
    · exact .inl rfl

end Acts

/-- A list of the page after the requests of others: none, that of the server before some of them, or
a text that it cannot filter. -/
def ListedAfter (engine : JsEngine) (rt : Runtime) (server : Server) (requests : List Request) (v : Js) : Prop :=
  v = some (.list []) ∨ (∃ text, v = some (.str text)) ∨
    ∃ before, before <+: requests ∧
      v = some (.list ((run rt server before).influencersDb.map (delivered engine)))

/-- A fetch gives such a list. -/
theorem listedAfter_fetch {engine : JsEngine} {rt : Runtime} {oidText : Nat → String} {server : Server}
    {requests : List Request} {visit : OpenPage Page} (reached : visit.server = run rt server requests)
    (occasion : Occasion) :
    ListedAfter engine rt server requests
      (fetchInfluencers (visit.ask engine rt oidText (some InfluencerApi.getAll) occasion).1) := by
  rcases @fetchInfluencers_ask engine rt oidText visit occasion with records | empty | text
  · refine .inr (.inr ⟨requests, List.prefix_rfl, ?_⟩)
    rw [← reached]
    exact records
  · exact .inl empty
  · exact .inr (.inl text)

theorem ListedAfter.mono {engine : JsEngine} {rt : Runtime} {server : Server} {requests later : List Request}
    {v : Js} (listed : ListedAfter engine rt server requests v) (longer : requests <+: later) :
    ListedAfter engine rt server later v := by
  rcases listed with empty | text | ⟨before, earlier, same⟩
  · exact .inl empty
  · exact .inr (.inl text)
  · exact .inr (.inr ⟨before, earlier.trans longer, same⟩)

theorem Shows.mono {listed listed' : Js → Prop} {page : Page} (shows : Shows listed page)
    (implies : ∀ v, listed v → listed' v) : Shows listed' page :=
  shows.imp (fun ⟨may, failures⟩ => ⟨implies _ may, failures⟩) id

theorem run_shows (engine : JsEngine) (toLowerCase : String → String) (rt : Runtime)
    (oidText : Nat → String) (storage : LocalStorage) (server : Server)
    (events : List (PageEvent Act)) :
    let later := events.foldl (OpenPage.step rt (act engine toLowerCase rt oidText))
      ⟨.initial, storage, server⟩
    let requests := events.filterMap PageEvent.request?
    later.server = run rt server requests ∧ Shows (ListedAfter engine rt server requests) later.page := by
  induction events using List.reverseRecOn with
  | nil => exact ⟨rfl, .inl ⟨.inl rfl, fun _ reported => by cases reported⟩⟩
  | append_singleton events event ih =>
    obtain ⟨same, shows⟩ := ih
    dsimp only
    rw [List.foldl_append, List.filterMap_append]
    generalize events.foldl (OpenPage.step rt (act engine toLowerCase rt oidText))
      ⟨.initial, storage, server⟩ = visit at same shows
    cases event with
    | act a occasion =>
      have after := @act_shows engine toLowerCase rt oidText visit occasion _
        (listedAfter_fetch same occasion) shows a
      rw [List.filterMap_cons_none rfl, List.filterMap_nil, List.append_nil]
      exact ⟨after.2.trans same, after.1⟩
    | stored storage =>
      rw [List.filterMap_cons_none rfl, List.filterMap_nil, List.append_nil]
      exact ⟨same, shows⟩
    | other request =>
      have last : [(PageEvent.other request : PageEvent Act)].filterMap PageEvent.request? = [request] := rfl
      refine ⟨?_, shows.mono fun _ listed => listed.mono (List.prefix_append _ _)⟩
      rw [last, run, List.foldl_append]
      exact congrArg (fun s => step rt s request) same

/-- The influencer management, in every run of its answers, searches, forms and clicks between the
requests of others: nothing it does changes anything on the server, and as long as it is on the
screen it has reported no success, and its list is that of the server at some earlier moment. -/
theorem influencer_management_inert (engine : JsEngine) (toLowerCase : String → String) (rt : Runtime)
    (oidText : Nat → String) (storage : LocalStorage) (server : Server)
    (events : List (PageEvent Act)) :
    let later := events.foldl (OpenPage.step rt (act engine toLowerCase rt oidText))
      ⟨.initial, storage, server⟩
    let requests := events.filterMap PageEvent.request?
    later.server = run rt server requests ∧
      ∀ rows, rendered engine toLowerCase later.page = some rows →
        (∀ text, later.page.message ≠ some (.success text)) ∧
        (later.page.influencers = some (.list []) ∨ ∃ before, before <+: requests ∧
          later.page.influencers =
            some (.list ((run rt server before).influencersDb.map (delivered engine)))) := by
  intro later requests
  obtain ⟨same, shows⟩ : later.server = run rt server requests ∧
      Shows (ListedAfter engine rt server requests) later.page :=
    run_shows engine toLowerCase rt oidText storage server events
  refine ⟨same, fun rows onScreen => ?_⟩
  rcases shows with ⟨empty | ⟨text, listed⟩ | earlier, failures⟩ | broken
  · exact ⟨failures, .inl empty⟩
  · rw [rendered, listed] at onScreen
    cases onScreen
  · exact ⟨failures, .inr earlier⟩
  · rw [broken.unrendered] at onScreen
    cases onScreen

end AdminInfluencerManagement

end UssdCredit
