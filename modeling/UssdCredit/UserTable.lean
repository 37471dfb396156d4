import UssdCredit.Library.Fetching
import UssdCredit.Numerals
import UssdCredit.SubscriberDashboard
import UssdCredit.UserPages

/-! The user table of the dashboard: its page, search text and type filter, the fetch that every
change of them launches, and the users on the screen. The view of the server is taken behind its
guard, for the administrator whom the dashboard is shown to. -/

namespace UssdCredit

open Library FetchingView

structure UserQuery where
  currentPage : Int
  searchTerm : String
  userTypeFilter : String
  deriving DecidableEq

/-- `users` is `none` once it has been set to `undefined`, and then cannot be drawn. -/
structure UserScreen where
  users : Option (List Value)
  totalPages : Int
  isLoading : Bool
  error : Option String

/-- `response.data.users` and `response.data.pagination.pages`. -/
structure UserListing where
  users : List Value
  totalPages : Int
  deriving DecidableEq

/-- The data of a response that succeeds: a body that does not parse stays a text, which has no
`users`. -/
inductive FetchedUsers where
  | listed (listing : UserListing)
  | undefined
  deriving DecidableEq

def readListing : Value → Option UserListing
  | .dict data =>
      match data.lookup "users", data.lookup "pagination" with
      | some (.list users), some (.dict pagination) =>
          match pagination.lookup "pages" with
          | some (.int pages) => some ⟨users, pages⟩
          | _ => none
      | _, _ => none
  | _ => none

namespace UserTable

/-- The parameters of `fetchUsers`, with those that are empty left out. -/
def params (query : UserQuery) : List (String × String) :=
  [("page", toString query.currentPage), ("per_page", "20")] ++
    (if query.searchTerm = "" then [] else [("search", query.searchTerm)]) ++
    (if query.userTypeFilter = "" then [] else [("user_type", query.userTypeFilter)])

def request (query : UserQuery) : Http where
  authorization := none
  body := none
  args := params query
  now := 0
  salt := 0
  oid := 0

def received (body : Value) : FetchedUsers :=
  match if body.standard then readListing body else none with
  | some listing => .listed listing
  | none => .undefined

/-- What a fetch for a query brings, or nothing when it fails. -/
def fetchUsers (rt : Runtime) (server : Server) (query : UserQuery) : Option FetchedUsers :=
  let response := ((Admin.listUsers rt (request query)).serve server).1.answer
  if response.succeeds then some (received response.body) else none

/-- `setUsers`, then `setTotalPages`, where reading the pages of no `pagination` throws. -/
def absorb (screen : UserScreen) : Option FetchedUsers → UserScreen
  | some (.listed listing) =>
      { screen with
        users := some listing.users
        totalPages := listing.totalPages
        isLoading := false }
  | some .undefined =>
      { screen with users := none, error := some "Failed to fetch users", isLoading := false }
  | none => { screen with error := some "Failed to fetch users", isLoading := false }

inductive TableAction where
  | setSearchTerm (text : String)
  | setUserTypeFilter (type : String)
  | previous
  | next

/-- Where the Previous button leads; it is shown when there are several pages, and disabled on the
first one. -/
def previousPage (totalPages currentPage : Int) : Option Int :=
  if totalPages > 1 ∧ currentPage ≠ 1 then some (max 1 (currentPage - 1)) else none

def moves (query : UserQuery) (screen : UserScreen) : TableAction → UserQuery
  | .setSearchTerm text => { query with searchTerm := text }
  | .setUserTypeFilter type => { query with userTypeFilter := type }
  | .previous =>
      match previousPage screen.totalPages query.currentPage with
      | none => query
      | some page => { query with currentPage := page }
  | .next =>
      match nextPage screen.totalPages query.currentPage with
      | none => query
      | some page => { query with currentPage := page }

variable (rt : Runtime) (server : Server)

def wiring : Wiring UserQuery UserScreen FetchedUsers TableAction where
  source := fetchUsers rt server
  absorb := absorb
  moves := moves

abbrev Dashboard := FetchingView UserQuery UserScreen

def opened : Dashboard := mounted ⟨1, "", ""⟩ ⟨some [], 1, true, none⟩

def shownUsers (screen : UserScreen) : FetchedUsers :=
  match screen.users with
  | some users => .listed ⟨users, screen.totalPages⟩
  | none => .undefined

/-- The page of the query is one of the pages there are, or the first. -/
def HasPage (query : UserQuery) : FetchedUsers → Prop
  | .listed listing => query.currentPage ≤ max 1 listing.totalPages
  | .undefined => False

/-- The screen shows the server's answer to the current query, a page there is, and no users only
if no user matches. -/
structure ShowsQuery (dashboard : Dashboard) : Prop where
  shown : fetchUsers rt server dashboard.query = some (shownUsers dashboard.screen)
  first : 1 ≤ dashboard.query.currentPage
  last : HasPage dashboard.query (shownUsers dashboard.screen)
  matching : ∃ filter, Admin.listFilter rt (request dashboard.query) = .ok filter ∧
    dashboard.screen.totalPages = Pages.count 20 (matchingUsers server filter) ∧
    (dashboard.screen.users = some [] → matchingUsers server filter = [])

/-- In the run every query that is asked has an answer with its page, the first one included, and
whenever a fetch is answered last, its answer is the one to the current query. -/
def SoundRun (inputs : List (ViewInput TableAction)) : Prop :=
  Sound (wiring rt server) HasPage opened.query ∧
    AllSteps (FetchingView.step (wiring rt server)) (Meets (wiring rt server) HasPage) opened inputs

section Answers

variable {rt} {server} {query : UserQuery} {listing : UserListing}

theorem intArg_page {page : Nat} (there : query.currentPage = page) :
    Admin.intArg (request query) "page" 1 = .ok page := by
  change pyInt (toString query.currentPage) = .ok (page : Int)
  rw [there, pyInt_toString]

theorem intArg_perPage : Admin.intArg (request query) "per_page" 20 = .ok 20 := pyInt_toString 20

theorem perPage_pos : 0 < 20 := by decide

theorem readListing_pageAnswer (page perPage : Int) (total : Nat) (users : List Value) :
    readListing (pageAnswer page perPage total users).body =
      some ⟨users.map (Value.mapScalar jsonScalar), Int.fdiv (total + perPage - 1) perPage⟩ := by
  rw [← Value.mapScalarList_eq]
  rfl

theorem readListing_of_received {body : Value} (listed : received body = .listed listing) :
    readListing body = some listing := by
  rw [received] at listed
  split at listed
  next other read =>
    cases listed
    split_ifs at read
    exact read
  next => cases listed

/-- What a successful fetch brings are the users of the page, and the number of pages. -/
theorem fetchUsers_listed (fetched : fetchUsers rt server query = some (.listed listing))
    (first : 1 ≤ query.currentPage) :
    ∃ filter users, Admin.listFilter rt (request query) = .ok filter ∧
      Admin.usersJson (Admin.pageOf rt ((query.currentPage - 1) * 20) 20
        (matchingUsers server filter)) = .ok users ∧
      listing = ⟨users.map (Value.mapScalar jsonScalar),
        Pages.count 20 (matchingUsers server filter)⟩ := by
  obtain ⟨page, there⟩ := Int.eq_ofNat_of_zero_le (by omega : 0 ≤ query.currentPage)
  rw [there]
  have ended : ∀ response, ((Admin.listUsers rt (request query)).serve server).1 = .ok response →
      response.succeeds = true → ∃ filter users, Admin.listFilter rt (request query) = .ok filter ∧
        Admin.usersJson (Admin.pageOf rt (((page : Int) - 1) * 20) 20
          (matchingUsers server filter)) = .ok users ∧
        response = pageAnswer page 20 (matchingUsers server filter).length users :=
    listUsers_succeeds (intArg_page there) intArg_perPage server
  rw [fetchUsers] at fetched
  generalize ((Admin.listUsers rt (request query)).serve server).1 = outcome at fetched ended
  cases outcome with
  | error e =>
    change (if e.answer.succeeds = true then _ else none) = some _ at fetched
    rw [e.answer_fails] at fetched
    cases fetched
  | ok response =>
    change (if response.succeeds = true then some (received response.body) else none) = _ at fetched
    split_ifs at fetched with accepted
    obtain ⟨filter, users, filtered, listed, same⟩ := ended response rfl accepted
    refine ⟨filter, users, filtered, listed, ?_⟩
    have read := readListing_of_received (Option.some.inj fetched)
    rw [same, readListing_pageAnswer] at read
    rw [← Option.some.inj read]
    exact congrArg (UserListing.mk _) (fdiv_eq_count perPage_pos _)

theorem usersJson_eq_nil {found : List Document} (listed : Admin.usersJson found = .ok []) :
    found = [] := by
  cases found with
  | nil => rfl
  | cons user rest =>
    unfold Admin.usersJson at listed
    rw [List.mapM_cons] at listed
    obtain ⟨_, _, listed⟩ := bind_eq_ok.mp listed
    obtain ⟨_, _, listed⟩ := bind_eq_ok.mp listed
    cases listed

/-- On a page there is, or the first, no users on the screen are no users at all. -/
theorem matching_of_fetched (fetched : fetchUsers rt server query = some (.listed listing))
    (first : 1 ≤ query.currentPage) (last : HasPage query (.listed listing)) :
    ∃ filter, Admin.listFilter rt (request query) = .ok filter ∧
      listing.totalPages = Pages.count 20 (matchingUsers server filter) ∧
      (listing.users = [] → matchingUsers server filter = []) := by
  obtain ⟨filter, users, filtered, listed, rfl⟩ := fetchUsers_listed fetched first
  refine ⟨filter, filtered, rfl, fun empty => ?_⟩
  rw [List.map_eq_nil_iff.mp empty] at listed
  have beyond := (pageOf_eq_nil_iff perPage_pos first).mp (usersJson_eq_nil listed)
  have same : Pages.count 20 (newestFirst rt (matchingUsers server filter)) =
      Pages.count 20 (matchingUsers server filter) := by
    rw [Pages.count_eq, Pages.count_eq, length_newestFirst]
  rw [same] at beyond
  rw [HasPage] at last
  dsimp only at last
  exact (Pages.count_eq_zero_iff perPage_pos).mp (by omega)

end Answers

/-! Runs of the dashboard. -/

section Runs

variable {rt} {server} {dashboard : Dashboard}

theorem absorb_reads (rt : Runtime) (server : Server) (screen : UserScreen) (fetched : FetchedUsers) :
    shownUsers ((wiring rt server).absorb screen (some fetched)) = fetched := by
  cases fetched <;> rfl

theorem showsQuery_iff :
    ShowsQuery rt server dashboard ↔
      1 ≤ dashboard.query.currentPage ∧ Shows (wiring rt server) shownUsers HasPage dashboard := by
  constructor
  · intro shows
    exact ⟨shows.first, shows.shown, shows.last⟩
  · rintro ⟨first, shown, last⟩
    refine ⟨shown, first, last, ?_⟩
    obtain ⟨query, screen, inFlight⟩ := dashboard
    obtain ⟨users, totalPages, isLoading, error⟩ := screen
    cases users with
    | none => cases last
    | some users =>
      obtain ⟨filter, filtered, counted, empty⟩ := matching_of_fetched shown first last
      exact ⟨filter, filtered, counted, fun none_shown => empty (Option.some.inj none_shown)⟩

theorem one_le_moves {query : UserQuery} (first : 1 ≤ query.currentPage) (screen : UserScreen)
    (action : TableAction) : 1 ≤ (moves query screen action).currentPage := by
  cases action with
  | setSearchTerm text => exact first
  | setUserTypeFilter type => exact first
  | previous =>
    rw [moves, previousPage]
    split_ifs
    · exact le_max_left 1 _
    · exact first
  | next =>
    rw [moves, nextPage]
    split_ifs with shown
    · exact le_min (by omega) (by omega)
    · exact first

theorem one_le_step (first : 1 ≤ dashboard.query.currentPage) (input : ViewInput TableAction) :
    1 ≤ (FetchingView.step (wiring rt server) dashboard input).query.currentPage := by
  cases input with
  | act action =>
    rw [FetchingView.step, ask_query]
    exact one_le_moves first dashboard.screen action
  | receive i =>
    rw [FetchingView.step, receive_query]
    exact first

end Runs

/-- In a sound run the table shows the current query whenever no fetch is in flight. In any other
run the fetches in flight at some moment can be answered so that it then does not. -/
theorem userTable_shows_query :
    (∀ inputs, SoundRun rt server inputs →
      Throughout (FetchingView.step (wiring rt server))
        (fun dashboard => dashboard.Quiet → ShowsQuery rt server dashboard) opened inputs) ∧
    ∀ inputs, ¬SoundRun rt server inputs → ∃ before responses : List (ViewInput TableAction),
      before <+: inputs ∧ (∀ response ∈ responses, ∃ i, response = .receive i) ∧
      ((before ++ responses).foldl (FetchingView.step (wiring rt server)) opened).Quiet ∧
      ¬ShowsQuery rt server ((before ++ responses).foldl (FetchingView.step (wiring rt server)) opened) := by
  constructor
  · rintro inputs ⟨sound, meets⟩
    refine AllSteps.throughout (fun dashboard =>
      Fresh (wiring rt server) shownUsers HasPage dashboard ∧ 1 ≤ dashboard.query.currentPage)
      ?_ ?_ ⟨fresh_mounted sound _, le_refl 1⟩ meets
    · intro dashboard kept quiet
      exact showsQuery_iff.mpr ⟨kept.2, kept.1.shows quiet⟩
    · intro dashboard input kept met
      exact ⟨fresh_step (absorb_reads rt server) dashboard input kept.1 met, one_le_step kept.2 input⟩
  · intro inputs unsound
    obtain ⟨before, responses, part, replies, quiet, hidden⟩ :=
      breaks_of_not_allSteps (absorb_reads rt server) unsound
    exact ⟨before, responses, part, replies, quiet, fun shows => hidden (showsQuery_iff.mp shows).2⟩

/-- The filter set to administrators and back: the first of the two fetches is answered last, and
the table says that there are no users. -/
theorem late_answer_empties_table :
    ∃ (server : Server) (inputs : List (ViewInput TableAction)),
      let reached := inputs.foldl (FetchingView.step (wiring plainRuntime server)) opened
      reached.Quiet ∧ reached.query = ⟨1, "", ""⟩ ∧ reached.screen.users = some [] ∧
        (matchingUsers server []).length = 1 ∧ ¬ShowsQuery plainRuntime server reached := by
  refine ⟨⟨fun _ => ⟨[⟨1, [("id", .int 1), ("user_type", .str "user")]⟩], by decide, by decide⟩,
      [], []⟩,
    [.act (.setUserTypeFilter "admin"), .act (.setUserTypeFilter ""), .receive 0, .receive 1,
      .receive 0], ?_⟩
  refine ⟨?_, by decide +kernel, by decide +kernel, by decide +kernel, fun shows => ?_⟩
  · unfold Quiet
    decide +kernel
  · have shown := shows.shown
    revert shown
    decide +kernel

end UserTable

end UssdCredit
