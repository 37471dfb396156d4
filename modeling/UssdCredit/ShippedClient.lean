import UssdCredit.BrowsingSession
import UssdCredit.AuthSessions

/-! The client as it is shipped: the answers of the API come wrapped, and the session has no user
type. -/

namespace UssdCredit

open Library

/-- What changes the session of the client, whatever the server answers and when. -/
inductive ClientEvent where
  /-- The page is loaded: the session comes from the storage. -/
  | load
  | authStart
  /-- The answer to `login`, `register` or `googleLogin`. -/
  | signIn (call : AuthCall) (text : String) (result : Except (Option Response) Value)
  | updateProfile (userData : Json) (result : Except (Option Response) Value)
  /-- The answer to the `checkAuth` that has read a token. -/
  | checkAuth (token : String) (result : Except (Option Response) Value)
  /-- A `checkAuth` without a token. -/
  | noToken
  /-- The response interceptor ends the session. -/
  | unauthorized
  | logout

/-- A body as the callers of the API get it. -/
def AuthCall.received (call : AuthCall) (result : Except (Option Response) Value) :
    Except (Option Response) Value := result.map (intercept call.request.url)

def ClientEvent.apply (browser : Browser) (site : Site) : ClientEvent → Site
  | .load => site.getInitialState browser
  | .authStart => site.dispatch .authStart
  | .signIn call text result => (AuthContext.signedIn browser text (call.received result) site).2
  | .updateProfile userData result =>
      (AuthContext.profileUpdated browser ((AuthCall.updateProfile userData).received result) site).2
  | .checkAuth token result => AuthContext.profileRead token (AuthCall.mount.received result) site
  | .noToken => site.dispatch (.authFailure (some .null))
  | .unauthorized => { site with localStorage := site.localStorage.signOut, location := "/auth" }
  | .logout => AuthContext.loggedOut site

/-- The user has no properties, in the state and in the storage. -/
structure Unnamed (browser : Browser) (site : Site) : Prop where
  user : Blank site.state.user
  stored : ∀ text user, site.localStorage.getItem "user" = some text →
    browser.parse text = some user → Blank (some user)

section Client

variable {router : Router} {browser : Browser} {site : Site}

theorem blank_null : Blank (some .null) := fun _ => rfl

theorem Unnamed.signedOut (state : AuthState) (user : state.user = some .null) (location : String) :
    Unnamed browser { site with state, localStorage := site.localStorage.signOut, location } := by
  refine ⟨?_, fun text stored held => ?_⟩
  · change Blank state.user
    rw [user]
    exact blank_null
  · rw [LocalStorage.getItem_signOut _ (.inr rfl)] at held
    cases held

/-- An answer of the API has no properties. -/
theorem blank_received {call : AuthCall} {result : Except (Option Response) Value} {data : Value}
    (received : call.received result = .ok data) : Blank (some data) := by
  cases result with
  | error response => cases received
  | ok body =>
    cases received
    exact blank_intercept call body

theorem Unnamed.signedIn (undefined : browser.parse "undefined" = none) (unnamed : Unnamed browser site)
    (call : AuthCall) (text : String) (result : Except (Option Response) Value) :
    Unnamed browser (AuthContext.signedIn browser text (call.received result) site).2 := by
  unfold AuthContext.signedIn
  split
  · exact ⟨blank_null, unnamed.stored⟩
  · exact ⟨blank_null, unnamed.stored⟩
  · next data _ received =>
    have nobody : Js.property (some data) "user" = none := blank_received received "user"
    refine ⟨fun name => ?_, fun text user held => ?_⟩
    · change Js.property (Js.property (some data) "user") name = none
      rw [nobody]
      rfl
    · change LocalStorage.getItem (LocalStorage.setItem _ "user" _) "user" = _ at held
      rw [LocalStorage.getItem_setItem, if_pos rfl, nobody] at held
      cases held
      intro parsed
      cases undefined.symm.trans parsed

theorem Unnamed.profileUpdated
    (rereads : ∀ v w, Blank (some v) → browser.parse (browser.stringify v) = some w → Blank (some w))
    (unnamed : Unnamed browser site) (userData : Json) (result : Except (Option Response) Value) :
    Unnamed browser (AuthContext.profileUpdated browser
      ((AuthCall.updateProfile userData).received result) site).2 := by
  unfold AuthContext.profileUpdated
  split
  · exact unnamed
  · next updated received =>
    have blank := blank_received received
    refine ⟨blank, fun text user held => ?_⟩
    change LocalStorage.getItem (LocalStorage.setItem _ "user" _) "user" = _ at held
    rw [LocalStorage.getItem_setItem, if_pos rfl] at held
    cases held
    exact rereads updated user blank

theorem Unnamed.profileRead (unnamed : Unnamed browser site) (token : String)
    (result : Except (Option Response) Value) :
    Unnamed browser (AuthContext.profileRead token (AuthCall.mount.received result) site) := by
  unfold AuthContext.profileRead
  dsimp only
  split
  · exact Unnamed.signedOut _ rfl _
  · exact Unnamed.signedOut _ rfl _
  · next data _ received =>
    have blank := blank_received received
    have user : (Js.property (some data) "user").or (some data) = some data := by
      rw [blank]
      rfl
    rw [user]
    exact ⟨blank, unnamed.stored⟩

theorem Unnamed.load (unnamed : Unnamed browser site) : Unnamed browser (site.getInitialState browser) := by
  unfold Site.getInitialState
  dsimp only
  split
  · next token text _ held =>
    split_ifs
    · exact ⟨blank_null, unnamed.stored⟩
    · cases parsed : browser.parse text with
      | some user => exact ⟨unnamed.stored text user held parsed, unnamed.stored⟩
      | none => exact Unnamed.signedOut _ rfl _
  · exact ⟨blank_null, unnamed.stored⟩

theorem Unnamed.apply (undefined : browser.parse "undefined" = none)
    (rereads : ∀ v w, Blank (some v) → browser.parse (browser.stringify v) = some w → Blank (some w))
    (unnamed : Unnamed browser site) (event : ClientEvent) :
    Unnamed browser (event.apply browser site) := by
  cases event with
  | load => exact unnamed.load
  | authStart => exact ⟨unnamed.user, unnamed.stored⟩
  | signIn call text result => exact unnamed.signedIn undefined call text result
  | updateProfile userData result => exact unnamed.profileUpdated rereads userData result
  | checkAuth token result => exact unnamed.profileRead token result
  | noToken => exact ⟨blank_null, unnamed.stored⟩
  | unauthorized =>
    refine ⟨unnamed.user, fun text user held => ?_⟩
    change site.localStorage.signOut.getItem "user" = some text at held
    rw [LocalStorage.getItem_signOut _ (.inr rfl)] at held
    cases held
  | logout => exact Unnamed.signedOut _ rfl _

/-- A user without a type passes no guard that asks for one. -/
theorem protectedRoute_blank {state : AuthState} (blank : Blank state.user) (required : RequiredType)
    (children : Screen) (location : Location) (shown : Route) :
    protectedRoute browser (some required) children state location ≠ .page shown := by
  rw [ne_eq, protectedRoute_page_iff]
  have untyped : userType state = none := blank "user_type"
  rw [untyped]
  rintro ⟨-, -, enough | inherited⟩
  · change required.level ≤ 0 at enough
    cases required <;> exact absurd enough (by decide)
  · exact absurd inherited (show "undefined" ∉ objectPrototype by decide)

theorem render_blank {state : AuthState} (blank : Blank state.user) (location : Location)
    {shown : Route} (guarded : shown ∈ guardedRoutes) :
    render router browser state location ≠ .page shown := by
  unfold render
  cases router.route location.pathname with
  | none => exact Screen.noConfusion
  | some route =>
    have other : ∀ open_page ∈ [Route.home, .auth, .profile, .subscription, .subscriber],
        Screen.page open_page ≠ .page shown := by
      simp only [guardedRoutes, List.mem_cons, List.not_mem_nil, or_false] at guarded
      rcases guarded with rfl | rfl | rfl | rfl <;> decide
    cases route <;> simp only [element]
    case home => exact other .home (by decide)
    case subscriber => exact other .subscriber (by decide)
    case auth =>
      unfold authPage
      split_ifs
      · exact Screen.noConfusion
      · exact Screen.noConfusion
      · exact other .auth (by decide)
    case profile =>
      unfold userProfilePage protectedRoute
      dsimp only
      split_ifs
      · exact Screen.noConfusion
      · exact Screen.noConfusion
      · exact Screen.noConfusion
      · exact other .profile (by decide)
    case subscription =>
      unfold subscriptionPage protectedRoute
      dsimp only
      split_ifs
      · exact Screen.noConfusion
      · exact Screen.noConfusion
      · exact Screen.noConfusion
      · exact Screen.noConfusion
      · exact other .subscription (by decide)
    case dashboard | admin | adminUsers | adminInfluencers =>
      exact protectedRoute_blank blank _ _ _ _

end Client

/-- In a browser whose storage holds no user at first: whatever the server answers to the calls of
the client, and whenever, no page that asks for a user type is ever shown, neither the dashboard nor
the administrators' pages, not even to the administrator who has signed in. -/
theorem client_opens_no_guarded_page (router : Router) (browser : Browser)
    (undefined : browser.parse "undefined" = none)
    (rereads : ∀ v w, Blank (some v) → browser.parse (browser.stringify v) = some w → Blank (some w))
    (site : Site) (first : site.localStorage.getItem "user" = none) (events : List ClientEvent) :
    Throughout (ClientEvent.apply browser) (fun site => ∀ location, ∀ shown ∈ guardedRoutes,
      render router browser site.state location ≠ .page shown)
      (site.getInitialState browser) events := by
  have start : Unnamed browser (site.getInitialState browser) := by
    have nobody : (site.getInitialState browser).state = ⟨some .null, some .null, false, false, some .null⟩ := by
      unfold Site.getInitialState
      rw [first]
      cases site.localStorage.getItem "authToken" <;> rfl
    have kept : (site.getInitialState browser).localStorage = site.localStorage := by
      unfold Site.getInitialState
      rw [first]
      cases site.localStorage.getItem "authToken" <;> rfl
    refine ⟨?_, fun text user held => ?_⟩
    · rw [nobody]
      exact blank_null
    · rw [kept, first] at held
      cases held
  have keeps : ∀ (site : Site) (event : ClientEvent), Unnamed browser site →
      Unnamed browser (event.apply browser site) :=
    fun _ event unnamed => unnamed.apply undefined rereads event
  exact throughout_of_invariant
    (fun _ unnamed location _ guarded => render_blank unnamed.user location guarded) keeps start events

/-- A router that knows the paths as they are written. -/
def exactRouter : Router where
  route path := [Route.home, .auth, .profile, .subscription, .dashboard, .subscriber, .admin,
    .adminUsers, .adminInfluencers].find? fun route => route.path == path
  declared route := by cases route <;> rfl
  login := rfl
  register := rfl

/-- An administrator signs in, and loads the page again. -/
theorem client_opens_no_guarded_page_admin :
    Throughout (ClientEvent.apply plainBrowser) (fun site => ∀ location, ∀ shown ∈ guardedRoutes,
      render exactRouter plainBrowser site.state location ≠ .page shown)
      ((visitor Server.initial).getInitialState plainBrowser)
      [.authStart, .signIn (.login "root@example.com" "s3cret") "Login failed" (.ok (.dict [
          ("user", .dict [("user_type", .str "admin")]), ("token", .str "t")])),
        .load, .checkAuth "undefined" (.ok (.dict [("user", .dict [("user_type", .str "admin")])]))] := by
  apply client_opens_no_guarded_page exactRouter plainBrowser (by decide) ?_ (visitor Server.initial) rfl
  intro v w _ read
  have null : w = .null := by
    change (if plainBrowser.stringify v = "null" then some Value.null else none) = some w at read
    split_ifs at read
    exact (Option.some.inj read).symm
  rw [null]
  exact blank_null

end UssdCredit
