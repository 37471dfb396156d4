import UssdCredit.AuthContext

/-! The routes of the web client and the guards in front of its pages. What a path shows depends on
the session; a guard that turns a visitor away sends him to another path. -/

namespace UssdCredit

open Library

inductive Route where
  | home
  | auth
  | profile
  | subscription
  | dashboard
  | subscriber
  | admin
  | adminUsers
  | adminInfluencers
  deriving DecidableEq

def Route.path : Route → String
  | .home => "/"
  | .auth => "/auth"
  | .profile => "/profile"
  | .subscription => "/subscription"
  | .dashboard => "/dashboard"
  | .subscriber => "/subscriber"
  | .admin => "/admin"
  | .adminUsers => "/admin/users"
  | .adminInfluencers => "/admin/influencers"

/-- How the router reads a path. Each route is found under its own path, and two of the paths the
guards send to are no routes. -/
structure Router where
  route : String → Option Route
  declared : ∀ r : Route, route r.path = some r
  login : route "/login" = none
  register : route "/register" = none

/-- A location, with the pathname of the `from` in its state. -/
structure Location where
  pathname : String
  cameFrom : Option String
  deriving DecidableEq

/-- What a location shows; a redirect is left for its target at once. -/
inductive Screen where
  | page (route : Route)
  | loading
  | alreadyPremium
  | accessDenied
  | blank
  | redirect (target : Location)
  deriving DecidableEq

/-! The guard. -/

/-- `requiredUserType`. -/
inductive RequiredType where
  | user
  | subscribed
  | admin
  deriving DecidableEq

def userTypeHierarchy : List (String × Nat) :=
  [("guest", 0), ("user", 1), ("subscribed", 2), ("admin", 3)]

def RequiredType.level : RequiredType → Nat
  | .user => 1
  | .subscribed => 2
  | .admin => 3

/-- The names that every object has a value for. -/
def objectPrototype : List String :=
  ["constructor", "__defineGetter__", "__defineSetter__", "hasOwnProperty", "__lookupGetter__",
    "__lookupSetter__", "isPrototypeOf", "propertyIsEnumerable", "toString", "valueOf", "__proto__",
    "toLocaleString"]

section Guard

variable (browser : Browser)

/-- A value as the name of a property. -/
def propertyKey : Js → String
  | none => "undefined"
  | some (.str s) => s
  | some v => browser.text v

/-- `userTypeHierarchy[userType] || 0`; a function or an object compares as no number does. -/
def userLevel (userType : Js) : Option Nat :=
  match userTypeHierarchy.lookup (propertyKey browser userType) with
  | some level => some level
  | none => if propertyKey browser userType ∈ objectPrototype then none else some 0

/-- `userLevel < requiredLevel`. -/
def levelBelow (level : Option Nat) (required : Nat) : Bool :=
  match level with
  | some n => n < required
  | none => false

def userType (state : AuthState) : Js := Js.property state.user "user_type"

def protectedRoute (requiredUserType : Option RequiredType) (children : Screen) (state : AuthState)
    (location : Location) : Screen :=
  let navigate (target : String) : Screen := .redirect ⟨target, some location.pathname⟩
  if state.isLoading then .loading
  else if !state.isAuthenticated || !state.user.truthy then navigate "/login"
  else
    match requiredUserType with
    | none => children
    | some required =>
        if levelBelow (userLevel browser (userType state)) required.level then
          if userType state = some (.str "guest") then navigate "/register"
          else if userType state = some (.str "user") then navigate "/subscription"
          else navigate "/profile"
        else children

/-! The pages. -/

/-- The effect of the sign-in page sends a signed-in visitor on. -/
def authPage (state : AuthState) (location : Location) : Screen :=
  if state.isAuthenticated && state.user.truthy then
    if userType state = some (.str "admin") then .redirect ⟨"/admin", none⟩
    else
      let path := location.cameFrom.getD ""
      .redirect ⟨if path = "" then "/" else path, none⟩
  else .page .auth

def userProfilePage (state : AuthState) (location : Location) : Screen :=
  if !state.user.truthy then .blank
  else protectedRoute browser none (.page .profile) state location

def subscriptionPage (state : AuthState) (location : Location) : Screen :=
  if !state.user.truthy then .blank
  else if userType state = some (.str "subscribed") ∨ userType state = some (.str "admin") then
    .alreadyPremium
  else protectedRoute browser none (.page .subscription) state location

def adminUserManagement (state : AuthState) (location : Location) : Screen :=
  if !state.user.truthy ∨ userType state ≠ some (.str "admin") then .accessDenied
  else protectedRoute browser (some .admin) (.page .adminUsers) state location

def adminInfluencerManagement (state : AuthState) : Screen :=
  if !state.user.truthy ∨ userType state ≠ some (.str "admin") then .accessDenied
  else .page .adminInfluencers

/-- The element of a route. -/
def element (state : AuthState) (location : Location) : Route → Screen
  | .home => .page .home
  | .auth => authPage state location
  | .profile => userProfilePage browser state location
  | .subscription => subscriptionPage browser state location
  | .dashboard => protectedRoute browser (some .user) (.page .dashboard) state location
  | .subscriber => .page .subscriber
  | .admin => protectedRoute browser (some .admin) (.page .admin) state location
  | .adminUsers =>
      protectedRoute browser (some .admin) (adminUserManagement browser state location) state location
  | .adminInfluencers =>
      protectedRoute browser (some .admin) (adminInfluencerManagement state) state location

end Guard

section Navigation

variable (router : Router) (browser : Browser)

def render (state : AuthState) (location : Location) : Screen :=
  match router.route location.pathname with
  | some route => element browser state location route
  | none => .blank

/-- Where a location is left for, if it redirects. -/
def follow (state : AuthState) (location : Location) : Option Location :=
  match render router browser state location with
  | .redirect target => some target
  | _ => none

/-- The location after at most so many redirects. -/
def settle (state : AuthState) : Nat → Location → Location
  | 0, location => location
  | n + 1, location =>
      match follow router browser state location with
      | some target => settle state n target
      | none => location

end Navigation

/-! The guard lets through those whose level suffices, and those whose type is the name of
something every object has. -/

section Guard

variable {browser : Browser} {state : AuthState} {location : Location}

theorem levelBelow_iff (userType : Js) (required : Nat) :
    levelBelow (userLevel browser userType) required = false ↔
      required ≤ (userTypeHierarchy.lookup (propertyKey browser userType)).getD 0 ∨
        propertyKey browser userType ∈ objectPrototype := by
  unfold userLevel
  cases known : userTypeHierarchy.lookup (propertyKey browser userType) with
  | some level =>
    have listed : propertyKey browser userType ∉ objectPrototype := by
      intro inherited
      have unknown : ∀ name ∈ objectPrototype, userTypeHierarchy.lookup name = none := by decide
      cases (unknown _ inherited).symm.trans known
    simp [levelBelow, listed]
  | none =>
    by_cases inherited : propertyKey browser userType ∈ objectPrototype
    · simp [levelBelow, inherited]
    · simp [levelBelow, inherited]

/-- A signed-in visitor sees what the guard protects exactly when his level suffices, or his user
type is the name of a property that JavaScript objects inherit. -/
theorem protectedRoute_page_iff {required : RequiredType} {children : Screen} {shown : Route} :
    protectedRoute browser (some required) children state location = .page shown ↔
      children = .page shown ∧
      (state.isLoading = false ∧ state.isAuthenticated = true ∧ state.user.truthy = true) ∧
        (required.level ≤
            (userTypeHierarchy.lookup (propertyKey browser (userType state))).getD 0 ∨
          propertyKey browser (userType state) ∈ objectPrototype) := by
  rw [← levelBelow_iff]
  unfold protectedRoute
  cases below : levelBelow (userLevel browser (userType state)) required.level with
  | false => cases state.isLoading <;> cases state.isAuthenticated <;> cases state.user.truthy <;>
      simp [below]
  | true =>
    cases state.isLoading <;> cases state.isAuthenticated <;> cases state.user.truthy <;>
      simp [below]
    split_ifs <;> simp

end Guard

/-! Where the pages send a visitor. -/

def SignedIn (state : AuthState) : Prop := state.isAuthenticated = true ∧ state.user.truthy = true

/-- The guard's redirects. -/
structure TurnedAway (state : AuthState) (location target : Location) : Prop where
  remembers : target.cameFrom = some location.pathname
  target : target.pathname ∈ ["/login", "/register"] ∨
    SignedIn state ∧ target.pathname ∈ ["/subscription", "/profile"]

section Redirects

variable {browser : Browser} {state : AuthState} {location target : Location}

theorem protectedRoute_redirect {required : Option RequiredType} {children : Screen}
    (left : protectedRoute browser required children state location = .redirect target) :
    TurnedAway state location target ∨ children = .redirect target := by
  unfold protectedRoute at left
  cases required with
  | none =>
    dsimp only at left
    split_ifs at left
    · cases left
      exact .inl ⟨rfl, .inl (by simp)⟩
    · exact .inr left
  | some required =>
    dsimp only at left
    split_ifs at left with _ out
    · cases left
      exact .inl ⟨rfl, .inl (by simp)⟩
    · cases left
      exact .inl ⟨rfl, .inl (by simp)⟩
    · cases left
      exact .inl ⟨rfl, .inr ⟨by simpa [SignedIn] using out, by simp⟩⟩
    · cases left
      exact .inl ⟨rfl, .inr ⟨by simpa [SignedIn] using out, by simp⟩⟩
    · exact .inr left

theorem adminUserManagement_redirect
    (left : adminUserManagement browser state location = .redirect target) :
    TurnedAway state location target := by
  unfold adminUserManagement at left
  split_ifs at left
  exact (protectedRoute_redirect left).resolve_right Screen.noConfusion

/-- Every page but the sign-in page redirects through the guard only. -/
theorem element_redirect {route : Route} (other : route ≠ .auth)
    (left : element browser state location route = .redirect target) :
    TurnedAway state location target := by
  cases route <;> simp only [element] at left
  case home | subscriber => cases left
  case auth => exact absurd rfl other
  case profile =>
    unfold userProfilePage at left
    split_ifs at left
    exact (protectedRoute_redirect left).resolve_right Screen.noConfusion
  case subscription =>
    unfold subscriptionPage at left
    split_ifs at left
    exact (protectedRoute_redirect left).resolve_right Screen.noConfusion
  case dashboard | admin => exact (protectedRoute_redirect left).resolve_right Screen.noConfusion
  case adminUsers =>
    exact (protectedRoute_redirect left).elim id adminUserManagement_redirect
  case adminInfluencers =>
    rcases protectedRoute_redirect left with away | inner
    · exact away
    · unfold adminInfluencerManagement at inner
      split_ifs at inner

/-- The pages for every user keep those with a session. -/
theorem element_signedIn (signed : SignedIn state) {route : Route}
    (open_to_all : route = .profile ∨ route = .subscription) :
    element browser state location route ≠ .redirect target := by
  obtain ⟨authenticated, user⟩ := signed
  rcases open_to_all with rfl | rfl
  · change userProfilePage browser state location ≠ _
    unfold userProfilePage protectedRoute
    rw [authenticated, user]
    cases state.isLoading <;> simp
  · change subscriptionPage browser state location ≠ _
    unfold subscriptionPage protectedRoute
    rw [authenticated, user]
    cases state.isLoading <;> simp <;> split_ifs <;> simp

/-- The sign-in page sends administrators to their page, and others where they came from. -/
theorem authPage_redirect (left : authPage state location = .redirect target) :
    SignedIn state ∧ target.cameFrom = none ∧
      target.pathname =
        if userType state = some (.str "admin") then "/admin"
        else if location.cameFrom.getD "" = "" then "/" else location.cameFrom.getD "" := by
  unfold authPage at left
  split_ifs at left with signed admin <;> cases left
  · exact ⟨by simpa [SignedIn] using signed, rfl, by rw [if_pos admin]⟩
  · exact ⟨by simpa [SignedIn] using signed, rfl, by rw [if_neg admin]⟩

end Redirects

/-! A location rests when it redirects nowhere. -/

section Navigation

variable {router : Router} {browser : Browser} {state : AuthState} {location target : Location}

def Rests (router : Router) (browser : Browser) (state : AuthState) (location : Location) : Prop :=
  follow router browser state location = none

theorem follow_eq_some :
    follow router browser state location = some target ↔
      ∃ route, router.route location.pathname = some route ∧
        element browser state location route = .redirect target := by
  unfold follow render
  cases router.route location.pathname with
  | none => simp
  | some route =>
    dsimp only
    split
    · next there shown => simp [shown]
    · next other =>
      refine iff_of_false (Option.some_ne_none target).symm ?_
      rintro ⟨_, found, left⟩
      cases found
      exact other target left

theorem rests_iff :
    Rests router browser state location ↔
      ∀ route target, router.route location.pathname = some route →
        element browser state location route ≠ .redirect target := by
  unfold Rests
  rw [Option.eq_none_iff_forall_ne_some]
  simp only [ne_eq, follow_eq_some, not_exists, not_and]
  exact forall_comm

theorem settle_of_rests (rests : Rests router browser state location) (n : Nat) :
    settle router browser state n location = location := by
  cases n with
  | zero => rfl
  | succ n => rw [settle, rests]

theorem settle_of_follow (left : follow router browser state location = some target) (n : Nat) :
    settle router browser state (n + 1) location = settle router browser state n target := by
  rw [settle, left]

/-- Whoever the guard turns away stays where it sends him. -/
theorem TurnedAway.rests (away : TurnedAway state location target) :
    Rests router browser state target := by
  rw [rests_iff]
  intro route next found
  rcases away.target with nowhere | ⟨signed, page⟩
  · have unrouted : router.route target.pathname = none := by
      simp only [List.mem_cons, List.not_mem_nil, or_false] at nowhere
      rcases nowhere with path | path <;> rw [path]
      · exact router.login
      · exact router.register
    cases unrouted.symm.trans found
  · apply element_signedIn signed
    simp only [List.mem_cons, List.not_mem_nil, or_false] at page
    rcases page with path | path <;> rw [path] at found
    · exact .inr (Option.some.inj (found.symm.trans (router.declared .subscription)))
    · exact .inl (Option.some.inj (found.symm.trans (router.declared .profile)))

/-- One redirect is enough for every location but those of the sign-in page. -/
theorem settle_one (other : router.route location.pathname ≠ some .auth) :
    Rests router browser state (settle router browser state 1 location) := by
  cases left : follow router browser state location with
  | none =>
    rw [settle_of_rests left]
    exact left
  | some target =>
    rw [settle_of_follow left]
    obtain ⟨route, found, sent⟩ := follow_eq_some.mp left
    exact (element_redirect (fun same => other (same ▸ found)) sent).rests

/-- Where the sign-in page sends a visitor. -/
theorem follow_auth (found : router.route location.pathname = some .auth)
    (left : follow router browser state location = some target) :
    SignedIn state ∧ target.cameFrom = none ∧
      target.pathname =
        if userType state = some (.str "admin") then "/admin"
        else if location.cameFrom.getD "" = "" then "/" else location.cameFrom.getD "" := by
  obtain ⟨route, found', sent⟩ := follow_eq_some.mp left
  cases Option.some.inj (found.symm.trans found')
  exact authPage_redirect sent

theorem rests_login (cameFrom : Option String) : Rests router browser state ⟨"/login", cameFrom⟩ := by
  rw [rests_iff]
  intro route target found
  cases router.login.symm.trans found

theorem rests_home (cameFrom : Option String) : Rests router browser state ⟨"/", cameFrom⟩ := by
  rw [rests_iff]
  intro route target found
  cases (router.declared .home).symm.trans found
  exact Screen.noConfusion

/-- The administrators' page is shown to administrators. -/
theorem rests_admin (signed : SignedIn state) (admin : userType state = some (.str "admin"))
    (cameFrom : Option String) : Rests router browser state ⟨"/admin", cameFrom⟩ := by
  rw [rests_iff]
  intro route target found
  cases (router.declared .admin).symm.trans found
  obtain ⟨authenticated, user⟩ := signed
  have level : userLevel browser (userType state) = some 3 := by rw [admin]; rfl
  change protectedRoute browser (some .admin) (.page .admin) state _ ≠ _
  unfold protectedRoute
  rw [authenticated, user, level]
  cases state.isLoading <;> simp [levelBelow, RequiredType.level]

/-- The sign-in page without a page to return to. -/
theorem settle_auth_forgotten (found : router.route location.pathname = some .auth)
    (forgotten : location.cameFrom = none) :
    Rests router browser state (settle router browser state 1 location) := by
  cases left : follow router browser state location with
  | none =>
    rw [settle_of_rests left]
    exact left
  | some target =>
    rw [settle_of_follow left]
    obtain ⟨signed, remembers, path⟩ := follow_auth found left
    rw [forgotten, Option.getD_none, if_pos rfl] at path
    change Rests router browser state target
    obtain ⟨pathname, cameFrom⟩ := target
    dsimp only at path remembers
    rw [path, remembers]
    split_ifs with admin
    · exact rests_admin signed admin none
    · exact rests_home none

/-- Wherever a visitor goes and whatever his session, he is redirected at most twice. -/
theorem settle_two (router : Router) (browser : Browser) (state : AuthState) (location : Location) :
    follow router browser state (settle router browser state 2 location) = none := by
  by_cases found : router.route location.pathname = some .auth
  · cases left : follow router browser state location with
    | none =>
      rw [settle_of_rests left]
      exact left
    | some target =>
      rw [settle_of_follow left]
      obtain ⟨-, remembers, -⟩ := follow_auth found left
      by_cases again : router.route target.pathname = some .auth
      · exact settle_auth_forgotten again remembers
      · exact settle_one again
  · have rests := @settle_one router browser state _ found
    cases left : follow router browser state location with
    | none =>
      rw [settle_of_rests left]
      exact left
    | some target =>
      rw [settle_of_follow left] at rests ⊢
      rw [show settle router browser state 1 target = target from settle_of_rests rests 1]
      exact rests

end Navigation

end UssdCredit
