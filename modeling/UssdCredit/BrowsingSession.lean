import UssdCredit.RouteGuards
import UssdCredit.Library.Runs

/-! A browsing session: the entries of a tab's history, which the redirects of the guards replace. -/

namespace UssdCredit

open Library

/-- The entries of a tab's history. -/
structure Tab where
  state : AuthState
  past : List Location
  here : Location
  future : List Location

inductive Visit where
  /-- A link, a typed address or a page load. -/
  | path (pathname : String)
  | back
  | forward
  /-- The session changes, or the page is loaded again with another one. -/
  | session (state : AuthState)

namespace Tab

variable (router : Router) (browser : Browser)

/-- A redirect replaces the entry. -/
def settled (tab : Tab) : Tab := { tab with here := settle router browser tab.state 2 tab.here }

def step (tab : Tab) : Visit → Tab
  | .path pathname =>
      settled router browser ⟨tab.state, tab.here :: tab.past, ⟨pathname, none⟩, []⟩
  | .back =>
      match tab.past with
      | previous :: past => settled router browser ⟨tab.state, past, previous, tab.here :: tab.future⟩
      | [] => tab
  | .forward =>
      match tab.future with
      | next :: future => settled router browser ⟨tab.state, tab.here :: tab.past, next, future⟩
      | [] => tab
  | .session state => settled router browser { tab with state }

/-- A tab whose first page is loaded. -/
def opened (state : AuthState) (pathname : String) : Tab :=
  settled router browser ⟨state, [], ⟨pathname, none⟩, []⟩

def entries (tab : Tab) : List Location := tab.past ++ tab.here :: tab.future

end Tab

/-- A location of the sign-in page has no page to return to. -/
def Forgets (router : Router) (location : Location) : Prop :=
  router.route location.pathname = some .auth → location.cameFrom = none

section Visits

variable {router : Router} {browser : Browser} {state : AuthState} {location : Location}

/-- The guard sends nobody to the sign-in page. -/
theorem TurnedAway.forgets {target : Location} (away : TurnedAway state location target) :
    Forgets router target := by
  intro found
  have rests := away.target
  simp only [List.mem_cons, List.not_mem_nil, or_false] at rests
  rcases rests with (path | path) | ⟨-, path | path⟩ <;> rw [path] at found
  · cases router.login.symm.trans found
  · cases router.register.symm.trans found
  · cases (router.declared .subscription).symm.trans found
  · cases (router.declared .profile).symm.trans found

theorem settle_forgets (forgets : Forgets router location) (n : Nat) :
    Forgets router (settle router browser state n location) := by
  induction n generalizing location with
  | zero => exact forgets
  | succ n ih =>
    cases left : follow router browser state location with
    | none =>
      rw [settle_of_rests left]
      exact forgets
    | some target =>
      rw [settle_of_follow left]
      apply ih
      by_cases found : router.route location.pathname = some .auth
      · exact fun _ => (follow_auth found left).2.1
      · obtain ⟨route, found', sent⟩ := follow_eq_some.mp left
        exact (element_redirect (fun same => found (same ▸ found')) sent).forgets

theorem settled_forgets {tab : Tab} (forgets : ∀ entry ∈ tab.entries, Forgets router entry) :
    ∀ entry ∈ (tab.settled router browser).entries, Forgets router entry := by
  intro entry member
  rcases List.mem_append.mp member with past | rest
  · exact forgets entry (List.mem_append_left _ past)
  · rcases List.mem_cons.mp rest with rfl | future
    · exact settle_forgets (forgets _ (by simp [Tab.entries])) 2
    · exact forgets entry (List.mem_append_right _ (List.mem_cons_of_mem _ future))

theorem step_forgets {tab : Tab} (forgets : ∀ entry ∈ tab.entries, Forgets router entry)
    (visit : Visit) : ∀ entry ∈ (tab.step router browser visit).entries, Forgets router entry := by
  cases visit with
  | path pathname =>
    apply settled_forgets
    intro entry member
    simp only [Tab.entries, List.mem_append, List.mem_cons, List.not_mem_nil, or_false] at member
    rcases member with (rfl | past) | rfl
    · exact forgets _ (by simp [Tab.entries])
    · exact forgets _ (by simp [Tab.entries, past])
    · exact fun _ => rfl
  | back =>
    simp only [Tab.step]
    cases held : tab.past with
    | nil => exact forgets
    | cons other rest =>
      apply settled_forgets
      intro entry member
      apply forgets entry
      simp only [Tab.entries, held, List.mem_append, List.mem_cons] at member ⊢
      tauto
  | forward =>
    simp only [Tab.step]
    cases held : tab.future with
    | nil => exact forgets
    | cons other rest =>
      apply settled_forgets
      intro entry member
      apply forgets entry
      simp only [Tab.entries, held, List.mem_append, List.mem_cons] at member ⊢
      tauto
  | session state => exact settled_forgets forgets

/-- What every step of a browsing session keeps. -/
structure Tab.Settled (router : Router) (browser : Browser) (tab : Tab) : Prop where
  forgets : ∀ entry ∈ tab.entries, Forgets router entry
  rests : Rests router browser tab.state tab.here

theorem Tab.Settled.step {tab : Tab} (settled : tab.Settled router browser) (visit : Visit) :
    (tab.step router browser visit).Settled router browser := by
  refine ⟨step_forgets settled.forgets visit, ?_⟩
  cases visit with
  | path pathname => exact settle_two router browser _ _
  | back =>
    simp only [Tab.step]
    cases tab.past with
    | nil => exact settled.rests
    | cons other rest => exact settle_two router browser _ _
  | forward =>
    simp only [Tab.step]
    cases tab.future with
    | nil => exact settled.rests
    | cons other rest => exact settle_two router browser _ _
  | session state => exact settle_two router browser _ _

theorem opened_settled (pathname : String) :
    (Tab.opened router browser state pathname).Settled router browser := by
  refine ⟨settled_forgets fun entry member => ?_, settle_two router browser _ _⟩
  simp only [Tab.entries, List.nil_append, List.mem_singleton] at member
  subst member
  exact fun _ => rfl

theorem settle_auth (found : router.route location.pathname = some .auth)
    (forgotten : location.cameFrom = none) (signed : SignedIn state) :
    settle router browser state 2 location =
      ⟨if userType state = some (.str "admin") then "/admin" else "/", none⟩ := by
  have left : follow router browser state location =
      some ⟨if userType state = some (.str "admin") then "/admin" else "/", none⟩ := by
    rw [follow_eq_some]
    refine ⟨.auth, found, ?_⟩
    change authPage state location = _
    obtain ⟨authenticated, user⟩ := signed
    unfold authPage
    rw [authenticated, user, forgotten, Option.getD_none, Bool.and_self, if_pos rfl]
    split_ifs <;> rfl
  rw [settle_of_follow left]
  apply settle_of_rests
  split_ifs with admin
  · exact rests_admin signed admin none
  · exact rests_home none

/-- The pages that ask for a user type. -/
def guardedRoutes : List Route := [.dashboard, .admin, .adminUsers, .adminInfluencers]

theorem settle_guarded {route : Route} (guarded : route ∈ guardedRoutes)
    (out : ¬SignedIn state) (loaded : state.isLoading = false) (cameFrom : Option String) :
    settle router browser state 2 ⟨route.path, cameFrom⟩ = ⟨"/login", some route.path⟩ := by
  have left : follow router browser state ⟨route.path, cameFrom⟩ = some ⟨"/login", some route.path⟩ := by
    rw [follow_eq_some]
    refine ⟨route, router.declared route, ?_⟩
    have sent : ∀ required children, protectedRoute browser required children state
        ⟨route.path, cameFrom⟩ = .redirect ⟨"/login", some route.path⟩ := by
      intro required children
      unfold protectedRoute
      rw [loaded]
      dsimp only
      rw [if_neg Bool.false_ne_true, if_pos]
      revert out
      unfold SignedIn
      cases state.isAuthenticated <;> cases state.user.truthy <;> simp
    simp only [guardedRoutes, List.mem_cons, List.not_mem_nil, or_false] at guarded
    rcases guarded with rfl | rfl | rfl | rfl <;> simp only [element, sent]
  rw [settle_of_follow left]
  exact settle_of_rests (rests_login _) 1

end Visits

/-- In every browsing session no redirect is left to follow; whoever asks for a guarded page
without a session stands before an empty page, and whoever signs in on the sign-in page is taken
to the administrators' page or to the first one by his user type alone, whatever page he was turned
away from. -/
theorem sign_in_forgets_page (router : Router) (browser : Browser) (state : AuthState)
    (pathname : String) (visits : List Visit) :
    Throughout (Tab.step router browser) (fun tab =>
      follow router browser tab.state tab.here = none ∧
      (∀ route ∈ guardedRoutes, ¬SignedIn tab.state → tab.state.isLoading = false →
        let turned := tab.step router browser (.path route.path)
        turned.here = ⟨"/login", some route.path⟩ ∧
          render router browser turned.state turned.here = .blank) ∧
      (router.route tab.here.pathname = some .auth → ∀ signed, SignedIn signed →
        (tab.step router browser (.session signed)).here =
          ⟨if userType signed = some (.str "admin") then "/admin" else "/", none⟩))
      (Tab.opened router browser state pathname) visits := by
  have keeps : ∀ (tab : Tab) (visit : Visit), tab.Settled router browser →
      (tab.step router browser visit).Settled router browser := fun _ visit settled => settled.step visit
  refine throughout_of_invariant (fun tab settled => ?_) keeps (opened_settled pathname) visits
  refine ⟨settled.rests, fun route guarded out loaded => ?_, fun found signed isSigned => ?_⟩
  · have stands : (tab.step router browser (.path route.path)).here = ⟨"/login", some route.path⟩ :=
      settle_guarded guarded out loaded none
    refine ⟨stands, ?_⟩
    rw [stands, render, router.login]
  · exact settle_auth found (settled.forgets tab.here (by simp [Tab.entries]) found) isSigned

end UssdCredit
