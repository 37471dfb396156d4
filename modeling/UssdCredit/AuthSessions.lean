import UssdCredit.AuthContext
import UssdCredit.Library.Runs

/-! The calls of the authentication context as the page makes them: each sends a request, and goes
on when the answer comes, in whatever order the answers come. -/

namespace UssdCredit

open Library

namespace LocalStorage

theorem getItem_removeItem (storage : LocalStorage) (key other : String) :
    (storage.removeItem other).getItem key = if key = other then none else storage.getItem key := by
  unfold getItem removeItem
  split_ifs with same
  · apply Dict.lookup_eq_none
    simp [same]
  · exact @Dict.lookup_filter _ _ _ (fun name => name ≠ other) _ (decide_eq_true same) storage

theorem getItem_signOut (storage : LocalStorage) {key : String}
    (removed : key = "authToken" ∨ key = "user") : storage.signOut.getItem key = none := by
  rw [signOut, getItem_removeItem, getItem_removeItem]
  rcases removed with rfl | rfl <;> rfl

end LocalStorage

/-! What a call does with its answer: the data, or an error with or without a response. -/

namespace AuthContext

variable (browser : Browser)

/-- The rest of `login`, `register` and `googleLogin`. -/
def signedIn (text : String) (result : Except (Option Response) Value) (site : Site) :
    Except Js Unit × Site :=
  match result with
  | .error response => fail site (errorMessage response text)
  | .ok .null => fail site (errorMessage none text)
  | .ok data =>
      let user := Js.property (some data) "user"
      let token := Js.property (some data) "token"
      let storage := (site.localStorage.setItem "authToken" (token.map browser.text)).setItem "user"
        (user.map browser.stringify)
      (.ok (), { site with localStorage := storage }.dispatch (.authSuccess user token))

/-- The rest of `updateProfile`. -/
def profileUpdated (result : Except (Option Response) Value) (site : Site) : Except Js Unit × Site :=
  match result with
  | .error response => (.error (errorMessage response "Profile update failed"), site)
  | .ok updatedUser =>
      let storage := site.localStorage.setItem "user" (some (browser.stringify updatedUser))
      (.ok (), { site with localStorage := storage }.dispatch (.updateUser (some updatedUser)))

/-- The rest of `checkAuth`, which has read the token before it asked. -/
def profileRead (token : String) (result : Except (Option Response) Value) (site : Site) : Site :=
  let invalid := { site with localStorage := site.localStorage.signOut }.dispatch
    (.authFailure (some (.str "Token validation failed")))
  match result with
  | .error _ => invalid
  | .ok .null => invalid
  | .ok data =>
      site.dispatch (.authSuccess ((Js.property (some data) "user").or (some data)) (some (.str token)))

/-- The rest of `logout`: the session ends whatever the server answers. -/
def loggedOut (site : Site) : Site :=
  { site with localStorage := site.localStorage.signOut }.dispatch .authLogout

/-! A call that nothing interrupts is its request and its rest. -/

section Uninterrupted

variable {browser : Browser} {rt : Runtime} {oidText : Nat → String} {site : Site} {occasion : Occasion}

theorem signIn_eq (request : ApiRequest) (text : String) :
    let sent := (site.dispatch .authStart).send rt oidText request occasion
    signIn rt browser oidText request text site occasion =
      signedIn browser text (sent.1.mapError some) sent.2 := by
  intro sent
  rcases same : sent with ⟨result, after⟩
  rw [signIn, show (site.dispatch .authStart).send rt oidText request occasion = _ from same]
  cases result with
  | error response => rfl
  | ok data =>
    cases data with
    | scalar s => cases s <;> rfl
    | list items => rfl
    | dict entries => rfl

theorem updateProfile_eq (userData : Json) :
    let sent := site.send rt oidText (AuthApi.updateProfile userData) occasion
    updateProfile rt browser oidText userData site occasion =
      profileUpdated browser (sent.1.mapError some) sent.2 := by
  intro sent
  rcases same : sent with ⟨result, after⟩
  rw [updateProfile, show site.send rt oidText (AuthApi.updateProfile userData) occasion = _ from same]
  cases result <;> rfl

theorem checkAuth_eq {token : String} (stored : site.localStorage.getItem "authToken" = some token)
    (given : token ≠ "") :
    let sent := site.send rt oidText AuthApi.getProfile occasion
    (checkAuth rt oidText site occasion).2 = profileRead token (sent.1.mapError some) sent.2 := by
  intro sent
  rcases same : sent with ⟨result, after⟩
  rw [checkAuth, stored]
  simp only [if_neg given, show site.send rt oidText AuthApi.getProfile occasion = _ from same]
  cases result with
  | error response => rfl
  | ok data =>
    cases data with
    | scalar s => cases s <;> rfl
    | list items => rfl
    | dict entries => rfl

end Uninterrupted

end AuthContext

/-! Answers in the shape the calls expect. -/

/-- `response.data` of `login` and `register`. -/
structure SignInData where
  data : Value
  user : Fields
  token : String
  user_given : Js.property (some data) "user" = some (.dict user)
  token_given : Js.property (some data) "token" = some (.str token)

/-- `response.data` of `getProfile`: the user, or an object with it. -/
structure ProfileData where
  data : Value
  user : Fields
  user_given : (Js.property (some data) "user").or (some data) = some (.dict user)

/-- What a user of the page can ask for. -/
inductive AuthAsk where
  | login
  | register
  | logout
  | updateProfile
  deriving DecidableEq

/-- A call that waits for its answer. -/
inductive AuthWait where
  | checkAuth (token : String)
  | asked (ask : AuthAsk)
  deriving DecidableEq

/-- The data of a success, or `none` for a failure without a response. -/
def AuthWait.Reply : AuthWait → Type
  | .checkAuth _ => Option ProfileData
  | .asked .login => Option SignInData
  | .asked .register => Option SignInData
  | .asked .logout => Option Value
  | .asked .updateProfile => Option Fields

inductive AuthEvent where
  | checkAuth
  | ask (ask : AuthAsk)
  | reply (wait : AuthWait) (reply : wait.Reply)

/-- A result as the rest of a call gets it. -/
def replied (data : Option Value) : Except (Option Response) Value :=
  match data with
  | some data => .ok data
  | none => .error none

/-- The page with the calls that wait. -/
structure AuthPage where
  site : Site
  /-- `checkAuth` runs on the first render only. -/
  checked : Bool
  waiting : List AuthWait

namespace AuthPage

variable (browser : Browser)

def opened (site : Site) : AuthPage := ⟨site.getInitialState browser, false, []⟩

/-- The rest of a call. -/
def resume (site : Site) : (wait : AuthWait) → wait.Reply → Site
  | .checkAuth token, reply => AuthContext.profileRead token (replied (reply.map ProfileData.data)) site
  | .asked .login, reply =>
      (AuthContext.signedIn browser "Login failed" (replied (reply.map SignInData.data)) site).2
  | .asked .register, reply =>
      (AuthContext.signedIn browser "Registration failed" (replied (reply.map SignInData.data)) site).2
  | .asked .logout, _ => AuthContext.loggedOut site
  | .asked .updateProfile, reply =>
      (AuthContext.profileUpdated browser (replied (reply.map Value.dict)) site).2

def step (page : AuthPage) : AuthEvent → AuthPage
  | .checkAuth =>
      if page.checked then page
      else
        match page.site.localStorage.getItem "authToken" with
        | some token =>
            if token = "" then { page with site := page.site.dispatch (.authFailure (some .null)), checked := true }
            else { page with checked := true, waiting := page.waiting ++ [.checkAuth token] }
        | none => { page with site := page.site.dispatch (.authFailure (some .null)), checked := true }
  | .ask ask => { page with
      site := if ask = .login ∨ ask = .register then page.site.dispatch .authStart else page.site
      waiting := page.waiting ++ [.asked ask] }
  | .reply wait reply =>
      if wait ∈ page.waiting then
        { page with site := resume browser page.site wait reply, waiting := page.waiting.erase wait }
      else page

/-- The state of the context and the storage are in step. -/
structure InStep (site : Site) : Prop where
  user : site.state.isAuthenticated = true ↔ site.state.user ≠ some .null
  token : site.state.isAuthenticated = true ↔ site.state.token ≠ some .null
  stored : site.state.token = some (((site.localStorage.getItem "authToken").map Value.str).getD .null)
  both : (site.localStorage.getItem "user").isSome = (site.localStorage.getItem "authToken").isSome

/-- The storage a page starts from in step: without a session, or with both items, neither of
them empty, and with a user that does not read as `null`. -/
def Sound (storage : LocalStorage) : Prop :=
  (storage.getItem "authToken" = none ∧ storage.getItem "user" = none) ∨
    ∃ token userStr, storage.getItem "authToken" = some token ∧ storage.getItem "user" = some userStr ∧
      token ≠ "" ∧ userStr ≠ "" ∧ browser.parse userStr ≠ some .null

/-- The stored token is the one the rest of a call takes for granted. -/
def Expected (storage : LocalStorage) : (wait : AuthWait) → wait.Reply → Prop
  | .checkAuth token, some _ => storage.getItem "authToken" = some token
  | .asked .login, none => storage.getItem "authToken" = none
  | .asked .register, none => storage.getItem "authToken" = none
  | .asked .updateProfile, some _ => storage.getItem "authToken" ≠ none
  | _, _ => True

/-- An event that finds the storage as its call expects it. -/
def Keeps (page : AuthPage) : AuthEvent → Prop
  | .checkAuth => page.checked = false → page.site.localStorage.getItem "authToken" ≠ some ""
  | .ask _ => True
  | .reply wait reply => wait ∈ page.waiting → Expected page.site.localStorage wait reply

/-! States without a session and with one. -/

section States

variable {browser : Browser} {site : Site}

/-- A page without a session is in step with a storage without one. -/
theorem inStep_signedOut (user : site.state.user = some .null) (token : site.state.token = some .null)
    (out : site.state.isAuthenticated = false) : InStep site ↔
      site.localStorage.getItem "authToken" = none ∧ site.localStorage.getItem "user" = none := by
  constructor
  · intro inStep
    have stored := inStep.stored
    rw [token] at stored
    have absent : site.localStorage.getItem "authToken" = none := by
      cases held : site.localStorage.getItem "authToken" with
      | none => rfl
      | some text =>
        rw [held] at stored
        cases stored
    have both := inStep.both
    rw [absent] at both
    exact ⟨absent, Option.isSome_eq_false_iff.mp both |> Option.isNone_iff_eq_none.mp⟩
  · rintro ⟨absent, absent'⟩
    refine ⟨?_, ?_, ?_, ?_⟩
    · simp [out, user]
    · simp [out, token]
    · rw [token, absent]
      rfl
    · rw [absent, absent']

/-- A page with a session is in step with a storage that has its token and some user. -/
theorem inStep_signedIn {text : String} (user : site.state.user ≠ some .null)
    (token : site.state.token = some (.str text)) (signed : site.state.isAuthenticated = true) :
    InStep site ↔ site.localStorage.getItem "authToken" = some text ∧
      (site.localStorage.getItem "user").isSome = true := by
  constructor
  · intro inStep
    have stored := inStep.stored
    rw [token] at stored
    have held : site.localStorage.getItem "authToken" = some text := by
      cases held : site.localStorage.getItem "authToken" with
      | none =>
        rw [held] at stored
        cases stored
      | some other =>
        rw [held] at stored
        simpa using stored.symm
    refine ⟨held, ?_⟩
    rw [inStep.both, held]
    rfl
  · rintro ⟨held, present⟩
    refine ⟨?_, ?_, ?_, ?_⟩
    · simp [signed, user]
    · simp [signed, token]
    · rw [token, held]
      rfl
    · rw [held, present]
      rfl

theorem inStep_opened : InStep (site.getInitialState browser) ↔ Sound browser site.localStorage := by
  unfold Site.getInitialState Sound
  cases token : site.localStorage.getItem "authToken" with
  | none =>
    cases user : site.localStorage.getItem "user" with
    | none => simp [inStep_signedOut, token, user]
    | some userStr => simp [inStep_signedOut, token, user]
  | some text =>
    cases user : site.localStorage.getItem "user" with
    | none => simp [inStep_signedOut, token, user]
    | some userStr =>
      by_cases empty : text = "" ∨ userStr = ""
      · simp only [if_pos empty]
        rw [inStep_signedOut rfl rfl rfl, token]
        constructor
        · rintro ⟨absent, -⟩
          cases absent
        · rintro (⟨absent, -⟩ | ⟨token', userStr', same, same', given, given', -⟩)
          · cases absent
          · obtain rfl := Option.some.inj same
            obtain rfl := Option.some.inj same'
            exact absurd empty (not_or.mpr ⟨given, given'⟩)
      · obtain ⟨given, given'⟩ := not_or.mp empty
        simp only [if_neg empty]
        cases read : browser.parse userStr with
        | none =>
          have cleared : InStep { site with
              state := ⟨some .null, some .null, false, false, some .null⟩
              localStorage := site.localStorage.signOut } :=
            (inStep_signedOut rfl rfl rfl).mpr
              ⟨LocalStorage.getItem_signOut _ (.inl rfl), LocalStorage.getItem_signOut _ (.inr rfl)⟩
          simp [cleared, given, given', read]
        | some value =>
          by_cases nobody : value = .null
          · subst nobody
            have apart : ¬InStep { site with
                state := ⟨some .null, some (.str text), true, false, some .null⟩ } := fun inStep =>
              absurd rfl (inStep.user.mp rfl)
            simp [apart, read]
          · have restored : InStep { site with
                state := ⟨some value, some (.str text), true, false, some .null⟩ } :=
              (inStep_signedIn (fun null => nobody (Option.some.inj null)) rfl rfl).mpr
                ⟨token, by rw [user]; rfl⟩
            simp [restored, given, given', read, nobody]

/-! The rest of a call, from a page in step. -/

theorem profileRead_data (token : String) (body : ProfileData) (site : Site) :
    AuthContext.profileRead token (.ok body.data) site =
      site.dispatch (.authSuccess (some (.dict body.user)) (some (.str token))) := by
  obtain ⟨data, user, given⟩ := body
  rw [← given]
  cases data with
  | scalar s =>
    cases s with
    | null => cases given
    | _ => rfl
  | list items => rfl
  | dict entries => rfl

theorem signedIn_data (browser : Browser) (text : String) (body : SignInData) (site : Site) :
    let storage := (site.localStorage.setItem "authToken" (some (browser.text (.str body.token)))).setItem
      "user" (some (browser.stringify (.dict body.user)))
    (AuthContext.signedIn browser text (.ok body.data) site).2 =
      { site with localStorage := storage }.dispatch
        (.authSuccess (some (.dict body.user)) (some (.str body.token))) := by
  obtain ⟨data, user, token, given, given'⟩ := body
  cases data with
  | scalar s =>
    cases s with
    | null => cases given
    | _ => cases given
  | list items => cases given
  | dict entries =>
    unfold AuthContext.signedIn
    dsimp only
    rw [given, given']
    rfl

theorem inStep_cleared {state : AuthState} (user : state.user = some .null)
    (token : state.token = some .null) (out : state.isAuthenticated = false) :
    InStep { site with state, localStorage := site.localStorage.signOut } :=
  (inStep_signedOut user token out).mpr
    ⟨LocalStorage.getItem_signOut _ (.inl rfl), LocalStorage.getItem_signOut _ (.inr rfl)⟩

/-- A failure ends the session of the page and leaves the storage. -/
theorem inStep_failed (inStep : InStep site) (error : Js) :
    InStep (site.dispatch (.authFailure error)) ↔ site.localStorage.getItem "authToken" = none := by
  rw [inStep_signedOut rfl rfl rfl]
  refine ⟨And.left, fun absent => ⟨absent, ?_⟩⟩
  have both := inStep.both
  rw [show site.localStorage.getItem "authToken" = none from absent] at both
  exact Option.isNone_iff_eq_none.mp (Option.isSome_eq_false_iff.mp both)

theorem object_ne_null (user : Fields) : (some (.dict user) : Js) ≠ some .null := by simp

theorem inStep_signedIn_reply (faithful : ∀ s, browser.text (.str s) = s) (text : String)
    (inStep : InStep site) (reply : Option SignInData) :
    InStep (AuthContext.signedIn browser text (replied (reply.map SignInData.data)) site).2 ↔
      (reply = none → site.localStorage.getItem "authToken" = none) := by
  cases reply with
  | none =>
    change InStep (site.dispatch (.authFailure _)) ↔ _
    rw [inStep_failed inStep]
    simp
  | some body =>
    change InStep (AuthContext.signedIn browser text (.ok body.data) site).2 ↔ _
    rw [signedIn_data, inStep_signedIn (object_ne_null _) rfl rfl]
    simp [Site.dispatch, faithful]

/-- A new profile is stored under a session, or makes a user without one. -/
theorem inStep_updated (inStep : InStep site) (user : Fields) :
    InStep (AuthContext.profileUpdated browser (.ok (.dict user)) site).2 ↔
      site.localStorage.getItem "authToken" ≠ none := by
  let updated := (AuthContext.profileUpdated browser (.ok (.dict user)) site).2
  have token : updated.localStorage.getItem "authToken" = site.localStorage.getItem "authToken" :=
    (LocalStorage.getItem_setItem ..).trans (if_neg (by decide))
  have stored : (updated.localStorage.getItem "user").isSome = true := by
    rw [show updated.localStorage.getItem "user" = _ from
      (LocalStorage.getItem_setItem ..).trans (if_pos rfl)]
    rfl
  constructor
  · intro after absent
    have both := after.both
    rw [stored, token, absent] at both
    cases both
  · intro present
    obtain ⟨text, held⟩ := Option.ne_none_iff_exists'.mp present
    have given : site.state.token = some (.str text) := by
      rw [inStep.stored, held]
      rfl
    have signed : site.state.isAuthenticated = true := inStep.token.mpr (by rw [given]; simp)
    exact (@inStep_signedIn updated _ (object_ne_null user) given signed).mpr ⟨token.trans held, stored⟩

/-- Where a call ends, the page is in step again exactly when the storage is as expected. -/
theorem inStep_resume_iff (faithful : ∀ s, browser.text (.str s) = s) (inStep : InStep site)
    (wait : AuthWait) (reply : wait.Reply) :
    InStep (resume browser site wait reply) ↔ Expected site.localStorage wait reply := by
  match wait, reply with
  | .checkAuth token, none =>
    exact iff_of_true (inStep_cleared rfl rfl rfl) trivial
  | .checkAuth token, some body =>
    change InStep (AuthContext.profileRead token (.ok body.data) site) ↔ _
    rw [profileRead_data, inStep_signedIn (object_ne_null _) rfl rfl]
    refine ⟨And.left, fun held => ⟨held, ?_⟩⟩
    have present := inStep.both
    rw [show site.localStorage.getItem "authToken" = some token from held] at present
    exact present
  | .asked .login, reply =>
    refine (inStep_signedIn_reply faithful "Login failed" inStep reply).trans ?_
    cases reply <;> simp [Expected]
  | .asked .register, reply =>
    refine (inStep_signedIn_reply faithful "Registration failed" inStep reply).trans ?_
    cases reply <;> simp [Expected]
  | .asked .logout, reply => exact iff_of_true (inStep_cleared rfl rfl rfl) trivial
  | .asked .updateProfile, none => exact iff_of_true inStep trivial
  | .asked .updateProfile, some user =>
    exact inStep_updated inStep user

/-- An event keeps the page in step exactly when it finds the storage as its call expects it. -/
theorem inStep_step_iff {page : AuthPage} (faithful : ∀ s, browser.text (.str s) = s)
    (inStep : InStep page.site) (event : AuthEvent) :
    InStep (step browser page event).site ↔ Keeps page event := by
  cases event with
  | checkAuth =>
    dsimp only [step, Keeps]
    by_cases checked : page.checked = true
    · rw [if_pos checked]
      exact iff_of_true inStep fun unchecked => absurd (checked.symm.trans unchecked) nofun
    · rw [if_neg checked]
      simp only [Bool.not_eq_true] at checked
      cases held : page.site.localStorage.getItem "authToken" with
      | none => exact iff_of_true ((inStep_failed inStep _).mpr held) fun _ => nofun
      | some token =>
        dsimp only
        split_ifs with empty
        · have fails : ¬InStep (page.site.dispatch (.authFailure (some .null))) := by
            rw [inStep_failed inStep, held]
            exact Option.some_ne_none token
          exact iff_of_false fails fun expected => expected checked (congrArg some empty)
        · exact iff_of_true inStep fun _ same => empty (Option.some.inj same)
  | ask ask =>
    have started : InStep (page.site.dispatch .authStart) := ⟨inStep.user, inStep.token, inStep.stored, inStep.both⟩
    dsimp only [step]
    split_ifs
    · exact iff_of_true started trivial
    · exact iff_of_true inStep trivial
  | reply wait reply =>
    dsimp only [step, Keeps]
    by_cases waits : wait ∈ page.waiting
    · rw [if_pos waits]
      exact (inStep_resume_iff faithful inStep wait reply).trans ⟨fun expected _ => expected, fun keeps => keeps waits⟩
    · rw [if_neg waits]
      exact iff_of_true inStep fun waits' => absurd waits' waits

end States

/-- In a run from a sound storage whose events all find the storage as their calls expect it, the
context and the storage are in step whenever no call waits. They are in step throughout, calls
waiting or not, in these runs and in no others. -/
theorem session_in_step_iff (browser : Browser) (faithful : ∀ s, browser.text (.str s) = s)
    (site : Site) (events : List AuthEvent) :
    let start := opened browser site
    let met := Sound browser site.localStorage ∧ AllSteps (step browser) Keeps start events
    (met → Throughout (step browser) (fun page => page.waiting = [] → InStep page.site) start events) ∧
    (Throughout (step browser) (fun page => InStep page.site) start events ↔ met) := by
  intro start met
  have always : Throughout (step browser) (fun page => InStep page.site) start events ↔ met := by
    by_cases sound : Sound browser site.localStorage
    · have begins : InStep start.site := inStep_opened.mpr sound
      have steps := @throughout_iff_allSteps _ _ (step browser) Keeps (fun page => InStep page.site)
        (fun page => InStep page.site) (fun _ inStep => inStep)
        (fun _ event inStep keeps => (inStep_step_iff faithful inStep event).mpr keeps)
        (fun _ event inStep misses after => misses ((inStep_step_iff faithful inStep event).mp after))
        _ begins events
      exact steps.trans ⟨fun keeps => ⟨sound, keeps⟩, And.right⟩
    · refine ⟨fun all => absurd (inStep_opened.mp ?_) sound, fun given => absurd given.1 sound⟩
      cases events with
      | nil => exact all
      | cons event rest => exact all.1
  have quiet : ∀ page : AuthPage, InStep page.site → page.waiting = [] → InStep page.site :=
    fun _ inStep _ => inStep
  exact ⟨fun given => (always.mpr given).mono quiet, always⟩

/-- A browser that stores every object as `{}`. -/
def objectBrowser : Browser where
  text
    | .str s => s
    | _ => "[object Object]"
  stringify _ := "{}"
  parse text := if text = "{}" then some (.dict []) else none

/-- A page with a stored session. -/
def returning : Site :=
  ⟨⟨some .null, some .null, false, false, some .null⟩, [("authToken", "t"), ("user", "{}")], "/",
    Server.initial⟩

theorem session_in_step_iff_logout :
    Throughout (step objectBrowser) (fun page => page.waiting = [] → InStep page.site)
      (opened objectBrowser returning)
      [.checkAuth, .ask .logout, .reply (.checkAuth "t") (none : Option ProfileData),
        .reply (.asked .logout) (none : Option Value)] := by
  have sound : Sound objectBrowser returning.localStorage :=
    .inr ⟨"t", "{}", rfl, rfl, by decide, by decide, by decide⟩
  apply (session_in_step_iff objectBrowser (fun _ => rfl) returning _).1
  refine ⟨sound, fun _ => by decide, trivial, fun _ => trivial, fun _ => trivial, trivial⟩

/-- A second login that fails without a response signs the page out and leaves the session in the
storage; a profile that arrives after a logout signs the page in without one. -/
theorem session_out_of_step :
    let start := opened objectBrowser returning
    let profile : ProfileData := ⟨.dict [("id", .int 1)], [("id", .int 1)], rfl⟩
    let failed := [AuthEvent.ask .login, .reply (.asked .login) (none : Option SignInData)].foldl
      (step objectBrowser) start
    let late := [AuthEvent.checkAuth, .ask .logout, .reply (.asked .logout) (none : Option Value),
      .reply (.checkAuth "t") (some profile)].foldl (step objectBrowser) start
    failed.waiting = [] ∧ failed.site.state.token = some .null ∧
      failed.site.localStorage.getItem "authToken" = some "t" ∧ ¬InStep failed.site ∧
      late.waiting = [] ∧ late.site.state.token = some (.str "t") ∧
      late.site.localStorage.getItem "authToken" = none ∧ ¬InStep late.site := by
  intro start profile failed late
  have failedToken : failed.site.state.token = some .null := rfl
  have failedStored : failed.site.localStorage.getItem "authToken" = some "t" := by decide +kernel
  have lateToken : late.site.state.token = some (.str "t") := by decide +kernel
  have lateStored : late.site.localStorage.getItem "authToken" = none := by decide +kernel
  refine ⟨by decide +kernel, failedToken, failedStored, fun inStep => ?_, by decide +kernel, lateToken,
    lateStored, fun inStep => ?_⟩
  · have stored := inStep.stored
    rw [failedToken, failedStored] at stored
    cases stored
  · have stored := inStep.stored
    rw [lateToken, lateStored] at stored
    cases stored

end AuthPage

end UssdCredit
