import UssdCredit.AccountForms
import UssdCredit.StoreIndependence

/-! What the forms of the client can do to the accounts: no run of them changes what an account may
do, and the passwords they store are as long as the forms ask. -/

namespace UssdCredit

open Library Program

/-! The forms of the profile page and the button of the subscription page. -/

/-- `message` of a page. -/
inductive PageMessage where
  | success (text : String)
  | error (text : Js)

structure ProfileForm where
  firstName : String
  lastName : String
  username : String
  avatarUrl : String

def ProfileForm.formData (form : ProfileForm) : Json := ⟨.dict [
  ("first_name", .str form.firstName),
  ("last_name", .str form.lastName),
  ("username", .str form.username),
  ("avatar_url", .str form.avatarUrl)], rfl⟩

structure PasswordForm where
  currentPassword : String
  newPassword : String
  confirmPassword : String

theorem upgradeData_isJson : (Value.dict [("user_type", .str "subscribed")]).isJson = true := rfl

/-- `{ user_type: 'subscribed' }`. -/
def upgradeData : Json := ⟨.dict [("user_type", .str "subscribed")], upgradeData_isJson⟩

def AuthApi.logout : ApiRequest := ⟨"/api/auth/logout", .logout, none⟩

section Handlers

variable (rt : Runtime) (browser : Browser) (oidText : Nat → String)

def ProfileForm.handleProfileUpdate (form : ProfileForm) (site : Site) (occasion : Occasion) :
    PageMessage × Site :=
  match AuthContext.updateProfile rt browser oidText form.formData site occasion with
  | (.ok (), site) => (.success "Profile updated successfully!", site)
  | (.error text, site) => (.error text, site)

def PasswordForm.handlePasswordUpdate (form : PasswordForm) (site : Site) (occasion : Occasion) :
    PageMessage × Site :=
  if form.newPassword ≠ form.confirmPassword then
    (.error (some (.str "New passwords do not match")), site)
  else if jsLength form.newPassword < 8 then
    (.error (some (.str "Password must be at least 8 characters long")), site)
  else
    match AuthContext.changePassword rt oidText form.currentPassword form.newPassword site occasion with
    | (.ok (), site) => (.success "Password changed successfully!", site)
    | (.error text, site) => (.error text, site)

/-- Without a user the button does nothing. -/
def handleUpgrade (site : Site) (occasion : Occasion) : Option PageMessage × Site :=
  if site.state.user.truthy then
    match AuthContext.updateProfile rt browser oidText upgradeData site occasion with
    | (.ok (), site) =>
        (some (.success "Congratulations! Your account has been upgraded to Premium!"), site)
    | (.error text, site) => (some (.error text), site)
  else (none, site)

/-- The session ends whatever the server answers. -/
def AuthContext.logout (site : Site) (occasion : Occasion) : Site :=
  AuthContext.loggedOut (site.send rt oidText AuthApi.logout occasion).2

/-- What somebody does on the pages of the client. -/
inductive FormAction where
  | register (form : RegisterForm)
  | login (form : LoginForm)
  | googleLogin (idToken : String) (userInfo : Value)
  | updateProfile (form : ProfileForm)
  | changePassword (form : PasswordForm)
  | upgrade
  | logout
  | load

def FormAction.run (site : Site) (occasion : Occasion) : FormAction → Site
  | .register form => form.handleSubmit rt browser oidText site occasion
  | .login form => form.handleSubmit rt browser oidText site occasion
  | .googleLogin idToken userInfo =>
      (AuthContext.googleLogin rt browser oidText idToken userInfo site occasion).2
  | .updateProfile form => (form.handleProfileUpdate rt browser oidText site occasion).2
  | .changePassword form => (form.handlePasswordUpdate rt oidText site occasion).2
  | .upgrade => (handleUpgrade rt browser oidText site occasion).2
  | .logout => AuthContext.logout rt oidText site occasion
  | .load => (AuthContext.mount rt browser oidText site occasion).2

def FormAction.step (site : Site) (action : FormAction × Occasion) : Site :=
  action.1.run rt browser oidText site action.2

end Handlers

/-! What becomes of the accounts. -/

/-- The hash is of a password as long as the forms ask. -/
def LongPassword (rt : Runtime) (d : Document) : Prop :=
  ∃ salt password, d.get? "password_hash" = some (.str (rt.hash salt password)) ∧ 8 ≤ jsLength password

structure Tended (rt : Runtime) (d d' : Document) : Prop where
  oid : d'.oid = d.oid
  privileges : ∀ key ∈ privilegeKeys, d'.get? key = d.get? key
  password : d'.get? "password_hash" = d.get? "password_hash" ∨ LongPassword rt d'

/-- What only an administrator may change, as a new account has it. -/
def newPrivileges : Fields := [
  ("user_type", .str "user"),
  ("is_active", .bool true),
  ("is_suspended", .bool false),
  ("email_verified", .bool false),
  ("phone_verified", .bool false)]

structure Joined (rt : Runtime) (d : Document) : Prop where
  privileges : ∀ entry ∈ newPrivileges, d.get? entry.1 = some entry.2
  password : LongPassword rt d

/-- Every document is there and tended, and what has come is an ordinary account. -/
structure Tends (rt : Runtime) (c c' : Collection) : Prop where
  kept : ∀ (j : Nat) (d : Document), c.docs[j]? = some d → ∃ d', c'.docs[j]? = some d' ∧ Tended rt d d'
  joined : ∀ (j : Nat) (d' : Document), c'.docs[j]? = some d' → c.docs[j]? = none → Joined rt d'

section Accounts

variable {rt : Runtime} {s : Server} {req : Http} {c c' c'' : Collection} {d d' d'' : Document}

theorem Tended.refl (d : Document) : Tended rt d d := ⟨rfl, fun _ _ => rfl, .inl rfl⟩

theorem LongPassword.tended (long : LongPassword rt d) (tended : Tended rt d d') : LongPassword rt d' := by
  rcases tended.password with same | new
  · obtain ⟨salt, password, hashed, length⟩ := long
    exact ⟨salt, password, same.trans hashed, length⟩
  · exact new

theorem Tended.trans (first : Tended rt d d') (second : Tended rt d' d'') : Tended rt d d'' where
  oid := second.oid.trans first.oid
  privileges key privilege := (second.privileges key privilege).trans (first.privileges key privilege)
  password := by
    rcases first.password with same | long
    · exact second.password.imp (·.trans same) id
    · exact .inr (long.tended second)

theorem newPrivileges_keys : newPrivileges.map Prod.fst = privilegeKeys := rfl

theorem Joined.tended (joined : Joined rt d) (tended : Tended rt d d') : Joined rt d' where
  privileges entry member := by
    have privilege : entry.1 ∈ privilegeKeys := newPrivileges_keys ▸ List.mem_map_of_mem member
    rw [tended.privileges _ privilege, joined.privileges entry member]
  password := joined.password.tended tended

theorem Tends.refl (c : Collection) : Tends rt c c where
  kept _ d stored := ⟨d, stored, .refl d⟩
  joined _ _ stored absent := absurd (stored.symm.trans absent) (Option.some_ne_none _)

theorem Tends.trans (first : Tends rt c c') (second : Tends rt c' c'') : Tends rt c c'' where
  kept j d stored := by
    obtain ⟨d', stored', tended⟩ := first.kept j d stored
    obtain ⟨d'', stored'', tended'⟩ := second.kept j d' stored'
    exact ⟨d'', stored'', tended.trans tended'⟩
  joined j d'' stored absent := by
    cases before : c'.docs[j]? with
    | none => exact second.joined j d'' stored before
    | some d' =>
      obtain ⟨d₂, stored', tended⟩ := second.kept j d' before
      obtain rfl := Option.some.inj (stored.symm.trans stored')
      exact (first.joined j d' before absent).tended tended

/-- An edit of one document tends the collection when it tends that document. -/
theorem tends_edit {oid : Nat} {update : Fields} (rewritten : c'.docs = c.docs.map (Document.edit oid update))
    (tended : ∀ d ∈ c.docs, Tended rt d (d.edit oid update)) : Tends rt c c' where
  kept j d stored := by
    refine ⟨d.edit oid update, ?_, tended d (List.mem_of_getElem? stored)⟩
    rw [rewritten, List.getElem?_map, stored]
    rfl
  joined j d' stored absent := by
    rw [rewritten, List.getElem?_map, absent] at stored
    cases stored

theorem tends_append (appended : c'.docs = c.docs ++ [d]) (joined : Joined rt d) : Tends rt c c' where
  kept j d₁ stored := by
    refine ⟨d₁, ?_, .refl d₁⟩
    have short : j < c.docs.length := (List.getElem?_eq_some_iff.mp stored).1
    rw [appended, List.getElem?_append_left short, stored]
  joined j d' stored absent := by
    rw [appended] at stored
    rcases List.mem_append.mp (List.mem_of_getElem? stored) with old | new
    · have long : c.docs.length ≤ j := List.getElem?_eq_none_iff.mp absent
      rw [List.getElem?_append_right long] at stored
      exact List.mem_singleton.mp (List.mem_of_getElem? stored) ▸ joined
    · exact List.mem_singleton.mp new ▸ joined

/-- A request that inserts nothing and keeps to other fields leaves the accounts as they may be. -/
theorem tends_of_effect {request : Request} (effect : Effect request c c')
    (updates : request.endpoint = .login ∨ request.endpoint = .updateProfile) : Tends rt c c' := by
  cases effect with
  | unchanged => exact .refl c
  | account new creates inserted =>
    rcases updates with same | same <;> rw [same] at creates <;> rcases creates with none | none <;> cases none
  | contact creates keys inserted =>
    rcases updates with same | same <;> rw [same] at creates <;> cases creates
  | edited edit rewritten =>
    have untouched : ∀ key ∈ "password_hash" :: privilegeKeys, key ∉ edit.update.map Prod.fst := by
      intro key listed
      refine edit.untouched ?_
      revert key
      rcases updates with same | same <;> rw [same] <;> decide
    refine tends_edit rewritten fun d _ => ⟨Document.edit_oid .., fun key privilege => ?_, .inl ?_⟩
    · exact Document.edit_get? (untouched key (List.mem_cons_of_mem _ privilege)) _ d
    · exact Document.edit_get? (untouched _ (List.mem_cons_self ..)) _ d

theorem tends_register {data : RegisterData} (parsed : req.getJson = .ok (.dict [
      ("email", .str data.email),
      ("password", .str data.password),
      ("first_name", .str data.firstName),
      ("last_name", .str data.lastName)])) (long : 8 ≤ jsLength data.password) :
    Tends rt s.users (step rt s ⟨.register, req⟩).users := by
  rcases Auth.post_register rt req s with ⟨same, -⟩ | ⟨r, c, inserted, final, -⟩
  · rw [show step rt s ⟨.register, req⟩ = s from same]
    exact .refl _
  · have stored : (step rt s ⟨.register, req⟩).users = c :=
      (congrArg Server.users final).trans (users_setCollection s c)
    have payload := Except.ok.inj (r.parsed.symm.trans parsed)
    have plain : r.userType = .str "user" := by
      have given := r.userType_given
      rw [payload] at given
      exact (Except.ok.inj given).symm
    have password : r.password = data.password := by
      have given := r.password_given
      rw [payload] at given
      simpa [Value.pyIndex, List.lookup_cons] using given.symm
    rw [stored]
    refine tends_append (Collection.insertOne_ok inserted).1 ⟨?_, req.salt, r.password, rfl, by rwa [password]⟩
    have typed : (⟨req.oid, r.fields⟩ : Document).get? "user_type" = some (.str "user") := congrArg some plain
    simp only [newPrivileges, List.forall_mem_cons, List.not_mem_nil, false_implies, implies_true, and_true]
    exact ⟨typed, rfl, rfl, rfl, rfl⟩

theorem tends_changePassword {new : String} (new_given : req.field "new_password" = some (.str new))
    (long : 8 ≤ jsLength new) : Tends rt s.users (step rt s ⟨.changePassword, req⟩).users := by
  have tends : Post exec (Auth.jwtRequired rt req (Auth.changePassword rt req)) s
      fun _ s' => Tends rt s.users s'.users := by
    refine Auth.post_jwtRequired (fun _ _ => .refl _) fun currentUser _ _ => ?_
    refine post_mono (Auth.post_changePassword currentUser s) fun outcome s' done => ?_
    rcases done with ⟨rfl, -⟩ | ⟨p, c, updated, rfl, -⟩
    · exact .refl _
    · have given : p.newPassword = new := by
        have read := (Http.field_of_pyIndex p.parsed p.given).symm.trans new_given
        simpa using read
      rw [users_setCollection]
      rcases Collection.updateOne_ok updated with ⟨-, rfl⟩ | ⟨found, -, rewritten⟩
      · exact .refl _
      · refine tends_edit rewritten fun d _ => ⟨Document.edit_oid .., fun key privilege => ?_, ?_⟩
        · have keys : p.update.map Prod.fst = ["password_hash", "updated_at"] := rfl
          refine Document.edit_get? ?_ _ d
          rw [keys]
          revert key
          decide
        · by_cases own : d.oid = found.oid
          · refine .inr ⟨req.salt, p.newPassword, ?_, by rwa [given]⟩
            rw [← own, Document.edit_self_get?]
            exact Dict.lookup_setAll_cons (by simp) _
          · rw [Document.edit_other _ own]
            exact .inl rfl
  exact tends

theorem users_of_collection {s' : Server} (same : s'.collection = s.collection) : s'.users = s.users :=
  congrFun same .users

end Accounts

/-! Each action sends one request at most. -/

section Actions

variable {rt : Runtime} {browser : Browser} {oidText : Nat → String} {site : Site} {occasion : Occasion}

theorem updateProfile_server {userData : Json} :
    (AuthContext.updateProfile rt browser oidText userData site occasion).2.server =
      (serve rt oidText site.server
        ((AuthApi.updateProfile userData).sent site.localStorage occasion)).2 := by
  rw [← send_server]
  unfold AuthContext.updateProfile
  rcases site.send rt oidText (AuthApi.updateProfile userData) occasion with ⟨result, after⟩
  cases result <;> rfl

theorem changePassword_server {old new : String} :
    (AuthContext.changePassword rt oidText old new site occasion).2.server =
      (serve rt oidText site.server
        ((AuthApi.changePassword old new).sent site.localStorage occasion)).2 := by
  rw [← send_server]
  unfold AuthContext.changePassword
  rcases site.send rt oidText (AuthApi.changePassword old new) occasion with ⟨result, after⟩
  cases result <;> rfl

theorem handleProfileUpdate_server {form : ProfileForm} :
    (form.handleProfileUpdate rt browser oidText site occasion).2.server =
      (AuthContext.updateProfile rt browser oidText form.formData site occasion).2.server := by
  unfold ProfileForm.handleProfileUpdate
  rcases AuthContext.updateProfile rt browser oidText form.formData site occasion with ⟨result, after⟩
  cases result <;> rfl

/-- A password that the form sends is long enough. -/
theorem handlePasswordUpdate_server {form : PasswordForm} :
    (form.handlePasswordUpdate rt oidText site occasion).2.server = site.server ∨
      8 ≤ jsLength form.newPassword ∧ (form.handlePasswordUpdate rt oidText site occasion).2.server =
        (AuthContext.changePassword rt oidText form.currentPassword form.newPassword site occasion).2.server := by
  unfold PasswordForm.handlePasswordUpdate
  split_ifs with differ short
  · exact .inl rfl
  · exact .inl rfl
  · refine .inr ⟨not_lt.mp short, ?_⟩
    rcases AuthContext.changePassword rt oidText form.currentPassword form.newPassword site occasion with
      ⟨result, after⟩
    cases result <;> rfl

theorem handleUpgrade_server : (handleUpgrade rt browser oidText site occasion).2.server = site.server ∨
    (handleUpgrade rt browser oidText site occasion).2.server =
      (AuthContext.updateProfile rt browser oidText upgradeData site occasion).2.server := by
  unfold handleUpgrade
  split_ifs
  · rcases AuthContext.updateProfile rt browser oidText upgradeData site occasion with ⟨result, after⟩
    cases result <;> exact .inr rfl
  · exact .inl rfl

/-- A profile is read without a write. -/
theorem serve_getProfile (s : Server) (storage : LocalStorage) :
    (serve rt oidText s (AuthApi.getProfile.sent storage occasion)).2 = s := by
  let req := (AuthApi.getProfile.sent storage occasion).http
  have reads := @calls_jwtRequired rt req (Auth.getProfileWith oidText)
    (fun op => ∀ s, (exec op s).2 = s) (fun _ _ => rfl) fun _ => calls_pure _
  exact @Calls.run_frame _ _ _ _ _ _ exec _ id (fun op s keeps => keeps s) _ reads s

theorem getInitialState_server : (site.getInitialState browser).server = site.server := by
  unfold Site.getInitialState
  dsimp only
  split
  · split_ifs
    · rfl
    · split <;> rfl
  · rfl

theorem RegisterForm.long {form : RegisterForm} (valid : form.validateForm = []) :
    8 ≤ jsLength form.formData.password := by
  unfold validateForm at valid
  simp only [List.append_eq_nil_iff] at valid
  obtain ⟨⟨⟨⟨-, password⟩, -⟩, -⟩, -⟩ := valid
  unfold passwordErrors at password
  split_ifs at password with empty short
  omega

theorem mount_server : (AuthContext.mount rt browser oidText site occasion).2.server = site.server := by
  have started : (site.getInitialState browser).server = site.server := getInitialState_server
  unfold AuthContext.mount
  generalize site.getInitialState browser = opened at started
  rw [← started]
  have sent : (opened.send rt oidText AuthApi.getProfile occasion).2.server = opened.server := by
    rw [send_server]
    exact serve_getProfile _ _
  unfold AuthContext.checkAuth
  cases opened.localStorage.getItem "authToken" with
  | none => rfl
  | some token =>
    dsimp only
    split_ifs
    · rfl
    · rw [← sent]
      split <;> next same => rw [same]; rfl

/-- The requests that the actions send and that may write. -/
inductive FormAction.Asks : Request → Prop where
  | register {data : RegisterData} {req : Http} (parsed : req.getJson = .ok (.dict [
      ("email", .str data.email),
      ("password", .str data.password),
      ("first_name", .str data.firstName),
      ("last_name", .str data.lastName)])) (long : 8 ≤ jsLength data.password) : Asks ⟨.register, req⟩
  | login (req : Http) : Asks ⟨.login, req⟩
  | updateProfile (req : Http) : Asks ⟨.updateProfile, req⟩
  | changePassword {new : String} {req : Http} (new_given : req.field "new_password" = some (.str new))
      (long : 8 ≤ jsLength new) : Asks ⟨.changePassword, req⟩
  | logout (req : Http) : Asks ⟨.logout, req⟩

theorem FormAction.server (action : FormAction) :
    (action.run rt browser oidText site occasion).server = site.server ∨ ∃ request, FormAction.Asks request ∧
      (action.run rt browser oidText site occasion).server = UssdCredit.step rt site.server request := by
  cases action with
  | register form =>
    dsimp only [FormAction.run, RegisterForm.handleSubmit]
    split_ifs with valid
    · have valid : form.validateForm = [] := List.isEmpty_iff.mp valid
      refine .inr ⟨_, ?_, signIn_server⟩
      exact .register rfl (RegisterForm.long valid)
    · exact .inl rfl
  | login form =>
    dsimp only [FormAction.run, LoginForm.handleSubmit]
    split_ifs with empty
    · exact .inl rfl
    · exact .inr ⟨_, .login _, signIn_server⟩
  | googleLogin idToken userInfo => exact .inl signIn_server
  | updateProfile form =>
    exact .inr ⟨_, .updateProfile _, handleProfileUpdate_server.trans updateProfile_server⟩
  | changePassword form =>
    rcases @handlePasswordUpdate_server rt oidText site occasion form with same | ⟨long, sent⟩
    · exact .inl same
    · refine .inr ⟨_, ?_, sent.trans changePassword_server⟩
      exact .changePassword rfl long
  | upgrade =>
    rcases @handleUpgrade_server rt browser oidText site occasion with same | sent
    · exact .inl same
    · exact .inr ⟨_, .updateProfile _, sent.trans updateProfile_server⟩
  | logout => exact .inr ⟨_, .logout _, send_server⟩
  | load => exact .inl mount_server

theorem FormAction.Asks.tends {request : Request} (asks : FormAction.Asks request) (s : Server) :
    Tends rt s.users (UssdCredit.step rt s request).users := by
  cases asks with
  | register parsed long => exact tends_register parsed long
  | login req => exact tends_of_effect (step_effect rt s ⟨.login, req⟩) (.inl rfl)
  | updateProfile req => exact tends_of_effect (step_effect rt s ⟨.updateProfile, req⟩) (.inr rfl)
  | changePassword new_given long => exact tends_changePassword new_given long
  | logout req =>
    rw [users_of_collection (@step_reads rt s ⟨.logout, req⟩ rfl)]
    exact .refl _

theorem FormAction.tends (action : FormAction) :
    Tends rt site.server.users (action.run rt browser oidText site occasion).server.users := by
  rcases @FormAction.server rt browser oidText site occasion action with same | ⟨request, asks, same⟩
  · rw [same]
    exact .refl _
  · rw [same]
    exact asks.tends site.server

/-- The upgrade names no field that a profile has. -/
theorem upgrade_refused (s : Server) (req : Http) (parsed : req.getJson = .ok upgradeData.value) :
    (answer rt s ⟨.updateProfile, req⟩).succeeds = false := by
  have fails : Post exec (Auth.jwtRequired rt req (Auth.updateProfile req)) s
      fun outcome _ => (Outcome.answer outcome).succeeds = false := by
    refine Auth.post_jwtRequired (fun outcome refused => ?_) fun currentUser _ _ => ?_
    · have high := refused.answer_status
      exact Bool.and_eq_false_iff.mpr (.inr (decide_eq_false (by omega)))
    · have collected : upgradeData.value.collectFields Value.stripIfStr Auth.profileFields = .ok [] := rfl
      unfold Post Auth.updateProfile
      rw [run_lift_bind exec parsed, run_lift_bind exec collected]
      rfl
  exact fails

theorem handleUpgrade_fails (text : String) :
    (handleUpgrade rt browser oidText site occasion).1 ≠ some (.success text) := by
  have refused := @upgrade_refused rt site.server
    ((AuthApi.updateProfile upgradeData).sent site.localStorage occasion).http rfl
  obtain ⟨error, failed⟩ : ∃ error,
      (AuthContext.updateProfile rt browser oidText upgradeData site occasion).1 = .error error := by
    unfold AuthContext.updateProfile Site.send
    dsimp only
    rw [show (serve rt oidText site.server ((AuthApi.updateProfile upgradeData).sent site.localStorage
      occasion)).1.succeeds = false from refused, if_neg Bool.false_ne_true]
    split_ifs <;> exact ⟨_, rfl⟩
  unfold handleUpgrade
  split_ifs
  · rcases same : AuthContext.updateProfile rt browser oidText upgradeData site occasion with ⟨result, after⟩
    rw [same] at failed
    obtain rfl : result = .error error := failed
    intro succeeded
    cases succeeded
  · intro succeeded
    cases succeeded

end Actions

/-! Any number of clients. -/

structure Clients where
  pages : Nat → Site
  server : Server

/-- What one client does: it finds the server as the others have left it. -/
def Clients.step (rt : Runtime) (browser : Browser) (oidText : Nat → String) (clients : Clients)
    (event : Nat × FormAction × Occasion) : Clients :=
  let after := event.2.1.run rt browser oidText { clients.pages event.1 with server := clients.server } event.2.2
  ⟨Function.update clients.pages event.1 after, after.server⟩

/-- Whatever people do on the pages of any number of clients, no account gains or loses a privilege
and none is lost; who signs up is an ordinary user, the passwords that are set have eight characters
at least, and the upgrade that the subscription page sells is never made. -/
theorem client_forms_keep_privileges (rt : Runtime) (browser : Browser) (oidText : Nat → String)
    (clients : Clients) (events : List (Nat × FormAction × Occasion)) :
    Throughout (Clients.step rt browser oidText) (fun later =>
      Tends rt clients.server.users later.server.users ∧
      ∀ (i : Nat) (occasion : Occasion) (text : String),
        (handleUpgrade rt browser oidText { later.pages i with server := later.server } occasion).1 ≠
          some (.success text)) clients events := by
  have keeps : ∀ (later : Clients) (event : Nat × FormAction × Occasion),
      Tends rt clients.server.users later.server.users →
      Tends rt clients.server.users (later.step rt browser oidText event).server.users := by
    intro later event tends
    exact tends.trans (@FormAction.tends rt browser oidText
      { later.pages event.1 with server := later.server } event.2.2 event.2.1)
  refine throughout_of_invariant (fun later tends => ?_) keeps (.refl _) events
  exact ⟨tends, fun _ _ text => handleUpgrade_fails text⟩

end UssdCredit
