import UssdCredit.AdminAccounts
import UssdCredit.PasswordSession

/-! The forms of the sign-in page, from the fields to what the server stores: what the registration
form lets through is stored unless its email is taken, and the login form opens the account from
then on. -/

namespace UssdCredit

open Library Program

/-! The patterns of the form. -/

/-- `\s`, and what `trim` drops. -/
def isJsSpace (c : Char) : Bool :=
  c.toNat ∈ [0x9, 0xA, 0xB, 0xC, 0xD, 0x20, 0xA0, 0x1680, 0x2028, 0x2029, 0x202F, 0x205F, 0x3000, 0xFEFF] ||
    0x2000 ≤ c.toNat && c.toNat ≤ 0x200A

/-- What `.` does not match. -/
def isLineEnd (c : Char) : Bool := c.toNat ∈ [0xA, 0xD, 0x2028, 0x2029]

/-- `text.length`. -/
def jsLength (text : String) : Nat := (text.toList.map fun c => if c.toNat < 0x10000 then 1 else 2).sum

/-- `text.trim() === ''`. -/
def isBlank (text : String) : Bool := text.toList.all isJsSpace

/-- `/\S+@\S+\.\S+/.test(text)`: after the sign comes a dot with something on either side. -/
def testEmail : List Char → Bool
  | [] => false
  | c :: rest =>
      (match rest with
        | '@' :: domain =>
            !isJsSpace c && '.' ∈ (domain.takeWhile fun c => !isJsSpace c).tail.dropLast
        | _ => false) || testEmail rest

/-- `/(?=.*[a-z])(?=.*[A-Z])(?=.*\d)/.test(text)`: all three in one line. -/
def testPassword (text : List Char) : Bool :=
  (text.splitOnP isLineEnd).any fun line => line.any Char.isLower && line.any Char.isUpper && line.any Char.isDigit

/-! The forms. -/

structure RegisterForm where
  formData : RegisterData
  confirmPassword : String

namespace RegisterForm

variable (form : RegisterForm)

def emailErrors : List (String × String) :=
  if form.formData.email = "" then [("email", "Email is required")]
  else if !testEmail form.formData.email.toList then [("email", "Email is invalid")]
  else []

def passwordErrors : List (String × String) :=
  if form.formData.password = "" then [("password", "Password is required")]
  else if jsLength form.formData.password < 8 then [("password", "Password must be at least 8 characters")]
  else if !testPassword form.formData.password.toList then
    [("password", "Password must contain at least one uppercase letter, one lowercase letter, and one number")]
  else []

def confirmPasswordErrors : List (String × String) :=
  if form.confirmPassword = "" then [("confirmPassword", "Please confirm your password")]
  else if form.formData.password ≠ form.confirmPassword then [("confirmPassword", "Passwords do not match")]
  else []

def nameErrors (field label text : String) : List (String × String) :=
  if isBlank text then [(field, label ++ " name is required")] else []

/-- The errors `validateForm` sets. -/
def validateForm : List (String × String) :=
  form.emailErrors ++ form.passwordErrors ++ form.confirmPasswordErrors ++
    nameErrors "first_name" "First" form.formData.firstName ++
    nameErrors "last_name" "Last" form.formData.lastName

variable (rt : Runtime) (browser : Browser) (oidText : Nat → String)

/-- A call that throws is caught; the context keeps its error. -/
def handleSubmit (site : Site) (occasion : Occasion) : Site :=
  if form.validateForm.isEmpty then
    (AuthContext.register rt browser oidText form.formData (site.dispatch .clearError) occasion).2
  else site

end RegisterForm

structure LoginForm where
  email : String
  password : String

def LoginForm.handleSubmit (form : LoginForm) (rt : Runtime) (browser : Browser) (oidText : Nat → String)
    (site : Site) (occasion : Occasion) : Site :=
  if form.email = "" ∨ form.password = "" then site
  else (AuthContext.login rt browser oidText form.email form.password (site.dispatch .clearError) occasion).2

/-! A valid form fills every field the server asks for. -/

theorem isBlank_empty : isBlank "" = true := by decide

structure RegisterForm.Filled (form : RegisterForm) : Prop where
  email : form.formData.email ≠ ""
  password : form.formData.password ≠ ""
  firstName : form.formData.firstName ≠ ""
  lastName : form.formData.lastName ≠ ""

theorem RegisterForm.filled {form : RegisterForm} (valid : form.validateForm = []) : form.Filled := by
  unfold validateForm at valid
  simp only [List.append_eq_nil_iff] at valid
  obtain ⟨⟨⟨⟨email, password⟩, -⟩, first⟩, last⟩ := valid
  have named : ∀ {field label text : String}, nameErrors field label text = [] → text ≠ "" := by
    rintro field label text none rfl
    unfold nameErrors at none
    rw [if_pos isBlank_empty] at none
    cases none
  refine ⟨fun empty => ?_, fun empty => ?_, named first, named last⟩
  · unfold emailErrors at email
    rw [if_pos empty] at email
    cases email
  · unfold passwordErrors at password
    rw [if_pos empty] at password
    cases password

/-! The calls. -/

section Calls

variable {rt : Runtime} {browser : Browser} {oidText : Nat → String} {site : Site} {occasion : Occasion}

/-- The message of a refusal is the error of the context. -/
theorem signIn_refused {call : AuthCall} {text : String} {status : Nat} {refusal : String}
    (answered : (serve rt oidText site.server (call.request.sent site.localStorage occasion)).1 =
      message status refusal) (refused : 300 ≤ status) (given : refusal ≠ "") :
    (AuthContext.signIn rt browser oidText call.request text site occasion).2.state.error =
      some (.str refusal) := by
  have failed : ¬(message status refusal).succeeds = true := by
    change ¬(decide (200 ≤ status) && decide (status < 300)) = true
    rw [Bool.and_eq_true, decide_eq_true_eq, decide_eq_true_eq]
    omega
  have shown : AuthContext.errorMessage (some (message status refusal)) text = some (.str refusal) := by
    have truthy : Js.truthy (some (.str refusal)) = true := by simp [Js.truthy, Value.truthy, given]
    exact if_pos truthy
  obtain ⟨after, sent⟩ : ∃ after, (site.dispatch .authStart).send rt oidText call.request occasion =
      (.error (message status refusal), after) := by
    unfold Site.send
    dsimp only
    rw [show (serve rt oidText (site.dispatch .authStart).server (call.request.sent
      (site.dispatch .authStart).localStorage occasion)).1 = _ from answered, if_neg failed]
    split_ifs <;> exact ⟨_, rfl⟩
  simp only [AuthContext.signIn, sent]
  exact shown

theorem send_server {request : ApiRequest} :
    (site.send rt oidText request occasion).2.server =
      (serve rt oidText site.server (request.sent site.localStorage occasion)).2 := by
  unfold Site.send
  dsimp only
  split_ifs <;> rfl

/-- Whatever becomes of a call, the server has handled its request. -/
theorem signIn_server {request : ApiRequest} {text : String} :
    (AuthContext.signIn rt browser oidText request text site occasion).2.server =
      (serve rt oidText site.server (request.sent site.localStorage occasion)).2 := by
  have handled : ((site.dispatch .authStart).send rt oidText request occasion).2.server =
      (serve rt oidText site.server (request.sent site.localStorage occasion)).2 := send_server
  rw [← handled]
  unfold AuthContext.signIn
  rcases (site.dispatch .authStart).send rt oidText request occasion with ⟨result, after⟩
  dsimp only
  split <;> rfl

end Calls

/-! The answers of the server to the two forms. -/

section Answers

variable {rt : Runtime} {s : Server} {req : Http}

/-- The driver takes the document of a registration that names no user type. -/
theorem inserts_plain (r : Auth.Registration rt req s.users) (plain : r.userType = .str "user")
    (fresh : req.oid ∉ s.users.docs.map Document.oid) (small : s.users.docs.length + 1 < 2 ^ 63) :
    ∃ c, s.users.insertOne req.oid r.fields = .ok c := by
  refine Collection.inserts_iff.mp ⟨fresh, ?_⟩
  have counted : encodeInt (Auth.nextUserId s.users) = none := by
    rw [nextUserId_eq, encodeInt_natCast, if_pos small]
  have keys : ∀ key ∈ r.fields.map Prod.fst, encodeKey key = none := by
    have listed : r.fields.map Prod.fst = ["id", "email", "password_hash", "first_name",
      "last_name", "user_type", "email_verified", "phone_verified", "is_active", "is_suspended",
      "created_at", "updated_at"] := rfl
    rw [listed]
    decide
  rw [bsonErrorEntries_none]
  intro entry member
  refine ⟨keys entry.1 (List.mem_map_of_mem member), ?_⟩
  simp only [Auth.Registration.fields, Auth.newUser, plain, List.mem_cons, List.not_mem_nil,
    or_false] at member
  rcases member with rfl | rfl | rfl | rfl | rfl | rfl | rfl | rfl | rfl | rfl | rfl | rfl
  · simpa only [Value.bsonError] using counted
  all_goals rfl

/-- The request of a registration form. -/
structure Asks (req : Http) (data : RegisterData) : Prop where
  parsed : req.getJson = .ok (.dict [
    ("email", .str data.email),
    ("password", .str data.password),
    ("first_name", .str data.firstName),
    ("last_name", .str data.lastName)])
  email : data.email ≠ ""
  password : data.password ≠ ""
  firstName : data.firstName ≠ ""
  lastName : data.lastName ≠ ""

theorem Asks.complete {data : RegisterData} (asks : Asks req data) :
    (Value.dict [("email", .str data.email), ("password", .str data.password),
      ("first_name", .str data.firstName), ("last_name", .str data.lastName)]).missingField
        ["email", "password", "first_name", "last_name"] = .ok none := by
  simp [Value.missingField, Value.pyGet_dict, List.lookup_cons, Value.truthy, asks.email,
    asks.password, asks.firstName, asks.lastName]

/-- The registration of a form whose email is free. -/
def Asks.registration {data : RegisterData} (asks : Asks req data)
    (free : s.users.first? [.eq "email" (.str (Auth.lowerStrip rt data.email))] = none) :
    Auth.Registration rt req s.users where
  data := _
  email := data.email
  password := data.password
  firstName := data.firstName
  lastName := data.lastName
  userType := .str "user"
  parsed := asks.parsed
  complete := asks.complete
  email_given := rfl
  password_given := rfl
  firstName_given := rfl
  lastName_given := rfl
  userType_given := rfl
  unregistered := free

theorem run_register_taken {data : RegisterData} (asks : Asks req data) {d : Document}
    (taken : s.users.first? [.eq "email" (.str (Auth.lowerStrip rt data.email))] = some d) :
    (Auth.register rt req).run exec s = (.ok (message 409 "Email already registered"), s) := by
  have searched : Filter.bsonError [.eq "email" (.str (Auth.lowerStrip rt data.email))] = none := rfl
  have users : s.collection .users = s.users := rfl
  unfold Auth.register
  rw [run_lift_bind exec asks.parsed, run_lift_bind exec asks.complete]
  dsimp only
  rw [run_lift_bind exec (Value.pyIndex_held rfl), run_lift_bind exec (Value.pyStr_str ..),
    run_lift_bind exec (Value.pyIndex_held rfl), run_lift_bind exec (Value.pyIndex_held rfl),
    run_lift_bind exec (Value.pyStr_str ..), run_lift_bind exec (Value.pyIndex_held rfl),
    run_lift_bind exec (Value.pyStr_str ..), run_findOne searched, users, taken]
  rfl

/-- What a login with the account's email is answered. -/
theorem run_login_account (exact : rt.HashExact) {id : Int} {email password e p : String} {d : Document}
    {salt : Nat} (account : IsAccount id email s.users d)
    (hashed : d.get? "password_hash" = some (.str (rt.hash salt password)))
    (email_given : req.field "email" = some (.str e)) (email_right : Auth.lowerStrip rt e = email)
    (password_given : req.field "password" = some (.str p)) (e_text : e ≠ "") (p_text : p ≠ "")
    (refused : p ≠ password ∨ Auth.isActive d = false) :
    (Auth.login rt req).run exec s =
      (.ok (message 401 (if p ≠ password then "Invalid credentials" else "Account is suspended")), s) := by
  have compared : checkPasswordHash rt (.str (rt.hash salt password)) (.str p) =
      .ok (decide (password = p)) := checkPasswordHash_hash exact ..
  rw [run_login_search email_given password_given e_text p_text, email_right, account.first?_email]
  unfold loginTo
  dsimp only
  rw [run_lift_bind exec (Document.index_of_get? hashed), run_lift_bind exec compared]
  by_cases right : p = password
  · have inactive : (d.get "is_active" (.bool true)).truthy = false :=
      refused.resolve_left (not_not_intro right)
    rw [if_pos (decide_eq_true right.symm), inactive, if_neg (not_not_intro right)]
    rfl
  · rw [if_neg (by simpa using Ne.symm right), if_pos right]
    rfl

end Answers

/-! The forms on a page. -/

section Forms

variable {rt : Runtime} {browser : Browser} {oidText : Nat → String} {site : Site} {occasion : Occasion}

/-- A valid form whose email is taken is refused with the reason. -/
theorem register_form_taken {form : RegisterForm} (valid : form.validateForm = []) {d : Document}
    (taken : site.server.users.first? [.eq "email" (.str (Auth.lowerStrip rt form.formData.email))] = some d) :
    let joined := form.handleSubmit rt browser oidText site occasion
    joined.state.error = some (.str "Email already registered") ∧ joined.server = site.server := by
  intro joined
  obtain ⟨email, password, firstName, lastName⟩ := RegisterForm.filled valid
  let request := (AuthApi.register form.formData).sent site.localStorage occasion
  have asks : Asks request.http form.formData := ⟨rfl, email, password, firstName, lastName⟩
  have ran := run_register_taken asks taken
  have answered : answer rt site.server request = message 409 "Email already registered" :=
    congrArg (fun result : Outcome × Server => result.1.answer) ran
  have kept : step rt site.server request = site.server :=
    congrArg (fun result : Outcome × Server => result.2) ran
  have sent : joined = (AuthContext.register rt browser oidText form.formData (site.dispatch .clearError)
      occasion).2 := if_pos (by rw [valid]; rfl)
  rw [sent]
  refine ⟨?_, signIn_server.trans kept⟩
  exact @signIn_refused rt browser oidText (site.dispatch .clearError) occasion
    (.register form.formData) "Registration failed" 409 "Email already registered" answered (by decide)
    (by decide)

/-- A valid form whose email is free makes an account with the password of the form. -/
theorem register_form_free {form : RegisterForm} (valid : form.validateForm = [])
    (free : site.server.users.first? [.eq "email" (.str (Auth.lowerStrip rt form.formData.email))] = none)
    (fresh : occasion.oid ∉ site.server.users.docs.map Document.oid)
    (small : site.server.users.docs.length + 1 < 2 ^ 63) :
    let joined := form.handleSubmit rt browser oidText site occasion
    joined.state.error = some .null ∧
      (∃ request, joined.server = step rt site.server request) ∧
      Keeps rt (Auth.nextUserId site.server.users) (Auth.lowerStrip rt form.formData.email)
        form.formData.password joined.server.users := by
  intro joined
  obtain ⟨email, password, firstName, lastName⟩ := RegisterForm.filled valid
  let request := (AuthApi.register form.formData).sent site.localStorage occasion
  have asks : Asks request.http form.formData := ⟨rfl, email, password, firstName, lastName⟩
  let r : Auth.Registration rt request.http site.server.users := asks.registration free
  obtain ⟨c, inserted⟩ := inserts_plain r rfl fresh small
  have ran : (handler rt request).serve site.server = (.ok r.response, site.server.setCollection .users c) :=
    Auth.run_register r inserted
  have answered : answer rt site.server request = r.response :=
    congrArg (fun result : Outcome × Server => result.1.answer) ran
  have stored : step rt site.server request = site.server.setCollection .users c :=
    congrArg (fun result : Outcome × Server => result.2) ran
  have sent : joined = (AuthContext.register rt browser oidText form.formData (site.dispatch .clearError)
      occasion).2 := if_pos (by rw [valid]; rfl)
  obtain ⟨-, state, -, -⟩ := @signIn_undefined rt browser oidText (site.dispatch .clearError) occasion
    (.register form.formData) "Registration failed" 201 _ answered (by decide)
  have after : joined.server = step rt site.server request := by
    rw [sent]
    exact signIn_server
  refine ⟨?_, ⟨request, after⟩, ?_⟩
  · rw [sent]
    exact congrArg AuthState.error state
  · rw [after, stored, users_setCollection]
    exact ⟨⟨request.http.oid, r.fields⟩, isAccount_registered r inserted, request.http.salt, rfl⟩

/-- What the login form shows to who gives an account's email. -/
theorem login_form_shows (exact : rt.HashExact) {id : Int} {email password : String} {d : Document}
    {salt : Nat} (account : IsAccount id email site.server.users d)
    (hashed : d.get? "password_hash" = some (.str (rt.hash salt password))) {form : LoginForm}
    (right : Auth.lowerStrip rt form.email = email) (email_given : form.email ≠ "")
    (password_given : form.password ≠ "") :
    (form.handleSubmit rt browser oidText site occasion).state.error =
      if form.password ≠ password then some (.str "Invalid credentials")
      else if Auth.isActive d then some .null
      else some (.str "Account is suspended") := by
  let request := (AuthApi.login form.email form.password).sent site.localStorage occasion
  have sent : form.handleSubmit rt browser oidText site occasion =
      (AuthContext.login rt browser oidText form.email form.password (site.dispatch .clearError) occasion).2 :=
    if_neg (not_or.mpr ⟨email_given, password_given⟩)
  rw [sent]
  by_cases accepted : form.password = password ∧ Auth.isActive d = true
  · obtain ⟨same, active⟩ := accepted
    rw [if_neg (not_not_intro same), if_pos active]
    rw [← same] at hashed
    obtain ⟨ok, -⟩ := @login_succeeds rt site.server exact id email form.email form.password d salt
      request.http account hashed active rfl right rfl email_given password_given
    rcases Auth.post_login rt request.http site.server with ⟨-, refused⟩ | ⟨l, c, -, -, issued⟩
    · have high : 400 ≤ (answer rt site.server request).status := refused.answer_status
      have ok' : (answer rt site.server request).status = 200 := ok
      omega
    · obtain ⟨known⟩ := issued _ (Outcome.ok_of_status ok)
      obtain ⟨-, state, -, -⟩ := @signIn_undefined rt browser oidText (site.dispatch .clearError) occasion
        (.login form.email form.password) "Login failed" 200 _ known.answered (by decide)
      exact congrArg AuthState.error state
  · have refused : form.password ≠ password ∨ Auth.isActive d = false := by
      by_contra neither
      simp only [not_or, not_not, Bool.not_eq_false] at neither
      exact accepted neither
    have ran := @run_login_account rt site.server request.http exact id email password form.email
      form.password d salt account hashed rfl right rfl email_given password_given refused
    have answered : answer rt site.server request = message 401
        (if form.password ≠ password then "Invalid credentials" else "Account is suspended") :=
      congrArg (fun result : Outcome × Server => result.1.answer) ran
    have given : (if form.password ≠ password then "Invalid credentials" else "Account is suspended") ≠ "" := by
      split_ifs <;> decide
    have shown := @signIn_refused rt browser oidText (site.dispatch .clearError) occasion
      (.login form.email form.password) "Login failed" 401 _ answered (by decide) given
    refine shown.trans ?_
    by_cases wrong : form.password ≠ password
    · rw [if_pos wrong, if_pos wrong]
    · have inactive := refused.resolve_left wrong
      rw [if_neg wrong, if_neg wrong, inactive]
      rfl

end Forms

/-- A registration form without errors is refused for its email or makes an account. That account is
the one the login form opens, in whatever spelling of the email and in every later state of the
server: with the current password while it is active, and with no other password ever. -/
theorem registered_account_signs_in {rt : Runtime} (exact : rt.HashExact) (browser : Browser)
    (oidText : Nat → String) {site : Site} (start : Identified site.server.users) {form : RegisterForm}
    (valid : form.validateForm = []) (occasion : Occasion)
    (fresh : occasion.oid ∉ site.server.users.docs.map Document.oid)
    (small : site.server.users.docs.length + 1 < 2 ^ 63) :
    let email := Auth.lowerStrip rt form.formData.email
    let joined := form.handleSubmit rt browser oidText site occasion
    if site.server.users.first? [.eq "email" (.str email)] ≠ none then
      joined.state.error = some (.str "Email already registered") ∧ joined.server = site.server
    else
      joined.state.error = some .null ∧ ∃ id : Int, ∀ (after : List Request) (page : Site),
        page.server = run rt joined.server after →
          ∃ account ∈ page.server.users.docs, account.get? "id" = some (.int id) ∧
            account.get? "email" = some (.str email) ∧
            ∀ (login : LoginForm) (occasion : Occasion), Auth.lowerStrip rt login.email = email →
              login.email ≠ "" → login.password ≠ "" →
                (login.handleSubmit rt browser oidText page occasion).state.error =
                  if login.password ≠
                      currentPassword rt (.int id) joined.server after form.formData.password then
                    some (.str "Invalid credentials")
                  else if Auth.isActive account then some .null
                  else some (.str "Account is suspended") := by
  intro email joined
  split_ifs with known
  · obtain ⟨d, taken⟩ := Option.ne_none_iff_exists'.mp known
    exact register_form_taken valid taken
  · obtain ⟨shown, ⟨request, handled⟩, keeps⟩ := @register_form_free rt browser oidText site occasion form
      valid (not_not.mp known) fresh small
    have identified : Identified joined.server.users := by
      rw [show joined.server = _ from handled]
      exact start.effect (step_effect rt _ request)
    refine ⟨shown, Auth.nextUserId site.server.users, fun after page same => ?_⟩
    obtain ⟨account, isAccount, salt, hashed⟩ := keeps.run identified after
    rw [← same] at isAccount
    refine ⟨account, isAccount.member, isAccount.id_stored, isAccount.email_stored, ?_⟩
    exact fun login occasion right email_given password_given =>
      login_form_shows exact isAccount hashed right email_given password_given

/-- The form of a new visitor. -/
def sarahsForm : RegisterForm :=
  ⟨⟨"Sarah@example.com", "S3cretpw", "Sarah", "Kimani"⟩, "S3cretpw"⟩

theorem sarahsForm_valid : sarahsForm.validateForm = [] := by decide +kernel

theorem registered_account_signs_in_sarah :
    let joined := sarahsForm.handleSubmit plainRuntime plainBrowser toString (visitor Server.initial) ⟨0, 0, 1⟩
    joined.state.error = some .null ∧ ∃ id : Int, ∀ (after : List Request) (page : Site),
      page.server = run plainRuntime joined.server after →
        ∃ account ∈ page.server.users.docs,
          account.get? "email" = some (.str (Auth.lowerStrip plainRuntime "Sarah@example.com")) ∧
          ∀ occasion : Occasion,
            (LoginForm.handleSubmit ⟨"Sarah@example.com", "secret"⟩ plainRuntime plainBrowser toString page
              occasion).state.error =
              if "secret" ≠ currentPassword plainRuntime (.int id) joined.server after "S3cretpw" then
                some (.str "Invalid credentials")
              else if Auth.isActive account then some .null
              else some (.str "Account is suspended") := by
  intro joined
  have free : ¬(visitor Server.initial).server.users.first?
      [.eq "email" (.str (Auth.lowerStrip plainRuntime sarahsForm.formData.email))] ≠ none :=
    not_not_intro rfl
  have opens := @registered_account_signs_in plainRuntime plainRuntime_hashExact plainBrowser toString
    (visitor Server.initial) identified_initial sarahsForm sarahsForm_valid ⟨0, 0, 1⟩ (List.not_mem_nil)
    (by decide)
  dsimp only at opens
  rw [if_neg free] at opens
  obtain ⟨shown, id, opens⟩ := opens
  refine ⟨shown, id, fun after page same => ?_⟩
  obtain ⟨account, member, -, email, accepts⟩ := opens after page same
  exact ⟨account, member, email, fun occasion =>
    accepts ⟨"Sarah@example.com", "secret"⟩ occasion rfl (by decide) (by decide)⟩

end UssdCredit
