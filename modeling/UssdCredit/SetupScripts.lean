import UssdCredit.AdminDecorators
import UssdCredit.AdminGate
import UssdCredit.AuthContext
import UssdCredit.PasswordEndpoints

/-! The scripts that set a deployed server up from outside, over its API: create_admin.py and
populate_influencers.py. A request of theirs may get lost, and so may its answer. -/

namespace UssdCredit.Scripts

open Library Program

/-- What becomes of a request: `requests` raises for the last two. -/
inductive Delivery where
  | answered
  | lost
  | unanswered

/-- A request on its way. -/
structure Attempt where
  delivery : Delivery
  occasion : Occasion

/-- A request with the headers and the JSON of a call of `requests`. -/
def request (endpoint : Endpoint) (token : Option String) (json : Option Json) (occasion : Occasion) :
    Request :=
  ⟨endpoint, ⟨token.map ("Bearer " ++ ·), json, [], occasion.now, occasion.salt, occasion.oid⟩⟩

variable (rt : Runtime)

/-- A call of `requests`: the response, or `none` where it raises, and the server afterwards. -/
def ask (delivery : Delivery) (routed : Option Request) (s : Server) : Option Response × Server :=
  match delivery, routed with
  | .answered, some request => (some (answer rt s request), step rt s request)
  | .answered, none => (some notFound, s)
  | .lost, _ => (none, s)
  | .unanswered, some request => (none, step rt s request)
  | .unanswered, none => (none, s)

/-! The administrator. -/

section CreateAdmin

variable (adminEmail adminPassword firstName lastName : String)

theorem credentials_isJson :
    (Value.dict [("email", .str adminEmail), ("password", .str adminPassword)]).isJson = true := rfl

def loginRequest (occasion : Occasion) : Request :=
  request .login none (some ⟨.dict [
    ("email", .str adminEmail),
    ("password", .str adminPassword)], credentials_isJson adminEmail adminPassword⟩) occasion

def registerRequest (occasion : Occasion) : Request :=
  request .register none (some ⟨.dict [
    ("email", .str adminEmail),
    ("password", .str adminPassword),
    ("first_name", .str firstName),
    ("last_name", .str lastName),
    ("user_type", .str "admin")], rfl⟩) occasion

/-- The second `try` block: the setup endpoint, and the registration as a fallback. The module of
the setup endpoint does not compile, and the blueprint goes on without it. -/
def setUpAdmin (setup register : Attempt) (s : Server) : Bool × Server :=
  match ask rt setup.delivery none s with
  | (none, s) => (false, s)
  | (some setupResponse, s) =>
      if setupResponse.status = 201 then (true, s)
      else
        match ask rt register.delivery
            (some (registerRequest adminEmail adminPassword firstName lastName register.occasion)) s with
        | (none, s) => (false, s)
        | (some registerResponse, s) => (registerResponse.status == 201, s)

/-- A login that is refused ends the script; any other failure of it does not. -/
def createAdminUser (login setup register : Attempt) (s : Server) : Bool × Server :=
  match ask rt login.delivery (some (loginRequest adminEmail adminPassword login.occasion)) s with
  | (none, s) => setUpAdmin rt adminEmail adminPassword firstName lastName setup register s
  | (some loginResponse, s) =>
      if loginResponse.status = 200 then (true, s)
      else if loginResponse.status = 401 then (false, s)
      else setUpAdmin rt adminEmail adminPassword firstName lastName setup register s

/-- The end of `test_admin_access`: a request for the influencers with the token of the login. -/
def accessWith (loginResponse : Response) (influencers : Attempt) (s : Server) : Bool × Server :=
  if loginResponse.status = 200 then
    match loginResponse.token? with
    | none => (false, s)
    | some token =>
        if token = "" then (false, s)
        else
          match ask rt influencers.delivery
              (some (request .adminListInfluencers (some token) none influencers.occasion)) s with
          | (none, s) => (false, s)
          | (some adminResponse, s) => (adminResponse.status == 200, s)
  else (false, s)

/-- The check of the new administrator. -/
def testAdminAccess (setupLogin login influencers : Attempt) (s : Server) : Bool × Server :=
  match ask rt setupLogin.delivery none s with
  | (none, s) => (false, s)
  | (some setupResponse, s) =>
      if setupResponse.status = 200 then accessWith rt setupResponse influencers s
      else
        match ask rt login.delivery (some (loginRequest adminEmail adminPassword login.occasion)) s with
        | (none, s) => (false, s)
        | (some loginResponse, s) => accessWith rt loginResponse influencers s

end CreateAdmin

/-! The influencers. -/

/-- A sample influencer as JSON. -/
def sample (name phone : String) (received : Int) (imageUrl ussdShortcode : String) : Json :=
  ⟨.dict [
    ("name", .str name),
    ("phone", .str phone),
    ("received", .int received),
    ("imageUrl", .str imageUrl),
    ("ussd_shortcode", .str ussdShortcode)], rfl⟩

/-- SAMPLE_INFLUENCERS. -/
def sampleInfluencers : List Json :=
  let photo (id : String) :=
    "https://images.unsplash.com/photo-" ++ id ++ "?w=150&h=150&fit=crop&crop=face"
  [ sample "Sarah Kimani" "+254700000001" 2500 (photo "1494790108755-2616b612b786") "123",
    sample "David Ochieng" "+254700000002" 1800 (photo "1507003211169-0a1dd7228f2d") "124",
    sample "Grace Wanjiku" "+254700000003" 3200 (photo "1438761681033-6461ffad8d80") "125",
    sample "Michael Odhiambo" "+254700000004" 1500 (photo "1472099645785-5658abf4ff4e") "126",
    sample "Faith Akinyi" "+254700000005" 4100 (photo "1544005313-94ddf0286df2") "127",
    sample "James Kiprop" "+254700000006" 2800 (photo "1500648767791-00dcc994a43e") "128",
    sample "Mercy Njeri" "+254700000007" 3600 (photo "1534528741775-53994a69daeb") "129" ]

/-- What the loop counts. -/
structure Counts where
  success : Nat
  error : Nat
  deriving DecidableEq

/-- The loop over the influencers; an empty token sends no header. -/
def addInfluencers (adminToken : Option String) (attempt : Nat → Attempt) :
    List Json → Nat → Counts → Server → Counts × Server
  | [], _, counts, s => (counts, s)
  | data :: rest, i, counts, s =>
      let (response, s) := ask rt (attempt i).delivery
        (some (request .adminCreateInfluencer (adminToken.filter (· ≠ "")) (some data)
          (attempt i).occasion)) s
      let counts := if response.any (·.status = 201) then { counts with success := counts.success + 1 }
        else { counts with error := counts.error + 1 }
      addInfluencers adminToken attempt rest (i + 1) counts s

def populateInfluencers (adminToken : Option String) (attempt : Nat → Attempt) (s : Server) :
    Counts × Server :=
  addInfluencers rt adminToken attempt sampleInfluencers 1 ⟨0, 0⟩ s

/-! The influencer routes, which answer every request of the scripts with an error. -/

section Refused

variable {rt} {s : Server}

theorem adminRefusal_isRefusal (req : Http) (found : Option Document) :
    IsRefusal (Auth.adminRefusal rt req found) := by
  unfold Auth.adminRefusal
  split_ifs
  · exact isRefusal_message (by decide) _
  · exact Auth.jwtRefusal_isRefusal found

/-- Whoever asks, the view is not reached and nothing changes. -/
theorem undecorated_refused {request : Request} {view : Prog Response}
    (routed : request.endpoint.undecorated request.http = some view)
    (guarded : request.endpoint.requiresAdmin = true) :
    IsRefusal ((handler rt request).serve s).1 ∧ ((handler rt request).serve s).2 = s := by
  cases admitted : (Auth.resolve rt request.http s.users).any
      (fun d => Auth.isActive d && Auth.isAdmin d) with
  | false =>
    rw [serve_refused guarded admitted]
    exact ⟨adminRefusal_isRefusal _ _, rfl⟩
  | true =>
    obtain ⟨currentUser, resolved, admits⟩ := (Option.any_eq_true _ _).mp admitted
    obtain ⟨active, admin⟩ := (Bool.and_eq_true _ _).mp admits
    obtain ⟨e, -, ran⟩ := run_undecorated routed resolved active admin
    rw [ran]
    exact ⟨isRefusal_error e, rfl⟩

theorem ask_undecorated {delivery : Delivery} {request : Request} {view : Prog Response}
    (routed : request.endpoint.undecorated request.http = some view)
    (guarded : request.endpoint.requiresAdmin = true) :
    (ask rt delivery (some request) s).2 = s ∧
      ∀ response, (ask rt delivery (some request) s).1 = some response → 400 ≤ response.status := by
  obtain ⟨refused, kept⟩ := @undecorated_refused rt s request view routed guarded
  cases delivery with
  | answered => exact ⟨kept, fun response same => Option.some.inj same ▸ refused.answer_status⟩
  | lost => exact ⟨rfl, fun response same => by cases same⟩
  | unanswered => exact ⟨kept, fun response same => by cases same⟩

end Refused

/-- No sample is ever added: the loop counts an error for each, whatever the token and whatever
becomes of the requests, and the server is the one it was. -/
theorem populateInfluencers_adds_none (rt : Runtime) (adminToken : Option String)
    (attempt : Nat → Attempt) (s : Server) :
    populateInfluencers rt adminToken attempt s = (⟨0, sampleInfluencers.length⟩, s) := by
  have counted : ∀ (samples : List Json) (i : Nat) (counts : Counts),
      addInfluencers rt adminToken attempt samples i counts s =
        (⟨counts.success, counts.error + samples.length⟩, s) := by
    intro samples
    induction samples with
    | nil => exact fun i counts => rfl
    | cons data rest ih =>
      intro i counts
      unfold addInfluencers
      rcases asked : ask rt (attempt i).delivery (some (request .adminCreateInfluencer
        (adminToken.filter (· ≠ "")) (some data) (attempt i).occasion)) s with ⟨response, after⟩
      obtain ⟨kept, refused⟩ := @ask_undecorated rt s (attempt i).delivery
        (request .adminCreateInfluencer (adminToken.filter (· ≠ "")) (some data) (attempt i).occasion)
        _ rfl rfl
      rw [asked] at kept refused
      obtain rfl : after = s := kept
      have failed : ¬response.any (fun r => decide (r.status = 201)) = true := by
        intro created
        obtain ⟨r, rfl, status⟩ := (Option.any_eq_true _ _).mp created
        have high := refused r rfl
        rw [of_decide_eq_true status] at high
        exact absurd high (by decide)
      dsimp only
      rw [if_neg failed, ih, List.length_cons, Nat.add_right_comm, Nat.add_assoc]
  exact (counted sampleInfluencers 1 ⟨0, 0⟩).trans (by rw [Nat.zero_add])

/-! What the scripts do to the accounts. -/

/-- The accounts are the ones there were, up to the time of their last login. -/
structure KeepsAccounts (users users' : Collection) : Prop where
  count : users'.docs.length = users.docs.length
  kept : ∀ d ∈ users.docs, ∃ d' ∈ users'.docs, d'.oid = d.oid ∧
    ∀ key, key ≠ "last_login" → d'.get? key = d.get? key

section Accounts

variable {rt} {s : Server}

theorem KeepsAccounts.refl (users : Collection) : KeepsAccounts users users :=
  ⟨rfl, fun d member => ⟨d, member, rfl, fun _ _ => rfl⟩⟩

theorem keepsAccounts_login (req : Http) : KeepsAccounts s.users (step rt s ⟨.login, req⟩).users := by
  have effect := step_effect rt s ⟨.login, req⟩
  refine ⟨?_, fun d member => ?_⟩
  · generalize (step rt s ⟨.login, req⟩).users = after at effect
    cases effect with
    | unchanged => rfl
    | account new creates inserted => rcases creates with creates | creates <;> cases creates
    | contact creates keys inserted => cases creates
    | edited edit rewritten => rw [rewritten, List.length_map]
  · obtain ⟨d', member', sameId, same⟩ := effect.keeps_document member
    refine ⟨d', member', sameId, fun key other => same key ?_⟩
    simpa [Endpoint.updates] using other

/-- A login with an email nobody has is refused. -/
theorem answer_login_unknown {email password : String} {occasion : Occasion}
    (email_given : email ≠ "") (password_given : password ≠ "")
    (unknown : s.users.first? [.eq "email" (.str (Auth.lowerStrip rt email))] = none) :
    (answer rt s (loginRequest email password occasion)).status = 401 := by
  have searched := @run_login_search rt s (loginRequest email password occasion).http email password
    rfl rfl email_given password_given
  rw [unknown] at searched
  have ended : (handler rt (loginRequest email password occasion)).serve s =
      (.ok (message 401 "Invalid credentials"), s) := searched
  unfold answer
  rw [ended]
  rfl

/-- A registration that creates an account names an email nobody has. -/
theorem register_refused {email password firstName lastName : String} {occasion : Occasion}
    (taken : email = "" ∨ password = "" ∨
      s.users.first? [.eq "email" (.str (Auth.lowerStrip rt email))] ≠ none) :
    400 ≤ (answer rt s (registerRequest email password firstName lastName occasion)).status ∧
      step rt s (registerRequest email password firstName lastName occasion) = s := by
  rcases Auth.post_register rt (registerRequest email password firstName lastName occasion).http s with
    ⟨same, refused⟩ | ⟨r, c, -, -, -⟩
  · exact ⟨refused.answer_status, same⟩
  · have parsed : (registerRequest email password firstName lastName occasion).http.getJson =
        .ok (.dict [("email", .str email), ("password", .str password), ("first_name", .str firstName),
          ("last_name", .str lastName), ("user_type", .str "admin")]) := rfl
    have same := Except.ok.inj (parsed.symm.trans r.parsed)
    have complete := r.complete
    rw [← same] at complete
    have email_given := Value.truthy_of_missingField complete (List.mem_cons_self ..)
    have password_given := Value.truthy_of_missingField complete
      (List.mem_cons_of_mem _ (List.mem_cons_self ..))
    rcases taken with rfl | rfl | known
    · cases email_given
    · cases password_given
    · have named := Http.field_of_pyIndex r.parsed r.email_given
      have sameEmail : email = r.email := by simpa [Http.field, parsed] using named
      rw [sameEmail] at known
      exact absurd r.unregistered known

/-- An account with the email stays one. -/
theorem KeepsAccounts.known {users users' : Collection} (keeps : KeepsAccounts users users') {v : Value}
    (known : users.first? [.eq "email" v] ≠ none) : users'.first? [.eq "email" v] ≠ none := by
  obtain ⟨d, found⟩ := Option.ne_none_iff_exists'.mp known
  obtain ⟨member, matched⟩ := Collection.first?_mem found
  obtain ⟨d', member', -, same⟩ := keeps.kept d member
  intro absent
  refine List.find?_eq_none.mp absent d' member' ?_
  simpa [Document.satisfies, Condition.holds, same "email" (by decide)] using matched

/-- The setup endpoint is not there, and the registration is refused. -/
theorem setUpAdmin_refused {email password firstName lastName : String} {setup register : Attempt}
    (taken : email = "" ∨ password = "" ∨
      s.users.first? [.eq "email" (.str (Auth.lowerStrip rt email))] ≠ none) :
    setUpAdmin rt email password firstName lastName setup register s = (false, s) := by
  obtain ⟨high, kept⟩ := @register_refused rt s email password firstName lastName register.occasion taken
  unfold setUpAdmin
  cases setup.delivery with
  | lost => rfl
  | unanswered => rfl
  | answered =>
    change (match ask rt register.delivery _ s with | (none, s) => _ | (some registerResponse, s) => _) = _
    cases register.delivery with
    | lost => rfl
    | unanswered =>
      simp only [ask]
      rw [kept]
    | answered =>
      simp only [ask]
      rw [kept]
      have other : (answer rt s (registerRequest email password firstName lastName
          register.occasion)).status ≠ 201 := by
        intro created
        rw [created] at high
        exact absurd high (by decide)
      rw [beq_false_of_ne other]

end Accounts

/-- As long as its login is answered, the script creates no account. The login refuses an unknown
email with the very status the script takes for a wrong password, so the rest is tried only where
the registration is refused too; and it reports success just when it could log in before. -/
theorem createAdminUser_creates_nobody (rt : Runtime) (email password firstName lastName : String)
    (login setup register : Attempt) (s : Server) (answered : login.delivery = .answered) :
    let ended := createAdminUser rt email password firstName lastName login setup register s
    (ended.1 = true ↔ (answer rt s (loginRequest email password login.occasion)).status = 200) ∧
      KeepsAccounts s.users ended.2.users := by
  intro ended
  have keeps : KeepsAccounts s.users (step rt s (loginRequest email password login.occasion)).users :=
    keepsAccounts_login _
  have asked : ask rt login.delivery (some (loginRequest email password login.occasion)) s =
      (some (answer rt s (loginRequest email password login.occasion)),
        step rt s (loginRequest email password login.occasion)) := by
    rw [answered]
    rfl
  have done : ended = createAdminUser rt email password firstName lastName login setup register s := rfl
  unfold createAdminUser at done
  rw [asked] at done
  dsimp only at done
  split_ifs at done with accepted refused
  · rw [done]
    exact ⟨iff_of_true rfl accepted, keeps⟩
  · rw [done]
    exact ⟨iff_of_false Bool.false_ne_true accepted, keeps⟩
  · have taken : email = "" ∨ password = "" ∨
        s.users.first? [.eq "email" (.str (Auth.lowerStrip rt email))] ≠ none := by
      by_contra free
      simp only [not_or, not_not] at free
      exact refused (answer_login_unknown free.1 free.2.1 free.2.2)
    rw [setUpAdmin_refused (taken.imp_right (.imp_right keeps.known))] at done
    rw [done]
    exact ⟨iff_of_false Bool.false_ne_true accepted, keeps⟩

/-- On a server that has just started. -/
theorem createAdminUser_creates_nobody_initial :
    let login : Attempt := ⟨.answered, ⟨0, 0, 0⟩⟩
    let ended := createAdminUser plainRuntime "admin@ussd-credit.com" "Admin123!" "System"
      "Administrator" login login login Server.initial
    (ended.1 = true ↔ (answer plainRuntime Server.initial
        (loginRequest "admin@ussd-credit.com" "Admin123!" ⟨0, 0, 0⟩)).status = 200) ∧
      KeepsAccounts Server.initial.users ended.2.users :=
  createAdminUser_creates_nobody plainRuntime _ _ _ _ _ _ _ _ rfl

/-- Only when its login is lost does the script get to register the administrator. -/
example :
    (createAdminUser plainRuntime "admin@ussd-credit.com" "Admin123!" "System" "Administrator"
      ⟨.lost, ⟨0, 0, 0⟩⟩ ⟨.answered, ⟨0, 0, 0⟩⟩ ⟨.answered, ⟨0, 0, 0⟩⟩ Server.initial).1 = true := by
  decide +kernel

theorem accessWith_fails {rt : Runtime} {s : Server} (loginResponse : Response) (influencers : Attempt) :
    accessWith rt loginResponse influencers s = (false, s) := by
  unfold accessWith
  split_ifs with accepted
  · cases loginResponse.token? with
    | none => rfl
    | some token =>
      dsimp only
      split_ifs
      · rfl
      · rcases asked : ask rt influencers.delivery
          (some (request .adminListInfluencers (some token) none influencers.occasion)) s with
          ⟨response, after⟩
        obtain ⟨kept, refused⟩ := @ask_undecorated rt s influencers.delivery
          (request .adminListInfluencers (some token) none influencers.occasion) _ rfl rfl
        rw [asked] at kept refused
        obtain rfl : after = s := kept
        cases response with
        | none => rfl
        | some adminResponse =>
          have other : adminResponse.status ≠ 200 := by
            intro ok
            have high := refused adminResponse rfl
            rw [ok] at high
            exact absurd high (by decide)
          dsimp only
          rw [beq_false_of_ne other]
  · rfl

/-- The check never succeeds: with the right password and the token of an administrator it still
asks for the influencers in vain. -/
theorem testAdminAccess_fails (rt : Runtime) (email password : String)
    (setupLogin login influencers : Attempt) (s : Server) :
    let ended := testAdminAccess rt email password setupLogin login influencers s
    ended.1 = false ∧ KeepsAccounts s.users ended.2.users := by
  unfold testAdminAccess
  cases setupLogin.delivery with
  | lost => exact ⟨rfl, KeepsAccounts.refl _⟩
  | unanswered => exact ⟨rfl, KeepsAccounts.refl _⟩
  | answered =>
    have missing : ask rt .answered none s = (some notFound, s) := rfl
    have unsuccessful : ¬notFound.status = 200 := by decide
    rw [missing]
    dsimp only
    rw [if_neg unsuccessful]
    cases login.delivery with
    | lost => exact ⟨rfl, KeepsAccounts.refl _⟩
    | unanswered => exact ⟨rfl, keepsAccounts_login _⟩
    | answered =>
      simp only [ask]
      rw [accessWith_fails]
      exact ⟨rfl, keepsAccounts_login _⟩

end UssdCredit.Scripts
