import UssdCredit.PasswordEndpoints

/-! Suspended accounts before the three ways in: the password login and the guard look at
`is_active` only, and the Google login looks at neither flag. -/

namespace UssdCredit

open Library Program

/-- `is_suspended` is `True`. -/
def Document.isFlagged (d : Document) : Bool := decide (d.get? "is_suspended" = some (.bool true))

/-- Either flag says so. -/
def Document.isSuspended (d : Document) : Bool := !Auth.isActive d || d.isFlagged

/-- The fields that the answer to a login is made of. -/
structure Document.Listable (d : Document) : Prop where
  id : ∃ userId, d.get? "id" = some userId ∧ userId.isJson = true
  email : (d.get? "email").isSome
  firstName : (d.get? "first_name").isSome
  lastName : (d.get? "last_name").isSome
  userType : ∃ userType, d.get? "user_type" = some userType ∧ userType.isJson = true

section Issuing

variable {rt : Runtime} {req : Http} {s : Server} {d : Document} {text : String}

theorem Document.index_isSome {key : String} {value : Value} (found : d.index key = .ok value) :
    (d.get? key).isSome := Option.isSome_iff_exists.mpr ⟨value, Document.index_ok found⟩

theorem listable_of_issued {response : Response} (issued : Auth.Issued rt req d text response) :
    d.Listable := by
  have json : issued.userId.isJson = true ∧ issued.userType.isJson = true := by
    have encoded := issued.encoded
    unfold encodeToken at encoded
    split_ifs at encoded with json
    exact json
  have listed := issued.listed
  simp only [Auth.loginUser, bind_eq_ok] at listed
  obtain ⟨userId, -, email, mail, firstName, first, lastName, last, userType, -, -⟩ := listed
  exact ⟨⟨_, Document.index_ok issued.id_stored, json.1⟩, Document.index_isSome mail,
    Document.index_isSome first, Document.index_isSome last,
    ⟨_, Document.index_ok issued.type_stored, json.2⟩⟩

theorem Document.Listable.issued (listable : d.Listable) (rt : Runtime) (req : Http) (text : String) :
    ∃ response, Nonempty (Auth.Issued rt req d text response) ∧ response.token?.isSome := by
  obtain ⟨⟨userId, id, id_json⟩, email, first, last, userType, type, type_json⟩ := listable
  obtain ⟨email, email_held⟩ := Option.isSome_iff_exists.mp email
  obtain ⟨firstName, first_held⟩ := Option.isSome_iff_exists.mp first
  obtain ⟨lastName, last_held⟩ := Option.isSome_iff_exists.mp last
  have listed : Auth.loginUser d = .ok (.dict [("id", userId), ("email", email),
      ("first_name", firstName), ("last_name", lastName), ("user_type", userType),
      ("avatar_url", d.get "avatar_url" .null)]) := by
    simp only [Auth.loginUser, Document.index_of_get? id, Document.index_of_get? email_held,
      Document.index_of_get? first_held, Document.index_of_get? last_held, Document.index_of_get? type]
    rfl
  exact ⟨_, ⟨_, _, _, _, Document.index_of_get? id, Document.index_of_get? type, if_pos ⟨id_json, type_json⟩,
    listed, rfl⟩, rfl⟩

/-- The end of both logins answers with a token, or the account cannot be listed. -/
theorem issueToken_cases (rt : Runtime) (req : Http) (d : Document) (text : String) (s : Server) :
    (∃ response, (Auth.issueToken rt req d text).run exec s = (.ok response, s) ∧
        d.Listable ∧ response.token?.isSome) ∨
      ∃ e, (Auth.issueToken rt req d text).run exec s = (.error e, s) ∧ ¬d.Listable := by
  by_cases listable : d.Listable
  · obtain ⟨response, ⟨issued⟩, token⟩ := listable.issued rt req text
    exact .inl ⟨response, Auth.run_issueToken issued s, listable, token⟩
  · right
    have known := @Auth.post_issueToken rt req d text s
    cases ended : (Auth.issueToken rt req d text).run exec s with
    | mk outcome s' =>
      unfold Post at known
      rw [ended] at known
      obtain ⟨rfl, answered⟩ := known
      cases outcome with
      | ok response =>
        obtain ⟨issued⟩ := answered response rfl
        exact absurd (listable_of_issued issued) listable
      | error e => exact ⟨e, rfl, listable⟩

end Issuing

/-! The password login. -/

/-- The right credentials of an account: what a login checks but for the flags. -/
structure Credentials (rt : Runtime) (req : Http) (users : Collection) where
  data : Value
  email : String
  password : Value
  pwhash : Value
  userDoc : Document
  parsed : req.getJson = .ok data
  complete : data.missingField ["email", "password"] = .ok none
  email_given : data.pyIndex "email" = .ok (.str email)
  password_given : data.pyIndex "password" = .ok password
  found : users.first? [.eq "email" (.str (Auth.lowerStrip rt email))] = some userDoc
  hash_stored : userDoc.index "password_hash" = .ok pwhash
  correct : checkPasswordHash rt pwhash password = .ok true

/-- The account a login request is for. -/
def loginAccount (rt : Runtime) (req : Http) (users : Collection) : Option Document :=
  match req.field "email" with
  | some (.str email) => users.first? [.eq "email" (.str (Auth.lowerStrip rt email))]
  | _ => none

section Login

variable {rt : Runtime} {req : Http} {s : Server} {users : Collection}

def Credentials.login (c : Credentials rt req users) (active : Auth.isActive c.userDoc = true) :
    Auth.Login rt req users where
  data := c.data
  email := c.email
  password := c.password
  pwhash := c.pwhash
  userDoc := c.userDoc
  parsed := c.parsed
  complete := c.complete
  email_given := c.email_given
  password_given := c.password_given
  found := c.found
  hash_stored := c.hash_stored
  correct := c.correct
  active := active

def Login.credentials (l : Auth.Login rt req users) : Credentials rt req users where
  data := l.data
  email := l.email
  password := l.password
  pwhash := l.pwhash
  userDoc := l.userDoc
  parsed := l.parsed
  complete := l.complete
  email_given := l.email_given
  password_given := l.password_given
  found := l.found
  hash_stored := l.hash_stored
  correct := l.correct

theorem Credentials.loginAccount (c : Credentials rt req users) :
    loginAccount rt req users = some c.userDoc := by
  have given := Http.field_of_pyIndex c.parsed c.email_given
  rw [UssdCredit.loginAccount, given]
  exact c.found

/-- A login issues a token for right credentials of an active account that can be listed, and
for nothing else. -/
theorem login_token_iff : (answer rt s ⟨.login, req⟩).token?.isSome ↔
    ∃ c : Credentials rt req s.users, c.userDoc.Listable ∧ Auth.isActive c.userDoc = true := by
  constructor
  · intro issued
    obtain ⟨token, given⟩ := Option.isSome_iff_exists.mp issued
    rcases Auth.post_login rt req s with ⟨-, refused⟩ | ⟨l, c, -, -, answers⟩
    · cases refused.no_token.symm.trans given
    · obtain ⟨known⟩ := issued_of_token (.inr answers) given
      exact ⟨Login.credentials l, listable_of_issued known, l.active⟩
  · rintro ⟨c, listable, active⟩
    obtain ⟨users, updated⟩ := updateOne_last_login s.users c.userDoc.oid req
    obtain ⟨response, ⟨issued⟩, token⟩ := listable.issued rt req "Login successful"
    have answered : answer rt s ⟨.login, req⟩ = response :=
      congrArg (fun result : Outcome × Server => result.1.answer)
        (Auth.run_login (c.login active) updated issued)
    rwa [answered]

end Login

/-! The Google login. -/

/-- The account a Google login is for, if its email has one. -/
def googleAccountOf (rt : Runtime) (req : Http) (users : Collection) : Option Document :=
  match req.field "user_info" with
  | some (.dict info) =>
      match info.lookup "email" with
      | some (.str email) => users.first? [.eq "email" (.str (Auth.lowerStrip rt email))]
      | _ => none
  | _ => none

/-- What a Google login writes to an account. -/
def googleUpdate (req : Http) (info : Fields) : Fields := [
  ("google_id", ((info.lookup "sub").getD .null).pyOr ((info.lookup "id").getD .null)),
  ("avatar_url", (info.lookup "picture").getD (.str "")),
  ("last_login", req.utcnow),
  ("updated_at", req.utcnow)]

/-- A Google login that finds an account and whose data the driver can store. -/
structure GoogleReturn (rt : Runtime) (req : Http) (users : Collection) where
  info : Fields
  email : String
  userDoc : Document
  after : Collection
  idToken_given : ((req.field "id_token").getD .null).truthy = true
  info_given : req.field "user_info" = some (.dict info)
  email_given : info.lookup "email" = some (.str email)
  email_text : email ≠ ""
  found : users.first? [.eq "email" (.str (Auth.lowerStrip rt email))] = some userDoc
  updated : users.updateOne [.objectId userDoc.oid] (googleUpdate req info) = .ok after

section Google

variable {rt : Runtime} {req : Http} {s : Server} {users : Collection}

theorem GoogleReturn.account (g : GoogleReturn rt req users) :
    googleAccountOf rt req users = some g.userDoc := by
  simp only [googleAccountOf, g.info_given, g.email_given]
  exact g.found

theorem googleAccountOf_some {d : Document} (known : googleAccountOf rt req users = some d) :
    ∃ info email, req.field "user_info" = some (.dict info) ∧ info.lookup "email" = some (.str email) ∧
      users.first? [.eq "email" (.str (Auth.lowerStrip rt email))] = some d := by
  unfold googleAccountOf at known
  split at known
  · next info given =>
    split at known
    · next email mail => exact ⟨info, email, given, mail, known⟩
    · cases known
  · cases known

/-- For a stored email the Google login updates the account and issues a token, without a look
at its flags. -/
theorem run_googleSignIn_found {entries info : Fields} {email : String} {d : Document}
    (info_given : entries.lookup "user_info" = some (.dict info))
    (email_given : info.lookup "email" = some (.str email)) (email_text : email ≠ "")
    (found : s.users.first? [.eq "email" (.str (Auth.lowerStrip rt email))] = some d) :
    (Auth.googleSignIn rt req (.dict entries)).run exec s =
      match s.users.updateOne [.objectId d.oid] (googleUpdate req info) with
      | .error e => (.error e, s)
      | .ok c => (Auth.issueToken rt req d "Google login successful").run exec
          (s.setCollection .users c) := by
  have truthy : (Value.str email).truthy = true := by simpa [Value.truthy] using email_text
  have searched : Filter.bsonError [.eq "email" (.str (Auth.lowerStrip rt email))] = none := rfl
  have found : (s.collection .users).first? [.eq "email" (.str (Auth.lowerStrip rt email))] = some d := found
  unfold Auth.googleSignIn
  rw [run_lift_bind exec (Value.pyGet_held info_given _), run_lift_bind exec (Value.pyGet_held email_given _),
    if_pos truthy, run_lift_bind exec (Value.pyIndex_held email_given), run_lift_bind exec (Value.pyStr_str ..),
    run_lift_bind exec (Value.pyGet_dict ..), run_lift_bind exec (Value.pyGet_dict ..),
    run_lift_bind exec (Value.pyGet_dict ..), run_lift_bind exec (Value.pyGet_dict ..),
    run_lift_bind exec (Value.pyGet_dict ..)]
  unfold Auth.googleAccount
  rw [run_bind, run_findOne searched, found]
  dsimp only
  cases updated : s.users.updateOne [.objectId d.oid] (googleUpdate req info) with
  | error e =>
    unfold googleUpdate at updated
    rw [run_updateOne_error updated]
  | ok c =>
    unfold googleUpdate at updated
    rw [run_updateOne updated]
    rfl

theorem run_googleLogin_token {entries : Fields} (parsed : req.getJson = .ok (.dict entries))
    (truthy : ((req.field "id_token").getD .null).truthy = true) :
    (Auth.googleLogin rt req).run exec s =
      match (Auth.googleSignIn rt req (.dict entries)).run exec s with
      | (.ok response, s') => (.ok response, s')
      | (.error e, s') => (.ok (message 500 s!"Google login failed: {e.text}"), s') := by
  have token : (Value.dict entries).pyGet "id_token" .null = .ok ((req.field "id_token").getD .null) := by
    rw [Http.field_dict parsed, Value.pyGet_dict]
  unfold Auth.googleLogin
  rw [run_lift_bind exec parsed, run_lift_bind exec token, if_pos truthy, run_handle]
  cases (Auth.googleSignIn rt req (.dict entries)).run exec s with
  | mk outcome s' => cases outcome <;> rfl

theorem googleLogin_tokenless {entries : Fields} (parsed : req.getJson = .ok (.dict entries))
    (truthy : ¬((req.field "id_token").getD .null).truthy = true) :
    (Auth.googleLogin rt req).run exec s =
      (.ok (message 400 "Google ID token is required"), s) := by
  have token : (Value.dict entries).pyGet "id_token" .null = .ok ((req.field "id_token").getD .null) := by
    rw [Http.field_dict parsed, Value.pyGet_dict]
  unfold Auth.googleLogin
  rw [run_lift_bind exec parsed, run_lift_bind exec token, if_neg truthy]
  rfl

theorem googleSignIn_unnamed {entries info : Fields}
    (info_given : entries.lookup "user_info" = some (.dict info))
    (email_given : info.lookup "email" = some (.str "")) :
    (Auth.googleSignIn rt req (.dict entries)).run exec s =
      (.ok (message 400 "Invalid Google token"), s) := by
  unfold Auth.googleSignIn
  rw [run_lift_bind exec (Value.pyGet_held info_given _), run_lift_bind exec (Value.pyGet_held email_given _)]
  rfl

theorem googleLogin_no_token {outcome : Outcome} {s' : Server}
    (ran : (Auth.googleLogin rt req).run exec s = (outcome, s')) (refusal : IsRefusal outcome) :
    ¬(answer rt s ⟨.googleLogin, req⟩).token?.isSome := by
  have answered : answer rt s ⟨.googleLogin, req⟩ = Outcome.answer outcome :=
    congrArg (fun result : Outcome × Server => result.1.answer) ran
  rw [answered, refusal.no_token]
  exact Bool.false_ne_true

theorem GoogleReturn.email_eq (g : GoogleReturn rt req users) {info : Fields} {email : String}
    (info_given : req.field "user_info" = some (.dict info))
    (email_given : info.lookup "email" = some (.str email)) : g.info = info ∧ g.email = email := by
  have same_info : g.info = info := Value.dict.inj (Option.some.inj (g.info_given.symm.trans info_given))
  have mail := g.email_given
  rw [same_info] at mail
  have same_email : Value.str g.email = .str email := Option.some.inj (mail.symm.trans email_given)
  exact ⟨same_info, Scalar.str.inj (Value.scalar.inj same_email)⟩

/-- A Google login for an account issues a token whenever the driver takes its data and the
account can be listed. -/
theorem google_token_iff {d : Document} (known : googleAccountOf rt req s.users = some d) :
    (answer rt s ⟨.googleLogin, req⟩).token?.isSome ↔
      Nonempty (GoogleReturn rt req s.users) ∧ d.Listable := by
  obtain ⟨info, email, info_given, email_given, found⟩ := googleAccountOf_some known
  obtain ⟨entries, parsed, info_held⟩ := pyIndex_of_field info_given
  by_cases truthy : ((req.field "id_token").getD .null).truthy = true
  · have ran := @run_googleLogin_token rt req s entries parsed truthy
    by_cases text : email = ""
    · subst text
      rw [googleSignIn_unnamed info_held email_given] at ran
      refine iff_of_false (googleLogin_no_token ran (isRefusal_message (by decide) _)) ?_
      rintro ⟨⟨g⟩, -⟩
      exact g.email_text (g.email_eq info_given email_given).2
    · rw [run_googleSignIn_found info_held email_given text found] at ran
      cases updated : s.users.updateOne [.objectId d.oid] (googleUpdate req info) with
      | error e =>
        rw [updated] at ran
        refine iff_of_false (googleLogin_no_token ran (isRefusal_message (by decide) _)) ?_
        rintro ⟨⟨g⟩, -⟩
        have own : g.userDoc = d := Option.some.inj (g.account.symm.trans known)
        have went := g.updated
        rw [(g.email_eq info_given email_given).1, own, updated] at went
        cases went
      | ok c =>
        rw [updated] at ran
        dsimp only at ran
        have g : GoogleReturn rt req s.users :=
          ⟨info, email, d, c, truthy, info_given, email_given, text, found, updated⟩
        rcases issueToken_cases rt req d "Google login successful" (s.setCollection .users c) with
          ⟨response, issued, listable, token⟩ | ⟨e, raised, unlisted⟩
        · rw [issued] at ran
          have answered : answer rt s ⟨.googleLogin, req⟩ = response :=
            congrArg (fun result : Outcome × Server => result.1.answer) ran
          rw [answered]
          exact iff_of_true token ⟨⟨g⟩, listable⟩
        · rw [raised] at ran
          refine iff_of_false (googleLogin_no_token ran (isRefusal_message (by decide) _)) ?_
          exact fun both => unlisted both.2
  · have ran := @googleLogin_tokenless rt req s entries parsed truthy
    refine iff_of_false (googleLogin_no_token ran (isRefusal_message (by decide) _)) ?_
    rintro ⟨⟨g⟩, -⟩
    exact truthy g.idToken_given

end Google

/-! The guard, and the three ways in together. -/

section Suspension

variable {rt : Runtime} {req : Http} {s : Server} {d : Document}

theorem isSuspended_of_flagged (flagged : d.isFlagged = true) : d.isSuspended = true := by
  rw [Document.isSuspended, flagged, Bool.or_true]

theorem isSuspended_iff : d.isSuspended = true ↔ Auth.isActive d = false ∨ d.isFlagged = true := by
  simp only [Document.isSuspended, Bool.or_eq_true, Bool.not_eq_true']

/-- The three ways in refuse the suspended accounts and no others. -/
structure AgreesOnSuspension (rt : Runtime) (s : Server) (req : Http) : Prop where
  login : ∀ d, loginAccount rt req s.users = some d → d.isSuspended = true →
    (answer rt s ⟨.login, req⟩).token? = none
  google : ∀ d, googleAccountOf rt req s.users = some d → d.isSuspended = true →
    (answer rt s ⟨.googleLogin, req⟩).token? = none
  guard : ∀ d, Auth.resolve rt req s.users = some d → d.isSuspended = true →
    ∀ view : Document → Prog Response,
      (Auth.jwtRequired rt req view).run exec s = (.ok (message 401 "Account is suspended"), s)
  login_others : ∀ c : Credentials rt req s.users, c.userDoc.Listable → c.userDoc.isSuspended = false →
    (answer rt s ⟨.login, req⟩).token?.isSome
  google_others : ∀ g : GoogleReturn rt req s.users, g.userDoc.Listable → g.userDoc.isSuspended = false →
    (answer rt s ⟨.googleLogin, req⟩).token?.isSome
  guard_others : ∀ d, Auth.resolve rt req s.users = some d → d.isSuspended = false →
    ∀ view : Document → Prog Response, (Auth.jwtRequired rt req view).run exec s = (view d).run exec s

/-- The request is no Google login of a suspended account, and neither a login nor a token of an
active account with `is_suspended` set. -/
structure NotBypassed (rt : Runtime) (s : Server) (req : Http) : Prop where
  login : ∀ c : Credentials rt req s.users, c.userDoc.Listable →
    ¬(Auth.isActive c.userDoc = true ∧ c.userDoc.isFlagged = true)
  google : ∀ g : GoogleReturn rt req s.users, g.userDoc.Listable → g.userDoc.isSuspended = false
  guard : ∀ d, Auth.resolve rt req s.users = some d → ¬(Auth.isActive d = true ∧ d.isFlagged = true)

theorem active_of_not_suspended (allowed : d.isSuspended = false) : Auth.isActive d = true := by
  by_contra inactive
  have suspended := isSuspended_iff.mpr (.inl (eq_false_of_ne_true inactive))
  rw [allowed] at suspended
  cases suspended

theorem suspension_agrees_iff (rt : Runtime) (s : Server) (req : Http) :
    AgreesOnSuspension rt s req ↔ NotBypassed rt s req := by
  constructor
  · intro agrees
    refine ⟨?_, ?_, ?_⟩
    · rintro c listable ⟨active, flagged⟩
      have token := login_token_iff.mpr ⟨c, listable, active⟩
      rw [agrees.login c.userDoc c.loginAccount (isSuspended_of_flagged flagged)] at token
      cases token
    · intro g listable
      by_contra suspended
      have token := (google_token_iff g.account).mpr ⟨⟨g⟩, listable⟩
      rw [agrees.google g.userDoc g.account (eq_true_of_ne_false suspended)] at token
      cases token
    · rintro d resolved ⟨active, flagged⟩
      have passed := @Auth.run_jwtRequired_active rt req s
        (fun _ => return message 200 "") d resolved active
      rw [agrees.guard d resolved (isSuspended_of_flagged flagged)] at passed
      cases passed
  · intro kept
    constructor
    · intro d known suspended
      by_contra issued
      obtain ⟨c, listable, active⟩ := login_token_iff.mp (Option.isSome_iff_ne_none.mpr issued)
      have same : d = c.userDoc := Option.some.inj (known.symm.trans c.loginAccount)
      rcases isSuspended_iff.mp suspended with inactive | flagged
      · rw [same, active] at inactive
        cases inactive
      · exact kept.login c listable ⟨active, same ▸ flagged⟩
    · intro d known suspended
      by_contra issued
      obtain ⟨⟨g⟩, listable⟩ := (google_token_iff known).mp (Option.isSome_iff_ne_none.mpr issued)
      have same : d = g.userDoc := Option.some.inj (known.symm.trans g.account)
      have allowed := kept.google g (same ▸ listable)
      rw [← same, suspended] at allowed
      cases allowed
    · intro d resolved suspended view
      rcases isSuspended_iff.mp suspended with inactive | flagged
      · exact Auth.run_jwtRequired_inactive resolved inactive
      · have inactive : Auth.isActive d = false :=
          eq_false_of_ne_true fun active => kept.guard d resolved ⟨active, flagged⟩
        exact Auth.run_jwtRequired_inactive resolved inactive
    · intro c listable allowed
      exact login_token_iff.mpr ⟨c, listable, active_of_not_suspended allowed⟩
    · intro g listable allowed
      exact (google_token_iff g.account).mpr ⟨⟨g⟩, listable⟩
    · intro d resolved allowed view
      exact Auth.run_jwtRequired_active resolved (active_of_not_suspended allowed)

/-- An administrator, and a user that the administrator suspends through `PUT /admin/users/2`. -/
def flaggedUser : List Request := [
  .registration "admin@example.com" "s3cret" "admin" 0,
  .registration "sarah@example.com" "s3cret" "user" 1,
  ⟨.updateUser 2, .ofEntries (some "Bearer i") [("is_suspended", .bool true)] rfl 2⟩]

/-- All three ways in let the flagged account pass, and the Google login a deleted one too. -/
theorem suspended_account_logs_in :
    let reached := run plainRuntime Server.initial flaggedUser
    let deleted := run plainRuntime Server.initial
      (flaggedUser ++ [.bearing (.deleteUser 2) "i"])
    (loginAccount plainRuntime (passwordLogin "sarah@example.com" "s3cret") reached.users).any
        Document.isSuspended = true ∧
      (answer plainRuntime reached ⟨.login, passwordLogin "sarah@example.com" "s3cret"⟩).token? = some "ii" ∧
      (answer plainRuntime reached (.bearing .logout "ii")).status = 200 ∧
      (deleted.users.docs.map Auth.isActive) = [true, false] ∧
      (answer plainRuntime deleted ⟨.login, passwordLogin "sarah@example.com" "s3cret"⟩).token? = none ∧
      (answer plainRuntime deleted (googleRequest "sarah@example.com")).token? = some "ii" := by
  decide +kernel

end Suspension

end UssdCredit
