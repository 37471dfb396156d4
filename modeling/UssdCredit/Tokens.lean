import UssdCredit.Identity
import UssdCredit.Library.Runs

/-! Tokens over a run: the account a token was issued to is the one the guard finds, in
every later state. -/

namespace UssdCredit

open Library Program

/-- The `token` of an answer. -/
def Response.token? (response : Response) : Option String :=
  match response.body with
  | .dict entries =>
      match entries.lookup "token" with
      | some (.str token) => some token
      | _ => none
  | _ => none

/-- A field of the `user` an answer describes. -/
def Response.userField? (response : Response) (key : String) : Option Value :=
  match response.body with
  | .dict entries =>
      match entries.lookup "user" with
      | some (.dict user) => user.lookup key
      | _ => none
  | _ => none

/-- The request is answered with a token, for an account with the given email. -/
structure Issues (rt : Runtime) (s : Server) (request : Request) (token : String)
    (email : Value) : Prop where
  endpoint : request.endpoint = .register ∨ request.endpoint = .login ∨
    request.endpoint = .googleLogin
  token_given : (answer rt s request).token? = some token
  email_given : (answer rt s request).userField? "email" = some email

theorem IsRefusal.no_token {outcome : Outcome} (refused : IsRefusal outcome) :
    (Outcome.answer outcome).token? = none := by
  cases outcome with
  | ok response =>
    obtain ⟨status, text, rfl, -⟩ := refused response rfl
    rfl
  | error e =>
    change e.answer.token? = none
    unfold PyExn.answer
    split_ifs <;> rfl

variable {rt : Runtime} {req : Http} {s : Server}

theorem loginUser_ok {d : Document} {user : Value} (listed : Auth.loginUser d = .ok user) :
    ∃ userId email firstName lastName userType, d.get? "id" = some userId ∧
      d.get? "email" = some email ∧ user = .dict [("id", userId), ("email", email),
        ("first_name", firstName), ("last_name", lastName), ("user_type", userType),
        ("avatar_url", d.get "avatar_url" .null)] := by
  simp only [Auth.loginUser, bind_eq_ok] at listed
  obtain ⟨userId, id, email, mail, firstName, -, lastName, -, userType, -, same⟩ := listed
  exact ⟨userId, email, firstName, lastName, userType, Document.index_ok id,
    Document.index_ok mail, (Except.ok.inj same).symm⟩

/-- The token was made for a stored account at the time of the request; the answer shows the
account's email. -/
def SessionOf (rt : Runtime) (req : Http) (users : Collection) (token : String) (email : Value) : Prop :=
  ∃ account ∈ users.docs, ∃ userId userType stored,
    token = rt.jwtEncode ⟨userId, userType, req.now / 1000000 + 86400⟩ ∧
    account.get? "id" = some userId ∧ account.get? "email" = some stored ∧
    email = stored.mapScalar jsonScalar

section Issuing

variable {token : String} {email : Value}

/-- A login's token and answer, read off the account. -/
theorem Auth.Issued.session {userDoc : Document} {text : String} {response : Response}
    (issued : Auth.Issued rt req userDoc text response) (token_given : response.token? = some token)
    (email_given : response.userField? "email" = some email) :
    ∃ userId userType stored, token = rt.jwtEncode ⟨userId, userType, req.now / 1000000 + 86400⟩ ∧
      userDoc.get? "id" = some userId ∧ userDoc.get? "email" = some stored ∧
      email = stored.mapScalar jsonScalar := by
  obtain ⟨userId, stored, firstName, lastName, userType, id, mail, same⟩ :=
    loginUser_ok issued.listed
  have answered := issued.answered
  rw [same] at answered
  rw [answered] at token_given email_given
  have same_token : issued.token = token := Option.some.inj token_given
  have same_email : stored.mapScalar jsonScalar = email := Option.some.inj email_given
  exact ⟨_, _, stored, same_token.symm.trans (encodeToken_ok issued.encoded),
    Document.index_ok issued.id_stored, mail, same_email.symm⟩

/-- An answer with a token is no refusal, so it was given for the account. -/
theorem issued_of_token {outcome : Outcome} {d : Document} {text token : String}
    (known : IsRefusal outcome ∨ ∀ response, outcome = .ok response →
      Nonempty (Auth.Issued rt req d text response))
    (token_given : (Outcome.answer outcome).token? = some token) :
    Nonempty (Auth.Issued rt req d text (Outcome.answer outcome)) := by
  rcases known with refused | issued
  · exact absurd (refused.no_token.symm.trans token_given) nofun
  · cases outcome with
    | ok response => exact issued response rfl
    | error e => exact absurd ((isRefusal_error e).no_token.symm.trans token_given) nofun

/-- The document of a login is stored afterwards too, under its id and email. -/
theorem SessionOf.of_login {request : Request} {d : Document} {text : String} {response : Response}
    (member : d ∈ s.users.docs) (issued : Auth.Issued rt req d text response)
    (token_given : response.token? = some token)
    (email_given : response.userField? "email" = some email) :
    SessionOf rt req (step rt s request).users token email := by
  obtain ⟨userId, userType, stored, encoded, id, mail, shown⟩ := issued.session token_given email_given
  obtain ⟨d', member', -, same⟩ := (step_effect rt s request).keeps_document member
  refine ⟨d', member', userId, userType, stored, encoded, ?_, ?_, shown⟩
  · rw [same "id" (updates_keep_identity _).1, id]
  · rw [same "email" (updates_keep_identity _).2, mail]

theorem sessionOf_register (token_given : (answer rt s ⟨.register, req⟩).token? = some token)
    (email_given : (answer rt s ⟨.register, req⟩).userField? "email" = some email) :
    SessionOf rt req (step rt s ⟨.register, req⟩).users token email := by
  rcases Auth.post_register rt req s with ⟨-, refused⟩ | ⟨r, c, inserted, final, same⟩
  · cases refused.no_token.symm.trans token_given
  · have answered : answer rt s ⟨.register, req⟩ = r.response := congrArg Outcome.answer same
    have stored : (step rt s ⟨.register, req⟩).users = c :=
      (congrArg Server.users final).trans (users_setCollection s c)
    rw [answered] at token_given email_given
    rw [stored]
    have member : (⟨req.oid, r.fields⟩ : Document) ∈ c.docs := by
      rw [(Collection.insertOne_ok inserted).1]
      exact List.mem_append_right _ (List.mem_singleton_self _)
    exact ⟨_, member, _, _, _, (Option.some.inj token_given).symm, rfl, rfl,
      (Option.some.inj email_given).symm⟩

theorem sessionOf_login (token_given : (answer rt s ⟨.login, req⟩).token? = some token)
    (email_given : (answer rt s ⟨.login, req⟩).userField? "email" = some email) :
    SessionOf rt req (step rt s ⟨.login, req⟩).users token email := by
  rcases Auth.post_login rt req s with ⟨-, refused⟩ | ⟨l, c, -, -, issued⟩
  · cases refused.no_token.symm.trans token_given
  · obtain ⟨known⟩ := issued_of_token (.inr issued) token_given
    exact .of_login (Collection.first?_mem l.found).1 known token_given email_given

theorem sessionOf_googleLogin (token_given : (answer rt s ⟨.googleLogin, req⟩).token? = some token)
    (email_given : (answer rt s ⟨.googleLogin, req⟩).userField? "email" = some email) :
    SessionOf rt req (step rt s ⟨.googleLogin, req⟩).users token email := by
  have effect : Auth.GoogleEffect rt req s ((handler rt ⟨.googleLogin, req⟩).serve s).1
      (step rt s ⟨.googleLogin, req⟩) := Auth.post_googleLogin s
  unfold answer at token_given email_given
  generalize ((handler rt ⟨.googleLogin, req⟩).serve s).1 = outcome at *
  generalize moved : step rt s ⟨.googleLogin, req⟩ = s' at effect ⊢
  cases effect with
  | refused refused => cases refused.no_token.symm.trans token_given
  | returned found keys updated known =>
    obtain ⟨issued⟩ := issued_of_token known token_given
    rw [← moved]
    exact .of_login (Collection.first?_mem found).1 issued token_given email_given
  | signedUp g inserted known =>
    obtain ⟨issued⟩ := issued_of_token known token_given
    obtain ⟨userId, userType, stored, encoded, id, mail, shown⟩ :=
      issued.session token_given email_given
    rw [users_setCollection]
    refine ⟨_, ?_, userId, userType, stored, encoded, id, mail, shown⟩
    rw [(Collection.insertOne_ok inserted).1]
    exact List.mem_append_right _ (List.mem_singleton_self _)

theorem Issues.session {request : Request} (issues : Issues rt s request token email) :
    SessionOf rt request.http (step rt s request).users token email := by
  obtain ⟨endpoint, req⟩ := request
  obtain ⟨issuing, token_given, email_given⟩ := issues
  dsimp only at issuing
  rcases issuing with rfl | rfl | rfl
  · exact sessionOf_register token_given email_given
  · exact sessionOf_login token_given email_given
  · exact sessionOf_googleLogin token_given email_given

end Issuing

/-! Runs. -/

theorem run_identified (rt : Runtime) (start : Identified s.users) (requests : List Request) :
    Identified (run rt s requests).users :=
  run_invariant (fun s => Identified s.users)
    (fun s request identified => identified.effect (step_effect rt s request)) start requests

/-- A document with an id and an email is there after every run, with both unchanged. -/
theorem run_keeps_identity (rt : Runtime) {id email : Value} (requests : List Request)
    (start : ∃ d ∈ s.users.docs, d.get? "id" = some id ∧ d.get? "email" = some email) :
    ∃ d ∈ (run rt s requests).users.docs, d.get? "id" = some id ∧ d.get? "email" = some email := by
  refine run_invariant (fun s : Server => ∃ d ∈ s.users.docs, d.get? "id" = some id ∧
    d.get? "email" = some email) (fun s request kept => ?_) start requests
  obtain ⟨d, member, held, mail⟩ := kept
  obtain ⟨d', member', -, same⟩ := (step_effect rt s request).keeps_document member
  refine ⟨d', member', ?_, ?_⟩
  · rw [same "id" (updates_keep_identity _).1, held]
  · rw [same "email" (updates_keep_identity _).2, mail]

/-- The user_id in the token of an account leads to this account after every run. -/
theorem findOne_issued (decodes : rt.DecodesEncoded) (identified : Identified s.users) {d : Document}
    (member : d ∈ s.users.docs) {claims : Claims} {stored : Value}
    (id : d.get? "id" = some claims.userId) (mail : d.get? "email" = some stored)
    (requests : List Request) {now : Int} {payload : Fields}
    (decoded : rt.jwtDecode now (rt.jwtEncode claims) = .ok payload) :
    ∃ account ∈ (run rt s requests).users.docs, payload.lookup "user_id" = some claims.userId ∧
      (run rt s requests).users.findOne [.eq "id" claims.userId] = .ok (some account) ∧
      account.get? "email" = some stored := by
  obtain ⟨account, present, held, mail'⟩ := run_keeps_identity rt requests ⟨d, member, id, mail⟩
  exact ⟨account, present, decodes now claims payload decoded,
    (run_identified rt identified requests).findOne_id present held, mail'⟩

theorem run_resumed (rt : Runtime) (s : Server) (before : List Request) (request : Request)
    (after : List Request) :
    run rt s (before ++ request :: after) = run rt (step rt (run rt s before) request) after := by
  simp [run, List.foldl_append]

/-- In every run, whatever token a request issues for an account with some email: at every
later state the guard's query for the token's user_id finds the one document that holds
this email. -/
theorem token_names_account (decodes : rt.DecodesEncoded) (start : Identified s.users)
    (before : List Request) (request : Request) {token : String} {email : Value}
    (issues : Issues rt (run rt s before) request token email) :
    ∃ stored : Value, email = stored.mapScalar jsonScalar ∧
      ∀ (after : List Request) (now : Int) (payload : Fields),
        rt.jwtDecode now token = .ok payload →
        ∃ userId account, payload.lookup "user_id" = some userId ∧
          (run rt s (before ++ request :: after)).users.findOne [.eq "id" userId] =
            .ok (some account) ∧
          account.get? "email" = some stored ∧
          ∀ other ∈ (run rt s (before ++ request :: after)).users.docs,
            other.get? "email" = some stored → other = account := by
  obtain ⟨d, member, userId, userType, stored, rfl, id, mail, shown⟩ := issues.session
  refine ⟨stored, shown, fun after now payload decoded => ?_⟩
  have identified := run_identified rt start (before ++ request :: after)
  have issued := (run_identified rt start before).effect (step_effect rt _ request)
  obtain ⟨account, present, named, found, mail'⟩ :=
    findOne_issued decodes issued member id mail after decoded
  rw [run_resumed] at identified ⊢
  exact ⟨userId, account, named, found, mail',
    fun other there same => identified.emails other there account present stored same mail'⟩

theorem token_names_account_registered :
    ∃ stored : Value, Value.str "sarah@example.com" = stored.mapScalar jsonScalar ∧
      ∀ (after : List Request) (now : Int) (payload : Fields),
        plainRuntime.jwtDecode now "i" = .ok payload →
        ∃ userId account, payload.lookup "user_id" = some userId ∧
          (run plainRuntime Server.initial
            (.registration "Sarah@example.com" "s3cret" "user" 0 :: after)).users.findOne
              [.eq "id" userId] = .ok (some account) ∧
          account.get? "email" = some stored ∧
          ∀ other ∈ (run plainRuntime Server.initial
              (.registration "Sarah@example.com" "s3cret" "user" 0 :: after)).users.docs,
            other.get? "email" = some stored → other = account :=
  token_names_account plainRuntime_decodesEncoded identified_initial []
    (.registration "Sarah@example.com" "s3cret" "user" 0) ⟨.inl rfl, by decide +kernel, by decide +kernel⟩

end UssdCredit
