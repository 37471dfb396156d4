import UssdCredit.Tokens

/-! Credentials over a run: what the login accepts for an account is its email, its current
password and its being active, whatever happens to other accounts. -/

namespace UssdCredit

open Library Program

variable {rt : Runtime} {s : Server}

/-! The abstract account: a password that successful changes replace. -/

/-- The request changes the password of the account with the id, and to what. -/
def newPassword? (rt : Runtime) (id : Value) (s : Server) (request : Request) : Option String :=
  if request.endpoint = .changePassword ∧ (answer rt s request).status = 200 ∧
      (Auth.resolve rt request.http s.users).any (fun d => d.get? "id" = some id) then
    match request.http.field "new_password" with
    | some (.str password) => some password
    | _ => none
  else none

/-- The password of the last successful change in a run, or else the given one. -/
def currentPassword (rt : Runtime) (id : Value) : Server → List Request → String → String
  | _, [], password => password
  | s, request :: rest, password =>
      currentPassword rt id (step rt s request) rest ((newPassword? rt id s request).getD password)

/-! The stored account. -/

/-- The document of a registered account: everything a login reads but the password. -/
structure IsAccount (id : Int) (email : String) (c : Collection) (d : Document) : Prop where
  member : d ∈ c.docs
  id_stored : d.get? "id" = some (.int id)
  email_stored : d.get? "email" = some (.str email)
  firstName_stored : (d.get? "first_name").isSome
  lastName_stored : (d.get? "last_name").isSome
  userType_stored : ∃ userType, d.get? "user_type" = some userType ∧ userType.isJson = true
  only : ∀ other ∈ c.docs, (Value.str email).matchesField (other.get? "email") = true → other = d

/-- The collection keeps the account, with a hash of the password. -/
def Keeps (rt : Runtime) (id : Int) (email password : String) (c : Collection) : Prop :=
  ∃ d, IsAccount id email c d ∧
    ∃ salt, d.get? "password_hash" = some (.str (rt.hash salt password))

theorem isSome_edit {d : Document} (key : String) (stored : (d.get? key).isSome) (oid : Nat)
    (update : Fields) : ((d.edit oid update).get? key).isSome := by
  unfold Document.edit
  split_ifs
  · exact Dict.isSome_lookup_setAll update stored
  · exact stored

/-- A user type in the collection stays a JSON value. -/
theorem Edit.userType_json {request : Request} {c : Collection} (edit : Edit request c)
    {d : Document} {oid : Nat}
    (stored : ∃ userType, d.get? "user_type" = some userType ∧ userType.isJson = true) :
    ∃ userType, (d.edit oid edit.update).get? "user_type" = some userType ∧
      userType.isJson = true := by
  obtain ⟨userType, held, json⟩ := stored
  obtain ⟨userType', held'⟩ := Option.isSome_iff_exists.mp
    (isSome_edit "user_type" (by rw [held]; rfl) oid edit.update)
  refine ⟨userType', held', ?_⟩
  unfold Document.edit at held'
  split_ifs at held'
  · rcases Dict.lookup_setAll held' with given | before
    · exact edit.json _ given rfl
    · have same : some userType = some userType' := held.symm.trans before
      rwa [← Option.some.inj same]
  · have same : some userType = some userType' := held.symm.trans held'
    rwa [← Option.some.inj same]

/-- A new document under another email, or under none, leaves the account. -/
theorem IsAccount.append {id : Int} {email : String} {c c' : Collection} {d new : Document}
    (account : IsAccount id email c d) (appended : c'.docs = c.docs ++ [new])
    (other : (Value.str email).matchesField (new.get? "email") = false) : IsAccount id email c' d := by
  refine { account with member := ?_, only := ?_ }
  · exact appended ▸ List.mem_append_left _ account.member
  · intro stored member matched
    rw [appended, List.mem_append, List.mem_singleton] at member
    rcases member with old | rfl
    · exact account.only stored old matched
    · cases matched.symm.trans other

/-- The account after a request: the same document, as it was or edited. -/
theorem IsAccount.effect {id : Int} {email : String} {request : Request} {c c' : Collection}
    {d : Document} (account : IsAccount id email c d) (effect : Effect request c c') :
    ∃ d', IsAccount id email c' d' ∧ d'.oid = d.oid ∧
      ("password_hash" ∉ request.endpoint.updates →
        d'.get? "password_hash" = d.get? "password_hash") := by
  have holds : (Value.str email).matchesField (d.get? "email") = true := by
    rw [account.email_stored, Value.matchesField_self]
  cases effect with
  | unchanged => exact ⟨d, account, rfl, fun _ => rfl⟩
  | @account fields c' new creates inserted =>
    obtain ⟨appended, -⟩ := Collection.insertOne_ok inserted
    refine ⟨d, account.append appended ?_, rfl, fun _ => rfl⟩
    -- The new email is another one: the account's document does not match it.
    have held : Document.get? ⟨request.http.oid, fields⟩ "email" = some (.str new.email) :=
      new.email_given
    rw [held, Value.matchesField_str_str, decide_eq_false_iff_not]
    intro same
    have free := unregistered_email new.unregistered d account.member
    rw [← same, holds] at free
    cases free
  | @contact fields c' creates keys inserted =>
    obtain ⟨appended, -⟩ := Collection.insertOne_ok inserted
    refine ⟨d, account.append appended ?_, rfl, fun _ => rfl⟩
    have none : Document.get? ⟨request.http.oid, fields⟩ "email" = none :=
      contact_lacks keys (by decide)
    rw [none]
    rfl
  | @edited c' edit rewritten =>
    have no_id := edit.untouched (updates_keep_identity request.endpoint).1
    have no_email := edit.untouched (updates_keep_identity request.endpoint).2
    refine ⟨d.edit edit.document.oid edit.update, ?_, Document.edit_oid .., fun other =>
      Document.edit_get? (edit.untouched other) _ d⟩
    exact {
      member := rewritten ▸ List.mem_map_of_mem account.member
      id_stored := by rw [Document.edit_get? no_id, account.id_stored]
      email_stored := by rw [Document.edit_get? no_email, account.email_stored]
      firstName_stored := isSome_edit _ account.firstName_stored _ _
      lastName_stored := isSome_edit _ account.lastName_stored _ _
      userType_stored := edit.userType_json account.userType_stored
      only := by
        intro other member matched
        rw [rewritten, List.mem_map] at member
        obtain ⟨old, present, rfl⟩ := member
        rw [Document.edit_get? no_email] at matched
        rw [account.only old present matched] }

/-! The account after one request, its password included. -/

/-- Endpoints other than the password change leave the hash alone. -/
theorem password_hash_kept {endpoint : Endpoint} (other : endpoint ≠ .changePassword) :
    "password_hash" ∉ endpoint.updates := by
  cases endpoint with
  | changePassword => exact absurd rfl other
  | _ => simp [Endpoint.updates, Auth.googleKeys, Auth.profileFields, Admin.userFields]

theorem newPassword?_refused {id : Value} {request : Request}
    (refused : IsRefusal ((handler rt request).serve s).1) : newPassword? rt id s request = none := by
  refine if_neg fun success => ?_
  have high : 400 ≤ (answer rt s request).status := refused.answer_status
  have ok := success.2.1
  omega

/-- A password change is refused, or it rewrites the document of the caller. -/
theorem changePassword_cases (identified : Identified s.users) (req : Http) :
    (step rt s ⟨.changePassword, req⟩ = s ∧
      IsRefusal ((handler rt ⟨.changePassword, req⟩).serve s).1) ∨
    ∃ (currentUser : Document) (p : Auth.PasswordChange rt req currentUser s.users),
      Auth.resolve rt req s.users = some currentUser ∧ currentUser ∈ s.users.docs ∧
      (step rt s ⟨.changePassword, req⟩).users.docs =
        s.users.docs.map (Document.edit currentUser.oid p.update) ∧
      (answer rt s ⟨.changePassword, req⟩).status = 200 := by
  have cases : Post exec (Auth.jwtRequired rt req (Auth.changePassword rt req)) s
      fun outcome s' => (s' = s ∧ IsRefusal outcome) ∨
        ∃ currentUser, Auth.resolve rt req s.users = some currentUser ∧
          ∃ (p : Auth.PasswordChange rt req currentUser s.users) (c : Collection),
            s.users.updateOne [.eq "id" p.userId] p.update = .ok c ∧
            s' = s.setCollection .users c ∧
            outcome = .ok (message 200 "Password changed successfully") := by
    refine Auth.post_jwtRequired (fun outcome refused => .inl ⟨rfl, refused⟩)
      fun currentUser resolved _ => ?_
    refine post_mono (Auth.post_changePassword currentUser s) fun outcome s' done => ?_
    rcases done with refused | changed
    · exact .inl refused
    · exact .inr ⟨currentUser, resolved, changed⟩
  rcases cases with refused | ⟨currentUser, resolved, p, c, updated, final, answered⟩
  · exact .inl refused
  · have member := (Auth.resolve_mem resolved).1
    have found := identified.first?_id member (Document.index_ok p.id_stored)
    have stored : (step rt s ⟨.changePassword, req⟩).users = c :=
      (congrArg Server.users final).trans (users_setCollection s c)
    refine .inr ⟨currentUser, p, resolved, member, ?_, ?_⟩
    · rw [stored, Collection.updateOne_found found updated]
    · exact congrArg (fun outcome => (Outcome.answer outcome).status) answered

/-- One request: the account is kept, under its new password if the request changes it. -/
theorem Keeps.preserved {id : Int} {email password : String} (identified : Identified s.users)
    (keeps : Keeps rt id email password s.users) (request : Request) :
    Keeps rt id email ((newPassword? rt (.int id) s request).getD password)
      (step rt s request).users := by
  obtain ⟨d, account, salt, hashed⟩ := keeps
  obtain ⟨d', account', same_oid, kept⟩ := account.effect (step_effect rt s request)
  by_cases changes : request.endpoint = .changePassword
  · obtain ⟨endpoint, req⟩ := request
    obtain rfl : endpoint = .changePassword := changes
    rcases changePassword_cases identified req with
      ⟨same, refused⟩ | ⟨currentUser, p, resolved, member, rewritten, ok⟩
    · rw [newPassword?_refused refused, same]
      exact ⟨d, account, salt, hashed⟩
    · have moved : d.edit currentUser.oid p.update ∈
          (step rt s ⟨.changePassword, req⟩).users.docs :=
        rewritten ▸ List.mem_map_of_mem account.member
      have edited : d' = d.edit currentUser.oid p.update :=
        Collection.eq_of_oid account'.member moved (by rw [same_oid, Document.edit_oid])
      have given : req.field "new_password" = some (.str p.newPassword) :=
        Http.field_of_pyIndex p.parsed p.given
      by_cases own : currentUser = d
      · -- The caller is the account: its new password takes effect.
        subst own
        have changed : newPassword? rt (.int id) s ⟨.changePassword, req⟩ = some p.newPassword := by
          have named : (Auth.resolve rt req s.users).any (fun d => d.get? "id" = some (.int id)) := by
            rw [resolved, Option.any_some, decide_eq_true_eq, account.id_stored]
          unfold newPassword?
          rw [if_pos ⟨rfl, ok, named⟩, given]
        rw [changed, Option.getD_some]
        refine ⟨d', account', req.salt, ?_⟩
        rw [edited, Document.edit_self_get?]
        exact Dict.lookup_setAll_cons (by simp) _
      · -- Another account's password: no document but the caller's is touched.
        have unnamed : (Auth.resolve rt req s.users).any
            (fun d => d.get? "id" = some (.int id)) = false := by
          rw [resolved, Option.any_some, decide_eq_false_iff_not]
          exact fun held =>
            own (identified.ids currentUser member d account.member _ held account.id_stored)
        have unchanged : newPassword? rt (.int id) s ⟨.changePassword, req⟩ = none :=
          if_neg fun success => Bool.false_ne_true (unnamed.symm.trans success.2.2)
        have apart : d.oid ≠ currentUser.oid :=
          fun same => own (Collection.eq_of_oid account.member member same).symm
        rw [unchanged, Option.getD_none]
        exact ⟨d', account', salt, by rw [edited, Document.edit_other _ apart, hashed]⟩
  · have unchanged : newPassword? rt (.int id) s request = none :=
      if_neg fun success => changes success.1
    rw [unchanged, Option.getD_none]
    exact ⟨d', account', salt, (kept (password_hash_kept changes)).trans hashed⟩

/-- A run: the account is kept, under the password of the last successful change. -/
theorem Keeps.run {id : Int} {email password : String} (identified : Identified s.users)
    (keeps : Keeps rt id email password s.users) (requests : List Request) :
    Keeps rt id email (currentPassword rt (.int id) s requests password)
      (UssdCredit.run rt s requests).users := by
  induction requests generalizing s password with
  | nil => exact keeps
  | cons request rest ih =>
    exact ih (identified.effect (step_effect rt s request)) (keeps.preserved identified request)

/-- An inserted account under an email that was free. -/
theorem isAccount_inserted {users c : Collection} {oid : Nat} {fields : Fields} {id : Int} {email : String}
    (inserted : users.insertOne oid fields = .ok c)
    (unregistered : users.first? [.eq "email" (.str email)] = none)
    (id_given : fields.lookup "id" = some (.int id)) (email_given : fields.lookup "email" = some (.str email))
    (firstName_given : (fields.lookup "first_name").isSome)
    (lastName_given : (fields.lookup "last_name").isSome)
    (userType_given : ∃ userType, fields.lookup "user_type" = some userType ∧ userType.isJson = true) :
    IsAccount id email c ⟨oid, fields⟩ := by
  obtain ⟨appended, -⟩ := Collection.insertOne_ok inserted
  exact {
    member := appended ▸ List.mem_append_right _ (List.mem_singleton_self _)
    id_stored := id_given
    email_stored := email_given
    firstName_stored := firstName_given
    lastName_stored := lastName_given
    userType_stored := userType_given
    only := by
      intro other member matched
      rw [appended, List.mem_append, List.mem_singleton] at member
      rcases member with old | new
      · exact absurd ((unregistered_email unregistered other old).symm.trans matched) nofun
      · exact new }

theorem isAccount_registered {req : Http} (r : Auth.Registration rt req s.users) {c : Collection}
    (inserted : s.users.insertOne req.oid r.fields = .ok c) :
    IsAccount (Auth.nextUserId s.users) (Auth.lowerStrip rt r.email) c ⟨req.oid, r.fields⟩ :=
  isAccount_inserted inserted r.unregistered rfl rfl rfl rfl ⟨r.userType, rfl, r.userType_json⟩

/-- A registration that is answered 201 creates the account with the given password. -/
theorem keeps_register {req : Http} (created : (answer rt s ⟨.register, req⟩).status = 201) :
    ∃ (id : Int) (email password : String),
      (answer rt s ⟨.register, req⟩).userField? "id" = some (.int id) ∧
      (answer rt s ⟨.register, req⟩).userField? "email" = some (.str email) ∧
      req.field "password" = some (.str password) ∧
      Keeps rt id email password (step rt s ⟨.register, req⟩).users := by
  rcases Auth.post_register rt req s with ⟨-, refused⟩ | ⟨r, c, inserted, final, same⟩
  · have high : 400 ≤ (answer rt s ⟨.register, req⟩).status := refused.answer_status
    omega
  · have answered : answer rt s ⟨.register, req⟩ = r.response := congrArg Outcome.answer same
    have stored : (step rt s ⟨.register, req⟩).users = c :=
      (congrArg Server.users final).trans (users_setCollection s c)
    rw [answered, stored]
    exact ⟨Auth.nextUserId s.users, Auth.lowerStrip rt r.email, r.password, rfl, rfl,
      Http.field_of_pyIndex r.parsed r.password_given, ⟨req.oid, r.fields⟩,
      isAccount_registered r inserted, req.salt, rfl⟩

/-! The login. -/

/-- The time of a login can always be noted. -/
theorem updateOne_last_login (c : Collection) (oid : Nat) (req : Http) :
    ∃ c', c.updateOne [.objectId oid] [("last_login", req.utcnow)] = .ok c' := by
  have filter : Filter.bsonError [.objectId oid] = none := rfl
  have update : Value.bsonErrorEntries [("last_login", req.utcnow)] = none := by
    rw [bsonErrorEntries_none, List.forall_mem_singleton]
    exact ⟨show encodeKey "last_login" = none by decide, rfl⟩
  unfold Collection.updateOne
  rw [filter]
  dsimp only
  split
  · next failed => exact absurd (update.symm.trans failed) nofun
  · split <;> exact ⟨_, rfl⟩

theorem pyIndex_of_field {req : Http} {key : String} {item : Value}
    (given : req.field key = some item) :
    ∃ entries, req.getJson = .ok (.dict entries) ∧ entries.lookup key = some item := by
  unfold Http.field at given
  split at given
  · next entries parsed => exact ⟨entries, parsed, given⟩
  · cases given

/-- The login's query for the email finds the account. -/
theorem IsAccount.first?_email {id : Int} {email : String} {c : Collection} {d : Document}
    (account : IsAccount id email c d) : c.first? [.eq "email" (.str email)] = some d := by
  have holds : d.satisfies [.eq "email" (.str email)] = true := by
    simp [Document.satisfies, Condition.holds, account.email_stored, Value.matchesField_self]
  cases found : c.first? [.eq "email" (.str email)] with
  | none => exact absurd holds (List.find?_eq_none.mp found d account.member)
  | some first =>
    obtain ⟨member, matched⟩ := Collection.first?_mem found
    rw [account.only first member (by simpa [Document.satisfies, Condition.holds] using matched)]

/-- The account of a login can be listed in its answer. -/
theorem IsAccount.issued {id : Int} {email : String} {c : Collection} {d : Document}
    (account : IsAccount id email c d) (req : Http) (text : String) :
    ∃ response, Nonempty (Auth.Issued rt req d text response) ∧ response.status = 200 ∧
      response.userField? "id" = some (.int id) := by
  obtain ⟨userType, type_held, json⟩ := account.userType_stored
  obtain ⟨firstName, first_held⟩ := Option.isSome_iff_exists.mp account.firstName_stored
  obtain ⟨lastName, last_held⟩ := Option.isSome_iff_exists.mp account.lastName_stored
  have listed : Auth.loginUser d = .ok (.dict [("id", .int id), ("email", .str email),
      ("first_name", firstName), ("last_name", lastName), ("user_type", userType),
      ("avatar_url", d.get "avatar_url" .null)]) := by
    simp only [Auth.loginUser, Document.index_of_get? account.id_stored,
      Document.index_of_get? account.email_stored, Document.index_of_get? first_held,
      Document.index_of_get? last_held, Document.index_of_get? type_held]
    rfl
  exact ⟨_, ⟨_, _, _, _, Document.index_of_get? account.id_stored,
    Document.index_of_get? type_held, encodeToken_int req id json, listed, rfl⟩, rfl, rfl⟩

/-- A login answered 200 with an account's id has its email and its password, and the account
is active. -/
theorem login_accepted (exact : rt.HashExact) (identified : Identified s.users) {id : Int}
    {email password e p : String} {d : Document} {salt : Nat} {req : Http}
    (account : IsAccount id email s.users d)
    (hashed : d.get? "password_hash" = some (.str (rt.hash salt password)))
    (email_given : req.field "email" = some (.str e))
    (password_given : req.field "password" = some (.str p))
    (ok : (answer rt s ⟨.login, req⟩).status = 200)
    (own : (answer rt s ⟨.login, req⟩).userField? "id" = some (.int id)) :
    Auth.lowerStrip rt e = email ∧ p = password ∧ Auth.isActive d = true := by
  rcases Auth.post_login rt req s with ⟨-, refused⟩ | ⟨l, c, -, -, issued⟩
  · have high : 400 ≤ (answer rt s ⟨.login, req⟩).status := refused.answer_status
    omega
  · have answered := Outcome.ok_of_status ok
    obtain ⟨known⟩ := issued _ answered
    obtain ⟨userId, stored, firstName, lastName, userType, held, -, same⟩ := loginUser_ok known.listed
    have member := (Collection.first?_mem l.found).1
    -- The document the login found has the account's id, so it is the account's document.
    have found_own : l.userDoc = d := by
      obtain ⟨n, rfl, -, -⟩ := identified.bounded l.userDoc member userId held
      have shown := known.answered
      rw [same] at shown
      unfold answer at own
      rw [shown] at own
      have equal : Value.int n = .int id := Option.some.inj own
      exact identified.ids _ member d account.member _ held (equal ▸ account.id_stored)
    have email_read : l.email = e := by
      have read := (Http.field_of_pyIndex l.parsed l.email_given).symm.trans email_given
      simpa using read
    have password_read : l.password = .str p :=
      Option.some.inj ((Http.field_of_pyIndex l.parsed l.password_given).symm.trans password_given)
    have matched := (Collection.first?_mem l.found).2
    have correct := l.correct
    rw [password_read] at correct
    refine ⟨?_, ?_, found_own ▸ l.active⟩
    · rw [found_own, email_read] at matched
      simpa [Document.satisfies, Condition.holds, account.email_stored,
        Value.matchesField_str_str] using matched
    · have hash : l.pwhash = .str (rt.hash salt password) := by
        have stored_hash := Document.index_ok l.hash_stored
        rw [found_own, hashed] at stored_hash
        exact (Option.some.inj stored_hash).symm
      rw [hash, checkPasswordHash_hash exact] at correct
      exact (of_decide_eq_true (Except.ok.inj correct)).symm

/-- The email and the password of an active account are answered 200, with its id. -/
theorem login_succeeds (exact : rt.HashExact) {id : Int} {email e p : String} {d : Document}
    {salt : Nat} {req : Http} (account : IsAccount id email s.users d)
    (hashed : d.get? "password_hash" = some (.str (rt.hash salt p)))
    (active : Auth.isActive d = true)
    (email_given : req.field "email" = some (.str e)) (email_right : Auth.lowerStrip rt e = email)
    (password_given : req.field "password" = some (.str p)) (e_text : e ≠ "") (p_text : p ≠ "") :
    (answer rt s ⟨.login, req⟩).status = 200 ∧
      (answer rt s ⟨.login, req⟩).userField? "id" = some (.int id) := by
  obtain ⟨entries, parsed, email_held⟩ := pyIndex_of_field email_given
  have password_held : entries.lookup "password" = some (.str p) := by
    simpa [Http.field, parsed] using password_given
  have found := account.first?_email
  rw [← email_right] at found
  let l : Auth.Login rt req s.users :=
    { data := .dict entries, email := e, password := .str p
      pwhash := .str (rt.hash salt p), userDoc := d, parsed, found, active
      complete := by
        simp [Value.missingField, Value.pyGet_dict, email_held, password_held, Value.truthy,
          e_text, p_text]
      email_given := Value.pyIndex_held email_held
      password_given := Value.pyIndex_held password_held
      hash_stored := Document.index_of_get? hashed
      correct := by rw [checkPasswordHash_hash exact]; exact congrArg Except.ok (decide_eq_true rfl) }
  obtain ⟨c, updated⟩ := updateOne_last_login s.users d.oid req
  obtain ⟨response, ⟨issued⟩, ok, own⟩ :=
    @IsAccount.issued rt _ _ _ _ account req "Login successful"
  have answered : answer rt s ⟨.login, req⟩ = response :=
    congrArg (fun result : Outcome × Server => result.1.answer) (Auth.run_login l updated issued)
  rw [answered]
  exact ⟨ok, own⟩

/-- In every run, for every account a registration creates, and at every later state: a login
is answered 200 for this account if and only if its normalised email is the account's, its
password is that of the last successful change (or of the registration), and the account is
active. -/
theorem login_iff_current_credentials (exact : rt.HashExact) (start : Identified s.users)
    (before : List Request) (registration : Http)
    (created : (answer rt (run rt s before) ⟨.register, registration⟩).status = 201) :
    ∃ (id : Int) (email password : String),
      (answer rt (run rt s before) ⟨.register, registration⟩).userField? "id" = some (.int id) ∧
      registration.field "password" = some (.str password) ∧
      ∀ after : List Request,
        let created := step rt (run rt s before) ⟨.register, registration⟩
        let later := run rt created after
        ∃ account, later.users.findOne [.eq "id" (.int id)] = .ok (some account) ∧
          account.get? "email" = some (.str email) ∧
          ∀ (login : Http) (e p : String), login.field "email" = some (.str e) →
            login.field "password" = some (.str p) → e ≠ "" → p ≠ "" →
            ((answer rt later ⟨.login, login⟩).status = 200 ∧
                (answer rt later ⟨.login, login⟩).userField? "id" = some (.int id) ↔
              Auth.lowerStrip rt e = email ∧
                p = currentPassword rt (.int id) created after password ∧
                Auth.isActive account = true) := by
  have identified := run_identified rt start before
  obtain ⟨id, email, password, id_shown, -, password_given, keeps⟩ := keeps_register created
  refine ⟨id, email, password, id_shown, password_given, fun after => ?_⟩
  intro created later
  have distinct : Identified created.users := identified.effect (step_effect rt _ _)
  have distinct_later : Identified later.users := run_identified rt distinct after
  obtain ⟨d, account, salt, hashed⟩ := keeps.run distinct after
  refine ⟨d, distinct_later.findOne_id account.member account.id_stored, account.email_stored, ?_⟩
  intro login e p email_given password_given e_text p_text
  constructor
  · rintro ⟨ok, own⟩
    exact login_accepted exact distinct_later account hashed email_given password_given ok own
  · rintro ⟨email_right, rfl, active⟩
    exact login_succeeds exact account hashed active email_given email_right password_given
      e_text p_text

/-- The second user changes their password: only the new one is accepted. -/
theorem login_iff_current_credentials_changed :
    let first := Request.registration "sarah@example.com" "s3cret" "user" 0
    let second := (Request.registration "Grace@example.com" "s3cret" "user" 1).http
    let change : Request := ⟨.changePassword, .ofEntries (some "Bearer ii")
      [("current_password", .str "s3cret"), ("new_password", .str "n3w")] rfl 0⟩
    let created := step plainRuntime (run plainRuntime Server.initial [first]) ⟨.register, second⟩
    let later := run plainRuntime created [change]
    ∃ account, later.users.findOne [.eq "id" (.int 2)] = .ok (some account) ∧
      ∀ (login : Http) (e p : String), login.field "email" = some (.str e) →
        login.field "password" = some (.str p) → e ≠ "" → p ≠ "" →
        ((answer plainRuntime later ⟨.login, login⟩).status = 200 ∧
            (answer plainRuntime later ⟨.login, login⟩).userField? "id" = some (.int 2) ↔
          Auth.lowerStrip plainRuntime e = "grace@example.com" ∧ p = "n3w" ∧
            Auth.isActive account = true) := by
  intro first second change created later
  have shown : (answer plainRuntime (run plainRuntime Server.initial [first])
      ⟨.register, second⟩).userField? "id" = some (.int 2) := by decide +kernel
  have named : second.field "password" = some (.str "s3cret") := by decide +kernel
  have replaced : currentPassword plainRuntime (.int 2) created [change] "s3cret" = "n3w" := by
    decide +kernel
  have stored : (later.users.findOne [.eq "id" (.int 2)]).toOption.join.bind
      (fun d => d.get? "email") = some (.str "grace@example.com") := by decide +kernel
  have same : run plainRuntime (step plainRuntime (run plainRuntime Server.initial [first])
      ⟨.register, second⟩) [change] = later := rfl
  obtain ⟨id, email, password, own, given, kept⟩ := login_iff_current_credentials
    plainRuntime_hashExact identified_initial [first] second (by decide +kernel)
  obtain rfl : id = 2 := by simpa using own.symm.trans shown
  obtain rfl : password = "s3cret" := by simpa using given.symm.trans named
  obtain ⟨account, found, mail, accepted⟩ := kept [change]
  rw [same] at found accepted
  clear_value later
  rw [found] at stored
  obtain rfl : email = "grace@example.com" := by simpa using mail.symm.trans stored
  rw [replaced] at accepted
  exact ⟨account, found, accepted⟩

end UssdCredit
