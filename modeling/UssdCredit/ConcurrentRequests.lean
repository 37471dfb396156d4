import UssdCredit.AdminGate
import UssdCredit.ConcurrentSignup
import UssdCredit.Effects

/-! Requests of every kind handled at the same time. Between the guard of a request and its write
other requests may act, so what a write has behind it is what the guard found when it looked. -/

namespace UssdCredit

open Library Program Auth

/-- Workers that run one whole handler each. -/
def Workers.serving (rt : Runtime) (server : Server) (requests : List Request) : Workers :=
  ⟨server, requests.map (handler rt)⟩

/-- An email as the accounts hold it. -/
def storedEmail (rt : Runtime) : Value → Option String
  | .str email => some (lowerStrip rt email)
  | _ => none

/-- The email whose account a login is for. -/
def Request.email? (rt : Runtime) (request : Request) : Option String :=
  match request.endpoint with
  | .login => (request.http.field "email").bind (storedEmail rt)
  | .googleLogin =>
      match request.http.field "user_info" with
      | some (.dict info) => (info.lookup "email").bind (storedEmail rt)
      | _ => none
  | _ => none

/-- The password login was given the password of the account, and the account is active. -/
def RightPassword (rt : Runtime) (request : Request) (account : Document) : Prop :=
  request.endpoint = .login → isActive account = true ∧
    ∃ pwhash password, account.get? "password_hash" = some pwhash ∧
      request.http.field "password" = some password ∧
      checkPasswordHash rt pwhash password = .ok true

/-- The guard of a request, or the login itself, looking at the users, lets this caller through. -/
structure Admits (rt : Runtime) (request : Request) (caller : Document) (users : Collection) : Prop where
  login : request.endpoint.requiresLogin = true ∨ request.endpoint.requiresAdmin = true →
    resolve rt request.http users = some caller ∧ isActive caller = true
  admin : request.endpoint.requiresAdmin = true → isAdmin caller = true
  account : ∀ email, request.email? rt = some email →
    users.first? [.eq "email" (.str email)] = some caller
  password : RightPassword rt request caller

/-- The caller has been let through in a state of the schedule. -/
def AdmittedDuring (rt : Runtime) (start : Workers) (schedule : List Nat) (request : Request)
    (caller : Document) : Prop :=
  ∃ earlier, earlier <+: schedule ∧
    Admits rt request caller (earlier.foldl (Pool.step exec) start).store.users

/-- The filters of a request's updates: the user of the path, the caller's own id, or the account
that the login has read. -/
inductive Aims (rt : Runtime) (request : Request) (caller : Document) : Filter → Prop where
  | target (userId : Nat) (aimed : request.endpoint.target = some userId) :
      Aims rt request caller [.eq "id" (.int userId)]
  | own (ownId : Value) (guarded : request.endpoint.requiresLogin = true)
      (stored : caller.get? "id" = some ownId) : Aims rt request caller [.eq "id" ownId]
  | account (email : String) (given : request.email? rt = some email) :
      Aims rt request caller [.objectId caller.oid]

/-- The operations a request may call for a caller. -/
def Permits (rt : Runtime) (request : Request) (caller : Document) : Op → Prop
  | .updateOne name filter update => name = .users ∧
      (∀ entry ∈ update, entry.1 ∈ request.endpoint.updates) ∧ Aims rt request caller filter
  | _ => True

/-- An operation that changes no document that is there. -/
def Op.keepsDocuments : Op → Prop
  | .updateOne _ _ _ => False
  | _ => True

theorem Op.keepsCollections.documents {op : Op} (keeps : op.keepsCollections) : op.keepsDocuments := by
  cases op with
  | updateOne name filter update => exact keeps
  | _ => trivial

/-- A login updates only the account that it has read for its email; the phase is what the last
lookup found. -/
def signInProtocol (rt : Runtime) (request : Request) :
    Protocol Op Op.Result PyExn (Option Document) where
  allowed account
    | .findOne name filter => name = .users ∧ ∃ email, request.email? rt = some email ∧
        filter = [.eq "email" (.str email)]
    | .updateOne name filter update => ∃ d, account = some d ∧ RightPassword rt request d ∧
        Permits rt request d (.updateOne name filter update)
    | _ => True
  advance
    | _, .findOne _ _, .ok found => found
    | account, _, _ => account

/-! What each handler calls. -/

section Handlers

variable {rt : Runtime} {req : Http} {caller : Document}

theorem email_of_userInfo {data userInfo : Value} {email : String} (parsed : req.getJson = .ok data)
    (info_given : data.pyGet "user_info" (.dict []) = .ok userInfo)
    (email_given : userInfo.pyIndex "email" = .ok (.str email)) :
    Request.email? rt ⟨.googleLogin, req⟩ = some (lowerStrip rt email) := by
  obtain ⟨entries, rfl, read⟩ := Value.pyGet_ok info_given
  obtain ⟨info, rfl, held⟩ := Value.pyIndex_ok email_given
  cases given : entries.lookup "user_info" with
  | none =>
    rw [given] at read
    cases read
    cases held
  | some item =>
    rw [given] at read
    obtain rfl : item = .dict info := read
    simp only [Request.email?, Http.field_dict parsed, given, held]
    rfl

theorem calls_register : (register rt req).Calls Op.keepsDocuments := by
  unfold register
  refine calls_bind (calls_lift _) fun data => ?_
  refine calls_bind (calls_lift _) fun missing => ?_
  cases missing with
  | some field => exact calls_pure _
  | none =>
    refine calls_bind (calls_lift _) fun emailValue => ?_
    refine calls_bind (calls_lift _) fun email => ?_
    refine calls_bind (calls_lift _) fun password => ?_
    refine calls_bind (calls_lift _) fun firstValue => ?_
    refine calls_bind (calls_lift _) fun firstName => ?_
    refine calls_bind (calls_lift _) fun lastValue => ?_
    refine calls_bind (calls_lift _) fun lastName => ?_
    refine calls_bind (calls_op trivial) fun existingUser => ?_
    cases existingUser with
    | some userDoc => exact calls_pure _
    | none =>
      refine calls_bind (calls_op trivial) fun count => ?_
      refine calls_bind (calls_lift _) fun passwordHash => ?_
      refine calls_bind (calls_lift _) fun userType => ?_
      refine calls_bind (calls_op trivial) fun _ => ?_
      exact calls_bind (calls_lift _) fun token => calls_pure _

theorem login_signs_in {account : Option Document} :
    (login rt req).Follows (signInProtocol rt ⟨.login, req⟩) account := by
  unfold login
  refine follows_lift_bind fun data parsed => ?_
  refine follows_lift_bind fun missing _ => ?_
  cases missing with
  | some field => exact follows_pure _
  | none =>
    refine follows_lift_bind fun emailValue email_given => ?_
    refine follows_lift_bind fun email text => ?_
    refine follows_lift_bind fun password password_given => ?_
    have named : Request.email? rt ⟨.login, req⟩ = some (lowerStrip rt email) := by
      rw [Value.pyStr_ok text] at email_given
      simp only [Request.email?, Http.field_of_pyIndex parsed email_given]
      rfl
    refine follows_perform_bind ⟨rfl, _, named, rfl⟩ fun found => ?_
    cases found with
    | none => exact follows_pure _
    | some userDoc =>
      refine follows_lift_bind fun pwhash stored => ?_
      refine follows_lift_bind fun correct checked => ?_
      split_ifs with right active
      · subst right
        have given := Http.field_of_pyIndex parsed password_given
        have proved : RightPassword rt ⟨.login, req⟩ userDoc := fun _ =>
          ⟨active, pwhash, password, Document.index_ok stored, given, checked⟩
        refine follows_perform_bind ⟨userDoc, rfl, proved, rfl, ?_, .account _ named⟩ fun _ =>
          issueToken_follows userDoc _
        simp [Endpoint.updates]
      · exact follows_pure _
      · exact follows_pure _

theorem googleAccount_signs_in {account : Option Document} {email : String}
    (googleId firstName lastName avatarUrl : Value)
    (named : Request.email? rt ⟨.googleLogin, req⟩ = some email) :
    (googleAccount req email googleId firstName lastName avatarUrl).Follows
      (signInProtocol rt ⟨.googleLogin, req⟩) account := by
  unfold googleAccount
  refine follows_perform_bind ⟨rfl, _, named, rfl⟩ fun existingUser => ?_
  cases existingUser with
  | some userDoc =>
    have unasked : RightPassword rt ⟨.googleLogin, req⟩ userDoc := fun other => nomatch other
    refine follows_perform_bind ⟨userDoc, rfl, unasked, rfl, ?_, .account _ named⟩ fun _ =>
      follows_pure _
    simp [Endpoint.updates, googleKeys]
  | none =>
    refine follows_perform_bind trivial fun count => ?_
    exact follows_perform_bind trivial fun _ => follows_pure _

theorem googleLogin_signs_in {account : Option Document} :
    (googleLogin rt req).Follows (signInProtocol rt ⟨.googleLogin, req⟩) account := by
  unfold googleLogin
  refine follows_lift_bind fun data parsed => ?_
  refine follows_lift_bind fun idToken _ => ?_
  split_ifs
  · refine follows_handle ?_ fun e phase => follows_pure _
    unfold googleSignIn
    refine follows_lift_bind fun userInfo info_given => ?_
    refine follows_lift_bind fun address _ => ?_
    split_ifs
    · refine follows_lift_bind fun emailValue email_given => ?_
      refine follows_lift_bind fun email text => ?_
      refine follows_lift_bind fun sub _ => ?_
      refine follows_lift_bind fun googleId _ => ?_
      refine follows_lift_bind fun firstName _ => ?_
      refine follows_lift_bind fun lastName _ => ?_
      refine follows_lift_bind fun avatarUrl _ => ?_
      have named : Request.email? rt ⟨.googleLogin, req⟩ = some (lowerStrip rt email) := by
        rw [Value.pyStr_ok text] at email_given
        exact email_of_userInfo parsed info_given email_given
      exact follows_bind (googleAccount_signs_in _ _ _ _ named) fun userDoc phase =>
        issueToken_follows userDoc _
    · exact follows_pure _
  · exact follows_pure _

theorem calls_createUser : (Users.createUser req).Calls Op.keepsDocuments := by
  unfold Users.createUser
  refine calls_bind (calls_lift _) fun payload => ?_
  refine calls_bind (calls_lift _) fun phone => ?_
  refine calls_bind (calls_lift _) fun role => ?_
  refine calls_bind (calls_lift _) fun pin => ?_
  refine calls_bind (calls_lift _) fun balance => ?_
  refine calls_bind (calls_op trivial) fun _ => ?_
  exact calls_bind (calls_lift _) fun doc => calls_pure _

/-- The caller's own document is the one that is named. -/
theorem calls_updateProfile :
    (updateProfile req caller).Calls (Permits rt ⟨.updateProfile, req⟩ caller) := by
  unfold updateProfile
  refine calls_bind (calls_lift _) fun data => ?_
  refine calls_lift_bind fun updateData collected => ?_
  split_ifs
  · exact calls_pure _
  · refine calls_lift_bind fun userId stored => ?_
    refine calls_bind (calls_op ⟨rfl, ?_, .own _ rfl (Document.index_ok stored)⟩) fun _ => ?_
    · intro entry member
      rcases List.mem_append.mp member with given | stamped
      · exact List.mem_append_left _ (Value.collectFields_spec collected entry given).1
      · rw [List.mem_singleton.mp stamped]
        exact List.mem_append_right _ List.mem_cons_self
    · refine calls_bind (calls_op trivial) fun found => ?_
      cases found with
      | none => exact calls_raise _
      | some updatedUser => exact calls_bind (calls_lift _) fun user => calls_pure _

theorem calls_changePassword :
    (changePassword rt req caller).Calls (Permits rt ⟨.changePassword, req⟩ caller) := by
  unfold changePassword
  refine calls_bind (calls_lift _) fun data => ?_
  refine calls_bind (calls_lift _) fun missing => ?_
  cases missing with
  | some field => exact calls_pure _
  | none =>
    refine calls_bind (calls_lift _) fun currentPassword => ?_
    refine calls_bind (calls_lift _) fun newPassword => ?_
    refine calls_lift_bind fun userId stored => ?_
    refine calls_bind (calls_op trivial) fun found => ?_
    cases found with
    | none => exact calls_pure _
    | some userDoc =>
      refine calls_bind (calls_lift _) fun pwhash => ?_
      refine calls_bind (calls_lift _) fun correct => ?_
      split_ifs
      · refine calls_bind (calls_lift _) fun passwordHash => ?_
        refine calls_bind (calls_op ⟨rfl, ?_, .own _ rfl (Document.index_ok stored)⟩) fun _ =>
          calls_pure _
        simp [Endpoint.updates]
      · exact calls_pure _

/-- The changes of an administrator differ in what they store. -/
theorem calls_setUser {endpoint : Endpoint} {userId : Nat} {update : Fields} {response : Response}
    (target : endpoint.target = some userId) (stamped : "updated_at" ∈ endpoint.updates)
    (listed : ∀ entry ∈ update, entry.1 ∈ endpoint.updates) :
    (Admin.setUser req userId update response).Calls (Permits rt ⟨endpoint, req⟩ caller) := by
  refine calls_bind (calls_op ⟨rfl, ?_, .target userId target⟩) fun _ => calls_pure _
  intro entry member
  rcases List.mem_append.mp member with given | last
  · exact listed entry given
  · rw [List.mem_singleton.mp last]
    exact stamped

theorem calls_ifExists {request : Request} {userId : Nat} {body : Prog Response}
    (calls : body.Calls (Permits rt request caller)) :
    (Admin.ifMongo rt "User management not available" (Admin.ifExists userId body)).Calls
      (Permits rt request caller) := by
  refine calls_bind (calls_lift _) fun available => ?_
  split_ifs
  · refine calls_bind (calls_op trivial) fun existingUser => ?_
    cases existingUser with
    | none => exact calls_pure _
    | some userDoc => exact calls
  · exact calls_pure _

theorem calls_updateUser (userId : Nat) :
    (Admin.updateUser rt req userId).Calls (Permits rt ⟨.updateUser userId, req⟩ caller) := by
  unfold Admin.updateUser
  refine calls_bind (calls_lift _) fun data => ?_
  refine calls_ifExists (calls_lift_bind fun updateData collected => ?_)
  split_ifs
  · exact calls_pure _
  · refine calls_setUser rfl (by simp [Endpoint.updates]) fun entry member => ?_
    exact List.mem_append_left _ (Value.collectFields_spec collected entry member).1

theorem calls_deleteUser (currentUser : Document) (userId : Nat) :
    (Admin.deleteUser rt req currentUser userId).Calls (Permits rt ⟨.deleteUser userId, req⟩ caller) := by
  refine calls_ifExists (calls_bind (calls_lift _) fun ownId => ?_)
  split_ifs
  · exact calls_pure _
  · exact calls_setUser rfl (by simp [Endpoint.updates]) (by simp [Endpoint.updates])

theorem calls_activateUser (userId : Nat) :
    (Admin.activateUser rt req userId).Calls (Permits rt ⟨.activateUser userId, req⟩ caller) :=
  calls_ifExists (calls_setUser rfl (by simp [Endpoint.updates]) (by simp [Endpoint.updates]))

theorem calls_upgradeUser (userId : Nat) :
    (Admin.upgradeUser rt req userId).Calls (Permits rt ⟨.upgradeUser userId, req⟩ caller) := by
  unfold Admin.upgradeUser
  refine calls_bind (calls_lift _) fun data => ?_
  refine calls_bind (calls_lift _) fun newUserType => ?_
  split_ifs
  · split
    · exact calls_pure _
    · exact calls_ifExists
        (calls_setUser rfl (by simp [Endpoint.updates]) (by simp [Endpoint.updates]))
  · exact calls_pure _

end Handlers

/-! The guards. -/

/-- A request with an email to log in to has no other guard. -/
theorem unguarded_of_email {rt : Runtime} {request : Request} {email : String}
    (given : request.email? rt = some email) :
    request.endpoint.requiresLogin = false ∧ request.endpoint.requiresAdmin = false := by
  obtain ⟨endpoint, req⟩ := request
  cases endpoint <;> first
    | exact ⟨rfl, rfl⟩
    | cases given

section Guards

variable {rt : Runtime} {req : Http} {view : Document → Prog Response} {op : Op}
  {next : Except PyExn op.Result → Prog Response}

/-- A guarded handler looks for the token's user, and then ends or goes on with an active one. -/
theorem jwtRequired_called (called : jwtRequired rt req view = .call op next) (s : Server) :
    op.keepsCollections ∧ ((∃ outcome, next (exec op s).1 = .done outcome) ∨
      ∃ currentUser, resolve rt req s.users = some currentUser ∧ isActive currentUser = true ∧
        next (exec op s).1 = view currentUser) := by
  unfold jwtRequired at called
  unfold resolve tokenUser
  cases header : req.bearerToken with
  | error refusal =>
    rw [header] at called
    cases called
  | ok token =>
    simp only [header] at called ⊢
    cases decoded : rt.jwtDecode req.now token with
    | error e => cases e <;> (rw [decoded] at called; cases called)
    | ok payload =>
      simp only [decoded] at called ⊢
      cases named : payload.lookup "user_id" with
      | none =>
        rw [show (Value.dict payload).pyIndex "user_id" = .error _ by
          simp only [Value.pyIndex, named]; rfl] at called
        cases called
      | some userId =>
        rw [Value.pyIndex_held named] at called
        cases called
        refine ⟨trivial, ?_⟩
        dsimp only
        change (∃ outcome, (Program.done (s.users.findOne [.eq "id" userId])).bind _ = _) ∨
          ∃ currentUser, _ ∧ _ ∧ (Program.done (s.users.findOne [.eq "id" userId])).bind _ = _
        cases answered : s.users.findOne [.eq "id" userId] with
        | error e => exact .inl ⟨_, rfl⟩
        | ok found =>
          cases found with
          | none => exact .inl ⟨_, rfl⟩
          | some currentUser =>
            cases active : isActive currentUser with
            | false =>
              refine .inl ⟨_, if_neg ?_⟩
              exact Bool.eq_false_iff.mp active
            | true =>
              refine .inr ⟨currentUser, rfl, active, if_pos active⟩

theorem adminRequired_called (called : adminRequired rt req view = .call op next) (s : Server) :
    op.keepsCollections ∧ ((∃ outcome, next (exec op s).1 = .done outcome) ∨
      ∃ currentUser, resolve rt req s.users = some currentUser ∧ isActive currentUser = true ∧
        isAdmin currentUser = true ∧ next (exec op s).1 = view currentUser) := by
  obtain ⟨reads, ended | ⟨currentUser, resolved, active, entered⟩⟩ := jwtRequired_called called s
  · exact ⟨reads, .inl ended⟩
  · cases admin : isAdmin currentUser with
    | false => exact ⟨reads, .inl ⟨_, entered.trans (if_neg (Bool.eq_false_iff.mp admin))⟩⟩
    | true => exact ⟨reads, .inr ⟨currentUser, resolved, active, admin, entered.trans (if_pos admin)⟩⟩

end Guards

section Stages

variable {rt : Runtime} {request : Request} {op : Op}
  {next : Except PyExn op.Result → Prog Response}

/-- What a guarded request may become in a state of the users: it no longer writes, or it goes on
for a caller whom its guard lets through. -/
def MayGoOn (rt : Runtime) (request : Request) (users : Collection) (program : Prog Response) : Prop :=
  program.Calls Op.keepsDocuments ∨
    ∃ caller, Admits rt request caller users ∧ program.Calls (Permits rt request caller)

/-- A guarded request brings no email and no password to log in with. -/
theorem admits_of_guard {caller : Document} {users : Collection}
    (guarded : request.endpoint.requiresLogin = true ∨ request.endpoint.requiresAdmin = true)
    (resolved : resolve rt request.http users = some caller) (active : isActive caller = true)
    (admin : request.endpoint.requiresAdmin = true → isAdmin caller = true) :
    Admits rt request caller users := by
  refine ⟨fun _ => ⟨resolved, active⟩, admin, fun email given => ?_, fun same => ?_⟩
  · obtain ⟨login, administrator⟩ := unguarded_of_email given
    rcases guarded with required | required
    · cases login.symm.trans required
    · cases administrator.symm.trans required
  · rw [same] at guarded
    rcases guarded with required | required <;> cases required

theorem first_stage (called : handler rt request = .call op next)
    (guarded : request.endpoint.requiresLogin = true ∨ request.endpoint.requiresAdmin = true)
    (s : Server) : op.keepsDocuments ∧ MayGoOn rt request s.users (next (exec op s).1) := by
  cases writes : request.endpoint.writesUsers with
  | false =>
    have calls := calls_handler rt writes
    rw [called] at calls
    exact ⟨calls.op.documents, .inl ((calls.next _).mono fun _ => Op.keepsCollections.documents)⟩
  | true =>
    obtain ⟨endpoint, req⟩ := request
    have loggedIn {view : Document → Prog Response} (same : jwtRequired rt req view = .call op next)
        (calls : ∀ caller, (view caller).Calls (Permits rt ⟨endpoint, req⟩ caller))
        (ordinary : endpoint.requiresAdmin = false) :
        op.keepsDocuments ∧ MayGoOn rt ⟨endpoint, req⟩ s.users (next (exec op s).1) := by
      obtain ⟨reads, ⟨outcome, ended⟩ | ⟨caller, resolved, active, entered⟩⟩ :=
        jwtRequired_called same s
      · exact ⟨reads.documents, .inl (ended ▸ calls_done _)⟩
      · have admits : Admits rt ⟨endpoint, req⟩ caller s.users :=
          admits_of_guard guarded resolved active fun required => nomatch ordinary.symm.trans required
        exact ⟨reads.documents, .inr ⟨caller, admits, entered ▸ calls caller⟩⟩
    have administered {view : Document → Prog Response}
        (same : adminRequired rt req view = .call op next)
        (calls : ∀ caller, (view caller).Calls (Permits rt ⟨endpoint, req⟩ caller)) :
        op.keepsDocuments ∧ MayGoOn rt ⟨endpoint, req⟩ s.users (next (exec op s).1) := by
      obtain ⟨reads, ⟨outcome, ended⟩ | ⟨caller, resolved, active, admin, entered⟩⟩ :=
        adminRequired_called same s
      · exact ⟨reads.documents, .inl (ended ▸ calls_done _)⟩
      · have admits : Admits rt ⟨endpoint, req⟩ caller s.users :=
          admits_of_guard guarded resolved active fun _ => admin
        exact ⟨reads.documents, .inr ⟨caller, admits, entered ▸ calls caller⟩⟩
    cases endpoint with
    | register | login | googleLogin | createUser =>
      simp [Endpoint.requiresLogin, Endpoint.requiresAdmin] at guarded
    | updateProfile => exact loggedIn called (fun _ => calls_updateProfile) rfl
    | changePassword => exact loggedIn called (fun _ => calls_changePassword) rfl
    | updateUser userId => exact administered called fun _ => calls_updateUser userId
    | deleteUser userId => exact administered called fun caller => calls_deleteUser caller userId
    | activateUser userId => exact administered called fun _ => calls_activateUser userId
    | upgradeUser userId => exact administered called fun _ => calls_upgradeUser userId
    | _ => cases writes

end Stages

/-! One operation, seen from a document. -/

/-- What an operation did to a document: every key that changed is one the endpoint may write, and
the filter that found the document is one of the request's. -/
structure Rewritten (rt : Runtime) (request : Request) (caller : Document) (d d' : Document) :
    Prop where
  keys : ∀ key, d'.get? key ≠ d.get? key → key ∈ request.endpoint.updates
  found : ∃ filter, Aims rt request caller filter ∧ d.satisfies filter = true

theorem exec_keepsDocuments {op : Op} (keeps : op.keepsDocuments) (s : Server) {j : Nat} {d : Document}
    (stored : s.users.docs[j]? = some d) : (exec op s).2.users.docs[j]? = some d := by
  cases op with
  | insertOne name oid fields =>
    cases inserted : (s.collection name).insertOne oid fields with
    | error e =>
      rw [exec_insertOne_error inserted]
      exact stored
    | ok c =>
      rw [exec_insertOne inserted]
      by_cases here : name = .users
      · subst here
        have inside := (List.getElem?_eq_some_iff.mp stored).1
        rw [users_setCollection, (Collection.insertOne_ok inserted).1, List.getElem?_append_left inside]
        exact stored
      · change (if CollectionName.users = name then c else s.users).docs[j]? = some d
        rw [if_neg (Ne.symm here)]
        exact stored
  | updateOne name filter update => exact keeps.elim
  | _ => exact stored

/-- A document stays where it is, and is as it was or was rewritten. -/
theorem exec_permitted {rt : Runtime} {request : Request} {caller : Document} {op : Op}
    (may : Permits rt request caller op) (s : Server) {j : Nat} {d : Document}
    (stored : s.users.docs[j]? = some d) :
    ∃ d', (exec op s).2.users.docs[j]? = some d' ∧ d'.oid = d.oid ∧
      (d' = d ∨ Rewritten rt request caller d d') := by
  cases op with
  | updateOne name filter update =>
    obtain ⟨rfl, listed, aims⟩ := may
    cases updated : s.users.updateOne filter update with
    | error e =>
      rw [exec_updateOne_error updated]
      exact ⟨d, stored, rfl, .inl rfl⟩
    | ok c =>
      rw [exec_updateOne updated, users_setCollection]
      rcases Collection.updateOne_ok updated with ⟨-, rfl⟩ | ⟨named, found, rewritten⟩
      · exact ⟨d, stored, rfl, .inl rfl⟩
      · refine ⟨d.edit named.oid update, ?_, Document.edit_oid _ _ _, ?_⟩
        · rw [rewritten, List.getElem?_map, stored]
          rfl
        · by_cases same : d.oid = named.oid
          · obtain ⟨member, matched⟩ := Collection.first?_mem found
            obtain rfl : d = named :=
              List.inj_on_of_nodup_map s.users.nodup (List.mem_of_getElem? stored) member same
            refine .inr ⟨fun key changed => ?_, filter, aims, matched⟩
            by_contra unlisted
            refine changed (Document.edit_get? (fun named => unlisted ?_) _ _)
            obtain ⟨entry, given, rfl⟩ := List.mem_map.mp named
            exact listed entry given
          · exact .inl (Document.edit_other update same)
  | _ =>
    refine ⟨d, exec_keepsDocuments ?_ s stored, rfl, .inl rfl⟩
    exact trivial

/-! Schedules. -/

section Schedules

variable {rt : Runtime} {server : Server} {requests : List Request} {start : Workers}
  {schedule : List Nat} {request : Request} {caller : Document}

theorem AdmittedDuring.later (admitted : AdmittedDuring rt start schedule request caller)
    (other : Nat) : AdmittedDuring rt start (schedule ++ [other]) request caller := by
  obtain ⟨earlier, before, admits⟩ := admitted
  exact ⟨earlier, before.trans (List.prefix_append _ _), admits⟩

/-- In a state of the schedule the login has read this account for its email. -/
def ReadDuring (rt : Runtime) (start : Workers) (schedule : List Nat) (request : Request)
    (account : Document) : Prop :=
  ∃ earlier email, earlier <+: schedule ∧ request.email? rt = some email ∧
    (earlier.foldl (Pool.step exec) start).store.users.first? [.eq "email" (.str email)] = some account

theorem ReadDuring.later {account : Document} (read : ReadDuring rt start schedule request account)
    (other : Nat) : ReadDuring rt start (schedule ++ [other]) request account := by
  obtain ⟨earlier, email, before, given, found⟩ := read
  exact ⟨earlier, email, before.trans (List.prefix_append _ _), given, found⟩

theorem ReadDuring.admitted {account : Document} (read : ReadDuring rt start schedule request account)
    (right : RightPassword rt request account) : AdmittedDuring rt start schedule request account := by
  obtain ⟨earlier, email, before, given, found⟩ := read
  obtain ⟨login, admin⟩ := unguarded_of_email given
  refine ⟨earlier, before, ?_, ?_, ?_, right⟩
  · rintro (required | required)
    · cases login.symm.trans required
    · cases admin.symm.trans required
  · intro required
    cases admin.symm.trans required
  · intro other same
    rw [← Option.some.inj (given.symm.trans same)]
    exact found

/-- How far a worker has come with its request. -/
inductive Stage (rt : Runtime) (start : Workers) (schedule : List Nat) (request : Request)
    (program : Prog Response) : Prop where
  | waiting (unstarted : program = handler rt request)
      (guarded : request.endpoint.requiresLogin = true ∨ request.endpoint.requiresAdmin = true)
  | harmless (calls : program.Calls Op.keepsDocuments)
  | signingIn (account : Option Document)
      (follows : program.Follows (signInProtocol rt request) account)
      (read : ∀ d, account = some d → ReadDuring rt start schedule request d)
  | admitted (caller : Document) (during : AdmittedDuring rt start schedule request caller)
      (calls : program.Calls (Permits rt request caller))

theorem Stage.later {program : Prog Response} (stage : Stage rt start schedule request program)
    (other : Nat) : Stage rt start (schedule ++ [other]) request program := by
  cases stage with
  | waiting unstarted guarded => exact .waiting unstarted guarded
  | harmless calls => exact .harmless calls
  | signingIn account follows read =>
    exact .signingIn account follows fun d same => (read d same).later other
  | admitted caller during calls => exact .admitted caller (during.later other) calls

theorem stage_of_handler (rt : Runtime) (start : Workers) (request : Request) :
    Stage rt start [] request (handler rt request) := by
  by_cases guarded : request.endpoint.requiresLogin = true ∨ request.endpoint.requiresAdmin = true
  · exact .waiting rfl guarded
  · cases writes : request.endpoint.writesUsers with
    | false => exact .harmless ((calls_handler rt writes).mono fun _ => Op.keepsCollections.documents)
    | true =>
      obtain ⟨endpoint, req⟩ := request
      cases endpoint with
      | register => exact .harmless calls_register
      | createUser => exact .harmless calls_createUser
      | login => exact .signingIn none login_signs_in fun d same => nomatch same
      | googleLogin => exact .signingIn none googleLogin_signs_in fun d same => nomatch same
      | updateProfile | changePassword => exact absurd (.inl rfl) guarded
      | updateUser | deleteUser | activateUser | upgradeUser => exact absurd (.inr rfl) guarded
      | _ => cases writes

/-- What a worker calls next changes no document, or its guard has let it through. -/
theorem Stage.call {op : Op} {next : Except PyExn op.Result → Prog Response}
    (stage : Stage rt start schedule request (.call op next)) (thread : Nat) :
    let s := (schedule.foldl (Pool.step exec) start).store
    (op.keepsDocuments ∨ ∃ caller, AdmittedDuring rt start schedule request caller ∧
      Permits rt request caller op) ∧
      Stage rt start (schedule ++ [thread]) request (next (exec op s).1) := by
  intro s
  cases stage with
  | waiting unstarted guarded =>
    obtain ⟨reads, rest⟩ := first_stage unstarted.symm guarded s
    refine ⟨.inl reads, ?_⟩
    rcases rest with harmless | ⟨caller, admits, calls⟩
    · exact .harmless harmless
    · have here : AdmittedDuring rt start schedule request caller :=
        ⟨schedule, List.prefix_refl _, admits⟩
      exact .admitted caller (here.later _) calls
  | harmless calls => exact ⟨.inl calls.op, .harmless (calls.next _)⟩
  | signingIn account follows read =>
    have going (d : Document) (same : account = some d) := (read d same).later thread
    cases op with
    | findOne name filter =>
      obtain ⟨⟨rfl, email, given, rfl⟩, rest⟩ := follows
      refine ⟨.inl trivial, .signingIn _ (rest _) fun d same => ?_⟩
      have encodes : Filter.bsonError [.eq "email" (.str email)] = none := rfl
      rw [exec_findOne encodes] at same
      exact ⟨schedule, email, List.prefix_append _ _, given, same⟩
    | updateOne name filter update =>
      obtain ⟨⟨d, same, right, permitted⟩, rest⟩ := follows
      exact ⟨.inr ⟨d, (read d same).admitted right, permitted⟩, .signingIn account (rest _) going⟩
    | _ => exact ⟨.inl trivial, .signingIn account (follows.2 _) going⟩
  | admitted caller during calls =>
    exact ⟨.inr ⟨caller, during, calls.op⟩, .admitted caller (during.later _) (calls.next _)⟩

/-- Every worker is at a stage of the request it was given. -/
theorem serving_stages (rt : Runtime) (server : Server) (requests : List Request)
    (schedule : List Nat) (thread : Nat) (program : Prog Response)
    (here : (schedule.foldl (Pool.step exec) (Workers.serving rt server requests)).threads[thread]? =
      some program) :
    ∃ request, requests[thread]? = some request ∧
      Stage rt (Workers.serving rt server requests) schedule request program := by
  refine Pool.run_threads exec (fun schedule thread program => ∃ request,
    requests[thread]? = some request ∧
      Stage rt (Workers.serving rt server requests) schedule request program) ?_ ?_ ?_ schedule thread
    program here
  · intro thread program found
    have mapped : (requests.map (handler rt))[thread]? = some program := found
    rw [List.getElem?_map, Option.map_eq_some_iff] at mapped
    obtain ⟨request, given, rfl⟩ := mapped
    exact ⟨request, given, stage_of_handler rt _ request⟩
  · rintro before other thread program ⟨request, given, stage⟩
    exact ⟨request, given, stage.later other⟩
  · rintro before thread op next ⟨request, given, stage⟩
    exact ⟨request, given, (stage.call thread).2⟩

/-- A step leaves every document in its place, as it was or rewritten for an admitted caller. -/
theorem step_rewrites (rt : Runtime) (server : Server) (requests : List Request) (schedule : List Nat)
    (thread : Nat) {j : Nat} {d : Document}
    (stored : (schedule.foldl (Pool.step exec) (Workers.serving rt server requests)).store.users.docs[j]? =
      some d) :
    ∃ d', ((schedule.foldl (Pool.step exec) (Workers.serving rt server requests)).step exec
        thread).store.users.docs[j]? = some d' ∧ d'.oid = d.oid ∧
      (d' = d ∨ ∃ request caller, requests[thread]? = some request ∧
        AdmittedDuring rt (Workers.serving rt server requests) schedule request caller ∧
          Rewritten rt request caller d d') := by
  rcases Pool.step_cases exec (schedule.foldl (Pool.step exec) (Workers.serving rt server requests))
    thread with ⟨-, idle⟩ | ⟨op, next, found, -, moved⟩
  · rw [idle]
    exact ⟨d, stored, rfl, .inl rfl⟩
  · rw [moved]
    obtain ⟨request, given, stage⟩ := serving_stages rt server requests schedule thread _ found
    rcases (stage.call thread).1 with harmless | ⟨caller, during, permitted⟩
    · exact ⟨d, exec_keepsDocuments harmless _ stored, rfl, .inl rfl⟩
    · obtain ⟨d', kept, sameId, same | changed⟩ := exec_permitted permitted _ stored
      · exact ⟨d', kept, sameId, .inl same⟩
      · exact ⟨d', kept, sameId, .inr ⟨request, caller, given, during, changed⟩⟩

/-- From any state of a schedule on: a key that no request is let through to write. -/
theorem unadmitted_key_kept {key : String} (earlier rest : List Nat)
    (never : ∀ request ∈ requests, key ∈ request.endpoint.updates → ∀ caller,
      ¬AdmittedDuring rt (Workers.serving rt server requests) (earlier ++ rest) request caller)
    {j : Nat} {d : Document}
    (stored : (earlier.foldl (Pool.step exec) (Workers.serving rt server requests)).store.users.docs[j]? =
      some d) :
    ∃ d', ((earlier ++ rest).foldl (Pool.step exec)
        (Workers.serving rt server requests)).store.users.docs[j]? = some d' ∧ d'.oid = d.oid ∧
      d'.get? key = d.get? key := by
  induction rest using List.reverseRecOn with
  | nil =>
    rw [List.append_nil]
    exact ⟨d, stored, rfl, rfl⟩
  | append_singleton before thread ih =>
    rw [← List.append_assoc] at never ⊢
    obtain ⟨d', kept, sameId, same⟩ := ih fun request member listed caller during =>
      never request member listed caller (during.later thread)
    obtain ⟨d'', kept', sameId', changed⟩ :=
      step_rewrites rt server requests (earlier ++ before) thread kept
    rw [List.foldl_append, List.foldl_cons, List.foldl_nil]
    refine ⟨d'', kept', sameId'.trans sameId, ?_⟩
    rcases changed with rfl | ⟨request, caller, given, during, changed⟩
    · exact same
    · by_contra differs
      rw [← same] at differs
      exact never request (List.mem_of_getElem? given) (changed.keys key differs) caller
        (during.later thread)

theorem identity_unwritten (endpoint : Endpoint) {key : String} (identity : key = "id" ∨ key = "email") :
    key ∉ endpoint.updates := by
  rcases identity with rfl | rfl <;> cases endpoint <;>
    simp [Endpoint.updates, googleKeys, profileFields, Admin.userFields]

theorem account_identity_kept {key : String} (earlier rest : List Nat)
    (identity : key = "id" ∨ key = "email")
    {j : Nat} {d : Document}
    (stored : (earlier.foldl (Pool.step exec) (Workers.serving rt server requests)).store.users.docs[j]? =
      some d) :
    ∃ d', ((earlier ++ rest).foldl (Pool.step exec)
        (Workers.serving rt server requests)).store.users.docs[j]? = some d' ∧ d'.oid = d.oid ∧
      d'.get? key = d.get? key :=
  unadmitted_key_kept earlier rest
    (fun request _ written => absurd written (identity_unwritten request.endpoint identity)) stored

/-- The document is the one the request names in its path, the caller's own, or the account of the
email it logs in with, which the login has read. -/
inductive Names (rt : Runtime) (request : Request) (caller d : Document) : Prop where
  | target (userId : Nat) (aimed : request.endpoint.target = some userId)
      (held : (Value.int userId).matchesField (d.get? "id") = true)
  | own (ownId : Value) (guarded : request.endpoint.requiresLogin = true)
      (stored : caller.get? "id" = some ownId) (held : ownId.matchesField (d.get? "id") = true)
  | account (email : String) (given : request.email? rt = some email) (same : d.oid = caller.oid)
      (held : (Value.str email).matchesField (d.get? "email") = true)

/-- What a step did to a document: every key that changed is one the endpoint may write, and the
document is the one the request names. -/
structure ChangedBy (rt : Runtime) (request : Request) (caller : Document) (d d' : Document) :
    Prop where
  keys : ∀ key, d'.get? key ≠ d.get? key → key ∈ request.endpoint.updates
  named : Names rt request caller d

/-- The account that a login has read still holds the email when it is written. -/
theorem names_of_aims {filter : Filter} {j : Nat} {d : Document}
    (aims : Aims rt request caller filter) (found : d.satisfies filter = true)
    (during : AdmittedDuring rt (Workers.serving rt server requests) schedule request caller)
    (stored : (schedule.foldl (Pool.step exec) (Workers.serving rt server requests)).store.users.docs[j]? =
      some d) : Names rt request caller d := by
  cases aims with
  | target userId aimed =>
    exact .target userId aimed (by simpa [Document.satisfies, Condition.holds] using found)
  | own ownId guarded held =>
    exact .own ownId guarded held (by simpa [Document.satisfies, Condition.holds] using found)
  | account email given =>
    have same : d.oid = caller.oid := by simpa [Document.satisfies, Condition.holds] using found
    obtain ⟨earlier, ⟨rest, rfl⟩, admits⟩ := during
    obtain ⟨member, matched⟩ := Collection.first?_mem (admits.account email given)
    obtain ⟨i, here⟩ := List.getElem?_of_mem member
    obtain ⟨d', kept, sameId, sameEmail⟩ := account_identity_kept earlier rest (.inr rfl) here
    have unique : d' = d := List.inj_on_of_nodup_map (Collection.nodup _)
      (List.mem_of_getElem? kept) (List.mem_of_getElem? stored) (sameId.trans same.symm)
    rw [unique] at sameEmail
    refine .account email given same ?_
    rw [sameEmail]
    simpa [Document.satisfies, Condition.holds] using matched

/-- Whatever requests are handled at the same time and however their operations interleave, a step
leaves every document in its place, and a document it changes is changed by a request whose guard
has let its caller through in an earlier state of the schedule, in keys its endpoint may write, and
is the one the request names: by the id in its path, as the caller's own, or by the email it logs in
with. -/
theorem concurrent_changes_authorised (rt : Runtime) (server : Server) (requests : List Request)
    (schedule : List Nat) (thread : Nat) :
    let start := Workers.serving rt server requests
    let workers := schedule.foldl (Pool.step exec) start
    ∀ (j : Nat) (d : Document), workers.store.users.docs[j]? = some d →
      ∃ d', (workers.step exec thread).store.users.docs[j]? = some d' ∧ d'.oid = d.oid ∧
        (d' = d ∨ ∃ request caller, requests[thread]? = some request ∧
          AdmittedDuring rt start schedule request caller ∧ ChangedBy rt request caller d d') := by
  intro start workers j d stored
  obtain ⟨d', kept, sameId, same | ⟨request, caller, given, during, changed⟩⟩ :=
    step_rewrites rt server requests schedule thread stored
  · exact ⟨d', kept, sameId, .inl same⟩
  · obtain ⟨filter, aims, found⟩ := changed.found
    exact ⟨d', kept, sameId,
      .inr ⟨request, caller, given, during, changed.keys, names_of_aims aims found during stored⟩⟩

/-- A user logs in while an administrator upgrades her. -/
def loginAndUpgrade : List Request := [
  ⟨.login, .ofEntries none [("email", .str "sarah@example.com"), ("password", .str "s3cret")] rfl 0⟩,
  ⟨.upgradeUser 2, .ofEntries (some "Bearer i") [("user_type", .str "subscribed")] rfl 0⟩]

/-- The documents of an administrator and of a user. -/
def staff : List Document := [
  ⟨1, [("id", .int 1), ("user_type", .str "admin"), ("first_name", .str "Ada")]⟩,
  ⟨2, [("id", .int 2), ("user_type", .str "user"), ("first_name", .str "Sarah"),
    ("email", .str "sarah@example.com"), ("password_hash", .str "s3cret")]⟩]

def staffedServer : Server :=
  ⟨fun _ => ⟨staff, by decide, by decide⟩, [], []⟩

/-- The login looks first; then the user is upgraded, and the login is about to be written. -/
theorem login_stamps_upgraded :
    let workers := [0, 1, 1, 1].foldl (Pool.step exec)
      (Workers.serving plainRuntime staffedServer loginAndUpgrade)
    (workers.store.users.docs[1]?.bind (·.get? "user_type") = some (.str "subscribed")) ∧
      workers.store.users.docs[1]?.bind (·.get? "last_login") = none ∧
      ((workers.step exec 0).store.users.docs[1]?.bind (·.get? "last_login")).isSome = true := by
  decide +kernel

theorem concurrent_changes_authorised_login :
    let start := Workers.serving plainRuntime staffedServer loginAndUpgrade
    let workers := [0, 1, 1, 1].foldl (Pool.step exec) start
    ∃ d d' request caller, workers.store.users.docs[1]? = some d ∧
      (workers.step exec 0).store.users.docs[1]? = some d' ∧ loginAndUpgrade[0]? = some request ∧
        AdmittedDuring plainRuntime start [0, 1, 1, 1] request caller ∧
          ChangedBy plainRuntime request caller d d' := by
  obtain ⟨upgraded, before, after⟩ := login_stamps_upgraded
  obtain ⟨d, stored, -⟩ := Option.bind_eq_some_iff.mp upgraded
  obtain ⟨d', kept, -, same | ⟨request, caller, given, during, changed⟩⟩ :=
    concurrent_changes_authorised plainRuntime staffedServer loginAndUpgrade [0, 1, 1, 1] 0 1 d stored
  · rw [stored, Option.bind_some] at before
    rw [kept, same, Option.bind_some, before] at after
    cases after
  · exact ⟨d, d', request, caller, stored, kept, given, during, changed⟩

end Schedules

/-- What only an administrator may change in an account. -/
def privilegeKeys : List String :=
  ["user_type", "is_active", "is_suspended", "email_verified", "phone_verified"]

theorem requiresAdmin_of_privilege {endpoint : Endpoint} {key : String} (privilege : key ∈ privilegeKeys)
    (written : key ∈ endpoint.updates) : endpoint.requiresAdmin = true := by
  cases endpoint <;> first
    | rfl
    | (exfalso
       revert key
       simp [privilegeKeys, Endpoint.updates, googleKeys, profileFields])

/-- Along every schedule of requests of any kind, every account keeps its id and its email; and as
long as no administrator's request of the schedule bears the token of an active administrator, it
keeps its user type and its standing. -/
theorem concurrent_requests_keep_privileges (rt : Runtime) (server : Server) (requests : List Request)
    (schedule : List Nat) :
    let start := Workers.serving rt server requests
    ∀ (j : Nat) (d : Document), server.users.docs[j]? = some d →
      (∀ key, key = "id" ∨ key = "email" → ∃ d',
        (schedule.foldl (Pool.step exec) start).store.users.docs[j]? = some d' ∧ d'.oid = d.oid ∧
          d'.get? key = d.get? key) ∧
      ((∀ request ∈ requests, request.endpoint.requiresAdmin = true → ∀ earlier, earlier <+: schedule →
          (resolve rt request.http (earlier.foldl (Pool.step exec) start).store.users).any
            (fun caller => isActive caller && isAdmin caller) = false) →
        ∀ key ∈ privilegeKeys, ∃ d',
          (schedule.foldl (Pool.step exec) start).store.users.docs[j]? = some d' ∧ d'.oid = d.oid ∧
            d'.get? key = d.get? key) := by
  intro start j d stored
  constructor
  · intro key identity
    exact account_identity_kept [] schedule identity stored
  · intro unprivileged key privilege
    refine unadmitted_key_kept [] schedule (fun request member written caller during => ?_) stored
    have guarded := requiresAdmin_of_privilege privilege written
    obtain ⟨earlier, before, admits⟩ := during
    obtain ⟨resolved, active⟩ := admits.login (.inr guarded)
    have refused := unprivileged request member guarded earlier before
    rw [resolved, Option.any_some, active, admits.admin guarded] at refused
    cases refused

/-- A user asks for her own upgrade while an administrator changes a name. -/
def selfUpgrade : List Request := [
  ⟨.upgradeUser 2, .ofEntries (some "Bearer ii") [("user_type", .str "admin")] rfl 0⟩,
  ⟨.updateProfile, .ofEntries (some "Bearer i") [("first_name", .str "Ada")] rfl 0⟩]

theorem selfUpgrade_refused : ∀ request ∈ selfUpgrade, request.endpoint.requiresAdmin = true →
    ∀ earlier ∈ [0, 1, 1, 0].inits,
      (resolve plainRuntime request.http (earlier.foldl (Pool.step exec)
        (Workers.serving plainRuntime staffedServer selfUpgrade)).store.users).any
          (fun caller => isActive caller && isAdmin caller) = false := by
  decide +kernel

theorem concurrent_requests_keep_privileges_selfUpgrade :
    let start := Workers.serving plainRuntime staffedServer selfUpgrade
    ∃ d d', staffedServer.users.docs[1]? = some d ∧
      ([0, 1, 1, 0].foldl (Pool.step exec) start).store.users.docs[1]? = some d' ∧ d'.oid = d.oid ∧
        d'.get? "user_type" = d.get? "user_type" := by
  obtain ⟨d', kept, sameId, same⟩ :=
    (concurrent_requests_keep_privileges plainRuntime staffedServer selfUpgrade [0, 1, 1, 0] 1 staff[1]
      rfl).2 (fun request member guarded earlier before =>
        selfUpgrade_refused request member guarded earlier ((List.mem_inits _ _).mpr before))
      "user_type" (by decide)
  exact ⟨staff[1], d', rfl, kept, sameId, same⟩

end UssdCredit
