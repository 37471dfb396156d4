import UssdCredit.AuthSessions
import UssdCredit.PasswordEndpoints

/-! A password change that fails, and the session of the page: the interceptor takes every 401
for the end of the session, and the endpoint answers a wrong password with one. -/

namespace UssdCredit

open Library Program

def AuthApi.changePassword (currentPassword newPassword : String) : ApiRequest :=
  ⟨"/api/auth/change-password", .changePassword, some ⟨.dict [
    ("current_password", .str currentPassword),
    ("new_password", .str newPassword)], rfl⟩⟩

def AuthContext.changePassword (rt : Runtime) (oidText : Nat → String)
    (currentPassword newPassword : String) (site : Site) (occasion : Occasion) :
    Except Js Unit × Site :=
  let (result, site) := site.send rt oidText (AuthApi.changePassword currentPassword newPassword) occasion
  match result with
  | .error response => (.error (AuthContext.errorMessage (some response) "Password change failed"), site)
  | .ok _ => (.ok (), site)

/-- A call is rejected and leaves the session of the page alone. -/
structure KeepsSession (ended : Except Js Unit × Site) (site : Site) : Prop where
  authToken : ended.2.localStorage.getItem "authToken" = site.localStorage.getItem "authToken"
  user : ended.2.localStorage.getItem "user" = site.localStorage.getItem "user"
  state : ended.2.state = site.state
  location : ended.2.location = site.location
  rejected : ∃ error, ended.1 = .error error

/-- The current password does not match the hash of the user that the endpoint looks up. -/
def ChecksFalse (rt : Runtime) (users : Collection) (currentUser : Document) (password : String) : Prop :=
  ∃ userId, currentUser.get? "id" = some userId ∧
    ∀ userDoc, users.first? [.eq "id" userId] = some userDoc →
      ∃ pwhash, userDoc.get? "password_hash" = some pwhash ∧
        checkPasswordHash rt pwhash (.str password) = .ok false

section Refusals

variable {rt : Runtime} {s : Server} {req : Http} {old new : String} {currentUser : Document}

theorem run_changePassword_incomplete (old_given : req.field "current_password" = some (.str old))
    (new_given : req.field "new_password" = some (.str new)) (missing : old = "" ∨ new = "") :
    (Auth.changePassword rt req currentUser).run exec s =
      (.ok (message 400 "Current and new password are required"), s) := by
  obtain ⟨entries, parsed, old_held⟩ := pyIndex_of_field old_given
  have new_held : entries.lookup "new_password" = some (.str new) := by
    rwa [Http.field_dict parsed] at new_given
  obtain ⟨key, incomplete⟩ : ∃ key, (Value.dict entries).missingField
      ["current_password", "new_password"] = .ok (some key) := by
    by_cases old_text : old = ""
    · exact ⟨"current_password", by simp [Value.missingField, Value.pyGet_dict, old_held, Value.truthy, old_text]⟩
    · have new_text := missing.resolve_left old_text
      exact ⟨"new_password", by
        simp [Value.missingField, Value.pyGet_dict, old_held, new_held, Value.truthy, old_text, new_text]⟩
  unfold Auth.changePassword
  rw [run_lift_bind exec parsed, run_lift_bind exec incomplete]
  rfl

theorem error_answer_status (e : PyExn) : (Outcome.answer (.error e)).status ≠ 401 := by
  unfold Outcome.answer PyExn.answer
  dsimp only
  split_ifs <;> simp

/-- After the search the endpoint answers 401 for a wrong password and for nothing else. -/
theorem changeOf_unauthorized_iff {userId : Value} {userDoc : Document} :
    (Outcome.answer ((changeOf rt req userId userDoc (.str old) (.str new)).run exec s).1).status = 401 ↔
      ∃ pwhash, userDoc.get? "password_hash" = some pwhash ∧
        checkPasswordHash rt pwhash (.str old) = .ok false := by
  unfold changeOf
  cases held : userDoc.get? "password_hash" with
  | none =>
    rw [Document.index_of_absent held]
    refine iff_of_false (error_answer_status _) ?_
    rintro ⟨pwhash, impossible, -⟩
    cases impossible
  | some pwhash =>
    rw [run_lift_bind exec (Document.index_of_get? held)]
    cases compared : checkPasswordHash rt pwhash (.str old) with
    | error e =>
      refine iff_of_false (error_answer_status e) ?_
      rintro ⟨pwhash', same, failed⟩
      rw [← Option.some.inj same, compared] at failed
      cases failed
    | ok correct =>
      rw [run_lift_bind exec rfl]
      cases correct with
      | false => exact iff_of_true rfl ⟨pwhash, rfl, compared⟩
      | true =>
        have hashed : generatePasswordHash rt req.salt (.str new) = .ok (.str (rt.hash req.salt new)) := rfl
        rw [if_pos rfl, run_lift_bind exec hashed]
        refine iff_of_false ?_ ?_
        · cases updated : s.users.updateOne [.eq "id" userId] [
            ("password_hash", .str (rt.hash req.salt new)), ("updated_at", req.utcnow)] with
          | error e =>
            rw [run_updateOne_error updated]
            exact error_answer_status e
          | ok c =>
            rw [run_updateOne updated]
            exact Nat.ne_of_lt (show 200 < 401 by decide)
        · rintro ⟨pwhash', same, failed⟩
          rw [← Option.some.inj same, compared] at failed
          cases failed

theorem changePassword_unauthorized_iff (member : currentUser ∈ s.users.docs)
    (old_given : req.field "current_password" = some (.str old))
    (new_given : req.field "new_password" = some (.str new)) :
    (Outcome.answer ((Auth.changePassword rt req currentUser).run exec s).1).status = 401 ↔
      old ≠ "" ∧ new ≠ "" ∧ ChecksFalse rt s.users currentUser old := by
  by_cases complete : old ≠ "" ∧ new ≠ ""
  · rw [run_changePassword_texts old_given new_given complete.1 complete.2]
    cases held : currentUser.get? "id" with
    | none =>
      rw [Document.index_of_absent held]
      refine iff_of_false (error_answer_status _) ?_
      rintro ⟨-, -, userId, impossible, -⟩
      rw [held] at impossible
      cases impossible
    | some userId =>
      have searched : Filter.bsonError [.eq "id" userId] = none := by
        simp [Filter.bsonError, Collection.bsonError_get? member held]
      have users : s.collection .users = s.users := rfl
      rw [run_lift_bind exec (Document.index_of_get? held), run_findOne searched, users]
      cases found : s.users.first? [.eq "id" userId] with
      | none =>
        refine iff_of_true rfl ⟨complete.1, complete.2, userId, held, fun userDoc impossible => ?_⟩
        rw [found] at impossible
        cases impossible
      | some userDoc =>
        refine changeOf_unauthorized_iff.trans ⟨fun wrong => ?_, ?_⟩
        · refine ⟨complete.1, complete.2, userId, held, fun other same => ?_⟩
          rw [found] at same
          rwa [← Option.some.inj same]
        · rintro ⟨-, -, userId', same, wrong⟩
          rw [held] at same
          rw [← Option.some.inj same] at wrong
          exact wrong userDoc found
  · have missing : old = "" ∨ new = "" := by
      by_contra neither
      exact complete (not_or.mp neither)
    rw [run_changePassword_incomplete old_given new_given missing]
    refine iff_of_false (Nat.ne_of_lt (show 400 < 401 by decide)) ?_
    rintro ⟨old_text, new_text, -⟩
    exact complete ⟨old_text, new_text⟩

end Refusals

/-! The page. -/

section Page

variable {rt : Runtime} {oidText : Nat → String} {site : Site} {occasion : Occasion} {old new : String}

/-- An accepted token comes from the storage. -/
theorem authToken_stored {request : ApiRequest} {currentUser : Document}
    (accepted : Auth.resolve rt (request.sent site.localStorage occasion).http site.server.users =
      some currentUser) : site.localStorage.getItem "authToken" ≠ none := by
  intro absent
  unfold Auth.resolve Auth.tokenUser Http.bearerToken ApiRequest.sent at accepted
  dsimp only at accepted
  rw [absent] at accepted
  cases accepted

theorem changePassword_refused
    (refused : (serve rt oidText site.server
      ((AuthApi.changePassword old new).sent site.localStorage occasion)).1.succeeds = false) :
    let served := serve rt oidText site.server ((AuthApi.changePassword old new).sent site.localStorage occasion)
    AuthContext.changePassword rt oidText old new site occasion =
      (.error (AuthContext.errorMessage (some served.1) "Password change failed"),
        if served.1.status = 401 then
          { site with server := served.2, localStorage := site.localStorage.signOut, location := "/auth" }
        else { site with server := served.2 }) := by
  intro served
  unfold AuthContext.changePassword Site.send
  dsimp only
  rw [if_neg (ne_true_of_eq_false refused)]
  split_ifs <;> rfl

theorem keepsSession_iff_status
    (stored : site.localStorage.getItem "authToken" ≠ none)
    (refused : (serve rt oidText site.server
      ((AuthApi.changePassword old new).sent site.localStorage occasion)).1.succeeds = false) :
    KeepsSession (AuthContext.changePassword rt oidText old new site occasion) site ↔
      (serve rt oidText site.server
        ((AuthApi.changePassword old new).sent site.localStorage occasion)).1.status ≠ 401 := by
  rw [changePassword_refused refused]
  split_ifs with unauthorized
  · refine iff_of_false (fun kept => ?_) (not_not_intro unauthorized)
    have gone : site.localStorage.signOut.getItem "authToken" = none :=
      LocalStorage.getItem_signOut _ (.inl rfl)
    exact stored (kept.authToken.symm.trans gone)
  · exact iff_of_true ⟨rfl, rfl, rfl, rfl, _, rfl⟩ unauthorized

/-- A refused password change of a session that the server accepts keeps the session, unless
both passwords are given and the current one is wrong. -/
theorem failed_password_change_keeps_session_iff (rt : Runtime) (oidText : Nat → String) (site : Site)
    (occasion : Occasion) (old new : String) {currentUser : Document}
    (accepted : Auth.resolve rt ((AuthApi.changePassword old new).sent site.localStorage occasion).http
      site.server.users = some currentUser)
    (active : Auth.isActive currentUser = true)
    (refused : (serve rt oidText site.server
      ((AuthApi.changePassword old new).sent site.localStorage occasion)).1.succeeds = false) :
    KeepsSession (AuthContext.changePassword rt oidText old new site occasion) site ↔
      ¬(old ≠ "" ∧ new ≠ "" ∧ ChecksFalse rt site.server.users currentUser old) := by
  let req := ((AuthApi.changePassword old new).sent site.localStorage occasion).http
  have passed : (handler rt ⟨.changePassword, req⟩).serve site.server =
      (Auth.changePassword rt req currentUser).run exec site.server :=
    Auth.run_jwtRequired_active accepted active
  have answered : (serve rt oidText site.server
      ((AuthApi.changePassword old new).sent site.localStorage occasion)).1 =
      Outcome.answer ((Auth.changePassword rt req currentUser).run exec site.server).1 :=
    congrArg (fun result : Outcome × Server => result.1.answer) passed
  rw [keepsSession_iff_status (authToken_stored accepted) refused, answered]
  exact not_congr (changePassword_unauthorized_iff (Auth.resolve_mem accepted).1 rfl rfl)

end Page

/-- The page of a logged-in user. -/
def sarahsPage : Site where
  state := ⟨some (.dict [("id", .int 1)]), some (.str "i"), true, false, some .null⟩
  localStorage := [("authToken", "i"), ("user", "null")]
  location := "/settings"
  server := step plainRuntime Server.initial (.registration "sarah@example.com" "s3cret" "user" 1)

def sarahsAccount : Document :=
  ⟨1, Auth.newUser (Request.registration "sarah@example.com" "s3cret" "user" 1).http 1
    "sarah@example.com" (.str "s3cret") "Sarah" "Kimani" (.str "user")⟩

theorem failed_password_change_keeps_session_iff_wrong :
    let occasion : Occasion := ⟨0, 0, 2⟩
    KeepsSession (AuthContext.changePassword plainRuntime toString "secret" "n3wpass" sarahsPage occasion)
        sarahsPage ↔
      ¬("secret" ≠ "" ∧ "n3wpass" ≠ "" ∧
        ChecksFalse plainRuntime sarahsPage.server.users sarahsAccount "secret") := by
  intro occasion
  have accepted : Auth.resolve plainRuntime ((AuthApi.changePassword "secret" "n3wpass").sent
      sarahsPage.localStorage occasion).http sarahsPage.server.users = some sarahsAccount := by
    decide +kernel
  exact failed_password_change_keeps_session_iff plainRuntime toString sarahsPage occasion
    "secret" "n3wpass" accepted (by decide +kernel) (by decide +kernel)

/-- A wrong current password ends the session. -/
theorem wrong_password_ends_session :
    let occasion : Occasion := ⟨0, 0, 2⟩
    let request := (AuthApi.changePassword "secret" "n3wpass").sent sarahsPage.localStorage occasion
    let ended := AuthContext.changePassword plainRuntime toString "secret" "n3wpass" sarahsPage occasion
    (Auth.resolve plainRuntime request.http sarahsPage.server.users).any Auth.isActive = true ∧
      (serve plainRuntime toString sarahsPage.server request).1 =
        message 401 "Current password is incorrect" ∧
      ended.2.localStorage = [] ∧ ended.2.location = "/auth" ∧
      ended.2.state.token = some (.str "i") ∧ ¬KeepsSession ended sarahsPage := by
  intro occasion request ended
  have emptied : ended.2.localStorage = [] := by decide +kernel
  refine ⟨by decide +kernel, by decide +kernel, emptied, by decide +kernel, by decide +kernel,
    fun kept => ?_⟩
  have lost := kept.authToken
  rw [emptied] at lost
  cases lost

end UssdCredit
