import UssdCredit.AccountDocuments

/-! The login and the password change on the documents that requests store: they index the
password hash of a document unasked, and an account of a Google login has none. -/

namespace UssdCredit

open Library Program

/-- A hash the server has made is compared with any text without an exception. -/
def Runtime.HashAnswers (rt : Runtime) : Prop :=
  ∀ salt password attempt, ∃ correct, rt.checkHash (rt.hash salt password) (.str attempt) = .ok correct

theorem Runtime.HashExact.answers {rt : Runtime} (exact : rt.HashExact) : rt.HashAnswers :=
  fun salt password attempt => ⟨_, exact salt password attempt⟩

section Login

variable {rt : Runtime} {s : Server} {req : Http} {e p : String}

/-- The login once it has found a document. -/
def loginTo (rt : Runtime) (req : Http) (userDoc : Document) (password : Value) : Prog Response := do
  let correct ← checkPasswordHash rt (← userDoc.index "password_hash") password
  if correct then
    if (userDoc.get "is_active" (.bool true)).truthy then
      perform (.updateOne .users [.objectId userDoc.oid] [("last_login", req.utcnow)])
      Auth.issueToken rt req userDoc "Login successful"
    else return message 401 "Account is suspended"
  else return message 401 "Invalid credentials"

/-- What the login does with texts: it looks for the email, and the rest depends on what it
finds. -/
theorem run_login_search (email_given : req.field "email" = some (.str e))
    (password_given : req.field "password" = some (.str p)) (e_text : e ≠ "") (p_text : p ≠ "") :
    (Auth.login rt req).run exec s =
      match s.users.first? [.eq "email" (.str (Auth.lowerStrip rt e))] with
      | none => (.ok (message 401 "Invalid credentials"), s)
      | some userDoc => (loginTo rt req userDoc (.str p)).run exec s := by
  obtain ⟨entries, parsed, email_held⟩ := pyIndex_of_field email_given
  have password_held : entries.lookup "password" = some (.str p) := by
    rwa [Http.field_dict parsed] at password_given
  have complete : (Value.dict entries).missingField ["email", "password"] = .ok none := by
    simp [Value.missingField, Value.pyGet_dict, email_held, password_held, Value.truthy, e_text, p_text]
  have searched : Filter.bsonError [.eq "email" (.str (Auth.lowerStrip rt e))] = none := rfl
  have users : s.collection .users = s.users := rfl
  unfold Auth.login
  rw [run_lift_bind exec parsed, run_lift_bind exec complete]
  dsimp only
  rw [run_lift_bind exec (Value.pyIndex_held email_held), run_lift_bind exec (Value.pyStr_str ..),
    run_lift_bind exec (Value.pyIndex_held password_held), run_findOne searched, users]
  cases s.users.first? [.eq "email" (.str (Auth.lowerStrip rt e))] <;> rfl

end Login

/-! The password change. -/

section Change

variable {rt : Runtime} {s : Server} {req : Http} {old new : String} {currentUser : Document}

/-- The password change once it has read the caller's document again. -/
def changeOf (rt : Runtime) (req : Http) (userId : Value) (userDoc : Document)
    (currentPassword newPassword : Value) : Prog Response := do
  let correct ← checkPasswordHash rt (← userDoc.index "password_hash") currentPassword
  if correct then
    let passwordHash ← generatePasswordHash rt req.salt newPassword
    perform (.updateOne .users [.eq "id" userId] [
      ("password_hash", passwordHash),
      ("updated_at", req.utcnow)])
    return message 200 "Password changed successfully"
  else return message 401 "Current password is incorrect"

theorem run_changePassword_texts (old_given : req.field "current_password" = some (.str old))
    (new_given : req.field "new_password" = some (.str new)) (old_text : old ≠ "") (new_text : new ≠ "") :
    (Auth.changePassword rt req currentUser).run exec s =
      (do
        let userId ← currentUser.index "id"
        let found ← perform (.findOne .users [.eq "id" userId])
        match found with
        | none => return message 401 "Current password is incorrect"
        | some userDoc => changeOf rt req userId userDoc (.str old) (.str new) : Prog Response).run exec s := by
  obtain ⟨entries, parsed, old_held⟩ := pyIndex_of_field old_given
  have new_held : entries.lookup "new_password" = some (.str new) := by
    rwa [Http.field_dict parsed] at new_given
  have complete : (Value.dict entries).missingField ["current_password", "new_password"] = .ok none := by
    simp [Value.missingField, Value.pyGet_dict, old_held, new_held, Value.truthy, old_text, new_text]
  unfold Auth.changePassword
  rw [run_lift_bind exec parsed, run_lift_bind exec complete]
  dsimp only
  rw [run_lift_bind exec (Value.pyIndex_held old_held), run_lift_bind exec (Value.pyIndex_held new_held)]
  rfl

end Change

/-! Runs. -/

section Endpoints

variable {rt : Runtime} {s : Server} {req : Http}

end Endpoints

/-- A first Google login. -/
def googleRequest (email : String) : Request :=
  ⟨.googleLogin, .ofEntries none [("id_token", .str "token"), ("user_info", .dict [("email", .str email),
    ("given_name", .str "Sarah"), ("family_name", .str "Kimani")])] rfl 1⟩

def passwordLogin (email password : String) : Http :=
  .ofEntries none [("password", .str password), ("email", .str email)] rfl 0

end UssdCredit
