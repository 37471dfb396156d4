import UssdCredit.Server

/-! The authentication routes: registration, the two logins and the requests of a
logged-in user, with the guards in front of them. -/

namespace UssdCredit.Auth

variable (rt : Runtime) (req : Http)

/-- The guard of every protected route: the view runs on the document of the user the token
names, provided that this user is active. -/
def jwtRequired (view : Document → Prog Response) : Prog Response :=
  match req.bearerToken with
  | .error refusal => return refusal
  | .ok token =>
      match rt.jwtDecode req.now token with
      | .error .expired => return message 401 "Token has expired"
      | .error .invalid => return message 401 "Invalid token"
      | .ok payload => do
          let currentUserId ← (Value.dict payload).pyIndex "user_id"
          let userDoc ← perform (.findOne .users [.eq "id" currentUserId])
          match userDoc with
          | none => return message 401 "User not found"
          | some currentUser =>
              if (currentUser.get "is_active" (.bool true)).truthy then view currentUser
              else return message 401 "Account is suspended"

def adminRequired (view : Document → Prog Response) : Prog Response :=
  jwtRequired rt req fun currentUser =>
    if (currentUser.get "user_type" .null).pyEq (.str "admin") then view currentUser
    else return message 403 "Admin access required"

/-- `email.lower().strip()`. -/
def lowerStrip (email : String) : String := strip (rt.lower email)

/-- The document of a new account. -/
def newUser (id : Int) (email : String) (passwordHash : Value) (firstName lastName : String)
    (userType : Value) : Fields := [
  ("id", .int id),
  ("email", .str email),
  ("password_hash", passwordHash),
  ("first_name", .str firstName),
  ("last_name", .str lastName),
  ("user_type", userType),
  ("email_verified", .bool false),
  ("phone_verified", .bool false),
  ("is_active", .bool true),
  ("is_suspended", .bool false),
  ("created_at", req.utcnow),
  ("updated_at", req.utcnow)]

def registered (id : Int) (email firstName lastName : String) (userType : Value)
    (token : String) : Response :=
  jsonify 201 (.dict [
    ("message", .str "User registered successfully"),
    ("token", .str token),
    ("user", .dict [
      ("id", .int id),
      ("email", .str email),
      ("first_name", .str firstName),
      ("last_name", .str lastName),
      ("user_type", userType)])])

def register : Prog Response := do
  let data ← req.getJson
  let missing ← data.missingField ["email", "password", "first_name", "last_name"]
  match missing with
  | some field => return message 400 s!"{field} is required"
  | none =>
      let email := lowerStrip rt (← (← data.pyIndex "email").pyStr "lower")
      let password ← data.pyIndex "password"
      let firstName := strip (← (← data.pyIndex "first_name").pyStr "strip")
      let lastName := strip (← (← data.pyIndex "last_name").pyStr "strip")
      let existingUser ← perform (.findOne .users [.eq "email" (.str email)])
      match existingUser with
      | some _ => return message 409 "Email already registered"
      | none =>
          let count ← perform (.countDocuments .users [])
          let passwordHash ← generatePasswordHash rt req.salt password
          -- Any user type the payload names is taken over.
          let userType ← data.pyGet "user_type" (.str "user")
          perform (.insertOne .users req.oid
            (newUser req (count + 1) email passwordHash firstName lastName userType))
          let token ← encodeToken rt req (.int (count + 1)) userType
          return registered (count + 1) email firstName lastName userType token

/-- The `user` part of a login response. -/
def loginUser (userDoc : Document) : Except PyExn Value := do
  return .dict [
    ("id", ← userDoc.index "id"),
    ("email", ← userDoc.index "email"),
    ("first_name", ← userDoc.index "first_name"),
    ("last_name", ← userDoc.index "last_name"),
    ("user_type", ← userDoc.index "user_type"),
    ("avatar_url", userDoc.get "avatar_url" .null)]

def loggedIn (text token : String) (user : Value) : Response :=
  jsonify 200 (.dict [("message", .str text), ("token", .str token), ("user", user)])

/-- The end of both logins: a token for the account, and the account's data. -/
def issueToken (userDoc : Document) (text : String) : Prog Response := do
  let token ← encodeToken rt req (← userDoc.index "id") (← userDoc.index "user_type")
  let user ← loginUser userDoc
  return loggedIn text token user

def login : Prog Response := do
  let data ← req.getJson
  let missing ← data.missingField ["email", "password"]
  match missing with
  | some _ => return message 400 "Email and password are required"
  | none =>
      let email := lowerStrip rt (← (← data.pyIndex "email").pyStr "lower")
      let password ← data.pyIndex "password"
      let found ← perform (.findOne .users [.eq "email" (.str email)])
      match found with
      | none => return message 401 "Invalid credentials"
      | some userDoc =>
          let correct ← checkPasswordHash rt (← userDoc.index "password_hash") password
          if correct then
            if (userDoc.get "is_active" (.bool true)).truthy then
              perform (.updateOne .users [.objectId userDoc.oid] [("last_login", req.utcnow)])
              issueToken rt req userDoc "Login successful"
            else return message 401 "Account is suspended"
          else return message 401 "Invalid credentials"

/-- The document of an account created by a Google login; it has no password. -/
def newGoogleUser (id : Int) (email : String) (googleId firstName lastName avatarUrl : Value) :
    Fields := [
  ("id", .int id),
  ("email", .str email),
  ("google_id", googleId),
  ("first_name", firstName),
  ("last_name", lastName),
  ("avatar_url", avatarUrl),
  ("user_type", .str "user"),
  ("email_verified", .bool true),
  ("phone_verified", .bool false),
  ("is_active", .bool true),
  ("is_suspended", .bool false),
  ("created_at", req.utcnow),
  ("updated_at", req.utcnow)]

/-- The account a Google login continues with: the existing one, as it was read before the
update, or a new one. -/
def googleAccount (email : String) (googleId firstName lastName avatarUrl : Value) :
    Prog Document := do
  let existingUser ← perform (.findOne .users [.eq "email" (.str email)])
  match existingUser with
  | some userDoc =>
      perform (.updateOne .users [.objectId userDoc.oid] [
        ("google_id", googleId),
        ("avatar_url", avatarUrl),
        ("last_login", req.utcnow),
        ("updated_at", req.utcnow)])
      return userDoc
  | none =>
      let count ← perform (.countDocuments .users [])
      let fields := newGoogleUser req (count + 1) email googleId firstName lastName avatarUrl
      perform (.insertOne .users req.oid fields)
      return ⟨req.oid, fields⟩

/-- The body of the `try` block. -/
def googleSignIn (data : Value) : Prog Response := do
  let userInfo ← data.pyGet "user_info" (.dict [])
  let address ← userInfo.pyGet "email" .null
  if address.truthy then
    let email := lowerStrip rt (← (← userInfo.pyIndex "email").pyStr "lower")
    let googleId := (← userInfo.pyGet "sub" .null).pyOr (← userInfo.pyGet "id" .null)
    let firstName ← userInfo.pyGet "given_name" (.str "")
    let lastName ← userInfo.pyGet "family_name" (.str "")
    let avatarUrl ← userInfo.pyGet "picture" (.str "")
    let userDoc ← googleAccount req email googleId firstName lastName avatarUrl
    issueToken rt req userDoc "Google login successful"
  else return message 400 "Invalid Google token"

def googleLogin : Prog Response := do
  let data ← req.getJson
  let idToken ← data.pyGet "id_token" .null
  if idToken.truthy then
    (googleSignIn rt req data).handle fun e =>
      return message 500 s!"Google login failed: {e.text}"
  else return message 400 "Google ID token is required"

/-- The document of the caller still holds its ObjectId. -/
def getProfile (currentUser : Document) : Prog Response := do
  let user ← currentUser.load.toJson
  return jsonify 200 (.dict [("message", .str "Profile retrieved successfully"), ("user", user)])

/-- The `user` part of a profile update's response. -/
def profileUser (updatedUser : Document) : Except PyExn Value := do
  return .dict [
    ("id", ← updatedUser.index "id"),
    ("email", ← updatedUser.index "email"),
    ("first_name", ← updatedUser.index "first_name"),
    ("last_name", ← updatedUser.index "last_name"),
    ("user_type", ← updatedUser.index "user_type"),
    ("avatar_url", updatedUser.get "avatar_url" .null),
    ("username", updatedUser.get "username" .null)]

def profileFields : List String := ["first_name", "last_name", "username", "avatar_url"]

def updateProfile (currentUser : Document) : Prog Response := do
  let data ← req.getJson
  let updateData ← data.collectFields Value.stripIfStr profileFields
  if updateData.isEmpty then return message 400 "No fields to update"
  else
    let userId ← currentUser.index "id"
    perform (.updateOne .users [.eq "id" userId] (updateData ++ [("updated_at", req.utcnow)]))
    let found ← perform (.findOne .users [.eq "id" userId])
    match found with
    | none => raise ⟨.typeError, "'NoneType' object is not subscriptable"⟩
    | some updatedUser =>
        let user ← profileUser updatedUser
        return jsonify 200 (.dict [("message", .str "Profile updated successfully"), ("user", user)])

def changePassword (currentUser : Document) : Prog Response := do
  let data ← req.getJson
  let missing ← data.missingField ["current_password", "new_password"]
  match missing with
  | some _ => return message 400 "Current and new password are required"
  | none =>
      let currentPassword ← data.pyIndex "current_password"
      let newPassword ← data.pyIndex "new_password"
      let userId ← currentUser.index "id"
      let found ← perform (.findOne .users [.eq "id" userId])
      match found with
      | none => return message 401 "Current password is incorrect"
      | some userDoc =>
          let correct ← checkPasswordHash rt (← userDoc.index "password_hash") currentPassword
          if correct then
            let passwordHash ← generatePasswordHash rt req.salt newPassword
            perform (.updateOne .users [.eq "id" userId] [
              ("password_hash", passwordHash),
              ("updated_at", req.utcnow)])
            return message 200 "Password changed successfully"
          else return message 401 "Current password is incorrect"

def refreshToken : Prog Response := return message 401 "Please login again"

def logout (_currentUser : Document) : Prog Response :=
  return message 200 "Logged out successfully"

end UssdCredit.Auth
