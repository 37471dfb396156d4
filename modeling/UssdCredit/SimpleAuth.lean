import UssdCredit.Tokens

/-! The simplified authentication: accounts in a list of the process, with a login, a
registration and a second way in for an administrator. -/

namespace UssdCredit

open Library Program

/-- The hex digests of `hashlib`. -/
structure Hashlib where
  sha256 : String → String
  md5 : String → String

/-- A record of USERS_DB. -/
structure SimpleUser where
  id : Int
  email : Value
  passwordHash : String
  firstName : Value
  lastName : Value
  userType : Value
  emailVerified : Bool
  phoneVerified : Bool
  isActive : Bool
  isSuspended : Bool
  createdAt : String
  updatedAt : String
  lastLogin : Option String

inductive SimpleOp where
  | readUsers
  | writeUsers (db : List SimpleUser)

abbrev SimpleOp.Result : SimpleOp → Type
  | .readUsers => List SimpleUser
  | .writeUsers _ => Unit

def simpleExec : Exec SimpleOp SimpleOp.Result PyExn (List SimpleUser)
  | .readUsers, db => (.ok db, db)
  | .writeUsers db, _ => (.ok (), db)

abbrev SimpleProg := Program SimpleOp SimpleOp.Result PyExn

namespace SimpleAuth

def perform (op : SimpleOp) : SimpleProg op.Result := Program.perform op

variable (rt : Runtime) (lib : Hashlib) (req : Http)

/-- `next((u for u in USERS_DB if u['email'] == email), None)`. -/
def findEmail (email : String) (db : List SimpleUser) : Option SimpleUser :=
  db.find? fun u => u.email.pyEq (.str email)

/-- `except Exception as e`. -/
def attempt (failed : String) (body : SimpleProg Response) : SimpleProg Response :=
  body.handle fun e => return message 500 s!"{failed}: {e.text}"

def generateSimpleToken (userId : Int) (email : String) : String :=
  lib.md5 s!"{userId}:{email}:{req.now / 1000000}"

/-- `hashlib.sha256(password.encode()).hexdigest()`. -/
def hashPassword (password : Value) : Except PyExn String := do
  let text ← password.pyStr "encode"
  return lib.sha256 text

def newUser (id : Int) (email : Value) (passwordHash : String) (firstName lastName userType : Value) :
    SimpleUser where
  id
  email
  passwordHash
  firstName
  lastName
  userType
  emailVerified := true
  phoneVerified := false
  isActive := true
  isSuspended := false
  createdAt := isoformat req.now
  updatedAt := isoformat req.now
  lastLogin := none

/-- The part of an account the answers show. -/
def shown (user : SimpleUser) : Value := .dict [
  ("id", .int user.id),
  ("email", user.email),
  ("first_name", user.firstName),
  ("last_name", user.lastName),
  ("user_type", user.userType)]

def simpleRegister : SimpleProg Response :=
  attempt "Registration error" do
    let data ← req.getJson
    let missing ← data.missingField ["email", "password", "first_name", "last_name"]
    match missing with
    | some field => return message 400 s!"{field} is required"
    | none =>
        let email := Auth.lowerStrip rt (← (← data.pyIndex "email").pyStr "lower")
        let password ← data.pyIndex "password"
        let firstName := strip (← (← data.pyIndex "first_name").pyStr "strip")
        let lastName := strip (← (← data.pyIndex "last_name").pyStr "strip")
        let userType ← data.pyGet "user_type" (.str "user")
        let db ← perform .readUsers
        match findEmail email db with
        | some _ => return message 409 "Email already registered"
        | none =>
            let passwordHash ← hashPassword lib password
            let user := newUser req (db.length + 1) (.str email) passwordHash (.str firstName)
              (.str lastName) userType
            perform (.writeUsers (db ++ [user]))
            return jsonify 201 (.dict [
              ("message", .str "User registered successfully"),
              ("token", .str (generateSimpleToken lib req user.id email)),
              ("user", shown user)])

/-- Write to the record `next(…)` has found. -/
def touchEmail (email : String) (write : SimpleUser → SimpleUser) (db : List SimpleUser) :
    List SimpleUser := db.modify (db.findIdx fun u => u.email.pyEq (.str email)) write

def simpleLogin : SimpleProg Response :=
  attempt "Login error" do
    let data ← req.getJson
    let missing ← data.missingField ["email", "password"]
    match missing with
    | some _ => return message 400 "Email and password are required"
    | none =>
        let email := Auth.lowerStrip rt (← (← data.pyIndex "email").pyStr "lower")
        let password ← data.pyIndex "password"
        let db ← perform .readUsers
        match findEmail email db with
        | none => return message 401 "Invalid credentials"
        | some user =>
            let passwordHash ← hashPassword lib password
            if user.passwordHash ≠ passwordHash then return message 401 "Invalid credentials"
            else if !user.isActive then return message 401 "Account is suspended"
            else
              perform (.writeUsers (touchEmail email
                (fun u => { u with lastLogin := some (isoformat req.now) }) db))
              return jsonify 200 (.dict [
                ("message", .str "Login successful"),
                ("token", .str (generateSimpleToken lib req user.id email)),
                ("user", shown user)])

/-- `next((u for u in USERS_DB if u['user_type'] == 'admin'), None)`. -/
def findAdmin (db : List SimpleUser) : Option SimpleUser :=
  db.find? fun u => u.userType.pyEq (.str "admin")

/-- The email is stored as it was sent, and only the type is looked up. -/
def createAdmin : SimpleProg Response :=
  attempt "Error creating admin" do
    let data ← req.getJson
    let email ← data.pyGet "email" (.str "admin@ussd-credit.com")
    let password ← data.pyGet "password" (.str "Admin123!")
    let firstName ← data.pyGet "first_name" (.str "System")
    let lastName ← data.pyGet "last_name" (.str "Administrator")
    let db ← perform .readUsers
    match findAdmin db with
    | some existingAdmin =>
        return jsonify 200 (.dict [
          ("message", .str "Admin user already exists"),
          ("admin", .dict [("id", .int existingAdmin.id), ("email", existingAdmin.email)])])
    | none =>
        let passwordHash ← hashPassword lib password
        let admin := newUser req (db.length + 1) email passwordHash firstName lastName (.str "admin")
        perform (.writeUsers (db ++ [admin]))
        return jsonify 201 (.dict [
          ("message", .str "Admin user created successfully"),
          ("admin", shown admin)])

end SimpleAuth

/-- A request to one of the three routes. -/
inductive SimpleRequest where
  | register (req : Http)
  | login (req : Http)
  | createAdmin (req : Http)

namespace SimpleRequest

def body (rt : Runtime) (lib : Hashlib) : SimpleRequest → SimpleProg Response
  | .register req => SimpleAuth.simpleRegister rt lib req
  | .login req => SimpleAuth.simpleLogin rt lib req
  | .createAdmin req => SimpleAuth.createAdmin lib req

def serve (rt : Runtime) (lib : Hashlib) (request : SimpleRequest) (db : List SimpleUser) :
    Outcome × List SimpleUser := (request.body rt lib).run simpleExec db

end SimpleRequest

namespace SimpleRequest

/-- The email an account is created with, as it was sent or by default. -/
def email : SimpleRequest → Option Value
  | .register req => req.field "email"
  | .login _ => none
  | .createAdmin req => some ((req.field "email").getD (.str "admin@ussd-credit.com"))

def password : SimpleRequest → Option Value
  | .register req => req.field "password"
  | .login _ => none
  | .createAdmin req => some ((req.field "password").getD (.str "Admin123!"))

end SimpleRequest

/-! What one request does. -/

section Effects

variable {rt : Runtime} {lib : Hashlib} {req : Http} {db : List SimpleUser}

/-- What a login reads of a record. -/
def SimpleUser.account (u : SimpleUser) : Int × Value × String × Bool :=
  (u.id, u.email, u.passwordHash, u.isActive)

theorem map_touchEmail (email now : String) (db : List SimpleUser) :
    (SimpleAuth.touchEmail email (fun u => { u with lastLogin := some now }) db).map
      SimpleUser.account = db.map SimpleUser.account := by
  apply List.ext_getElem?
  intro i
  unfold SimpleAuth.touchEmail
  rw [List.getElem?_map, List.getElem?_map, List.getElem?_modify, Option.map_eq_map, Option.map_map]
  congr 1
  funext u
  simp only [Function.comp_apply]
  split_ifs <;> rfl

theorem post_simpleAttempt {failed : String} {body : SimpleProg Response}
    {Q : Outcome → List SimpleUser → Prop}
    (answered : ∀ e db', Q (.error e) db' → Q (.ok (message 500 s!"{failed}: {e.text}")) db')
    (attempted : Post simpleExec body db Q) : Post simpleExec (SimpleAuth.attempt failed body) db Q := by
  unfold SimpleAuth.attempt
  refine post_handle (post_mono attempted fun outcome db' holds => ?_)
  cases outcome with
  | ok response => exact holds
  | error e => exact answered e db' holds

theorem post_readUsers {α : Type} {f : List SimpleUser → SimpleProg α}
    {Q : Except PyExn α → List SimpleUser → Prop} (passed : Post simpleExec (f db) db Q) :
    Post simpleExec (SimpleAuth.perform .readUsers >>= f) db Q := passed

theorem post_writeUsers {α : Type} {db' : List SimpleUser} {f : Unit → SimpleProg α}
    {Q : Except PyExn α → List SimpleUser → Prop} (passed : Post simpleExec (f ()) db' Q) :
    Post simpleExec (SimpleAuth.perform (.writeUsers db') >>= f) db Q := passed

theorem post_pure_simple {response : Response} {Q : Outcome → List SimpleUser → Prop}
    (holds : Q (.ok response) db) : Post simpleExec (pure response : SimpleProg Response) db Q := holds

/-- The outcome creates nothing. -/
def NotCreated (outcome : Outcome) : Prop := (Outcome.answer outcome).status ≠ 201

theorem notCreated_error (e : PyExn) : NotCreated (.error e) := by
  change e.answer.status ≠ 201
  unfold PyExn.answer
  split_ifs <;> decide

/-- The email under which a creation stores the account, and what it has checked before. -/
def StoredEmail (rt : Runtime) (db : List SimpleUser) (sent stored : Value) : SimpleRequest → Prop
  | .register _ => ∃ text, text ≠ "" ∧ sent = .str text ∧ stored = .str (Auth.lowerStrip rt text) ∧
      SimpleAuth.findEmail (Auth.lowerStrip rt text) db = none
  | .login _ => False
  | .createAdmin req => (∃ entries, req.getJson = .ok (.dict entries)) ∧ stored = sent ∧
      SimpleAuth.findAdmin db = none

/-- A request that creates no account, or the creation of one. -/
inductive SimpleEffect (rt : Runtime) (lib : Hashlib) (request : SimpleRequest)
    (db : List SimpleUser) : Outcome → List SimpleUser → Prop where
  | kept {outcome : Outcome} {db' : List SimpleUser} (none : NotCreated outcome)
      (same : db'.map SimpleUser.account = db.map SimpleUser.account) :
      SimpleEffect rt lib request db outcome db'
  | created {response : Response} {user : SimpleUser} {email : Value} {password : String}
      (status : response.status = 201) (email_sent : request.email = some email)
      (password_sent : request.password = some (.str password))
      (id : user.id = db.length + 1) (hash : user.passwordHash = lib.sha256 password)
      (active : user.isActive = true) (stored : StoredEmail rt db email user.email request) :
      SimpleEffect rt lib request db (.ok response) (db ++ [user])

theorem SimpleEffect.refused {request : SimpleRequest} (e : PyExn) :
    SimpleEffect rt lib request db (.error e) db := .kept (notCreated_error e) rfl

theorem SimpleEffect.answered {request : SimpleRequest} {status : Nat} {body : Value}
    (other : status ≠ 201) : SimpleEffect rt lib request db (.ok ⟨status, body⟩) db :=
  .kept other rfl

theorem SimpleEffect.caught {request : SimpleRequest} {failed : String} {e : PyExn}
    {db' : List SimpleUser} (effect : SimpleEffect rt lib request db (.error e) db') :
    SimpleEffect rt lib request db (.ok (message 500 s!"{failed}: {e.text}")) db' := by
  cases effect with
  | kept none same =>
    have other : NotCreated (.ok (message 500 s!"{failed}: {e.text}")) :=
      Nat.ne_of_gt (by decide : 201 < 500)
    exact .kept other same

theorem hashPassword_ok {password : Value} {hash : String}
    (hashed : SimpleAuth.hashPassword lib password = .ok hash) :
    ∃ text, password = .str text ∧ hash = lib.sha256 text := by
  obtain ⟨text, readable, same⟩ := bind_eq_ok.mp hashed
  exact ⟨text, Value.pyStr_ok readable, (Except.ok.inj same).symm⟩

/-- A required field that is a text is not empty. -/
theorem ne_empty_of_missingField {data : Value} {fields : List String}
    (complete : data.missingField fields = .ok none) {field text : String} (listed : field ∈ fields)
    (found : data.pyIndex field = .ok (.str text)) : text ≠ "" := by
  obtain ⟨entries, rfl, present⟩ := Value.pyIndex_ok found
  have given := Value.truthy_of_missingField complete listed
  rw [present] at given
  rintro rfl
  cases given

/-- The account a login finds, with everything it checks. -/
structure Matches (rt : Runtime) (lib : Hashlib) (db : List SimpleUser) (email password : String)
    (user : SimpleUser) : Prop where
  email_given : email ≠ ""
  password_given : password ≠ ""
  found : SimpleAuth.findEmail (Auth.lowerStrip rt email) db = some user
  hash : user.passwordHash = lib.sha256 password
  active : user.isActive = true

/-- A login creates nothing. It is answered 200 only with an account that has the credentials. -/
def LoginEnds (rt : Runtime) (lib : Hashlib) (req : Http) (db : List SimpleUser) (outcome : Outcome)
    (db' : List SimpleUser) : Prop :=
  SimpleEffect rt lib (.login req) db outcome db' ∧
    ((Outcome.answer outcome).status = 200 → ∃ email password user,
      req.field "email" = some (.str email) ∧ req.field "password" = some (.str password) ∧
      Matches rt lib db email password user ∧
      (Outcome.answer outcome).userField? "id" = some (.int user.id))

theorem LoginEnds.refused (e : PyExn) : LoginEnds rt lib req db (.error e) db := by
  refine ⟨.refused e, fun succeeded => ?_⟩
  cases Outcome.ok_of_status succeeded

theorem LoginEnds.answered {status : Nat} {body : Value} (other : status ≠ 201) (failed : status ≠ 200) :
    LoginEnds rt lib req db (.ok ⟨status, body⟩) db :=
  ⟨.answered other, fun succeeded => absurd succeeded failed⟩

theorem post_simpleLogin : Post simpleExec (SimpleAuth.simpleLogin rt lib req) db
    (LoginEnds rt lib req db) := by
  apply post_simpleAttempt
  · intro e db' ended
    refine ⟨ended.1.caught, fun succeeded => ?_⟩
    cases succeeded
  · refine post_lift_bind (fun e _ => .refused e) fun data parsed => ?_
    refine post_lift_bind (fun e _ => .refused e) fun missing complete => ?_
    cases missing with
    | some field => exact post_pure_simple (.answered (by decide) (by decide))
    | none =>
      refine post_lift_bind (fun e _ => .refused e) fun address found => ?_
      refine post_lift_bind (fun e _ => .refused e) fun email readable => ?_
      obtain rfl := Value.pyStr_ok readable
      refine post_lift_bind (fun e _ => .refused e) fun password given => ?_
      refine post_readUsers ?_
      split
      · exact post_pure_simple (.answered (by decide) (by decide))
      · next user known =>
        refine post_lift_bind (fun e _ => .refused e) fun hash hashed => ?_
        obtain ⟨password, rfl, rfl⟩ := hashPassword_ok hashed
        split_ifs with wrong inactive
        · exact post_pure_simple (.answered (by decide) (by decide))
        · exact post_pure_simple (.answered (by decide) (by decide))
        · refine post_writeUsers (post_pure_simple ⟨.kept (Nat.ne_of_lt (by decide : 200 < 201)) (map_touchEmail _ _ db), ?_⟩)
          intro _
          have matched : Matches rt lib db email password user :=
            ⟨ne_empty_of_missingField complete (by decide) found,
              ne_empty_of_missingField complete (by decide) given, known, not_not.mp wrong,
              by simpa using inactive⟩
          exact ⟨email, password, user, Http.field_of_pyIndex parsed found,
            Http.field_of_pyIndex parsed given, matched, rfl⟩

end Effects

end UssdCredit
