import UssdCredit.Auth

/-! The user administration. Every view runs behind `adminRequired` on the caller's document. -/

namespace UssdCredit.Admin

variable (rt : Runtime) (req : Http) (currentUser : Document)

/-- `if mongo_db: … ; return jsonify(…), 500`. -/
def ifMongo (unavailable : String) (body : Prog Response) : Prog Response := do
  let available ← rt.mongoTruth
  if available then body else return message 500 unavailable

/-! Listing. -/

/-- `user[key] = user[key].isoformat()`. -/
def isoField (value : Value) : Except PyExn Value :=
  match value with
  | .datetime t => .ok (.str (isoformat t))
  | v => .error ⟨.attributeError, s!"'{v.typeName}' object has no attribute 'isoformat'"⟩

/-- `if key in user: user[key] = user[key].isoformat()`, for `last_login` only if truthy. -/
def isoKey (key : String) (onlyTruthy : Bool) (fields : Fields) : Except PyExn Fields :=
  match fields.lookup key with
  | none => .ok fields
  | some value =>
      if onlyTruthy && !value.truthy then .ok fields
      else do return Library.Dict.set key (← isoField value) fields

/-- The projection `{'password_hash': 0}`. -/
def withoutHash (d : Document) : Document :=
  ⟨d.oid, d.fields.filter fun entry => entry.1 ≠ "password_hash"⟩

/-- Make a user serialisable. -/
def userJson (user : Document) : Except PyExn Value := do
  let fields ← isoKey "created_at" false user.fields
  let fields ← isoKey "updated_at" false fields
  let fields ← isoKey "last_login" true fields
  (PyDocument.mk (some (.text (objectIdText user.oid))) fields).toJson

def usersJson (users : List Document) : Except PyExn (List Value) := users.mapM userJson

/-- `int(request.args.get(name, default))`. -/
def intArg (name : String) (default : Int) : Except PyExn Int :=
  match req.arg name with
  | none => .ok default
  | some text => pyInt text

/-- `.skip(n)` refuses negative numbers, and the encoder those beyond eight bytes. -/
def checkSkip (n : Int) : Except PyExn Unit :=
  if n < 0 then .error ⟨.valueError, "skip must be >= 0"⟩
  else match encodeInt n with
    | some e => .error e
    | none => .ok ()

def checkLimit (n : Int) : Except PyExn Unit :=
  match encodeInt n.natAbs with
  | some e => .error e
  | none => .ok ()

/-- `.sort('created_at', -1).skip(skip).limit(limit)`: a limit of zero is none, and a
negative one stands for its absolute value. -/
def pageOf (skip limit : Int) (docs : List Document) : List Document :=
  let sorted := docs.mergeSort fun a b => rt.bsonLe (b.get? "created_at") (a.get? "created_at")
  let rest := sorted.drop skip.toNat
  if limit = 0 then rest else rest.take limit.natAbs

def searchFields : List String := ["email", "first_name", "last_name", "username"]

def listFilter : Except PyExn Filter := do
  let byType := req.argFilter "user_type"
  let search := strip ((req.arg "search").getD "")
  if search = "" then return byType
  else return byType ++ [.anyRegex searchFields (← rt.regex search)]

def listUsers : Prog Response :=
  ifMongo rt "User management not available" do
    let page ← intArg req "page" 1
    let perPage ← intArg req "per_page" 20
    let filterQuery ← listFilter rt req
    let total ← perform (.countDocuments .users filterQuery)
    let skip := (page - 1) * perPage
    checkSkip skip
    checkLimit perPage
    let found ← perform (.find .users filterQuery)
    let users ← usersJson (pageOf rt skip perPage (found.map withoutHash))
    if perPage = 0 then raise ⟨.zeroDivisionError, "integer division or modulo by zero"⟩
    else
      return jsonify 200 (.dict [
        ("message", .str "Users retrieved successfully"),
        ("users", .list users),
        ("pagination", .dict [
          ("page", .int page),
          ("per_page", .int perPage),
          ("total", .int total),
          ("pages", .int (Int.fdiv (total + perPage - 1) perPage))])])

def getUser (userId : Nat) : Prog Response :=
  ifMongo rt "User management not available" do
    let found ← perform (.findOne .users [.eq "id" (.int userId)])
    match found with
    | none => return message 404 "User not found"
    | some d =>
        let user ← userJson (withoutHash d)
        return jsonify 200 (.dict [("message", .str "User retrieved successfully"), ("user", user)])

/-! Changes to one user. -/

/-- The common frame of the changes: the user exists, and is then updated by id. -/
def ifExists (userId : Nat) (body : Prog Response) : Prog Response := do
  let existingUser ← perform (.findOne .users [.eq "id" (.int userId)])
  match existingUser with
  | none => return message 404 "User not found"
  | some _ => body

def setUser (userId : Nat) (update : Fields) (response : Response) : Prog Response := do
  perform (.updateOne .users [.eq "id" (.int userId)] (update ++ [("updated_at", req.utcnow)]))
  return response

def userFields : List String :=
  ["first_name", "last_name", "username", "avatar_url", "user_type", "is_active", "is_suspended",
    "email_verified", "phone_verified"]

def updateUser (userId : Nat) : Prog Response := do
  let data ← req.getJson
  ifMongo rt "User management not available" <| ifExists userId do
    let updateData ← data.collectFields (fun value => value) userFields
    if updateData.isEmpty then return message 400 "No fields to update"
    else setUser req userId updateData (message 200 "User updated successfully")

def deleteUser (userId : Nat) : Prog Response :=
  ifMongo rt "User management not available" <| ifExists userId do
    let ownId ← currentUser.index "id"
    if (Value.int userId).pyEq ownId then return message 400 "Cannot delete your own account"
    else
      setUser req userId [("is_active", .bool false), ("is_suspended", .bool true)]
        (message 200 "User suspended successfully")

def activateUser (userId : Nat) : Prog Response :=
  ifMongo rt "User management not available" <| ifExists userId <|
    setUser req userId [("is_active", .bool true), ("is_suspended", .bool false)]
      (message 200 "User activated successfully")

def validTypes : List String := ["guest", "user", "subscribed", "admin"]

def invalidType : Response :=
  message 400 ("Invalid user type. Must be one of: " ++ ", ".intercalate validTypes)

def upgradeUser (userId : Nat) : Prog Response := do
  let data ← req.getJson
  let newUserType ← data.pyGet "user_type" .null
  if newUserType.truthy then
    match validTypes.find? (fun t => (Value.str t).pyEq newUserType) with
    | none => return invalidType
    | some userType =>
        ifMongo rt "User management not available" <| ifExists userId <|
          setUser req userId [("user_type", newUserType)]
            (message 200 s!"User upgraded to {userType} successfully")
  else return message 400 "user_type is required"

/-! Statistics. -/

def countUsers (filter : Filter) : Prog Value := do
  let count ← perform (.countDocuments .users filter)
  return .int count

/-- The count of every user type, under its name. -/
def countTypes : List String → Prog Fields
  | [] => return []
  | userType :: rest => do
      let count ← countUsers [.eq "user_type" (.str userType)]
      let others ← countTypes rest
      return (userType, count) :: others

def statistics : Prog Response := do
  let total ← countUsers []
  let active ← countUsers [.eq "is_active" (.bool true)]
  let suspended ← countUsers [.eq "is_suspended" (.bool true)]
  let byType ← countTypes validTypes
  let midnight := req.now - req.now % 86400000000
  let recent ← countUsers [.since "created_at" midnight]
  let influencers ← perform (.countDocuments .influencers [])
  let subscribers ← perform (.countDocuments .subscribers [])
  return jsonify 200 (.dict [
    ("message", .str "Statistics retrieved successfully"),
    ("stats", .dict [
      ("users", .dict [
        ("total", total),
        ("active", active),
        ("suspended", suspended),
        ("by_type", .dict byType),
        ("recent_today", recent)]),
      ("content", .dict [("influencers", .int influencers), ("subscribers", .int subscribers)]),
      ("system", .dict [
        ("database", .str "MongoDB"),
        ("timestamp", .str (isoformat req.now))])])])

def getAdminStats : Prog Response :=
  ifMongo rt "Statistics not available" <|
    (statistics req).handle fun e => return message 500 s!"Error retrieving statistics: {e.text}"

end UssdCredit.Admin
