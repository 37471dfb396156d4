import UssdCredit.SimpleAuth
import UssdCredit.Library.Records

/-! The accounts of the simplified authentication over a run: when each of them can log in with
the credentials it was created with. -/

namespace UssdCredit

open Library Program

/-- An account of the run: its credentials as they were sent, and its id. -/
structure SimpleAccount where
  email : String
  password : String
  id : Int

/-- USERS_DB, and the accounts created so far. -/
structure SimpleRun where
  users : List SimpleUser
  accounts : List SimpleAccount

/-- The credentials of a creation, when they are texts and the password is not empty. -/
def SimpleRequest.credentials (request : SimpleRequest) : Option (String × String) :=
  match request.email, request.password with
  | some (.str email), some (.str password) =>
      if password = "" then none else some (email, password)
  | _, _ => none

/-- The account a request has created: it is the last one of the list. -/
def SimpleRequest.account (request : SimpleRequest) (outcome : Outcome) (users : List SimpleUser) :
    Option SimpleAccount := do
  let (email, password) ← request.credentials
  let user ← users.getLast?
  if (Outcome.answer outcome).status = 201 then some ⟨email, password, user.id⟩ else none

def SimpleRun.step (rt : Runtime) (lib : Hashlib) (s : SimpleRun) (request : SimpleRequest) :
    SimpleRun :=
  let served := request.serve rt lib s.users
  ⟨served.2, s.accounts ++ (request.account served.1 served.2).toList⟩

/-- Every login with the credentials of the account is answered 200 with its id. -/
def LogsIn (rt : Runtime) (lib : Hashlib) (users : List SimpleUser) (a : SimpleAccount) : Prop :=
  ∀ req : Http, req.field "email" = some (.str a.email) → req.field "password" = some (.str a.password) →
    ∃ response, ((SimpleRequest.login req).serve rt lib users).1 = .ok response ∧
      response.status = 200 ∧ response.userField? "id" = some (.int a.id)

section

variable {rt : Runtime} {lib : Hashlib} {s : SimpleRun} {db db' : List SimpleUser}
  {request : SimpleRequest}

theorem findEmail_append (email : String) (db later : List SimpleUser) :
    SimpleAuth.findEmail email (db ++ later) =
      (SimpleAuth.findEmail email db).or (SimpleAuth.findEmail email later) := List.find?_append

/-- A match depends on the accounts only. -/
theorem Matches.congr (same : db'.map SimpleUser.account = db.map SimpleUser.account)
    {email password : String} {user : SimpleUser} (matched : Matches rt lib db email password user) :
    ∃ user', Matches rt lib db' email password user' ∧ user'.id = user.id := by
  have views : ∀ db : List SimpleUser, (SimpleAuth.findEmail (Auth.lowerStrip rt email) db).map
      SimpleUser.account = (db.map SimpleUser.account).find?
        fun a => a.2.1.pyEq (.str (Auth.lowerStrip rt email)) := by
    intro db
    rw [List.find?_map]
    rfl
  have seen := views db'
  rw [same, ← views db, matched.found, Option.map_some] at seen
  obtain ⟨user', found, equal⟩ := Option.map_eq_some_iff.mp seen
  obtain ⟨id, rest⟩ := Prod.mk.inj equal
  obtain ⟨-, rest⟩ := Prod.mk.inj rest
  obtain ⟨hash, active⟩ := Prod.mk.inj rest
  exact ⟨user', ⟨matched.email_given, matched.password_given, found, hash.trans matched.hash,
    active.trans matched.active⟩, id⟩

theorem Matches.append {email password : String} {user : SimpleUser}
    (matched : Matches rt lib db email password user) (later : List SimpleUser) :
    Matches rt lib (db ++ later) email password user where
  email_given := matched.email_given
  password_given := matched.password_given
  found := by rw [findEmail_append, matched.found, Option.some_or]
  hash := matched.hash
  active := matched.active

theorem isJson_credentials (email password : String) :
    (Value.dict [("email", .str email), ("password", .str password)]).isJson = true := rfl

/-- A login with given credentials. -/
def loginRequest (email password : String) : Http :=
  .ofEntries none [("email", .str email), ("password", .str password)]
    (isJson_credentials email password) 0

/-- An account that logs in is the first record with its normalised email. -/
theorem LogsIn.first {a : SimpleAccount} (works : LogsIn rt lib db a) : ∃ user,
    Matches rt lib db a.email a.password user ∧ user.id = a.id := by
  obtain ⟨response, answered, status, shown⟩ := works (loginRequest a.email a.password) rfl rfl
  have ended := @post_simpleLogin rt lib (loginRequest a.email a.password) db
  have ran : ((SimpleAuth.simpleLogin rt lib (loginRequest a.email a.password)).run simpleExec db).1 =
      .ok response := answered
  unfold Post LoginEnds at ended
  rw [ran] at ended
  obtain ⟨email, password, user, email_sent, password_sent, matched, given⟩ := ended.2 status
  have read : ∀ key, (loginRequest a.email a.password).field key =
      [("email", Value.str a.email), ("password", Value.str a.password)].lookup key := fun _ => rfl
  obtain rfl : a.email = email := by simpa [read] using email_sent
  obtain rfl : a.password = password := by simpa [read, List.lookup_cons] using password_sent
  refine ⟨user, matched, ?_⟩
  have same := given.symm.trans shown
  simpa using same

end

end UssdCredit
