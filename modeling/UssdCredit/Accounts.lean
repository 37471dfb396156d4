import UssdCredit.Guards

/-! What registration and the two logins do: either nothing at all, or one insertion or
update whose every ingredient is known. -/

namespace UssdCredit.Auth

open Library Program

variable {rt : Runtime} {req : Http}

/-- The id of the next account. -/
def nextUserId (users : Collection) : Int := users.docs.length + 1

/-! Registration. -/

/-- A request that registration accepts for a users collection. -/
structure Registration (rt : Runtime) (req : Http) (users : Collection) where
  data : Value
  email : String
  password : String
  firstName : String
  lastName : String
  userType : Value
  parsed : req.getJson = .ok data
  complete : data.missingField ["email", "password", "first_name", "last_name"] = .ok none
  email_given : data.pyIndex "email" = .ok (.str email)
  password_given : data.pyIndex "password" = .ok (.str password)
  firstName_given : data.pyIndex "first_name" = .ok (.str firstName)
  lastName_given : data.pyIndex "last_name" = .ok (.str lastName)
  userType_given : data.pyGet "user_type" (.str "user") = .ok userType
  unregistered : users.first? [.eq "email" (.str (lowerStrip rt email))] = none

namespace Registration

variable {users : Collection} (r : Registration rt req users)

def fields : Fields :=
  newUser req (nextUserId users) (lowerStrip rt r.email) (.str (rt.hash req.salt r.password))
    (strip r.firstName) (strip r.lastName) r.userType

def response : Response :=
  registered (nextUserId users) (lowerStrip rt r.email) (strip r.firstName) (strip r.lastName) r.userType
    (rt.jwtEncode ⟨.int (nextUserId users), r.userType, req.now / 1000000 + 86400⟩)

theorem userType_json : r.userType.isJson = true :=
  Value.isJson_pyGet (Http.getJson_isJson r.parsed) rfl r.userType_given

end Registration

/-- Registration inserts one document and answers 201, or changes nothing. -/
theorem post_register (rt : Runtime) (req : Http) (s : Server) :
    Post exec (register rt req) s fun outcome s' =>
      (s' = s ∧ IsRefusal outcome) ∨
      ∃ (r : Registration rt req s.users) (c : Collection),
        s.users.insertOne req.oid r.fields = .ok c ∧
        s' = s.setCollection .users c ∧ outcome = .ok r.response := by
  unfold register
  refine post_lift_bind (fun e _ => .inl ⟨rfl, isRefusal_error _⟩) fun data parsed => ?_
  refine post_lift_bind (fun e _ => .inl ⟨rfl, isRefusal_error _⟩) fun missing complete => ?_
  cases missing with
  | some field => exact post_pure (.inl ⟨rfl, isRefusal_message (by decide) _⟩)
  | none =>
    refine post_lift_bind (fun e _ => .inl ⟨rfl, isRefusal_error _⟩) fun emailValue email_found => ?_
    refine post_lift_bind (fun e _ => .inl ⟨rfl, isRefusal_error _⟩) fun email email_text => ?_
    refine post_lift_bind (fun e _ => .inl ⟨rfl, isRefusal_error _⟩) fun password password_found => ?_
    refine post_lift_bind (fun e _ => .inl ⟨rfl, isRefusal_error _⟩) fun firstValue first_found => ?_
    refine post_lift_bind (fun e _ => .inl ⟨rfl, isRefusal_error _⟩) fun first first_text => ?_
    refine post_lift_bind (fun e _ => .inl ⟨rfl, isRefusal_error _⟩) fun lastValue last_found => ?_
    refine post_lift_bind (fun e _ => .inl ⟨rfl, isRefusal_error _⟩) fun last last_text => ?_
    refine post_findOne (fun e _ => .inl ⟨rfl, isRefusal_error _⟩) fun _ => ?_
    split
    · exact post_pure (.inl ⟨rfl, isRefusal_message (by decide) _⟩)
    · next unregistered =>
      refine post_countDocuments (fun e => .inl ⟨rfl, isRefusal_error _⟩) fun count counted => ?_
      refine post_lift_bind (fun e _ => .inl ⟨rfl, isRefusal_error _⟩) fun pwhash hashed => ?_
      refine post_lift_bind (fun e _ => .inl ⟨rfl, isRefusal_error _⟩) fun userType type_found => ?_
      obtain ⟨text, rfl, rfl⟩ := generatePasswordHash_ok hashed
      obtain rfl := Value.pyStr_ok email_text
      obtain rfl := Value.pyStr_ok first_text
      obtain rfl := Value.pyStr_ok last_text
      obtain rfl := Collection.countDocuments_all counted
      let r : Registration rt req s.users :=
        ⟨data, email, text, first, last, userType, parsed, complete, email_found, password_found,
          first_found, last_found, type_found, unregistered⟩
      refine post_insertOne (fun e => .inl ⟨rfl, isRefusal_error _⟩) fun c inserted => ?_
      rw [encodeToken_int req _ r.userType_json]
      exact .inr ⟨r, c, inserted, rfl, rfl⟩

/-- A request that registration accepts is answered 201 when the driver takes the document. -/
theorem run_register {s : Server} (r : Registration rt req s.users) {c : Collection}
    (inserted : s.users.insertOne req.oid r.fields = .ok c) :
    (register rt req).run exec s = (.ok r.response, s.setCollection .users c) := by
  have hashed : generatePasswordHash rt req.salt (.str r.password) =
      .ok (.str (rt.hash req.salt r.password)) := rfl
  have searched : Filter.bsonError [.eq "email" (.str (lowerStrip rt r.email))] = none := rfl
  unfold register
  rw [run_lift_bind exec r.parsed, run_lift_bind exec r.complete]
  dsimp only
  rw [run_lift_bind exec r.email_given, run_lift_bind exec (Value.pyStr_str ..),
    run_lift_bind exec r.password_given, run_lift_bind exec r.firstName_given,
    run_lift_bind exec (Value.pyStr_str ..), run_lift_bind exec r.lastName_given,
    run_lift_bind exec (Value.pyStr_str ..), run_findOne searched, r.unregistered]
  dsimp only
  rw [run_countAll, run_lift_bind exec hashed, run_lift_bind exec r.userType_given]
  refine (run_insertOne inserted _).trans ?_
  exact run_lift_bind exec (encodeToken_int req _ r.userType_json) _ _

/-! Login. -/

/-- The answer to a login as the account of `userDoc`. -/
structure Issued (rt : Runtime) (req : Http) (userDoc : Document) (text : String)
    (response : Response) where
  userId : Value
  userType : Value
  user : Value
  token : String
  id_stored : userDoc.index "id" = .ok userId
  type_stored : userDoc.index "user_type" = .ok userType
  encoded : encodeToken rt req userId userType = .ok token
  listed : loginUser userDoc = .ok user
  answered : response = loggedIn text token user

theorem post_issueToken {userDoc : Document} {text : String} (s : Server) :
    Post exec (issueToken rt req userDoc text) s fun outcome s' =>
      s' = s ∧ ∀ response, outcome = .ok response →
        Nonempty (Issued rt req userDoc text response) := by
  unfold issueToken
  refine post_lift_bind (fun e _ => ⟨rfl, nofun⟩) fun userId id_stored => ?_
  refine post_lift_bind (fun e _ => ⟨rfl, nofun⟩) fun userType type_stored => ?_
  refine post_lift_bind (fun e _ => ⟨rfl, nofun⟩) fun token encoded => ?_
  refine post_lift_bind (fun e _ => ⟨rfl, nofun⟩) fun user listed => ?_
  exact post_pure ⟨rfl, fun response same =>
    ⟨userId, userType, user, token, id_stored, type_stored, encoded, listed,
      (Except.ok.inj same).symm⟩⟩

theorem run_issueToken {userDoc : Document} {text : String} {response : Response}
    (issued : Issued rt req userDoc text response) (s : Server) :
    (issueToken rt req userDoc text).run exec s = (.ok response, s) := by
  unfold issueToken
  rw [run_lift_bind exec issued.id_stored, run_lift_bind exec issued.type_stored,
    run_lift_bind exec issued.encoded, run_lift_bind exec issued.listed]
  exact congrArg (fun answer => (Except.ok answer, s)) issued.answered.symm

/-- A request that passes the checks of the login for a users collection. -/
structure Login (rt : Runtime) (req : Http) (users : Collection) where
  data : Value
  email : String
  password : Value
  pwhash : Value
  userDoc : Document
  parsed : req.getJson = .ok data
  complete : data.missingField ["email", "password"] = .ok none
  email_given : data.pyIndex "email" = .ok (.str email)
  password_given : data.pyIndex "password" = .ok password
  found : users.first? [.eq "email" (.str (lowerStrip rt email))] = some userDoc
  hash_stored : userDoc.index "password_hash" = .ok pwhash
  correct : checkPasswordHash rt pwhash password = .ok true
  active : isActive userDoc = true

/-- A login changes nothing, or notes the time in the account's document; only then it may
answer 200. -/
theorem post_login (rt : Runtime) (req : Http) (s : Server) :
    Post exec (login rt req) s fun outcome s' =>
      (s' = s ∧ IsRefusal outcome) ∨
      ∃ (l : Login rt req s.users) (c : Collection),
        s.users.updateOne [.objectId l.userDoc.oid] [("last_login", req.utcnow)] = .ok c ∧
        s' = s.setCollection .users c ∧ ∀ response, outcome = .ok response →
          Nonempty (Issued rt req l.userDoc "Login successful" response) := by
  unfold login
  refine post_lift_bind (fun e _ => .inl ⟨rfl, isRefusal_error _⟩) fun data parsed => ?_
  refine post_lift_bind (fun e _ => .inl ⟨rfl, isRefusal_error _⟩) fun missing complete => ?_
  cases missing with
  | some field => exact post_pure (.inl ⟨rfl, isRefusal_message (by decide) _⟩)
  | none =>
    refine post_lift_bind (fun e _ => .inl ⟨rfl, isRefusal_error _⟩) fun emailValue email_found => ?_
    refine post_lift_bind (fun e _ => .inl ⟨rfl, isRefusal_error _⟩) fun email email_text => ?_
    refine post_lift_bind (fun e _ => .inl ⟨rfl, isRefusal_error _⟩) fun password password_found => ?_
    refine post_findOne (fun e _ => .inl ⟨rfl, isRefusal_error _⟩) fun _ => ?_
    split
    · exact post_pure (.inl ⟨rfl, isRefusal_message (by decide) _⟩)
    · next userDoc found =>
      refine post_lift_bind (fun e _ => .inl ⟨rfl, isRefusal_error _⟩) fun pwhash stored => ?_
      refine post_lift_bind (fun e _ => .inl ⟨rfl, isRefusal_error _⟩) fun correct checked => ?_
      obtain rfl := Value.pyStr_ok email_text
      split_ifs with passed active
      · obtain rfl : correct = true := passed
        refine post_updateOne (fun e => .inl ⟨rfl, isRefusal_error _⟩) fun c updated => ?_
        let l : Login rt req s.users :=
          ⟨data, email, password, pwhash, userDoc, parsed, complete, email_found, password_found,
            found, stored, checked, active⟩
        exact post_mono (post_issueToken _) fun outcome s' issued =>
          .inr ⟨l, c, updated, issued.1, issued.2⟩
      · exact post_pure (.inl ⟨rfl, isRefusal_message (by decide) _⟩)
      · exact post_pure (.inl ⟨rfl, isRefusal_message (by decide) _⟩)

/-- A login that passes its checks and whose account can be listed is answered 200. -/
theorem run_login {s : Server} (l : Login rt req s.users) {c : Collection}
    (updated : s.users.updateOne [.objectId l.userDoc.oid] [("last_login", req.utcnow)] = .ok c)
    {response : Response} (issued : Issued rt req l.userDoc "Login successful" response) :
    (login rt req).run exec s = (.ok response, s.setCollection .users c) := by
  have searched : Filter.bsonError [.eq "email" (.str (lowerStrip rt l.email))] = none := rfl
  have active : (l.userDoc.get "is_active" (.bool true)).truthy = true := l.active
  unfold login
  rw [run_lift_bind exec l.parsed, run_lift_bind exec l.complete]
  dsimp only
  rw [run_lift_bind exec l.email_given, run_lift_bind exec (Value.pyStr_str ..),
    run_lift_bind exec l.password_given, run_findOne searched, l.found]
  dsimp only
  rw [run_lift_bind exec l.hash_stored, run_lift_bind exec l.correct, if_pos rfl, if_pos active,
    run_updateOne updated]
  exact run_issueToken issued _

/-! The Google login. -/

/-- A Google login as a new account. -/
structure GoogleSignUp (users : Collection) where
  email : String
  googleId : Value
  firstName : Value
  lastName : Value
  avatarUrl : Value
  unregistered : users.first? [.eq "email" (.str email)] = none

def GoogleSignUp.fields {users : Collection} (g : GoogleSignUp users) (req : Http) : Fields :=
  newGoogleUser req (nextUserId users) g.email g.googleId g.firstName g.lastName g.avatarUrl

def googleKeys : List String := ["google_id", "avatar_url", "last_login", "updated_at"]

/-- What a Google login does to a state: nothing, an update of the account with the given
email, or the insertion of a new one. In the last two cases it may issue a token. -/
inductive GoogleEffect (rt : Runtime) (req : Http) (s : Server) : Outcome → Server → Prop where
  | refused {outcome : Outcome} (refusal : IsRefusal outcome) : GoogleEffect rt req s outcome s
  | returned {outcome : Outcome} {email : String} {userDoc : Document} {update : Fields}
      {c : Collection} (found : s.users.first? [.eq "email" (.str email)] = some userDoc)
      (keys : update.map Prod.fst = googleKeys)
      (updated : s.users.updateOne [.objectId userDoc.oid] update = .ok c)
      (issued : IsRefusal outcome ∨ ∀ response, outcome = .ok response →
        Nonempty (Issued rt req userDoc "Google login successful" response)) :
      GoogleEffect rt req s outcome (s.setCollection .users c)
  | signedUp {outcome : Outcome} (g : GoogleSignUp s.users) {c : Collection}
      (inserted : s.users.insertOne req.oid (g.fields req) = .ok c)
      (issued : IsRefusal outcome ∨ ∀ response, outcome = .ok response →
        Nonempty (Issued rt req ⟨req.oid, g.fields req⟩ "Google login successful" response)) :
      GoogleEffect rt req s outcome (s.setCollection .users c)

/-- The `except` clause turns an exception into a message. -/
theorem GoogleEffect.recover {s s' : Server} {e : PyExn} {outcome : Outcome}
    (raised : GoogleEffect rt req s (.error e) s') (refusal : IsRefusal outcome) :
    GoogleEffect rt req s outcome s' := by
  cases raised with
  | refused _ => exact .refused refusal
  | returned found keys updated _ => exact .returned found keys updated (.inl refusal)
  | signedUp g inserted _ => exact .signedUp g inserted (.inl refusal)

/-- The account of a Google login: nothing is changed when the driver raises. -/
theorem post_googleAccount (email : String) (googleId firstName lastName avatarUrl : Value)
    (s : Server) :
    Post exec (googleAccount req email googleId firstName lastName avatarUrl) s fun result s' =>
      (∃ e, result = .error e ∧ s' = s) ∨
      (∃ userDoc update c, s.users.first? [.eq "email" (.str email)] = some userDoc ∧
        update.map Prod.fst = googleKeys ∧
        s.users.updateOne [.objectId userDoc.oid] update = .ok c ∧
        result = .ok userDoc ∧ s' = s.setCollection .users c) ∨
      ∃ (g : GoogleSignUp s.users) (c : Collection),
        s.users.insertOne req.oid (g.fields req) = .ok c ∧
        result = .ok ⟨req.oid, g.fields req⟩ ∧ s' = s.setCollection .users c := by
  unfold googleAccount
  refine post_findOne (fun e _ => .inl ⟨e, rfl, rfl⟩) fun _ => ?_
  split
  · next userDoc found =>
    refine post_updateOne (fun e => .inl ⟨e, rfl, rfl⟩) fun c updated => post_pure ?_
    exact .inr (.inl ⟨userDoc, _, c, found, rfl, updated, rfl, rfl⟩)
  · next unregistered =>
    refine post_countDocuments (fun e => .inl ⟨e, rfl, rfl⟩) fun count counted => ?_
    obtain rfl := Collection.countDocuments_all counted
    let g : GoogleSignUp s.users := ⟨email, googleId, firstName, lastName, avatarUrl, unregistered⟩
    refine post_insertOne (fun e => .inl ⟨e, rfl, rfl⟩) fun c inserted => post_pure ?_
    exact .inr (.inr ⟨g, c, inserted, rfl, rfl⟩)

theorem post_googleSignIn (data : Value) (s : Server) :
    Post exec (googleSignIn rt req data) s (GoogleEffect rt req s) := by
  unfold googleSignIn
  refine post_lift_bind (fun e _ => .refused (isRefusal_error e)) fun userInfo _ => ?_
  refine post_lift_bind (fun e _ => .refused (isRefusal_error e)) fun address _ => ?_
  split_ifs
  · refine post_lift_bind (fun e _ => .refused (isRefusal_error e)) fun emailValue _ => ?_
    refine post_lift_bind (fun e _ => .refused (isRefusal_error e)) fun email _ => ?_
    refine post_lift_bind (fun e _ => .refused (isRefusal_error e)) fun sub _ => ?_
    refine post_lift_bind (fun e _ => .refused (isRefusal_error e)) fun id _ => ?_
    refine post_lift_bind (fun e _ => .refused (isRefusal_error e)) fun firstName _ => ?_
    refine post_lift_bind (fun e _ => .refused (isRefusal_error e)) fun lastName _ => ?_
    refine post_lift_bind (fun e _ => .refused (isRefusal_error e)) fun avatarUrl _ => ?_
    refine post_bind (post_mono (post_googleAccount _ _ _ _ _ s) fun result s' account => ?_)
    rcases account with ⟨e, rfl, rfl⟩ | ⟨userDoc, update, c, found, keys, updated, rfl, rfl⟩ |
      ⟨g, c, inserted, rfl, rfl⟩
    · exact .refused (isRefusal_error e)
    · refine post_mono (post_issueToken _) fun outcome s' issued => ?_
      rw [issued.1]
      exact .returned found keys updated (.inr issued.2)
    · refine post_mono (post_issueToken _) fun outcome s' issued => ?_
      rw [issued.1]
      exact .signedUp g inserted (.inr issued.2)
  · exact post_pure (.refused (isRefusal_message (by decide) _))

theorem post_googleLogin (s : Server) :
    Post exec (googleLogin rt req) s (GoogleEffect rt req s) := by
  unfold googleLogin
  refine post_lift_bind (fun e _ => .refused (isRefusal_error e)) fun data _ => ?_
  refine post_lift_bind (fun e _ => .refused (isRefusal_error e)) fun idToken _ => ?_
  split_ifs
  · refine post_handle (post_mono (post_googleSignIn data s) fun outcome s' effect => ?_)
    cases outcome with
    | ok response => exact effect
    | error e => exact post_pure (effect.recover (isRefusal_message (by decide) _))
  · exact post_pure (.refused (isRefusal_message (by decide) _))

end UssdCredit.Auth
