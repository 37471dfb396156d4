import UssdCredit.Accounts
import UssdCredit.UserChanges

/-! One request, seen from the users collection: whatever the endpoint and the payload, the
collection stays, gains one document or has one document updated. -/

namespace UssdCredit

open Library Program

/-! Endpoints that leave the database alone. -/

/-- An operation that counts documents, not by a secret, or works on a list in memory. -/
def Op.plain : Op → Prop
  | .countDocuments _ filter => "password_hash" ∉ filter.keys
  | .readInfluencers | .writeInfluencers _ | .readSubscribers | .writeSubscribers _ => True
  | _ => False

/-- The endpoints whose views hand out and write no document. -/
def Endpoint.isPlain : Endpoint → Bool
  | .refreshToken | .logout | .getAdminStats | .adminListInfluencers | .adminCreateInfluencer
  | .adminUpdateInfluencer _ | .adminDeleteInfluencer _ | .listSimpleInfluencers
  | .createInfluencer | .populateDemoInfluencers | .listSimpleSubscribers
  | .createSimpleSubscription | .getSimpleSubscription _ | .updateSimpleSubscription _
  | .deleteSimpleSubscription _ | .populateDemoSubscribers => true
  | _ => false

theorem calls_op {op : Op} {allowed : Op → Prop} (may : allowed op) :
    (perform op).Calls allowed := calls_perform may

theorem calls_raise {α : Type} {allowed : Op → Prop} (e : PyExn) :
    (raise e : Prog α).Calls allowed := calls_error e

theorem calls_countTypes (types : List String) : (Admin.countTypes types).Calls Op.plain := by
  have plain : ∀ userType : String,
      Op.plain (.countDocuments .users [.eq "user_type" (.str userType)]) := fun _ =>
    show "password_hash" ∉ ["user_type"] by decide
  induction types with
  | nil => exact calls_pure _
  | cons userType rest ih =>
    exact calls_bind (calls_bind (calls_op (plain userType)) fun _ => calls_pure _) fun _ =>
      calls_bind ih fun _ => calls_pure _

/-- A guard in front of a view, if there is one. -/
inductive Guarded (rt : Runtime) (req : Http) (body : Prog Response) : Prog Response → Prop where
  | anyone : Guarded rt req body body
  | login : Guarded rt req body (Auth.jwtRequired rt req fun _ => body)
  | admin : Guarded rt req body (Auth.adminRequired rt req fun _ => body)

/-- Every path through the plain views, operation by operation. -/
theorem guarded_of_isPlain (rt : Runtime) {request : Request}
    (plain : request.endpoint.isPlain = true) :
    ∃ body : Prog Response, body.Calls Op.plain ∧
      Guarded rt request.http body (handler rt request) := by
  obtain ⟨endpoint, req⟩ := request
  cases endpoint <;> first
    | exact absurd plain Bool.false_ne_true
    | skip
  case logout => exact ⟨_, calls_pure (message 200 "Logged out successfully"), .login⟩
  all_goals dsimp only [handler, AdminInfluencers.decorated]
  all_goals first
    | refine ⟨_, ?_, .admin⟩
    | refine ⟨_, ?_, .anyone⟩
  all_goals simp only [Auth.refreshToken, Admin.getAdminStats, Admin.statistics,
    Admin.ifMongo, Admin.countUsers, AdminInfluencers.adminListInfluencers,
    AdminInfluencers.adminCreateInfluencer, AdminInfluencers.adminUpdateInfluencer,
    AdminInfluencers.adminDeleteInfluencer, AdminInfluencers.assign,
    AdminInfluencers.phoneConflict, InfluencersSimple.listSimpleInfluencers,
    InfluencersSimple.createInfluencer, InfluencersSimple.populateDemoInfluencers,
    SubscribersSimple.listSimpleSubscribers, SubscribersSimple.createSimpleSubscription,
    SubscribersSimple.getSimpleSubscription, SubscribersSimple.updateSimpleSubscription,
    SubscribersSimple.deleteSimpleSubscription, SubscribersSimple.populateDemoSubscribers,
    SubscribersSimple.attempt, SubscribersSimple.assign, SubscribersSimple.setSubscription]
  all_goals repeat' first
    | with_reducible refine calls_bind ?_ fun _ => ?_
    | with_reducible exact calls_pure _
    | with_reducible exact calls_lift _
    | (with_reducible refine calls_op ?_
       first
       | exact trivial
       | simp [Op.plain, Filter.keys, Condition.keys])
    | with_reducible exact calls_countTypes _
    | with_reducible exact calls_raise _
    | with_reducible refine calls_handle ?_ fun _ => ?_
    | split

/-- An operation that reads the database or works on a list in memory. -/
def Op.keepsCollections : Op → Prop
  | .insertOne _ _ _ | .updateOne _ _ _ => False
  | _ => True

theorem exec_keepsCollections (op : Op) (s : Server) (keeps : op.keepsCollections) :
    (exec op s).2.collection = s.collection := by
  cases op with
  | insertOne name oid fields => exact keeps.elim
  | updateOne name filter update => exact keeps.elim
  | _ => rfl

theorem Op.plain.keepsCollections {op : Op} (plain : op.plain) : op.keepsCollections := by
  cases op with
  | insertOne name oid fields => exact plain
  | updateOne name filter update => exact plain
  | _ => trivial

/-- The endpoints that may write to the users collection. -/
def Endpoint.writesUsers : Endpoint → Bool
  | .register | .login | .googleLogin | .updateProfile | .changePassword | .createUser
  | .updateUser _ | .deleteUser _ | .activateUser _ | .upgradeUser _ => true
  | _ => false

/-- Before the view the guard looks up the token's user, and nothing else. -/
theorem calls_jwtRequired {rt : Runtime} {req : Http} {view : Document → Prog Response}
    {allowed : Op → Prop} (lookup : ∀ userId, allowed (.findOne .users [.eq "id" userId]))
    (calls : ∀ d, (view d).Calls allowed) : (Auth.jwtRequired rt req view).Calls allowed := by
  unfold Auth.jwtRequired
  split
  · exact calls_pure _
  · split
    · exact calls_pure _
    · exact calls_pure _
    · refine calls_bind (calls_lift _) fun _ => ?_
      refine calls_bind (calls_op (lookup _)) fun _ => ?_
      split
      · exact calls_pure _
      · split_ifs
        · exact calls _
        · exact calls_pure _

theorem calls_adminRequired {rt : Runtime} {req : Http} {view : Document → Prog Response}
    (calls : ∀ d, (view d).Calls Op.keepsCollections) :
    (Auth.adminRequired rt req view).Calls Op.keepsCollections := by
  refine calls_jwtRequired (fun _ => trivial) fun d => ?_
  split_ifs
  · exact calls d
  · exact calls_pure _

theorem calls_ifMongo {rt : Runtime} {unavailable : String} {body : Prog Response}
    (calls : body.Calls Op.keepsCollections) :
    (Admin.ifMongo rt unavailable body).Calls Op.keepsCollections := by
  refine calls_bind (calls_lift _) fun _ => ?_
  split_ifs
  · exact calls
  · exact calls_pure _

theorem calls_listUsers (rt : Runtime) (req : Http) :
    (Admin.listUsers rt req).Calls Op.keepsCollections := by
  refine calls_ifMongo ?_
  refine calls_bind (calls_lift _) fun page => ?_
  refine calls_bind (calls_lift _) fun perPage => ?_
  refine calls_bind (calls_lift _) fun filterQuery => ?_
  refine calls_bind (calls_op trivial) fun total => ?_
  refine calls_bind (calls_lift _) fun _ => ?_
  refine calls_bind (calls_lift _) fun _ => ?_
  refine calls_bind (calls_op trivial) fun found => ?_
  refine calls_bind (calls_lift _) fun users => ?_
  split_ifs
  · exact calls_raise _
  · exact calls_pure _

theorem calls_getUser (rt : Runtime) (userId : Nat) :
    (Admin.getUser rt userId).Calls Op.keepsCollections := by
  refine calls_ifMongo ?_
  refine calls_bind (calls_op trivial) fun found => ?_
  split
  · exact calls_pure _
  · exact calls_bind (calls_lift _) fun user => calls_pure _

theorem calls_handler (rt : Runtime) {request : Request}
    (reads : request.endpoint.writesUsers = false) :
    (handler rt request).Calls Op.keepsCollections := by
  cases plain : request.endpoint.isPlain with
  | true =>
    obtain ⟨body, calls, guarded⟩ := guarded_of_isPlain rt plain
    have keeps := calls.mono fun _ => Op.plain.keepsCollections
    generalize handler rt request = served at guarded ⊢
    cases guarded with
    | anyone => exact keeps
    | login => exact calls_jwtRequired (fun _ => trivial) fun _ => keeps
    | admin => exact calls_adminRequired fun _ => keeps
  | false =>
    obtain ⟨endpoint, req⟩ := request
    cases endpoint with
    | getProfile =>
      exact calls_jwtRequired (fun _ => trivial) fun _ => calls_bind (calls_lift _) fun _ => calls_pure _
    | searchUsers => exact calls_bind (calls_op trivial) fun _ => calls_pure _
    | listUsers => exact calls_adminRequired fun _ => calls_listUsers rt req
    | getUser userId => exact calls_adminRequired fun _ => calls_getUser rt userId
    | _ => first
      | exact absurd reads.symm Bool.false_ne_true
      | exact absurd plain.symm Bool.false_ne_true

theorem step_reads {rt : Runtime} {s : Server} {request : Request}
    (reads : request.endpoint.writesUsers = false) :
    (step rt s request).collection = s.collection :=
  (calls_handler rt reads).run_frame exec_keepsCollections s

/-! The effect of a request. -/

/-- The keys an endpoint may write in a document that is already there. -/
def Endpoint.updates : Endpoint → List String
  | .login => ["last_login"]
  | .googleLogin => Auth.googleKeys
  | .updateProfile => Auth.profileFields ++ ["updated_at"]
  | .changePassword => ["password_hash", "updated_at"]
  | .updateUser _ => Admin.userFields ++ ["updated_at"]
  | .deleteUser _ | .activateUser _ => ["is_active", "is_suspended", "updated_at"]
  | .upgradeUser _ => ["user_type", "updated_at"]
  | _ => []

/-- The user an administrator's request names in its path. -/
def Endpoint.target : Endpoint → Option Nat
  | .updateUser userId | .deleteUser userId | .activateUser userId | .upgradeUser userId =>
      some userId
  | _ => none

/-- The request asks for a user type to be stored in an existing document. -/
def Request.setsUserType (request : Request) : Bool :=
  match request.endpoint with
  | .upgradeUser _ => true
  | .updateUser _ => (request.http.field "user_type").isSome
  | _ => false

/-- The document of a new account, against the collection it goes into. -/
structure NewAccount (request : Request) (users : Collection) (fields : Fields) where
  email : String
  userType : Value
  id_given : fields.lookup "id" = some (.int (Auth.nextUserId users))
  email_given : fields.lookup "email" = some (.str email)
  type_given : fields.lookup "user_type" = some userType
  type_json : userType.isJson = true
  unregistered : users.first? [.eq "email" (.str email)] = none
  google_type : request.endpoint = .googleLogin → userType = .str "user"

/-- One update of an existing document. -/
structure Edit (request : Request) (users : Collection) where
  document : Document
  update : Fields
  member : document ∈ users.docs
  listed : ∀ entry ∈ update, entry.1 ∈ request.endpoint.updates
  json : ∀ entry ∈ update, entry.1 = "user_type" → entry.2.isJson = true
  typed : ∀ entry ∈ update, entry.1 = "user_type" → request.setsUserType = true
  targeted : ∀ userId : Nat, request.endpoint.target = some userId →
    (Value.int userId).matchesField (document.get? "id") = true

inductive Effect (request : Request) (users : Collection) : Collection → Prop where
  | unchanged : Effect request users users
  | account {fields : Fields} {c : Collection} (new : NewAccount request users fields)
      (creates : request.endpoint = .register ∨ request.endpoint = .googleLogin)
      (inserted : users.insertOne request.http.oid fields = .ok c) : Effect request users c
  | contact {fields : Fields} {c : Collection} (creates : request.endpoint = .createUser)
      (keys : fields.map Prod.fst = Users.contactKeys)
      (inserted : users.insertOne request.http.oid fields = .ok c) : Effect request users c
  | edited {c : Collection} (edit : Edit request users)
      (rewritten : c.docs = users.docs.map (Document.edit edit.document.oid edit.update)) :
      Effect request users c

/-- An update through the driver is an edit of the first document that matches. -/
theorem effect_of_updateOne {request : Request} {users c : Collection} {filter : Filter}
    {update : Fields} (written : users.updateOne filter update = .ok c)
    (listed : ∀ entry ∈ update, entry.1 ∈ request.endpoint.updates)
    (json : ∀ entry ∈ update, entry.1 = "user_type" → entry.2.isJson = true)
    (typed : ∀ entry ∈ update, entry.1 = "user_type" → request.setsUserType = true)
    (targeted : ∀ userId : Nat, request.endpoint.target = some userId →
      filter = [.eq "id" (.int userId)]) : Effect request users c := by
  rcases Collection.updateOne_ok written with ⟨-, rfl⟩ | ⟨d, found, rewritten⟩
  · exact .unchanged
  · obtain ⟨member, matched⟩ := Collection.first?_mem found
    refine .edited ⟨d, update, member, listed, json, typed, fun userId target => ?_⟩ rewritten
    have filtered := targeted userId target
    subst filtered
    simpa [Document.satisfies, Condition.holds] using matched

/-- Updates without a user type need no word about it. -/
theorem effect_of_plain_updateOne {request : Request} {users c : Collection} {filter : Filter}
    {update : Fields} (written : users.updateOne filter update = .ok c)
    (listed : ∀ entry ∈ update, entry.1 ∈ request.endpoint.updates)
    (plain : "user_type" ∉ request.endpoint.updates)
    (targeted : ∀ userId : Nat, request.endpoint.target = some userId →
      filter = [.eq "id" (.int userId)]) : Effect request users c :=
  effect_of_updateOne written listed
    (fun entry member same => absurd (same ▸ listed entry member) plain)
    (fun entry member same => absurd (same ▸ listed entry member) plain) targeted

/-! The effect of each handler. -/

section Handlers

variable {rt : Runtime} {req : Http} {s : Server}

@[simp] theorem users_setCollection (s : Server) (c : Collection) :
    (s.setCollection .users c).users = c := by
  simp [Server.users]

def Registration.account (r : Auth.Registration rt req s.users) :
    NewAccount ⟨.register, req⟩ s.users r.fields where
  email := Auth.lowerStrip rt r.email
  userType := r.userType
  id_given := rfl
  email_given := rfl
  type_given := rfl
  type_json := r.userType_json
  unregistered := r.unregistered
  google_type := nofun

def GoogleSignUp.account (g : Auth.GoogleSignUp s.users) :
    NewAccount ⟨.googleLogin, req⟩ s.users (g.fields req) where
  email := g.email
  userType := .str "user"
  id_given := rfl
  email_given := rfl
  type_given := rfl
  type_json := rfl
  unregistered := g.unregistered
  google_type := fun _ => rfl

/-- The postcondition of every handler. -/
abbrev Affects (request : Request) (s : Server) : Outcome → Server → Prop :=
  fun _ s' => Effect request s.users s'.users

theorem affects_set {request : Request} {outcome : Outcome} {c : Collection}
    (effect : Effect request s.users c) : Affects request s outcome (s.setCollection .users c) := by
  change Effect request s.users (s.setCollection .users c).users
  rwa [users_setCollection]

theorem affects_register : Post exec (Auth.register rt req) s (Affects ⟨.register, req⟩ s) := by
  refine post_mono (Auth.post_register rt req s) fun outcome s' done => ?_
  rcases done with ⟨rfl, -⟩ | ⟨r, c, inserted, rfl, -⟩
  · exact .unchanged
  · exact affects_set (.account (Registration.account r) (.inl rfl) inserted)

theorem affects_login : Post exec (Auth.login rt req) s (Affects ⟨.login, req⟩ s) := by
  refine post_mono (Auth.post_login rt req s) fun outcome s' done => ?_
  rcases done with ⟨rfl, -⟩ | ⟨l, c, updated, rfl, -⟩
  · exact .unchanged
  · exact affects_set (effect_of_plain_updateOne updated (by simp [Endpoint.updates])
      (by simp [Endpoint.updates]) nofun)

theorem affects_googleLogin :
    Post exec (Auth.googleLogin rt req) s (Affects ⟨.googleLogin, req⟩ s) := by
  refine post_mono (Auth.post_googleLogin s) fun outcome s' done => ?_
  cases done with
  | refused _ => exact .unchanged
  | returned found keys updated _ =>
    refine affects_set (effect_of_plain_updateOne updated (fun entry member => ?_)
      (by simp [Endpoint.updates, Auth.googleKeys]) nofun)
    have listed : entry.1 ∈ Auth.googleKeys := keys ▸ List.mem_map_of_mem member
    exact listed
  | signedUp g inserted _ =>
    exact affects_set (.account (GoogleSignUp.account g) (.inr rfl) inserted)

theorem affects_createUser :
    Post exec (Users.createUser req) s (Affects ⟨.createUser, req⟩ s) := by
  refine post_mono (Users.post_createUser s) fun outcome s' done => ?_
  rcases done with rfl | ⟨fields, c, keys, inserted, rfl⟩
  · exact .unchanged
  · exact affects_set (.contact rfl keys inserted)

theorem affects_updateProfile (currentUser : Document) :
    Post exec (Auth.updateProfile req currentUser) s (Affects ⟨.updateProfile, req⟩ s) := by
  refine post_mono (Auth.post_updateProfile currentUser s) fun outcome s' done => ?_
  rcases done with rfl | ⟨userId, update, c, -, keys, updated, rfl⟩
  · exact .unchanged
  · exact affects_set (effect_of_plain_updateOne updated
      (fun entry member => keys entry.1 (List.mem_map_of_mem member))
      (by simp [Endpoint.updates, Auth.profileFields]) nofun)

theorem affects_changePassword (currentUser : Document) :
    Post exec (Auth.changePassword rt req currentUser) s (Affects ⟨.changePassword, req⟩ s) := by
  refine post_mono (Auth.post_changePassword currentUser s) fun outcome s' done => ?_
  rcases done with ⟨rfl, -⟩ | ⟨p, c, updated, rfl, -⟩
  · exact .unchanged
  · exact affects_set (effect_of_plain_updateOne updated
      (by simp [Auth.PasswordChange.update, Endpoint.updates]) (by simp [Endpoint.updates]) nofun)

/-- The administrator's changes: the update is the only thing that differs. -/
theorem affects_of_userUpdate {endpoint : Endpoint} {userId : Nat} {allowed : Fields → Prop}
    {outcome : Outcome} {s' : Server} (target : endpoint.target = some userId)
    (listed : ∀ update, allowed update → ∀ entry ∈ update, entry.1 ∈ endpoint.updates)
    (json : ∀ update, allowed update → ∀ entry ∈ update, entry.1 = "user_type" →
      entry.2.isJson = true)
    (typed : ∀ update, allowed update → ∀ entry ∈ update, entry.1 = "user_type" →
      Request.setsUserType ⟨endpoint, req⟩ = true)
    (done : UserUpdate (.int userId) allowed s outcome s') :
    Affects ⟨endpoint, req⟩ s outcome s' := by
  cases done with
  | refused _ => exact .unchanged
  | updated found kind written =>
    refine affects_set
      (effect_of_updateOne written (listed _ kind) (json _ kind) (typed _ kind) ?_)
    intro named same
    obtain rfl : userId = named := Option.some.inj (target.symm.trans same)
    rfl

theorem affects_updateUser (userId : Nat) :
    Post exec (Admin.updateUser rt req userId) s (Affects ⟨.updateUser userId, req⟩ s) := by
  refine post_mono (Admin.post_updateUser userId) fun outcome s' done => ?_
  refine affects_of_userUpdate rfl ?_ ?_ ?_ done
  · rintro update ⟨data, -, entries⟩ entry member
    rcases entries entry member with last | ⟨given, -⟩
    · exact List.mem_append_right _ (List.mem_singleton.mpr last)
    · exact List.mem_append_left _ given
  · rintro update ⟨data, parsed, entries⟩ entry member typed
    rcases entries entry member with last | ⟨-, found⟩
    · exact absurd (typed.symm.trans last) (by decide)
    · exact Value.isJson_pyIndex (Http.getJson_isJson parsed) found
  · rintro update ⟨data, parsed, entries⟩ entry member typed
    rcases entries entry member with last | ⟨-, found⟩
    · exact absurd (typed.symm.trans last) (by decide)
    · rw [typed] at found
      simp only [Request.setsUserType, Http.field_of_pyIndex parsed found, Option.isSome_some]

theorem affects_deleteUser (currentUser : Document) (userId : Nat) :
    Post exec (Admin.deleteUser rt req currentUser userId) s (Affects ⟨.deleteUser userId, req⟩ s) :=
  post_mono (Admin.post_deleteUser currentUser userId) fun _ _ =>
    affects_of_userUpdate rfl (by rintro _ rfl; simp [Endpoint.updates])
      (by rintro _ rfl; simp) (by rintro _ rfl; simp)

theorem affects_activateUser (userId : Nat) :
    Post exec (Admin.activateUser rt req userId) s (Affects ⟨.activateUser userId, req⟩ s) :=
  post_mono (Admin.post_activateUser userId) fun _ _ =>
    affects_of_userUpdate rfl (by rintro _ rfl; simp [Endpoint.updates])
      (by rintro _ rfl; simp) (by rintro _ rfl; simp)

theorem affects_upgradeUser (userId : Nat) :
    Post exec (Admin.upgradeUser rt req userId) s (Affects ⟨.upgradeUser userId, req⟩ s) :=
  post_mono (Admin.post_upgradeUser userId) fun _ _ =>
    affects_of_userUpdate rfl
      (by rintro _ ⟨data, userType, -, -, -, rfl⟩; simp [Endpoint.updates])
      (by rintro _ ⟨data, userType, -, -, -, rfl⟩; simp [Value.isJson])
      (by rintro _ ⟨data, userType, -, -, -, rfl⟩; simp [Request.setsUserType])

theorem affects_jwtRequired {request : Request} {view : Document → Prog Response}
    (view_affects : ∀ d, Post exec (view d) s (Affects request s)) :
    Post exec (Auth.jwtRequired rt request.http view) s (Affects request s) :=
  Auth.post_jwtRequired (fun _ _ => .unchanged) fun d _ _ => view_affects d

theorem affects_adminRequired {request : Request} {view : Document → Prog Response}
    (view_affects : ∀ d, Post exec (view d) s (Affects request s)) :
    Post exec (Auth.adminRequired rt request.http view) s (Affects request s) :=
  Auth.post_adminRequired (fun _ _ => .unchanged) fun d _ _ _ => view_affects d

end Handlers

/-- What one request does to the users collection. -/
theorem step_effect (rt : Runtime) (s : Server) (request : Request) :
    Effect request s.users (step rt s request).users := by
  cases writes : request.endpoint.writesUsers with
  | false =>
    have same : (step rt s request).users = s.users := congrFun (step_reads writes) .users
    rw [same]
    exact .unchanged
  | true =>
    obtain ⟨endpoint, req⟩ := request
    cases endpoint with
    | register => exact affects_register
    | login => exact affects_login
    | googleLogin => exact affects_googleLogin
    | createUser => exact affects_createUser
    | updateProfile => exact affects_jwtRequired affects_updateProfile
    | changePassword => exact affects_jwtRequired affects_changePassword
    | updateUser userId => exact affects_adminRequired fun _ => affects_updateUser userId
    | deleteUser userId => exact affects_adminRequired fun d => affects_deleteUser d userId
    | activateUser userId => exact affects_adminRequired fun _ => affects_activateUser userId
    | upgradeUser userId => exact affects_adminRequired fun _ => affects_upgradeUser userId
    | _ => cases writes

end UssdCredit
