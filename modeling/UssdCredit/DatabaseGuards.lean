import UssdCredit.AdminChanges
import UssdCredit.AdminDecorators
import UssdCredit.InfluencerDocuments

/-! The handlers that test the database for truth. The driver's object refuses the test, so a
connected database makes these handlers fail where they mean to use it. -/

namespace UssdCredit

open Library Program

/-- What `bool()` of a connected database raises. -/
def databaseTruth : PyExn := ⟨.notImplementedError, "Database objects do not implement truth " ++
  "value testing or bool(). Please compare with None instead: database is not None"⟩

/-- The same libraries with a guard that finds the database available. -/
def Runtime.available (rt : Runtime) : Runtime := { rt with mongoTruth := .ok true }

/-- A handler does what it does when the guard passes, and the guard itself does not fail. -/
structure Operates {σ : Type} (ran intended : Outcome × σ) : Prop where
  served : ran = intended
  passed : ran.1 ≠ .error databaseTruth

/-! The callback for payments. -/

namespace Webhooks

/-- `request.get_json(silent=True) or {}`. -/
def silentJson (req : Http) : Value :=
  match req.body with
  | none => .dict []
  | some json => if json.value.truthy then json.value else .dict []

/-- The operations are those on the payments collection. -/
def mpesaCallback (rt : Runtime) (req : Http) : MongoProg Response := do
  let available ← rt.mongoTruth
  if available then
    Influencers.Mongo.perform (.insertOne [("callback", silentJson req)])
    return jsonify 200 (.dict [("ResultCode", .int 0), ("ResultDesc", .str "Accepted")])
  else return jsonify 200 (.dict [("ResultCode", .int 0), ("ResultDesc", .str "Accepted")])

end Webhooks

section

variable {rt : Runtime} {req : Http} {s : Server}

theorem run_ifMongo_raises (raising : rt.mongoTruth = .error databaseTruth) (unavailable : String)
    (body : Prog Response) :
    (Admin.ifMongo rt unavailable body).run exec s = (.error databaseTruth, s) := by
  unfold Admin.ifMongo
  rw [raising]
  rfl

theorem run_mpesaCallback (mongo : MongoEngine) (raising : rt.mongoTruth = .error databaseTruth)
    (payments : Collection) :
    (Webhooks.mpesaCallback rt req).run (mongoExec mongo) payments = (.error databaseTruth, payments) := by
  unfold Webhooks.mpesaCallback
  rw [raising]
  rfl

/-- What the callback means to do: its answer stands for one stored payment. -/
theorem mpesaCallback_available (mongo : MongoEngine) (available : rt.mongoTruth = .ok true)
    (payments : Collection) :
    let ran := (Webhooks.mpesaCallback rt req).run (mongoExec mongo) payments
    (ran.1 = .ok (jsonify 200 (.dict [("ResultCode", .int 0), ("ResultDesc", .str "Accepted")])) ∧
      ran.2.docs = payments.docs ++ [⟨payments.newOid, [("callback", Webhooks.silentJson req)]⟩]) ∨
    (∃ e, ran.1 = .error e) ∧ ran.2 = payments := by
  intro ran
  have begun : ran = (Influencers.Mongo.perform (.insertOne [("callback", Webhooks.silentJson req)]) >>=
      fun _ => (pure (jsonify 200 (.dict [("ResultCode", .int 0), ("ResultDesc", .str "Accepted")])) :
        MongoProg Response)).run (mongoExec mongo) payments := by
    change (Webhooks.mpesaCallback rt req).run (mongoExec mongo) payments = _
    unfold Webhooks.mpesaCallback
    rw [run_lift_bind _ available]
    rfl
  rw [begun]
  by_cases takes : Value.bsonErrorEntries [("callback", Webhooks.silentJson req)] = none ∧
      mongo.refusal [("callback", Webhooks.silentJson req)] = none
  · obtain ⟨c, inserted, stored⟩ := insertOne_newOid takes.1
    rw [run_mongoInsert takes.2 inserted]
    exact .inl ⟨rfl, stored⟩
  · obtain ⟨e, raised⟩ := run_mongoInsert_error (not_and_or.mp takes) _
    rw [raised]
    exact .inr ⟨⟨e, rfl⟩, rfl⟩

end

/-! The user administration. -/

/-- The endpoints with the guard. -/
def Endpoint.guardsDatabase : Endpoint → Bool
  | .listUsers | .getUser _ | .updateUser _ | .deleteUser _ | .activateUser _ | .upgradeUser _
  | .getAdminStats => true
  | _ => false

/-- An upgrade that asks for one of the valid types. -/
def AsksUpgrade (req : Http) : Prop :=
  ∃ data userType, req.getJson = .ok data ∧ data.pyGet "user_type" .null = .ok (.str userType) ∧
    userType ∈ Admin.validTypes

/-- The request is turned down before the handler comes to the database. -/
def EndsBeforeGuard (request : Request) : Prop :=
  match request.endpoint with
  | .updateUser _ => ∃ e, request.http.getJson = .error e
  | .upgradeUser _ => ¬AsksUpgrade request.http
  | _ => False

section

variable {rt : Runtime} {req : Http} {s : Server}

theorem getJson_ne_databaseTruth {e : PyExn} (unread : req.getJson = .error e) : e ≠ databaseTruth := by
  unfold Http.getJson at unread
  split at unread
  · rw [← Except.error.inj unread]
    decide
  · cases unread

/-- An upgrade that is turned down ends in the same way whatever the guard says. -/
theorem upgradeUser_ends (refused : ¬AsksUpgrade req) : ∃ outcome, outcome ≠ .error databaseTruth ∧
    ∀ (rt : Runtime) (s : Server) (userId : Nat),
      (Admin.upgradeUser rt req userId).run exec s = (outcome, s) := by
  unfold Admin.upgradeUser
  cases parsed : req.getJson with
  | error e =>
    exact ⟨.error e, fun same => getJson_ne_databaseTruth parsed (Except.error.inj same), fun _ _ _ => rfl⟩
  | ok data =>
    cases given : data.pyGet "user_type" .null with
    | error e =>
      refine ⟨.error e, fun same => ?_, fun _ _ _ => ?_⟩
      · obtain rfl := Except.error.inj same
        unfold Value.pyGet at given
        split at given
        · cases given
        · exact absurd (Except.error.inj given) (by simp [databaseTruth])
      · rw [run_lift_bind exec rfl, given]
        rfl
    | ok newUserType =>
      cases asked : newUserType.truthy with
      | false =>
        refine ⟨.ok (message 400 "user_type is required"), nofun, fun _ _ _ => ?_⟩
        rw [run_lift_bind exec rfl, run_lift_bind exec given]
        simp only [asked, Bool.false_eq_true, if_false]
        rfl
      | true =>
        cases valid : Admin.validTypes.find? (fun t => (Value.str t).pyEq newUserType) with
        | none =>
          refine ⟨.ok Admin.invalidType, nofun, fun _ _ _ => ?_⟩
          rw [run_lift_bind exec rfl, run_lift_bind exec given]
          simp only [asked, if_true, valid]
          rfl
        | some userType =>
          have named : newUserType = .str userType :=
            Value.eq_of_str_pyEq (by simpa using List.find?_some valid)
          exact absurd ⟨data, userType, parsed, named ▸ given, List.mem_of_find?_eq_some valid⟩ refused

theorem upgradeUser_guarded (raising : rt.mongoTruth = .error databaseTruth)
    (asks : AsksUpgrade req) (userId : Nat) :
    (Admin.upgradeUser rt req userId).run exec s = (.error databaseTruth, s) := by
  obtain ⟨data, userType, parsed, given, valid⟩ := asks
  have asked : Request.change ⟨.upgradeUser userId, req⟩ = some [("user_type", .str userType)] := by
    simp only [Request.change, parsed, given, if_pos valid]
  obtain ⟨response, ran⟩ := run_upgradeUser asked s
  rw [ran]
  exact run_ifMongo_raises raising _ _

end

section Administrator

variable {rt : Runtime} {s : Server} {req : Http} {currentUser : Document}
  (resolved : Auth.resolve rt req s.users = some currentUser)
  (active : Auth.isActive currentUser = true) (admin : Auth.isAdmin currentUser = true)

include resolved active admin

/-- A view that meets the guard is not carried out. -/
theorem not_operates_of_raised {view : Document → Prog Response} {intended : Outcome × Server}
    (raised : (view currentUser).run exec s = (.error databaseTruth, s)) :
    ¬Operates ((Auth.adminRequired rt req view).serve s) intended := by
  intro operates
  apply operates.passed
  unfold Prog.serve
  rw [Auth.run_adminRequired_admin resolved active admin, raised]

/-- A view that ends before the guard ends alike whatever the database is. -/
theorem operates_of_ended {view view' : Document → Prog Response} {outcome : Outcome}
    (other : outcome ≠ .error databaseTruth) (ran : (view currentUser).run exec s = (outcome, s))
    (ran' : (view' currentUser).run exec s = (outcome, s)) :
    Operates ((Auth.adminRequired rt req view).serve s)
      ((Auth.adminRequired rt.available req view').serve s) := by
  have served : (Auth.adminRequired rt req view).serve s = (outcome, s) :=
    (Auth.run_adminRequired_admin resolved active admin).trans ran
  have served' : (Auth.adminRequired rt.available req view').serve s = (outcome, s) :=
    (@Auth.run_adminRequired_admin rt.available req s view' _ resolved active admin).trans ran'
  rw [served, served']
  exact ⟨rfl, other⟩

end Administrator

/-- With a connected database, a request of an administrator is carried out exactly when it is
turned down before the guard; a callback for a payment never is. -/
theorem database_operations_iff (mongo : MongoEngine) (rt : Runtime)
    (raising : rt.mongoTruth = .error databaseTruth) :
    (∀ (s : Server) (request : Request) (currentUser : Document),
      request.endpoint.guardsDatabase = true →
      Auth.resolve rt request.http s.users = some currentUser →
      Auth.isActive currentUser = true → Auth.isAdmin currentUser = true →
      (Operates ((handler rt request).serve s) ((handler rt.available request).serve s) ↔
        EndsBeforeGuard request)) ∧
    ∀ (req : Http) (payments : Collection),
      ¬Operates ((Webhooks.mpesaCallback rt req).run (mongoExec mongo) payments)
        ((Webhooks.mpesaCallback rt.available req).run (mongoExec mongo) payments) := by
  constructor
  · intro s request currentUser guarded resolved active admin
    obtain ⟨endpoint, req⟩ := request
    have stops := @not_operates_of_raised rt s req currentUser resolved active admin
    have ends := @operates_of_ended rt s req currentUser resolved active admin
    cases endpoint with
    | listUsers => exact iff_of_false (stops (run_ifMongo_raises raising _ _)) nofun
    | getUser userId => exact iff_of_false (stops (run_ifMongo_raises raising _ _)) nofun
    | deleteUser userId => exact iff_of_false (stops (run_ifMongo_raises raising _ _)) nofun
    | activateUser userId => exact iff_of_false (stops (run_ifMongo_raises raising _ _)) nofun
    | getAdminStats => exact iff_of_false (stops (run_ifMongo_raises raising _ _)) nofun
    | updateUser userId =>
      cases parsed : req.getJson with
      | error e =>
        refine iff_of_true (@ends _ _ (.error e) ?_ ?_ ?_) ⟨e, parsed⟩
        · exact fun same => getJson_ne_databaseTruth parsed (Except.error.inj same)
        · simp only [Admin.updateUser, parsed]
          rfl
        · simp only [Admin.updateUser, parsed]
          rfl
      | ok data =>
        refine iff_of_false (stops ?_) fun ended => ?_
        · unfold Admin.updateUser
          rw [run_lift_bind exec parsed]
          exact run_ifMongo_raises raising _ _
        · obtain ⟨e, unread⟩ := ended
          cases parsed.symm.trans unread
    | upgradeUser userId =>
      by_cases asks : AsksUpgrade req
      · exact iff_of_false (stops (upgradeUser_guarded raising asks userId)) fun ended => ended asks
      · obtain ⟨outcome, other, ran⟩ := upgradeUser_ends asks
        exact iff_of_true (ends other (ran rt s userId) (ran rt.available s userId)) asks
    | _ => cases guarded
  · intro req payments operates
    exact operates.passed (congrArg Prod.fst (run_mpesaCallback mongo raising payments))

/-- The libraries of a deployment with MongoDB. -/
def connectedRuntime : Runtime := { plainRuntime with mongoTruth := .error databaseTruth }

/-- An upgrade without a type is turned down as it should be. -/
theorem database_operations_iff_connected :
    let request := Request.bearing (.upgradeUser 1) "i"
    (Operates ((handler connectedRuntime request).serve .administered)
        ((handler connectedRuntime.available request).serve .administered) ↔ EndsBeforeGuard request) ∧
    ∀ (req : Http) (payments : Collection),
      ¬Operates ((Webhooks.mpesaCallback connectedRuntime req).run (mongoExec plainMongo) payments)
        ((Webhooks.mpesaCallback connectedRuntime.available req).run (mongoExec plainMongo) payments) := by
  intro request
  obtain ⟨currentUser, found, active, admin⟩ :=
    @administered_resolves (.upgradeUser 1) connectedRuntime rfl
  have exactly := database_operations_iff plainMongo connectedRuntime rfl
  exact ⟨exactly.1 .administered request currentUser rfl found active admin, exactly.2⟩

/-- The statistics and a callback are answered 500, and the payment is lost. -/
theorem database_guard_raises :
    let request := Request.bearing .getAdminStats "i"
    let callback := Http.ofEntries none [("Amount", .int 100)] rfl 0
    let ran := (handler connectedRuntime request).serve .administered
    let paid := (Webhooks.mpesaCallback connectedRuntime callback).run (mongoExec plainMongo) .empty
    (ran.1.answer.status = 500 ∧
      ¬Operates ran ((handler connectedRuntime.available request).serve .administered)) ∧
    (Outcome.answer paid.1).status = 500 ∧ paid.2.docs = [] ∧
      ¬Operates paid ((Webhooks.mpesaCallback connectedRuntime.available callback).run
        (mongoExec plainMongo) .empty) := by
  intro request callback ran paid
  have raised : ran.1 = .error databaseTruth := by decide +kernel
  have lost : paid.1 = .error databaseTruth := by decide +kernel
  exact ⟨⟨by decide +kernel, fun operates => operates.passed raised⟩, by decide +kernel, by decide +kernel,
    fun operates => operates.passed lost⟩

end UssdCredit
