import UssdCredit.AdminGate
import UssdCredit.Tokens

/-! Revocation: a suspended user stays out and a demoted administrator stays plain, whatever
other requests come and however old the tokens are. -/

namespace UssdCredit

open Library Program

variable {rt : Runtime} {s : Server}

/-! The state after a suspension or a demotion. -/

/-- The user with the id is there and not active. -/
def Suspended (userId : Nat) (c : Collection) : Prop :=
  ∃ d ∈ c.docs, d.get? "id" = some (.int userId) ∧ Auth.isActive d = false

/-- The user with the id is there and no administrator. -/
def Demoted (userId : Nat) (c : Collection) : Prop :=
  ∃ d ∈ c.docs, d.get? "id" = some (.int userId) ∧ Auth.isAdmin d = false

theorem isActive_of_get? {d : Document} {b : Bool} (stored : d.get? "is_active" = some (.bool b)) :
    Auth.isActive d = b := by
  simp [Auth.isActive, Document.get, stored, Value.truthy]

theorem isAdmin_of_get? {d : Document} {userType : String}
    (stored : d.get? "user_type" = some (.str userType)) (plain : userType ≠ "admin") :
    Auth.isAdmin d = false := by
  unfold Auth.isAdmin
  rw [Document.get, stored, Option.getD_some, Value.pyEq_symm, ← Bool.not_eq_true]
  exact fun equal => plain (by simpa using Value.eq_of_str_pyEq equal)

theorem isActive_congr {d d' : Document} (same : d'.get? "is_active" = d.get? "is_active") :
    Auth.isActive d' = Auth.isActive d := by
  unfold Auth.isActive Document.get
  rw [same]

theorem isAdmin_congr {d d' : Document} (same : d'.get? "user_type" = d.get? "user_type") :
    Auth.isAdmin d' = Auth.isAdmin d := by
  unfold Auth.isAdmin Document.get
  rw [same]

/-! How the state comes about. -/

def suspension (req : Http) : Fields :=
  [("is_active", .bool false), ("is_suspended", .bool true), ("updated_at", req.utcnow)]

theorem deleteUser_step (rt : Runtime) (req : Http) (userId : Nat) (s : Server) :
    UserUpdate (.int userId) (· = suspension req) s
      ((handler rt ⟨.deleteUser userId, req⟩).serve s).1 (step rt s ⟨.deleteUser userId, req⟩) :=
  Auth.post_adminRequired (fun _ refused => .refused refused) fun d _ _ _ =>
    Admin.post_deleteUser d userId

/-- The update an upgrade request asks for. -/
def Upgrades (req : Http) (update : Fields) : Prop :=
  ∃ data userType, req.getJson = .ok data ∧ data.pyGet "user_type" .null = .ok (.str userType) ∧
    userType ∈ Admin.validTypes ∧
    update = [("user_type", .str userType), ("updated_at", req.utcnow)]

theorem upgradeUser_step (rt : Runtime) (req : Http) (userId : Nat) (s : Server) :
    UserUpdate (.int userId) (Upgrades req) s
      ((handler rt ⟨.upgradeUser userId, req⟩).serve s).1 (step rt s ⟨.upgradeUser userId, req⟩) :=
  Auth.post_adminRequired (fun _ refused => .refused refused) fun _ _ _ _ =>
    Admin.post_upgradeUser userId

/-- A change that succeeds shows in the document of the user with the id. -/
theorem UserUpdate.document {userId : Nat} {allowed : Fields → Prop} {outcome : Outcome}
    {s' : Server} (done : UserUpdate (.int userId) allowed s outcome s')
    (identified : Identified s.users) (succeeded : (Outcome.answer outcome).status = 200) :
    ∃ d ∈ s.users.docs, ∃ update, allowed update ∧ d.get? "id" = some (.int userId) ∧
      d.edit d.oid update ∈ s'.users.docs := by
  cases done with
  | refused refusal =>
    have high := refusal.answer_status
    omega
  | @updated d update c found kind written =>
    obtain ⟨member, satisfied⟩ := Collection.first?_mem found
    have hit : (Value.int userId).matchesField (d.get? "id") = true := by
      simpa [Document.satisfies, Condition.holds] using satisfied
    refine ⟨d, member, update, kind, ?_, ?_⟩
    · cases stored : d.get? "id" with
      | none => simp [stored, Value.matchesField] at hit
      | some v =>
        obtain ⟨n, rfl, -, -⟩ := identified.bounded d member v stored
        rw [stored, Value.matchesField_int, decide_eq_true_eq] at hit
        rw [hit]
    · rw [users_setCollection, Collection.updateOne_found found written]
      exact List.mem_map_of_mem member

/-- A successful delete leaves the user suspended. -/
theorem suspended_of_deleteUser {req : Http} {userId : Nat} (identified : Identified s.users)
    (succeeded : (answer rt s ⟨.deleteUser userId, req⟩).status = 200) :
    Suspended userId (step rt s ⟨.deleteUser userId, req⟩).users := by
  obtain ⟨d, -, update, rfl, id, moved⟩ :=
    (deleteUser_step rt req userId s).document identified succeeded
  refine ⟨_, moved, ?_, isActive_of_get? ?_⟩
  · rw [Document.edit_get? (by simp [suspension]), id]
  · rw [Document.edit_self_get?, suspension, Dict.lookup_setAll_cons (by simp)]

/-- A successful upgrade to anything but administrator leaves the user demoted. -/
theorem demoted_of_upgradeUser {req : Http} {userId : Nat} (identified : Identified s.users)
    (succeeded : (answer rt s ⟨.upgradeUser userId, req⟩).status = 200)
    (plain : req.field "user_type" ≠ some (.str "admin")) :
    Demoted userId (step rt s ⟨.upgradeUser userId, req⟩).users := by
  obtain ⟨d, -, update, ⟨data, userType, parsed, given, -, rfl⟩, id, moved⟩ :=
    (upgradeUser_step rt req userId s).document identified succeeded
  have typed := Document.edit_self_get? [("user_type", .str userType), ("updated_at", req.utcnow)]
    "user_type" d
  rw [Dict.lookup_setAll_cons (by simp)] at typed
  refine ⟨_, moved, ?_, isAdmin_of_get? typed ?_⟩
  · rw [Document.edit_get? (by simp), id]
  · rintro rfl
    obtain ⟨entries, rfl, held⟩ := Value.pyGet_ok given
    cases present : entries.lookup "user_type" with
    | none => simp [present] at held
    | some item =>
      rw [present, Option.getD_some] at held
      have parsed' : req.getJson = .ok (.dict entries) := parsed
      exact plain (by simp only [Http.field, parsed', present, held])

/-! Other requests leave it so. -/

/-- Only three administrator endpoints write `is_active`. -/
theorem writes_isActive {endpoint : Endpoint} (writes : "is_active" ∈ endpoint.updates) :
    ∃ userId, endpoint = .updateUser userId ∨ endpoint = .deleteUser userId ∨
      endpoint = .activateUser userId := by
  cases endpoint with
  | updateUser userId => exact ⟨userId, .inl rfl⟩
  | deleteUser userId => exact ⟨userId, .inr (.inl rfl)⟩
  | activateUser userId => exact ⟨userId, .inr (.inr rfl)⟩
  | _ => simp [Endpoint.updates, Auth.googleKeys, Auth.profileFields] at writes

theorem Edit.target_eq {request : Request} {c : Collection} (edit : Edit request c)
    {userId other : Nat} (id : edit.document.get? "id" = some (.int userId))
    (target : request.endpoint.target = some other) : other = userId := by
  have hit := edit.targeted other target
  rw [id, Value.matchesField_int, decide_eq_true_eq] at hit
  exact_mod_cast hit

theorem Suspended.step {userId : Nat} {request : Request} (identified : Identified s.users)
    (suspended : Suspended userId s.users) (not_activated : request.endpoint ≠ .activateUser userId)
    (not_updated : request.endpoint ≠ .updateUser userId) :
    Suspended userId (step rt s request).users := by
  obtain ⟨d, member, id, inactive⟩ := suspended
  by_cases deletes : request.endpoint = .deleteUser userId
  · -- A second delete suspends the user once more, or is refused.
    obtain ⟨endpoint, req⟩ := request
    dsimp only at deletes
    subst deletes
    have done := deleteUser_step rt req userId s
    generalize UssdCredit.step rt s ⟨.deleteUser userId, req⟩ = s' at done ⊢
    cases done with
    | refused _ => exact ⟨d, member, id, inactive⟩
    | updated found kind written =>
      obtain rfl := Option.some.inj ((identified.first?_id member id).symm.trans found)
      subst kind
      rw [users_setCollection]
      refine ⟨d.edit d.oid (suspension req), ?_, ?_, isActive_of_get? ?_⟩
      · rw [Collection.updateOne_found found written]
        exact List.mem_map_of_mem member
      · rw [Document.edit_get? (by simp [suspension]), id]
      · rw [Document.edit_self_get?, suspension, Dict.lookup_setAll_cons (by simp)]
  · rcases (step_effect rt s request).follows member with same | ⟨edit, rfl, moved⟩
    · exact ⟨d, same, id, inactive⟩
    · have kept : "is_active" ∉ request.endpoint.updates := by
        intro writes
        obtain ⟨other, which⟩ := writes_isActive writes
        have target : request.endpoint.target = some other := by
          rcases which with same | same | same <;> rw [same] <;> rfl
        obtain rfl := edit.target_eq id target
        rcases which with same | same | same
        · exact not_updated same
        · exact deletes same
        · exact not_activated same
      refine ⟨_, moved, ?_, ?_⟩
      · rw [Document.edit_get? (edit.untouched (updates_keep_identity _).1), id]
      · rw [isActive_congr (Document.edit_get? (edit.untouched kept) _ _), inactive]

theorem setsUserType_target {request : Request} (sets : request.setsUserType = true) :
    ∃ userId, request.endpoint.target = some userId := by
  obtain ⟨endpoint, req⟩ := request
  cases endpoint with
  | updateUser userId => exact ⟨userId, rfl⟩
  | upgradeUser userId => exact ⟨userId, rfl⟩
  | _ => cases sets

theorem Demoted.step {userId : Nat} {request : Request} (demoted : Demoted userId s.users)
    (untouched : request.setsUserType = true → request.endpoint.target ≠ some userId) :
    Demoted userId (step rt s request).users := by
  obtain ⟨d, member, id, plain⟩ := demoted
  rcases (step_effect rt s request).follows member with same | ⟨edit, rfl, moved⟩
  · exact ⟨d, same, id, plain⟩
  · have kept : "user_type" ∉ edit.update.map Prod.fst := by
      intro writes
      obtain ⟨entry, present, typed⟩ := List.mem_map.mp writes
      have sets := edit.typed entry present typed
      obtain ⟨other, target⟩ := setsUserType_target sets
      obtain rfl := edit.target_eq id target
      exact untouched sets target
    refine ⟨_, moved, ?_, ?_⟩
    · rw [Document.edit_get? (edit.untouched (updates_keep_identity _).1), id]
    · rw [isAdmin_congr (Document.edit_get? kept _ _), plain]

/-! Runs. -/

theorem Suspended.run (rt : Runtime) {userId : Nat} (identified : Identified s.users)
    (suspended : Suspended userId s.users) {requests : List Request}
    (untouched : ∀ request ∈ requests, request.endpoint ≠ .activateUser userId ∧
      request.endpoint ≠ .updateUser userId) : Suspended userId (run rt s requests).users := by
  have reached : Identified (UssdCredit.run rt s requests).users ∧
      Suspended userId (UssdCredit.run rt s requests).users := by
    refine Library.run_invariant_of_forall
      (fun s : Server => Identified s.users ∧ Suspended userId s.users) ?_
      ⟨identified, suspended⟩ untouched
    rintro s request ⟨identified, suspended⟩ ⟨not_activated, not_updated⟩
    exact ⟨identified.effect (step_effect rt s request),
      suspended.step identified not_activated not_updated⟩
  exact reached.2

theorem Demoted.run (rt : Runtime) {userId : Nat} (demoted : Demoted userId s.users) {requests : List Request}
    (untouched : ∀ request ∈ requests, request.setsUserType = true →
      request.endpoint.target ≠ some userId) : Demoted userId (run rt s requests).users := by
  refine Library.run_invariant_of_forall (fun s : Server => Demoted userId s.users) ?_ demoted untouched
  intro s request demoted untouched
  exact demoted.step untouched

/-! Refusal. -/

/-- A token in the header is accepted for this `user_id` only, if at all. -/
def BearsTokenOf (rt : Runtime) (userId : Value) (req : Http) : Prop :=
  ∀ token payload, req.bearerToken = .ok token → rt.jwtDecode req.now token = .ok payload →
    payload.lookup "user_id" = some userId

section Refusal

variable {userId : Value} {req : Http}

theorem tokenUser_of_bears (bears : BearsTokenOf rt userId req) :
    Auth.tokenUser rt req = none ∨ Auth.tokenUser rt req = some userId := by
  unfold Auth.tokenUser
  cases header : req.bearerToken with
  | error refusal => exact .inl rfl
  | ok token =>
    cases decoded : rt.jwtDecode req.now token with
    | error e => exact .inl (by simp only [decoded])
    | ok payload =>
      simp only [decoded]
      exact .inr (bears token payload header decoded)

theorem resolve_of_bears (bears : BearsTokenOf rt userId req)
    (identified : Identified s.users) {d : Document} (member : d ∈ s.users.docs)
    (id : d.get? "id" = some userId) :
    Auth.resolve rt req s.users = none ∨ Auth.resolve rt req s.users = some d := by
  unfold Auth.resolve
  rcases tokenUser_of_bears bears with none | named
  · exact .inl (by rw [none])
  · refine .inr ?_
    rw [named]
    dsimp only
    rw [identified.findOne_id member id]

theorem jwtRefusal_of_bears (bears : BearsTokenOf rt userId req)
    (encodes : userId.bsonError = none) (found : Option Document) :
    ∃ text, Auth.jwtRefusal rt req found = .ok (message 401 text) := by
  unfold Auth.jwtRefusal
  cases header : req.bearerToken with
  | error refusal =>
    obtain ⟨text, same⟩ := Http.bearerToken_error header
    exact ⟨text, congrArg Except.ok same⟩
  | ok token =>
    cases decoded : rt.jwtDecode req.now token with
    | error e => cases e <;> simp only [decoded] <;> exact ⟨_, rfl⟩
    | ok payload =>
      have named : (Value.dict payload).pyIndex "user_id" = .ok userId := by
        simp [Value.pyIndex, bears token payload header decoded]
      have queried : Filter.bsonError [.eq "id" userId] = none := by
        simp [Filter.bsonError, encodes]
      simp only [decoded, named, queried]
      exact ⟨_, rfl⟩

end Refusal

theorem Suspended.refused {userId : Nat} {request : Request} (identified : Identified s.users)
    (suspended : Suspended userId s.users)
    (guarded : request.endpoint.requiresLogin = true ∨ request.endpoint.requiresAdmin = true)
    (bears : BearsTokenOf rt (.int userId) request.http) :
    (answer rt s request).status = 401 ∧ UssdCredit.step rt s request = s := by
  obtain ⟨d, member, id, inactive⟩ := suspended
  have nobody : (Auth.resolve rt request.http s.users).any Auth.isActive = false := by
    rcases resolve_of_bears bears identified member id with none | one
    · rw [none]; rfl
    · rw [one, Option.any_some, inactive]
  obtain ⟨text, refusal⟩ := jwtRefusal_of_bears bears
    (Collection.bsonError_get? member id) (Auth.resolve rt request.http s.users)
  have served : (handler rt request).serve s = (.ok (message 401 text), s) := by
    rw [← refusal]
    rcases guarded with login | admin
    · obtain ⟨view, same⟩ := handler_of_requiresLogin rt login
      rw [same]
      exact Auth.run_jwtRequired_refused nobody
    · obtain ⟨view, same⟩ := handler_of_requiresAdmin rt admin
      rw [same]
      exact Auth.run_jwtRequired_refused nobody
  unfold answer UssdCredit.step
  rw [served]
  exact ⟨rfl, rfl⟩

theorem Demoted.refused {userId : Nat} {request : Request} (identified : Identified s.users)
    (demoted : Demoted userId s.users) (guarded : request.endpoint.requiresAdmin = true)
    (bears : BearsTokenOf rt (.int userId) request.http) :
    ((answer rt s request).status = 401 ∨ (answer rt s request).status = 403) ∧
      UssdCredit.step rt s request = s := by
  obtain ⟨d, member, id, plain⟩ := demoted
  have nobody : (Auth.resolve rt request.http s.users).any
      (fun d => Auth.isActive d && Auth.isAdmin d) = false := by
    rcases resolve_of_bears bears identified member id with none | one
    · rw [none]; rfl
    · rw [one, Option.any_some, plain, Bool.and_false]
  obtain ⟨text, refusal⟩ := jwtRefusal_of_bears bears
    (Collection.bsonError_get? member id) (Auth.resolve rt request.http s.users)
  have served := serve_refused guarded nobody
  unfold Auth.adminRefusal at served
  rw [refusal] at served
  unfold answer UssdCredit.step
  rw [served]
  split_ifs
  · exact ⟨.inr rfl, rfl⟩
  · exact ⟨.inl rfl, rfl⟩

/-- After an administrator's successful delete of a user, and until the user is activated or
updated, every request with a token of this user to a protected endpoint is answered 401 and
changes nothing. After a successful upgrade to another type than administrator, and until a
user type is set again, every administrator endpoint refuses the user's tokens. -/
theorem revocation_is_immediate (start : Identified s.users) (before after : List Request)
    (userId : Nat) (req : Http) :
    ((answer rt (run rt s before) ⟨.deleteUser userId, req⟩).status = 200 →
      (∀ request ∈ after, request.endpoint ≠ .activateUser userId ∧
        request.endpoint ≠ .updateUser userId) →
      ∀ request : Request,
        request.endpoint.requiresLogin = true ∨ request.endpoint.requiresAdmin = true →
        BearsTokenOf rt (.int userId) request.http →
        (answer rt (run rt s (before ++ ⟨.deleteUser userId, req⟩ :: after)) request).status =
          401 ∧
        step rt (run rt s (before ++ ⟨.deleteUser userId, req⟩ :: after)) request =
          run rt s (before ++ ⟨.deleteUser userId, req⟩ :: after)) ∧
    ((answer rt (run rt s before) ⟨.upgradeUser userId, req⟩).status = 200 →
      req.field "user_type" ≠ some (.str "admin") →
      (∀ request ∈ after, request.setsUserType = true →
        request.endpoint.target ≠ some userId) →
      ∀ request : Request, request.endpoint.requiresAdmin = true →
        BearsTokenOf rt (.int userId) request.http →
        ((answer rt (run rt s (before ++ ⟨.upgradeUser userId, req⟩ :: after)) request).status =
            401 ∨
          (answer rt (run rt s (before ++ ⟨.upgradeUser userId, req⟩ :: after)) request).status =
            403) ∧
        step rt (run rt s (before ++ ⟨.upgradeUser userId, req⟩ :: after)) request =
          run rt s (before ++ ⟨.upgradeUser userId, req⟩ :: after)) := by
  have resumed : ∀ request : Request, run rt s (before ++ request :: after) =
      run rt (step rt (run rt s before) request) after :=
    fun request => by simp [run, List.foldl_append]
  have first := run_identified rt start before
  have later := fun request : Request => first.effect (step_effect rt (run rt s before) request)
  constructor
  · intro deleted untouched request guarded bears
    have suspended := (suspended_of_deleteUser first deleted).run rt (later _) untouched
    have identified := run_identified rt (later ⟨.deleteUser userId, req⟩) after
    rw [resumed]
    exact suspended.refused identified guarded bears
  · intro upgraded plain untouched request guarded bears
    have demoted := (demoted_of_upgradeUser first upgraded plain).run rt untouched
    have identified := run_identified rt (later ⟨.upgradeUser userId, req⟩) after
    rw [resumed]
    exact demoted.refused identified guarded bears

theorem bears_second_user (endpoint : Endpoint) :
    BearsTokenOf plainRuntime (.int 2) (Request.bearing endpoint "ii").http := by
  intro token payload header decoded
  have given : (Request.bearing .logout "ii").http.bearerToken = .ok "ii" := by decide +kernel
  obtain rfl : token = "ii" := Except.ok.inj (header.symm.trans given)
  have known : plainRuntime.jwtDecode 0 "ii" = .ok [("user_id", .int 2)] := by decide +kernel
  rw [Except.ok.inj (decoded.symm.trans known)]
  rfl

/-- The first administrator deletes the second one, or makes a plain user of them. -/
theorem revocation_is_immediate_second_user :
    let admins := [Request.registration "sarah@example.com" "s3cret" "admin" 0,
      Request.registration "grace@example.com" "s3cret" "admin" 1]
    let toUser := Http.ofEntries (some "Bearer i") [("user_type", .str "user")] rfl 0
    let deleted := run plainRuntime Server.initial
      (admins ++ ⟨.deleteUser 2, toUser⟩ :: [Request.bearing .logout "i"])
    let demoted := run plainRuntime Server.initial
      (admins ++ ⟨.upgradeUser 2, toUser⟩ :: [Request.bearing .logout "i"])
    let profile := Request.bearing .getProfile "ii"
    let stats := Request.bearing .getAdminStats "ii"
    ((answer plainRuntime deleted profile).status = 401 ∧
      step plainRuntime deleted profile = deleted) ∧
    ((answer plainRuntime demoted stats).status = 401 ∨
      (answer plainRuntime demoted stats).status = 403) ∧
      step plainRuntime demoted stats = demoted := by
  intro admins toUser deleted demoted profile stats
  have revoked := @revocation_is_immediate plainRuntime _ identified_initial admins
    [Request.bearing .logout "i"] 2 toUser
  exact ⟨revoked.1 (by decide +kernel) (by decide) profile (.inl rfl) (bears_second_user _),
    revoked.2 (by decide +kernel) (by decide +kernel) (by decide) stats rfl (bears_second_user _)⟩

end UssdCredit
