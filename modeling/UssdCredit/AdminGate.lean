import UssdCredit.Guards

/-! The administrator gate: an unauthorised request learns nothing about the state and
changes nothing in it. -/

namespace UssdCredit

open Auth

/-- The endpoints behind `admin_required`. -/
def Endpoint.requiresAdmin : Endpoint → Bool
  | .listUsers | .getUser _ | .updateUser _ | .deleteUser _ | .activateUser _ | .upgradeUser _
  | .getAdminStats | .adminListInfluencers | .adminCreateInfluencer | .adminUpdateInfluencer _
  | .adminDeleteInfluencer _ => true
  | _ => false

/-- The endpoints behind `jwt_required` alone. -/
def Endpoint.requiresLogin : Endpoint → Bool
  | .getProfile | .updateProfile | .changePassword | .logout => true
  | _ => false

theorem handler_of_requiresAdmin (rt : Runtime) {request : Request}
    (guarded : request.endpoint.requiresAdmin = true) :
    ∃ view, handler rt request = adminRequired rt request.http view := by
  obtain ⟨endpoint, http⟩ := request
  cases endpoint <;> first
    | exact absurd guarded Bool.false_ne_true
    | exact ⟨_, rfl⟩

theorem handler_of_requiresLogin (rt : Runtime) {request : Request}
    (guarded : request.endpoint.requiresLogin = true) :
    ∃ view, handler rt request = jwtRequired rt request.http view := by
  obtain ⟨endpoint, http⟩ := request
  cases endpoint <;> first
    | exact absurd guarded Bool.false_ne_true
    | exact ⟨_, rfl⟩

/-- The refusal depends on the header, the clock and the document found. -/
theorem adminRefusal_of_header {rt : Runtime} {req req' : Http}
    (same_header : req.authorization = req'.authorization) (same_clock : req.now = req'.now)
    (found : Option Document) : adminRefusal rt req found = adminRefusal rt req' found := by
  have same_token : req.bearerToken = req'.bearerToken := by
    unfold Http.bearerToken
    rw [same_header]
  unfold adminRefusal jwtRefusal
  rw [same_token, same_clock]

theorem resolve_of_header (rt : Runtime) {req req' : Http}
    (same_header : req.authorization = req'.authorization) (same_clock : req.now = req'.now)
    (users : Collection) : resolve rt req users = resolve rt req' users := by
  have same_token : req.bearerToken = req'.bearerToken := by
    unfold Http.bearerToken
    rw [same_header]
  unfold resolve tokenUser
  rw [same_token, same_clock]

theorem serve_refused {rt : Runtime} {s : Server} {request : Request}
    (guarded : request.endpoint.requiresAdmin = true)
    (refused : (resolve rt request.http s.users).any (fun d => isActive d && isAdmin d) = false) :
    (handler rt request).serve s =
      (adminRefusal rt request.http (resolve rt request.http s.users), s) := by
  obtain ⟨view, same⟩ := handler_of_requiresAdmin rt guarded
  rw [same]
  exact run_adminRequired_refused refused

/-- Two requests with one header at one time, to administrator endpoints of any kind with any
parameters and bodies, in two states that agree on the document the token resolves to: if
that document is no active administrator, they are answered alike and change nothing. -/
theorem unauthorised_requests_agree (rt : Runtime) {request request' : Request} {s s' : Server}
    (guarded : request.endpoint.requiresAdmin = true)
    (guarded' : request'.endpoint.requiresAdmin = true)
    (same_header : request.http.authorization = request'.http.authorization)
    (same_clock : request.http.now = request'.http.now)
    (agree : resolve rt request.http s.users = resolve rt request.http s'.users)
    (refused : (resolve rt request.http s.users).any (fun d => isActive d && isAdmin d) = false) :
    answer rt s request = answer rt s' request' ∧ step rt s request = s ∧
      step rt s' request' = s' := by
  have moved := resolve_of_header rt same_header same_clock s'.users
  have left := serve_refused guarded refused
  have right : (handler rt request').serve s' =
      (adminRefusal rt request'.http (resolve rt request'.http s'.users), s') :=
    serve_refused guarded' (by rw [← moved, ← agree]; exact refused)
  unfold answer step
  rw [left, right, ← moved, ← agree, adminRefusal_of_header same_header same_clock]
  exact ⟨rfl, rfl, rfl⟩

/-- A plain user tries to delete a user, and to list the users of another state. -/
theorem unauthorised_requests_agree_plain_user :
    let s := run plainRuntime Server.initial [.registration "sarah@example.com" "s3cret" "user" 0]
    let s' : Server := { s with influencersDb := [] }
    let request := Request.bearing (.deleteUser 7) "i"
    let request' := Request.bearing .listUsers "i"
    answer plainRuntime s request = answer plainRuntime s' request' ∧
      step plainRuntime s request = s ∧ step plainRuntime s' request' = s' :=
  unauthorised_requests_agree plainRuntime rfl rfl rfl rfl rfl (by decide +kernel)

end UssdCredit
