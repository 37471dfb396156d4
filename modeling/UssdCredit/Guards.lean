import UssdCredit.Routes

/-! What stands between a request and the view of a protected route. The guard depends on
the header, the clock and the one document the token names, and on nothing else. -/

namespace UssdCredit.Auth

open Library (Program)

/-- The `user_id` of the token a request carries, if the token is accepted. -/
def tokenUser (rt : Runtime) (req : Http) : Option Value :=
  match req.bearerToken with
  | .error _ => none
  | .ok token =>
      match rt.jwtDecode req.now token with
      | .error _ => none
      | .ok payload => payload.lookup "user_id"

/-- The user document the token of a request resolves to. -/
def resolve (rt : Runtime) (req : Http) (users : Collection) : Option Document :=
  match tokenUser rt req with
  | none => none
  | some userId =>
      match users.findOne [.eq "id" userId] with
      | .ok found => found
      | .error _ => none

def isActive (d : Document) : Bool := (d.get "is_active" (.bool true)).truthy

def isAdmin (d : Document) : Bool := (d.get "user_type" .null).pyEq (.str "admin")

/-- What the login guard answers in place of the view. -/
def jwtRefusal (rt : Runtime) (req : Http) (found : Option Document) : Outcome :=
  match req.bearerToken with
  | .error refusal => .ok refusal
  | .ok token =>
      match rt.jwtDecode req.now token with
      | .error .expired => .ok (message 401 "Token has expired")
      | .error .invalid => .ok (message 401 "Invalid token")
      | .ok payload =>
          match (Value.dict payload).pyIndex "user_id" with
          | .error e => .error e
          | .ok userId =>
              match Filter.bsonError [.eq "id" userId] with
              | some e => .error e
              | none =>
                  .ok (message 401
                    (if found.isNone then "User not found" else "Account is suspended"))

/-- What the administrator guard answers in place of the view. -/
def adminRefusal (rt : Runtime) (req : Http) (found : Option Document) : Outcome :=
  if found.any isActive then .ok (message 403 "Admin access required")
  else jwtRefusal rt req found

variable {rt : Runtime} {req : Http} {s : Server} {view : Document → Prog Response}

/-- The guard runs the view on the active document the token resolves to, and otherwise
answers by itself without touching the state. -/
theorem run_jwtRequired :
    (jwtRequired rt req view).run exec s =
      match resolve rt req s.users with
      | none => (jwtRefusal rt req none, s)
      | some currentUser =>
          if isActive currentUser then (view currentUser).run exec s
          else (jwtRefusal rt req (some currentUser), s) := by
  unfold jwtRequired resolve tokenUser jwtRefusal
  cases header : req.bearerToken with
  | error refusal => rfl
  | ok token =>
    cases decoded : rt.jwtDecode req.now token with
    | error e => cases e <;> simp [decoded] <;> rfl
    | ok payload =>
      cases named : payload.lookup "user_id" with
      | none => simp [decoded, named, Value.pyIndex]; rfl
      | some userId =>
        have current : (Value.dict payload).pyIndex "user_id" = .ok userId := Value.pyIndex_held named
        simp only [decoded, current, named]
        rw [Program.run_lift_bind exec rfl]
        cases encodes : Filter.bsonError [.eq "id" userId] with
        | some e =>
          simp only [Collection.findOne, encodes]
          exact Program.run_perform_error (exec_findOne_error encodes) _
        | none =>
          rw [run_findOne encodes]
          simp only [Collection.findOne, encodes]
          cases s.users.first? [.eq "id" userId] with
          | none => rfl
          | some currentUser =>
            unfold isActive
            simp only [Option.isNone_some, Bool.false_eq_true, if_false]
            split_ifs <;> rfl

theorem run_jwtRequired_active {currentUser : Document}
    (resolved : resolve rt req s.users = some currentUser) (active : isActive currentUser = true) :
    (jwtRequired rt req view).run exec s = (view currentUser).run exec s := by
  rw [run_jwtRequired, resolved]
  exact if_pos active

/-- A request that resolves to a user can only be refused for the user's being suspended. -/
theorem jwtRefusal_resolved {users : Collection} {d : Document} (resolved : resolve rt req users = some d) :
    jwtRefusal rt req (some d) = .ok (message 401 "Account is suspended") := by
  unfold resolve tokenUser at resolved
  unfold jwtRefusal
  cases header : req.bearerToken with
  | error refusal => simp only [header] at resolved; cases resolved
  | ok token =>
    cases decoded : rt.jwtDecode req.now token with
    | error e => simp only [header, decoded] at resolved; cases resolved
    | ok payload =>
      simp only [header, decoded] at resolved
      cases named : payload.lookup "user_id" with
      | none => simp only [named] at resolved; cases resolved
      | some userId =>
        simp only [named, Collection.findOne] at resolved
        cases encodes : Filter.bsonError [.eq "id" userId] with
        | some e => simp only [encodes] at resolved; cases resolved
        | none =>
          simp only [decoded, Value.pyIndex_held named, encodes]
          rfl

theorem run_jwtRequired_inactive {currentUser : Document}
    (resolved : resolve rt req s.users = some currentUser) (inactive : isActive currentUser = false) :
    (jwtRequired rt req view).run exec s = (.ok (message 401 "Account is suspended"), s) := by
  rw [run_jwtRequired, resolved]
  dsimp only
  rw [inactive, jwtRefusal_resolved resolved]
  rfl

theorem run_jwtRequired_refused (refused : (resolve rt req s.users).any isActive = false) :
    (jwtRequired rt req view).run exec s = (jwtRefusal rt req (resolve rt req s.users), s) := by
  rw [run_jwtRequired]
  cases resolved : resolve rt req s.users with
  | none => rfl
  | some currentUser =>
    rw [resolved] at refused
    exact if_neg (by simpa using refused)

/-- An administrator endpoint runs its view only on an active administrator. -/
theorem run_adminRequired_refused
    (refused : (resolve rt req s.users).any (fun d => isActive d && isAdmin d) = false) :
    (adminRequired rt req view).run exec s = (adminRefusal rt req (resolve rt req s.users), s) := by
  unfold adminRequired adminRefusal
  cases active : (resolve rt req s.users).any isActive with
  | false => rw [run_jwtRequired_refused active]; rfl
  | true =>
    cases resolved : resolve rt req s.users with
    | none => simp [resolved] at active
    | some currentUser =>
      simp only [resolved, Option.any_some] at active refused
      rw [run_jwtRequired_active resolved active]
      have plain : ¬(currentUser.get "user_type" .null).pyEq (.str "admin") = true := by
        simpa [active, isAdmin] using refused
      simp only [if_neg plain]
      rfl

theorem run_adminRequired_admin {currentUser : Document}
    (resolved : resolve rt req s.users = some currentUser) (active : isActive currentUser = true)
    (admin : isAdmin currentUser = true) :
    (adminRequired rt req view).run exec s = (view currentUser).run exec s := by
  unfold adminRequired
  have role : (currentUser.get "user_type" .null).pyEq (.str "admin") = true := admin
  rw [run_jwtRequired_active resolved active, if_pos role]

/-! What the guard answers. -/

theorem jwtRefusal_message {found : Option Document} {response : Response}
    (refused : jwtRefusal rt req found = .ok response) : ∃ text, response = message 401 text := by
  unfold jwtRefusal at refused
  cases header : req.bearerToken with
  | error refusal =>
    simp only [header, Except.ok.injEq] at refused
    exact refused ▸ Http.bearerToken_error header
  | ok token =>
    cases decoded : rt.jwtDecode req.now token with
    | error e =>
      cases e <;> simp only [header, decoded, Except.ok.injEq] at refused <;>
        exact ⟨_, refused.symm⟩
    | ok payload =>
      simp only [header, decoded] at refused
      split at refused
      · cases refused
      · split at refused
        · cases refused
        · exact ⟨_, (Except.ok.inj refused).symm⟩

theorem jwtRefusal_isRefusal (found : Option Document) :
    IsRefusal (jwtRefusal rt req found) := by
  intro response refused
  obtain ⟨text, same⟩ := jwtRefusal_message refused
  exact ⟨401, text, same, by decide⟩

/-! Postconditions. -/

/-- To show something of a protected route: it holds of every refusal and every exception in
the unchanged state, and of the view on the active user. -/
theorem post_jwtRequired {Q : Outcome → Server → Prop}
    (refused : ∀ outcome : Outcome, IsRefusal outcome → Q outcome s)
    (entered : ∀ currentUser, resolve rt req s.users = some currentUser →
      isActive currentUser = true → Program.Post exec (view currentUser) s Q) :
    Program.Post exec (jwtRequired rt req view) s Q := by
  unfold Program.Post
  cases active : (resolve rt req s.users).any isActive with
  | false =>
    rw [run_jwtRequired_refused active]
    exact refused _ (jwtRefusal_isRefusal _)
  | true =>
    cases resolved : resolve rt req s.users with
    | none => simp [resolved] at active
    | some currentUser =>
      rw [resolved, Option.any_some] at active
      rw [run_jwtRequired_active resolved active]
      exact entered currentUser resolved active

theorem post_adminRequired {Q : Outcome → Server → Prop}
    (refused : ∀ outcome : Outcome, IsRefusal outcome → Q outcome s)
    (entered : ∀ currentUser, resolve rt req s.users = some currentUser →
      isActive currentUser = true → isAdmin currentUser = true →
      Program.Post exec (view currentUser) s Q) :
    Program.Post exec (adminRequired rt req view) s Q := by
  refine post_jwtRequired refused fun currentUser resolved active => ?_
  split_ifs with admin
  · exact entered currentUser resolved active admin
  · exact refused _ (isRefusal_message (by decide) _)

theorem resolve_mem {users : Collection} {d : Document} (resolved : resolve rt req users = some d) :
    d ∈ users.docs ∧ ∃ userId, tokenUser rt req = some userId ∧
      userId.matchesField (d.get? "id") = true := by
  unfold resolve at resolved
  cases named : tokenUser rt req with
  | none => simp [named] at resolved
  | some userId =>
    simp only [named] at resolved
    split at resolved
    · next found looked =>
      subst resolved
      obtain ⟨member, matched⟩ := Collection.first?_mem (Collection.findOne_ok looked)
      exact ⟨member, userId, rfl, by simpa [Document.satisfies, Condition.holds] using matched⟩
    · cases resolved

end UssdCredit.Auth
