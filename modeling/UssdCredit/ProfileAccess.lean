import UssdCredit.Tokens

/-! The profile of a token's account: the document the view gets still holds its ObjectId, and
no answer with it can be serialised. -/

namespace UssdCredit

open Library Program

variable {rt : Runtime} {s : Server} {req : Http}

/-- The profile is shown with what is stored of the account. -/
structure OpensProfile (rt : Runtime) (s : Server) (req : Http) (account : Document) : Prop where
  ok : (answer rt s ⟨.getProfile, req⟩).status = 200
  user : ∀ key ∈ ["id", "email", "first_name", "last_name", "user_type"],
    (answer rt s ⟨.getProfile, req⟩).userField? key =
      (account.get? key).map fun stored => stored.mapScalar jsonScalar

def notSerializable : PyExn := ⟨.typeError, "Object of type ObjectId is not JSON serializable"⟩

theorem run_getProfile (currentUser : Document) :
    (Auth.getProfile currentUser).run exec s = (.error notSerializable, s) := rfl

/-- The guard turns the request down, or the view raises. -/
theorem getProfile_status (rt : Runtime) (s : Server) (req : Http) :
    (answer rt s ⟨.getProfile, req⟩).status ≠ 200 := by
  have cases : Post exec (Auth.jwtRequired rt req Auth.getProfile) s
      fun outcome _ => (Outcome.answer outcome).status ≠ 200 := by
    refine Auth.post_jwtRequired (fun outcome refused => ?_) fun currentUser _ _ => ?_
    · have high := refused.answer_status
      omega
    · change (Outcome.answer (.error notSerializable)).status ≠ 200
      decide
  exact cases

/-- Whatever token a request issues: as long as it is accepted and its account active, a
profile request with it raises, and the profile is not shown. -/
theorem issued_token_never_opens_profile (decodes : rt.DecodesEncoded) (before : List Request)
    (request : Request) {token : String} {email : Value}
    (issues : Issues rt (run rt (s.setCollection .users .empty) before) request token email)
    (after : List Request) (bearing : req.bearerToken = .ok token) {payload : Fields}
    (accepted : rt.jwtDecode req.now token = .ok payload) :
    let later := run rt (s.setCollection .users .empty) (before ++ request :: after)
    ∃ account, Auth.resolve rt req later.users = some account ∧ ¬OpensProfile rt later req account ∧
      (Auth.isActive account = true →
        ((handler rt ⟨.getProfile, req⟩).serve later).1 = .error notSerializable) := by
  intro later
  have start : Identified (s.setCollection .users .empty).users := by
    rw [users_setCollection]
    exact identified_initial
  obtain ⟨d, member, userId, userType, stored, rfl, id, mail, -⟩ := issues.session
  have issued := (run_identified rt start before).effect (step_effect rt _ request)
  obtain ⟨account, -, named, found, -⟩ := findOne_issued decodes issued member id mail after accepted
  rw [← run_resumed] at found
  have resolved : Auth.resolve rt req later.users = some account := by
    have user : Auth.tokenUser rt req = some userId := by
      simp only [Auth.tokenUser, bearing, accepted, named]
    simp only [Auth.resolve, user, later, found]
  refine ⟨account, resolved, fun shown => getProfile_status rt later req shown.ok, fun active => ?_⟩
  exact congrArg Prod.fst ((Auth.run_jwtRequired_active resolved active).trans (run_getProfile account))

/-- The first user asks for the profile right after the registration. -/
def profileRequest : Http := (Request.bearing .getProfile "i").http

theorem issued_token_never_opens_profile_registered :
    let registration := Request.registration "sarah@example.com" "s3cret" "user" 1
    let later := run plainRuntime (Server.initial.setCollection .users .empty) [registration]
    ∃ account, Auth.resolve plainRuntime profileRequest later.users = some account ∧
      ¬OpensProfile plainRuntime later profileRequest account ∧
      (Auth.isActive account = true →
        ((handler plainRuntime ⟨.getProfile, profileRequest⟩).serve later).1 = .error notSerializable) :=
  @issued_token_never_opens_profile plainRuntime Server.initial profileRequest plainRuntime_decodesEncoded []
    (Request.registration "sarah@example.com" "s3cret" "user" 1) "i" (.str "sarah@example.com")
    ⟨.inl rfl, by decide +kernel, by decide +kernel⟩ [] (by decide +kernel) _ (by rfl)

/-- A new account and its token: the guard passes, and the answer is 500. -/
theorem profile_of_fresh_token_fails :
    let registration := Request.registration "sarah@example.com" "s3cret" "user" 1
    let later := run plainRuntime Server.initial [registration]
    (answer plainRuntime Server.initial registration).token? = some "i" ∧
      (Auth.resolve plainRuntime profileRequest later.users).any Auth.isActive = true ∧
      (answer plainRuntime later ⟨.getProfile, profileRequest⟩).status = 500 := by
  decide +kernel

end UssdCredit
