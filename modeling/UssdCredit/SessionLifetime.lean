import UssdCredit.Tokens
import UssdCredit.Numerals
import UssdCredit.Library.Splits
import Mathlib.Logic.Equiv.Nat

/-! How long a token opens the protected routes: a day from the second of its issue, as long as its
account is active. Nothing else ends a session, and nothing prolongs it. -/

namespace UssdCredit

open Library Program Auth

/-- A token made here for an integer user_id is accepted before its `exp`, with that user_id, and
reported as expired from then on. -/
def Runtime.Expires (rt : Runtime) : Prop :=
  ∀ (now : Int) (userId : Nat) (userType : Value) (exp : Int),
    let decoded := rt.jwtDecode now (rt.jwtEncode ⟨.int userId, userType, exp⟩)
    (now < exp * 1000000 → ∃ payload, decoded = .ok payload ∧
      payload.lookup "user_id" = some (.int userId)) ∧
    (exp * 1000000 ≤ now → decoded = .error .expired)

/-- When the tokens issued for a request end: a day after the second it began in, so up to a second
before the day is full. -/
def sessionEnd (req : Http) : Int := (req.now / 1000000 + 86400) * 1000000

/-! The guard with such a token. -/

section Guard

variable {rt : Runtime} {req : Http} {s : Server} {token : String} {view : Document → Prog Response}

theorem jwtRequired_expired (given : req.bearerToken = .ok token)
    (expired : rt.jwtDecode req.now token = .error .expired) :
    (jwtRequired rt req view).run exec s = (.ok (message 401 "Token has expired"), s) := by
  unfold jwtRequired
  rw [given]
  dsimp only
  rw [expired]
  rfl

theorem jwtRequired_found {payload : Fields} {userId : Value} {account : Document}
    (given : req.bearerToken = .ok token) (decoded : rt.jwtDecode req.now token = .ok payload)
    (named : payload.lookup "user_id" = some userId)
    (found : s.users.findOne [.eq "id" userId] = .ok (some account)) :
    (jwtRequired rt req view).run exec s =
      if isActive account then (view account).run exec s
      else (.ok (message 401 "Account is suspended"), s) := by
  have resolved : resolve rt req s.users = some account := by
    unfold resolve tokenUser
    rw [given]
    dsimp only
    rw [decoded]
    dsimp only
    rw [named]
    dsimp only
    rw [found]
  cases active : isActive account with
  | true => exact run_jwtRequired_active resolved active
  | false => exact run_jwtRequired_inactive resolved active

end Guard

/-- In every run, whatever requests have come since a token was issued, with it or without it,
logouts, refreshes and password changes among them: until its session ends the token opens the
protected routes for its account exactly while that is active, and from then on for nobody. -/
theorem session_lasts_a_day {rt : Runtime} (expires : rt.Expires) {s : Server}
    (start : Identified s.users) (before : List Request) (request : Request) {token : String}
    {email : Value} (issues : Issues rt (run rt s before) request token email) :
    ∃ stored : Value, email = stored.mapScalar jsonScalar ∧
      ∀ (after : List Request) (req : Http) (view : Document → Prog Response),
        req.bearerToken = .ok token →
        let later := run rt s (before ++ request :: after)
        ∃ account ∈ later.users.docs, account.get? "email" = some stored ∧
          (∀ other ∈ later.users.docs, other.get? "email" = some stored → other = account) ∧
          (jwtRequired rt req view).run exec later =
            if req.now < sessionEnd request.http then
              if isActive account then (view account).run exec later
              else (.ok (message 401 "Account is suspended"), later)
            else (.ok (message 401 "Token has expired"), later) := by
  obtain ⟨d, member, userId, userType, stored, rfl, id, mail, shown⟩ := issues.session
  refine ⟨stored, shown, fun after req view given => ?_⟩
  have issued := (run_identified rt start before).effect (step_effect rt _ request)
  have identified := run_identified rt start (before ++ request :: after)
  rw [run_resumed] at identified ⊢
  obtain ⟨n, rfl, -, -⟩ := issued.bounded d member userId id
  obtain ⟨account, present, held, mail'⟩ := run_keeps_identity rt after ⟨d, member, id, mail⟩
  obtain ⟨accepted, refused⟩ := expires req.now n userType (request.http.now / 1000000 + 86400)
  refine ⟨account, present, mail',
    fun other there same => identified.emails other there account present stored same mail', ?_⟩
  by_cases within : req.now < sessionEnd request.http
  · obtain ⟨payload, decoded, named⟩ := accepted within
    rw [if_pos within]
    exact jwtRequired_found given decoded named (identified.findOne_id present held)
  · rw [if_neg within]
    exact jwtRequired_expired given (refused (not_lt.mp within))

/-! A runtime whose tokens show the user_id and the end of the session. -/

def datedToken (userId exp : Int) : String :=
  String.ofList ((toString userId).toList ++ '.' :: (toString (Equiv.intEquivNat exp : Int)).toList)

def readDated (now : Int) (token : String) : Except JwtError Fields :=
  match pyInt (String.ofList (firstPart '.' token.toList)),
      pyInt (String.ofList (lastPart '.' token.toList)) with
  | .ok userId, .ok exp =>
      if now < Equiv.intEquivNat.symm exp.toNat * 1000000 then .ok [("user_id", .int userId)]
      else .error .expired
  | _, _ => .error .invalid

theorem dot_free (n : Nat) : '.' ∉ (toString (n : Int)).toList := by
  intro member
  have shown : (toString (n : Int)).toList = Nat.toDigits 10 n := Nat.toList_repr
  rw [shown] at member
  cases Nat.isDigit_of_mem_toDigits (by decide) (by decide) member

theorem readDated_datedToken (now : Int) (userId : Nat) (exp : Int) :
    readDated now (datedToken userId exp) =
      if now < exp * 1000000 then .ok [("user_id", .int userId)] else .error .expired := by
  unfold readDated datedToken
  rw [String.toList_ofList, firstPart_append (dot_free userId), lastPart_append,
    lastPart_of_free (dot_free _), String.ofList_toList, String.ofList_toList, pyInt_toString,
    pyInt_toString]
  dsimp only
  rw [Int.toNat_natCast, Equiv.symm_apply_apply]

def datedRuntime : Runtime := { plainRuntime with
  jwtEncode claims := match claims.userId with
    | .int n => datedToken n claims.exp
    | _ => ""
  jwtDecode := readDated }

theorem datedRuntime_expires : datedRuntime.Expires := by
  intro now userId userType exp
  simp only [datedRuntime, readDated_datedToken]
  refine ⟨fun within => ?_, fun late => ?_⟩
  · rw [if_pos within]
    exact ⟨_, rfl, rfl⟩
  · exact if_neg (not_lt.mpr late)

/-- Sarah registers at the first moment of the clock. -/
theorem session_lasts_a_day_registered :
    ∃ stored : Value, Value.str "sarah@example.com" = stored.mapScalar jsonScalar ∧
      ∀ (after : List Request) (req : Http) (view : Document → Prog Response),
        req.bearerToken = .ok "1.172800" →
        let sarah := Request.registration "Sarah@example.com" "s3cret" "user" 0
        let later := run datedRuntime Server.initial (sarah :: after)
        ∃ account ∈ later.users.docs, account.get? "email" = some stored ∧
          (∀ other ∈ later.users.docs, other.get? "email" = some stored → other = account) ∧
          (jwtRequired datedRuntime req view).run exec later =
            if req.now < sessionEnd sarah.http then
              if isActive account then (view account).run exec later
              else (.ok (message 401 "Account is suspended"), later)
            else (.ok (message 401 "Token has expired"), later) :=
  session_lasts_a_day datedRuntime_expires identified_initial []
    (.registration "Sarah@example.com" "s3cret" "user" 0) ⟨.inl rfl, by decide +kernel, by decide +kernel⟩

end UssdCredit
