import UssdCredit.Collection

/-! What the handlers take from the libraries around them: case folding, password hashes,
tokens and the parts of the database driver that are not a matter of documents. -/

namespace UssdCredit

inductive JwtError where
  | expired
  | invalid
  deriving DecidableEq

/-- The payload of a token; `exp` counts seconds. -/
structure Claims where
  userId : Value
  userType : Value
  exp : Int

/-- What the handlers call without looking inside: the results hold for all such functions or name
what they rely on, and the tables and the arithmetic behind them stay out of the model. -/
structure Runtime where
  /-- `str.lower`, by the tables of the Unicode version at hand. -/
  lower : String → String
  /-- The hash of a password under a salt, and the comparison of a hash with a password. -/
  hash : Nat → String → String
  checkHash : String → Value → Except PyExn Bool
  /-- HS256 under the application's secret; decoding reads the clock. -/
  jwtEncode : Claims → String
  jwtDecode : Int → String → Except JwtError Fields
  /-- `bool(mongo_db)`: the driver's `Database` raises NotImplementedError. -/
  mongoTruth : Except PyExn Bool
  /-- A case-insensitive `$regex`; the server rejects a malformed pattern. -/
  regex : String → Except PyExn (Value → Bool)
  /-- The order of BSON values, absent ones first. -/
  bsonLe : Option Value → Option Value → Bool
  /-- `float(v)`: it parses texts and rounds to a double. -/
  float : Value → Except PyExn PyFloat

namespace Runtime

/-- A hash passes for the password it was made from, and for no other text. -/
def HashExact (rt : Runtime) : Prop :=
  ∀ salt password attempt,
    rt.checkHash (rt.hash salt password) (.str attempt) = .ok (decide (password = attempt))

/-- A token that is accepted carries the user_id it was encoded with. -/
def DecodesEncoded (rt : Runtime) : Prop :=
  ∀ now claims payload, rt.jwtDecode now (rt.jwtEncode claims) = .ok payload →
    payload.lookup "user_id" = some claims.userId

end Runtime

variable (rt : Runtime)

/-- `generate_password_hash(password)`. -/
def generatePasswordHash (salt : Nat) (password : Value) : Except PyExn Value := do
  let text ← password.pyStr "encode"
  return .str (rt.hash salt text)

/-- `check_password_hash(pwhash, password)`. -/
def checkPasswordHash (pwhash password : Value) : Except PyExn Bool := do
  let text ← pwhash.pyStr "split"
  rt.checkHash text password

/-- The token of an account, valid for twenty-four hours. -/
def encodeToken (req : Http) (userId userType : Value) : Except PyExn String :=
  if userId.isJson ∧ userType.isJson then
    .ok (rt.jwtEncode ⟨userId, userType, req.now / 1000000 + 86400⟩)
  else .error ⟨.typeError, "Object of type datetime is not JSON serializable"⟩

variable {rt}

theorem generatePasswordHash_ok {salt : Nat} {password pwhash : Value}
    (hashed : generatePasswordHash rt salt password = .ok pwhash) :
    ∃ text, password = .str text ∧ pwhash = .str (rt.hash salt text) := by
  unfold generatePasswordHash at hashed
  cases readable : password.pyStr "encode" with
  | error e => simp [readable, bind, Except.bind] at hashed
  | ok text =>
    simp only [readable, bind, Except.bind, pure, Except.pure, Except.ok.injEq] at hashed
    exact ⟨text, Value.pyStr_ok readable, hashed.symm⟩

/-- Checking a text against the hash of a password. -/
theorem checkPasswordHash_hash (exact : rt.HashExact) (salt : Nat) (password attempt : String) :
    checkPasswordHash rt (.str (rt.hash salt password)) (.str attempt) =
      .ok (decide (password = attempt)) := by
  simp [checkPasswordHash, Value.pyStr, bind, Except.bind, exact salt password attempt]

theorem encodeToken_ok {req : Http} {userId userType : Value} {token : String}
    (encoded : encodeToken rt req userId userType = .ok token) :
    token = rt.jwtEncode ⟨userId, userType, req.now / 1000000 + 86400⟩ := by
  unfold encodeToken at encoded
  split_ifs at encoded
  exact (Except.ok.inj encoded).symm

theorem encodeToken_int (req : Http) (userId : Int) {userType : Value}
    (json : userType.isJson = true) :
    encodeToken rt req (.int userId) userType =
      .ok (rt.jwtEncode ⟨.int userId, userType, req.now / 1000000 + 86400⟩) :=
  if_pos ⟨rfl, json⟩

/-! A runtime to run the server with: passwords are their own hashes, the token of user
`n` is `n` strokes, patterns are literal texts, and the database is available. -/

def plainRuntime : Runtime where
  lower := String.toLower
  hash _ password := password
  checkHash pwhash attempt := do return decide ((← attempt.pyStr "encode") = pwhash)
  jwtEncode claims := match claims.userId with
    | .int n => String.ofList (List.replicate n.toNat 'i')
    | _ => ""
  jwtDecode _ token :=
    if token.toList ≠ [] ∧ token.toList.all (· = 'i') then
      .ok [("user_id", .int token.toList.length)]
    else .error .invalid
  mongoTruth := .ok true
  regex pattern := .ok fun
    | .str s => decide (pattern.toList <:+: s.toList)
    | _ => false
  bsonLe
    | none, _ => true
    | some (.datetime t), some (.datetime t') => decide (t ≤ t')
    | some _, _ => false
  float
    | .int n => .ok (.finite n)
    | .float x => .ok x
    | v => .error ⟨.typeError,
        s!"float() argument must be a string or a real number, not '{v.typeName}'"⟩

theorem plainRuntime_hashExact : plainRuntime.HashExact := by
  intro salt password attempt
  change Except.ok (decide (attempt = password)) = _
  exact congrArg Except.ok (decide_eq_decide.mpr eq_comm)

theorem plainRuntime_decodesEncoded : plainRuntime.DecodesEncoded := by
  intro now claims payload decoded
  simp only [plainRuntime] at decoded
  split at decoded
  · next n named =>
    split_ifs at decoded with accepted
    rw [← Except.ok.inj decoded, named]
    have positive : 0 < n.toNat := by
      by_contra none
      simp [Nat.eq_zero_of_not_pos none] at accepted
    simp only [String.toList_ofList, List.length_replicate, List.lookup_cons_self]
    congr 3
    omega
  · simp at decoded

end UssdCredit
