import UssdCredit.Python

/-! Requests as the handlers see them, responses, and the Flask behaviour around a
handler: parsing the body and answering for an exception it lets through. -/

namespace UssdCredit

/-- A parsed JSON text. -/
structure Json where
  value : Value
  isJson : value.isJson = true

/-- One request, with what the handler takes from outside while it runs: its reading of
the clock, the salt of a password hash and the ObjectId of an inserted document. A body
that is no JSON text is `none`. -/
structure Http where
  authorization : Option String
  body : Option Json
  args : List (String × String)
  now : Int
  salt : Nat
  oid : Nat

structure Response where
  status : Nat
  body : Value
  deriving DecidableEq

/-- axios resolves for these and throws for the others. -/
def Response.succeeds (response : Response) : Bool := 200 ≤ response.status && response.status < 300

/-- What a view function ends with: a response, or an exception it did not catch. -/
abbrev Outcome := Except PyExn Response

/-- `jsonify` writes datetimes as HTTP dates. -/
def jsonScalar : Scalar → Scalar
  | .datetime t => .str (httpDate t)
  | s => s

/-- `jsonify(body), status`. -/
def jsonify (status : Nat) (body : Value) : Response := ⟨status, body.mapScalar jsonScalar⟩

/-- `jsonify({'message': text}), status`. -/
def message (status : Nat) (text : String) : Response := ⟨status, .dict [("message", .str text)]⟩

/-- Flask's answer for an uncaught exception. -/
def PyExn.answer (e : PyExn) : Response :=
  if e.kind = .badRequest then ⟨400, .str "Bad Request"⟩ else ⟨500, .str "Internal Server Error"⟩

theorem PyExn.answer_fails (e : PyExn) : e.answer.succeeds = false := by
  unfold PyExn.answer
  split_ifs <;> rfl

/-- What the client receives. -/
def Outcome.answer : Outcome → Response
  | .ok response => response
  | .error e => e.answer

/-- A view that was refused: it raised, or it answered with an error message. -/
def IsRefusal (outcome : Outcome) : Prop :=
  ∀ response, outcome = .ok response →
    ∃ status text, response = message status text ∧ 400 ≤ status

theorem isRefusal_message {status : Nat} (high : 400 ≤ status) (text : String) :
    IsRefusal (.ok (message status text)) :=
  fun _ same => ⟨status, text, (Except.ok.inj same).symm, high⟩

theorem isRefusal_error (e : PyExn) : IsRefusal (.error e) := nofun

theorem IsRefusal.answer_status {outcome : Outcome} (refused : IsRefusal outcome) :
    400 ≤ (Outcome.answer outcome).status := by
  cases outcome with
  | ok response =>
    obtain ⟨status, text, rfl, high⟩ := refused response rfl
    exact high
  | error e =>
    change 400 ≤ e.answer.status
    unfold PyExn.answer
    split_ifs <;> decide

/-- Only a response of the view itself has status 200. -/
theorem Outcome.ok_of_status {outcome : Outcome} (ok : (Outcome.answer outcome).status = 200) :
    outcome = .ok (Outcome.answer outcome) := by
  cases outcome with
  | ok response => rfl
  | error e =>
    change e.answer.status = 200 at ok
    unfold PyExn.answer at ok
    split_ifs at ok <;> cases ok

def badRequest : PyExn :=
  ⟨.badRequest, "400 Bad Request: The browser (or proxy) sent a request that this server could " ++
    "not understand."⟩

namespace Http

/-- A request with a JSON object as its body. -/
def ofEntries (authorization : Option String) (entries : Fields)
    (isJson : (Value.dict entries).isJson = true) (oid : Nat) : Http where
  authorization
  body := some ⟨.dict entries, isJson⟩
  args := []
  now := 0
  salt := 0
  oid

/-- `request.get_json(force=True) or {}`. -/
def getJson (req : Http) : Except PyExn Value :=
  match req.body with
  | none => .error badRequest
  | some json => .ok (if json.value.truthy then json.value else .dict [])

theorem entries_unique {req : Http} {entries entries' : Fields}
    (parsed : req.getJson = .ok (.dict entries)) (parsed' : req.getJson = .ok (.dict entries')) :
    entries = entries' := Value.dict.inj (Except.ok.inj (parsed.symm.trans parsed'))

/-- What a JSON object in the body holds under a key. -/
def field (req : Http) (key : String) : Option Value :=
  match req.getJson with
  | .ok (.dict entries) => entries.lookup key
  | _ => none

theorem field_dict {req : Http} {entries : Fields} (parsed : req.getJson = .ok (.dict entries)) (key : String) :
    req.field key = entries.lookup key := by
  simp only [field, parsed]

theorem field_of_not_dict {req : Http} {data : Value} (parsed : req.getJson = .ok data)
    (other : ∀ entries, data ≠ .dict entries) (key : String) : req.field key = none := by
  cases data with
  | dict entries => exact absurd rfl (other entries)
  | scalar s => simp only [field, parsed]
  | list items => simp only [field, parsed]

theorem field_getD {req : Http} {data item default : Value} {key : String} (parsed : req.getJson = .ok data)
    (found : data.pyGet key default = .ok item) : (req.field key).getD default = item := by
  obtain ⟨entries, rfl, given⟩ := Value.pyGet_ok found
  rwa [field_dict parsed]

theorem field_of_pyIndex {req : Http} {data item : Value} {key : String}
    (parsed : req.getJson = .ok data) (found : data.pyIndex key = .ok item) :
    req.field key = some item := by
  obtain ⟨entries, rfl, present⟩ := Value.pyIndex_ok found
  simp only [field, parsed, present]

/-- `request.args.get(name)`: the first value wins. -/
def arg (req : Http) (name : String) : Option String := req.args.lookup name

/-- `datetime.utcnow()` as a stored field: the database keeps milliseconds. -/
def utcnow (req : Http) : Value := .datetime (req.now - req.now % 1000)

/-- The token part of the Authorization header, or the response without one. -/
def bearerToken (req : Http) : Except Response String :=
  match req.authorization with
  | none => .error (message 401 "Token is missing")
  | some header =>
      match header.toList.splitOn ' ' with
      | _ :: token :: _ =>
          if token = [] then .error (message 401 "Token is missing") else .ok (String.ofList token)
      | _ => .error (message 401 "Invalid token format")

theorem getJson_isJson {req : Http} {data : Value} (parsed : req.getJson = .ok data) :
    data.isJson = true := by
  unfold getJson at parsed
  split at parsed
  · cases parsed
  · next json _ =>
    rw [← Except.ok.inj parsed]
    split_ifs
    · exact json.isJson
    · rfl

theorem bearerToken_error {req : Http} {response : Response}
    (refused : req.bearerToken = .error response) : ∃ text, response = message 401 text := by
  unfold bearerToken at refused
  split at refused
  · exact ⟨_, (Except.error.inj refused).symm⟩
  · split at refused
    · split_ifs at refused
      exact ⟨_, (Except.error.inj refused).symm⟩
    · exact ⟨_, (Except.error.inj refused).symm⟩

end Http

end UssdCredit
