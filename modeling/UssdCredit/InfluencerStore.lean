import UssdCredit.Library.Records
import UssdCredit.Auth

/-! The influencers the process keeps in memory, and the routes that read and change them:
those of the administrators, the public ones and the one that adds the demo records. -/

namespace UssdCredit

/-- The list the module starts with. -/
def initialInfluencers : List Influencer := [{
  id := 1
  name := .str "Test Influencer"
  phone := .str "+254700000000"
  received := .int 1000
  imageUrl := .str ""
  ussdShortcode := none
  createdAt := none }]

def Influencer.toJson (inf : Influencer) : Value :=
  .dict ([("id", .int inf.id), ("name", inf.name), ("phone", inf.phone),
      ("received", inf.received), ("imageUrl", inf.imageUrl)] ++
    (inf.ussdShortcode.map fun code => ("ussd_shortcode", code)).toList ++
    (inf.createdAt.map fun t => ("created_at", Value.str t)).toList)

/-- `max(inf["id"] for inf in INFLUENCERS_DB) + 1 if INFLUENCERS_DB else 1`. -/
def nextInfluencerId (db : List Influencer) : Int :=
  Library.Records.nextId (db.map Influencer.id)

/-- `any(inf["phone"] == phone for inf in INFLUENCERS_DB)`. -/
def phoneTaken (phone : Value) (db : List Influencer) : Bool :=
  db.any fun inf => inf.phone.pyEq phone

namespace AdminInfluencers

variable (rt : Runtime) (req : Http)

def adminListInfluencers : Prog Response := do
  let db ← perform .readInfluencers
  return jsonify 200 (.dict [
    ("total", .int db.length),
    ("influencers", .list (db.map Influencer.toJson))])

/-- `jsonify({"error": text}), status`. -/
def error (status : Nat) (text : String) : Response := ⟨status, .dict [("error", .str text)]⟩

def adminCreateInfluencer : Prog Response := do
  let payload ← req.getJson
  let missing ← payload.missingField ["name", "phone"]
  match missing with
  | some field => return error 400 s!"Missing required field: {field}"
  | none =>
      let phone ← payload.pyIndex "phone"
      let db ← perform .readInfluencers
      if phoneTaken phone db then return error 409 "Phone number already exists"
      else
        let newInfluencer : Influencer := {
          id := nextInfluencerId db
          name := ← payload.pyIndex "name"
          phone
          received := ← payload.pyGet "received" (.int 0)
          imageUrl := ← payload.pyGet "imageUrl" (.str "")
          ussdShortcode := some (← payload.pyGet "ussd_shortcode" (.str ""))
          createdAt := some "2025-08-10T20:00:00Z" }
        perform (.writeInfluencers (db ++ [newInfluencer]))
        return jsonify 201 (.dict [
          ("message", .str "Influencer created successfully"),
          ("influencer", newInfluencer.toJson)])

/-- The loop for the record with an id: the first one that has it. -/
def findInfluencer (influencerId : Int) (db : List Influencer) : Option Influencer :=
  Library.Records.find Influencer.id influencerId db

/-- `if key in payload: influencer[key] = payload[key]`. The record is the one found by its
id, which no assignment changes. -/
def assign (payload : Value) (key : String) (influencerId : Int)
    (write : Value → Influencer → Influencer) : Prog Unit := do
  let present ← Value.pyIn key payload
  if present then
    let value ← payload.pyIndex key
    let db ← perform .readInfluencers
    perform (.writeInfluencers (Library.Records.modify Influencer.id influencerId (write value) db))
  else return ()

/-- The phone of the payload, if it has one, belongs to a record with another id. -/
def phoneConflict (payload : Value) (influencerId : Int) : Prog Bool := do
  let present ← Value.pyIn "phone" payload
  if present then
    let phone ← payload.pyIndex "phone"
    let db ← perform .readInfluencers
    return db.any fun inf => inf.phone.pyEq phone && inf.id ≠ influencerId
  else return false

def adminUpdateInfluencer (influencerId : Nat) : Prog Response := do
  let payload ← req.getJson
  let db ← perform .readInfluencers
  match findInfluencer influencerId db with
  | none => return error 404 "Influencer not found"
  | some influencer =>
      assign payload "name" influencerId fun name inf => { inf with name }
      let conflict ← phoneConflict payload influencerId
      -- A new name stays although the request is refused.
      if conflict then return error 409 "Phone number already exists"
      else
        assign payload "phone" influencerId fun phone inf => { inf with phone }
        assign payload "received" influencerId fun received inf => { inf with received }
        assign payload "imageUrl" influencerId fun imageUrl inf => { inf with imageUrl }
        assign payload "ussd_shortcode" influencerId fun code inf =>
          { inf with ussdShortcode := some code }
        let updated ← perform .readInfluencers
        return jsonify 200 (.dict [
          ("message", .str "Influencer updated successfully"),
          ("influencer", ((findInfluencer influencerId updated).getD influencer).toJson)])

def adminDeleteInfluencer (influencerId : Nat) : Prog Response := do
  let db ← perform .readInfluencers
  match findInfluencer influencerId db with
  | none => return error 404 "Influencer not found"
  | some deletedInfluencer =>
      perform (.writeInfluencers (Library.Records.remove Influencer.id influencerId db))
      return jsonify 200 (.dict [
        ("message", .str "Influencer deleted successfully"),
        ("deleted_influencer", deletedInfluencer.toJson)])

/-! The decorated views. -/

/-- Python's binding of a call with one positional argument and some keyword arguments; no
call here leaves a parameter unbound. -/
def bindCall (name : String) (params keywords : List String) : Except PyExn Unit :=
  match keywords.find? (fun key => params.head? = some key ∨ key ∉ params) with
  | some key =>
      if key ∈ params then
        .error ⟨.typeError, s!"{name}() got multiple values for argument '{key}'"⟩
      else .error ⟨.typeError, s!"{name}() got an unexpected keyword argument '{key}'"⟩
  | none =>
      if params.isEmpty then
        .error ⟨.typeError, s!"{name}() takes 0 positional arguments but 1 was given"⟩
      else .ok ()

/-- The decorators call `f(current_user, *args, **kwargs)`, whatever `f` takes. -/
def decorated (name : String) (params keywords : List String) (body : Prog Response) :
    Prog Response :=
  Auth.adminRequired rt req fun _currentUser => do
    bindCall name params keywords
    body

end AdminInfluencers

namespace InfluencersSimple

variable (req : Http)

def listSimpleInfluencers : Prog Response := do
  let db ← perform .readInfluencers
  return jsonify 200 (.list (db.map Influencer.toJson))

/-- The public endpoint echoes its payload and stores nothing. -/
def createInfluencer : Prog Response := do
  let payload ← req.getJson
  let name ← payload.pyGet "name" (.str "New Influencer")
  let phone ← payload.pyGet "phone" (.str "")
  let received ← payload.pyGet "received" (.int 0)
  let imageUrl ← payload.pyGet "imageUrl" (.str "")
  return jsonify 201 (.dict [
    ("id", .int 999), ("name", name), ("phone", phone), ("received", received),
    ("imageUrl", imageUrl)])

structure Sample where
  name : String
  phone : String
  received : Int
  imageUrl : String
  ussdShortcode : String

def photo (path : String) : String :=
  "https://images.unsplash.com/photo-" ++ path ++ "?w=150&h=150&fit=crop&crop=face"

def sampleInfluencers : List Sample := [
  ⟨"Sarah Kimani", "+254700000001", 2500, photo "1494790108755-2616b612b786", "123"⟩,
  ⟨"David Ochieng", "+254700000002", 1800, photo "1507003211169-0a1dd7228f2d", "124"⟩,
  ⟨"Grace Wanjiku", "+254700000003", 3200, photo "1438761681033-6461ffad8d80", "125"⟩,
  ⟨"Michael Odhiambo", "+254700000004", 1500, photo "1472099645785-5658abf4ff4e", "126"⟩,
  ⟨"Faith Akinyi", "+254700000005", 4100, photo "1544005313-94ddf0286df2", "127"⟩,
  ⟨"James Kiprop", "+254700000006", 2800, photo "1500648767791-00dcc994a43e", "128"⟩,
  ⟨"Mercy Njeri", "+254700000007", 3600, photo "1534528741775-53994a69daeb", "129"⟩]

def Sample.record (sample : Sample) (id : Int) : Influencer where
  id
  name := .str sample.name
  phone := .str sample.phone
  received := .int sample.received
  imageUrl := .str sample.imageUrl
  ussdShortcode := some (.str sample.ussdShortcode)
  createdAt := some "2025-08-10T20:00:00Z"

/-- What a round of the loop does to the list; the records it reads have all their keys, so
nothing is raised. -/
def addSample (db : List Influencer) (sample : Sample) : List Influencer :=
  if phoneTaken (.str sample.phone) db then db
  else db ++ [sample.record (nextInfluencerId db)]

/-- The round over the list and `added_count`. -/
def countSample (round : List Influencer × Int) (sample : Sample) : List Influencer × Int :=
  if phoneTaken (.str sample.phone) round.1 then round
  else (round.1 ++ [sample.record (nextInfluencerId round.1)], round.2 + 1)

def populateDemoInfluencers : Prog Response := do
  let db ← perform .readInfluencers
  let (populated, addedCount) := sampleInfluencers.foldl countSample (db, 0)
  perform (.writeInfluencers populated)
  return jsonify 200 (.dict [
    ("message", .str s!"Successfully added {addedCount} demo influencers"),
    ("total_influencers", .int populated.length),
    ("added_count", .int addedCount)])

end InfluencersSimple

end UssdCredit
