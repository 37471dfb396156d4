import UssdCredit.Library.Records
import UssdCredit.Server

/-! The subscriptions the process keeps in memory, and the routes on them. -/

namespace UssdCredit

def Subscription.toJson (s : Subscription) : Value := .dict [
  ("id", .int s.id),
  ("influencer_id", s.influencerId),
  ("fan_phone", s.fanPhone),
  ("amount", .float s.amount),
  ("frequency", s.frequency),
  ("is_active", .bool s.isActive),
  ("created_at", .str s.createdAt),
  ("updated_at", .str s.updatedAt)]

namespace SubscribersSimple

variable (rt : Runtime) (req : Http)

/-- `next((s for s in SUBSCRIBERS_DB if s['id'] == subscription_id), None)`. -/
def findSubscription (subscriptionId : Int) (db : List Subscription) : Option Subscription :=
  Library.Records.find Subscription.id subscriptionId db

/-- `except Exception as e`. -/
def attempt (doing : String) (body : Prog Response) : Prog Response :=
  body.handle fun e => return message 500 s!"Error {doing}: {e.text}"

def listSimpleSubscribers : Prog Response :=
  attempt "listing subscribers" do
    let db ← perform .readSubscribers
    return jsonify 200 (.dict [
      ("total", .int db.length),
      ("subscribers", .list (db.map Subscription.toJson))])

def createSimpleSubscription : Prog Response :=
  attempt "creating subscription" do
    let payload ← req.getJson
    let missing ← payload.missingField ["influencer_id", "fan_phone", "amount"]
    match missing with
    | some field => return message 400 s!"{field} is required"
    | none =>
        let db ← perform .readSubscribers
        let newSubscription : Subscription := {
          id := db.length + 1
          influencerId := ← payload.pyGet "influencer_id" .null
          fanPhone := ← payload.pyGet "fan_phone" .null
          amount := ← rt.float (← payload.pyGet "amount" (.int 0))
          frequency := ← payload.pyGet "frequency" (.str "monthly")
          isActive := (← payload.pyGet "is_active" (.bool true)).truthy
          createdAt := isoformat req.now
          updatedAt := isoformat req.now }
        perform (.writeSubscribers (db ++ [newSubscription]))
        return jsonify 201 (.dict [
          ("message", .str "Subscription created successfully"),
          ("subscription", newSubscription.toJson)])

def getSimpleSubscription (subscriptionId : Nat) : Prog Response :=
  attempt "getting subscription" do
    let db ← perform .readSubscribers
    match findSubscription subscriptionId db with
    | none => return message 404 "Subscription not found"
    | some subscription => return jsonify 200 subscription.toJson

/-- Write to the record found by its id, which no write changes. -/
def setSubscription (subscriptionId : Int) (write : Subscription → Subscription) : Prog Unit := do
  let db ← perform .readSubscribers
  perform (.writeSubscribers (Library.Records.modify Subscription.id subscriptionId write db))

/-- `if key in payload: subscription[…] = convert(payload[key])`. -/
def assign (payload : Value) (key : String) (subscriptionId : Int)
    (convert : Value → Except PyExn (Subscription → Subscription)) : Prog Unit := do
  let present ← Value.pyIn key payload
  if present then
    let write ← convert (← payload.pyIndex key)
    setSubscription subscriptionId write
  else return ()

def writeAmount (value : Value) : Except PyExn (Subscription → Subscription) := do
  let amount ← rt.float value
  return fun s => { s with amount }

def updateSimpleSubscription (subscriptionId : Nat) : Prog Response :=
  attempt "updating subscription" do
    let payload ← req.getJson
    let db ← perform .readSubscribers
    match findSubscription subscriptionId db with
    | none => return message 404 "Subscription not found"
    | some subscription =>
        assign payload "amount" subscriptionId (writeAmount rt)
        assign payload "frequency" subscriptionId fun frequency =>
          return fun s => { s with frequency }
        assign payload "is_active" subscriptionId fun isActive =>
          return fun s => { s with isActive := isActive.truthy }
        setSubscription subscriptionId fun s => { s with updatedAt := isoformat req.now }
        let updated ← perform .readSubscribers
        return jsonify 200 (.dict [
          ("message", .str "Subscription updated successfully"),
          ("subscription", ((findSubscription subscriptionId updated).getD subscription).toJson)])

/-- `SUBSCRIBERS_DB.remove(subscription)`: the first record that is the same object or equal. -/
def removeSubscription (subscription : Subscription) (db : List Subscription) :
    List Subscription :=
  db.eraseP fun s => s = subscription || s.toJson.pyEq subscription.toJson

def deleteSimpleSubscription (subscriptionId : Nat) : Prog Response :=
  attempt "deleting subscription" do
    let db ← perform .readSubscribers
    match findSubscription subscriptionId db with
    | none => return message 404 "Subscription not found"
    | some subscription =>
        perform (.writeSubscribers (removeSubscription subscription db))
        return message 200 "Subscription deleted successfully"

structure Sample where
  influencerId : Int
  fanPhone : String
  amount : Rat
  frequency : String
  isActive : Bool

def sampleSubscribers : List Sample := [
  ⟨1, "+254700000101", 100, "monthly", true⟩,
  ⟨1, "+254700000102", 150, "weekly", true⟩,
  ⟨2, "+254700000103", 200, "monthly", true⟩,
  ⟨3, "+254700000104", 75, "weekly", false⟩]

/-- One round of the loop, under another allocation of ids than `createSimpleSubscription`. -/
def addSample (now : String) (db : List Subscription) (sample : Sample) : List Subscription :=
  db ++ [{
    id := Library.Records.nextId (db.map Subscription.id)
    influencerId := .int sample.influencerId
    fanPhone := .str sample.fanPhone
    amount := .finite sample.amount
    frequency := .str sample.frequency
    isActive := sample.isActive
    createdAt := now
    updatedAt := now }]

def populateDemoSubscribers : Prog Response := do
  let db ← perform .readSubscribers
  let populated := sampleSubscribers.foldl (addSample (isoformat req.now)) db
  perform (.writeSubscribers populated)
  let addedCount : Int := populated.length - db.length
  return jsonify 200 (.dict [
    ("message", .str s!"Successfully added {addedCount} demo subscribers"),
    ("total_subscribers", .int populated.length),
    ("added_count", .int addedCount)])

end SubscribersSimple

end UssdCredit
