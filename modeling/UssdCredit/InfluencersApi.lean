import UssdCredit.Library.Records
import UssdCredit.Library.Program
import UssdCredit.Collection

/-! The influencers in a database. Every view is written twice, once for MongoDB and once
for SQLAlchemy; which one runs depends on the configuration. -/

namespace UssdCredit

open Library

/-- `abort(status, description=text)`; no view here catches it. -/
def abort (status : Nat) (description : String) : Response := ⟨status, .str description⟩

/-! MongoDB: the operations on the one collection. -/

inductive MongoOp where
  | find (filter : Filter)
  | findOne (filter : Filter)
  | countDocuments (filter : Filter)
  | insertOne (fields : Fields)
  | updateOne (filter : Filter) (update : Fields)
  | deleteOne (filter : Filter)

/-- An update answers with its matched_count, a deletion with its deleted_count. -/
abbrev MongoOp.Result : MongoOp → Type
  | .find _ => List Document
  | .findOne _ => Option Document
  | .countDocuments _ => Nat
  | .insertOne _ => Unit
  | .updateOne _ _ => Nat
  | .deleteOne _ => Nat

/-- An ObjectId that is not in use. -/
def Collection.newOid (c : Collection) : Nat := (c.docs.map Document.oid).foldl max 0 + 1

/-- A write that fails leaves the collection as it was. -/
def Collection.write {α : Type} (c : Collection) (answer : α) :
    Except PyExn Collection → Except PyExn α × Collection
  | .ok c' => (.ok answer, c')
  | .error e => (.error e, c)

/-- The keys with which an object is read as operators. -/
def startsWithDollar (key : String) : Bool := key.toList.head? = some '$'

/-- An object of operators and no value: its first key decides. -/
def Value.isExpression : Value → Bool
  | .dict ((key, _) :: _) => startsWithDollar key
  | _ => false

mutual
/-- Some object in the value has a key that starts with `$`. -/
def Value.hasDollar : Value → Bool
  | .scalar _ => false
  | .list items => hasDollarList items
  | .dict entries => hasDollarEntries entries

def Value.hasDollarList : List Value → Bool
  | [] => false
  | item :: rest => item.hasDollar || hasDollarList rest

def Value.hasDollarEntries : List (String × Value) → Bool
  | [] => false
  | (key, item) :: rest => startsWithDollar key || item.hasDollar || hasDollarEntries rest
end

/-- The server's part: its query language, and what it takes of keys that look like it. -/
structure MongoEngine where
  /-- The test of a field that an object of operators stands for, or the refusal of the query. -/
  operators : Fields → Except PyExn (Option Value → Bool)
  /-- The refusal to store fields with a key that starts with `$`. -/
  refuses : Fields → Option PyExn

namespace MongoEngine

variable (mongo : MongoEngine)

/-- A value in a filter is compared for equality, unless it is an object of operators. -/
def condition : Condition → Condition
  | .eq field (.dict expression) =>
      if (Value.dict expression).isExpression then
        .operators field expression (mongo.operators expression)
      else .eq field (.dict expression)
  | other => other

def reading (filter : Filter) : Filter := filter.map mongo.condition

def refusal (fields : Fields) : Option PyExn :=
  if Value.hasDollarEntries fields then mongo.refuses fields else none

@[simp] theorem reading_int (field : String) (n : Int) :
    mongo.reading [.eq field (.int n)] = [.eq field (.int n)] := rfl

@[simp] theorem reading_str (field s : String) :
    mongo.reading [.eq field (.str s)] = [.eq field (.str s)] := rfl

end MongoEngine

/-- A write that the driver encodes may still be refused by the server. -/
def Collection.written {α : Type} (c : Collection) (answer : α) (refusal : Option PyExn)
    (result : Except PyExn Collection) : Except PyExn α × Collection :=
  match result, refusal with
  | .ok _, some e => (.error e, c)
  | result, _ => c.write answer result

def mongoExec (mongo : MongoEngine) : Program.Exec MongoOp MongoOp.Result PyExn Collection
  | .find filter, c => (c.find (mongo.reading filter), c)
  | .findOne filter, c => (c.findOne (mongo.reading filter), c)
  | .countDocuments filter, c => (c.countDocuments (mongo.reading filter), c)
  | .insertOne fields, c => c.written () (mongo.refusal fields) (c.insertOne c.newOid fields)
  | .updateOne filter update, c =>
      c.written (c.matched (mongo.reading filter)) (mongo.refusal update)
        (c.updateOne (mongo.reading filter) update)
  | .deleteOne filter, c =>
      c.write (c.matched (mongo.reading filter)) (c.deleteOne (mongo.reading filter))

abbrev MongoProg := Program MongoOp MongoOp.Result PyExn

/-! SQLAlchemy: the table. -/

structure InfluencerRow where
  id : Int
  phone : Value
  name : Value
  imageUrl : Value
  ussdShortcode : Value
  received : Value
  status : Value
  createdAt : Int
  updatedAt : Int
  deriving DecidableEq

inductive SqlOp where
  /-- `query.order_by(Influencer.id).all()`. -/
  | all
  /-- `query.get(id)`. -/
  | get (id : Nat)
  /-- `query.filter_by(ussd_shortcode=code).first()`. -/
  | firstByShortcode (code : Value)
  /-- `session.add(influencer)` and a commit, which gives the row its id. -/
  | add (row : InfluencerRow)
  /-- A commit after assignments to the row, and the row as it is then. -/
  | save (row : InfluencerRow)
  /-- `session.delete(influencer)` and a commit. -/
  | delete (id : Int)

abbrev SqlOp.Result : SqlOp → Type
  | .all => List InfluencerRow
  | .get _ => Option InfluencerRow
  | .firstByShortcode _ => Option InfluencerRow
  | .add _ => InfluencerRow
  | .save _ => InfluencerRow
  | .delete _ => Unit

/-- The libraries and the database of the SQL path. -/
structure SqlEngine where
  /-- What every query raises when the mappers cannot be configured. -/
  mapperError : Option PyExn
  /-- The refusal of a query for its parameter. -/
  binds : Value → Option PyExn
  /-- What a text column makes of a value that is no text. -/
  toText : Value → Value
  /-- What an integer column makes of a value that is no integer. -/
  toInteger : Value → Value
  /-- The refusal of a commit: of the row, or of the row beside those in the table. -/
  refuses : List InfluencerRow → InfluencerRow → Option PyExn
  /-- The refusal to delete the row with an id, which subscriptions may still name. -/
  keeps : List InfluencerRow → Int → Option PyExn
  /-- `InfluencerSchema().dump(influencer)`. -/
  dump : InfluencerRow → Except PyExn Value

namespace SqlEngine

variable (engine : SqlEngine)

def textColumn : Value → Value
  | .null => .null
  | .str s => .str s
  | v => engine.toText v

def integerColumn : Value → Value
  | .null => .null
  | .int n => .int n
  | v => engine.toInteger v

@[simp] theorem textColumn_str (s : String) : engine.textColumn (.str s) = .str s := rfl

/-- The row as it is read back. -/
def columns (row : InfluencerRow) : InfluencerRow :=
  { row with
    phone := engine.textColumn row.phone
    name := engine.textColumn row.name
    imageUrl := engine.textColumn row.imageUrl
    ussdShortcode := engine.textColumn row.ussdShortcode
    received := engine.integerColumn row.received
    status := engine.textColumn row.status }

end SqlEngine

/-- A column with a default that is given as None is left out of the INSERT. -/
def orDefault (value default : Value) : Value := if value = .null then default else value

/-- The row an INSERT stores, under the next id. -/
def InfluencerRow.inserted (row : InfluencerRow) (rows : List InfluencerRow) : InfluencerRow where
  id := Records.nextId (rows.map InfluencerRow.id)
  phone := row.phone
  name := row.name
  imageUrl := row.imageUrl
  ussdShortcode := row.ussdShortcode
  received := orDefault row.received (.int 0)
  status := orDefault row.status (.str "active")
  createdAt := row.createdAt
  updatedAt := row.updatedAt

def sqlTooLarge : PyExn := ⟨.overflowError, "Python int too large to convert to SQLite INTEGER"⟩

/-- The operations on a table whose mappers are configured. A refused commit is rolled back when
the request ends. -/
def tableExec (engine : SqlEngine) : Program.Exec SqlOp SqlOp.Result PyExn (List InfluencerRow)
  | .all, rows => (.ok (rows.mergeSort fun a b => a.id ≤ b.id), rows)
  | .get id, rows =>
      match encodeInt id with
      | some _ => (.error sqlTooLarge, rows)
      | none => (.ok (Records.find InfluencerRow.id id rows), rows)
  | .firstByShortcode code, rows =>
      match engine.binds code with
      | some e => (.error e, rows)
      | none => (.ok (rows.find? fun row => row.ussdShortcode = engine.textColumn code), rows)
  | .add row, rows =>
      let stored := row.inserted rows
      match engine.refuses rows stored with
      | some e => (.error e, rows)
      | none => (.ok (engine.columns stored), rows ++ [engine.columns stored])
  | .save row, rows =>
      match engine.refuses rows row with
      | some e => (.error e, rows)
      | none => (.ok (engine.columns row),
          Records.modify InfluencerRow.id row.id (fun _ => engine.columns row) rows)
  | .delete id, rows =>
      match engine.keeps rows id with
      | some e => (.error e, rows)
      | none => (.ok (), Records.remove InfluencerRow.id id rows)

def sqlExec (engine : SqlEngine) : Program.Exec SqlOp SqlOp.Result PyExn (List InfluencerRow) :=
  fun op rows => match engine.mapperError with
    | some e => (.error e, rows)
    | none => tableExec engine op rows

abbrev SqlProg := Program SqlOp SqlOp.Result PyExn

namespace Influencers

variable (req : Http)

/-! What both paths do first. -/

/-- The refusal of a creation without a name or a shortcode. -/
def incomplete (payload : Value) : Except PyExn (Option Response) := do
  if !(← payload.pyGet "name" .null).truthy then return some (abort 400 "Name is required")
  else if !(← payload.pyGet "ussd_shortcode" .null).truthy then
    return some (abort 400 "USSD shortcode is required")
  else return none

/-- `payload.get("imageUrl") or payload.get("image_url")`. -/
def imageUrl (payload : Value) : Except PyExn Value := do
  let imageUrl ← payload.pyGet "imageUrl" .null
  let image_url ← payload.pyGet "image_url" .null
  return imageUrl.pyOr image_url

def taken : Response := abort 400 "USSD shortcode already exists"

namespace Mongo

def perform (op : MongoOp) : MongoProg op.Result := Program.perform op

/-- A stored influencer under the keys of the frontend. -/
def normalized (doc : Document) : Value := .dict [
  ("id", doc.get "id" .null),
  ("name", doc.get "name" (.str "")),
  ("phone", doc.get "phone" (.str "")),
  ("received", doc.get "received" (.int 0)),
  ("imageUrl", ((doc.get "imageUrl" .null).pyOr (doc.get "image_url" .null)).pyOr (.str "")),
  ("ussd_shortcode", doc.get "ussd_shortcode" (.str "")),
  ("status", doc.get "status" (.str "active")),
  ("created_at", doc.get "created_at" .null),
  ("updated_at", doc.get "updated_at" .null)]

def listInfluencers : MongoProg Response := do
  let docs ← perform (.find [])
  return jsonify 200 (.list (docs.map normalized))

def getInfluencer (influencerId : Nat) : MongoProg Response := do
  let found ← perform (.findOne [.eq "id" (.int influencerId)])
  match found with
  | none => return abort 404 "Influencer not found"
  | some doc =>
      if doc.fields.isEmpty then return abort 404 "Influencer not found"
      else return jsonify 200 (normalized doc)

def createInfluencer : MongoProg Response := do
  let payload ← req.getJson
  let refusal ← incomplete payload
  match refusal with
  | some response => return response
  | none =>
      let existing ← perform (.findOne [.eq "ussd_shortcode" (← payload.pyGet "ussd_shortcode" .null)])
      if existing.isSome then return taken
      else
        let count ← perform (.countDocuments [])
        let doc : Fields := [
          ("id", .int (count + 1)),
          ("phone", ← payload.pyGet "phone" .null),
          ("name", ← payload.pyGet "name" (.str "")),
          ("imageUrl", ← imageUrl payload),
          ("ussd_shortcode", ← payload.pyGet "ussd_shortcode" .null),
          ("received", ← payload.pyGet "received" (.int 0)),
          ("status", ← payload.pyGet "status" (.str "active")),
          ("created_at", .str (isoformat req.now)),
          ("updated_at", .str (isoformat req.now))]
        perform (.insertOne doc)
        -- The insertion has put the ObjectId into the dict that is to be the answer.
        Program.done (.error ⟨.typeError, "Object of type ObjectId is not JSON serializable"⟩)

/-- The new shortcode is another document's. -/
def shortcodeConflict (payload : Value) (doc : Document) : MongoProg Bool := do
  let code ← payload.pyGet "ussd_shortcode" .null
  if code.truthy && !code.pyEq (doc.get "ussd_shortcode" .null) then
    let existing ← perform (.findOne [.eq "ussd_shortcode" code])
    return existing.isSome
  else return false

/-- The fields an update sets: those of the payload, and the old ones where it has none. -/
def updateData (payload : Value) (doc : Document) : Except PyExn Fields := do
  return [
    ("phone", ← payload.pyGet "phone" (doc.get "phone" .null)),
    ("name", ← payload.pyGet "name" (doc.get "name" .null)),
    ("imageUrl", (← imageUrl payload).pyOr (doc.get "imageUrl" .null)),
    ("ussd_shortcode", ← payload.pyGet "ussd_shortcode" (doc.get "ussd_shortcode" .null)),
    ("received", ← payload.pyGet "received" (doc.get "received" .null)),
    ("status", ← payload.pyGet "status" (doc.get "status" .null)),
    ("updated_at", .str (isoformat req.now))]

def updateInfluencer (influencerId : Nat) : MongoProg Response := do
  let payload ← req.getJson
  let found ← perform (.findOne [.eq "id" (.int influencerId)])
  match found with
  | none => return abort 404 "Influencer not found"
  | some doc =>
      let conflict ← shortcodeConflict payload doc
      if conflict then return taken
      else
        let update ← updateData req payload doc
        let _ ← perform (.updateOne [.eq "id" (.int influencerId)] update)
        let updated ← perform (.findOne [.eq "id" (.int influencerId)])
        return jsonify 200 ((updated.map fun d => Value.dict d.fields).getD .null)

def deleteInfluencer (influencerId : Nat) : MongoProg Response := do
  let deletedCount ← perform (.deleteOne [.eq "id" (.int influencerId)])
  if deletedCount = 0 then return abort 404 "Influencer not found"
  else return message 200 "Influencer deleted successfully"

/-- The three status views: the status they set and their message. -/
def setStatus (status done : String) (influencerId : Nat) : MongoProg Response := do
  let matchedCount ← perform (.updateOne [.eq "id" (.int influencerId)]
    [("status", .str status), ("updated_at", .str (isoformat req.now))])
  if matchedCount = 0 then return abort 404 "Influencer not found"
  else return message 200 done

def suspendInfluencer (influencerId : Nat) : MongoProg Response :=
  setStatus req "suspended" "Influencer suspended successfully" influencerId

def activateInfluencer (influencerId : Nat) : MongoProg Response :=
  setStatus req "active" "Influencer activated successfully" influencerId

def terminateInfluencer (influencerId : Nat) : MongoProg Response :=
  setStatus req "terminated" "Influencer terminated successfully" influencerId

end Mongo

namespace Sql

def perform (op : SqlOp) : SqlProg op.Result := Program.perform op

def normalized (inf : InfluencerRow) : Value := .dict [
  ("id", .int inf.id),
  ("name", inf.name),
  ("phone", inf.phone.pyOr (.str "")),
  ("received", inf.received.pyOr (.int 0)),
  ("imageUrl", inf.imageUrl.pyOr (.str "")),
  ("ussd_shortcode", inf.ussdShortcode.pyOr (.str "")),
  ("status", inf.status.pyOr (.str "active")),
  ("created_at", .str (isoformat inf.createdAt)),
  ("updated_at", .str (isoformat inf.updatedAt))]

/-- What `get_or_404` says of a missing row. -/
def notFound : Response := abort 404 ("The requested URL was not found on the server. If you " ++
  "entered the URL manually please check your spelling and try again.")

def listInfluencers : SqlProg Response := do
  let influencers ← perform .all
  return jsonify 200 (.list (influencers.map normalized))

def getInfluencer (influencerId : Nat) : SqlProg Response := do
  let found ← perform (.get influencerId)
  match found with
  | none => return notFound
  | some influencer => return jsonify 200 (normalized influencer)

variable (engine : SqlEngine)

def createInfluencer : SqlProg Response := do
  let payload ← req.getJson
  let refusal ← incomplete payload
  match refusal with
  | some response => return response
  | none =>
      let existing ← perform (.firstByShortcode (← payload.pyGet "ussd_shortcode" .null))
      if existing.isSome then return taken
      else
        let influencer ← perform (.add {
          id := 0
          phone := ← payload.pyGet "phone" .null
          name := ← payload.pyGet "name" (.str "")
          imageUrl := ← imageUrl payload
          ussdShortcode := ← payload.pyGet "ussd_shortcode" .null
          received := ← payload.pyGet "received" (.int 0)
          status := ← payload.pyGet "status" (.str "active")
          createdAt := req.now
          updatedAt := req.now })
        return jsonify 201 (← engine.dump influencer)

def shortcodeConflict (payload : Value) (influencer : InfluencerRow) : SqlProg Bool := do
  let code ← payload.pyGet "ussd_shortcode" .null
  if code.truthy && !code.pyEq influencer.ussdShortcode then
    let existing ← perform (.firstByShortcode code)
    return existing.isSome
  else return false

/-- The row after the assignments, each behind its own test. -/
def assigned (payload : Value) (influencer : InfluencerRow) : Except PyExn InfluencerRow := do
  let name ← payload.pyGet "name" .null
  let phone ← payload.pyGet "phone" .null
  let image ← imageUrl payload
  let code ← payload.pyGet "ussd_shortcode" .null
  let received ← payload.pyGet "received" .null
  let status ← payload.pyGet "status" .null
  return { influencer with
    name := if name.truthy then name else influencer.name
    phone := if phone ≠ .null then phone else influencer.phone
    imageUrl := if image.truthy then image else influencer.imageUrl
    ussdShortcode := if code.truthy then code else influencer.ussdShortcode
    received := if received ≠ .null then received else influencer.received
    status := if status.truthy then status else influencer.status }

/-- `onupdate=datetime.utcnow` fires only for a row that has changed. -/
def touch (now : Int) (old new : InfluencerRow) : InfluencerRow :=
  if new = old then old else { new with updatedAt := now }

def updateInfluencer (influencerId : Nat) : SqlProg Response := do
  let payload ← req.getJson
  let found ← perform (.get influencerId)
  match found with
  | none => return notFound
  | some influencer =>
      let conflict ← shortcodeConflict payload influencer
      if conflict then return taken
      else
        let updated ← perform (.save (touch req.now influencer (← assigned payload influencer)))
        return jsonify 200 (← engine.dump updated)

def deleteInfluencer (influencerId : Nat) : SqlProg Response := do
  let found ← perform (.get influencerId)
  match found with
  | none => return notFound
  | some influencer =>
      perform (.delete influencer.id)
      return message 200 "Influencer deleted successfully"

def setStatus (status done : String) (influencerId : Nat) : SqlProg Response := do
  let found ← perform (.get influencerId)
  match found with
  | none => return notFound
  | some influencer =>
      let _ ← perform (.save (touch req.now influencer { influencer with status := .str status }))
      return message 200 done

def suspendInfluencer (influencerId : Nat) : SqlProg Response :=
  setStatus req "suspended" "Influencer suspended successfully" influencerId

def activateInfluencer (influencerId : Nat) : SqlProg Response :=
  setStatus req "active" "Influencer activated successfully" influencerId

def terminateInfluencer (influencerId : Nat) : SqlProg Response :=
  setStatus req "terminated" "Influencer terminated successfully" influencerId

end Sql

end Influencers

/-- A request to one of the routes. -/
inductive InfluencersRequest where
  | list
  | get (influencerId : Nat)
  | create (req : Http)
  | update (req : Http) (influencerId : Nat)
  | delete (influencerId : Nat)
  | suspend (req : Http) (influencerId : Nat)
  | activate (req : Http) (influencerId : Nat)
  | terminate (req : Http) (influencerId : Nat)

namespace InfluencersRequest

open Influencers

def mongo : InfluencersRequest → MongoProg Response
  | .list => Mongo.listInfluencers
  | .get influencerId => Mongo.getInfluencer influencerId
  | .create req => Mongo.createInfluencer req
  | .update req influencerId => Mongo.updateInfluencer req influencerId
  | .delete influencerId => Mongo.deleteInfluencer influencerId
  | .suspend req influencerId => Mongo.suspendInfluencer req influencerId
  | .activate req influencerId => Mongo.activateInfluencer req influencerId
  | .terminate req influencerId => Mongo.terminateInfluencer req influencerId

variable (mongo : MongoEngine) (engine : SqlEngine)

def sql : InfluencersRequest → SqlProg Response
  | .list => Sql.listInfluencers
  | .get influencerId => Sql.getInfluencer influencerId
  | .create req => Sql.createInfluencer req engine
  | .update req influencerId => Sql.updateInfluencer req engine influencerId
  | .delete influencerId => Sql.deleteInfluencer influencerId
  | .suspend req influencerId => Sql.suspendInfluencer req influencerId
  | .activate req influencerId => Sql.activateInfluencer req influencerId
  | .terminate req influencerId => Sql.terminateInfluencer req influencerId

def mongoServe (request : InfluencersRequest) (c : Collection) : Outcome × Collection :=
  request.mongo.run (mongoExec mongo) c

def sqlServe (request : InfluencersRequest) (rows : List InfluencerRow) :
    Outcome × List InfluencerRow := (request.sql engine).run (sqlExec engine) rows

/-- The collection after a request, and the table after it. -/
def mongoStep (c : Collection) (request : InfluencersRequest) : Collection :=
  (request.mongoServe mongo c).2

def sqlStep (rows : List InfluencerRow) (request : InfluencersRequest) : List InfluencerRow :=
  (request.sqlServe engine rows).2

end InfluencersRequest

/-- A payload with a name and a shortcode. -/
def shortcodeRequest (name code : String) : Http :=
  .ofEntries none [("name", .str name), ("ussd_shortcode", .str code)] rfl 0

/-- A server whose only operator is `$ne`. -/
def plainMongo : MongoEngine where
  operators
    | [("$ne", value)] => .ok fun stored => !value.matchesField stored
    | _ => .error ⟨.operationFailure, "unknown operator"⟩
  refuses _ := none

/-- An engine that takes every row and answers with the keys of the list. -/
def plainEngine : SqlEngine where
  mapperError := none
  binds _ := none
  toText v := v
  toInteger v := v
  refuses _ _ := none
  keeps _ _ := none
  dump influencer := .ok (Influencers.Sql.normalized influencer)

end UssdCredit
