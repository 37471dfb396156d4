import Mathlib.Data.List.Find
import UssdCredit.InfluencerViews
import UssdCredit.Library.Runs

/-! The two paths of the influencer API side by side: the same requests are served from the
documents and from the table, and the answers are compared. -/

namespace UssdCredit

open Library InfluencerRecord

/-! What is compared. -/

/-- The status with which a request is rejected. An exception is no rejection: a creation from the
MongoDB path stores its document and raises afterwards. -/
def rejected : Outcome → Option Nat
  | .ok response => if 400 ≤ response.status then some response.status else none
  | .error _ => none

/-- One answer for a reader: the status, and what is shown apart from the moments. -/
def SameAnswer (left right : Response) : Prop :=
  left.status = right.status ∧ (left.status = 200 → untimed left.body = untimed right.body)

namespace InfluencersRequest

def reads : InfluencersRequest → Bool
  | .list | .get _ => true
  | _ => false

/-- No deletion, and only JSON objects of storable strings, integers and nulls. -/
def Comparable : InfluencersRequest → Prop
  | .create req | .update req _ => ∃ json entries, req.body = some json ∧
      json.value = .dict entries ∧ ∀ entry ∈ entries, entry.2.storable = true
  | .delete _ => False
  | _ => True

/-- The payload the views work with. -/
theorem comparable_payload {req : Http} {json : Json} {entries : Fields} (body : req.body = some json)
    (object : json.value = .dict entries) (storable : ∀ entry ∈ entries, entry.2.storable = true) :
    ∃ payload, req.getJson = .ok (.dict payload) ∧ ∀ entry ∈ payload, entry.2.storable = true := by
  unfold Http.getJson
  rw [body]
  by_cases full : json.value.truthy = true
  · exact ⟨entries, congrArg Except.ok ((if_pos full).trans object), storable⟩
  · exact ⟨[], congrArg Except.ok (if_neg full), nofun⟩

end InfluencersRequest

def ComparableRequest := { request : InfluencersRequest // request.Comparable }

/-- Both stores. -/
structure Backends where
  documents : Collection
  rows : List InfluencerRow

namespace Backends

def empty : Backends := ⟨.empty, []⟩

variable (mongo : MongoEngine) (engine : SqlEngine)

def step (backends : Backends) (request : ComparableRequest) : Backends where
  documents := request.val.mongoStep mongo backends.documents
  rows := request.val.sqlStep engine backends.rows

/-- Both paths reject the same requests, and show every reader the same. -/
def Agree (backends : Backends) : Prop :=
  ∀ request : ComparableRequest,
    let documents := (request.val.mongoServe mongo backends.documents).1
    let table := (request.val.sqlServe engine backends.rows).1
    rejected documents = rejected table ∧
      (request.val.reads = true → SameAnswer (Outcome.answer documents) (Outcome.answer table))

/-- A creation or an update that goes through has a payload that both paths store alike. -/
def Careful (backends : Backends) (request : ComparableRequest) : Prop :=
  match request.val with
  | .create req => ∀ entries, Creation mongo backends.documents req entries → CreatesAlike entries
  | .update req influencerId => ∀ entries doc,
      Update mongo backends.documents req influencerId entries doc → UpdatesAlike entries
  | _ => True

end Backends

/-- The SQL path works on the values that the MongoDB driver takes: it asks for them, stores them as
they are, and refuses no row of them. -/
structure SqlEngine.TakesStorable (engine : SqlEngine) : Prop where
  mapped : engine.mapperError = none
  binds : ∀ v : Value, v.storable = true → engine.binds v = none
  text : ∀ v : Value, v.storable = true → engine.toText v = v
  integer : ∀ v : Value, v.storable = true → engine.toInteger v = v
  rows : ∀ rows row, engine.refuses rows row = none ↔ (ofRow row).storable = true

section Columns

variable {engine : SqlEngine} (takes : engine.TakesStorable)

include takes

theorem SqlEngine.TakesStorable.textColumn {v : Value} (stored : v.storable = true) :
    engine.textColumn v = v := by
  rcases Value.storable_cases stored with rfl | ⟨s, rfl⟩ | ⟨n, rfl, -⟩
  · rfl
  · rfl
  · exact takes.text _ stored

theorem SqlEngine.TakesStorable.integerColumn {v : Value} (stored : v.storable = true) :
    engine.integerColumn v = v := by
  rcases Value.storable_cases stored with rfl | ⟨s, rfl⟩ | ⟨n, rfl, -⟩
  · rfl
  · exact takes.integer _ stored
  · rfl

theorem SqlEngine.TakesStorable.columns {row : InfluencerRow} (stored : (ofRow row).storable = true) :
    engine.columns row = row := by
  obtain ⟨-, name, phone, image, code, received, status⟩ := storable_iff.mp stored
  simp only [ofRow] at name phone image code received status
  unfold SqlEngine.columns
  rw [takes.textColumn name, takes.textColumn phone, takes.textColumn image, takes.textColumn code,
    takes.integerColumn received, takes.textColumn status]

/-- A row that is taken is stored as it is. -/
theorem SqlEngine.TakesStorable.stored {rows : List InfluencerRow} {row : InfluencerRow}
    (stores : engine.refuses rows row = none) : engine.columns row = row :=
  takes.columns ((takes.rows rows row).mp stores)

end Columns

/-! Storable values hold no operators. -/

theorem hasDollar_of_storable {v : Value} (stored : v.storable = true) : v.hasDollar = false := by
  rcases Value.storable_cases stored with rfl | ⟨s, rfl⟩ | ⟨n, rfl, -⟩ <;> rfl

theorem condition_of_storable (mongo : MongoEngine) (field : String) {v : Value}
    (stored : v.storable = true) : mongo.reading [.eq field v] = [.eq field v] := by
  rcases Value.storable_cases stored with rfl | ⟨s, rfl⟩ | ⟨n, rfl, -⟩ <;> rfl

/-! Each store by itself. -/

/-- The documents are complete, hold storable values, and are numbered from 1. -/
structure SoundDocuments (c : Collection) : Prop where
  complete : ∀ d ∈ c.docs, d.Complete
  storable : ∀ d ∈ c.docs, (ofDocument d).storable = true
  numbered : c.docs.map (fun d => (ofDocument d).id) =
    (Records.consecutive 1 c.docs.length).map Value.int

structure SoundRows (rows : List InfluencerRow) : Prop where
  storable : ∀ row ∈ rows, (ofRow row).storable = true
  numbered : rows.map InfluencerRow.id = Records.consecutive 1 rows.length

section Payloads

variable {entries : Fields} (plain : ∀ entry ∈ entries, entry.2.storable = true)

include plain

theorem storable_given (key : String) {default : Value} (other : default.storable = true) :
    (given entries key default).storable = true := by
  unfold given
  cases present : entries.lookup key with
  | none => exact other
  | some v => exact plain _ (Dict.mem_of_lookup present)

theorem storable_givenImage : (givenImage entries).storable = true :=
  Value.storable_pyOr (storable_given plain _ rfl) (storable_given plain _ rfl)

theorem storable_mongoCreated {count : Nat} (numbered : encodeInt (count + 1) = none) :
    (mongoCreated entries count).storable = true := by
  refine storable_iff.mpr ⟨?_, storable_given plain _ rfl, storable_given plain _ rfl,
    storable_givenImage plain, storable_given plain _ rfl, storable_given plain _ rfl,
    storable_given plain _ rfl⟩
  change (encodeInt (count + 1)).isNone = true
  rw [numbered]
  rfl

theorem storable_mongoUpdated {r : InfluencerRecord} (stored : r.storable = true) :
    (mongoUpdated entries r).storable = true := by
  obtain ⟨id, name, phone, image, code, received, status⟩ := storable_iff.mp stored
  exact storable_iff.mpr ⟨id, storable_given plain _ name, storable_given plain _ phone,
    Value.storable_pyOr (storable_givenImage plain) image, storable_given plain _ code,
    storable_given plain _ received, storable_given plain _ status⟩

end Payloads

theorem storable_restatused {r : InfluencerRecord} (stored : r.storable = true) (status : String) :
    (r.restatused status).storable = true := by
  obtain ⟨id, name, phone, image, code, received, -⟩ := storable_iff.mp stored
  exact storable_iff.mpr ⟨id, name, phone, image, code, received, rfl⟩

theorem encodeInt_of_newFields {entries : Fields} {now : Int} {count : Nat}
    (encodes : Value.bsonErrorEntries (newFields entries now count) = none) :
    encodeInt (count + 1) = none := by
  have member : ("id", Value.int (count + 1)) ∈ newFields entries now count := by simp [newFields]
  exact (bsonErrorEntries_none.mp encodes _ member).2

theorem payload_storable {req : Http} {payload : Fields} {json : Json} {entries : Fields}
    (body : req.body = some json) (object : json.value = .dict entries)
    (storable : ∀ entry ∈ entries, entry.2.storable = true)
    (parsed : req.getJson = .ok (.dict payload)) : ∀ entry ∈ payload, entry.2.storable = true := by
  obtain ⟨payload', parsed', storable'⟩ :=
    InfluencersRequest.comparable_payload body object storable
  obtain rfl := Http.entries_unique parsed parsed'
  exact storable'

/-- Editing one document in keys of a record other than the id. -/
theorem SoundDocuments.edit {c c' : Collection} (sound : SoundDocuments c) {doc : Document}
    (member : doc ∈ c.docs) {update : Fields}
    (stored : c'.docs = c.docs.map (Document.edit doc.oid update))
    (noImage : "image_url" ∉ update.map Prod.fst) (noId : "id" ∉ update.map Prod.fst)
    (storable : (ofDocument (doc.edit doc.oid update)).storable = true) : SoundDocuments c' where
  complete := by
    intro d present
    rw [stored] at present
    obtain ⟨old, there, rfl⟩ := List.mem_map.mp present
    exact (sound.complete old there).edit noImage doc.oid
  storable := by
    intro d present
    rw [stored] at present
    obtain ⟨old, there, rfl⟩ := List.mem_map.mp present
    by_cases here : old.oid = doc.oid
    · rwa [Collection.eq_of_oid there member here]
    · rw [Document.edit_other _ here]
      exact sound.storable old there
  numbered := by
    have ids : ∀ d : Document, (ofDocument (d.edit doc.oid update)).id = (ofDocument d).id := by
      intro d
      change (d.edit doc.oid update).get "id" .null = d.get "id" .null
      rw [Document.get, Document.edit_get? noId, Document.get]
    rw [stored, List.length_map, List.map_map, ← sound.numbered]
    exact List.map_congr_left fun d _ => ids d

theorem SoundDocuments.step {mongo : MongoEngine} {c : Collection} (sound : SoundDocuments c)
    (request : ComparableRequest) : SoundDocuments (request.val.mongoStep mongo c) := by
  obtain ⟨request, comparable⟩ := request
  have effect := docs_effect mongo c request
  generalize request.mongoStep mongo c = c' at effect
  cases effect with
  | kept => exact sound
  | @created req entries c' creation stored =>
    obtain ⟨json, object, body, same, plain⟩ := comparable
    have storable := payload_storable body same plain creation.parsed
    have encodes := encodeInt_of_newFields creation.encodes
    constructor
    · intro d member
      rw [stored, List.mem_append, List.mem_singleton] at member
      rcases member with old | rfl
      · exact sound.complete d old
      · exact complete_newFields _ _ _ _
    · intro d member
      rw [stored, List.mem_append, List.mem_singleton] at member
      rcases member with old | rfl
      · exact sound.storable d old
      · rw [ofDocument_newFields]
        exact storable_mongoCreated storable encodes
    · rw [stored, List.map_append, sound.numbered, List.length_append, List.length_singleton,
        Records.consecutive_succ, List.map_append]
      have last : (Value.int (c.docs.length + 1)) = Value.int (1 + c.docs.length) := by rw [Int.add_comm]
      exact congrArg _ (congrArg (fun v => [v]) last)
  | @updated req influencerId entries doc c' update stored =>
    obtain ⟨json, object, body, same, plain⟩ := comparable
    have storable := payload_storable body same plain update.parsed
    have member := (Collection.first?_mem update.found).1
    refine sound.edit member stored (by simp [updateFields]) (by simp [updateFields]) ?_
    rw [ofDocument_updateFields]
    exact storable_mongoUpdated storable (sound.storable doc member)
  | restatus sets reachable found stored =>
    have member := (Collection.first?_mem found).1
    refine sound.edit member stored (by simp [statusFields]) (by simp [statusFields]) ?_
    rw [ofDocument_statusFields]
    exact storable_restatused (sound.storable _ member) _
  | deleted stored => exact comparable.elim

theorem SoundRows.distinct {rows : List InfluencerRow} (sound : SoundRows rows) :
    (rows.map InfluencerRow.id).Nodup := by
  rw [sound.numbered]
  exact (Records.pairwise_consecutive ..).imp ne_of_lt

theorem SoundRows.step {engine : SqlEngine} (takes : engine.TakesStorable)
    {rows : List InfluencerRow} (sound : SoundRows rows) (request : ComparableRequest) :
    SoundRows (request.val.sqlStep engine rows) := by
  obtain ⟨request, comparable⟩ := request
  have saved : ∀ {row new : InfluencerRow}, new.id = row.id → engine.refuses rows new = none →
      SoundRows (Records.modify InfluencerRow.id row.id (fun _ => engine.columns new) rows) := by
    intro row new keeps stores
    have storable := (takes.rows _ _).mp stores
    rw [takes.columns storable]
    constructor
    · intro other member
      rcases Records.mem_modify member with old | ⟨-, -, -, rfl⟩
      · exact sound.storable other old
      · exact storable
    · rw [Records.modify_eq_map sound.distinct, List.map_map, List.length_map, ← sound.numbered]
      refine List.map_congr_left fun other _ => ?_
      change InfluencerRow.id (if other.id = row.id then new else other) = other.id
      split_ifs with here
      · exact keeps.trans here.symm
      · rfl
  have effect := rows_effect engine rows request
  generalize request.sqlStep engine rows = rows' at effect
  cases effect with
  | kept => exact sound
  | created creation =>
    have storable := (takes.rows _ _).mp creation.stores
    rw [takes.columns storable]
    constructor
    · intro row member
      rcases List.mem_append.mp member with old | new
      · exact sound.storable row old
      · rw [List.mem_singleton.mp new]
        exact storable
    · rw [List.map_append, List.length_append, List.length_singleton, Records.consecutive_succ,
        List.map_singleton, newRow, sound.numbered, Records.nextId_consecutive, Int.add_comm]
  | updated update => exact saved (touch_id rfl) update.stores
  | restatus sets mapped reachable found stores => exact saved (touch_id rfl) stores
  | deleted => exact comparable.elim

/-! Both stores together. -/

/-- The stores hold the same records in the same order, and each of them is shown as it is. -/
structure Mirrored (backends : Backends) : Prop where
  documents : SoundDocuments backends.documents
  rows : SoundRows backends.rows
  same : backends.documents.docs.map ofDocument = backends.rows.map ofRow
  normal : ∀ r ∈ backends.rows.map ofRow, r.Normal

theorem mirrored_empty : Mirrored Backends.empty where
  documents := ⟨nofun, nofun, rfl⟩
  rows := ⟨nofun, rfl⟩
  same := rfl
  normal := nofun

/-- A search for a storable value in a key that every document has. -/
theorem SoundDocuments.first?_record {c : Collection} (sound : SoundDocuments c) {key : String}
    {field : InfluencerRecord → Value} (held : ∀ d : Document, d.Complete →
      d.get? key = some (field (ofDocument d)))
    (stored : ∀ r : InfluencerRecord, r.storable = true → (field r).storable = true)
    {query : Value} (asked : query.storable = true) :
    (c.first? [.eq key query]).map ofDocument =
      (c.docs.map ofDocument).find? fun r => query = field r := by
  rw [List.find?_map]
  congr 1
  refine List.find?_congr fun d member => ?_
  change (query.matchesField (d.get? key) && true) = _
  rw [held d (sound.complete d member), Bool.and_true,
    Value.matchesField_storable asked (stored _ (sound.storable d member))]
  rfl

theorem get?_of_isSome {d : Document} {key : String} (present : (d.get? key).isSome) :
    d.get? key = some (d.get key .null) := by
  obtain ⟨v, held⟩ := Option.isSome_iff_exists.mp present
  rw [Document.get, held, Option.getD_some]

section Lookups

variable {backends : Backends} (mirrored : Mirrored backends)

include mirrored

/-- A request for an id reaches the same record on both sides. -/
theorem Mirrored.find_id {influencerId : Nat} (reachable : encodeInt influencerId = none) :
    (backends.documents.first? [.eq "id" (.int influencerId)]).map ofDocument =
      (Records.find InfluencerRow.id influencerId backends.rows).map ofRow := by
  have asked : (Value.int influencerId).storable = true := by
    change (encodeInt influencerId).isNone = true
    rw [reachable]
    rfl
  have found := @SoundDocuments.first?_record _ mirrored.documents "id" InfluencerRecord.id
    (fun d complete => get?_of_isSome complete.id) (fun r stored => (storable_iff.mp stored).1) _ asked
  rw [found, mirrored.same, List.find?_map]
  congr 1
  refine List.find?_congr fun row _ => ?_
  simp [ofRow, eq_comm]

/-- A shortcode is in use on both sides or on neither. -/
theorem Mirrored.find_code {code : Value} (asked : code.storable = true) :
    (backends.documents.first? [.eq "ussd_shortcode" code]).isSome =
      (backends.rows.find? fun row => row.ussdShortcode = code).isSome := by
  have found := @SoundDocuments.first?_record _ mirrored.documents "ussd_shortcode"
    InfluencerRecord.ussdShortcode (fun d complete => get?_of_isSome complete.ussdShortcode)
    (fun r stored => (storable_iff.mp stored).2.2.2.2.1) _ asked
  rw [mirrored.same, List.find?_map] at found
  have both := congrArg Option.isSome found
  rw [Option.isSome_map, Option.isSome_map] at both
  rw [both]
  congr 1
  refine List.find?_congr fun row _ => ?_
  exact decide_eq_decide.mpr eq_comm

theorem Mirrored.length : backends.documents.docs.length = backends.rows.length := by
  have lengths := congrArg List.length mirrored.same
  rwa [List.length_map, List.length_map] at lengths

end Lookups

/-! Writes, seen from the records. -/

theorem SoundDocuments.eq_of_id {c : Collection} (sound : SoundDocuments c) {d doc : Document}
    (member : d ∈ c.docs) (member' : doc ∈ c.docs) (same : (ofDocument d).id = (ofDocument doc).id) :
    d = doc := by
  have distinct : (c.docs.map fun d => (ofDocument d).id).Nodup := by
    rw [sound.numbered]
    refine List.Nodup.map (fun m n same => ?_) ((Records.pairwise_consecutive ..).imp ne_of_lt)
    simpa using same
  exact List.inj_on_of_nodup_map distinct member member' same

theorem SoundDocuments.map_edit {c : Collection} (sound : SoundDocuments c) {doc : Document}
    (member : doc ∈ c.docs) (update : Fields) :
    (c.docs.map (Document.edit doc.oid update)).map ofDocument =
      (c.docs.map ofDocument).map fun r =>
        if r.id = (ofDocument doc).id then ofDocument (doc.edit doc.oid update) else r := by
  rw [List.map_map, List.map_map]
  refine List.map_congr_left fun d present => ?_
  simp only [Function.comp_apply]
  by_cases here : d.oid = doc.oid
  · rw [Collection.eq_of_oid present member here, if_pos rfl]
  · have apart : (ofDocument d).id ≠ (ofDocument doc).id := fun same =>
      here (congrArg Document.oid (sound.eq_of_id present member same))
    rw [if_neg apart, Document.edit_other _ here]

theorem SoundRows.map_modify {rows : List InfluencerRow} (sound : SoundRows rows)
    {row new : InfluencerRow} : 
    (Records.modify InfluencerRow.id row.id (fun _ => new) rows).map ofRow =
      (rows.map ofRow).map fun r => if r.id = (ofRow row).id then ofRow new else r := by
  rw [Records.modify_eq_map sound.distinct, List.map_map, List.map_map]
  refine List.map_congr_left fun other _ => ?_
  simp only [Function.comp_apply, ofRow, Value.scalar.injEq, Scalar.int.injEq]
  split_ifs <;> rfl

/-! A request goes through on both sides or on neither. -/

section Encoded

variable {entries : Fields} (plain : ∀ entry ∈ entries, entry.2.storable = true)

include plain

theorem bsonError_given (key : String) {default : Value} (other : default.storable = true) :
    (given entries key default).bsonError = none :=
  Value.bsonError_of_storable (storable_given plain key other)

theorem encodes_newFields {count : Nat} (numbered : encodeInt (count + 1) = none) (now : Int) :
    Value.bsonErrorEntries (newFields entries now count) = none := by
  have id : (Value.int (count + 1)).bsonError = none := numbered
  have image := Value.bsonError_of_storable (storable_givenImage plain)
  have absent := fun key => bsonError_given plain key (rfl : Value.null.storable = true)
  have name := bsonError_given plain "name" (rfl : (Value.str "").storable = true)
  have received := bsonError_given plain "received" (rfl : (Value.int 0).storable = true)
  have status := bsonError_given plain "status" (rfl : (Value.str "active").storable = true)
  have moment : (Value.str (isoformat now)).bsonError = none := rfl
  simp [bsonErrorEntries_none, newFields, encodeKey, id, image, absent, name, received, status, moment]

theorem encodes_updateFields {doc : Document} (stored : (ofDocument doc).storable = true) (now : Int) :
    Value.bsonErrorEntries (updateFields entries doc now) = none := by
  obtain ⟨-, name, phone, image, code, received, status⟩ := storable_iff.mp stored
  simp only [ofDocument] at name phone image code received status
  have picture := Value.bsonError_of_storable
    (Value.storable_pyOr (storable_givenImage plain) image)
  have moment : (Value.str (isoformat now)).bsonError = none := rfl
  simp [bsonErrorEntries_none, updateFields, encodeKey, picture, moment, bsonError_given plain _ name,
    bsonError_given plain _ phone, bsonError_given plain _ code, bsonError_given plain _ received,
    bsonError_given plain _ status]

/-- The shortcode of the payload is asked for by equality. -/
theorem codeQuery_plain (mongo : MongoEngine) :
    codeQuery mongo entries = [.eq "ussd_shortcode" (given entries "ussd_shortcode" .null)] :=
  condition_of_storable mongo _ (storable_given plain _ rfl)

theorem asked_plain (mongo : MongoEngine) : (codeQuery mongo entries).bsonError = none := by
  rw [codeQuery_plain plain, bsonError_eq]
  exact bsonError_given plain _ rfl

theorem accepted_newFields (mongo : MongoEngine) (now : Int) (count : Nat) :
    mongo.refusal (newFields entries now count) = none := by
  have absent := fun key =>
    hasDollar_of_storable (storable_given plain key (rfl : Value.null.storable = true))
  have name := hasDollar_of_storable (storable_given plain "name" (rfl : (Value.str "").storable = true))
  have received := hasDollar_of_storable
    (storable_given plain "received" (rfl : (Value.int 0).storable = true))
  have status := hasDollar_of_storable
    (storable_given plain "status" (rfl : (Value.str "active").storable = true))
  have image := hasDollar_of_storable (storable_givenImage plain)
  refine if_neg ?_
  simp [newFields, Value.hasDollarEntries, Value.hasDollar, startsWithDollar, absent, name, received,
    status, image]

theorem accepted_updateFields (mongo : MongoEngine) {doc : Document}
    (stored : (ofDocument doc).storable = true) (now : Int) :
    mongo.refusal (updateFields entries doc now) = none := by
  obtain ⟨-, name, phone, image, code, received, status⟩ := storable_iff.mp stored
  simp only [ofDocument] at name phone image code received status
  have picture := hasDollar_of_storable (Value.storable_pyOr (storable_givenImage plain) image)
  refine if_neg ?_
  simp [updateFields, Value.hasDollarEntries, Value.hasDollar, startsWithDollar, picture,
    hasDollar_of_storable (storable_given plain _ name),
    hasDollar_of_storable (storable_given plain _ phone),
    hasDollar_of_storable (storable_given plain _ code),
    hasDollar_of_storable (storable_given plain _ received),
    hasDollar_of_storable (storable_given plain _ status)]

theorem storable_sqlCreated {id : Int} (numbered : encodeInt id = none) :
    (sqlCreated entries id).storable = true := by
  refine storable_iff.mpr ⟨?_, storable_given plain _ rfl, storable_given plain _ rfl,
    storable_givenImage plain, storable_given plain _ rfl,
    Value.storable_orDefault (storable_given plain _ rfl) rfl,
    Value.storable_orDefault (storable_given plain _ rfl) rfl⟩
  change (encodeInt id).isNone = true
  rw [numbered]
  rfl

theorem storable_sqlUpdated {r : InfluencerRecord} (stored : r.storable = true) :
    (sqlUpdated entries r).storable = true := by
  obtain ⟨id, name, phone, image, code, received, status⟩ := storable_iff.mp stored
  have unless_null : ∀ {old : Value} (key : String), old.storable = true →
      (if given entries key .null ≠ .null then given entries key .null else old).storable = true := by
    intro old key other
    split_ifs
    · exact storable_given plain key rfl
    · exact other
  exact storable_iff.mpr ⟨id, Value.storable_pyOr (storable_given plain _ rfl) name,
    unless_null _ phone, Value.storable_pyOr (storable_givenImage plain) image,
    Value.storable_pyOr (storable_given plain _ rfl) code, unless_null _ received,
    Value.storable_pyOr (storable_given plain _ rfl) status⟩

end Encoded

section Accepted

variable {engine : SqlEngine} (takes : engine.TakesStorable) {backends : Backends}
  (mirrored : Mirrored backends) {req : Http} {entries : Fields}

include mirrored

theorem Mirrored.nextId : Records.nextId (backends.rows.map InfluencerRow.id) =
    backends.documents.docs.length + 1 := by
  rw [mirrored.rows.numbered, Records.nextId_consecutive, mirrored.length]

/-- The document and the row that are found under an id stand for one record. -/
theorem Mirrored.found {influencerId : Nat} (reachable : encodeInt influencerId = none) :
    (backends.documents.first? [.eq "id" (.int influencerId)] = none ∧
      Records.find InfluencerRow.id influencerId backends.rows = none) ∨
    ∃ doc row, backends.documents.first? [.eq "id" (.int influencerId)] = some doc ∧
      Records.find InfluencerRow.id influencerId backends.rows = some row ∧
      ofDocument doc = ofRow row := by
  have both := mirrored.find_id reachable
  cases document : backends.documents.first? [.eq "id" (.int influencerId)] with
  | none =>
    rw [document] at both
    exact .inl ⟨rfl, Option.map_eq_none_iff.mp both.symm⟩
  | some doc =>
    rw [document] at both
    obtain ⟨row, found, same⟩ := Option.map_eq_some_iff.mp both.symm
    exact .inr ⟨doc, row, rfl, found, same.symm⟩

include takes

/-- The shortcode of a payload is in use on both sides or on neither. -/
theorem Mirrored.find_given (plain : ∀ entry ∈ entries, entry.2.storable = true) (mongo : MongoEngine) :
    (backends.documents.first? (codeQuery mongo entries)).isSome =
      (rowWithCode engine entries backends.rows).isSome := by
  have code := storable_given plain "ussd_shortcode" (rfl : Value.null.storable = true)
  unfold rowWithCode
  rw [codeQuery_plain plain, takes.textColumn code, mirrored.find_code code]

theorem Mirrored.free_iff (plain : ∀ entry ∈ entries, entry.2.storable = true) (mongo : MongoEngine) :
    backends.documents.first? (codeQuery mongo entries) = none ↔
      rowWithCode engine entries backends.rows = none := by
  rw [← Option.not_isSome_iff_eq_none, ← Option.not_isSome_iff_eq_none,
    mirrored.find_given takes plain mongo]

theorem Mirrored.creation_iff {mongo : MongoEngine} (plain : ∀ entry ∈ entries, entry.2.storable = true) :
    Creation mongo backends.documents req entries ↔ RowCreation engine backends.rows req entries := by
  have code := storable_given plain "ussd_shortcode" (rfl : Value.null.storable = true)
  have free := mirrored.free_iff takes plain mongo
  have numbered : engine.refuses backends.rows (newRow entries req.now backends.rows) = none ↔
      encodeInt (backends.documents.docs.length + 1) = none := by
    rw [takes.rows, ofRow_newRow, mirrored.nextId]
    constructor
    · intro stored
      exact Option.isNone_iff_eq_none.mp (storable_iff.mp stored).1
    · exact storable_sqlCreated plain
  constructor
  · intro creation
    exact ⟨creation.parsed, creation.named, creation.coded, takes.mapped, takes.binds _ code,
      free.mp creation.free, numbered.mpr (encodeInt_of_newFields creation.encodes)⟩
  · intro creation
    exact ⟨creation.parsed, creation.named, creation.coded, asked_plain plain mongo,
      free.mpr creation.free, encodes_newFields plain (numbered.mp creation.stores) _,
      accepted_newFields plain mongo _ _⟩

theorem Mirrored.update_iff {mongo : MongoEngine} (plain : ∀ entry ∈ entries, entry.2.storable = true)
    {influencerId : Nat} {doc : Document} {row : InfluencerRow}
    (document : backends.documents.first? [.eq "id" (.int influencerId)] = some doc)
    (found : Records.find InfluencerRow.id influencerId backends.rows = some row)
    (same : ofDocument doc = ofRow row) :
    Update mongo backends.documents req influencerId entries doc ↔
      RowUpdate engine backends.rows req influencerId entries row := by
  have code := storable_given plain "ussd_shortcode" (rfl : Value.null.storable = true)
  have free := mirrored.free_iff takes plain mongo
  have differs : recodes entries doc = rowRecodes entries row := by
    have codes : doc.get "ussd_shortcode" .null = row.ussdShortcode :=
      congrArg InfluencerRecord.ussdShortcode same
    rw [recodes, rowRecodes, codes]
  have stored := mirrored.documents.storable doc (Collection.first?_mem document).1
  constructor
  · intro update
    refine ⟨update.parsed, takes.mapped, update.reachable, found, fun _ => takes.binds _ code,
      fun other => free.mp (update.free (differs.trans other)), ?_⟩
    rw [takes.rows, ofRow_updatedRow, ← same]
    exact storable_sqlUpdated plain stored
  · intro update
    exact ⟨update.parsed, update.reachable, document, fun _ => asked_plain plain mongo,
      fun other => free.mpr (update.free (differs.symm.trans other)),
      encodes_updateFields plain stored _, accepted_updateFields plain mongo stored _⟩

end Accepted

/-! One request on both stores. -/

/-- What a request does to two stores with the records `before`. -/
inductive PairEffect (mongo : MongoEngine) (backends : Backends) (before : List InfluencerRecord) :
    InfluencersRequest → Backends → Prop where
  | kept {request : InfluencersRequest}
      (idle : ∀ req, request = .create req → ∀ entries, ¬Creation mongo backends.documents req entries)
      (idle' : ∀ req influencerId, request = .update req influencerId → ∀ entries doc,
        ¬Update mongo backends.documents req influencerId entries doc) :
      PairEffect mongo backends before request backends
  | created {req : Http} {entries : Fields} {after : Backends}
      (creation : Creation mongo backends.documents req entries)
      (documents : after.documents.docs.map ofDocument =
        before ++ [mongoCreated entries backends.documents.docs.length])
      (rows : after.rows.map ofRow =
        before ++ [sqlCreated entries (backends.documents.docs.length + 1)]) :
      PairEffect mongo backends before (.create req) after
  | updated {req : Http} {influencerId : Nat} {entries : Fields} {doc : Document} {after : Backends}
      (update : Update mongo backends.documents req influencerId entries doc)
      (member : ofDocument doc ∈ before)
      (documents : after.documents.docs.map ofDocument = before.map fun r =>
        if r.id = (ofDocument doc).id then mongoUpdated entries (ofDocument doc) else r)
      (rows : after.rows.map ofRow = before.map fun r =>
        if r.id = (ofDocument doc).id then sqlUpdated entries (ofDocument doc) else r) :
      PairEffect mongo backends before (.update req influencerId) after
  | restatus {request : InfluencersRequest} {status : String} {r : InfluencerRecord} {after : Backends}
      (sets : request.setsStatus.map Prod.fst = some status) (member : r ∈ before)
      (documents : after.documents.docs.map ofDocument = before.map fun other =>
        if other.id = r.id then r.restatused status else other)
      (rows : after.rows.map ofRow = before.map fun other =>
        if other.id = r.id then r.restatused status else other) :
      PairEffect mongo backends before request after

section Steps

variable {engine : SqlEngine} (takes : engine.TakesStorable) {backends : Backends}
  (mirrored : Mirrored backends)

include takes mirrored

theorem pairEffect_create {req : Http} (comparable : InfluencersRequest.Comparable (.create req)) :
    PairEffect mongo backends (backends.rows.map ofRow) (.create req)
      (backends.step mongo engine ⟨.create req, comparable⟩) := by
  obtain ⟨json, object, body, held, storable⟩ := comparable
  have plain : ∀ entries, req.getJson = .ok (.dict entries) → ∀ entry ∈ entries, entry.2.storable = true :=
    fun entries parsed => payload_storable body held storable parsed
  by_cases accepted : ∃ entries, Creation mongo backends.documents req entries
  · obtain ⟨entries, creation⟩ := accepted
    have rowCreation := (mirrored.creation_iff takes (plain entries creation.parsed)).mp creation
    refine .created creation ?_ ?_
    · change (InfluencersRequest.mongoStep mongo backends.documents (.create req)).docs.map ofDocument = _
      rw [creation.step, List.map_append, List.map_singleton, ofDocument_newFields, mirrored.same]
    · change (InfluencersRequest.sqlStep engine backends.rows (.create req)).map ofRow = _
      rw [rowCreation.step, takes.stored rowCreation.stores, List.map_append, List.map_singleton,
        ofRow_newRow, mirrored.nextId]
  · have refused : ¬∃ entries, RowCreation engine backends.rows req entries := fun ⟨entries, creation⟩ =>
      accepted ⟨entries, (mirrored.creation_iff takes (plain entries creation.parsed)).mpr creation⟩
    have same : backends.step mongo engine ⟨.create req, ⟨json, object, body, held, storable⟩⟩ =
        backends := by
      unfold Backends.step
      rw [create_keeps accepted, rowCreate_keeps refused]
    rw [same]
    refine .kept (fun req' here entries creation => ?_) nofun
    obtain rfl := InfluencersRequest.create.inj here
    exact accepted ⟨entries, creation⟩

theorem pairEffect_update {req : Http} {influencerId : Nat}
    (comparable : InfluencersRequest.Comparable (.update req influencerId)) :
    PairEffect mongo backends (backends.rows.map ofRow) (.update req influencerId)
      (backends.step mongo engine ⟨.update req influencerId, comparable⟩) := by
  obtain ⟨json, object, body, held, storable⟩ := comparable
  have plain : ∀ entries, req.getJson = .ok (.dict entries) → ∀ entry ∈ entries, entry.2.storable = true :=
    fun entries parsed => payload_storable body held storable parsed
  by_cases accepted : ∃ entries doc, Update mongo backends.documents req influencerId entries doc
  · obtain ⟨entries, doc, update⟩ := accepted
    have member := (Collection.first?_mem update.found).1
    rcases mirrored.found update.reachable with ⟨absent, -⟩ | ⟨doc', row, document, found, same⟩
    · cases absent.symm.trans update.found
    · obtain rfl : doc' = doc := Option.some.inj (document.symm.trans update.found)
      have rowUpdate :=
        (mirrored.update_iff takes (plain entries update.parsed) document found same).mp update
      refine .updated update (mirrored.same ▸ List.mem_map_of_mem member) ?_ ?_
      · change (InfluencersRequest.mongoStep mongo backends.documents (.update req influencerId)).docs.map
          ofDocument = _
        rw [update.step, mirrored.documents.map_edit member, ofDocument_updateFields, mirrored.same]
      · change (InfluencersRequest.sqlStep engine backends.rows (.update req influencerId)).map ofRow = _
        rw [rowUpdate.step, takes.stored rowUpdate.stores, mirrored.rows.map_modify, ofRow_updatedRow,
          same]
  · have refused : ¬∃ entries row, RowUpdate engine backends.rows req influencerId entries row := by
      rintro ⟨entries, row, update⟩
      rcases mirrored.found update.reachable with ⟨-, absent⟩ | ⟨doc, row', document, found, same⟩
      · cases absent.symm.trans update.found
      · obtain rfl : row' = row := Option.some.inj (found.symm.trans update.found)
        exact accepted ⟨entries, doc,
          (mirrored.update_iff takes (plain entries update.parsed) document found same).mpr update⟩
    have same : backends.step mongo engine ⟨.update req influencerId, ⟨json, object, body, held, storable⟩⟩ =
        backends := by
      unfold Backends.step
      rw [update_keeps accepted, rowUpdate_keeps refused]
    rw [same]
    refine .kept nofun fun req' influencerId' here entries doc update => ?_
    obtain ⟨rfl, rfl⟩ := InfluencersRequest.update.inj here
    exact accepted ⟨entries, doc, update⟩

theorem pairEffect_status {request : InfluencersRequest} (comparable : request.Comparable)
    {status : String} {now : Int} {influencerId : Nat}
    (sets : request.setsStatus = some (status, now, influencerId)) :
    PairEffect mongo backends (backends.rows.map ofRow) request
      (backends.step mongo engine ⟨request, comparable⟩) := by
  have idle : ∀ req, request = .create req → False := by
    rintro req rfl
    cases sets
  have idle' : ∀ req influencerId, request = .update req influencerId → False := by
    rintro req influencerId rfl
    cases sets
  have kept : (¬∃ doc, encodeInt influencerId = none ∧
        backends.documents.first? [.eq "id" (.int influencerId)] = some doc) →
      (¬∃ row, engine.mapperError = none ∧ encodeInt influencerId = none ∧
        Records.find InfluencerRow.id influencerId backends.rows = some row ∧
        engine.refuses backends.rows (restatusRow status now row) = none) →
      PairEffect mongo backends (backends.rows.map ofRow) request
        (backends.step mongo engine ⟨request, comparable⟩) := by
    intro refused refused'
    have same : backends.step mongo engine ⟨request, comparable⟩ = backends := by
      unfold Backends.step
      rw [status_keeps sets refused, rowStatus_keeps sets refused']
    rw [same]
    exact .kept (fun req here => (idle req here).elim) fun req influencerId here =>
      (idle' req influencerId here).elim
  by_cases reachable : encodeInt influencerId = none
  · rcases mirrored.found reachable with ⟨absent, absent'⟩ | ⟨doc, row, document, found, same⟩
    · refine kept ?_ ?_
      · exact fun ⟨doc, _, found⟩ => nomatch absent.symm.trans found
      · exact fun ⟨row, _, _, found, _⟩ => nomatch absent'.symm.trans found
    · have member := (Collection.first?_mem document).1
      have stored := mirrored.rows.storable row (Records.find_some found).1
      have stores : engine.refuses backends.rows (restatusRow status now row) = none := by
        rw [takes.rows, ofRow_restatusRow]
        exact storable_restatused stored status
      refine .restatus (congrArg (Option.map Prod.fst) sets)
        (mirrored.same ▸ List.mem_map_of_mem member) ?_ ?_
      · change (request.mongoStep mongo backends.documents).docs.map ofDocument = _
        rw [status_step sets reachable document, mirrored.documents.map_edit member,
          ofDocument_statusFields, mirrored.same]
      · change (request.sqlStep engine backends.rows).map ofRow = _
        rw [rowStatus_step sets takes.mapped reachable found stores, takes.stored stores,
          mirrored.rows.map_modify, ofRow_restatusRow, same]
  · exact kept (fun ⟨_, here, _⟩ => reachable here) fun ⟨_, _, here, _⟩ => reachable here

theorem pair_effect (mongo : MongoEngine) (request : ComparableRequest) :
    PairEffect mongo backends (backends.rows.map ofRow) request.val (backends.step mongo engine request) := by
  obtain ⟨request, comparable⟩ := request
  cases request with
  | list =>
    have same : backends.step mongo engine ⟨.list, comparable⟩ = backends := by
      unfold Backends.step
      rw [rowList_keeps]
      rfl
    rw [same]
    exact .kept nofun nofun
  | get influencerId =>
    have same : backends.step mongo engine ⟨.get influencerId, comparable⟩ = backends := by
      unfold Backends.step
      rw [get_keeps, rowGet_keeps]
    rw [same]
    exact .kept nofun nofun
  | create req => exact pairEffect_create takes mirrored comparable
  | update req influencerId => exact pairEffect_update takes mirrored comparable
  | delete influencerId => exact comparable.elim
  | suspend req influencerId => exact pairEffect_status takes mirrored comparable rfl
  | activate req influencerId => exact pairEffect_status takes mirrored comparable rfl
  | terminate req influencerId => exact pairEffect_status takes mirrored comparable rfl

end Steps

/-! What the two paths answer. -/

theorem rejected_of_status {outcome : Outcome} {status : Nat}
    (answered : ∀ response, outcome = .ok response → response.status = status)
    (low : status < 400) : rejected outcome = none := by
  cases outcome with
  | error e => rfl
  | ok response => exact if_neg (by rw [answered response rfl]; omega)

/-- The lists of two sound stores agree when every record is shown alike. -/
theorem sameAnswer_list {c : Collection} {rows : List InfluencerRow} (documents : SoundDocuments c)
    (sound : SoundRows rows) (mongo : MongoEngine) {engine : SqlEngine} (mapped : engine.mapperError = none) :
    SameAnswer (Outcome.answer (InfluencersRequest.mongoServe mongo .list c).1)
        (Outcome.answer (InfluencersRequest.sqlServe engine .list rows).1) ↔
      (c.docs.map ofDocument).map mongoShown = (rows.map ofRow).map sqlShown := by
  have listed := congrArg Prod.fst (mongoServe_list mongo c)
  have ordered : rows.mergeSort (fun a b => a.id ≤ b.id) = rows := by
    refine List.mergeSort_of_pairwise ?_
    have ascending := Records.pairwise_consecutive 1 rows.length
    rw [← sound.numbered, List.pairwise_map] at ascending
    exact ascending.imp fun less => decide_eq_true (le_of_lt less)
  have listed' : (InfluencersRequest.sqlServe engine .list rows).1 =
      .ok (jsonify 200 (.list (rows.map Influencers.Sql.normalized))) := by
    rw [sqlServe_list mapped, ordered]
  have shown : untimed ((Value.list (c.docs.map Influencers.Mongo.normalized)).mapScalar jsonScalar) =
      .list ((c.docs.map ofDocument).map mongoShown) := by
    rw [Value.mapScalar, Value.mapScalarList_eq, untimed, List.map_map, List.map_map, List.map_map]
    refine congrArg Value.list (List.map_congr_left fun d member => ?_)
    exact untimed_document (documents.complete d member) (documents.storable d member)
  have shown' : untimed ((Value.list (rows.map Influencers.Sql.normalized)).mapScalar jsonScalar) =
      .list ((rows.map ofRow).map sqlShown) := by
    rw [Value.mapScalar, Value.mapScalarList_eq, untimed, List.map_map, List.map_map, List.map_map]
    refine congrArg Value.list (List.map_congr_left fun row member => ?_)
    exact untimed_row (sound.storable row member)
  rw [listed, listed']
  unfold SameAnswer
  constructor
  · rintro ⟨-, same⟩
    refine Value.list.inj ?_
    calc Value.list ((c.docs.map ofDocument).map mongoShown)
        = untimed ((Value.list (c.docs.map Influencers.Mongo.normalized)).mapScalar jsonScalar) :=
          shown.symm
      _ = untimed ((Value.list (rows.map Influencers.Sql.normalized)).mapScalar jsonScalar) := same rfl
      _ = Value.list ((rows.map ofRow).map sqlShown) := shown'
  · intro same
    refine ⟨rfl, fun _ => ?_⟩
    calc untimed ((Value.list (c.docs.map Influencers.Mongo.normalized)).mapScalar jsonScalar)
        = Value.list ((c.docs.map ofDocument).map mongoShown) := shown
      _ = Value.list ((rows.map ofRow).map sqlShown) := congrArg Value.list same
      _ = untimed ((Value.list (rows.map Influencers.Sql.normalized)).mapScalar jsonScalar) :=
          shown'.symm

section Rejections

variable {mongo : MongoEngine} {c : Collection} {rows : List InfluencerRow} {engine : SqlEngine} {req : Http}
  {influencerId : Nat} {entries : Fields} {status done : String} {now : Int}

/-- A creation that lacks a name or a code, or whose code is taken, is rejected. -/
theorem CreateRun.rejected {result : Outcome × Collection} (ran : CreateRun mongo c req entries result)
    (asked : (codeQuery mongo entries).bsonError = none) :
    UssdCredit.rejected result.1 =
      if (given entries "name" .null).truthy && (given entries "ussd_shortcode" .null).truthy &&
        !(c.first? (codeQuery mongo entries)).isSome
      then none else some 400 := by
  cases ran with
  | unnamed missing => rw [missing]; rfl
  | uncoded named missing => rw [named, missing]; rfl
  | unasked refused => exact absurd asked refused
  | taken named coded found => rw [named, coded, found]; rfl
  | unstored named coded free refused => rw [named, coded, free]; rfl
  | created creation stored => rw [creation.named, creation.coded, creation.free]; rfl

theorem RowCreateRun.rejected {result : Outcome × List InfluencerRow}
    (ran : RowCreateRun engine rows req entries result) (mapped : engine.mapperError = none)
    (asked : engine.binds (given entries "ussd_shortcode" .null) = none) :
    UssdCredit.rejected result.1 =
      if (given entries "name" .null).truthy && (given entries "ussd_shortcode" .null).truthy &&
        !(rowWithCode engine entries rows).isSome
      then none else some 400 := by
  cases ran with
  | unnamed missing => rw [missing]; rfl
  | uncoded named missing => rw [named, missing]; rfl
  | unmapped unmapped => exact absurd mapped unmapped
  | unasked refused => exact absurd asked refused
  | taken named coded found => rw [named, coded, found]; rfl
  | refused named coded free refused => rw [named, coded, free]; rfl
  | created creation answered =>
    rw [rejected_of_status answered (by decide), creation.named, creation.coded, creation.free]
    rfl

/-- An update is rejected for an unknown id, and for a new code that is taken. -/
theorem UpdateRun.rejected {result : Outcome × Collection}
    (ran : UpdateRun mongo c req influencerId entries result)
    (asked : (codeQuery mongo entries).bsonError = none)
    (encodes : ∀ doc, c.first? [.eq "id" (.int influencerId)] = some doc →
      Value.bsonErrorEntries (updateFields entries doc req.now) = none ∧
        mongo.refusal (updateFields entries doc req.now) = none) :
    UssdCredit.rejected result.1 =
      if encodeInt influencerId = none then
        match c.first? [.eq "id" (.int influencerId)] with
        | none => some 404
        | some doc =>
            if recodes entries doc && (c.first? (codeQuery mongo entries)).isSome
            then some 400 else none
      else none := by
  cases ran with
  | unsent large => rw [if_neg large]; rfl
  | missing reachable absent => rw [if_pos reachable, absent]; rfl
  | taken reachable found differs other =>
    rw [if_pos reachable, found]
    dsimp only
    rw [differs, other]
    rfl
  | unasked found differs refused => exact absurd asked refused
  | unstored found refused => exact absurd (encodes _ found) (not_and_or.mpr refused)
  | @updated doc body c' update stored =>
    rw [if_pos update.reachable, update.found]
    dsimp only
    cases differs : recodes entries doc with
    | false => rfl
    | true => rw [update.free differs]; rfl

theorem RowUpdateRun.rejected {result : Outcome × List InfluencerRow}
    (ran : RowUpdateRun engine rows req influencerId entries result) (mapped : engine.mapperError = none)
    (asked : engine.binds (given entries "ussd_shortcode" .null) = none)
    (stores : ∀ row, Records.find InfluencerRow.id influencerId rows = some row →
      engine.refuses rows (updatedRow entries req.now row) = none) :
    UssdCredit.rejected result.1 =
      if encodeInt influencerId = none then
        match Records.find InfluencerRow.id influencerId rows with
        | none => some 404
        | some row =>
            if rowRecodes entries row && (rowWithCode engine entries rows).isSome
            then some 400 else none
      else none := by
  cases ran with
  | unmapped unmapped => exact absurd mapped unmapped
  | unasked found differs refused => exact absurd asked refused
  | unsent large => rw [if_neg large]; rfl
  | missing reachable absent => rw [if_pos reachable, absent]; rfl
  | taken reachable found differs other =>
    rw [if_pos reachable, found]
    dsimp only
    rw [differs, other]
    rfl
  | refused found refused => cases (stores _ found).symm.trans refused
  | @updated row outcome update answered =>
    rw [if_pos update.reachable, update.found, rejected_of_status answered (by decide)]
    dsimp only
    cases differs : rowRecodes entries row with
    | false => rfl
    | true => rw [update.free differs]; rfl

/-- A status change is rejected for an unknown id. -/
theorem StatusRun.rejected {result : Outcome × Collection}
    (ran : StatusRun c status done now influencerId result) :
    UssdCredit.rejected result.1 =
      if encodeInt influencerId = none then
        match c.first? [.eq "id" (.int influencerId)] with
        | none => some 404
        | some _ => none
      else none := by
  cases ran with
  | unsent large => rw [if_neg large]; rfl
  | missing reachable absent => rw [if_pos reachable, absent]; rfl
  | changed reachable found stored => rw [if_pos reachable, found]; rfl

theorem RowStatusRun.rejected {result : Outcome × List InfluencerRow}
    (ran : RowStatusRun engine rows status done now influencerId result)
    (mapped : engine.mapperError = none) : UssdCredit.rejected result.1 =
      if encodeInt influencerId = none then
        match Records.find InfluencerRow.id influencerId rows with
        | none => some 404
        | some _ => none
      else none := by
  cases ran with
  | unmapped unmapped => exact absurd mapped unmapped
  | unsent large => rw [if_neg large]; rfl
  | missing reachable absent => rw [if_pos reachable, absent]; rfl
  | refused found refused =>
    rw [found]
    dsimp only
    split_ifs <;> rfl
  | changed mapped reachable found stores => rw [if_pos reachable, found]; rfl

end Rejections

section Answers

variable {mongo : MongoEngine} {engine : SqlEngine} (takes : engine.TakesStorable) {backends : Backends}
  (mirrored : Mirrored backends)

include mirrored

theorem Mirrored.shown : (backends.documents.docs.map ofDocument).map mongoShown =
    (backends.rows.map ofRow).map sqlShown := by
  rw [mirrored.same]
  exact List.map_congr_left fun r member => (mirrored.normal r member).shown

include takes

theorem Mirrored.sameAnswer_get (influencerId : Nat) :
    let documents := (InfluencersRequest.mongoServe mongo (.get influencerId) backends.documents).1
    let table := (InfluencersRequest.sqlServe engine (.get influencerId) backends.rows).1
    rejected documents = rejected table ∧
      SameAnswer (Outcome.answer documents) (Outcome.answer table) := by
  intro documents table
  have mongo_runs : documents = ((Influencers.Mongo.getInfluencer influencerId).run (mongoExec mongo)
    backends.documents).1 := rfl
  have sql_runs : table = ((Influencers.Sql.getInfluencer influencerId).run (sqlExec engine)
    backends.rows).1 := rfl
  unfold Influencers.Mongo.getInfluencer at mongo_runs
  unfold Influencers.Sql.getInfluencer at sql_runs
  by_cases reachable : encodeInt influencerId = none
  · rw [run_mongoFindOne ((bsonError_id mongo influencerId).trans reachable),
      MongoEngine.reading_int] at mongo_runs
    rw [run_sqlGet takes.mapped reachable] at sql_runs
    rcases mirrored.found reachable with ⟨absent, absent'⟩ | ⟨doc, row, document, found, same⟩
    · rw [absent] at mongo_runs
      rw [absent'] at sql_runs
      rw [mongo_runs, sql_runs]
      exact ⟨rfl, rfl, nofun⟩
    · rw [document] at mongo_runs
      rw [found] at sql_runs
      have member := (Collection.first?_mem document).1
      have complete := mirrored.documents.complete doc member
      have stored := mirrored.documents.storable doc member
      have full : doc.fields.isEmpty = false := by
        cases empty : doc.fields with
        | nil =>
          have present := complete.id
          rw [Document.get?, empty] at present
          cases present
        | cons entry rest => rfl
      have served : documents = .ok (jsonify 200 (Influencers.Mongo.normalized doc)) := by
        rw [mongo_runs]
        simp only [full, Bool.false_eq_true, if_false]
        rfl
      have served' : table = .ok (jsonify 200 (Influencers.Sql.normalized row)) := sql_runs
      have normal := mirrored.normal (ofRow row) (List.mem_map_of_mem (Records.find_some found).1)
      rw [served, served']
      refine ⟨rfl, rfl, fun _ => ?_⟩
      change untimedRecord ((Influencers.Mongo.normalized doc).mapScalar jsonScalar) =
        untimedRecord ((Influencers.Sql.normalized row).mapScalar jsonScalar)
      rw [untimed_document complete stored, untimed_row (same ▸ stored), same]
      exact normal.shown
  · rw [run_sqlGet_error takes.mapped reachable] at sql_runs
    have large : encodeInt influencerId = some tooLarge := by
      rw [encodeInt_natCast] at reachable ⊢
      exact if_neg fun small => reachable (if_pos small)
    rw [run_mongoFindOne_error ((bsonError_id mongo influencerId).trans large)] at mongo_runs
    rw [mongo_runs, sql_runs]
    exact ⟨rfl, rfl, nofun⟩

theorem Mirrored.rejects_create {req : Http} {entries : Fields}
    (parsed : req.getJson = .ok (.dict entries))
    (plain : ∀ entry ∈ entries, entry.2.storable = true) :
    rejected (InfluencersRequest.mongoServe mongo (.create req) backends.documents).1 =
      rejected (InfluencersRequest.sqlServe engine (.create req) backends.rows).1 := by
  have code := storable_given plain "ussd_shortcode" (rfl : Value.null.storable = true)
  have documents := (create_run parsed mongo backends.documents).rejected (asked_plain plain mongo)
  have table := (rowCreate_run parsed engine backends.rows).rejected takes.mapped (takes.binds _ code)
  refine documents.trans (Eq.trans ?_ table.symm)
  rw [mirrored.find_given takes plain mongo]

theorem Mirrored.rejects_status {req : Http} (status done : String) (influencerId : Nat) :
    rejected ((Influencers.Mongo.setStatus req status done influencerId).run (mongoExec mongo)
        backends.documents).1 =
      rejected ((Influencers.Sql.setStatus req status done influencerId).run (sqlExec engine)
        backends.rows).1 := by
  have documents := (status_run mongo backends.documents req status done influencerId).rejected
  have table := (rowStatus_run engine backends.rows req status done influencerId).rejected takes.mapped
  refine documents.trans (Eq.trans ?_ table.symm)
  by_cases reachable : encodeInt influencerId = none
  · rcases mirrored.found reachable with ⟨absent, absent'⟩ | ⟨doc, row, document, found, same⟩
    · rw [absent, absent']
    · rw [document, found]
  · simp only [if_neg reachable]

theorem Mirrored.rejects_update {req : Http} {entries : Fields} (influencerId : Nat)
    (parsed : req.getJson = .ok (.dict entries))
    (plain : ∀ entry ∈ entries, entry.2.storable = true) :
    rejected (InfluencersRequest.mongoServe mongo (.update req influencerId) backends.documents).1 =
      rejected (InfluencersRequest.sqlServe engine (.update req influencerId) backends.rows).1 := by
  have code := storable_given plain "ussd_shortcode" (rfl : Value.null.storable = true)
  have encodes : ∀ doc, backends.documents.first? [.eq "id" (.int influencerId)] = some doc →
      Value.bsonErrorEntries (updateFields entries doc req.now) = none ∧
        mongo.refusal (updateFields entries doc req.now) = none := fun doc document =>
    have stored := mirrored.documents.storable doc (Collection.first?_mem document).1
    ⟨encodes_updateFields plain stored _, accepted_updateFields plain mongo stored _⟩
  have stores : ∀ row, Records.find InfluencerRow.id influencerId backends.rows = some row →
      engine.refuses backends.rows (updatedRow entries req.now row) = none := fun row found => by
    rw [takes.rows, ofRow_updatedRow]
    exact storable_sqlUpdated plain (mirrored.rows.storable row (Records.find_some found).1)
  have documents := (update_run parsed mongo backends.documents influencerId).rejected
    (asked_plain plain mongo) encodes
  have table := (rowUpdate_run parsed engine backends.rows influencerId).rejected takes.mapped
    (takes.binds _ code) stores
  refine documents.trans (Eq.trans ?_ table.symm)
  by_cases reachable : encodeInt influencerId = none
  · rcases mirrored.found reachable with ⟨absent, absent'⟩ | ⟨doc, row, document, found, same⟩
    · rw [absent, absent']
    · have codes : doc.get "ussd_shortcode" .null = row.ussdShortcode :=
        congrArg InfluencerRecord.ussdShortcode same
      rw [document, found]
      simp only [recodes, rowRecodes, codes, mirrored.find_given takes plain mongo]
      rfl
  · simp only [if_neg reachable]

theorem Mirrored.agree : backends.Agree mongo engine := by
  intro request
  obtain ⟨request, comparable⟩ := request
  cases request with
  | list =>
    have list := (sameAnswer_list mirrored.documents mirrored.rows mongo takes.mapped).mpr mirrored.shown
    have rejects : rejected (InfluencersRequest.sqlServe engine .list backends.rows).1 = none := by
      rw [sqlServe_list takes.mapped]
      rfl
    exact ⟨rejects.symm, fun _ => list⟩
  | get influencerId =>
    obtain ⟨rejects, same⟩ := @Mirrored.sameAnswer_get mongo _ takes _ mirrored influencerId
    exact ⟨rejects, fun _ => same⟩
  | create req =>
    obtain ⟨json, object, body, held, storable⟩ := comparable
    obtain ⟨entries, parsed, plain⟩ := InfluencersRequest.comparable_payload body held storable
    exact ⟨mirrored.rejects_create takes parsed plain, nofun⟩
  | update req influencerId =>
    obtain ⟨json, object, body, held, storable⟩ := comparable
    obtain ⟨entries, parsed, plain⟩ := InfluencersRequest.comparable_payload body held storable
    exact ⟨mirrored.rejects_update takes influencerId parsed plain, nofun⟩
  | delete influencerId => exact comparable.elim
  | suspend req influencerId => exact ⟨mirrored.rejects_status takes _ _ influencerId, nofun⟩
  | activate req influencerId => exact ⟨mirrored.rejects_status takes _ _ influencerId, nofun⟩
  | terminate req influencerId => exact ⟨mirrored.rejects_status takes _ _ influencerId, nofun⟩

end Answers

/-! Runs. -/

theorem setsStatus_named {request : InfluencersRequest} {status : String}
    (sets : request.setsStatus.map Prod.fst = some status) : status ≠ "" := by
  rintro rfl
  cases request <;> simp [InfluencersRequest.setsStatus] at sets

section Runs

variable {mongo : MongoEngine} {engine : SqlEngine} (takes : engine.TakesStorable) {backends : Backends}
  (mirrored : Mirrored backends) {request : ComparableRequest}

include takes mirrored

/-- A careful request leads to the same records again. -/
theorem Mirrored.step (careful : backends.Careful mongo request) :
    Mirrored (backends.step mongo engine request) := by
  have documents : SoundDocuments (backends.step mongo engine request).documents :=
    mirrored.documents.step request
  have rows : SoundRows (backends.step mongo engine request).rows := mirrored.rows.step takes request
  have effect := pair_effect takes mirrored mongo request
  obtain ⟨request, comparable⟩ := request
  generalize backends.step mongo engine ⟨request, comparable⟩ = after at documents rows effect ⊢
  cases effect with
  | kept => exact mirrored
  | @created req entries after creation stored stored' =>
    obtain ⟨same, normal⟩ := (careful entries creation).created creation.named creation.coded
      backends.documents.docs.length
    refine ⟨documents, rows, ?_, ?_⟩
    · rw [stored, stored', same]
    · intro r member
      rw [stored', List.mem_append, List.mem_singleton] at member
      rcases member with old | rfl
      · exact mirrored.normal r old
      · exact same ▸ normal
  | @updated req influencerId entries doc after update member stored stored' =>
    obtain ⟨same, normal⟩ := (careful entries doc update).updated (mirrored.normal _ member)
    refine ⟨documents, rows, ?_, ?_⟩
    · rw [stored, stored', same]
    · intro r present
      rw [stored'] at present
      obtain ⟨old, there, rfl⟩ := List.mem_map.mp present
      split_ifs
      · exact same ▸ normal
      · exact mirrored.normal old there
  | @restatus _ status changed after sets member stored stored' =>
    refine ⟨documents, rows, stored.trans stored'.symm, ?_⟩
    intro r present
    rw [stored'] at present
    obtain ⟨old, there, rfl⟩ := List.mem_map.mp present
    split_ifs
    · exact (mirrored.normal changed member).restatused (setsStatus_named sets)
    · exact mirrored.normal old there

/-- After a request that is not careful, the lists differ. -/
theorem Mirrored.clash (careless : ¬backends.Careful mongo request) :
    ¬(backends.step mongo engine request).Agree mongo engine := by
  intro agree
  have listed := (agree ⟨.list, trivial⟩).2 rfl
  have shown : ((backends.step mongo engine request).documents.docs.map ofDocument).map mongoShown =
      ((backends.step mongo engine request).rows.map ofRow).map sqlShown :=
    (sameAnswer_list (mirrored.documents.step request) (mirrored.rows.step takes request)
      mongo takes.mapped).mp listed
  have effect := pair_effect takes mirrored mongo request
  apply careless
  obtain ⟨request, comparable⟩ := request
  generalize backends.step mongo engine ⟨request, comparable⟩ = after at shown effect
  generalize records : backends.rows.map ofRow = before at effect
  cases effect with
  | kept idle idle' =>
    cases request with
    | create req => exact fun entries creation => absurd creation (idle req rfl entries)
    | update req influencerId =>
      exact fun entries doc update => absurd update (idle' req influencerId rfl entries doc)
    | _ => trivial
  | @created req entries after creation stored stored' =>
    intro entries' creation'
    obtain rfl := creation.unique creation'
    rw [stored, stored', List.map_append, List.map_append] at shown
    -- the records before are shown alike too, but the new one is enough
    have last := (List.append_inj' shown rfl).2
    exact createsAlike_of_shown (List.cons.inj last).1
  | @updated req influencerId entries doc after update member stored stored' =>
    intro entries' doc' update'
    obtain ⟨rfl, rfl⟩ := update.unique update'
    rw [stored, stored', List.map_map, List.map_map] at shown
    have changed := List.map_inj_left.mp shown (ofDocument doc) member
    simp only [Function.comp_apply, if_true] at changed
    exact updatesAlike_of_shown (mirrored.normal _ (records ▸ member)) changed
  | restatus sets member stored stored' =>
    cases request with
    | create req => cases sets
    | update req influencerId => cases sets
    | _ => trivial

end Runs

theorem backends_agree_iff (mongo : MongoEngine) (engine : SqlEngine) (takes : engine.TakesStorable)
    (requests : List ComparableRequest) :
    Throughout (Backends.step mongo engine) (Backends.Agree mongo engine) .empty requests ↔
      AllSteps (Backends.step mongo engine) (Backends.Careful mongo) .empty requests :=
  @throughout_iff_allSteps _ _ (Backends.step mongo engine) (Backends.Careful mongo)
    (Backends.Agree mongo engine) Mirrored
    (fun _ mirrored => mirrored.agree takes) (fun _ _ mirrored => mirrored.step takes)
    (fun _ _ mirrored => mirrored.clash takes) _ mirrored_empty requests

/-- An engine with the columns of SQLite, which takes every value that fits. -/
def storingEngine : SqlEngine where
  mapperError := none
  binds _ := none
  toText v := v
  toInteger v := v
  refuses _ row := if (ofRow row).storable = true then none else some sqlTooLarge
  keeps _ _ := none
  dump := plainEngine.dump

theorem storingEngine_takes : storingEngine.TakesStorable where
  mapped := rfl
  binds _ _ := rfl
  text _ _ := rfl
  integer _ _ := rfl
  rows _ row := by simp [storingEngine]

/-- A creation with a name, a shortcode and a phone. -/
def reachableInfluencer : ComparableRequest :=
  ⟨.create (.ofEntries none [("name", .str "Sarah Kimani"), ("ussd_shortcode", .str "123"),
    ("phone", .str "254712345678")] rfl 0), _, _, rfl, rfl, by decide⟩

/-- An influencer with a phone is created and suspended. -/
theorem backends_agree_iff_reachable : Throughout (Backends.step plainMongo storingEngine)
    (Backends.Agree plainMongo storingEngine) .empty
      [reachableInfluencer, ⟨.suspend (shortcodeRequest "" "") 1, trivial⟩] := by
  refine (backends_agree_iff plainMongo storingEngine storingEngine_takes _).mpr ⟨?_, trivial, trivial⟩
  intro entries creation
  obtain rfl := Value.dict.inj (Except.ok.inj creation.parsed)
  exact ⟨.inl rfl, .inr rfl, rfl⟩

/-- An influencer without a phone is listed with null from the documents, and with the empty
string from the table. -/
theorem phoneless_influencer_differs : ¬Throughout (Backends.step plainMongo storingEngine)
    (Backends.Agree plainMongo storingEngine) .empty
      [⟨.create (shortcodeRequest "Sarah Kimani" "123"), _, _, rfl, rfl, by decide⟩] := by
  intro agree
  obtain ⟨-, same⟩ := (agree.2 ⟨.list, trivial⟩).2 rfl
  exact absurd (same rfl) (by decide +kernel)

end UssdCredit
