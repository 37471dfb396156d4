import UssdCredit.InfluencerRows

/-! An influencer behind its two representations, a document and a row: the record both stand
for, what each path shows a reader of it, and how the requests change it on either side. -/

namespace UssdCredit

open Library

/-- The strings, integers and nulls that the drivers take. -/
def Value.storable : Value → Bool
  | .str _ => true
  | .null => true
  | .int n => (encodeInt n).isNone
  | _ => false

/-- `v or default` is `v`. -/
def Value.stays (v default : Value) : Prop := v.truthy = true ∨ v = default

namespace Value

theorem pyOr_eq_iff {v default : Value} : v.pyOr default = v ↔ v.stays default := by
  unfold pyOr stays
  by_cases full : v.truthy = true
  · simp [full]
  · simp [full, eq_comm]

theorem pyOr_stays {v default : Value} (kept : v.stays default) : v.pyOr default = v :=
  pyOr_eq_iff.mpr kept

theorem pyOr_of_truthy {v : Value} (full : v.truthy = true) (default : Value) :
    v.pyOr default = v := if_pos full

theorem pyOr_null (v default : Value) : (v.pyOr .null).pyOr default = v.pyOr default := by
  by_cases full : v.truthy = true
  · rw [pyOr_of_truthy full]
  · have empty : v.pyOr .null = .null := if_neg full
    have replaced : v.pyOr default = default := if_neg full
    rw [empty, replaced]
    rfl

theorem storable_pyOr {v default : Value} (stored : v.storable = true)
    (other : default.storable = true) : (v.pyOr default).storable = true := by
  unfold pyOr
  split_ifs
  · exact stored
  · exact other

theorem storable_orDefault {v default : Value} (stored : v.storable = true)
    (other : default.storable = true) : (orDefault v default).storable = true := by
  unfold orDefault
  split_ifs
  · exact other
  · exact stored

theorem storable_cases {v : Value} (stored : v.storable = true) :
    v = .null ∨ (∃ s, v = .str s) ∨ ∃ n, v = .int n ∧ encodeInt n = none := by
  cases v with
  | list items => cases stored
  | dict entries => cases stored
  | scalar given =>
    cases given with
    | null => exact .inl rfl
    | str s => exact .inr (.inl ⟨s, rfl⟩)
    | int n => exact .inr (.inr ⟨n, rfl, Option.isNone_iff_eq_none.mp stored⟩)
    | _ => cases stored

theorem bsonError_of_storable {v : Value} (stored : v.storable = true) : v.bsonError = none := by
  rcases storable_cases stored with rfl | ⟨s, rfl⟩ | ⟨n, rfl, encodes⟩
  · rfl
  · rfl
  · exact encodes

/-- Storable values are sent as they are. -/
theorem jsonify_storable {v : Value} (stored : v.storable = true) : v.mapScalar jsonScalar = v := by
  rcases storable_cases stored with rfl | ⟨s, rfl⟩ | ⟨n, rfl, -⟩ <;> rfl

/-- A query for a storable value finds, among stored ones, this value only. -/
theorem matchesField_storable {query stored : Value} (asked : query.storable = true)
    (kept : stored.storable = true) : query.matchesField (some stored) = decide (query = stored) := by
  rcases storable_cases asked with rfl | ⟨s, rfl⟩ | ⟨n, rfl, -⟩ <;>
    rcases storable_cases kept with rfl | ⟨t, rfl⟩ | ⟨m, rfl, -⟩ <;> first
      | rfl
      | simp [matchesField]

end Value

/-- An update decides what its document holds where it has the key. -/
theorem Document.get_edit_self {update : Fields} (distinct : (update.map Prod.fst).Nodup)
    (key : String) (default : Value) (d : Document) :
    (d.edit d.oid update).get key default = (update.lookup key).getD (d.get key default) := by
  unfold Document.get
  rw [Document.edit_self_get?, Dict.lookup_setAll_of_nodup distinct]
  cases update.lookup key <;> rfl

/-- The stored fields of an influencer, moments apart. -/
structure InfluencerRecord where
  id : Value
  name : Value
  phone : Value
  imageUrl : Value
  ussdShortcode : Value
  received : Value
  status : Value

namespace InfluencerRecord

def ofDocument (d : Document) : InfluencerRecord where
  id := d.get "id" .null
  name := d.get "name" .null
  phone := d.get "phone" .null
  imageUrl := d.get "imageUrl" .null
  ussdShortcode := d.get "ussd_shortcode" .null
  received := d.get "received" .null
  status := d.get "status" .null

def ofRow (row : InfluencerRow) : InfluencerRecord where
  id := .int row.id
  name := row.name
  phone := row.phone
  imageUrl := row.imageUrl
  ussdShortcode := row.ussdShortcode
  received := row.received
  status := row.status

def values (r : InfluencerRecord) : List Value :=
  [r.id, r.name, r.phone, r.imageUrl, r.ussdShortcode, r.received, r.status]

/-- Every field holds a value the drivers take. -/
def storable (r : InfluencerRecord) : Bool := r.values.all Value.storable

theorem storable_iff {r : InfluencerRecord} : r.storable = true ↔
    r.id.storable = true ∧ r.name.storable = true ∧ r.phone.storable = true ∧
      r.imageUrl.storable = true ∧ r.ussdShortcode.storable = true ∧ r.received.storable = true ∧
      r.status.storable = true := by
  simp [storable, values]

/-- What a reader of the MongoDB path is shown, moments apart. -/
def mongoShown (r : InfluencerRecord) : Value := .dict [
  ("id", r.id),
  ("name", r.name),
  ("phone", r.phone),
  ("received", r.received),
  ("imageUrl", r.imageUrl.pyOr (.str "")),
  ("ussd_shortcode", r.ussdShortcode),
  ("status", r.status)]

/-- What a reader of the SQL path is shown. -/
def sqlShown (r : InfluencerRecord) : Value := .dict [
  ("id", r.id),
  ("name", r.name),
  ("phone", r.phone.pyOr (.str "")),
  ("received", r.received.pyOr (.int 0)),
  ("imageUrl", r.imageUrl.pyOr (.str "")),
  ("ussd_shortcode", r.ussdShortcode.pyOr (.str "")),
  ("status", r.status.pyOr (.str "active"))]

/-- The two paths show a record alike when no field of it is replaced by its default. -/
theorem shown_eq_iff {r r' : InfluencerRecord} : r.mongoShown = r'.sqlShown ↔
    r.id = r'.id ∧ r.name = r'.name ∧ r.phone = r'.phone.pyOr (.str "") ∧
      r.received = r'.received.pyOr (.int 0) ∧
      r.imageUrl.pyOr (.str "") = r'.imageUrl.pyOr (.str "") ∧
      r.ussdShortcode = r'.ussdShortcode.pyOr (.str "") ∧
      r.status = r'.status.pyOr (.str "active") := by
  simp [mongoShown, sqlShown]

/-! What the requests store. -/

def mongoCreated (entries : Fields) (count : Nat) : InfluencerRecord where
  id := .int (count + 1)
  name := given entries "name" (.str "")
  phone := given entries "phone" .null
  imageUrl := givenImage entries
  ussdShortcode := given entries "ussd_shortcode" .null
  received := given entries "received" (.int 0)
  status := given entries "status" (.str "active")

def sqlCreated (entries : Fields) (id : Int) : InfluencerRecord where
  id := .int id
  name := given entries "name" (.str "")
  phone := given entries "phone" .null
  imageUrl := givenImage entries
  ussdShortcode := given entries "ussd_shortcode" .null
  received := orDefault (given entries "received" (.int 0)) (.int 0)
  status := orDefault (given entries "status" (.str "active")) (.str "active")

def mongoUpdated (entries : Fields) (r : InfluencerRecord) : InfluencerRecord where
  id := r.id
  name := given entries "name" r.name
  phone := given entries "phone" r.phone
  imageUrl := (givenImage entries).pyOr r.imageUrl
  ussdShortcode := given entries "ussd_shortcode" r.ussdShortcode
  received := given entries "received" r.received
  status := given entries "status" r.status

def sqlUpdated (entries : Fields) (r : InfluencerRecord) : InfluencerRecord where
  id := r.id
  name := (given entries "name" .null).pyOr r.name
  phone := if given entries "phone" .null ≠ .null then given entries "phone" .null else r.phone
  imageUrl := (givenImage entries).pyOr r.imageUrl
  ussdShortcode := (given entries "ussd_shortcode" .null).pyOr r.ussdShortcode
  received :=
    if given entries "received" .null ≠ .null then given entries "received" .null else r.received
  status := (given entries "status" .null).pyOr r.status

def restatused (status : String) (r : InfluencerRecord) : InfluencerRecord :=
  { r with status := .str status }

variable {entries : Fields} {now : Int}

theorem ofDocument_newFields (oid count : Nat) :
    ofDocument ⟨oid, newFields entries now count⟩ = mongoCreated entries count := rfl

theorem ofRow_newRow (rows : List InfluencerRow) : ofRow (newRow entries now rows) =
    sqlCreated entries (Records.nextId (rows.map InfluencerRow.id)) := rfl

theorem ofDocument_updateFields (d : Document) :
    ofDocument (d.edit d.oid (updateFields entries d now)) = mongoUpdated entries (ofDocument d) := by
  have distinct : ((updateFields entries d now).map Prod.fst).Nodup := by simp [updateFields]
  simp only [ofDocument, Document.get_edit_self distinct]
  rfl

theorem ofDocument_statusFields (status : String) (d : Document) :
    ofDocument (d.edit d.oid (statusFields status now)) = restatused status (ofDocument d) := by
  have distinct : ((statusFields status now).map Prod.fst).Nodup := by simp [statusFields]
  simp only [ofDocument, Document.get_edit_self distinct]
  rfl

theorem ofRow_touch (old new : InfluencerRow) :
    ofRow (Influencers.Sql.touch now old new) = ofRow new := by
  unfold Influencers.Sql.touch
  split_ifs with same
  · rw [same]
  · rfl

theorem ofRow_updatedRow (row : InfluencerRow) :
    ofRow (updatedRow entries now row) = sqlUpdated entries (ofRow row) := ofRow_touch _ _

theorem ofRow_restatusRow (status : String) (row : InfluencerRow) :
    ofRow (restatusRow status now row) = restatused status (ofRow row) := ofRow_touch _ _

end InfluencerRecord

/-! What a reader is shown, without its moments. -/

def untimedRecord : Value → Value
  | .dict entries => .dict (entries.filter fun e => e.1 ≠ "created_at" && e.1 ≠ "updated_at")
  | v => v

/-- A list of influencers or one influencer without the moments. -/
def untimed : Value → Value
  | .list items => .list (items.map untimedRecord)
  | v => untimedRecord v

/-- A document as the API stores it: it has the keys of a record, and one spelling of the image. -/
structure Document.Complete (d : Document) : Prop where
  id : (d.get? "id").isSome
  name : (d.get? "name").isSome
  phone : (d.get? "phone").isSome
  ussdShortcode : (d.get? "ussd_shortcode").isSome
  received : (d.get? "received").isSome
  status : (d.get? "status").isSome
  image_url : d.get? "image_url" = none

theorem Document.get_of_isSome {d : Document} {key : String} (present : (d.get? key).isSome)
    (default default' : Value) : d.get key default = d.get key default' := by
  obtain ⟨v, held⟩ := Option.isSome_iff_exists.mp present
  rw [get, get, held, Option.getD_some, Option.getD_some]

theorem Document.Complete.edit {d : Document} (complete : d.Complete) {update : Fields}
    (other : "image_url" ∉ update.map Prod.fst) (oid : Nat) : (d.edit oid update).Complete := by
  have kept : ∀ key, (d.get? key).isSome → ((d.edit oid update).get? key).isSome := by
    intro key present
    unfold Document.edit
    split_ifs
    · exact Dict.isSome_lookup_setAll update present
    · exact present
  exact ⟨kept _ complete.id, kept _ complete.name, kept _ complete.phone,
    kept _ complete.ussdShortcode, kept _ complete.received, kept _ complete.status,
    (Document.edit_get? other oid d).trans complete.image_url⟩

theorem complete_newFields (oid : Nat) (entries : Fields) (now : Int) (count : Nat) :
    (Document.mk oid (newFields entries now count)).Complete := ⟨rfl, rfl, rfl, rfl, rfl, rfl, rfl⟩

namespace InfluencerRecord

theorem untimed_document {d : Document} (complete : d.Complete)
    (stored : (ofDocument d).storable = true) :
    untimedRecord ((Influencers.Mongo.normalized d).mapScalar jsonScalar) =
      (ofDocument d).mongoShown := by
  obtain ⟨id, name, phone, image, code, received, status⟩ := storable_iff.mp stored
  have image_url : d.get "image_url" .null = .null := by
    rw [Document.get, complete.image_url, Option.getD_none]
  have shown : ((d.get "imageUrl" .null).pyOr (d.get "image_url" .null)).pyOr (.str "") =
      (d.get "imageUrl" .null).pyOr (.str "") := by
    rw [image_url, Value.pyOr_null]
  have shown_storable : ((d.get "imageUrl" .null).pyOr (.str "")).storable = true :=
    Value.storable_pyOr image rfl
  simp only [Influencers.Mongo.normalized, Document.get_of_isSome complete.name (.str "") .null,
    Document.get_of_isSome complete.phone (.str "") .null,
    Document.get_of_isSome complete.received (.int 0) .null,
    Document.get_of_isSome complete.ussdShortcode (.str "") .null,
    Document.get_of_isSome complete.status (.str "active") .null, shown]
  simp only [ofDocument] at id name phone received code status
  simp [Value.mapScalar, Value.mapScalarEntries, untimedRecord, mongoShown, ofDocument,
    Value.jsonify_storable id, Value.jsonify_storable name, Value.jsonify_storable phone,
    Value.jsonify_storable received, Value.jsonify_storable shown_storable,
    Value.jsonify_storable code, Value.jsonify_storable status]

theorem untimed_row {row : InfluencerRow} (stored : (ofRow row).storable = true) :
    untimedRecord ((Influencers.Sql.normalized row).mapScalar jsonScalar) = (ofRow row).sqlShown := by
  obtain ⟨-, name, phone, image, code, received, status⟩ := storable_iff.mp stored
  have phone_shown := Value.jsonify_storable (Value.storable_pyOr phone (rfl : (Value.str "").storable = true))
  have image_shown := Value.jsonify_storable (Value.storable_pyOr image (rfl : (Value.str "").storable = true))
  have code_shown := Value.jsonify_storable (Value.storable_pyOr code (rfl : (Value.str "").storable = true))
  have received_shown :=
    Value.jsonify_storable (Value.storable_pyOr received (rfl : (Value.int 0).storable = true))
  have status_shown :=
    Value.jsonify_storable (Value.storable_pyOr status (rfl : (Value.str "active").storable = true))
  simp only [ofRow] at name phone_shown image_shown code_shown received_shown status_shown
  simp [Influencers.Sql.normalized, Value.mapScalar, Value.mapScalarEntries, untimedRecord, sqlShown,
    ofRow, jsonScalar, Value.jsonify_storable name, phone_shown, image_shown, code_shown,
    received_shown, status_shown]

/-! Where the two paths agree. -/

/-- A record that both paths show as it is stored. -/
structure Normal (r : InfluencerRecord) : Prop where
  named : r.name.truthy = true
  coded : r.ussdShortcode.truthy = true
  phone : r.phone.stays (.str "")
  received : r.received.stays (.int 0)
  status : r.status.truthy = true

theorem Normal.shown {r : InfluencerRecord} (normal : r.Normal) : r.mongoShown = r.sqlShown :=
  shown_eq_iff.mpr ⟨rfl, rfl, (Value.pyOr_stays normal.phone).symm,
    (Value.pyOr_stays normal.received).symm, rfl, (Value.pyOr_of_truthy normal.coded _).symm,
    (Value.pyOr_of_truthy normal.status _).symm⟩

theorem Normal.restatused {r : InfluencerRecord} (normal : r.Normal) {status : String}
    (named : status ≠ "") : (r.restatused status).Normal where
  named := normal.named
  coded := normal.coded
  phone := normal.phone
  received := normal.received
  status := decide_eq_true named

end InfluencerRecord

/-- A payload whose creation both paths store and show alike: a phone is given and not null or
zero, and neither an amount nor a status is given as null or empty. -/
structure CreatesAlike (entries : Fields) : Prop where
  phone : (given entries "phone" .null).stays (.str "")
  received : (given entries "received" (.int 0)).stays (.int 0)
  status : (given entries "status" (.str "active")).truthy = true

/-- A payload that both paths apply alike: what it gives is not null or empty, except that the
phone may be the empty string and the amount zero. -/
structure UpdatesAlike (entries : Fields) : Prop where
  name : ∀ v, entries.lookup "name" = some v → v.truthy = true
  phone : ∀ v, entries.lookup "phone" = some v → v.stays (.str "")
  ussdShortcode : ∀ v, entries.lookup "ussd_shortcode" = some v → v.truthy = true
  received : ∀ v, entries.lookup "received" = some v → v.stays (.int 0)
  status : ∀ v, entries.lookup "status" = some v → v.truthy = true

namespace Value

theorem stays_ne_null {v default : Value} (kept : v.stays default) (other : default ≠ .null) :
    v ≠ .null := by
  rintro rfl
  rcases kept with full | same
  · cases full
  · exact other same.symm

theorem stays_truthy {v default : Value} (kept : v.stays default) (full : default.truthy = true) :
    v.truthy = true := by
  rcases kept with here | rfl
  · exact here
  · exact full

theorem orDefault_of_ne {v : Value} (given : v ≠ .null) (default : Value) :
    orDefault v default = v := if_neg given

/-- A value that survives both the default of its column and that of its reading. -/
theorem stays_of_shown {v default : Value} (other : default ≠ .null)
    (same : v = (orDefault v default).pyOr default) : v.stays default := by
  by_cases absent : v = .null
  · rw [absent] at same
    have read : (orDefault .null default).pyOr default = default := by
      rw [orDefault, if_pos rfl, pyOr, ite_self]
    exact absurd (same.trans read).symm other
  · rw [orDefault_of_ne absent] at same
    exact pyOr_eq_iff.mp same.symm

end Value

section Payloads

open InfluencerRecord

variable {entries : Fields}

theorem CreatesAlike.created (alike : CreatesAlike entries)
    (named : (given entries "name" .null).truthy = true)
    (coded : (given entries "ussd_shortcode" .null).truthy = true) (count : Nat) :
    mongoCreated entries count = sqlCreated entries (count + 1) ∧ (mongoCreated entries count).Normal := by
  have received := Value.orDefault_of_ne (Value.stays_ne_null alike.received nofun) (.int 0)
  have status_given : given entries "status" (.str "active") ≠ .null := fun absent => by
    have full := alike.status
    rw [absent] at full
    cases full
  have status := Value.orDefault_of_ne status_given (.str "active")
  have name : (given entries "name" (.str "")).truthy = true := by
    cases present : entries.lookup "name" with
    | some v =>
      rw [given_of_present present] at named ⊢
      exact named
    | none =>
      rw [given_of_absent present] at named
      cases named
  refine ⟨?_, name, coded, alike.phone, alike.received, alike.status⟩
  simp only [mongoCreated, sqlCreated, received, status]

theorem createsAlike_of_shown {count : Nat} {id : Int}
    (shown : (mongoCreated entries count).mongoShown = (sqlCreated entries id).sqlShown) :
    CreatesAlike entries := by
  obtain ⟨-, -, phone, received, -, -, status⟩ := shown_eq_iff.mp shown
  have active : (given entries "status" (.str "active")).stays (.str "active") :=
    Value.stays_of_shown nofun status
  exact ⟨Value.pyOr_eq_iff.mp phone.symm, Value.stays_of_shown nofun received,
    Value.stays_truthy active rfl⟩

/-- A field that an update sets when the payload gives something for it. -/
theorem pyOr_given {key : String} {old : Value}
    (full : ∀ v, entries.lookup key = some v → v.truthy = true) :
    (given entries key .null).pyOr old = given entries key old := by
  cases present : entries.lookup key with
  | none =>
    rw [given_of_absent present, given_of_absent present]
    rfl
  | some v =>
    rw [given_of_present present, given_of_present present]
    exact Value.pyOr_of_truthy (full v present) old

/-- A field that an update sets when the payload gives something other than null for it. -/
theorem unless_null_given {key : String} {old default : Value} (other : default ≠ .null)
    (kept : ∀ v, entries.lookup key = some v → v.stays default) :
    (if given entries key .null ≠ .null then given entries key .null else old) =
      given entries key old := by
  cases present : entries.lookup key with
  | none =>
    rw [given_of_absent present, given_of_absent present]
    rfl
  | some v =>
    rw [given_of_present present, given_of_present present]
    exact if_pos (Value.stays_ne_null (kept v present) other)

theorem given_holds {key : String} {old : Value} {holds : Value → Prop} (before : holds old)
    (given_one : ∀ v, entries.lookup key = some v → holds v) : holds (given entries key old) := by
  cases present : entries.lookup key with
  | none => rwa [given_of_absent present]
  | some v =>
    rw [given_of_present present]
    exact given_one v present

theorem UpdatesAlike.updated (alike : UpdatesAlike entries) {r : InfluencerRecord}
    (normal : r.Normal) :
    mongoUpdated entries r = sqlUpdated entries r ∧ (mongoUpdated entries r).Normal := by
  have phone := @unless_null_given _ "phone" r.phone _ (nofun : Value.str "" ≠ .null) alike.phone
  have received :=
    @unless_null_given _ "received" r.received _ (nofun : Value.int 0 ≠ .null) alike.received
  constructor
  · simp only [mongoUpdated, sqlUpdated, pyOr_given alike.name, pyOr_given alike.ussdShortcode,
      pyOr_given alike.status, phone, received]
  · exact ⟨@given_holds _ _ _ (·.truthy = true) normal.named alike.name,
      @given_holds _ _ _ (·.truthy = true) normal.coded alike.ussdShortcode,
      @given_holds _ _ _ (·.stays (.str "")) normal.phone alike.phone,
      @given_holds _ _ _ (·.stays (.int 0)) normal.received alike.received,
      @given_holds _ _ _ (·.truthy = true) normal.status alike.status⟩

/-- A given value that is shown in place of a full old one is full itself. -/
theorem truthy_of_shown {v old : Value} (full : old.truthy = true) (default : Value)
    (same : v = (v.pyOr old).pyOr default) : v.truthy = true := by
  by_contra empty
  have replaced : v.pyOr old = old := if_neg empty
  rw [replaced, Value.pyOr_of_truthy full] at same
  exact empty (same ▸ full)

theorem stays_of_updated {v old default : Value} (other : default ≠ .null) (kept : old.stays default)
    (same : v = (if v ≠ .null then v else old).pyOr default) : v.stays default := by
  by_cases absent : v = .null
  · rw [if_neg (not_not_intro absent), Value.pyOr_stays kept] at same
    exact absurd (same.symm.trans absent) (Value.stays_ne_null kept other)
  · rw [if_pos absent] at same
    exact Value.pyOr_eq_iff.mp same.symm

theorem updatesAlike_of_shown {r : InfluencerRecord} (normal : r.Normal)
    (shown : (mongoUpdated entries r).mongoShown = (sqlUpdated entries r).sqlShown) :
    UpdatesAlike entries := by
  obtain ⟨-, name, phone, received, -, code, status⟩ := shown_eq_iff.mp shown
  simp only [mongoUpdated, sqlUpdated] at name phone received code status
  constructor
  · intro v present
    rw [given_of_present present, given_of_present present] at name
    refine truthy_of_shown normal.named v (name.trans ?_)
    rw [← name, Value.pyOr, ite_self]
  · intro v present
    rw [given_of_present present, given_of_present present] at phone
    exact stays_of_updated nofun normal.phone phone
  · intro v present
    rw [given_of_present present, given_of_present present] at code
    exact truthy_of_shown normal.coded _ code
  · intro v present
    rw [given_of_present present, given_of_present present] at received
    exact stays_of_updated nofun normal.received received
  · intro v present
    rw [given_of_present present, given_of_present present] at status
    exact truthy_of_shown normal.status _ status

end Payloads

end UssdCredit
