import UssdCredit.InfluencersApi

/-! What the requests do to the influencer documents: when each of them goes through, what it
then writes, and that it changes nothing otherwise. -/

namespace UssdCredit

open Library Program

/-- What a payload holds under a key, or a default. -/
def given (entries : Fields) (key : String) (default : Value) : Value := (entries.lookup key).getD default

theorem given_of_absent {entries : Fields} {key : String} (absent : entries.lookup key = none)
    (default : Value) : given entries key default = default := by
  rw [given, absent, Option.getD_none]

theorem given_of_present {entries : Fields} {key : String} {value : Value}
    (present : entries.lookup key = some value) (default : Value) :
    given entries key default = value := by
  rw [given, present, Option.getD_some]

/-! How the operations on the collection run. -/

section Rules

variable {α : Type} {mongo : MongoEngine} {c : Collection} {filter : Filter}

theorem run_mongoFindOne (encodes : Filter.bsonError (mongo.reading filter) = none)
    (f : Option Document → MongoProg α) :
    (Influencers.Mongo.perform (.findOne filter) >>= f).run (mongoExec mongo) c =
      (f (c.first? (mongo.reading filter))).run (mongoExec mongo) c := by
  have answered : mongoExec mongo (.findOne filter) c = (.ok (c.first? (mongo.reading filter)), c) := by
    change (c.findOne (mongo.reading filter), c) = _
    rw [Collection.findOne, encodes]
  exact run_perform_bind answered f

theorem run_mongoFindOne_error {e : PyExn} (refused : Filter.bsonError (mongo.reading filter) = some e)
    (f : Option Document → MongoProg α) :
    (Influencers.Mongo.perform (.findOne filter) >>= f).run (mongoExec mongo) c = (.error e, c) := by
  have raised : mongoExec mongo (.findOne filter) c = (.error e, c) := by
    change (c.findOne (mongo.reading filter), c) = _
    rw [Collection.findOne, refused]
  exact run_perform_error raised f

theorem run_mongoCount (f : Nat → MongoProg α) :
    (Influencers.Mongo.perform (.countDocuments []) >>= f).run (mongoExec mongo) c =
      (f c.docs.length).run (mongoExec mongo) c := by
  have answered : mongoExec mongo (.countDocuments []) c = (.ok c.docs.length, c) := by
    change (c.countDocuments [], c) = _
    rw [Collection.countDocuments_nil]
  exact run_perform_bind answered f

theorem newOid_fresh (c : Collection) : c.newOid ∉ c.docs.map Document.oid := by
  intro member
  have bound : ∀ (oids : List Nat) (first : Nat), first ≤ oids.foldl max first ∧
      ∀ oid ∈ oids, oid ≤ oids.foldl max first := by
    intro oids
    induction oids with
    | nil => simp
    | cons oid rest ih =>
      intro first
      obtain ⟨least, others⟩ := ih (max first oid)
      simp only [List.foldl_cons, List.forall_mem_cons]
      exact ⟨by omega, by omega, others⟩
  have above := (bound (c.docs.map Document.oid) 0).2 _ member
  unfold Collection.newOid at above
  omega

/-- Documents that encode are inserted under a new ObjectId. -/
theorem insertOne_newOid {fields : Fields} (encodes : Value.bsonErrorEntries fields = none) :
    ∃ c', c.insertOne c.newOid fields = .ok c' ∧ c'.docs = c.docs ++ [⟨c.newOid, fields⟩] := by
  obtain ⟨c', inserted⟩ := Collection.inserts_iff.mp ⟨newOid_fresh c, encodes⟩
  exact ⟨c', inserted, (Collection.insertOne_ok inserted).1⟩

theorem run_mongoInsert {fields : Fields} {c' : Collection} (accepted : mongo.refusal fields = none)
    (inserted : c.insertOne c.newOid fields = .ok c') (f : Unit → MongoProg α) :
    (Influencers.Mongo.perform (.insertOne fields) >>= f).run (mongoExec mongo) c =
      (f ()).run (mongoExec mongo) c' := by
  have answered : mongoExec mongo (.insertOne fields) c = (.ok (), c') := by
    change c.written () (mongo.refusal fields) (c.insertOne c.newOid fields) = _
    rw [inserted, accepted]
    rfl
  exact run_perform_bind answered f

theorem run_mongoInsert_error {fields : Fields}
    (refused : Value.bsonErrorEntries fields ≠ none ∨ mongo.refusal fields ≠ none)
    (f : Unit → MongoProg α) :
    ∃ e, (Influencers.Mongo.perform (.insertOne fields) >>= f).run (mongoExec mongo) c = (.error e, c) := by
  have raised : ∃ e, mongoExec mongo (.insertOne fields) c = (.error e, c) := by
    change ∃ e, c.written () (mongo.refusal fields) (c.insertOne c.newOid fields) = (.error e, c)
    cases inserted : c.insertOne c.newOid fields with
    | error e => exact ⟨e, rfl⟩
    | ok c' =>
      have encodes := (Collection.inserts_iff.mpr ⟨c', inserted⟩).2
      obtain ⟨e, refused⟩ := Option.ne_none_iff_exists'.mp (refused.resolve_left (absurd encodes))
      exact ⟨e, by rw [refused]; rfl⟩
  obtain ⟨e, raised⟩ := raised
  exact ⟨e, run_perform_error raised f⟩

/-- An update of the first match, with its matched_count. -/
theorem run_mongoUpdate {update : Fields} (encodes : Filter.bsonError (mongo.reading filter) = none)
    (encodes' : Value.bsonErrorEntries update = none) (accepted : mongo.refusal update = none)
    (f : Nat → MongoProg α) :
    ∃ c', (Influencers.Mongo.perform (.updateOne filter update) >>= f).run (mongoExec mongo) c =
        (f (c.matched (mongo.reading filter))).run (mongoExec mongo) c' ∧
      ((c.first? (mongo.reading filter) = none ∧ c' = c) ∨
        ∃ d, c.first? (mongo.reading filter) = some d ∧
          c'.docs = c.docs.map (Document.edit d.oid update)) := by
  cases updated : c.updateOne (mongo.reading filter) update with
  | ok c' =>
    have answered : mongoExec mongo (.updateOne filter update) c =
        (.ok (c.matched (mongo.reading filter)), c') := by
      change c.written (c.matched (mongo.reading filter)) (mongo.refusal update)
        (c.updateOne (mongo.reading filter) update) = _
      rw [updated, accepted]
      rfl
    exact ⟨c', run_perform_bind answered f, Collection.updateOne_ok updated⟩
  | error e =>
    unfold Collection.updateOne at updated
    split at updated
    · next refused => cases encodes.symm.trans refused
    · split at updated
      · next refused => cases encodes'.symm.trans refused
      · split at updated <;> cases updated

theorem run_mongoUpdate_error {update : Fields}
    (refused : Filter.bsonError (mongo.reading filter) ≠ none ∨ Value.bsonErrorEntries update ≠ none ∨
      mongo.refusal update ≠ none) (f : Nat → MongoProg α) :
    ∃ e, (Influencers.Mongo.perform (.updateOne filter update) >>= f).run (mongoExec mongo) c =
      (.error e, c) := by
  have raised : ∃ e, mongoExec mongo (.updateOne filter update) c = (.error e, c) := by
    change ∃ e, c.written (c.matched (mongo.reading filter)) (mongo.refusal update)
      (c.updateOne (mongo.reading filter) update) = (.error e, c)
    cases updated : c.updateOne (mongo.reading filter) update with
    | error e => exact ⟨e, rfl⟩
    | ok c' =>
      obtain ⟨sent, encodes⟩ := Collection.updateOne_sent updated
      obtain ⟨e, refused⟩ := Option.ne_none_iff_exists'.mp
        ((refused.resolve_left (absurd sent)).resolve_left (absurd encodes))
      exact ⟨e, by rw [refused]; rfl⟩
  obtain ⟨e, raised⟩ := raised
  exact ⟨e, run_perform_error raised f⟩

/-- A deletion of the first match, with its deleted_count. -/
theorem run_mongoDelete (encodes : Filter.bsonError (mongo.reading filter) = none)
    (f : Nat → MongoProg α) :
    ∃ c', (Influencers.Mongo.perform (.deleteOne filter) >>= f).run (mongoExec mongo) c =
        (f (c.matched (mongo.reading filter))).run (mongoExec mongo) c' ∧
      c'.docs = c.docs.eraseP (·.satisfies (mongo.reading filter)) := by
  cases deleted : c.deleteOne (mongo.reading filter) with
  | error e =>
    unfold Collection.deleteOne at deleted
    rw [encodes] at deleted
    cases deleted
  | ok c' =>
    have answered : mongoExec mongo (.deleteOne filter) c =
        (.ok (c.matched (mongo.reading filter)), c') := by
      change c.write (c.matched (mongo.reading filter)) (c.deleteOne (mongo.reading filter)) = _
      rw [deleted]
      rfl
    refine ⟨c', run_perform_bind answered f, ?_⟩
    unfold Collection.deleteOne at deleted
    rw [encodes] at deleted
    rw [← Except.ok.inj deleted]

theorem run_mongoDelete_error {e : PyExn} (refused : Filter.bsonError (mongo.reading filter) = some e)
    (f : Nat → MongoProg α) :
    (Influencers.Mongo.perform (.deleteOne filter) >>= f).run (mongoExec mongo) c = (.error e, c) := by
  have raised : mongoExec mongo (.deleteOne filter) c = (.error e, c) := by
    change c.write (c.matched (mongo.reading filter)) (c.deleteOne (mongo.reading filter)) = _
    rw [Collection.deleteOne, refused]
    rfl
  exact run_perform_error raised f

end Rules

/-! Creations. -/

section Requests

variable {mongo : MongoEngine}

/-- `payload.get("imageUrl") or payload.get("image_url")` of a JSON object. -/
def givenImage (entries : Fields) : Value := (given entries "imageUrl" .null).pyOr (given entries "image_url" .null)

theorem imageUrl_dict (entries : Fields) :
    Influencers.imageUrl (.dict entries) = .ok (givenImage entries) := rfl

/-- The document a creation stores. -/
def newFields (entries : Fields) (now : Int) (count : Nat) : Fields := [
  ("id", .int (count + 1)),
  ("phone", given entries "phone" .null),
  ("name", given entries "name" (.str "")),
  ("imageUrl", givenImage entries),
  ("ussd_shortcode", given entries "ussd_shortcode" .null),
  ("received", given entries "received" (.int 0)),
  ("status", given entries "status" (.str "active")),
  ("created_at", .str (isoformat now)),
  ("updated_at", .str (isoformat now))]

/-- The query for a document with the shortcode of the payload, as the server reads it: an object
of operators asks for something else. -/
def codeQuery (mongo : MongoEngine) (entries : Fields) : Filter :=
  mongo.reading [.eq "ussd_shortcode" (given entries "ussd_shortcode" .null)]

theorem codeQuery_str (mongo : MongoEngine) {entries : Fields} {s : String}
    (text : entries.lookup "ussd_shortcode" = some (.str s)) :
    codeQuery mongo entries = [.eq "ussd_shortcode" (.str s)] := by
  rw [codeQuery, given_of_present text, MongoEngine.reading_str]

/-- A creation that goes through: the server answers the query with no document, and takes the
new one. -/
structure Creation (mongo : MongoEngine) (c : Collection) (req : Http) (entries : Fields) : Prop where
  parsed : req.getJson = .ok (.dict entries)
  named : (given entries "name" .null).truthy = true
  coded : (given entries "ussd_shortcode" .null).truthy = true
  asked : (codeQuery mongo entries).bsonError = none
  free : c.first? (codeQuery mongo entries) = none
  encodes : Value.bsonErrorEntries (newFields entries req.now c.docs.length) = none
  accepted : mongo.refusal (newFields entries req.now c.docs.length) = none

theorem incomplete_dict (entries : Fields) : Influencers.incomplete (.dict entries) = .ok
    (if !(given entries "name" .null).truthy then some (abort 400 "Name is required")
    else if !(given entries "ussd_shortcode" .null).truthy then
      some (abort 400 "USSD shortcode is required")
    else none) := by
  unfold Influencers.incomplete given
  simp only [Value.pyGet_dict, Bind.bind, Except.bind, Pure.pure, Except.pure]
  split_ifs <;> rfl

/-- A payload that is no object stops both paths. -/
theorem pyGet_error {payload : Value} (other : ∀ entries, payload ≠ .dict entries) (key : String)
    (default : Value) : ∃ e, payload.pyGet key default = .error e := by
  cases payload with
  | dict entries => exact absurd rfl (other entries)
  | scalar s => exact ⟨_, rfl⟩
  | list items => exact ⟨_, rfl⟩

theorem incomplete_error {payload : Value} (other : ∀ entries, payload ≠ .dict entries) :
    ∃ e, Influencers.incomplete payload = .error e := by
  obtain ⟨e, raised⟩ := pyGet_error other "name" .null
  refine ⟨e, ?_⟩
  unfold Influencers.incomplete
  rw [raised]
  rfl

theorem bsonError_eq {field : String} {value : Value} :
    Filter.bsonError [.eq field value] = value.bsonError := by
  unfold Filter.bsonError
  cases encodes : value.bsonError <;> simp [encodes]

/-- How a creation with a JSON object can end. -/
inductive CreateRun (mongo : MongoEngine) (c : Collection) (req : Http) (entries : Fields) :
    Outcome × Collection → Prop where
  | unnamed (missing : (given entries "name" .null).truthy = false) :
      CreateRun mongo c req entries (.ok (abort 400 "Name is required"), c)
  | uncoded (named : (given entries "name" .null).truthy = true)
      (missing : (given entries "ussd_shortcode" .null).truthy = false) :
      CreateRun mongo c req entries (.ok (abort 400 "USSD shortcode is required"), c)
  | unasked {e : PyExn} (refused : (codeQuery mongo entries).bsonError ≠ none) :
      CreateRun mongo c req entries (.error e, c)
  | taken (named : (given entries "name" .null).truthy = true)
      (coded : (given entries "ussd_shortcode" .null).truthy = true)
      (found : (c.first? (codeQuery mongo entries)).isSome) :
      CreateRun mongo c req entries (.ok Influencers.taken, c)
  | unstored {e : PyExn} (named : (given entries "name" .null).truthy = true)
      (coded : (given entries "ussd_shortcode" .null).truthy = true)
      (free : c.first? (codeQuery mongo entries) = none)
      (refused : Value.bsonErrorEntries (newFields entries req.now c.docs.length) ≠ none ∨
        mongo.refusal (newFields entries req.now c.docs.length) ≠ none) :
      CreateRun mongo c req entries (.error e, c)
  | created {e : PyExn} {c' : Collection} (creation : Creation mongo c req entries)
      (stored : c'.docs = c.docs ++ [⟨c.newOid, newFields entries req.now c.docs.length⟩]) :
      CreateRun mongo c req entries (.error e, c')

theorem create_run {req : Http} {entries : Fields} (parsed : req.getJson = .ok (.dict entries))
    (mongo : MongoEngine) (c : Collection) :
    CreateRun mongo c req entries
      ((Influencers.Mongo.createInfluencer req).run (mongoExec mongo) c) := by
  unfold Influencers.Mongo.createInfluencer
  rw [run_lift_bind _ parsed, run_lift_bind _ (incomplete_dict entries)]
  cases named : (given entries "name" .null).truthy with
  | false => exact .unnamed named
  | true =>
    cases coded : (given entries "ussd_shortcode" .null).truthy with
    | false => exact .uncoded named coded
    | true =>
      simp only [Bool.not_true, Bool.false_eq_true, if_false]
      rw [run_lift_bind _ (Value.pyGet_dict entries "ussd_shortcode" .null)]
      change CreateRun mongo c req entries (run (mongoExec mongo) (Influencers.Mongo.perform
        (.findOne [.eq "ussd_shortcode" (given entries "ussd_shortcode" .null)]) >>= _) c)
      cases asked : (codeQuery mongo entries).bsonError with
      | some e =>
        rw [run_mongoFindOne_error asked]
        exact .unasked (by rw [asked]; exact Option.some_ne_none e)
      | none =>
        rw [run_mongoFindOne asked]
        change CreateRun mongo c req entries (run (mongoExec mongo)
          (if (c.first? (codeQuery mongo entries)).isSome then _ else _) c)
        cases found : (c.first? (codeQuery mongo entries)).isSome with
        | true => exact .taken named coded found
        | false =>
          rw [if_neg Bool.false_ne_true, run_mongoCount]
          rw [run_lift_bind _ (Value.pyGet_dict entries "phone" .null)]
          rw [run_lift_bind _ (Value.pyGet_dict entries "name" (.str ""))]
          rw [run_lift_bind _ (imageUrl_dict entries)]
          rw [run_lift_bind _ (Value.pyGet_dict entries "ussd_shortcode" .null)]
          rw [run_lift_bind _ (Value.pyGet_dict entries "received" (.int 0))]
          rw [run_lift_bind _ (Value.pyGet_dict entries "status" (.str "active"))]
          change CreateRun mongo c req entries (run (mongoExec mongo) (Influencers.Mongo.perform
            (.insertOne (newFields entries req.now c.docs.length)) >>= _) c)
          have free := Option.not_isSome_iff_eq_none.mp (Bool.eq_false_iff.mp found)
          by_cases takes : Value.bsonErrorEntries (newFields entries req.now c.docs.length) = none ∧
              mongo.refusal (newFields entries req.now c.docs.length) = none
          · obtain ⟨encodes, accepted⟩ := takes
            obtain ⟨c', inserted, stored⟩ := insertOne_newOid encodes
            rw [run_mongoInsert accepted inserted]
            exact .created ⟨parsed, named, coded, asked, free, encodes, accepted⟩ stored
          · have refused := not_and_or.mp takes
            obtain ⟨e, raised⟩ := run_mongoInsert_error refused _
            rw [raised]
            exact .unstored named coded free refused

/-- With an influencer stored, another one with the shortcode `{"$ne": "zzz"}` is refused. -/
example :
    let stored := InfluencersRequest.mongoStep plainMongo .empty (.create (shortcodeRequest "Sarah" "123"))
    let operators := Http.ofEntries none [("name", .str "Grace"),
      ("ussd_shortcode", .dict [("$ne", .str "zzz")])] rfl 0
    (InfluencersRequest.mongoServe plainMongo (.create operators) stored).1 = .ok Influencers.taken := by
  decide +kernel

/-! Updates. -/

/-- The fields an update sets. -/
def updateFields (entries : Fields) (doc : Document) (now : Int) : Fields := [
  ("phone", given entries "phone" (doc.get "phone" .null)),
  ("name", given entries "name" (doc.get "name" .null)),
  ("imageUrl", (givenImage entries).pyOr (doc.get "imageUrl" .null)),
  ("ussd_shortcode", given entries "ussd_shortcode" (doc.get "ussd_shortcode" .null)),
  ("received", given entries "received" (doc.get "received" .null)),
  ("status", given entries "status" (doc.get "status" .null)),
  ("updated_at", .str (isoformat now))]

theorem updateData_dict (req : Http) (entries : Fields) (doc : Document) :
    Influencers.Mongo.updateData req (.dict entries) doc = .ok (updateFields entries doc req.now) := rfl

/-- The update brings a shortcode that differs from the document's. -/
def recodes (entries : Fields) (doc : Document) : Bool :=
  (given entries "ussd_shortcode" .null).truthy &&
    !(given entries "ussd_shortcode" .null).pyEq (doc.get "ussd_shortcode" .null)

/-- An update that goes through, to the document it finds. -/
structure Update (mongo : MongoEngine) (c : Collection) (req : Http) (influencerId : Nat)
    (entries : Fields) (doc : Document) : Prop where
  parsed : req.getJson = .ok (.dict entries)
  reachable : encodeInt influencerId = none
  found : c.first? [.eq "id" (.int influencerId)] = some doc
  asked : recodes entries doc = true → (codeQuery mongo entries).bsonError = none
  free : recodes entries doc = true → c.first? (codeQuery mongo entries) = none
  encodes : Value.bsonErrorEntries (updateFields entries doc req.now) = none
  accepted : mongo.refusal (updateFields entries doc req.now) = none

/-- How an update with a JSON object can end. -/
inductive UpdateRun (mongo : MongoEngine) (c : Collection) (req : Http) (influencerId : Nat)
    (entries : Fields) : Outcome × Collection → Prop where
  | unsent {e : PyExn} (large : encodeInt influencerId ≠ none) :
      UpdateRun mongo c req influencerId entries (.error e, c)
  | missing (reachable : encodeInt influencerId = none)
      (absent : c.first? [.eq "id" (.int influencerId)] = none) :
      UpdateRun mongo c req influencerId entries (.ok (abort 404 "Influencer not found"), c)
  | unasked {e : PyExn} {doc : Document} (found : c.first? [.eq "id" (.int influencerId)] = some doc)
      (differs : recodes entries doc = true) (refused : (codeQuery mongo entries).bsonError ≠ none) :
      UpdateRun mongo c req influencerId entries (.error e, c)
  | taken {doc : Document} (reachable : encodeInt influencerId = none)
      (found : c.first? [.eq "id" (.int influencerId)] = some doc) (differs : recodes entries doc = true)
      (other : (c.first? (codeQuery mongo entries)).isSome) :
      UpdateRun mongo c req influencerId entries (.ok Influencers.taken, c)
  | unstored {e : PyExn} {doc : Document} (found : c.first? [.eq "id" (.int influencerId)] = some doc)
      (refused : Value.bsonErrorEntries (updateFields entries doc req.now) ≠ none ∨
        mongo.refusal (updateFields entries doc req.now) ≠ none) :
      UpdateRun mongo c req influencerId entries (.error e, c)
  | updated {doc : Document} {body : Value} {c' : Collection}
      (update : Update mongo c req influencerId entries doc)
      (stored : c'.docs = c.docs.map (Document.edit doc.oid (updateFields entries doc req.now))) :
      UpdateRun mongo c req influencerId entries (.ok (jsonify 200 body), c')

theorem shortcodeConflict_keeps {entries : Fields} {doc : Document} (plain : recodes entries doc = false) :
    Influencers.Mongo.shortcodeConflict (.dict entries) doc = pure false := by
  unfold recodes given at plain
  unfold Influencers.Mongo.shortcodeConflict
  change (if _ then _ else _) = _
  exact if_neg (by rw [plain]; exact Bool.false_ne_true)

theorem shortcodeConflict_recodes {entries : Fields} {doc : Document}
    (differs : recodes entries doc = true) :
    Influencers.Mongo.shortcodeConflict (.dict entries) doc =
      Influencers.Mongo.perform (.findOne [.eq "ussd_shortcode" (given entries "ussd_shortcode" .null)]) >>=
        fun existing => pure existing.isSome := by
  unfold recodes given at differs
  unfold Influencers.Mongo.shortcodeConflict
  change (if _ then _ else _) = _
  exact if_pos differs

theorem run_shortcodeConflict {mongo : MongoEngine} {entries : Fields} {doc : Document} {c : Collection}
    (differs : recodes entries doc = true) (asked : (codeQuery mongo entries).bsonError = none) :
    (Influencers.Mongo.shortcodeConflict (.dict entries) doc).run (mongoExec mongo) c =
      (.ok (c.first? (codeQuery mongo entries)).isSome, c) := by
  rw [shortcodeConflict_recodes differs, run_mongoFindOne asked]
  rfl

theorem run_shortcodeConflict_error {mongo : MongoEngine} {entries : Fields} {doc : Document}
    {c : Collection} {e : PyExn} (differs : recodes entries doc = true)
    (refused : (codeQuery mongo entries).bsonError = some e) :
    (Influencers.Mongo.shortcodeConflict (.dict entries) doc).run (mongoExec mongo) c =
      (.error e, c) := by
  rw [shortcodeConflict_recodes differs, run_mongoFindOne_error refused]

/-- The query for an id is the same under every server. -/
theorem bsonError_id (mongo : MongoEngine) (influencerId : Nat) :
    Filter.bsonError (mongo.reading [.eq "id" (.int influencerId)]) = encodeInt influencerId :=
  bsonError_eq

theorem update_run {req : Http} {entries : Fields} (parsed : req.getJson = .ok (.dict entries))
    (mongo : MongoEngine) (c : Collection) (influencerId : Nat) :
    UpdateRun mongo c req influencerId entries
      ((Influencers.Mongo.updateInfluencer req influencerId).run (mongoExec mongo) c) := by
  unfold Influencers.Mongo.updateInfluencer
  rw [run_lift_bind _ parsed]
  cases reachable : encodeInt influencerId with
  | some e =>
    have refused := (bsonError_id mongo influencerId).trans reachable
    rw [run_mongoFindOne_error refused]
    exact .unsent (by rw [reachable]; exact Option.some_ne_none e)
  | none =>
    rw [run_mongoFindOne ((bsonError_id mongo influencerId).trans reachable), MongoEngine.reading_int]
    cases found : c.first? [.eq "id" (.int influencerId)] with
    | none => exact .missing reachable found
    | some doc =>
      have write : ∀ (asked : recodes entries doc = true → (codeQuery mongo entries).bsonError = none)
          (free : recodes entries doc = true → c.first? (codeQuery mongo entries) = none),
          UpdateRun mongo c req influencerId entries (run (mongoExec mongo) (do
            let update ← Influencers.Mongo.updateData req (.dict entries) doc
            let _ ← Influencers.Mongo.perform (.updateOne [.eq "id" (.int influencerId)] update)
            let updated ← Influencers.Mongo.perform (.findOne [.eq "id" (.int influencerId)])
            return jsonify 200 ((updated.map fun d => Value.dict d.fields).getD .null)) c) := by
        intro asked free
        rw [run_lift_bind _ (updateData_dict req entries doc)]
        by_cases takes : Value.bsonErrorEntries (updateFields entries doc req.now) = none ∧
            mongo.refusal (updateFields entries doc req.now) = none
        · obtain ⟨encodes, accepted⟩ := takes
          obtain ⟨c', moved, written⟩ := run_mongoUpdate
            ((bsonError_id mongo influencerId).trans reachable) encodes accepted _
          rw [moved, run_mongoFindOne ((bsonError_id mongo influencerId).trans reachable)]
          rcases written with ⟨absent, -⟩ | ⟨doc', found', stored⟩
          · cases absent.symm.trans found
          · obtain rfl : doc' = doc := Option.some.inj (found'.symm.trans found)
            exact .updated ⟨parsed, reachable, found, asked, free, encodes, accepted⟩ stored
        · have refused := not_and_or.mp takes
          obtain ⟨e, raised⟩ := run_mongoUpdate_error (.inr refused) _
          rw [raised]
          exact .unstored found refused
      dsimp only
      cases differs : recodes entries doc with
      | false =>
        rw [shortcodeConflict_keeps differs]
        have plain : ¬recodes entries doc = true := ne_true_of_eq_false differs
        exact write (absurd · plain) (absurd · plain)
      | true =>
        rw [run_bind]
        cases asked : (codeQuery mongo entries).bsonError with
        | some e =>
          rw [run_shortcodeConflict_error differs asked]
          exact .unasked found differs (by rw [asked]; exact Option.some_ne_none e)
        | none =>
          rw [run_shortcodeConflict differs asked]
          cases other : (c.first? (codeQuery mongo entries)).isSome with
          | true => exact .taken reachable found differs other
          | false =>
            exact write (fun _ => asked) fun _ =>
              Option.not_isSome_iff_eq_none.mp (Bool.eq_false_iff.mp other)

/-! Status changes and deletions. -/

def statusFields (status : String) (now : Int) : Fields :=
  [("status", .str status), ("updated_at", .str (isoformat now))]

theorem bsonError_statusFields (status : String) (now : Int) :
    Value.bsonErrorEntries (statusFields status now) = none := by
  simp [bsonErrorEntries_none, statusFields, encodeKey, Value.bsonError]

/-- The server takes the fields of a status view: no key starts with `$`. -/
theorem refusal_statusFields (mongo : MongoEngine) (status : String) (now : Int) :
    mongo.refusal (statusFields status now) = none := rfl

/-- How a status view can end. -/
inductive StatusRun (c : Collection) (status done : String) (now : Int) (influencerId : Nat) :
    Outcome × Collection → Prop where
  | unsent {e : PyExn} (large : encodeInt influencerId ≠ none) :
      StatusRun c status done now influencerId (.error e, c)
  | missing (reachable : encodeInt influencerId = none)
      (absent : c.first? [.eq "id" (.int influencerId)] = none) :
      StatusRun c status done now influencerId (.ok (abort 404 "Influencer not found"), c)
  | changed {doc : Document} {c' : Collection} (reachable : encodeInt influencerId = none)
      (found : c.first? [.eq "id" (.int influencerId)] = some doc)
      (stored : c'.docs = c.docs.map (Document.edit doc.oid (statusFields status now))) :
      StatusRun c status done now influencerId (.ok (message 200 done), c')

theorem status_run (mongo : MongoEngine) (c : Collection) (req : Http) (status done : String)
    (influencerId : Nat) :
    StatusRun c status done req.now influencerId
      ((Influencers.Mongo.setStatus req status done influencerId).run (mongoExec mongo) c) := by
  unfold Influencers.Mongo.setStatus
  change StatusRun c status done req.now influencerId (run (mongoExec mongo) (Influencers.Mongo.perform
    (.updateOne [.eq "id" (.int influencerId)] (statusFields status req.now)) >>= _) c)
  cases reachable : encodeInt influencerId with
  | some e =>
    have large : encodeInt influencerId ≠ none := by
      rw [reachable]
      exact Option.some_ne_none e
    have refused := (bsonError_id mongo influencerId).trans_ne large
    obtain ⟨e', raised⟩ := run_mongoUpdate_error (.inl refused) _
    rw [raised]
    exact .unsent large
  | none =>
    obtain ⟨c', moved, written⟩ := run_mongoUpdate ((bsonError_id mongo influencerId).trans reachable)
      (bsonError_statusFields status req.now) (refusal_statusFields mongo status req.now) _
    rw [moved]
    rcases written with ⟨absent, rfl⟩ | ⟨doc, found, stored⟩
    · rw [Collection.matched, absent]
      exact .missing reachable absent
    · rw [Collection.matched, found]
      exact .changed reachable found stored

/-- How a deletion can end. -/
inductive DeleteRun (c : Collection) (influencerId : Nat) : Outcome × Collection → Prop where
  | unsent {e : PyExn} (large : encodeInt influencerId ≠ none) : DeleteRun c influencerId (.error e, c)
  | ran {response : Response} {c' : Collection} (reachable : encodeInt influencerId = none)
      (stored : c'.docs = c.docs.eraseP (·.satisfies [.eq "id" (.int influencerId)])) :
      DeleteRun c influencerId (.ok response, c')

theorem delete_run (mongo : MongoEngine) (c : Collection) (influencerId : Nat) :
    DeleteRun c influencerId ((Influencers.Mongo.deleteInfluencer influencerId).run (mongoExec mongo) c) := by
  unfold Influencers.Mongo.deleteInfluencer
  cases reachable : encodeInt influencerId with
  | some e =>
    have refused := (bsonError_id mongo influencerId).trans reachable
    rw [run_mongoDelete_error refused]
    exact .unsent (by rw [reachable]; exact Option.some_ne_none e)
  | none =>
    obtain ⟨c', moved, stored⟩ := run_mongoDelete ((bsonError_id mongo influencerId).trans reachable) _
    rw [moved]
    split_ifs <;> exact .ran reachable stored

/-! One request. -/

/-- The status a request sets, with the moment and the id it is for. -/
def InfluencersRequest.setsStatus : InfluencersRequest → Option (String × Int × Nat)
  | .suspend req influencerId => some ("suspended", req.now, influencerId)
  | .activate req influencerId => some ("active", req.now, influencerId)
  | .terminate req influencerId => some ("terminated", req.now, influencerId)
  | _ => none

/-- What a request does to the documents. -/
inductive DocsEffect (mongo : MongoEngine) (c : Collection) : InfluencersRequest → Collection → Prop where
  | kept {request : InfluencersRequest} : DocsEffect mongo c request c
  | created {req : Http} {entries : Fields} {c' : Collection} (creation : Creation mongo c req entries)
      (stored : c'.docs = c.docs ++ [⟨c.newOid, newFields entries req.now c.docs.length⟩]) :
      DocsEffect mongo c (.create req) c'
  | updated {req : Http} {influencerId : Nat} {entries : Fields} {doc : Document} {c' : Collection}
      (update : Update mongo c req influencerId entries doc)
      (stored : c'.docs = c.docs.map (Document.edit doc.oid (updateFields entries doc req.now))) :
      DocsEffect mongo c (.update req influencerId) c'
  | restatus {request : InfluencersRequest} {status : String} {now : Int} {influencerId : Nat}
      {doc : Document} {c' : Collection} (sets : request.setsStatus = some (status, now, influencerId))
      (reachable : encodeInt influencerId = none)
      (found : c.first? [.eq "id" (.int influencerId)] = some doc)
      (stored : c'.docs = c.docs.map (Document.edit doc.oid (statusFields status now))) :
      DocsEffect mongo c request c'
  | deleted {influencerId : Nat} {c' : Collection}
      (stored : c'.docs = c.docs.eraseP (·.satisfies [.eq "id" (.int influencerId)])) :
      DocsEffect mongo c (.delete influencerId) c'

theorem docsEffect_status {c : Collection} {request : InfluencersRequest} {status done : String}
    {req : Http} {influencerId : Nat} (sets : request.setsStatus = some (status, req.now, influencerId)) :
    DocsEffect mongo c request
      ((Influencers.Mongo.setStatus req status done influencerId).run (mongoExec mongo) c).2 := by
  have ran := status_run mongo c req status done influencerId
  generalize (Influencers.Mongo.setStatus req status done influencerId).run (mongoExec mongo) c =
    result at ran
  cases ran with
  | unsent large => exact .kept
  | missing reachable absent => exact .kept
  | changed reachable found stored => exact .restatus sets reachable found stored

/-- A creation without a JSON object raises before it writes. -/
theorem create_unread {req : Http} {c : Collection}
    (unread : ∀ entries, req.getJson ≠ .ok (.dict entries)) :
    ∃ e, InfluencersRequest.mongoServe mongo (.create req) c = (.error e, c) := by
  change ∃ e, (Influencers.Mongo.createInfluencer req).run (mongoExec mongo) c = (.error e, c)
  unfold Influencers.Mongo.createInfluencer
  cases parsed : req.getJson with
  | error e => exact ⟨e, rfl⟩
  | ok payload =>
    have other : ∀ entries, payload ≠ .dict entries := fun entries same => unread entries (same ▸ parsed)
    obtain ⟨e, raised⟩ := incomplete_error other
    rw [run_lift_bind _ rfl, raised]
    exact ⟨e, rfl⟩

theorem update_unread {req : Http} {c : Collection} (influencerId : Nat)
    (unread : ∀ entries, req.getJson ≠ .ok (.dict entries)) :
    InfluencersRequest.mongoStep mongo c (.update req influencerId) = c := by
  change ((Influencers.Mongo.updateInfluencer req influencerId).run (mongoExec mongo) c).2 = c
  unfold Influencers.Mongo.updateInfluencer
  cases parsed : req.getJson with
  | error e => rfl
  | ok payload =>
    have other : ∀ entries, payload ≠ .dict entries := fun entries same => unread entries (same ▸ parsed)
    rw [run_lift_bind _ rfl]
    cases reachable : Filter.bsonError (mongo.reading [.eq "id" (.int influencerId)]) with
    | some e => rw [run_mongoFindOne_error reachable]
    | none =>
      rw [run_mongoFindOne reachable, MongoEngine.reading_int]
      cases c.first? [.eq "id" (.int influencerId)] with
      | none => rfl
      | some doc =>
        obtain ⟨e, raised⟩ := pyGet_error other "ussd_shortcode" .null
        dsimp only
        unfold Influencers.Mongo.shortcodeConflict
        rw [raised]
        rfl

/-- The list reads every document and changes none. -/
theorem mongoServe_list (mongo : MongoEngine) (c : Collection) :
    InfluencersRequest.mongoServe mongo .list c =
    (.ok (jsonify 200 (.list (c.docs.map Influencers.Mongo.normalized))), c) := by
  have everything : c.docs.filter (·.satisfies []) = c.docs :=
    List.filter_eq_self.mpr fun _ _ => rfl
  change (Except.ok (jsonify 200 (.list ((c.docs.filter (·.satisfies [])).map
    Influencers.Mongo.normalized))), c) = _
  rw [everything]

theorem get_keeps (mongo : MongoEngine) (c : Collection) (influencerId : Nat) :
    InfluencersRequest.mongoStep mongo c (.get influencerId) = c := by
  change ((Influencers.Mongo.getInfluencer influencerId).run (mongoExec mongo) c).2 = c
  unfold Influencers.Mongo.getInfluencer
  cases reachable : Filter.bsonError (mongo.reading [.eq "id" (.int influencerId)]) with
  | some e => rw [run_mongoFindOne_error reachable]
  | none =>
    rw [run_mongoFindOne reachable, MongoEngine.reading_int]
    cases c.first? [.eq "id" (.int influencerId)] with
    | none => rfl
    | some doc =>
      dsimp only
      split_ifs <;> rfl

theorem docs_effect (mongo : MongoEngine) (c : Collection) (request : InfluencersRequest) :
    DocsEffect mongo c request (request.mongoStep mongo c) := by
  cases request with
  | list => exact .kept
  | get influencerId =>
    rw [get_keeps]
    exact .kept
  | create req =>
    by_cases read : ∃ entries, req.getJson = .ok (.dict entries)
    · obtain ⟨entries, parsed⟩ := read
      have ran := create_run parsed mongo c
      change DocsEffect mongo c _ ((Influencers.Mongo.createInfluencer req).run (mongoExec mongo) c).2
      generalize (Influencers.Mongo.createInfluencer req).run (mongoExec mongo) c = result at ran
      cases ran with
      | created creation stored => exact .created creation stored
      | _ => exact .kept
    · obtain ⟨e, ran⟩ := @create_unread mongo req c fun entries same => read ⟨entries, same⟩
      change DocsEffect mongo c _ (InfluencersRequest.mongoServe mongo (.create req) c).2
      rw [ran]
      exact .kept
  | update req influencerId =>
    by_cases read : ∃ entries, req.getJson = .ok (.dict entries)
    · obtain ⟨entries, parsed⟩ := read
      have ran := update_run parsed mongo c influencerId
      change DocsEffect mongo c _
        ((Influencers.Mongo.updateInfluencer req influencerId).run (mongoExec mongo) c).2
      generalize (Influencers.Mongo.updateInfluencer req influencerId).run (mongoExec mongo) c =
        result at ran
      cases ran with
      | updated update stored => exact .updated update stored
      | _ => exact .kept
    · rw [update_unread influencerId fun entries same => read ⟨entries, same⟩]
      exact .kept
  | delete influencerId =>
    have ran := delete_run mongo c influencerId
    change DocsEffect mongo c _
      ((Influencers.Mongo.deleteInfluencer influencerId).run (mongoExec mongo) c).2
    generalize (Influencers.Mongo.deleteInfluencer influencerId).run (mongoExec mongo) c = result at ran
    cases ran with
    | unsent large => exact .kept
    | ran reachable stored => exact .deleted stored
  | suspend req influencerId => exact docsEffect_status rfl
  | activate req influencerId => exact docsEffect_status rfl
  | terminate req influencerId => exact docsEffect_status rfl

/-! What does not go through leaves the documents alone. -/

theorem create_keeps {c : Collection} {req : Http} (refused : ¬∃ entries, Creation mongo c req entries) :
    InfluencersRequest.mongoStep mongo c (.create req) = c := by
  have effect := docs_effect mongo c (.create req)
  generalize InfluencersRequest.mongoStep mongo c (.create req) = c' at effect
  cases effect with
  | kept => rfl
  | created creation stored => exact absurd ⟨_, creation⟩ refused
  | restatus sets reachable found stored => cases sets

theorem update_keeps {c : Collection} {req : Http} {influencerId : Nat}
    (refused : ¬∃ entries doc, Update mongo c req influencerId entries doc) :
    InfluencersRequest.mongoStep mongo c (.update req influencerId) = c := by
  have effect := docs_effect mongo c (.update req influencerId)
  generalize InfluencersRequest.mongoStep mongo c (.update req influencerId) = c' at effect
  cases effect with
  | kept => rfl
  | updated update stored => exact absurd ⟨_, _, update⟩ refused
  | restatus sets reachable found stored => cases sets

theorem status_keeps {c : Collection} {request : InfluencersRequest} {status : String} {now : Int}
    {influencerId : Nat} (sets : request.setsStatus = some (status, now, influencerId))
    (refused : ¬∃ doc, encodeInt influencerId = none ∧
      c.first? [.eq "id" (.int influencerId)] = some doc) : request.mongoStep mongo c = c := by
  have effect := docs_effect mongo c request
  generalize request.mongoStep mongo c = c' at effect
  cases effect with
  | kept => rfl
  | created creation stored => cases sets
  | updated update stored => cases sets
  | deleted stored => cases sets
  | restatus sets' reachable found stored =>
    obtain ⟨-, -, rfl⟩ : status = _ ∧ now = _ ∧ influencerId = _ := by
      simpa using sets.symm.trans sets'
    exact absurd ⟨_, reachable, found⟩ refused

/-! What goes through takes effect. -/

theorem Creation.step {c : Collection} {req : Http} {entries : Fields}
    (creation : Creation mongo c req entries) : (InfluencersRequest.mongoStep mongo c (.create req)).docs =
      c.docs ++ [⟨c.newOid, newFields entries req.now c.docs.length⟩] := by
  have ran := create_run creation.parsed mongo c
  change ((Influencers.Mongo.createInfluencer req).run (mongoExec mongo) c).2.docs = _
  generalize (Influencers.Mongo.createInfluencer req).run (mongoExec mongo) c = result at ran
  cases ran with
  | unnamed missing => cases creation.named.symm.trans missing
  | uncoded named missing => cases creation.coded.symm.trans missing
  | taken named coded found =>
    rw [creation.free] at found
    cases found
  | unasked refused => exact absurd creation.asked refused
  | unstored named coded free refused =>
    exact absurd creation.accepted (refused.resolve_left (absurd creation.encodes))
  | created creation stored => exact stored

theorem Update.step {c : Collection} {req : Http} {influencerId : Nat} {entries : Fields}
    {doc : Document} (update : Update mongo c req influencerId entries doc) :
    (InfluencersRequest.mongoStep mongo c (.update req influencerId)).docs =
      c.docs.map (Document.edit doc.oid (updateFields entries doc req.now)) := by
  have ran := update_run update.parsed mongo c influencerId
  change ((Influencers.Mongo.updateInfluencer req influencerId).run (mongoExec mongo) c).2.docs = _
  generalize (Influencers.Mongo.updateInfluencer req influencerId).run (mongoExec mongo) c =
    result at ran
  have only : ∀ {other : Document}, c.first? [.eq "id" (.int influencerId)] = some other → other = doc :=
    fun found => Option.some.inj (found.symm.trans update.found)
  cases ran with
  | unsent large => exact absurd update.reachable large
  | missing reachable absent => cases absent.symm.trans update.found
  | unasked found differs refused =>
    rw [only found] at differs
    exact absurd (update.asked differs) refused
  | taken reachable found differs other =>
    rw [only found] at differs
    rw [update.free differs] at other
    cases other
  | unstored found refused =>
    rw [only found] at refused
    exact absurd update.accepted (refused.resolve_left (absurd update.encodes))
  | updated update' stored => rw [stored, only update'.found]

theorem status_step {c : Collection} {request : InfluencersRequest} {status : String} {now : Int}
    {influencerId : Nat} {doc : Document} (sets : request.setsStatus = some (status, now, influencerId))
    (reachable : encodeInt influencerId = none)
    (found : c.first? [.eq "id" (.int influencerId)] = some doc) :
    (request.mongoStep mongo c).docs = c.docs.map (Document.edit doc.oid (statusFields status now)) := by
  have changed : ∀ (req : Http) (status done : String),
      ((Influencers.Mongo.setStatus req status done influencerId).run (mongoExec mongo) c).2.docs =
        c.docs.map (Document.edit doc.oid (statusFields status req.now)) := by
    intro req status done
    have ran := status_run mongo c req status done influencerId
    generalize (Influencers.Mongo.setStatus req status done influencerId).run (mongoExec mongo) c =
      result at ran
    cases ran with
    | unsent large => exact absurd reachable large
    | missing reachable absent => cases absent.symm.trans found
    | changed reachable found' stored => rw [stored, Option.some.inj (found'.symm.trans found)]
  cases request with
  | suspend req other | activate req other | terminate req other =>
    obtain ⟨rfl, rfl, rfl⟩ : _ = status ∧ req.now = now ∧ other = influencerId := by
      simpa [InfluencersRequest.setsStatus] using sets
    exact changed req _ _
  | _ => cases sets

/-! A request goes through in one way at most. -/

theorem Creation.unique {c : Collection} {req : Http} {entries entries' : Fields}
    (creation : Creation mongo c req entries) (creation' : Creation mongo c req entries') :
    entries = entries' :=
  Http.entries_unique creation.parsed creation'.parsed

theorem Update.unique {c : Collection} {req : Http} {influencerId : Nat} {entries entries' : Fields}
    {doc doc' : Document} (update : Update mongo c req influencerId entries doc)
    (update' : Update mongo c req influencerId entries' doc') : entries = entries' ∧ doc = doc' :=
  ⟨Http.entries_unique update.parsed update'.parsed,
    Option.some.inj (update.found.symm.trans update'.found)⟩

end Requests

end UssdCredit
