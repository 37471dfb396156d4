import UssdCredit.Http

/-! A MongoDB collection as the driver shows it: documents in insertion order, each under
its own ObjectId, and the operations of the driver that the handlers use. -/

namespace UssdCredit

/-! What the driver refuses to encode. -/

def tooLarge : PyExn := ⟨.overflowError, "MongoDB can only handle up to 8-byte ints"⟩

/-- From `-2 ^ 63` to `2 ^ 63 - 1`. -/
def encodeInt : Int → Option PyExn
  | .ofNat n => if n < 2 ^ 63 then none else some tooLarge
  | .negSucc n => if n < 2 ^ 63 then none else some tooLarge

theorem encodeInt_natCast (n : Nat) :
    encodeInt (n : Int) = if n < 2 ^ 63 then none else some tooLarge := rfl

def encodeKey (key : String) : Option PyExn :=
  if '\x00' ∈ key.toList then some ⟨.invalidDocument, "Key names must not contain the NULL byte"⟩
  else none

mutual
/-- The error of encoding a value as BSON: the first one in document order. -/
def Value.bsonError : Value → Option PyExn
  | .int n => encodeInt n
  | .scalar _ => none
  | .list items => bsonErrorList items
  | .dict entries => bsonErrorEntries entries

def Value.bsonErrorList : List Value → Option PyExn
  | [] => none
  | item :: rest => item.bsonError.or (bsonErrorList rest)

def Value.bsonErrorEntries : List (String × Value) → Option PyExn
  | [] => none
  | (key, item) :: rest => ((encodeKey key).or item.bsonError).or (bsonErrorEntries rest)
end

theorem bsonErrorEntries_none {entries : Fields} :
    Value.bsonErrorEntries entries = none ↔
      ∀ entry ∈ entries, encodeKey entry.1 = none ∧ entry.2.bsonError = none := by
  induction entries with
  | nil => simp [Value.bsonErrorEntries]
  | cons entry rest ih =>
    obtain ⟨key, item⟩ := entry
    simp only [Value.bsonErrorEntries, Option.or_eq_none_iff, ih, List.forall_mem_cons]

theorem bsonErrorEntries_setAll {update entries : Fields}
    (new : Value.bsonErrorEntries update = none) (old : Value.bsonErrorEntries entries = none) :
    Value.bsonErrorEntries (Library.Dict.setAll update entries) = none := by
  rw [bsonErrorEntries_none] at *
  intro entry member
  rcases Library.Dict.mem_setAll member with updated | kept
  · exact new entry updated
  · exact old entry kept

/-! Documents. -/

/-- A stored document: its ObjectId and its other fields. -/
structure Document where
  oid : Nat
  fields : Fields
  deriving DecidableEq

namespace Document

def get? (d : Document) (key : String) : Option Value := d.fields.lookup key

/-- `doc.get(key, default)`. -/
def get (d : Document) (key : String) (default : Value) : Value := (d.get? key).getD default

/-- `doc[key]`. -/
def index (d : Document) (key : String) : Except PyExn Value := (Value.dict d.fields).pyIndex key

/-- `$set` applied to the document with the given ObjectId; others stay as they are. -/
def edit (oid : Nat) (update : Fields) (d : Document) : Document :=
  if d.oid = oid then ⟨d.oid, Library.Dict.setAll update d.fields⟩ else d

@[simp] theorem edit_oid (oid : Nat) (update : Fields) (d : Document) :
    (d.edit oid update).oid = d.oid := by
  unfold edit
  split_ifs <;> rfl

theorem edit_other {oid : Nat} {d : Document} (update : Fields) (other : d.oid ≠ oid) :
    d.edit oid update = d := if_neg other

/-- The edit of a document leaves the keys outside the update alone. -/
theorem edit_get? {update : Fields} {key : String} (absent : key ∉ update.map Prod.fst)
    (oid : Nat) (d : Document) : (d.edit oid update).get? key = d.get? key := by
  unfold edit get?
  split_ifs
  · exact Library.Dict.lookup_setAll_of_not_mem absent d.fields
  · rfl

theorem edit_self_get? (update : Fields) (key : String) (d : Document) :
    (d.edit d.oid update).get? key = (Library.Dict.setAll update d.fields).lookup key := by
  unfold edit get?
  rw [if_pos rfl]

theorem index_ok {d : Document} {key : String} {value : Value} (found : d.index key = .ok value) :
    d.get? key = some value := by
  obtain ⟨entries, same, present⟩ := Value.pyIndex_ok found
  cases same
  exact present

theorem index_of_get? {d : Document} {key : String} {value : Value}
    (found : d.get? key = some value) : d.index key = .ok value := by
  unfold index Value.pyIndex
  unfold get? at found
  simp only [found]

theorem index_of_absent {d : Document} {key : String} (absent : d.get? key = none) :
    d.index key = .error ⟨.keyError, s!"'{key}'"⟩ := by
  unfold index Value.pyIndex
  unfold get? at absent
  simp only [absent]

end Document

/-! A document as a Python dict. -/

/-- The `_id` of a dict: the ObjectId, or the text a handler put in its place. -/
inductive DictId where
  | objectId (oid : Nat)
  | text (s : String)

/-- A dict handed out by the driver; a projection may have left the `_id` out. -/
structure PyDocument where
  id? : Option DictId
  fields : Fields

/-- `str(ObjectId)`: twenty-four hexadecimal digits. -/
def objectIdText (oid : Nat) : String :=
  let digits := Nat.toDigits 16 oid
  String.ofList (List.replicate (24 - digits.length) '0' ++ digits)

def Document.load (d : Document) : PyDocument := ⟨some (.objectId d.oid), d.fields⟩

/-- Serialising a dict that still holds an ObjectId raises. -/
def PyDocument.toJson (d : PyDocument) : Except PyExn Value :=
  match d.id? with
  | none => .ok (.dict d.fields)
  | some (.text s) => .ok (.dict (("_id", .str s) :: d.fields))
  | some (.objectId _) => .error ⟨.typeError, "Object of type ObjectId is not JSON serializable"⟩

/-! Filters. -/

inductive Condition where
  | objectId (oid : Nat)
  | eq (field : String) (value : Value)
  /-- `$or` of `$regex` tests with one pattern. -/
  | anyRegex (fields : List String) (test : Value → Bool)
  /-- `$gte` a datetime. -/
  | since (field : String) (t : Int)
  /-- An object of operators, with the test the server reads in it or the error it refuses it with. -/
  | operators (field : String) (expression : Fields) (reading : Except PyExn (Option Value → Bool))

abbrev Filter := List Condition

def Condition.holds (d : Document) : Condition → Bool
  | .objectId oid => d.oid = oid
  | .eq field value => value.matchesField (d.get? field)
  | .anyRegex fields test => fields.any (fun field => (d.get? field).any test)
  | .since field t => match d.get? field with
      | some (.datetime t') => decide (t ≤ t')
      | _ => false
  | .operators field _ reading => match reading with
      | .ok test => test (d.get? field)
      | .error _ => false

/-- The fields a condition looks at. -/
def Condition.keys : Condition → List String
  | .objectId _ => []
  | .eq field _ => [field]
  | .anyRegex fields _ => fields
  | .since field _ => [field]
  | .operators field _ _ => [field]

def Filter.keys (filter : Filter) : List String := filter.flatMap Condition.keys

/-- The error of a query: the driver cannot encode the filter, or the server does not read it. -/
def Filter.bsonError (filter : Filter) : Option PyExn :=
  filter.findSome? fun
    | .eq _ value => value.bsonError
    | .operators _ expression reading => (Value.bsonErrorEntries expression).or <| match reading with
        | .ok _ => none
        | .error e => some e
    | _ => none

/-- The filter entry for a query parameter that is present and not empty. -/
def Http.argFilter (req : Http) (name : String) : Filter :=
  match req.arg name with
  | none => []
  | some value => if value = "" then [] else [.eq name (.str value)]

theorem Http.argFilter_cases (req : Http) (name : String) : req.argFilter name = [] ∨
    ∃ value, req.arg name = some value ∧ value ≠ "" ∧ req.argFilter name = [.eq name (.str value)] := by
  unfold argFilter
  split
  · exact .inl rfl
  · next value given =>
    by_cases empty : value = ""
    · exact .inl (if_pos empty)
    · exact .inr ⟨value, given, empty, if_neg empty⟩

def Document.satisfies (d : Document) (filter : Filter) : Bool := filter.all (·.holds d)

/-! Collections. -/

/-- The documents in insertion order. The index on `_id` keeps the ObjectIds distinct,
and every stored document has passed the encoder. -/
structure Collection where
  docs : List Document
  nodup : (docs.map Document.oid).Nodup
  encoded : ∀ d ∈ docs, Value.bsonErrorEntries d.fields = none

namespace Collection

@[ext] theorem ext {c c' : Collection} (same : c.docs = c'.docs) : c = c' := by
  cases c; cases c'; cases same; rfl

def empty : Collection := ⟨[], List.nodup_nil, by simp⟩

/-- Append a document. -/
def add (c : Collection) (oid : Nat) (fields : Fields) (fresh : oid ∉ c.docs.map Document.oid)
    (encodes : Value.bsonErrorEntries fields = none) : Collection where
  docs := c.docs ++ [⟨oid, fields⟩]
  nodup := by
    rw [List.map_append, List.map_singleton]
    exact List.nodup_append.mpr ⟨c.nodup, List.nodup_singleton _, by
      intro a member b last same
      obtain rfl : a = oid := same.trans (List.mem_singleton.mp last)
      exact fresh member⟩
  encoded := by
    intro d member
    rcases List.mem_append.mp member with old | new
    · exact c.encoded d old
    · rw [List.mem_singleton.mp new]
      exact encodes

/-- Rewrite one document in place. -/
def modify (c : Collection) (oid : Nat) (update : Fields)
    (encodes : Value.bsonErrorEntries update = none) : Collection where
  docs := c.docs.map (Document.edit oid update)
  nodup := by
    rw [List.map_map]
    have same : Document.oid ∘ Document.edit oid update = Document.oid :=
      funext (Document.edit_oid oid update)
    rw [same]
    exact c.nodup
  encoded := by
    intro d member
    obtain ⟨old, present, rfl⟩ := List.mem_map.mp member
    unfold Document.edit
    split_ifs
    · exact bsonErrorEntries_setAll encodes (c.encoded old present)
    · exact c.encoded old present

/-- The first matching document. -/
def first? (c : Collection) (filter : Filter) : Option Document :=
  c.docs.find? (·.satisfies filter)

def find (c : Collection) (filter : Filter) : Except PyExn (List Document) :=
  match filter.bsonError with
  | some e => .error e
  | none => .ok (c.docs.filter (·.satisfies filter))

def findOne (c : Collection) (filter : Filter) : Except PyExn (Option Document) :=
  match filter.bsonError with
  | some e => .error e
  | none => .ok (c.first? filter)

def countDocuments (c : Collection) (filter : Filter) : Except PyExn Nat :=
  match filter.bsonError with
  | some e => .error e
  | none => .ok (c.docs.countP (·.satisfies filter))

def insertOne (c : Collection) (oid : Nat) (fields : Fields) : Except PyExn Collection :=
  match encodes : Value.bsonErrorEntries fields with
  | some e => .error e
  | none =>
      if fresh : oid ∈ c.docs.map Document.oid then
        .error ⟨.duplicateKeyError, "E11000 duplicate key error collection"⟩
      else .ok (c.add oid fields fresh encodes)

/-- `update_one(filter, {"$set": update})`. -/
def updateOne (c : Collection) (filter : Filter) (update : Fields) : Except PyExn Collection :=
  match filter.bsonError with
  | some e => .error e
  | none =>
      match encodes : Value.bsonErrorEntries update with
      | some e => .error e
      | none =>
          match c.first? filter with
          | none => .ok c
          | some d => .ok (c.modify d.oid update encodes)

/-- `delete_one(filter)`. -/
def deleteOne (c : Collection) (filter : Filter) : Except PyExn Collection :=
  match filter.bsonError with
  | some e => .error e
  | none => .ok {
      docs := c.docs.eraseP (·.satisfies filter)
      nodup := c.nodup.sublist (List.eraseP_sublist.map _)
      encoded := fun d member => c.encoded d (List.mem_of_mem_eraseP member) }

/-- `matched_count` and `deleted_count` of an operation on the first match. -/
def matched (c : Collection) (filter : Filter) : Nat := if (c.first? filter).isSome then 1 else 0

/-! What each operation can do. -/

theorem first?_mem {c : Collection} {filter : Filter} {d : Document}
    (found : c.first? filter = some d) : d ∈ c.docs ∧ d.satisfies filter = true :=
  ⟨List.mem_of_find?_eq_some found, by simpa using List.find?_some found⟩

theorem findOne_ok {c : Collection} {filter : Filter} {found : Option Document}
    (result : c.findOne filter = .ok found) : c.first? filter = found := by
  unfold findOne at result
  split at result
  · cases result
  · exact Except.ok.inj result

theorem countDocuments_nil (c : Collection) : c.countDocuments [] = .ok c.docs.length :=
  congrArg Except.ok (List.countP_eq_length.mpr fun _ _ => rfl)

theorem countDocuments_all {c : Collection} {count : Nat}
    (result : c.countDocuments [] = .ok count) : count = c.docs.length :=
  Except.ok.inj (result.symm.trans c.countDocuments_nil)

theorem insertOne_ok {c c' : Collection} {oid : Nat} {fields : Fields}
    (result : c.insertOne oid fields = .ok c') :
    c'.docs = c.docs ++ [⟨oid, fields⟩] ∧ oid ∉ c.docs.map Document.oid := by
  unfold insertOne at result
  split at result
  · cases result
  · split_ifs at result with fresh
    rw [← Except.ok.inj result]
    exact ⟨rfl, fresh⟩

/-- An insertion goes through. -/
def Inserts (c : Collection) (oid : Nat) (fields : Fields) : Prop :=
  oid ∉ c.docs.map Document.oid ∧ Value.bsonErrorEntries fields = none

theorem inserts_iff {c : Collection} {oid : Nat} {fields : Fields} :
    c.Inserts oid fields ↔ ∃ c', c.insertOne oid fields = .ok c' := by
  constructor
  · rintro ⟨fresh, encodes⟩
    unfold insertOne
    split
    · next refused => cases encodes.symm.trans refused
    · rw [dif_neg fresh]
      exact ⟨_, rfl⟩
  · rintro ⟨c', inserted⟩
    refine ⟨(insertOne_ok inserted).2, ?_⟩
    unfold insertOne at inserted
    split at inserted
    · cases inserted
    · assumption

theorem updateOne_ok {c c' : Collection} {filter : Filter} {update : Fields}
    (result : c.updateOne filter update = .ok c') :
    (c.first? filter = none ∧ c' = c) ∨
      ∃ d, c.first? filter = some d ∧ c'.docs = c.docs.map (Document.edit d.oid update) := by
  unfold updateOne at result
  split at result
  · cases result
  · split at result
    · cases result
    · split at result
      · next absent => exact .inl ⟨absent, (Except.ok.inj result).symm⟩
      · next d found =>
        rw [← Except.ok.inj result]
        exact .inr ⟨d, found, rfl⟩

theorem updateOne_found {c c' : Collection} {filter : Filter} {update : Fields} {d : Document}
    (found : c.first? filter = some d) (result : c.updateOne filter update = .ok c') :
    c'.docs = c.docs.map (Document.edit d.oid update) := by
  rcases updateOne_ok result with ⟨absent, -⟩ | ⟨d', found', rewritten⟩
  · exact absurd (found.symm.trans absent) nofun
  · rwa [Option.some.inj (found.symm.trans found')]

/-- An update that went through was encoded, filter and fields. -/
theorem updateOne_sent {c c' : Collection} {filter : Filter} {update : Fields}
    (result : c.updateOne filter update = .ok c') :
    filter.bsonError = none ∧ Value.bsonErrorEntries update = none := by
  unfold updateOne at result
  split at result
  · cases result
  · next sent =>
    split at result
    · cases result
    · next encodes => exact ⟨sent, encodes⟩

/-- An update that encodes rewrites the document it finds. -/
theorem updateOne_modifies {c : Collection} {filter : Filter} {update : Fields} {d : Document}
    (reachable : filter.bsonError = none) (encodes : Value.bsonErrorEntries update = none)
    (found : c.first? filter = some d) :
    ∃ c', c.updateOne filter update = .ok c' ∧ c'.docs = c.docs.map (Document.edit d.oid update) := by
  cases result : c.updateOne filter update with
  | ok c' => exact ⟨c', rfl, updateOne_found found result⟩
  | error e =>
    unfold updateOne at result
    rw [reachable] at result
    dsimp only at result
    split at result
    · next refused => cases encodes.symm.trans refused
    · rw [found] at result
      cases result

/-- Documents with one ObjectId are one document. -/
theorem eq_of_oid {c : Collection} {d d' : Document} (member : d ∈ c.docs) (member' : d' ∈ c.docs)
    (same : d.oid = d'.oid) : d = d' :=
  List.inj_on_of_nodup_map c.nodup member member' same

/-- What is stored can be queried for. -/
theorem bsonError_get? {c : Collection} {d : Document} (member : d ∈ c.docs) {key : String}
    {value : Value} (found : d.get? key = some value) : value.bsonError = none :=
  (bsonErrorEntries_none.mp (c.encoded d member) _ (Library.Dict.mem_of_lookup found)).2

end Collection

end UssdCredit
