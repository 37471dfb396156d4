import UssdCredit.Effects

/-! Accounts keep their identity: ids and emails stay distinct and are never rewritten, so a
token leads to the account it was issued to for as long as the server runs. -/

namespace UssdCredit

open Library

/-- No two documents hold the same value under the key. -/
def Distinct (key : String) (c : Collection) : Prop :=
  ∀ d ∈ c.docs, ∀ d' ∈ c.docs, ∀ v, d.get? key = some v → d'.get? key = some v → d = d'

/-- The ids are distinct positive integers not above the number of documents, and the
emails are distinct; a document may lack either. -/
structure Identified (c : Collection) : Prop where
  bounded : ∀ d ∈ c.docs, ∀ v, d.get? "id" = some v →
    ∃ n : Nat, v = .int n ∧ 0 < n ∧ n ≤ c.docs.length
  ids : Distinct "id" c
  emails : Distinct "email" c

theorem identified_initial : Identified Server.initial.users where
  bounded := by simp [Server.initial, Collection.empty]
  ids := by simp [Distinct, Server.initial, Collection.empty]
  emails := by simp [Distinct, Server.initial, Collection.empty]

/-! Distinctness under insertion and update. -/

theorem Distinct.insert {key : String} {c c' : Collection} (distinct : Distinct key c)
    {new : Document} (appended : c'.docs = c.docs ++ [new])
    (fresh : ∀ v, new.get? key = some v → ∀ d ∈ c.docs, d.get? key ≠ some v) :
    Distinct key c' := by
  intro d member d' member' v holds holds'
  rw [appended, List.mem_append, List.mem_singleton] at member member'
  rcases member with old | rfl <;> rcases member' with old' | rfl
  · exact distinct d old d' old' v holds holds'
  · exact absurd holds (fresh v holds' d old)
  · exact absurd holds' (fresh v holds d' old')
  · rfl

theorem Distinct.edit {key : String} {c c' : Collection} (distinct : Distinct key c) {oid : Nat}
    {update : Fields} (edited : c'.docs = c.docs.map (Document.edit oid update))
    (untouched : key ∉ update.map Prod.fst) : Distinct key c' := by
  intro d member d' member' v holds holds'
  rw [edited, List.mem_map] at member member'
  obtain ⟨old, present, rfl⟩ := member
  obtain ⟨old', present', rfl⟩ := member'
  rw [Document.edit_get? untouched] at holds holds'
  rw [distinct old present old' present' v holds holds']

/-- No endpoint updates an id or an email. -/
theorem updates_keep_identity (endpoint : Endpoint) :
    "id" ∉ endpoint.updates ∧ "email" ∉ endpoint.updates := by
  cases endpoint <;>
    simp [Endpoint.updates, Auth.googleKeys, Auth.profileFields, Admin.userFields]

theorem Edit.untouched {request : Request} {c : Collection} (edit : Edit request c) {key : String}
    (other : key ∉ request.endpoint.updates) : key ∉ edit.update.map Prod.fst := by
  intro member
  obtain ⟨entry, present, rfl⟩ := List.mem_map.mp member
  exact other (edit.listed entry present)

/-- A query for an email that finds nothing: no document holds it. -/
theorem unregistered_email {c : Collection} {email : String}
    (none_found : c.first? [.eq "email" (.str email)] = none) :
    ∀ d ∈ c.docs, (Value.str email).matchesField (d.get? "email") = false := by
  intro d member
  have refused := List.find?_eq_none.mp none_found d member
  simpa [Document.satisfies, Condition.holds] using refused

theorem contact_lacks {fields : Fields} (keys : fields.map Prod.fst = Users.contactKeys)
    {key : String} (other : key ∉ Users.contactKeys) : fields.lookup key = none :=
  Dict.lookup_eq_none (keys ▸ other)

theorem Identified.effect {request : Request} {c c' : Collection} (start : Identified c)
    (effect : Effect request c c') : Identified c' := by
  cases effect with
  | unchanged => exact start
  | @account fields c' new creates inserted =>
    obtain ⟨appended, -⟩ := Collection.insertOne_ok inserted
    have length : c'.docs.length = c.docs.length + 1 := by simp [appended]
    refine ⟨?_, start.ids.insert appended ?_, start.emails.insert appended ?_⟩
    · intro d member v holds
      rw [appended, List.mem_append, List.mem_singleton] at member
      rcases member with old | rfl
      · obtain ⟨n, same, positive, small⟩ := start.bounded d old v holds
        exact ⟨n, same, positive, by omega⟩
      · have given : some (Value.int (Auth.nextUserId c)) = some v := new.id_given.symm.trans holds
        exact ⟨c.docs.length + 1, (Option.some.inj given).symm, by omega, by omega⟩
    · intro v holds d member held
      have given : some (Value.int (Auth.nextUserId c)) = some v := new.id_given.symm.trans holds
      obtain rfl := Option.some.inj given
      obtain ⟨n, same, -, small⟩ := start.bounded d member _ held
      have equal : Auth.nextUserId c = (n : Int) := by simpa using same
      unfold Auth.nextUserId at equal
      omega
    · intro v holds d member held
      have given : some (Value.str new.email) = some v := new.email_given.symm.trans holds
      obtain rfl := Option.some.inj given
      have unmatched := unregistered_email new.unregistered d member
      rw [held, Value.matchesField_self] at unmatched
      cases unmatched
  | @contact fields c' creates keys inserted =>
    obtain ⟨appended, -⟩ := Collection.insertOne_ok inserted
    have length : c'.docs.length = c.docs.length + 1 := by simp [appended]
    have no_id : fields.lookup "id" = none := contact_lacks keys (by decide)
    have no_email : fields.lookup "email" = none := contact_lacks keys (by decide)
    refine ⟨?_, start.ids.insert appended ?_, start.emails.insert appended ?_⟩
    · intro d member v holds
      rw [appended, List.mem_append, List.mem_singleton] at member
      rcases member with old | rfl
      · obtain ⟨n, same, positive, small⟩ := start.bounded d old v holds
        exact ⟨n, same, positive, by omega⟩
      · exact absurd (no_id.symm.trans holds) nofun
    · exact fun v holds => absurd (no_id.symm.trans holds) nofun
    · exact fun v holds => absurd (no_email.symm.trans holds) nofun
  | @edited c' edit rewritten =>
    have no_id := edit.untouched (updates_keep_identity request.endpoint).1
    have no_email := edit.untouched (updates_keep_identity request.endpoint).2
    refine ⟨?_, start.ids.edit rewritten no_id, start.emails.edit rewritten no_email⟩
    intro d member v holds
    rw [rewritten, List.mem_map] at member
    obtain ⟨old, present, rfl⟩ := member
    rw [Document.edit_get? no_id] at holds
    rw [rewritten, List.length_map]
    exact start.bounded old present v holds

/-! Documents stay, and keep what the endpoint does not update. -/

/-- After a request a document is still there as it was, unless it is the one edited. -/
theorem Effect.follows {request : Request} {c c' : Collection} (effect : Effect request c c')
    {d : Document} (member : d ∈ c.docs) : d ∈ c'.docs ∨
      ∃ edit : Edit request c, edit.document = d ∧ d.edit d.oid edit.update ∈ c'.docs := by
  cases effect with
  | unchanged => exact .inl member
  | account new creates inserted =>
    exact .inl ((Collection.insertOne_ok inserted).1 ▸ List.mem_append_left _ member)
  | contact creates keys inserted =>
    exact .inl ((Collection.insertOne_ok inserted).1 ▸ List.mem_append_left _ member)
  | edited edit rewritten =>
    have moved : d.edit edit.document.oid edit.update ∈ c'.docs :=
      rewritten ▸ List.mem_map_of_mem member
    by_cases same : d.oid = edit.document.oid
    · refine .inr ⟨edit, (Collection.eq_of_oid member edit.member same).symm, ?_⟩
      rwa [same]
    · exact .inl (by rwa [Document.edit_other _ same] at moved)

theorem Effect.keeps_document {request : Request} {c c' : Collection}
    (effect : Effect request c c') {d : Document} (member : d ∈ c.docs) :
    ∃ d' ∈ c'.docs, d'.oid = d.oid ∧
      ∀ key, key ∉ request.endpoint.updates → d'.get? key = d.get? key := by
  rcases effect.follows member with same | ⟨edit, -, moved⟩
  · exact ⟨d, same, rfl, fun _ _ => rfl⟩
  · exact ⟨_, moved, Document.edit_oid .., fun key other =>
      Document.edit_get? (edit.untouched other) _ d⟩

/-! Looking up an account by its id. -/

/-- A query for the id of a document finds no other document. -/
def UniqueIds (c : Collection) : Prop :=
  ∀ d ∈ c.docs, ∀ d' ∈ c.docs, ∀ v, d.get? "id" = some v →
    v.matchesField (d'.get? "id") = true → d' = d

/-- Integer ids that are distinct are distinct for the database as well. -/
theorem Identified.uniqueIds {c : Collection} (identified : Identified c) : UniqueIds c := by
  intro d member d' member' v holds matched
  obtain ⟨n, rfl, -, -⟩ := identified.bounded d member v holds
  cases stored : d'.get? "id" with
  | none => simp [stored, Value.matchesField] at matched
  | some w =>
    obtain ⟨m, rfl, -, -⟩ := identified.bounded d' member' w stored
    rw [stored, Value.matchesField_int, decide_eq_true_eq] at matched
    exact identified.ids d' member' d member _ stored (matched ▸ holds)

theorem Document.satisfies_id {d : Document} {v : Value} :
    d.satisfies [.eq "id" v] = true ↔ v.matchesField (d.get? "id") = true := by
  simp [Document.satisfies, Condition.holds]

theorem UniqueIds.first?_id {c : Collection} (unique : UniqueIds c) {d : Document}
    (member : d ∈ c.docs) {v : Value} (holds : d.get? "id" = some v) :
    c.first? [.eq "id" v] = some d := by
  have matched : d.satisfies [.eq "id" v] = true :=
    Document.satisfies_id.mpr (holds ▸ Value.matchesField_self v)
  cases found : c.first? [.eq "id" v] with
  | none => exact absurd matched (List.find?_eq_none.mp found d member)
  | some first =>
    obtain ⟨present, satisfied⟩ := Collection.first?_mem found
    rw [unique d member first present v holds (Document.satisfies_id.mp satisfied)]

theorem Identified.first?_id {c : Collection} (identified : Identified c) {d : Document}
    (member : d ∈ c.docs) {v : Value} (holds : d.get? "id" = some v) :
    c.first? [.eq "id" v] = some d := identified.uniqueIds.first?_id member holds

theorem Identified.findOne_id {c : Collection} (identified : Identified c) {d : Document}
    (member : d ∈ c.docs) {v : Value} (holds : d.get? "id" = some v) :
    c.findOne [.eq "id" v] = .ok (some d) := by
  have encodes : Filter.bsonError [.eq "id" v] = none := by
    simp [Filter.bsonError, Collection.bsonError_get? member holds]
  rw [Collection.findOne, encodes, identified.first?_id member holds]

end UssdCredit
