import UssdCredit.InfluencerDocuments
import UssdCredit.Routes

/-! The two creations of documents that answer with the dict they have inserted. The driver
puts an ObjectId into it, so the answer fails after the document is stored. -/

namespace UssdCredit

open Library Program

/-- Without success nothing is stored, and the answer 201 stands for one new document. -/
structure AllOrNothing (outcome : Outcome) (before after : Collection) : Prop where
  nothing : (Outcome.answer outcome).succeeds = false → after = before
  all : (Outcome.answer outcome).status = 201 → ∃ d, after.docs = before.docs ++ [d]

theorem PyExn.answer_ne_created (e : PyExn) : e.answer.status ≠ 201 := by
  unfold PyExn.answer
  split_ifs <;> decide

theorem allOrNothing_error {e : PyExn} {before after : Collection} :
    AllOrNothing (.error e) before after ↔ after = before := by
  constructor
  · exact fun whole => whole.nothing e.answer_fails
  · exact fun same => ⟨fun _ => same, fun created => absurd created e.answer_ne_created⟩

theorem allOrNothing_kept {response : Response} (c : Collection) (other : response.status ≠ 201) :
    AllOrNothing (.ok response) c c := ⟨fun _ => rfl, fun created => absurd created other⟩

/-- An insertion shows. -/
theorem ne_of_appended {c c' : Collection} {d : Document} (stored : c'.docs = c.docs ++ [d]) : c' ≠ c := by
  intro same
  have longer := congrArg List.length stored
  rw [same, List.length_append, List.length_singleton] at longer
  omega

/-! Contacts. -/

namespace Users

/-- The document of a contact. -/
def contactFields (entries : Fields) : Fields := [
  ("phone", given entries "phone" .null),
  ("role", given entries "role" (.str "subscriber")),
  ("pin", given entries "pin" .null),
  ("balance", given entries "balance" .null)]

/-- The request describes a contact that the database takes. -/
def StoresContact (c : Collection) (req : Http) : Prop :=
  ∃ entries, req.getJson = .ok (.dict entries) ∧ c.Inserts req.oid (contactFields entries)

/-- A creation always ends with an exception; it comes after the insertion if there is one. -/
theorem createUser_run (req : Http) (s : Server) : ∃ e s', (createUser req).serve s = (.error e, s') ∧
    ((StoresContact s.users req ∧ ∃ d, s'.users.docs = s.users.docs ++ [d]) ∨
      ¬StoresContact s.users req ∧ s' = s) := by
  unfold Prog.serve createUser
  cases parsed : req.getJson with
  | error e =>
    refine ⟨e, s, rfl, .inr ⟨?_, rfl⟩⟩
    rintro ⟨entries, read, -⟩
    cases parsed.symm.trans read
  | ok payload =>
    by_cases object : ∃ entries, payload = .dict entries
    · obtain ⟨entries, rfl⟩ := object
      rw [run_lift_bind exec rfl]
      rw [run_lift_bind exec (Value.pyGet_dict entries "phone" .null)]
      rw [run_lift_bind exec (Value.pyGet_dict entries "role" (.str "subscriber"))]
      rw [run_lift_bind exec (Value.pyGet_dict entries "pin" .null)]
      rw [run_lift_bind exec (Value.pyGet_dict entries "balance" .null)]
      cases inserted : s.users.insertOne req.oid (contactFields entries) with
      | ok c =>
        have stored := (Collection.insertOne_ok inserted).1
        have ran := run_insertOne inserted fun _ => do
          let doc ← (Document.mk req.oid (contactFields entries)).load.toJson
          return jsonify 201 doc
        exact ⟨_, s.setCollection .users c, ran,
          .inl ⟨⟨entries, parsed, Collection.inserts_iff.mpr ⟨c, inserted⟩⟩, _, stored⟩⟩
      | error e =>
        refine ⟨e, s, run_perform_error (exec_insertOne_error inserted) _, .inr ⟨?_, rfl⟩⟩
        rintro ⟨entries', read, goes⟩
        obtain rfl : entries = entries' := Http.entries_unique parsed read
        obtain ⟨c, went⟩ := Collection.inserts_iff.mp goes
        cases inserted.symm.trans went
    · obtain ⟨e, raised⟩ := pyGet_error (fun entries same => object ⟨entries, same⟩) "phone" .null
      refine ⟨e, s, ?_, .inr ⟨?_, rfl⟩⟩
      · rw [run_lift_bind exec rfl, raised]
        rfl
      · rintro ⟨entries, read, -⟩
        exact object ⟨entries, Except.ok.inj (parsed.symm.trans read)⟩

theorem createUser_all_or_nothing_iff (req : Http) (s : Server) :
    AllOrNothing ((createUser req).serve s).1 s.users ((createUser req).serve s).2.users ↔
      ¬StoresContact s.users req := by
  obtain ⟨e, s', ran, ⟨stores, d, stored⟩ | ⟨refused, rfl⟩⟩ := createUser_run req s
  · rw [ran, allOrNothing_error]
    exact ⟨fun same => absurd same (ne_of_appended stored), fun refused => absurd stores refused⟩
  · rw [ran, allOrNothing_error]
    exact ⟨fun _ => refused, fun _ => rfl⟩

end Users

/-! Influencers. -/

theorem createInfluencer_all_or_nothing_iff (mongo : MongoEngine) (req : Http) (c : Collection) :
    AllOrNothing (InfluencersRequest.mongoServe mongo (.create req) c).1 c
        (InfluencersRequest.mongoStep mongo c (.create req)) ↔
      ¬∃ entries, Creation mongo c req entries := by
  by_cases read : ∃ entries, req.getJson = .ok (.dict entries)
  · obtain ⟨entries, parsed⟩ := read
    have only : (∃ entries, Creation mongo c req entries) → Creation mongo c req entries := by
      rintro ⟨entries', creation⟩
      rwa [Http.entries_unique parsed creation.parsed]
    have ran := create_run parsed mongo c
    change AllOrNothing ((Influencers.Mongo.createInfluencer req).run (mongoExec mongo) c).1 c
      ((Influencers.Mongo.createInfluencer req).run (mongoExec mongo) c).2 ↔ _
    generalize (Influencers.Mongo.createInfluencer req).run (mongoExec mongo) c = result at ran
    cases ran with
    | unnamed missing =>
      refine ⟨fun _ created => ?_, fun _ => allOrNothing_kept c (by decide)⟩
      exact absurd (only created).named (ne_true_of_eq_false missing)
    | uncoded named missing =>
      refine ⟨fun _ created => ?_, fun _ => allOrNothing_kept c (by decide)⟩
      exact absurd (only created).coded (ne_true_of_eq_false missing)
    | taken named coded found =>
      refine ⟨fun _ created => ?_, fun _ => allOrNothing_kept c (by decide)⟩
      rw [(only created).free] at found
      cases found
    | unasked refused =>
      refine ⟨fun _ created => refused (only created).asked, fun _ => ?_⟩
      exact allOrNothing_error.mpr rfl
    | unstored named coded free refused =>
      refine ⟨fun _ created => ?_, fun _ => allOrNothing_error.mpr rfl⟩
      exact not_and_or.mpr refused ⟨(only created).encodes, (only created).accepted⟩
    | created creation stored =>
      rw [allOrNothing_error]
      exact ⟨fun same => absurd same (ne_of_appended stored), fun refused => absurd ⟨entries, creation⟩ refused⟩
  · obtain ⟨e, ran⟩ := @create_unread mongo req c fun entries parsed => read ⟨entries, parsed⟩
    change AllOrNothing (InfluencersRequest.mongoServe mongo (.create req) c).1 c
      (InfluencersRequest.mongoServe mongo (.create req) c).2 ↔ _
    rw [ran, allOrNothing_error]
    refine ⟨fun _ created => ?_, fun _ => rfl⟩
    obtain ⟨entries, creation⟩ := created
    exact read ⟨entries, creation.parsed⟩

/-- Both creations are all or nothing exactly when the request stores no document: then it is
refused, and otherwise it fails after the insertion. -/
theorem creations_all_or_nothing_iff (mongo : MongoEngine) (req : Http) (s : Server) (c : Collection) :
    (AllOrNothing ((Users.createUser req).serve s).1 s.users ((Users.createUser req).serve s).2.users ↔
      ¬Users.StoresContact s.users req) ∧
    (AllOrNothing (InfluencersRequest.mongoServe mongo (.create req) c).1 c
        (InfluencersRequest.mongoStep mongo c (.create req)) ↔
      ¬∃ entries, Creation mongo c req entries) :=
  ⟨Users.createUser_all_or_nothing_iff req s, createInfluencer_all_or_nothing_iff mongo req c⟩

/-- A first contact and a first influencer are answered 500 and stored all the same. -/
theorem failed_creations_store :
    let contact := Http.ofEntries none [("phone", .str "+254700000201")] rfl 0
    let influencer := shortcodeRequest "Sarah" "*123*1#"
    let user := (Users.createUser contact).serve Server.initial
    let created := InfluencersRequest.mongoServe plainMongo (.create influencer) .empty
    (user.1.answer.status = 500 ∧ user.2.users.docs.length = 1 ∧
      ¬AllOrNothing user.1 Server.initial.users user.2.users) ∧
    created.1.answer.status = 500 ∧ created.2.docs.length = 1 ∧
      ¬AllOrNothing created.1 .empty created.2 := by
  intro contact influencer user created
  have failed : user.1.answer.status = 500 ∧ user.2.users.docs.length = 1 := by decide +kernel
  have failed' : created.1.answer.status = 500 ∧ created.2.docs.length = 1 := by decide +kernel
  refine ⟨⟨failed.1, failed.2, fun whole => ?_⟩, failed'.1, failed'.2, fun whole => ?_⟩
  · have kept : user.2.users = Server.initial.users := whole.nothing (by decide +kernel)
    have stored := failed.2
    rw [kept] at stored
    cases stored
  · have kept : created.2 = .empty := whole.nothing (by decide +kernel)
    have stored := failed'.2
    rw [kept] at stored
    cases stored

end UssdCredit
