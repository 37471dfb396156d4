import UssdCredit.Library.Records
import UssdCredit.Library.Runs
import UssdCredit.InfluencerDocuments

/-! The ids of the influencer documents. A creation takes the number of documents plus one,
and deletions really remove documents. -/

namespace UssdCredit

open Library

def Document.id? (d : Document) : Option Value := d.get? "id"

/-- What no update writes to. -/
def Document.identity (d : Document) : Nat × Option Value := (d.oid, d.id?)

/-- Every document has a number for an id. -/
def Numbered (c : Collection) : Prop := ∀ d ∈ c.docs, ∃ id : Int, d.id? = some (.int id)

def DistinctInfluencerIds (c : Collection) : Prop := (c.docs.map Document.id?).Nodup

/-- The influencer the path of a request names. -/
def InfluencersRequest.target : InfluencersRequest → Option Nat
  | .list | .create _ => none
  | .get influencerId | .update _ influencerId | .delete influencerId => some influencerId
  | .suspend _ influencerId | .activate _ influencerId | .terminate _ influencerId => some influencerId

section Documents

variable {mongo : MongoEngine} {c c' : Collection} {d : Document} {id : Int}

theorem satisfies_id (numbered : d.id? = some (.int id)) (influencerId : Nat) :
    d.satisfies [.eq "id" (.int influencerId)] = decide ((influencerId : Int) = id) := by
  have field : d.get? "id" = some (.int id) := numbered
  simp only [Document.satisfies, List.all_cons, List.all_nil, Bool.and_true, Condition.holds, field,
    Value.matchesField_int]

/-- No write but the first gives a document its id. -/
theorem edit_id? (oid : Nat) {update : Fields} (others : "id" ∉ update.map Prod.fst) (d : Document) :
    (d.edit oid update).id? = d.id? := Document.edit_get? others oid d

theorem updateFields_others (entries : Fields) (doc : Document) (now : Int) :
    "id" ∉ (updateFields entries doc now).map Prod.fst := by
  simp [updateFields]

theorem statusFields_others (status : String) (now : Int) :
    "id" ∉ (statusFields status now).map Prod.fst := by
  simp [statusFields]

theorem identity_edit (oid : Nat) {update : Fields} (others : "id" ∉ update.map Prod.fst)
    (docs : List Document) :
    (docs.map (Document.edit oid update)).map Document.identity = docs.map Document.identity := by
  rw [List.map_map]
  refine List.map_congr_left fun d _ => ?_
  exact Prod.ext (Document.edit_oid oid update d) (edit_id? oid others d)

/-- What a request does to the identities: a creation adds one, a deletion removes one. -/
theorem identity_step (mongo : MongoEngine) (c : Collection) (request : InfluencersRequest) :
    (request.mongoStep mongo c).docs.map Document.identity = c.docs.map Document.identity ∨
    (∃ req entries, request = .create req ∧ Creation mongo c req entries ∧
      (request.mongoStep mongo c).docs.map Document.identity =
        c.docs.map Document.identity ++ [(c.newOid, some (.int (c.docs.length + 1)))]) ∨
    ∃ influencerId : Nat, request = .delete influencerId ∧
      (request.mongoStep mongo c).docs = c.docs.eraseP (·.satisfies [.eq "id" (.int influencerId)]) := by
  have effect := docs_effect mongo c request
  generalize request.mongoStep mongo c = c' at effect
  cases effect with
  | kept => exact .inl rfl
  | @created req entries _ creation stored =>
    refine .inr (.inl ⟨req, entries, rfl, creation, ?_⟩)
    rw [stored, List.map_append, List.map_singleton]
    rfl
  | updated update stored =>
    rw [stored]
    exact .inl (identity_edit _ (updateFields_others _ _ _) _)
  | restatus sets reachable found stored =>
    rw [stored]
    exact .inl (identity_edit _ (statusFields_others _ _) _)
  | @deleted influencerId _ stored => exact .inr (.inr ⟨influencerId, rfl, stored⟩)

theorem numbered_iff (c : Collection) : Numbered c ↔
    ∀ key ∈ c.docs.map Document.identity, ∃ id : Int, key.2 = some (.int id) := by
  unfold Numbered
  rw [List.forall_mem_map]
  rfl

theorem numbered_step (numbered : Numbered c) (request : InfluencersRequest) :
    Numbered (request.mongoStep mongo c) := by
  rcases identity_step mongo c request with same | ⟨req, entries, -, -, added⟩ | ⟨influencerId, -, removed⟩
  · rw [numbered_iff] at *
    rwa [same]
  · rw [numbered_iff] at *
    rw [added]
    intro key member
    rcases List.mem_append.mp member with old | new
    · exact numbered key old
    · rw [List.mem_singleton.mp new]
      exact ⟨_, rfl⟩
  · intro d member
    rw [removed] at member
    exact numbered d (List.mem_of_mem_eraseP member)

/-! Distinct ids. -/

/-- A creation that goes through finds no document under the id it computes. -/
def CreatesFreeId (mongo : MongoEngine) (c : Collection) (request : InfluencersRequest) : Prop :=
  ∀ req entries, request = .create req → Creation mongo c req entries →
    ∀ d ∈ c.docs, d.id? ≠ some (.int (c.docs.length + 1))

theorem ids_eq_identities (docs : List Document) :
    docs.map Document.id? = (docs.map Document.identity).map Prod.snd := by
  rw [List.map_map]
  rfl

theorem nodup_created_iff (c : Collection) (distinct : DistinctInfluencerIds c) :
    ((c.docs.map Document.identity ++ [(c.newOid, some (Value.int (c.docs.length + 1)))]).map
      Prod.snd).Nodup ↔ ∀ d ∈ c.docs, d.id? ≠ some (.int (c.docs.length + 1)) := by
  rw [List.map_append, ← ids_eq_identities, List.map_singleton, List.nodup_append]
  constructor
  · rintro ⟨-, -, apart⟩ d member same
    exact apart _ (List.mem_map_of_mem member) _ (List.mem_singleton.mpr rfl) same
  · intro free
    refine ⟨distinct, List.nodup_singleton _, ?_⟩
    intro id member other last same
    obtain ⟨d, stored, rfl⟩ := List.mem_map.mp member
    exact free d stored (same.trans (List.mem_singleton.mp last))

theorem distinctInfluencerIds_step_iff (distinct : DistinctInfluencerIds c)
    (request : InfluencersRequest) :
    DistinctInfluencerIds (request.mongoStep mongo c) ↔ CreatesFreeId mongo c request := by
  rcases identity_step mongo c request with same | ⟨req, entries, rfl, creation, added⟩ |
    ⟨influencerId, rfl, removed⟩
  · have kept : DistinctInfluencerIds (request.mongoStep mongo c) := by
      unfold DistinctInfluencerIds
      rw [ids_eq_identities, same, ← ids_eq_identities]
      exact distinct
    refine ⟨fun _ req entries create creation => ?_, fun _ => kept⟩
    -- A creation that goes through adds an identity.
    subst create
    have longer := congrArg List.length same
    rw [creation.step] at longer
    simp at longer
  · unfold DistinctInfluencerIds
    rw [ids_eq_identities, added, nodup_created_iff c distinct]
    constructor
    · intro free req' entries' _ _
      exact free
    · exact fun free => free req entries rfl creation
  · have kept : DistinctInfluencerIds (InfluencersRequest.mongoStep mongo c (.delete influencerId)) := by
      unfold DistinctInfluencerIds
      rw [removed]
      exact distinct.sublist (List.eraseP_sublist.map _)
    exact ⟨fun _ req entries create => InfluencersRequest.noConfusion create, fun _ => kept⟩

/-! The id of a creation addresses what was created. -/

theorem mem_eraseP_of_fails {filter : Filter} (fails : ¬d.satisfies filter = true)
    (member : d ∈ c.docs) : d ∈ c.docs.eraseP (·.satisfies filter) := by
  have kept : d ∈ c.docs.eraseP (fun other => other.satisfies filter) ↔ d ∈ c.docs :=
    List.mem_eraseP_of_neg fails
  exact kept.mpr member

/-- A document stays until a deletion of its id. -/
theorem identity_kept {oid id : Nat} {request : InfluencersRequest}
    (stored : (oid, some (.int id)) ∈ c.docs.map Document.identity) (other : request ≠ .delete id) :
    (oid, some (.int id)) ∈ (request.mongoStep mongo c).docs.map Document.identity := by
  rcases identity_step mongo c request with same | ⟨req, entries, -, -, added⟩ |
    ⟨influencerId, rfl, removed⟩
  · rwa [same]
  · rw [added]
    exact List.mem_append_left _ stored
  · obtain ⟨d, member, keyed⟩ := List.mem_map.mp stored
    have number : d.id? = some (.int id) := congrArg Prod.snd keyed
    have apart : ¬d.satisfies [.eq "id" (.int influencerId)] = true := by
      rw [satisfies_id number, decide_eq_true_eq]
      intro same
      exact other (congrArg InfluencersRequest.delete (Int.ofNat.inj same))
    rw [removed]
    exact List.mem_map.mpr ⟨d, mem_eraseP_of_fails apart member, keyed⟩

theorem identity_kept_run (mongo : MongoEngine) {oid id : Nat} {requests : List InfluencersRequest}
    (stored : (oid, some (.int id)) ∈ c.docs.map Document.identity)
    (others : .delete id ∉ requests) :
    (oid, some (.int id)) ∈
      (requests.foldl (InfluencersRequest.mongoStep mongo) c).docs.map Document.identity := by
  have kept : ∀ (c : Collection) (request : InfluencersRequest),
      (oid, some (.int id)) ∈ c.docs.map Document.identity → request ≠ .delete id →
      (oid, some (.int id)) ∈ (request.mongoStep mongo c).docs.map Document.identity :=
    fun c request stored other => identity_kept stored other
  refine run_invariant_of_forall (fun c : Collection =>
    (oid, some (.int id)) ∈ c.docs.map Document.identity) kept stored ?_
  rintro request member rfl
  exact others member

theorem unique_id (numbered : Numbered c) (distinct : DistinctInfluencerIds c) {d d' : Document}
    (member : d ∈ c.docs) (member' : d' ∈ c.docs) {id : Nat}
    (passes : d.satisfies [.eq "id" (.int id)] = true)
    (passes' : d'.satisfies [.eq "id" (.int id)] = true) : d = d' := by
  obtain ⟨number, holds⟩ := numbered d member
  obtain ⟨number', holds'⟩ := numbered d' member'
  rw [satisfies_id holds, decide_eq_true_eq] at passes
  rw [satisfies_id holds', decide_eq_true_eq] at passes'
  apply List.inj_on_of_nodup_map distinct member member'
  rw [holds, holds', ← passes, ← passes']

/-- Deleting by an id takes out all documents with it. -/
theorem eraseP_id (numbered : Numbered c) (distinct : DistinctInfluencerIds c) (id : Nat) :
    c.docs.eraseP (·.satisfies [.eq "id" (.int id)]) =
      c.docs.filter fun d => !d.satisfies [.eq "id" (.int id)] := by
  apply Records.eraseP_eq_filter
  apply (List.pairwise_map.mp distinct).imp_of_mem
  intro d d' member member' apart here
  by_contra passes
  have same := unique_id numbered distinct member member' here (Bool.not_eq_false _ |>.mp passes)
  exact apart (congrArg Document.id? same)

/-- Under distinct ids a lookup leads to the document with the id. -/
theorem first?_id (numbered : Numbered c) (distinct : DistinctInfluencerIds c) {oid id : Nat}
    (stored : (oid, some (.int id)) ∈ c.docs.map Document.identity) :
    ∃ found, c.first? [.eq "id" (.int id)] = some found ∧ found.oid = oid ∧
      found.id? = some (.int id) := by
  obtain ⟨d, member, keyed⟩ := List.mem_map.mp stored
  have number : d.id? = some (.int id) := congrArg Prod.snd keyed
  have hit : d.satisfies [.eq "id" (.int id)] = true := by
    rw [satisfies_id number, decide_eq_true rfl]
  have some : (c.first? [.eq "id" (.int id)]).isSome := List.find?_isSome.mpr ⟨d, member, hit⟩
  obtain ⟨found, reached⟩ := Option.isSome_iff_exists.mp some
  obtain ⟨present, passes⟩ := Collection.first?_mem reached
  obtain rfl : found = d := unique_id numbered distinct present member passes hit
  exact ⟨found, reached, congrArg Prod.fst keyed, number⟩

/-- A request for an id leaves the documents with other ids alone. -/
theorem others_kept (numbered : Numbered c) {request : InfluencersRequest} {influencerId : Nat}
    (target : request.target = some influencerId) {other : Document} (member : other ∈ c.docs)
    (apart : other.id? ≠ some (.int influencerId)) : other ∈ (request.mongoStep mongo c).docs := by
  have missed : ∀ {doc : Document}, c.first? [.eq "id" (.int influencerId)] = some doc → other.oid ≠ doc.oid := by
    intro doc found same
    obtain ⟨present, passes⟩ := Collection.first?_mem found
    obtain ⟨id, number⟩ := numbered doc present
    rw [satisfies_id number, decide_eq_true_eq] at passes
    rw [Collection.eq_of_oid member present same, number, passes] at apart
    exact apart rfl
  have effect := docs_effect mongo c request
  generalize request.mongoStep mongo c = c' at effect
  cases effect with
  | kept => exact member
  | created creation stored => cases target
  | updated update stored =>
    obtain rfl := Option.some.inj target
    rw [stored]
    exact List.mem_map.mpr ⟨other, member, Document.edit_other _ (missed update.found)⟩
  | @restatus request status now id doc _ sets reachable found stored =>
    obtain rfl : id = influencerId := by
      cases request <;> simp_all [InfluencersRequest.setsStatus, InfluencersRequest.target]
    rw [stored]
    exact List.mem_map.mpr ⟨other, member, Document.edit_other _ (missed found)⟩
  | @deleted named _ stored =>
    obtain rfl : named = influencerId := Option.some.inj target
    obtain ⟨id, number⟩ := numbered other member
    have fails : ¬other.satisfies [.eq "id" (.int named)] = true := by
      rw [satisfies_id number, decide_eq_true_eq]
      intro same
      exact apart (number.trans (same ▸ rfl))
    rw [stored]
    exact mem_eraseP_of_fails fails member

end Documents

/-- In a run from the empty collection the ids are distinct in every state exactly when every
creation finds the id it counted out free. In such a run, until the id of a creation is deleted,
that id leads to the created document, no other has it, and a request for it leaves all others
alone. -/
theorem influencer_document_ids_distinct_iff (mongo : MongoEngine) (requests : List InfluencersRequest) :
    let reached := requests.foldl (InfluencersRequest.mongoStep mongo) .empty
    (Throughout (InfluencersRequest.mongoStep mongo) DistinctInfluencerIds .empty requests ↔
      AllSteps (InfluencersRequest.mongoStep mongo) (CreatesFreeId mongo) .empty requests) ∧
    (AllSteps (InfluencersRequest.mongoStep mongo) (CreatesFreeId mongo) .empty requests →
      ∀ (before : List InfluencersRequest) (req : Http) (after : List InfluencersRequest),
        requests = before ++ .create req :: after →
        let c := before.foldl (InfluencersRequest.mongoStep mongo) .empty
        let id := c.docs.length + 1
        ∀ entries, Creation mongo c req entries → .delete id ∉ after →
        ∃ found, reached.first? [.eq "id" (.int id)] = some found ∧ found.oid = c.newOid ∧
          found.id? = some (.int id) ∧ ∀ other ∈ reached.docs, other ≠ found →
            other.id? ≠ some (.int id) ∧ ∀ request : InfluencersRequest, request.target = some id →
              other ∈ (request.mongoStep mongo reached).docs) := by
  intro reached
  have begun : DistinctInfluencerIds .empty := List.nodup_nil
  have exactly := @throughout_iff_allSteps _ _ (InfluencersRequest.mongoStep mongo)
    (CreatesFreeId mongo)
    DistinctInfluencerIds DistinctInfluencerIds (fun _ distinct => distinct)
    (fun _ request distinct free => (distinctInfluencerIds_step_iff distinct request).mpr free)
    (fun _ request distinct clash kept => clash ((distinctInfluencerIds_step_iff distinct request).mp kept))
    .empty begun requests
  refine ⟨exactly, ?_⟩
  intro all before req after split c id entries creation others
  have numbered : Numbered reached :=
    run_invariant Numbered (fun _ request numbered => numbered_step numbered request)
      (fun d member => absurd member List.not_mem_nil) requests
  have distinct : DistinctInfluencerIds reached :=
    all.run_invariant DistinctInfluencerIds
      (fun _ request distinct free => (distinctInfluencerIds_step_iff distinct request).mpr free) begun
  have created : (c.newOid, some (Value.int id)) ∈
      (InfluencersRequest.mongoStep mongo c (.create req)).docs.map Document.identity := by
    rw [creation.step, List.map_append]
    exact List.mem_append_right _ (List.mem_singleton.mpr rfl)
  have stored : (c.newOid, some (Value.int id)) ∈ reached.docs.map Document.identity := by
    have later := identity_kept_run mongo created others
    change _ ∈ (requests.foldl (InfluencersRequest.mongoStep mongo) .empty).docs.map Document.identity
    rwa [split, List.foldl_append, List.foldl_cons]
  obtain ⟨found, leads, oid, number⟩ := first?_id numbered distinct stored
  refine ⟨found, leads, oid, number, fun other member differs => ?_⟩
  have apart : other.id? ≠ some (.int id) := fun same =>
    differs (List.inj_on_of_nodup_map distinct member (Collection.first?_mem leads).1
      (same.trans number.symm))
  exact ⟨apart, fun request target => others_kept numbered target member apart⟩

/-- A creation after a deletion gets the id of an influencer that is still there. -/
theorem influencer_document_ids_clash :
    let requests : List InfluencersRequest := [.create (shortcodeRequest "Sarah Kimani" "123"),
      .create (shortcodeRequest "David Ochieng" "124"), .delete 1,
      .create (shortcodeRequest "Grace Wanjiku" "125")]
    let reached := requests.foldl (InfluencersRequest.mongoStep plainMongo) .empty
    reached.docs.map (fun d => (d.id?, d.get "name" .null)) =
        [(some (.int 2), .str "David Ochieng"), (some (.int 2), .str "Grace Wanjiku")] ∧
      ¬DistinctInfluencerIds reached := by
  intro requests reached
  have ids : reached.docs.map (fun d => (d.id?, d.get "name" .null)) =
      [(some (.int 2), .str "David Ochieng"), (some (.int 2), .str "Grace Wanjiku")] := by
    decide +kernel
  refine ⟨ids, fun distinct => ?_⟩
  have firsts := congrArg (List.map Prod.fst) ids
  rw [List.map_map] at firsts
  change reached.docs.map Document.id? = _ at firsts
  unfold DistinctInfluencerIds at distinct
  rw [firsts] at distinct
  simp at distinct

end UssdCredit
