import UssdCredit.Library.Runs
import UssdCredit.InfluencerRows

/-! The statuses of the influencers as a state machine, over both databases: which steps are
lawful, and which requests make them. -/

namespace UssdCredit

open Library

/-! The machine. -/

/-- InfluencerStatus. -/
def IsStatus (v : Value) : Prop := v = .str "active" ∨ v = .str "suspended" ∨ v = .str "terminated"

/-- The transitions of the documentation: a terminated influencer stays terminated. -/
def MayBecome (old new : Value) : Prop := IsStatus new ∧ (old = .str "terminated" → new = .str "terminated")

section Machine

variable {κ : Type}

/-- The statuses of a store, each under the identity of its influencer. -/
abbrev Statuses (κ : Type) := List (κ × Value)

def ValidStatuses (l : Statuses κ) : Prop := ∀ entry ∈ l, IsStatus entry.2

/-- After a step every status is valid, and whoever was terminated and is still there still is. -/
def Lawful (before after : Statuses κ) : Prop :=
  ValidStatuses after ∧ ∀ entry ∈ before, entry.2 = .str "terminated" →
    ∀ entry' ∈ after, entry'.1 = entry.1 → entry'.2 = .str "terminated"

variable {l l' : Statuses κ}

/-- With distinct identities an identity has one status. -/
theorem status_unique (distinct : (l.map Prod.fst).Nodup) {a b : κ × Value} (first : a ∈ l)
    (second : b ∈ l) (same : a.1 = b.1) : a.2 = b.2 :=
  congrArg Prod.snd (List.inj_on_of_nodup_map distinct first second same)

theorem lawful_sublist (valid : ValidStatuses l) (distinct : (l.map Prod.fst).Nodup)
    (part : l'.Sublist l) : Lawful l l' := by
  refine ⟨fun entry member => valid entry (part.subset member), ?_⟩
  intro entry member terminated entry' member' same
  rw [status_unique distinct (part.subset member') member same, terminated]

/-- A new influencer needs a valid status. -/
theorem lawful_append (valid : ValidStatuses l) (distinct : (l.map Prod.fst).Nodup) {k : κ}
    (fresh : k ∉ l.map Prod.fst) (status : Value) : Lawful l (l ++ [(k, status)]) ↔ IsStatus status := by
  constructor
  · intro lawful
    exact lawful.1 (k, status) (List.mem_append_right _ (List.mem_singleton.mpr rfl))
  · intro ok
    refine ⟨fun entry member => ?_, ?_⟩
    · rcases List.mem_append.mp member with old | new
      · exact valid entry old
      · rw [List.mem_singleton.mp new]
        exact ok
    · intro entry member terminated entry' member' same
      rcases List.mem_append.mp member' with old | new
      · rw [status_unique distinct old member same, terminated]
      · rw [List.mem_singleton.mp new] at same
        have taken : entry.1 ∈ l.map Prod.fst := List.mem_map_of_mem member
        rw [← same] at taken
        exact absurd taken fresh

theorem lawful_refl (valid : ValidStatuses l) (distinct : (l.map Prod.fst).Nodup) : Lawful l l :=
  lawful_sublist valid distinct (List.Sublist.refl l)

theorem not_lawful_of_revived {k : κ} (before : (k, .str "terminated") ∈ l)
    (after : (k, .str "active") ∈ l') : ¬Lawful l l' := by
  intro lawful
  have kept : Value.str "active" = .str "terminated" := lawful.2 _ before rfl _ after rfl
  exact absurd kept (by decide)

variable [DecidableEq κ]

/-- The status under one identity is replaced. -/
def writeStatus (k : κ) (status : Value) (l : Statuses κ) : Statuses κ :=
  l.map fun entry => if entry.1 = k then (k, status) else entry

/-- A new status needs a transition from the old one. -/
theorem lawful_write (valid : ValidStatuses l) (distinct : (l.map Prod.fst).Nodup) {k : κ}
    {old : Value} (present : (k, old) ∈ l) (status : Value) :
    Lawful l (writeStatus k status l) ↔ MayBecome old status := by
  have written : (k, status) ∈ writeStatus k status l :=
    List.mem_map.mpr ⟨(k, old), present, if_pos rfl⟩
  constructor
  · intro lawful
    exact ⟨lawful.1 _ written, fun terminated => lawful.2 _ present terminated _ written rfl⟩
  · intro may
    refine ⟨fun entry member => ?_, ?_⟩
    · obtain ⟨before, stored, rfl⟩ := List.mem_map.mp member
      split_ifs
      · exact may.1
      · exact valid before stored
    · intro entry member terminated entry' member' same
      obtain ⟨before, stored, rfl⟩ := List.mem_map.mp member'
      split_ifs at same ⊢ with here
      · exact may.2 ((status_unique distinct present member same).trans terminated)
      · rw [status_unique distinct stored member same, terminated]

end Machine

/-! MongoDB. -/

def Document.status (d : Document) : Value := d.get "status" .null

def Collection.statuses (c : Collection) : Statuses Nat := c.docs.map fun d => (d.oid, d.status)

/-- The request, if it goes through, makes lawful transitions. -/
def DocsAllowed (mongo : MongoEngine) (c : Collection) : InfluencersRequest → Prop
  | .create req =>
      ∀ entries, Creation mongo c req entries → IsStatus (given entries "status" (.str "active"))
  | .update req influencerId => ∀ entries doc, Update mongo c req influencerId entries doc →
      MayBecome doc.status (given entries "status" doc.status)
  | request => ∀ status now influencerId doc, request.setsStatus = some (status, now, influencerId) →
      encodeInt influencerId = none → c.first? [.eq "id" (.int influencerId)] = some doc →
      MayBecome doc.status (.str status)

section Docs

variable {mongo : MongoEngine} {c c' : Collection}

theorem statuses_distinct (c : Collection) : (c.statuses.map Prod.fst).Nodup := by
  unfold Collection.statuses
  rw [List.map_map]
  exact c.nodup

/-- An edit of one document rewrites its status. -/
theorem statuses_edit {d : Document} {update : Fields} (present : d ∈ c.docs)
    (stored : c'.docs = c.docs.map (Document.edit d.oid update)) :
    c'.statuses = writeStatus d.oid (d.edit d.oid update).status c.statuses := by
  unfold Collection.statuses writeStatus
  rw [stored, List.map_map, List.map_map]
  refine List.map_congr_left fun other member => ?_
  simp only [Function.comp]
  split_ifs with here
  · rw [Collection.eq_of_oid member present here, Document.edit_oid]
  · rw [Document.edit_other update here]

theorem status_updateFields (entries : Fields) (doc : Document) (now : Int) :
    (doc.edit doc.oid (updateFields entries doc now)).status = given entries "status" doc.status := by
  unfold Document.status Document.get
  rw [Document.edit_self_get?]
  simp [updateFields, Dict.setAll, Dict.lookup_set, Document.get]

theorem status_statusFields (status : String) (doc : Document) (now : Int) :
    (doc.edit doc.oid (statusFields status now)).status = .str status := by
  unfold Document.status Document.get
  rw [Document.edit_self_get?]
  simp [statusFields, Dict.setAll, Dict.lookup_set]

theorem mem_statuses {d : Document} (present : d ∈ c.docs) : (d.oid, d.status) ∈ c.statuses :=
  List.mem_map.mpr ⟨d, present, rfl⟩

theorem statuses_create {req : Http} {entries : Fields} (creation : Creation mongo c req entries) :
    (InfluencersRequest.mongoStep mongo c (.create req)).statuses =
      c.statuses ++ [(c.newOid, given entries "status" (.str "active"))] := by
  unfold Collection.statuses
  rw [creation.step, List.map_append, List.map_singleton]
  rfl

theorem docs_create_iff (valid : ValidStatuses c.statuses) (req : Http) :
    Lawful c.statuses (InfluencersRequest.mongoStep mongo c (.create req)).statuses ↔
      DocsAllowed mongo c (.create req) := by
  have distinct := statuses_distinct c
  by_cases accepted : ∃ entries, Creation mongo c req entries
  · obtain ⟨entries, creation⟩ := accepted
    have fresh : c.newOid ∉ c.statuses.map Prod.fst := by
      unfold Collection.statuses
      rw [List.map_map]
      exact newOid_fresh c
    rw [statuses_create creation, lawful_append valid distinct fresh]
    exact ⟨fun ok entries' creation' => creation.unique creation' ▸ ok, fun allowed => allowed entries creation⟩
  · rw [create_keeps accepted]
    exact ⟨fun _ entries creation => absurd ⟨entries, creation⟩ accepted,
      fun _ => lawful_refl valid distinct⟩

theorem docs_update_iff (valid : ValidStatuses c.statuses) (req : Http) (influencerId : Nat) :
    Lawful c.statuses (InfluencersRequest.mongoStep mongo c (.update req influencerId)).statuses ↔
      DocsAllowed mongo c (.update req influencerId) := by
  have distinct := statuses_distinct c
  by_cases accepted : ∃ entries doc, Update mongo c req influencerId entries doc
  · obtain ⟨entries, doc, update⟩ := accepted
    have present := (Collection.first?_mem update.found).1
    have stored : (doc.oid, doc.status) ∈ c.statuses :=
      mem_statuses present
    rw [statuses_edit present update.step, status_updateFields, lawful_write valid distinct stored]
    constructor
    · intro may entries' doc' update'
      obtain ⟨rfl, rfl⟩ := update.unique update'
      exact may
    · exact fun allowed => allowed entries doc update
  · rw [update_keeps accepted]
    exact ⟨fun _ entries doc update => absurd ⟨entries, doc, update⟩ accepted,
      fun _ => lawful_refl valid distinct⟩

/-- The status views. -/
theorem docs_status_iff (valid : ValidStatuses c.statuses) {request : InfluencersRequest}
    {status : String} {now : Int} {influencerId : Nat}
    (sets : request.setsStatus = some (status, now, influencerId)) :
    Lawful c.statuses (request.mongoStep mongo c).statuses ↔
      ∀ status now influencerId doc, request.setsStatus = some (status, now, influencerId) →
        encodeInt influencerId = none → c.first? [.eq "id" (.int influencerId)] = some doc →
        MayBecome doc.status (.str status) := by
  have distinct := statuses_distinct c
  by_cases accepted : ∃ doc, encodeInt influencerId = none ∧
      c.first? [.eq "id" (.int influencerId)] = some doc
  · obtain ⟨doc, reachable, found⟩ := accepted
    have present := (Collection.first?_mem found).1
    have stored : (doc.oid, doc.status) ∈ c.statuses :=
      mem_statuses present
    rw [statuses_edit present (status_step sets reachable found), status_statusFields,
      lawful_write valid distinct stored]
    constructor
    · intro may status' now' influencerId' doc' sets' _ found'
      obtain ⟨rfl, -, rfl⟩ : status = status' ∧ now = now' ∧ influencerId = influencerId' := by
        simpa using sets.symm.trans sets'
      rw [← Option.some.inj (found.symm.trans found')]
      exact may
    · exact fun allowed => allowed status now influencerId doc sets reachable found
  · rw [status_keeps sets accepted]
    refine ⟨fun _ status' now' influencerId' doc' sets' reachable found' => ?_,
      fun _ => lawful_refl valid distinct⟩
    obtain ⟨-, -, rfl⟩ : status = status' ∧ now = now' ∧ influencerId = influencerId' := by
      simpa using sets.symm.trans sets'
    exact absurd ⟨_, reachable, found'⟩ accepted

/-- From valid statuses the allowed requests are those whose step is lawful. -/
theorem docs_lawful_iff (valid : ValidStatuses c.statuses) (request : InfluencersRequest) :
    Lawful c.statuses (request.mongoStep mongo c).statuses ↔ DocsAllowed mongo c request := by
  have distinct := statuses_distinct c
  cases request with
  | create req => exact docs_create_iff valid req
  | update req influencerId => exact docs_update_iff valid req influencerId
  | suspend req influencerId | activate req influencerId | terminate req influencerId =>
    exact docs_status_iff valid rfl
  | list => exact ⟨fun _ _ _ _ _ sets => (nomatch sets), fun _ => lawful_refl valid distinct⟩
  | get influencerId =>
    rw [get_keeps]
    exact ⟨fun _ _ _ _ _ sets => (nomatch sets), fun _ => lawful_refl valid distinct⟩
  | delete influencerId =>
    refine ⟨fun _ _ _ _ _ sets => (nomatch sets), fun _ => ?_⟩
    have effect := docs_effect mongo c (.delete influencerId)
    generalize InfluencersRequest.mongoStep mongo c (.delete influencerId) = c' at effect
    cases effect with
    | kept => exact lawful_refl valid distinct
    | restatus sets => cases sets
    | deleted stored =>
      refine lawful_sublist valid distinct ?_
      unfold Collection.statuses
      rw [stored]
      exact List.eraseP_sublist.map _

end Docs

/-! SQLAlchemy. -/

def rowStatuses (rows : List InfluencerRow) : Statuses Int := rows.map fun row => (row.id, row.status)

/-- The primary keys are distinct. -/
def DistinctRows (rows : List InfluencerRow) : Prop := (rows.map InfluencerRow.id).Nodup

/-- The request, if it goes through, makes lawful transitions: to what the column holds of a
status. -/
def RowsAllowed (engine : SqlEngine) (rows : List InfluencerRow) : InfluencersRequest → Prop
  | .create req => ∀ entries, RowCreation engine rows req entries →
      IsStatus (engine.textColumn (orDefault (given entries "status" (.str "active")) (.str "active")))
  | .update req influencerId => ∀ entries row, RowUpdate engine rows req influencerId entries row →
      MayBecome row.status (engine.textColumn
        (if (given entries "status" .null).truthy then given entries "status" .null else row.status))
  | request => ∀ status now influencerId row, request.setsStatus = some (status, now, influencerId) →
      engine.mapperError = none → encodeInt influencerId = none →
      Records.find InfluencerRow.id influencerId rows = some row →
      engine.refuses rows (restatusRow status now row) = none → MayBecome row.status (.str status)

section Rows

variable {engine : SqlEngine} {rows : List InfluencerRow}

theorem rowStatuses_distinct (distinct : DistinctRows rows) : ((rowStatuses rows).map Prod.fst).Nodup := by
  unfold rowStatuses
  rw [List.map_map]
  exact distinct

theorem mem_rowStatuses {row : InfluencerRow} (present : row ∈ rows) :
    (row.id, row.status) ∈ rowStatuses rows := List.mem_map.mpr ⟨row, present, rfl⟩

/-- Saving a row rewrites its status. -/
theorem rowStatuses_save (distinct : DistinctRows rows) {row new : InfluencerRow} (same : new.id = row.id) :
    rowStatuses (Records.modify InfluencerRow.id row.id (fun _ => new) rows) =
      writeStatus row.id new.status (rowStatuses rows) := by
  unfold rowStatuses writeStatus
  rw [Records.modify_eq_map distinct, List.map_map, List.map_map]
  refine List.map_congr_left fun other _ => ?_
  simp only [Function.comp]
  split_ifs
  · rw [same]
  · rfl

theorem distinctRows_save (distinct : DistinctRows rows) {row new : InfluencerRow} (same : new.id = row.id) :
    DistinctRows (Records.modify InfluencerRow.id row.id (fun _ => new) rows) := by
  unfold DistinctRows
  rw [Records.modify_eq_map distinct, List.map_map]
  have ids : InfluencerRow.id ∘ (fun other => if other.id = row.id then new else other) =
      InfluencerRow.id := by
    funext other
    simp only [Function.comp]
    split_ifs with here
    · rw [same, here]
    · rfl
  rw [ids]
  exact distinct

theorem distinctRows_step (distinct : DistinctRows rows) (request : InfluencersRequest) :
    DistinctRows (request.sqlStep engine rows) := by
  have effect := rows_effect engine rows request
  generalize request.sqlStep engine rows = rows' at effect
  cases effect with
  | kept => exact distinct
  | created creation =>
    unfold DistinctRows
    rw [List.map_append, List.map_singleton]
    exact Records.nodup_append_nextId distinct
  | updated update => exact distinctRows_save distinct (touch_id rfl)
  | restatus sets mapped reachable found stores => exact distinctRows_save distinct (touch_id rfl)
  | deleted => exact distinct.sublist ((Records.remove_sublist _ _).map _)

theorem rows_create_iff (valid : ValidStatuses (rowStatuses rows)) (distinct : DistinctRows rows)
    (req : Http) : Lawful (rowStatuses rows)
        (rowStatuses (InfluencersRequest.sqlStep engine rows (.create req))) ↔
      RowsAllowed engine rows (.create req) := by
  have keys := rowStatuses_distinct distinct
  by_cases accepted : ∃ entries, RowCreation engine rows req entries
  · obtain ⟨entries, creation⟩ := accepted
    have fresh : Records.nextId (rows.map InfluencerRow.id) ∉ (rowStatuses rows).map Prod.fst := by
      unfold rowStatuses
      rw [List.map_map]
      intro member
      exact absurd (Records.lt_nextId member) (lt_irrefl _)
    have appended : rowStatuses (rows ++ [engine.columns (newRow entries req.now rows)]) =
        rowStatuses rows ++ [(Records.nextId (rows.map InfluencerRow.id), engine.textColumn
          (orDefault (given entries "status" (.str "active")) (.str "active")))] := by
      unfold rowStatuses
      rw [List.map_append]
      rfl
    rw [creation.step, appended, lawful_append valid keys fresh]
    exact ⟨fun ok entries' creation' => creation.unique creation' ▸ ok, fun allowed => allowed entries creation⟩
  · rw [rowCreate_keeps accepted]
    exact ⟨fun _ entries creation => absurd ⟨entries, creation⟩ accepted, fun _ => lawful_refl valid keys⟩

theorem rows_update_iff (valid : ValidStatuses (rowStatuses rows)) (distinct : DistinctRows rows)
    (req : Http) (influencerId : Nat) : Lawful (rowStatuses rows)
        (rowStatuses (InfluencersRequest.sqlStep engine rows (.update req influencerId))) ↔
      RowsAllowed engine rows (.update req influencerId) := by
  have keys := rowStatuses_distinct distinct
  by_cases accepted : ∃ entries row, RowUpdate engine rows req influencerId entries row
  · obtain ⟨entries, row, update⟩ := accepted
    have present := (Records.find_some update.found).1
    have status : (engine.columns (updatedRow entries req.now row)).status = engine.textColumn
        (if (given entries "status" .null).truthy then given entries "status" .null else row.status) :=
      congrArg engine.textColumn (touch_status _ _ _)
    have id : (engine.columns (updatedRow entries req.now row)).id = row.id := touch_id rfl
    rw [update.step, rowStatuses_save distinct id, status,
      lawful_write valid keys (mem_rowStatuses present)]
    constructor
    · intro may entries' row' update'
      obtain ⟨rfl, rfl⟩ := update.unique update'
      exact may
    · exact fun allowed => allowed entries row update
  · rw [rowUpdate_keeps accepted]
    exact ⟨fun _ entries row update => absurd ⟨entries, row, update⟩ accepted,
      fun _ => lawful_refl valid keys⟩

/-- The status views. -/
theorem rows_status_iff (valid : ValidStatuses (rowStatuses rows)) (distinct : DistinctRows rows)
    {request : InfluencersRequest} {status : String} {now : Int} {influencerId : Nat}
    (sets : request.setsStatus = some (status, now, influencerId)) :
    Lawful (rowStatuses rows) (rowStatuses (request.sqlStep engine rows)) ↔
      ∀ status now influencerId row, request.setsStatus = some (status, now, influencerId) →
        engine.mapperError = none → encodeInt influencerId = none →
        Records.find InfluencerRow.id influencerId rows = some row →
        engine.refuses rows (restatusRow status now row) = none → MayBecome row.status (.str status) := by
  have keys := rowStatuses_distinct distinct
  by_cases accepted : ∃ row, engine.mapperError = none ∧ encodeInt influencerId = none ∧
      Records.find InfluencerRow.id influencerId rows = some row ∧
      engine.refuses rows (restatusRow status now row) = none
  · obtain ⟨row, mapped, reachable, found, stores⟩ := accepted
    have present := (Records.find_some found).1
    have written : (engine.columns (restatusRow status now row)).status = .str status :=
      congrArg engine.textColumn (touch_status _ _ _)
    have id : (engine.columns (restatusRow status now row)).id = row.id := touch_id rfl
    rw [rowStatus_step sets mapped reachable found stores, rowStatuses_save distinct id, written,
      lawful_write valid keys (mem_rowStatuses present)]
    constructor
    · intro may status' now' influencerId' row' sets' _ _ found' _
      obtain ⟨rfl, -, rfl⟩ : status = status' ∧ now = now' ∧ influencerId = influencerId' := by
        simpa using sets.symm.trans sets'
      rw [← Option.some.inj (found.symm.trans found')]
      exact may
    · exact fun allowed => allowed status now influencerId row sets mapped reachable found stores
  · rw [rowStatus_keeps sets accepted]
    refine ⟨fun _ status' now' influencerId' row' sets' mapped reachable found' stores' => ?_,
      fun _ => lawful_refl valid keys⟩
    obtain ⟨rfl, rfl, rfl⟩ : status = status' ∧ now = now' ∧ influencerId = influencerId' := by
      simpa using sets.symm.trans sets'
    exact absurd ⟨_, mapped, reachable, found', stores'⟩ accepted

/-- From valid statuses the allowed requests are those whose step is lawful. -/
theorem rows_lawful_iff (valid : ValidStatuses (rowStatuses rows)) (distinct : DistinctRows rows)
    (request : InfluencersRequest) :
    Lawful (rowStatuses rows) (rowStatuses (request.sqlStep engine rows)) ↔
      RowsAllowed engine rows request := by
  have keys := rowStatuses_distinct distinct
  cases request with
  | create req => exact rows_create_iff valid distinct req
  | update req influencerId => exact rows_update_iff valid distinct req influencerId
  | suspend req influencerId | activate req influencerId | terminate req influencerId =>
    exact rows_status_iff valid distinct rfl
  | list =>
    rw [rowList_keeps]
    exact ⟨fun _ _ _ _ _ sets => (nomatch sets), fun _ => lawful_refl valid keys⟩
  | get influencerId =>
    rw [rowGet_keeps]
    exact ⟨fun _ _ _ _ _ sets => (nomatch sets), fun _ => lawful_refl valid keys⟩
  | delete influencerId =>
    refine ⟨fun _ _ _ _ _ sets => (nomatch sets), fun _ => ?_⟩
    rcases rowDelete_step engine rows influencerId with same | removed
    · rw [same]
      exact lawful_refl valid keys
    · rw [removed]
      exact lawful_sublist valid keys ((Records.remove_sublist _ _).map _)

end Rows

/-- From valid statuses, over either database, every status stays valid and every terminated
influencer stays terminated until it is deleted, in exactly the runs whose requests are allowed:
a creation or an update that goes through carries no status or a valid one, and none that goes
through gives a terminated influencer another status. -/
theorem influencer_statuses_lawful_iff {c : Collection} {rows : List InfluencerRow}
    (valid : ValidStatuses c.statuses) (validRows : ValidStatuses (rowStatuses rows))
    (distinct : DistinctRows rows) (mongo : MongoEngine) (engine : SqlEngine)
    (requests : List InfluencersRequest) :
    (AllSteps (InfluencersRequest.mongoStep mongo)
        (fun c request => Lawful c.statuses (request.mongoStep mongo c).statuses) c requests ↔
      AllSteps (InfluencersRequest.mongoStep mongo) (DocsAllowed mongo) c requests) ∧
    (AllSteps (InfluencersRequest.sqlStep engine)
        (fun rows request => Lawful (rowStatuses rows) (rowStatuses (request.sqlStep engine rows)))
        rows requests ↔
      AllSteps (InfluencersRequest.sqlStep engine) (RowsAllowed engine) rows requests) := by
  constructor
  · have same : ∀ (c : Collection) request, ValidStatuses c.statuses →
        (Lawful c.statuses (request.mongoStep mongo c).statuses ↔ DocsAllowed mongo c request) :=
      fun _ request valid => docs_lawful_iff valid request
    exact allSteps_congr same (fun _ _ _ lawful => lawful.1) valid requests
  · have same : ∀ rows request, ValidStatuses (rowStatuses rows) ∧ DistinctRows rows →
        (Lawful (rowStatuses rows) (rowStatuses (request.sqlStep engine rows)) ↔
          RowsAllowed engine rows request) :=
      fun _ request sound => rows_lawful_iff sound.1 sound.2 request
    exact allSteps_congr same
      (fun _ request sound lawful => ⟨lawful.1, distinctRows_step sound.2 request⟩)
      ⟨validRows, distinct⟩ requests

/-- An influencer is terminated and then activated. -/
def revival : List InfluencersRequest := [.create (shortcodeRequest "Sarah Kimani" "123"),
  .terminate (shortcodeRequest "" "") 1, .activate (shortcodeRequest "" "") 1]

theorem influencer_statuses_lawful_iff_empty :
    (AllSteps (InfluencersRequest.mongoStep plainMongo)
        (fun c request => Lawful c.statuses (request.mongoStep plainMongo c).statuses) .empty revival ↔
      AllSteps (InfluencersRequest.mongoStep plainMongo) (DocsAllowed plainMongo) .empty revival) ∧
    (AllSteps (InfluencersRequest.sqlStep plainEngine)
        (fun rows request => Lawful (rowStatuses rows) (rowStatuses (request.sqlStep plainEngine rows)))
        [] revival ↔
      AllSteps (InfluencersRequest.sqlStep plainEngine) (RowsAllowed plainEngine) [] revival) :=
  @influencer_statuses_lawful_iff .empty [] (fun _ member => nomatch member)
    (fun _ member => nomatch member) List.nodup_nil plainMongo plainEngine revival

/-- The terminated influencer is activated. -/
theorem terminated_influencer_activated :
    ¬AllSteps (InfluencersRequest.mongoStep plainMongo)
      (fun c request => Lawful c.statuses (request.mongoStep plainMongo c).statuses) .empty revival := by
  intro all
  have before : (1, .str "terminated") ∈
      ((revival.take 2).foldl (InfluencersRequest.mongoStep plainMongo) .empty).statuses := by
    decide +kernel
  have after : (1, .str "active") ∈
      (revival.foldl (InfluencersRequest.mongoStep plainMongo) .empty).statuses := by decide +kernel
  exact not_lawful_of_revived before after all.2.2.1

end UssdCredit
