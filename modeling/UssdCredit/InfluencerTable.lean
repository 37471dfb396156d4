import UssdCredit.AuthContext
import UssdCredit.InfluencerDocumentIds
import UssdCredit.InfluencerViews
import UssdCredit.Library.Mirror

/-! The influencer table of the administrators: the local list, which the page rewrites by itself
after each action, and the documents of the server it is to mirror. -/

namespace UssdCredit

open Library

structure CreateInfluencerForm where
  name : String
  phone : String
  ussdShortcode : String
  imageUrl : String

/-- `editingInfluencer`: an object with an id. -/
structure EditedInfluencer where
  id : Nat
  others : Fields
  isJson : (Value.dict others).isJson = true

inductive StatusAction where
  | suspend
  | activate
  | terminate
  deriving DecidableEq

/-- The word of the page for the action, and of the URL. -/
def StatusAction.name : StatusAction → String
  | .suspend => "suspend"
  | .activate => "activate"
  | .terminate => "terminate"

/-- `action === 'activate' ? 'active' : action`. -/
def StatusAction.written (action : StatusAction) : String :=
  if action = .activate then "active" else action.name

/-- An action an administrator has confirmed. -/
inductive TableAction where
  | create (createForm : CreateInfluencerForm)
  | update (editingInfluencer : EditedInfluencer)
  | delete (id : Nat)
  | changeStatus (id : Nat) (action : StatusAction)

namespace TableAction

/-- The form is sent with a name and a shortcode only. -/
def complete : TableAction → Bool
  | .create form => form.name ≠ "" && form.ussdShortcode ≠ ""
  | _ => true

def url : TableAction → String
  | .create _ => "/api/influencers"
  | .update editing => "/api/influencers" ++ "/" ++ toString editing.id
  | .delete id => "/api/influencers" ++ "/" ++ toString id
  | .changeStatus id action => "/api/influencers" ++ "/" ++ toString id ++ "/" ++ action.name

/-- What the page has the server do. -/
def request (now : Int) : TableAction → InfluencersRequest
  | .create form => .create (sent (some ⟨.dict [
      ("name", .str form.name),
      ("phone", .str form.phone),
      ("ussd_shortcode", .str form.ussdShortcode),
      ("imageUrl", .str form.imageUrl)], rfl⟩))
  | .update editing => .update (sent (some ⟨.dict (("id", .int editing.id) :: editing.others),
      editing.isJson⟩)) editing.id
  | .delete id => .delete id
  | .changeStatus id .suspend => .suspend (sent none) id
  | .changeStatus id .activate => .activate (sent none) id
  | .changeStatus id .terminate => .terminate (sent none) id
where
  sent (body : Option Json) : Http := ⟨none, body, [], now, 0, 0⟩

end TableAction

/-- The server with a JSON provider that writes ObjectIds as `oidText` does: the request that has
stored a new document, a creation, is answered with it. -/
def InfluencersRequest.serveWith (mongo : MongoEngine) (oidText : Nat → String)
    (request : InfluencersRequest)
    (c : Collection) : Outcome × Collection :=
  let ended := request.mongoServe mongo c
  if ended.2.docs.length = c.docs.length + 1 then
    match ended.2.docs.getLast? with
    | some doc =>
        (.ok (jsonify 201 (.dict (doc.fields ++ [("_id", .str (oidText doc.oid))]))), ended.2)
    | none => ended
  else ended

/-! The local list. -/

/-- `inf.id === id`. -/
def isInfluencer (id : Nat) (inf : Value) : Bool :=
  (Js.property (some inf) "id").map (Value.mapScalar Value.integral) = some (.int id)

/-- `{ ...inf, status }`; only an object has an id. -/
def withStatus (status : String) : Value → Value
  | .dict entries => .dict (Dict.set "status" (.str status) entries)
  | inf => inf

/-- The new list, from the old one and the data of the response. -/
def TableAction.rewrite (data : Value) (prev : List Value) : TableAction → List Value
  | .create _ => prev ++ [data]
  | .update editing => prev.map fun inf => if isInfluencer editing.id inf then data else inf
  | .delete id => prev.filter fun inf => !isInfluencer id inf
  | .changeStatus id action => prev.map fun inf =>
      if isInfluencer id inf then withStatus action.written inf else inf

/-- The page with the documents of the server. -/
structure InfluencerTable where
  influencers : List Value
  documents : Collection

namespace InfluencerTable

/-- The page after it has fetched the list. -/
def load (mongo : MongoEngine) (documents : Collection) : InfluencerTable where
  influencers :=
    match intercept "/api/influencers"
      (Outcome.answer (InfluencersRequest.list.mongoServe mongo documents).1).body with
    | .list rows => rows
    | _ => []
  documents

variable (mongo : MongoEngine) (oidText : Nat → String)

/-- The answer to an action at a moment. -/
def response (table : InfluencerTable) (action : TableAction × Int) : Response :=
  Outcome.answer ((action.1.request action.2).serveWith mongo oidText table.documents).1

/-- A response that is no success leaves the list alone. -/
def act (table : InfluencerTable) (action : TableAction × Int) : InfluencerTable :=
  if action.1.complete then
    let response := table.response mongo oidText action
    { influencers :=
        if response.succeeds then
          action.1.rewrite (intercept action.1.url response.body) table.influencers
        else table.influencers
      documents := ((action.1.request action.2).serveWith mongo oidText table.documents).2 }
  else table

/-- The action is sent and succeeds. -/
def Succeeds (table : InfluencerTable) (action : TableAction × Int) : Prop :=
  action.1.complete = true ∧ (table.response mongo oidText action).succeeds = true

/-- The list is what the server would answer with now, moments aside. -/
def UpToDate (table : InfluencerTable) : Prop :=
  untimed (.list table.influencers) =
    untimed (Outcome.answer (InfluencersRequest.list.mongoServe mongo table.documents).1).body

end InfluencerTable

/-! How an action ends. -/

/-- The status the server sets for an action. -/
def StatusAction.stored : StatusAction → String
  | .suspend => "suspended"
  | .activate => "active"
  | .terminate => "terminated"

/-- The answer to an action and the documents after it. -/
inductive TableAction.Ends (now : Int) (c : Collection) : TableAction → Response → Collection → Prop where
  | refused {action : TableAction} {response : Response} {c' : Collection}
      (fails : response.succeeds = false) (kept : c'.docs = c.docs) :
      Ends now c action response c'
  | created {form : CreateInfluencerForm} {response : Response} {c' : Collection}
      (succeeds : response.succeeds = true) : Ends now c (.create form) response c'
  | updated {editing : EditedInfluencer} {response : Response} {c' : Collection} {doc : Document}
      (succeeds : response.succeeds = true)
      (found : c.first? [.eq "id" (.int editing.id)] = some doc) :
      Ends now c (.update editing) response c'
  | deleted {id : Nat} {response : Response} {c' : Collection} (succeeds : response.succeeds = true)
      (stored : c'.docs = c.docs.eraseP (·.satisfies [.eq "id" (.int id)])) :
      Ends now c (.delete id) response c'
  | restatus {id : Nat} {action : StatusAction} {response : Response} {c' : Collection}
      {doc : Document} (succeeds : response.succeeds = true)
      (found : c.first? [.eq "id" (.int id)] = some doc)
      (stored : c'.docs = c.docs.map (Document.edit doc.oid (statusFields action.stored now))) :
      Ends now c (.changeStatus id action) response c'

section Ends

variable {mongo : MongoEngine} {oidText : Nat → String} {now : Int} {c : Collection}

/-- Without a new document the answer is the one of the view. -/
theorem serveWith_kept {request : InfluencersRequest} {outcome : Outcome} {c' : Collection}
    (ended : request.mongoServe mongo c = (outcome, c')) (same : c'.docs.length ≤ c.docs.length) :
    request.serveWith mongo oidText c = (outcome, c') := by
  unfold InfluencersRequest.serveWith
  rw [ended]
  exact if_neg (Nat.ne_of_lt (Nat.lt_succ_of_le same))

theorem serveWith_stored {request : InfluencersRequest} {outcome : Outcome} {c' : Collection}
    {doc : Document} (ended : request.mongoServe mongo c = (outcome, c'))
    (stored : c'.docs = c.docs ++ [doc]) : request.serveWith mongo oidText c =
      (.ok (jsonify 201 (.dict (doc.fields ++ [("_id", .str (oidText doc.oid))]))), c') := by
  have grown : c'.docs.length = c.docs.length + 1 := by
    rw [stored, List.length_append, List.length_singleton]
  have last : c'.docs.getLast? = some doc := by
    rw [stored, List.getLast?_concat]
  unfold InfluencersRequest.serveWith
  simp only [ended, if_pos grown, last]

theorem serveWith_step {request : InfluencersRequest} :
    (request.serveWith mongo oidText c).2 = request.mongoStep mongo c := by
  unfold InfluencersRequest.serveWith
  dsimp only
  split_ifs
  · split <;> rfl
  · rfl

/-- A request is answered by its view, as long as it stores no new document. -/
theorem ends_of_view {action : TableAction} {outcome : Outcome} {c' : Collection}
    (ended : (action.request now).mongoServe mongo c = (outcome, c'))
    (same : c'.docs.length ≤ c.docs.length)
    (ends : action.Ends now c (Outcome.answer outcome) c') :
    let served := (action.request now).serveWith mongo oidText c
    action.Ends now c (Outcome.answer served.1) served.2 := by
  intro served
  rw [show served = (outcome, c') from serveWith_kept ended same]
  exact ends

theorem create_ends (form : CreateInfluencerForm) :
    let served := ((TableAction.create form).request now).serveWith mongo oidText c
    TableAction.Ends now c (.create form) (Outcome.answer served.1) served.2 := by
  intro served
  have ran := @create_run (TableAction.request.sent now (some ⟨.dict [
      ("name", .str form.name),
      ("phone", .str form.phone),
      ("ussd_shortcode", .str form.ussdShortcode),
      ("imageUrl", .str form.imageUrl)], rfl⟩)) _ rfl mongo c
  generalize ended : (Influencers.Mongo.createInfluencer _).run (mongoExec mongo) c = result at ran
  have refuse : ∀ outcome, result = (outcome, c) → (Outcome.answer outcome).succeeds = false →
      TableAction.Ends now c (.create form) (Outcome.answer served.1) served.2 := fun outcome same fails =>
    ends_of_view (show ((TableAction.create form).request now).mongoServe mongo c = (outcome, c) from
      ended.trans same) le_rfl (.refused fails rfl)
  cases ran with
  | unnamed missing => exact refuse _ rfl rfl
  | uncoded named missing => exact refuse _ rfl rfl
  | taken named coded found => exact refuse _ rfl rfl
  | unasked refused => exact refuse _ rfl (PyExn.answer_fails _)
  | unstored named coded free refused => exact refuse _ rfl (PyExn.answer_fails _)
  | created creation stored =>
    rw [show served = _ from serveWith_stored ended stored]
    exact .created rfl

theorem update_ends (editing : EditedInfluencer) :
    let served := ((TableAction.update editing).request now).serveWith mongo oidText c
    TableAction.Ends now c (.update editing) (Outcome.answer served.1) served.2 := by
  intro served
  have ran := @update_run (TableAction.request.sent now
    (some ⟨.dict (("id", .int editing.id) :: editing.others), editing.isJson⟩)) _ rfl mongo c editing.id
  generalize ended : (Influencers.Mongo.updateInfluencer _ editing.id).run (mongoExec mongo) c = result at ran
  have refuse : ∀ outcome, result = (outcome, c) → (Outcome.answer outcome).succeeds = false →
      TableAction.Ends now c (.update editing) (Outcome.answer served.1) served.2 := fun outcome same fails =>
    ends_of_view (show ((TableAction.update editing).request now).mongoServe mongo c = (outcome, c) from
      ended.trans same) le_rfl (.refused fails rfl)
  cases ran with
  | unsent large => exact refuse _ rfl (PyExn.answer_fails _)
  | missing reachable absent => exact refuse _ rfl rfl
  | taken reachable found differs other => exact refuse _ rfl rfl
  | unasked found differs refused => exact refuse _ rfl (PyExn.answer_fails _)
  | unstored found refused => exact refuse _ rfl (PyExn.answer_fails _)
  | updated update stored =>
    have same := (congrArg List.length stored).trans (List.length_map _)
    exact ends_of_view ended (le_of_eq same) (.updated rfl update.found)

theorem status_ends (id : Nat) (action : StatusAction) :
    let served := ((TableAction.changeStatus id action).request now).serveWith mongo oidText c
    TableAction.Ends now c (.changeStatus id action) (Outcome.answer served.1) served.2 := by
  have ends : ∀ done : String,
      ((TableAction.changeStatus id action).request now).mongoServe mongo c =
        (Influencers.Mongo.setStatus (TableAction.request.sent now none) action.stored done id).run
          (mongoExec mongo) c →
      let served := ((TableAction.changeStatus id action).request now).serveWith mongo oidText c
      TableAction.Ends now c (.changeStatus id action) (Outcome.answer served.1) served.2 := by
    intro done view
    have ran := status_run mongo c (TableAction.request.sent now none) action.stored done id
    rw [← view] at ran
    generalize ended : ((TableAction.changeStatus id action).request now).mongoServe mongo c = result at ran
    cases ran with
    | unsent large => exact ends_of_view ended le_rfl (.refused (PyExn.answer_fails _) rfl)
    | missing reachable absent => exact ends_of_view ended le_rfl (.refused rfl rfl)
    | changed reachable found stored =>
      have same := (congrArg List.length stored).trans (List.length_map _)
      exact ends_of_view ended (le_of_eq same) (.restatus rfl found stored)
  cases action with
  | suspend => exact ends "Influencer suspended successfully" rfl
  | activate => exact ends "Influencer activated successfully" rfl
  | terminate => exact ends "Influencer terminated successfully" rfl

theorem delete_ends (id : Nat) :
    let served := ((TableAction.delete id).request now).serveWith mongo oidText c
    TableAction.Ends now c (.delete id) (Outcome.answer served.1) served.2 := by
  cases reachable : encodeInt id with
  | some e =>
    have refused := (bsonError_id mongo id).trans reachable
    have ended : (Influencers.Mongo.deleteInfluencer id).run (mongoExec mongo) c = (.error e, c) :=
      run_mongoDelete_error refused _
    exact ends_of_view ended le_rfl (.refused (PyExn.answer_fails e) rfl)
  | none =>
    have removed : ∃ c', (Influencers.Mongo.deleteInfluencer id).run (mongoExec mongo) c =
        (.ok (if c.matched [.eq "id" (.int id)] = 0 then abort 404 "Influencer not found"
          else message 200 "Influencer deleted successfully"), c') ∧
        c'.docs = c.docs.eraseP (·.satisfies [.eq "id" (.int id)]) := by
      unfold Influencers.Mongo.deleteInfluencer
      obtain ⟨c', moved, stored⟩ := @run_mongoDelete _ mongo c _
        ((bsonError_id mongo id).trans reachable) fun deletedCount =>
        if deletedCount = 0 then return abort 404 "Influencer not found"
        else return message 200 "Influencer deleted successfully"
      rw [MongoEngine.reading_int] at moved stored
      refine ⟨c', moved.trans ?_, stored⟩
      split_ifs <;> rfl
    obtain ⟨c', ended, stored⟩ := removed
    have fewer : c'.docs.length ≤ c.docs.length := stored ▸ List.length_eraseP_le
    cases found : c.first? [.eq "id" (.int id)] with
    | none =>
      have kept : c'.docs = c.docs := by
        rw [stored]
        exact List.eraseP_of_forall_not (List.find?_eq_none.mp found)
      rw [Collection.matched, found] at ended
      exact ends_of_view ended fewer (.refused rfl kept)
    | some doc =>
      rw [Collection.matched, found] at ended
      exact ends_of_view ended fewer (.deleted rfl stored)

/-- Every action is refused or takes its effect. -/
theorem action_ends (action : TableAction) :
    let served := (action.request now).serveWith mongo oidText c
    action.Ends now c (Outcome.answer served.1) served.2 := by
  cases action with
  | create form => exact create_ends form
  | update editing => exact update_ends editing
  | delete id => exact delete_ends id
  | changeStatus id action => exact status_ends id action

end Ends

/-! Rows and the documents they stand for. -/

/-- A document as the list shows it, moments aside. -/
def shownFields (d : Document) : Fields :=
  ([("id", d.get "id" .null),
    ("name", d.get "name" (.str "")),
    ("phone", d.get "phone" (.str "")),
    ("received", d.get "received" (.int 0)),
    ("imageUrl", ((d.get "imageUrl" .null).pyOr (d.get "image_url" .null)).pyOr (.str "")),
    ("ussd_shortcode", d.get "ussd_shortcode" (.str "")),
    ("status", d.get "status" (.str "active"))] : Fields).map fun entry =>
      (entry.1, entry.2.mapScalar jsonScalar)

/-- The key is no moment. -/
def untimedKey (key : String) : Bool := key ≠ "created_at" && key ≠ "updated_at"

/-- A row is the record of a document, moments aside. -/
def StandsFor (inf : Value) (d : Document) : Prop := untimedRecord inf = .dict (shownFields d)

theorem untimed_normalized (d : Document) :
    untimedRecord ((Influencers.Mongo.normalized d).mapScalar jsonScalar) = .dict (shownFields d) := by
  simp [Influencers.Mongo.normalized, Value.mapScalar, Value.mapScalarEntries, untimedRecord, shownFields]

theorem StandsFor.entries {inf : Value} {d : Document} (stands : StandsFor inf d) :
    ∃ entries, inf = .dict entries ∧
      entries.filter (fun entry => untimedKey entry.1) = shownFields d := by
  unfold StandsFor at stands
  cases inf with
  | dict entries => exact ⟨entries, rfl, Value.dict.inj stands⟩
  | list items => cases stands
  | scalar s => cases stands

theorem upToDate_iff (mongo : MongoEngine) (table : InfluencerTable) :
    table.UpToDate mongo ↔ Mirrors StandsFor table.influencers table.documents.docs := by
  unfold InfluencerTable.UpToDate
  rw [mongoServe_list mongo]
  change Value.list (table.influencers.map untimedRecord) =
    untimed ((Value.list (table.documents.docs.map _)).mapScalar jsonScalar) ↔ _
  rw [Value.mapScalar, Value.mapScalarList_eq, untimed, Value.list.injEq, List.map_map, List.map_map]
  have rows : ∀ (copy : List Value) (docs : List Document),
      copy.map untimedRecord = docs.map (fun d => Value.dict (shownFields d)) ↔
        Mirrors StandsFor copy docs := by
    intro copy docs
    rw [← List.forall₂_eq_eq_eq, List.forall₂_map_left_iff, List.forall₂_map_right_iff]
    rfl
  rw [← rows]
  refine Eq.congr_right (List.map_congr_left fun d _ => ?_)
  exact untimed_normalized d

/-- A loaded list is up to date. -/
theorem upToDate_load (mongo : MongoEngine) (c : Collection) :
    (InfluencerTable.load mongo c).UpToDate mongo := by
  unfold InfluencerTable.UpToDate InfluencerTable.load
  simp only [mongoServe_list]
  rfl

theorem StandsFor.isInfluencer {inf : Value} {d : Document} (stands : StandsFor inf d) {number : Int}
    (numbered : d.id? = some (.int number)) (id : Nat) :
    isInfluencer id inf = decide ((id : Int) = number) := by
  obtain ⟨entries, rfl, shown⟩ := stands.entries
  have held : d.get "id" .null = .int number := congrArg (Option.getD · Value.null) numbered
  have read : Js.property (some (.dict entries)) "id" = some (.int number) := by
    calc entries.lookup "id"
        = (entries.filter fun entry => untimedKey entry.1).lookup "id" :=
          (Dict.lookup_filter (by decide) entries).symm
      _ = some ((d.get "id" .null).mapScalar jsonScalar) := by rw [shown]; rfl
      _ = some (.int number) := by rw [held]; rfl
  unfold UssdCredit.isInfluencer
  rw [read, Option.map_some, Value.mapScalar_integral_int]
  apply decide_eq_decide.mpr
  rw [Option.some.injEq, Value.scalar.injEq, Scalar.int.injEq]
  exact eq_comm

/-- Writing the status into a row. -/
theorem StandsFor.untimed_withStatus {inf : Value} {d : Document} (stands : StandsFor inf d)
    (status : String) : untimedRecord (withStatus status inf) =
      .dict (Dict.set "status" (.str status) (shownFields d)) := by
  obtain ⟨entries, rfl, shown⟩ := stands.entries
  rw [← shown, ← Dict.filter_set (by decide)]
  rfl

/-- The record of a document whose status the server has set. -/
theorem shownFields_statusFields (d : Document) (status : String) (now : Int) :
    shownFields (d.edit d.oid (statusFields status now)) =
      Dict.set "status" (.str status) (shownFields d) := by
  have distinct : ((statusFields status now).map Prod.fst).Nodup := by simp [statusFields]
  unfold shownFields
  simp only [Document.get_edit_self distinct]
  rfl

/-- A row is up to date after a status change exactly when the page writes what the server sets. -/
theorem StandsFor.withStatus_iff {inf : Value} {d : Document} (stands : StandsFor inf d)
    (written stored : String) (now : Int) :
    StandsFor (withStatus written inf) (d.edit d.oid (statusFields stored now)) ↔ written = stored := by
  unfold StandsFor
  rw [stands.untimed_withStatus, shownFields_statusFields, Value.dict.injEq]
  constructor
  · intro same
    have statuses := congrArg (List.lookup "status") same
    rw [Dict.lookup_set, Dict.lookup_set, if_pos rfl, if_pos rfl] at statuses
    simpa using statuses
  · rintro rfl
    rfl

/-! One action. -/

/-- The ids are distinct numbers, and the list is up to date. -/
structure InfluencerTable.Consistent (mongo : MongoEngine) (table : InfluencerTable) : Prop where
  numbered : Numbered table.documents
  distinct : DistinctInfluencerIds table.documents
  upToDate : table.UpToDate mongo

/-- The actions the page follows as the server does. -/
def TableAction.followed : TableAction → Bool
  | .delete _ => true
  | .changeStatus _ action => action = .activate
  | _ => false

section Steps

variable {mongo : MongoEngine} {oidText : Nat → String} {table : InfluencerTable}
  {action : TableAction} {now : Int}

theorem act_documents (complete : action.complete = true) :
    action.Ends now table.documents (table.response mongo oidText (action, now))
      (table.act mongo oidText (action, now)).documents := by
  rw [InfluencerTable.act, if_pos complete]
  exact action_ends action

/-- What succeeds is not refused. -/
theorem InfluencerTable.Succeeds.not_fails (succeeds : table.Succeeds mongo oidText (action, now)) :
    (table.response mongo oidText (action, now)).succeeds ≠ false := by
  rw [succeeds.2]
  decide

theorem act_influencers (succeeds : table.Succeeds mongo oidText (action, now)) :
    (table.act mongo oidText (action, now)).influencers = action.rewrite
      (intercept action.url (table.response mongo oidText (action, now)).body) table.influencers := by
  rw [InfluencerTable.act, if_pos succeeds.1]
  exact if_pos succeeds.2

/-- Without success the list stays, and so do the documents. -/
theorem InfluencerTable.Consistent.refused (consistent : table.Consistent mongo)
    (refused : ¬table.Succeeds mongo oidText (action, now)) :
    (table.act mongo oidText (action, now)).Consistent mongo := by
  by_cases complete : action.complete = true
  · have fails : ¬(table.response mongo oidText (action, now)).succeeds = true :=
      fun succeeds => refused ⟨complete, succeeds⟩
    have documents : (table.act mongo oidText (action, now)).documents.docs = table.documents.docs := by
      have ends := @act_documents mongo oidText table action now complete
      generalize (table.act mongo oidText (action, now)).documents = c' at ends
      cases ends with
      | refused _ kept => exact kept
      | created succeeds => exact absurd succeeds fails
      | updated succeeds => exact absurd succeeds fails
      | deleted succeeds => exact absurd succeeds fails
      | restatus succeeds => exact absurd succeeds fails
    have influencers : (table.act mongo oidText (action, now)).influencers = table.influencers := by
      rw [InfluencerTable.act, if_pos (show action.complete = true from complete)]
      exact if_neg fails
    have numbered := consistent.numbered
    have distinct := consistent.distinct
    have upToDate := (upToDate_iff mongo table).mp consistent.upToDate
    unfold Numbered at numbered
    unfold DistinctInfluencerIds at distinct
    rw [← documents] at numbered distinct
    rw [← documents, ← influencers] at upToDate
    exact ⟨numbered, distinct, (upToDate_iff mongo _).mpr upToDate⟩
  · rw [InfluencerTable.act, if_neg complete]
    exact consistent

/-- A row is told by the id as its document is. -/
theorem isInfluencer_eq_satisfies (numbered : Numbered table.documents) (id : Nat) :
    ∀ inf, ∀ d ∈ table.documents.docs, StandsFor inf d →
      isInfluencer id inf = d.satisfies [.eq "id" (.int id)] := by
  intro inf d member stands
  obtain ⟨number, holds⟩ := numbered d member
  rw [stands.isInfluencer holds, satisfies_id holds]

theorem act_numbered (consistent : table.Consistent mongo) (complete : action.complete = true)
    (others : ∀ form, action ≠ .create form) :
    Numbered (table.act mongo oidText (action, now)).documents ∧
      DistinctInfluencerIds (table.act mongo oidText (action, now)).documents := by
  have step : (table.act mongo oidText (action, now)).documents =
      (action.request now).mongoStep mongo table.documents := by
    rw [InfluencerTable.act, if_pos complete]
    exact serveWith_step
  rw [step]
  refine ⟨numbered_step consistent.numbered _, ?_⟩
  apply (distinctInfluencerIds_step_iff consistent.distinct _).mpr
  intro req entries create
  cases action with
  | create form => exact absurd rfl (others form)
  | update editing => cases create
  | delete id => cases create
  | changeStatus id action => cases action <;> cases create

theorem InfluencerTable.Consistent.delete {id : Nat} (consistent : table.Consistent mongo)
    (succeeds : table.Succeeds mongo oidText (.delete id, now)) :
    (table.act mongo oidText (.delete id, now)).Consistent mongo := by
  have documents : (table.act mongo oidText (.delete id, now)).documents.docs =
      table.documents.docs.filter fun d => !d.satisfies [.eq "id" (.int id)] := by
    have ends := @act_documents mongo oidText table _ now succeeds.1
    generalize (table.act mongo oidText (.delete id, now)).documents = c' at ends
    cases ends with
    | refused fails kept => exact absurd fails succeeds.not_fails
    | deleted _ stored => rw [stored, eraseP_id consistent.numbered consistent.distinct]
  obtain ⟨numbered, distinct⟩ := @act_numbered mongo oidText table (.delete id) now consistent rfl nofun
  refine ⟨numbered, distinct, (upToDate_iff mongo _).mpr ?_⟩
  rw [documents, act_influencers succeeds]
  apply ((upToDate_iff mongo table).mp consistent.upToDate).filter
  intro inf d member stands
  rw [isInfluencer_eq_satisfies consistent.numbered id inf d member stands]

/-- The documents after a status change that succeeds. -/
theorem act_changeStatus {id : Nat} {status : StatusAction} (consistent : table.Consistent mongo)
    (succeeds : table.Succeeds mongo oidText (.changeStatus id status, now)) :
    ∃ doc ∈ table.documents.docs, doc.satisfies [.eq "id" (.int id)] = true ∧
      (table.act mongo oidText (.changeStatus id status, now)).documents.docs =
        table.documents.docs.map fun d =>
          if d.satisfies [.eq "id" (.int id)] then d.edit d.oid (statusFields status.stored now) else d := by
  have ends := @act_documents mongo oidText table _ now succeeds.1
  generalize (table.act mongo oidText (.changeStatus id status, now)).documents = c' at ends
  cases ends with
  | refused fails kept => exact absurd fails succeeds.not_fails
  | @restatus _ _ _ _ doc _ found stored =>
    obtain ⟨present, passes⟩ := Collection.first?_mem found
    refine ⟨doc, present, passes, stored.trans (List.map_congr_left fun d member => ?_)⟩
    by_cases here : d.satisfies [.eq "id" (.int id)] = true
    · rw [if_pos here, unique_id consistent.numbered consistent.distinct member present here passes]
    · rw [if_neg here]
      apply Document.edit_other
      intro same
      exact here (Collection.eq_of_oid member present same ▸ passes)

theorem StatusAction.written_eq_stored (status : StatusAction) :
    status.written = status.stored ↔ status = .activate := by
  cases status <;> decide

/-- The row of the document is right again exactly when the page writes what the server stores. -/
theorem changeStatus_upToDate_iff {id : Nat} {status : StatusAction} (consistent : table.Consistent mongo)
    (succeeds : table.Succeeds mongo oidText (.changeStatus id status, now)) :
    (table.act mongo oidText (.changeStatus id status, now)).UpToDate mongo ↔ status = .activate := by
  obtain ⟨doc, present, passes, stored⟩ := act_changeStatus consistent succeeds
  have mirrors := (upToDate_iff mongo table).mp consistent.upToDate
  have named := isInfluencer_eq_satisfies consistent.numbered id
  rw [upToDate_iff mongo, stored, act_influencers succeeds, ← status.written_eq_stored]
  constructor
  · intro after
    by_contra differs
    refine Mirrors.not_map mirrors present (fun inf stands => ?_) after
    rw [named inf doc present stands, if_pos passes, if_pos passes]
    exact fun right => differs ((stands.withStatus_iff _ _ now).mp right)
  · intro same
    apply mirrors.map
    intro inf d member stands
    rw [named inf d member stands]
    split_ifs
    · exact (stands.withStatus_iff _ _ now).mpr same
    · exact stands

/-- An up-to-date list holds records only. -/
theorem upToDate_records (upToDate : table.UpToDate mongo) :
    ∀ inf ∈ table.influencers, ∃ entries, inf = .dict entries := by
  intro inf member
  obtain ⟨d, -, stands⟩ := ((upToDate_iff mongo table).mp upToDate).exists_record member
  obtain ⟨entries, same, -⟩ := stands.entries
  exact ⟨entries, same⟩

theorem url_wrapped (action : TableAction) : "/api/".toList <:+: action.url.toList := by
  have base : "/api/".toList <:+: "/api/influencers".toList := by decide +kernel
  have longer : ∀ {start : String} (rest : String), "/api/".toList <:+: start.toList →
      "/api/".toList <:+: (start ++ rest).toList := by
    intro start rest inside
    rw [String.toList_append]
    exact inside.trans (List.prefix_append ..).isInfix
  cases action with
  | create form => exact base
  | update editing => exact longer _ (longer _ base)
  | delete id => exact longer _ (longer _ base)
  | changeStatus id status => exact longer _ (longer _ (longer _ (longer _ base)))

/-- No response of these routes gives the page an object. -/
theorem intercept_ne_dict (action : TableAction) (body : Value) (entries : Fields) :
    intercept action.url body ≠ .dict entries := by
  cases body with
  | dict given =>
    rw [intercept_object (url_wrapped action)]
    exact nofun
  | list items => exact nofun
  | scalar s => exact nofun

/-- With the data of a response for a row the list is out of date. -/
theorem not_upToDate_of_data {body : Value}
    (member : intercept action.url body ∈ table.influencers) : ¬table.UpToDate mongo := by
  intro upToDate
  obtain ⟨entries, same⟩ := upToDate_records upToDate _ member
  exact intercept_ne_dict action body entries same

theorem create_outdates {form : CreateInfluencerForm}
    (succeeds : table.Succeeds mongo oidText (.create form, now)) :
    ¬(table.act mongo oidText (.create form, now)).UpToDate mongo := by
  apply @not_upToDate_of_data mongo _ (.create form) (table.response mongo oidText (.create form, now)).body
  rw [act_influencers succeeds]
  exact List.mem_append_right _ (List.mem_singleton.mpr rfl)

theorem update_outdates {editing : EditedInfluencer} (consistent : table.Consistent mongo)
    (succeeds : table.Succeeds mongo oidText (.update editing, now)) :
    ¬(table.act mongo oidText (.update editing, now)).UpToDate mongo := by
  have ends := @act_documents mongo oidText table _ now succeeds.1
  generalize (table.act mongo oidText (.update editing, now)).documents = c' at ends
  cases ends with
  | refused fails kept => exact absurd fails succeeds.not_fails
  | @updated _ _ _ doc _ found =>
    obtain ⟨present, passes⟩ := Collection.first?_mem found
    obtain ⟨inf, member, stands⟩ := ((upToDate_iff mongo table).mp consistent.upToDate).exists_row present
    have here := (isInfluencer_eq_satisfies consistent.numbered editing.id inf doc present stands).trans passes
    apply @not_upToDate_of_data mongo _ (.update editing)
      (table.response mongo oidText (.update editing, now)).body
    rw [act_influencers succeeds]
    exact List.mem_map.mpr ⟨inf, member, if_pos here⟩

end Steps

/-- In a run from a freshly loaded list of influencers with distinct ids, the local list is what
the server would answer with after every action exactly when each action that succeeds is a
deletion or an activation. -/
theorem influencer_table_up_to_date_iff (mongo : MongoEngine) (oidText : Nat → String) (c : Collection)
    (numbered : Numbered c) (distinct : DistinctInfluencerIds c) (actions : List (TableAction × Int)) :
    Throughout (InfluencerTable.act mongo oidText) (InfluencerTable.UpToDate mongo) (.load mongo c) actions ↔
      AllSteps (InfluencerTable.act mongo oidText)
        (fun table action => table.Succeeds mongo oidText action → action.1.followed = true)
        (.load mongo c) actions := by
  have start : (InfluencerTable.load mongo c).Consistent mongo :=
    ⟨numbered, distinct, upToDate_load mongo c⟩
  refine throughout_iff_allSteps (fun table consistent => consistent.upToDate) ?_ ?_ start actions
  · rintro table ⟨action, now⟩ consistent follows
    by_cases succeeds : table.Succeeds mongo oidText (action, now)
    · have followed : action.followed = true := follows succeeds
      cases action with
      | create form => cases followed
      | update editing => cases followed
      | delete id => exact consistent.delete succeeds
      | changeStatus id status =>
        obtain ⟨numbered, distinct⟩ := @act_numbered mongo oidText table _ now consistent succeeds.1 nofun
        have activates : status = .activate := of_decide_eq_true followed
        exact ⟨numbered, distinct, (changeStatus_upToDate_iff consistent succeeds).mpr activates⟩
    · exact consistent.refused succeeds
  · rintro table ⟨action, now⟩ consistent departs
    obtain ⟨succeeds, other⟩ := Classical.not_imp.mp departs
    cases action with
    | create form => exact create_outdates succeeds
    | update editing => exact update_outdates consistent succeeds
    | delete id => exact absurd rfl other
    | changeStatus id status =>
      intro upToDate
      have activates := (changeStatus_upToDate_iff consistent succeeds).mp upToDate
      exact other (decide_eq_true activates)

/-- One influencer, under the id 1. -/
def oneInfluencer : Collection :=
  InfluencersRequest.mongoStep plainMongo .empty (.create (shortcodeRequest "Sarah Kimani" "*123*1#"))

theorem influencer_table_up_to_date_iff_one :
    Throughout (InfluencerTable.act plainMongo toString) (InfluencerTable.UpToDate plainMongo)
      (.load plainMongo oneInfluencer) [(.changeStatus 1 .activate, 0), (.delete 1, 0)] := by
  have empty : Numbered .empty := fun _ member => absurd member List.not_mem_nil
  have numbered : Numbered oneInfluencer := numbered_step empty _
  have distinct : DistinctInfluencerIds oneInfluencer := by
    unfold DistinctInfluencerIds
    decide +kernel
  apply (influencer_table_up_to_date_iff plainMongo toString oneInfluencer numbered distinct _).mpr
  exact ⟨fun _ => rfl, fun _ => rfl, trivial⟩

instance (mongo : MongoEngine) (table : InfluencerTable) : Decidable (table.UpToDate mongo) := by
  unfold InfluencerTable.UpToDate
  infer_instance

instance (mongo : MongoEngine) (oidText : Nat → String) (table : InfluencerTable)
    (action : TableAction × Int) : Decidable (table.Succeeds mongo oidText action) := by
  unfold InfluencerTable.Succeeds
  infer_instance

/-- A suspended influencer is listed as `suspend`, and a new one as an array. -/
theorem suspension_and_creation_outdate :
    let loaded := InfluencerTable.load plainMongo oneInfluencer
    let suspend : TableAction × Int := (.changeStatus 1 .suspend, 0)
    let create : TableAction × Int := (.create ⟨"Brian Otieno", "", "*123*2#", ""⟩, 0)
    let suspended := loaded.act plainMongo toString suspend
    let created := loaded.act plainMongo toString create
    loaded.Succeeds plainMongo toString suspend ∧ ¬suspended.UpToDate plainMongo ∧
      suspended.influencers.map (fun inf => Js.property (some inf) "status") = [some (.str "suspend")] ∧
      suspended.documents.docs.map (fun d => d.get? "status") = [some (.str "suspended")] ∧
      loaded.Succeeds plainMongo toString create ∧ ¬created.UpToDate plainMongo ∧
      created.influencers.getLast?.map Value.typeName = some "list" := by
  decide +kernel

end UssdCredit
