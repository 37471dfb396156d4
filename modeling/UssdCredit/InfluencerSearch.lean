import UssdCredit.InfluencerUpdates
import UssdCredit.Library.Filters
import UssdCredit.SubscriberDashboard

/-! The search of the administrators' influencer page over the records in memory: a record that
matches by neither name nor phone is asked for its shortcode, and the first record of the module
has none. -/

namespace UssdCredit

open Library Program

/-- `v.includes(term)`, of a text or an array; `none` where it throws. -/
def Js.includes (v : Js) (term : String) : Option Bool :=
  match v with
  | some (.str text) => some (decide (term.toList <:+: text.toList))
  | some (.list items) => some (decide (Value.str term ∈ items))
  | _ => none

/-- `influencerAPI.getAll`. -/
def InfluencerApi.getAll : ApiRequest := ⟨"/api/influencers", .listSimpleInfluencers, none⟩

/-! The page. -/

namespace AdminInfluencerManagement

variable (engine : JsEngine) (toLowerCase : String → String) (searchTerm filterStatus : String)

/-- `influencers` after the fetch: `response.data || []`. -/
def fetchInfluencers (response : Except Response Value) : Js :=
  match response with
  | .ok data => Js.or (some data) (some (.list []))
  | .error _ => some (.list [])

/-- `none` where the expression throws. -/
def matchesSearch (influencer : Js) : Option Bool :=
  match influencer.property "name" with
  | some (.str name) =>
      if (toLowerCase searchTerm).toList <:+: (toLowerCase name).toList then some true
      else
        match (influencer.property "phone").includes searchTerm with
        | some false => (influencer.property "ussd_shortcode").includes searchTerm
        | included => included
  | _ => none

def matchesFilter (influencer : Js) : Bool :=
  filterStatus = "all" || engine.strictEq (influencer.property "status") (some (.str filterStatus))

def filteredInfluencers (influencers : Js) : Option (List Value) :=
  match influencers with
  | some (.list items) =>
      Filters.filterPartial (fun influencer =>
        (matchesSearch toLowerCase searchTerm (some influencer)).map fun found =>
          found && matchesFilter engine filterStatus (some influencer)) items
  | _ => none

/-- The list of the page after it has fetched it. -/
def loaded (rt : Runtime) (oidText : Nat → String) (server : Server) (storage : LocalStorage)
    (occasion : Occasion) : Js :=
  let request := InfluencerApi.getAll
  fetchInfluencers (engine.resolved request (serve rt oidText server (request.sent storage occasion)).1)

/-! What the search is to find. -/

/-- A stored record as it is sent and read. -/
def delivered (record : Influencer) : Value := (record.toJson.mapScalar jsonScalar).mapScalar engine.number

def nameMatches (influencer : Js) : Bool :=
  match influencer.property "name" with
  | some (.str name) => (toLowerCase searchTerm).toList <:+: (toLowerCase name).toList
  | _ => false

/-- What has no text and no items contains nothing. -/
def fieldMatches (field : String) (influencer : Js) : Bool :=
  ((influencer.property field).includes searchTerm).getD false

/-- The record is one the search is for. -/
def wanted (influencer : Value) : Bool :=
  (nameMatches toLowerCase searchTerm (some influencer) ||
      fieldMatches searchTerm "phone" (some influencer) ||
      fieldMatches searchTerm "ussd_shortcode" (some influencer)) &&
    matchesFilter engine filterStatus (some influencer)

/-- The shortcode is a text, or an array. -/
def hasShortcode (influencer : Js) : Bool :=
  match influencer.property "ussd_shortcode" with
  | some (.str _) | some (.list _) => true
  | _ => false

section Matches

variable {engine : JsEngine} {toLowerCase : String → String} {searchTerm filterStatus : String}
  {influencer : Js}

theorem includes_isSome : ((influencer.property "ussd_shortcode").includes searchTerm).isSome =
    hasShortcode influencer := by
  unfold Js.includes hasShortcode
  split <;> rfl

/-- Where the test does not throw, it says what is wanted. -/
theorem matchesSearch_right {found : Bool}
    (tested : matchesSearch toLowerCase searchTerm influencer = some found) :
    found = (nameMatches toLowerCase searchTerm influencer ||
      fieldMatches searchTerm "phone" influencer || fieldMatches searchTerm "ussd_shortcode" influencer) := by
  unfold matchesSearch at tested
  unfold nameMatches fieldMatches
  split at tested
  · split_ifs at tested with here
    · rw [decide_eq_true here, Bool.true_or, Bool.true_or]
      exact (Option.some.inj tested).symm
    · rw [decide_eq_false here, Bool.false_or]
      split at tested
      · next missed =>
        rw [missed, tested]
        rfl
      · next missed =>
        rw [tested] at missed ⊢
        cases found with
        | true => rfl
        | false => exact absurd rfl missed
  · cases tested

/-- A record with texts for its name and phone passes the test without an exception if and only if
one of them matches or its shortcode can be asked. -/
theorem matchesSearch_isSome_iff {name phone : String}
    (named : influencer.property "name" = some (.str name))
    (phoned : influencer.property "phone" = some (.str phone)) :
    (matchesSearch toLowerCase searchTerm influencer).isSome = true ↔
      nameMatches toLowerCase searchTerm influencer = true ∨
        fieldMatches searchTerm "phone" influencer = true ∨ hasShortcode influencer = true := by
  rw [← @includes_isSome searchTerm influencer]
  unfold matchesSearch nameMatches fieldMatches
  rw [named, phoned]
  dsimp only [Js.includes]
  split_ifs with here
  · simp [here]
  · by_cases there : searchTerm.toList <:+: phone.toList
    · simp [here, there]
    · simp [here, there]

end Matches

/-! The list. -/

section List

variable {engine : JsEngine} {rt : Runtime} {oidText : Nat → String} {server : Server}
  {storage : LocalStorage} {occasion : Occasion}

theorem served_influencers :
    (serve rt oidText server (InfluencerApi.getAll.sent storage occasion)).1 =
      jsonify 200 (.list (server.influencersDb.map Influencer.toJson)) := rfl

theorem standard_influencers (db : List Influencer) :
    (Value.list (db.map Influencer.toJson)).standard = true ↔ ∀ record ∈ db, record.toJson.standard = true := by
  rw [Value.standard, Value.standardList_iff, List.forall_mem_map]

theorem loaded_standard (standard : ∀ record ∈ server.influencersDb, record.toJson.standard = true) :
    loaded engine rt oidText server storage occasion =
      some (.list (server.influencersDb.map (delivered engine))) := by
  unfold loaded
  dsimp only
  have parses := (Value.standard_jsonScalar _).trans ((standard_influencers server.influencersDb).mpr standard)
  rw [served_influencers, SubscriberDashboard.resolved_jsonify, JsEngine.received, if_pos parses]
  simp only [Value.mapScalar, Value.mapScalarList_eq, List.map_map]
  rfl

/-- A text is no list. -/
theorem loaded_nonstandard (speaks : ∀ body, engine.raw body ≠ "")
    (broken : ¬∀ record ∈ server.influencersDb, record.toJson.standard = true) :
    ∃ text, loaded engine rt oidText server storage occasion = some (.str text) := by
  unfold loaded
  dsimp only
  have stays : ¬((Value.list (server.influencersDb.map Influencer.toJson)).mapScalar jsonScalar).standard = true := by
    rw [Value.standard_jsonScalar, standard_influencers]
    exact broken
  rw [served_influencers, SubscriberDashboard.resolved_jsonify, JsEngine.received, if_neg stays]
  exact ⟨_, if_pos (decide_eq_true (speaks _))⟩

end List

end AdminInfluencerManagement

/-! Runs: names and phones stay texts. -/

/-- A request whose name and phone, if it has them, are texts. -/
structure TextCall where
  call : InfluencerCall
  texts : ∀ req, (call = .create req ∨ ∃ influencerId, call = .update req influencerId) →
    ∀ key, key = "name" ∨ key = "phone" → ∀ value, req.field key = some value → ∃ text, value = .str text

def TextCall.step (s : Server) (texts : TextCall) : Server := texts.call.step s

structure Influencer.HasTexts (inf : Influencer) : Prop where
  name : ∃ name, inf.name = .str name
  phone : ∃ phone, inf.phone = .str phone

def AllTexts (s : Server) : Prop := ∀ inf ∈ s.influencersDb, inf.HasTexts

section Texts

variable {req : Http} {s : Server} {α : Type}

theorem allTexts_append {new : Influencer} (all : AllTexts s) (texts : new.HasTexts) :
    AllTexts (s.setInfluencers (s.influencersDb ++ [new])) :=
  List.forall_mem_append.mpr ⟨all, List.forall_mem_singleton.mpr texts⟩

theorem post_assign_texts {payload : Value} {key : String} {influencerId : Int}
    {write : Value → Influencer → Influencer} {f : Unit → Prog α} {Q : Except PyExn α → Server → Prop}
    (keeps : ∀ value, payload.pyIndex key = .ok value → ∀ inf : Influencer, inf.HasTexts → (write value inf).HasTexts)
    (all : AllTexts s) (failed : ∀ e, Q (.error e) s)
    (rest : ∀ s', AllTexts s' → Post exec (f ()) s' Q) :
    Post exec (AdminInfluencers.assign payload key influencerId write >>= f) s Q := by
  refine post_assign failed (rest s all) fun value _ given => rest _ fun inf member => ?_
  rcases Records.mem_modify member with old | ⟨old, present, -, rfl⟩
  · exact all inf old
  · exact keeps value given old (all old present)

theorem post_phoneConflict_any {payload : Value} {influencerId : Int} {f : Bool → Prog α}
    {Q : Except PyExn α → Server → Prop} (failed : ∀ e, Q (.error e) s)
    (rest : ∀ conflict, Post exec (f conflict) s Q) :
    Post exec (AdminInfluencers.phoneConflict payload influencerId >>= f) s Q :=
  post_phoneConflict failed (fun _ => rest false) fun _ _ => rest _

theorem post_update_texts (influencerId : Nat)
    (texts : ∀ key, key = "name" ∨ key = "phone" → ∀ value, req.field key = some value →
      ∃ text, value = .str text) (all : AllTexts s) :
    Post exec (AdminInfluencers.adminUpdateInfluencer req influencerId) s fun _ s' => AllTexts s' := by
  unfold AdminInfluencers.adminUpdateInfluencer
  refine post_lift_bind (fun _ _ => all) fun payload parsed => post_readInfluencers ?_
  have given : ∀ key, key = "name" ∨ key = "phone" → ∀ value, payload.pyIndex key = .ok value →
      ∃ text, value = .str text :=
    fun key asked value found => texts key asked value (Http.field_of_pyIndex parsed found)
  have others : ∀ {write : Value → Influencer → Influencer} (key : String),
      (∀ value inf, (write value inf).name = inf.name ∧ (write value inf).phone = inf.phone) →
      ∀ value, payload.pyIndex key = .ok value → ∀ inf : Influencer, inf.HasTexts → (write value inf).HasTexts := by
    intro write key kept value _ inf held
    exact ⟨(kept value inf).1 ▸ held.name, (kept value inf).2 ▸ held.phone⟩
  split
  · exact post_pure all
  · next influencer found =>
    refine post_assign_texts (fun value held inf texts => ⟨given "name" (.inl rfl) value held, texts.phone⟩)
      all (fun _ => all) fun s₁ all => ?_
    refine post_phoneConflict_any (fun _ => all) fun conflict => ?_
    split_ifs
    · exact post_pure all
    · refine post_assign_texts
        (fun value held inf texts => ⟨texts.name, given "phone" (.inr rfl) value held⟩)
        all (fun _ => all) fun s₂ all => ?_
      refine post_assign_texts (others "received" fun _ _ => ⟨rfl, rfl⟩) all (fun _ => all) fun s₃ all => ?_
      refine post_assign_texts (others "imageUrl" fun _ _ => ⟨rfl, rfl⟩) all (fun _ => all) fun s₄ all => ?_
      refine post_assign_texts (others "ussd_shortcode" fun _ _ => ⟨rfl, rfl⟩) all (fun _ => all)
        fun s₅ all => ?_
      exact post_readInfluencers (post_pure all)

theorem hasTexts_addSamples {db : List Influencer} (all : ∀ inf ∈ db, inf.HasTexts)
    (samples : List InfluencersSimple.Sample) :
    ∀ inf ∈ samples.foldl InfluencersSimple.addSample db, inf.HasTexts := by
  refine run_invariant (fun db : List Influencer => ∀ inf ∈ db, inf.HasTexts)
    (fun db sample all => ?_) all samples
  unfold InfluencersSimple.addSample
  split_ifs
  · exact all
  · exact List.forall_mem_append.mpr ⟨all, List.forall_mem_singleton.mpr ⟨⟨_, rfl⟩, _, rfl⟩⟩

theorem allTexts_step (texts : TextCall) (all : AllTexts s) : AllTexts (texts.step s) := by
  obtain ⟨call, texts⟩ := texts
  cases call with
  | create req =>
    have given := texts req (.inl rfl)
    change AllTexts (InfluencerCall.step s (.create req))
    rcases step_create s req with same | ⟨new, -, moved⟩
    · rwa [same]
    · rw [moved]
      exact allTexts_append all
        ⟨given "name" (.inl rfl) new.name (Http.field_of_pyIndex new.parsed new.name_given),
          given "phone" (.inr rfl) new.phone (Http.field_of_pyIndex new.parsed new.phone_given)⟩
  | update req influencerId =>
    change AllTexts ((AdminInfluencers.adminUpdateInfluencer req influencerId).serve s).2
    exact post_update_texts influencerId (texts req (.inr ⟨influencerId, rfl⟩)) all
  | delete influencerId =>
    change AllTexts (InfluencerCall.step s (.delete influencerId))
    rcases step_delete s influencerId with same | moved
    · rwa [same]
    · rw [moved]
      exact fun inf member => all inf ((Records.remove_sublist influencerId s.influencersDb).subset member)
  | populate =>
    change AllTexts (InfluencerCall.step s .populate)
    rw [step_populate]
    exact hasTexts_addSamples all _

theorem allTexts_run (s : Server) (calls : List TextCall) :
    AllTexts (calls.foldl TextCall.step (s.setInfluencers initialInfluencers)) := by
  refine run_invariant AllTexts (fun s texts all => allTexts_step texts all) ?_ calls
  exact List.forall_mem_singleton.mpr ⟨⟨_, rfl⟩, _, rfl⟩

end Texts

namespace AdminInfluencerManagement

theorem property_delivered {engine : JsEngine} {record : Influencer} {field text : String}
    (stored : Js.property (some record.toJson) field = some (.str text)) :
    Js.property (some (delivered engine record)) field = some (.str text) := by
  change (Value.mapScalarEntries engine.number (Value.mapScalarEntries jsonScalar _)).lookup field = _
  rw [Value.lookup_mapScalarEntries, Value.lookup_mapScalarEntries]
  rw [show List.lookup field _ = _ from stored]
  rfl

/-- In every state reached by requests whose names and phones are texts, the search is total and
exact if and only if the list is JSON a browser parses, and every record that neither the name nor
the phone matches has a shortcode that is a text or an array. -/
theorem influencer_search_exact_iff (engine : JsEngine) (speaks : ∀ body, engine.raw body ≠ "")
    (toLowerCase : String → String) (rt : Runtime) (oidText : Nat → String) (s : Server)
    (calls : List TextCall) (storage : LocalStorage) (occasion : Occasion)
    (searchTerm filterStatus : String) :
    let reached := calls.foldl TextCall.step (s.setInfluencers initialInfluencers)
    let records := reached.influencersDb.map (delivered engine)
    filteredInfluencers engine toLowerCase searchTerm filterStatus
        (loaded engine rt oidText reached storage occasion) =
      some (records.filter (wanted engine toLowerCase searchTerm filterStatus)) ↔
    (∀ record ∈ reached.influencersDb, record.toJson.standard = true) ∧
      ∀ record ∈ records, nameMatches toLowerCase searchTerm (some record) = true ∨
        fieldMatches searchTerm "phone" (some record) = true ∨ hasShortcode (some record) = true := by
  intro reached records
  have texts := allTexts_run s calls
  by_cases standard : ∀ record ∈ reached.influencersDb, record.toJson.standard = true
  · rw [loaded_standard standard]
    have exact_iff := @Filters.filterPartial_exact_iff _
      (fun influencer => (matchesSearch toLowerCase searchTerm (some influencer)).map fun found =>
        found && matchesFilter engine filterStatus (some influencer))
      (wanted engine toLowerCase searchTerm filterStatus) records ?_
    · refine exact_iff.trans ?_
      rw [and_iff_right standard]
      refine forall₂_congr fun influencer member => ?_
      obtain ⟨record, stored, rfl⟩ := List.mem_map.mp member
      obtain ⟨⟨name, named⟩, phone, phoned⟩ := texts record stored
      rw [Option.isSome_map]
      have name_delivered := @property_delivered engine record "name" name (congrArg some named)
      have phone_delivered := @property_delivered engine record "phone" phone (congrArg some phoned)
      exact matchesSearch_isSome_iff name_delivered phone_delivered
    · intro influencer _ keep tested
      obtain ⟨found, searched, rfl⟩ := Option.map_eq_some_iff.mp tested
      rw [wanted, matchesSearch_right searched]
  · obtain ⟨text, shown⟩ := @loaded_nonstandard engine rt oidText reached storage occasion speaks standard
    rw [shown]
    refine iff_of_false (fun filtered => ?_) fun both => standard both.1
    cases filtered

/-- The engine of the tests, with a text for the bodies that do not parse. -/
def verboseEngine : JsEngine := { SubscriberDashboard.plainJsEngine with raw := fun _ => "NaN" }

def populateCall : TextCall where
  call := .populate
  texts := by
    rintro req (impossible | ⟨influencerId, impossible⟩) <;> cases impossible

theorem influencer_search_exact_iff_demo :
    let reached := [populateCall].foldl TextCall.step (Server.initial.setInfluencers initialInfluencers)
    let records := reached.influencersDb.map (delivered verboseEngine)
    filteredInfluencers verboseEngine String.toLower "+2547" "all"
        (loaded verboseEngine plainRuntime toString reached [] ⟨0, 0, 0⟩) =
      some (records.filter (wanted verboseEngine String.toLower "+2547" "all")) ↔
    (∀ record ∈ reached.influencersDb, record.toJson.standard = true) ∧
      ∀ record ∈ records, nameMatches String.toLower "+2547" (some record) = true ∨
        fieldMatches "+2547" "phone" (some record) = true ∨ hasShortcode (some record) = true :=
  influencer_search_exact_iff verboseEngine (fun _ => show "NaN" ≠ "" by decide) String.toLower plainRuntime toString
    Server.initial [populateCall] [] ⟨0, 0, 0⟩ "+2547" "all"

/-- With the demo records, the search for one of them throws at the first record of the module. -/
theorem search_throws_on_first_record :
    let reached := populateCall.step Server.initial
    let influencers := loaded verboseEngine plainRuntime toString reached [] ⟨0, 0, 0⟩
    filteredInfluencers verboseEngine String.toLower "David" "all" influencers = none ∧
      ((reached.influencersDb.map (delivered verboseEngine)).filter
        (wanted verboseEngine String.toLower "David" "all")).map
          (fun record => Js.property (some record) "name") = [some (.str "David Ochieng")] := by
  decide +kernel

end AdminInfluencerManagement

end UssdCredit
