import UssdCredit.AdminChanges
import UssdCredit.Library.Records
import UssdCredit.Library.Runs

/-! The user types of the stored users, and the statistics that count them. -/

namespace UssdCredit

open Library Program

def ValidType (v : Value) : Prop := ∃ t ∈ Admin.validTypes, v = .str t

def TypesValid (c : Collection) : Prop := ∀ d ∈ c.docs, ∃ v, d.get? "user_type" = some v ∧ ValidType v

/-! The statistics. -/

/-- `stats['users']` over a collection. -/
def userStats (c : Collection) (midnight : Int) : Value := .dict [
  ("total", .int c.docs.length),
  ("active", .int (c.docs.countP (·.satisfies [.eq "is_active" (.bool true)]))),
  ("suspended", .int (c.docs.countP (·.satisfies [.eq "is_suspended" (.bool true)]))),
  ("by_type", .dict (Admin.validTypes.map fun t =>
    (t, .int (c.docs.countP (·.satisfies [.eq "user_type" (.str t)]))))),
  ("recent_today", .int (c.docs.countP (·.satisfies [.since "created_at" midnight])))]

section Statistics

variable {rt : Runtime} {req : Http} {s : Server}

theorem run_countUsers {filter : Filter} (encodes : filter.bsonError = none) :
    (Admin.countUsers filter).run exec s =
      (.ok (.int (s.users.docs.countP (·.satisfies filter))), s) := by
  have counted : exec (.countDocuments .users filter) s =
      (.ok (s.users.docs.countP (·.satisfies filter)), s) := by
    change (s.users.countDocuments filter, s) = _
    rw [Collection.countDocuments, encodes]
  unfold Admin.countUsers
  rw [perform, run_perform_bind counted]
  rfl

theorem run_countTypes (types : List String) : (Admin.countTypes types).run exec s =
    (.ok (types.map fun t =>
      (t, .int (s.users.docs.countP (·.satisfies [.eq "user_type" (.str t)])))), s) := by
  induction types with
  | nil => rfl
  | cons t rest ih =>
    unfold Admin.countTypes
    rw [run_bind_ok (run_countUsers rfl), run_bind_ok ih]
    rfl

/-- Nothing in the statistics can fail. -/
theorem run_statistics (req : Http) (s : Server) : (Admin.statistics req).run exec s =
    (.ok (jsonify 200 (.dict [
      ("message", .str "Statistics retrieved successfully"),
      ("stats", .dict [
        ("users", userStats s.users (req.now - req.now % 86400000000)),
        ("content", .dict [
          ("influencers", .int (s.collection .influencers).docs.length),
          ("subscribers", .int (s.collection .subscribers).docs.length)]),
        ("system", .dict [
          ("database", .str "MongoDB"),
          ("timestamp", .str (isoformat req.now))])])])), s) := by
  have all : (Admin.countUsers []).run exec s = (.ok (.int s.users.docs.length), s) := by
    rw [run_countUsers rfl]
    exact congrArg (fun n : Nat => (Except.ok (Value.int n), s))
      (List.countP_eq_length.mpr fun _ _ => rfl)
  unfold Admin.statistics
  rw [run_bind_ok all, run_bind_ok (run_countUsers rfl), run_bind_ok (run_countUsers rfl),
    run_bind_ok (run_countTypes _), run_bind_ok (run_countUsers rfl), run_countAll, run_countAll]
  rfl

/-- What a JSON answer holds at a path of keys. -/
def Value.at (v : Value) : List String → Option Value
  | [] => some v
  | key :: rest =>
      match v with
      | .dict entries => (entries.lookup key).bind fun item => item.at rest
      | _ => none

/-- The counts of an answer of the statistics add up to its total. -/
def AddsUp (response : Response) : Prop := ∃ (total : Int) (counts : List (String × Int)),
  response.body.at ["stats", "users", "total"] = some (.int total) ∧
  response.body.at ["stats", "users", "by_type"] = some (.dict (counts.map fun c => (c.1, .int c.2))) ∧
  counts.map Prod.fst = Admin.validTypes ∧ (counts.map Prod.snd).sum = total

/-- A valid type is counted under its own name only. -/
theorem satisfies_type {d : Document} {v : Value} (typed : d.get? "user_type" = some v)
    (valid : ValidType v) (t : String) :
    d.satisfies [.eq "user_type" (.str t)] = decide (v = .str t) := by
  obtain ⟨own, -, rfl⟩ := valid
  simp only [Document.satisfies, List.all_cons, List.all_nil, Bool.and_true, Condition.holds, typed,
    Value.matchesField_str_str]
  simp [eq_comm]

theorem counts_add_up {c : Collection} (typed : TypesValid c) :
    (Admin.validTypes.map fun t =>
      (c.docs.countP (·.satisfies [.eq "user_type" (.str t)]) : Int)).sum = c.docs.length := by
  have labelled : ∀ d ∈ c.docs, d.get "user_type" .null ∈ Admin.validTypes.map Value.str := by
    intro d member
    obtain ⟨v, held, t, listed, rfl⟩ := typed d member
    rw [Document.get, held]
    exact List.mem_map_of_mem listed
  have distinct : (Admin.validTypes.map Value.str).Nodup := by decide
  have total := Records.sum_countP_labels distinct (fun d : Document => d.get "user_type" .null)
    c.docs labelled
  rw [List.map_map] at total
  rw [← total]
  refine congrArg List.sum (List.map_congr_left fun t _ => congrArg Int.ofNat ?_)
  refine List.countP_congr fun d member => ?_
  obtain ⟨v, held, valid⟩ := typed d member
  rw [satisfies_type held valid, Document.get, held]
  simp

/-- With valid types every answer of the statistics adds up. -/
theorem addsUp_getAdminStats (typed : TypesValid s.users)
    (answered : (answer rt s ⟨.getAdminStats, req⟩).status = 200) :
    AddsUp (answer rt s ⟨.getAdminStats, req⟩) := by
  suffices all : Post exec (handler rt ⟨.getAdminStats, req⟩) s fun outcome _ =>
      (Outcome.answer outcome).status = 200 → AddsUp (Outcome.answer outcome) from all answered
  have low : ∀ outcome : Outcome, IsRefusal outcome → (Outcome.answer outcome).status = 200 →
      AddsUp (Outcome.answer outcome) := by
    intro outcome refused ok
    have high := refused.answer_status
    omega
  refine Auth.post_adminRequired low fun _ _ _ _ => ?_
  unfold Admin.getAdminStats
  refine Admin.post_ifMongo (fun e => low _ (isRefusal_error e))
    (low _ (isRefusal_message (by decide) _)) ?_
  unfold Post
  rw [run_handle, run_statistics]
  intro _
  refine ⟨s.users.docs.length, Admin.validTypes.map fun t =>
    (t, (s.users.docs.countP (·.satisfies [.eq "user_type" (.str t)]) : Int)), ?_, ?_, ?_, ?_⟩
  · rfl
  · rfl
  · rfl
  · rw [List.map_map]
    exact counts_add_up typed

end Statistics

/-! Which requests keep the types valid. -/

/-- The document of a contact. -/
def Users.contact (entries : Fields) : Fields := [
  ("phone", (entries.lookup "phone").getD .null),
  ("role", (entries.lookup "role").getD (.str "subscriber")),
  ("pin", (entries.lookup "pin").getD .null),
  ("balance", (entries.lookup "balance").getD .null)]

/-- If the request goes through, it is no creation of a contact, and a user type that it stores
from its payload is one of the four. -/
def KeepsTypes (rt : Runtime) (s : Server) (request : Request) : Prop :=
  match request.endpoint with
  | .register => ∀ r : Auth.Registration rt request.http s.users,
      s.users.Inserts request.http.oid r.fields → ValidType r.userType
  | .createUser => ∀ entries, request.http.getJson = .ok (.dict entries) →
      ¬s.users.Inserts request.http.oid (Users.contact entries)
  | .updateUser _ => ∀ (a : AdminChange rt request s.users) (v : Value),
      a.change.lookup "user_type" = some v → ValidType v
  | _ => True

section Steps

variable {rt : Runtime} {s : Server} {request : Request} {c c' : Collection}

theorem typesValid_append (typed : TypesValid c) {new : Document} (appended : c'.docs = c.docs ++ [new]) :
    TypesValid c' ↔ ∃ v, new.get? "user_type" = some v ∧ ValidType v := by
  unfold TypesValid
  rw [appended]
  constructor
  · exact fun all => all new (List.mem_append_right _ (List.mem_singleton_self _))
  · intro valid d member
    rcases List.mem_append.mp member with old | last
    · exact typed d old
    · rw [List.mem_singleton.mp last]
      exact valid

theorem typesValid_edit (typed : TypesValid c) {oid : Nat} {update : Fields}
    (rewritten : c'.docs = c.docs.map (Document.edit oid update))
    (untouched : "user_type" ∉ update.map Prod.fst) : TypesValid c' := by
  intro d member
  rw [rewritten] at member
  obtain ⟨old, present, rfl⟩ := List.mem_map.mp member
  rw [Document.edit_get? untouched]
  exact typed old present

theorem typesValid_change_iff (typed : TypesValid s.users) (a : AdminChange rt request s.users) :
    TypesValid (step rt s request).users ↔
      ∀ v, a.change.lookup "user_type" = some v → ValidType v := by
  have docs := adminChange_docs a
  have present := (Collection.first?_mem a.found).1
  have edited := a.get?_edit (show "user_type" ≠ "updated_at" by decide)
  unfold TypesValid
  rw [docs]
  constructor
  · intro all v asked
    obtain ⟨w, held, valid⟩ := all _ (List.mem_map_of_mem present)
    rw [edited, asked, Option.some_or] at held
    rw [Option.some.inj held]
    exact valid
  · intro valid d member
    obtain ⟨old, stored, rfl⟩ := List.mem_map.mp member
    by_cases here : old.oid = a.target.oid
    · obtain rfl := Collection.eq_of_oid stored present here
      rw [edited]
      cases asked : a.change.lookup "user_type" with
      | none => exact typed a.target present
      | some v => exact ⟨v, rfl, valid v asked⟩
    · rw [Document.edit_other _ here]
      exact typed old stored

/-- A change other than an update stores no type, or a valid one. -/
theorem change_type_valid {change : Fields} (asked : request.change = some change)
    (other : ∀ userId, request.endpoint ≠ .updateUser userId) {v : Value}
    (stored : change.lookup "user_type" = some v) : ValidType v := by
  unfold Request.change at asked
  split at asked
  · next userId named => exact absurd named (other userId)
  · split at asked
    · cases asked
    · split at asked
      · split_ifs at asked with valid
        rw [← Option.some.inj asked, Dict.lookup_cons, if_pos rfl] at stored
        exact ⟨_, valid, (Option.some.inj stored).symm⟩
      · cases asked
  · rw [← Option.some.inj asked] at stored
    simp [Dict.lookup_cons] at stored
  · rw [← Option.some.inj asked] at stored
    simp [Dict.lookup_cons] at stored
  · cases asked

/-- The requests of an administrator. -/
theorem typesValid_target_iff (typed : TypesValid s.users) (target : request.endpoint.target.isSome) :
    TypesValid (step rt s request).users ↔ ∀ (a : AdminChange rt request s.users) (v : Value),
      a.change.lookup "user_type" = some v → ValidType v := by
  by_cases goes : Nonempty (AdminChange rt request s.users)
  · obtain ⟨a⟩ := goes
    rw [typesValid_change_iff typed a]
    exact ⟨fun valid b => (a.unique b).2 ▸ valid, fun valid => valid a⟩
  · rw [(unchanged_or_adminChange target).resolve_right goes]
    exact ⟨fun _ a => absurd ⟨a⟩ goes, fun _ => typed⟩

theorem userType_unique {req : Http} {users : Collection} (r r' : Auth.Registration rt req users) :
    r.userType = r'.userType := by
  have data : r.data = r'.data := Except.ok.inj (r.parsed.symm.trans r'.parsed)
  have given := r.userType_given
  rw [data] at given
  exact Except.ok.inj (given.symm.trans r'.userType_given)

theorem typesValid_register_iff (typed : TypesValid s.users) (req : Http) :
    TypesValid (step rt s ⟨.register, req⟩).users ↔ ∀ r : Auth.Registration rt req s.users,
      s.users.Inserts req.oid r.fields → ValidType r.userType := by
  by_cases goes : ∃ r : Auth.Registration rt req s.users, s.users.Inserts req.oid r.fields
  · obtain ⟨r, inserts⟩ := goes
    obtain ⟨c, inserted⟩ := Collection.inserts_iff.mp inserts
    have stepped : (step rt s ⟨.register, req⟩).users = c :=
      (congrArg (fun result => result.2.users) (Auth.run_register r inserted)).trans
        (users_setCollection s c)
    rw [stepped, typesValid_append typed (Collection.insertOne_ok inserted).1]
    constructor
    · rintro ⟨v, held, valid⟩ r' -
      have stored : some r.userType = some v := held
      rw [userType_unique r' r, Option.some.inj stored]
      exact valid
    · exact fun valid => ⟨r.userType, rfl, valid r inserts⟩
  · have same : (step rt s ⟨.register, req⟩).users = s.users := by
      rcases Auth.post_register rt req s with ⟨same, -⟩ | ⟨r, c, inserted, -, -⟩
      · exact congrArg Server.users same
      · exact absurd ⟨r, Collection.inserts_iff.mpr ⟨c, inserted⟩⟩ goes
    rw [same]
    exact ⟨fun _ r inserts => absurd ⟨r, inserts⟩ goes, fun _ => typed⟩

theorem run_createUser {req : Http} {entries : Fields} (parsed : req.getJson = .ok (.dict entries))
    {c : Collection} (inserted : s.users.insertOne req.oid (Users.contact entries) = .ok c) :
    ((Users.createUser req).run exec s).2 = s.setCollection .users c := by
  unfold Users.createUser
  rw [run_lift_bind exec parsed, run_lift_bind exec (Value.pyGet_dict ..),
    run_lift_bind exec (Value.pyGet_dict ..), run_lift_bind exec (Value.pyGet_dict ..),
    run_lift_bind exec (Value.pyGet_dict ..)]
  exact congrArg Prod.snd (run_insertOne inserted _)

theorem post_contact (req : Http) (s : Server) : Post exec (Users.createUser req) s fun _ s' =>
    s' = s ∨ ∃ entries c, req.getJson = .ok (.dict entries) ∧
      s.users.insertOne req.oid (Users.contact entries) = .ok c := by
  unfold Users.createUser
  refine post_lift_bind (fun _ _ => .inl rfl) fun payload parsed => ?_
  refine post_lift_bind (fun _ _ => .inl rfl) fun phone phone_given => ?_
  refine post_lift_bind (fun _ _ => .inl rfl) fun role role_given => ?_
  refine post_lift_bind (fun _ _ => .inl rfl) fun pin pin_given => ?_
  refine post_lift_bind (fun _ _ => .inl rfl) fun balance balance_given => ?_
  obtain ⟨entries, rfl, rfl⟩ := Value.pyGet_ok phone_given
  rw [Value.pyGet_dict] at role_given pin_given balance_given
  obtain rfl := Except.ok.inj role_given
  obtain rfl := Except.ok.inj pin_given
  obtain rfl := Except.ok.inj balance_given
  refine post_insertOne (fun _ => .inl rfl) fun c inserted => ?_
  exact post_lift_bind (fun _ _ => .inr ⟨entries, c, parsed, inserted⟩) fun _ _ =>
    post_pure (.inr ⟨entries, c, parsed, inserted⟩)

theorem typesValid_createUser_iff (typed : TypesValid s.users) (req : Http) :
    TypesValid (step rt s ⟨.createUser, req⟩).users ↔
      ∀ entries, req.getJson = .ok (.dict entries) → ¬s.users.Inserts req.oid (Users.contact entries) := by
  by_cases goes : ∃ entries, req.getJson = .ok (.dict entries) ∧
      s.users.Inserts req.oid (Users.contact entries)
  · obtain ⟨entries, parsed, inserts⟩ := goes
    obtain ⟨c, inserted⟩ := Collection.inserts_iff.mp inserts
    have stepped : (step rt s ⟨.createUser, req⟩).users = c :=
      (congrArg Server.users (run_createUser parsed inserted)).trans (users_setCollection s c)
    rw [stepped, typesValid_append typed (Collection.insertOne_ok inserted).1]
    refine ⟨fun untyped => ?_, fun refused => absurd inserts (refused entries parsed)⟩
    obtain ⟨v, held, -⟩ := untyped
    cases held
  · have same : (step rt s ⟨.createUser, req⟩).users = s.users := by
      rcases post_contact req s with same | ⟨entries, c, parsed, inserted⟩
      · exact congrArg Server.users same
      · exact absurd ⟨entries, parsed, Collection.inserts_iff.mpr ⟨c, inserted⟩⟩ goes
    rw [same]
    exact ⟨fun _ entries parsed inserts => goes ⟨entries, parsed, inserts⟩, fun _ => typed⟩

/-- No other request stores a type but the Google login, which stores `user`. -/
theorem typesValid_step (typed : TypesValid s.users) (register : request.endpoint ≠ .register)
    (createUser : request.endpoint ≠ .createUser) (target : request.endpoint.target = none) :
    TypesValid (step rt s request).users := by
  have effect := step_effect rt s request
  generalize (step rt s request).users = c at effect
  cases effect with
  | unchanged => exact typed
  | account new creates inserted =>
    rw [typesValid_append typed (Collection.insertOne_ok inserted).1]
    refine ⟨new.userType, new.type_given, "user", by decide, ?_⟩
    exact new.google_type (creates.resolve_left register)
  | contact creates keys inserted => exact absurd creates createUser
  | edited edit rewritten =>
    refine typesValid_edit typed rewritten fun member => ?_
    obtain ⟨entry, given, named⟩ := List.mem_map.mp member
    have set := edit.typed entry given named
    unfold Request.setsUserType at set
    split at set
    · next named => simp [named, Endpoint.target] at target
    · next named => simp [named, Endpoint.target] at target
    · cases set

theorem typesValid_step_iff (typed : TypesValid s.users) (request : Request) :
    TypesValid (step rt s request).users ↔ KeepsTypes rt s request := by
  obtain ⟨endpoint, req⟩ := request
  cases endpoint with
  | register => exact typesValid_register_iff typed req
  | createUser => exact typesValid_createUser_iff typed req
  | updateUser userId => exact typesValid_target_iff typed rfl
  | deleteUser userId | activateUser userId | upgradeUser userId =>
    rw [typesValid_target_iff typed rfl]
    exact ⟨fun _ => trivial, fun _ a v stored => change_type_valid a.asked nofun stored⟩
  | _ => exact ⟨fun _ => trivial, fun _ => typesValid_step typed nofun nofun rfl⟩

end Steps

/-- The types are valid, and whoever gets the statistics gets counts that add up. -/
def TypesAddUp (rt : Runtime) (s : Server) : Prop :=
  TypesValid s.users ∧ ∀ req, (answer rt s ⟨.getAdminStats, req⟩).status = 200 →
    AddsUp (answer rt s ⟨.getAdminStats, req⟩)

/-- From valid types, the types are valid and the statistics add up in every state of a run
exactly when no request of the run creates a contact, and every registration and every update by
an administrator that goes through stores one of the four types if it names one. -/
theorem user_types_valid_iff (rt : Runtime) {s : Server} (typed : TypesValid s.users)
    (requests : List Request) :
    Throughout (step rt) (TypesAddUp rt) s requests ↔ AllSteps (step rt) (KeepsTypes rt) s requests :=
  @throughout_iff_allSteps _ _ (step rt) (KeepsTypes rt) (TypesAddUp rt) (fun s => TypesValid s.users)
    (fun _ typed => ⟨typed, fun _ answered => addsUp_getAdminStats typed answered⟩)
    (fun _ request typed keeps => (typesValid_step_iff typed request).mpr keeps)
    (fun _ request typed breaks good => breaks ((typesValid_step_iff typed request).mp good.1))
    s typed requests

/-- A registration with a type of its own. -/
def vipRegistration : Request := .registration "sarah@example.com" "s3cret" "vip" 0

theorem user_types_valid_iff_vip :
    Throughout (step plainRuntime) (TypesAddUp plainRuntime) Server.initial [vipRegistration] ↔
      AllSteps (step plainRuntime) (KeepsTypes plainRuntime) Server.initial [vipRegistration] :=
  user_types_valid_iff plainRuntime (fun _ member => absurd member List.not_mem_nil) [vipRegistration]

/-- A registration stores any type it is sent. -/
theorem registration_stores_any_type : ¬Throughout (step plainRuntime) (TypesAddUp plainRuntime)
    Server.initial [vipRegistration] := by
  rintro ⟨-, typed, -⟩
  have stored : (step plainRuntime Server.initial vipRegistration).users.docs.map
      (fun d => d.get? "user_type") = [some (.str "vip")] := by decide +kernel
  have there : some (Value.str "vip") ∈ (step plainRuntime Server.initial vipRegistration).users.docs.map
      (fun d => d.get? "user_type") := by rw [stored]; exact List.mem_singleton_self _
  obtain ⟨d, member, held⟩ := List.mem_map.mp there
  obtain ⟨v, held', t, listed, rfl⟩ := typed d member
  have same : t = "vip" := by simpa using held'.symm.trans held
  subst same
  exact absurd listed (by decide)

end UssdCredit
