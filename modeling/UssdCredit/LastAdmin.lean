import UssdCredit.AdminChanges
import UssdCredit.Identity
import UssdCredit.Library.Runs

/-! The last active administrator: which requests take it away. The self-deletion check
protects it from deletions only. -/

namespace UssdCredit

open Library

/-- The guards let the owner of the document pass as an administrator. -/
def Document.IsActiveAdmin (d : Document) : Prop := Auth.isActive d = true ∧ Auth.isAdmin d = true

def HasAdmin (s : Server) : Prop := ∃ d ∈ s.users.docs, d.IsActiveAdmin

/-- The change stores another user type, or a false `is_active`. -/
def Demotes (change : Fields) : Prop :=
  (∃ userType, change.lookup "user_type" = some userType ∧ userType.pyEq (.str "admin") = false) ∨
  ∃ isActive, change.lookup "is_active" = some isActive ∧ isActive.truthy = false

/-- If the request is a change that goes through and demotes its target, there is another active
administrator. -/
def SparesAnAdmin (rt : Runtime) (s : Server) (request : Request) : Prop :=
  ∀ a : AdminChange rt request s.users, Demotes a.change →
    ∃ d ∈ s.users.docs, d.oid ≠ a.target.oid ∧ d.IsActiveAdmin

variable {rt : Runtime} {s : Server} {request : Request}

theorem edit_isActive (a : AdminChange rt request s.users) :
    Auth.isActive (a.target.edit a.target.oid a.update) =
      ((a.change.lookup "is_active").getD (a.target.get "is_active" (.bool true))).truthy := by
  unfold Auth.isActive Document.get
  rw [a.get?_edit (by decide), Option.getD_or]

theorem edit_isAdmin (a : AdminChange rt request s.users) :
    Auth.isAdmin (a.target.edit a.target.oid a.update) =
      ((a.change.lookup "user_type").getD (a.target.get "user_type" .null)).pyEq (.str "admin") := by
  unfold Auth.isAdmin Document.get
  rw [a.get?_edit (by decide), Option.getD_or]

/-- A target that is demoted is no active administrator afterwards. -/
theorem demoted (a : AdminChange rt request s.users) (demotes : Demotes a.change) :
    ¬(a.target.edit a.target.oid a.update).IsActiveAdmin := by
  rintro ⟨active, admin⟩
  rw [edit_isActive] at active
  rw [edit_isAdmin] at admin
  rcases demotes with ⟨userType, given, other⟩ | ⟨isActive, given, falsy⟩
  · rw [given, Option.getD_some, other] at admin
    cases admin
  · rw [given, Option.getD_some, falsy] at active
    cases active

theorem not_demoted (a : AdminChange rt request s.users) (admin : a.target.IsActiveAdmin)
    (spares : ¬Demotes a.change) : (a.target.edit a.target.oid a.update).IsActiveAdmin := by
  constructor
  · rw [edit_isActive]
    cases given : a.change.lookup "is_active" with
    | none => exact admin.1
    | some isActive =>
      by_contra falsy
      exact spares (.inr ⟨isActive, given, by simpa using falsy⟩)
  · rw [edit_isAdmin]
    cases given : a.change.lookup "user_type" with
    | none => exact admin.2
    | some userType =>
      by_contra other
      exact spares (.inl ⟨userType, given, by simpa using other⟩)

/-- A document an endpoint does not promote or demote. -/
theorem isActiveAdmin_congr {d d' : Document} (active : d'.get? "is_active" = d.get? "is_active")
    (typed : d'.get? "user_type" = d.get? "user_type") : d'.IsActiveAdmin ↔ d.IsActiveAdmin := by
  unfold Document.IsActiveAdmin Auth.isActive Auth.isAdmin Document.get
  rw [active, typed]

/-- The requests that name no user write neither field. -/
theorem updates_of_no_target {endpoint : Endpoint} (target : endpoint.target = none) :
    "is_active" ∉ endpoint.updates ∧ "user_type" ∉ endpoint.updates := by
  cases endpoint <;> first
    | (simp [Endpoint.updates, Auth.googleKeys, Auth.profileFields]; done)
    | cases target

theorem hasAdmin_step_iff (start : HasAdmin s) (request : Request) :
    HasAdmin (step rt s request) ↔ SparesAnAdmin rt s request := by
  obtain ⟨d, member, admin⟩ := start
  cases named : request.endpoint.target with
  | none =>
    obtain ⟨d', member', -, kept⟩ := (step_effect rt s request).keeps_document member
    obtain ⟨active, typed⟩ := updates_of_no_target named
    have same := isActiveAdmin_congr (kept _ active) (kept _ typed)
    refine ⟨fun _ a => ?_, fun _ => ⟨d', member', same.mpr admin⟩⟩
    cases named.symm.trans a.named
  | some userId =>
    by_cases goes : Nonempty (AdminChange rt request s.users)
    · obtain ⟨a⟩ := goes
      have docs := adminChange_docs a
      have present := (Collection.first?_mem a.found).1
      unfold HasAdmin
      rw [docs]
      constructor
      · rintro ⟨d', member', admin'⟩ a' demotes
        obtain ⟨old, stored, rfl⟩ := List.mem_map.mp member'
        obtain ⟨target, change⟩ := a.unique a'
        rw [← target]
        rw [← change] at demotes
        -- An administrator after the change is not its target, which has been demoted.
        by_cases here : old.oid = a.target.oid
        · obtain rfl := Collection.eq_of_oid stored present here
          exact absurd admin' (demoted a demotes)
        · rw [Document.edit_other _ here] at admin'
          exact ⟨old, stored, here, admin'⟩
      · intro spares
        by_cases demotes : Demotes a.change
        · obtain ⟨other, stored, apart, admin'⟩ := spares a demotes
          exact ⟨other, List.mem_map.mpr ⟨other, stored, Document.edit_other _ apart⟩, admin'⟩
        · by_cases here : d.oid = a.target.oid
          · obtain rfl := Collection.eq_of_oid member present here
            exact ⟨_, List.mem_map_of_mem member, not_demoted a admin demotes⟩
          · exact ⟨d, List.mem_map.mpr ⟨d, member, Document.edit_other _ here⟩, admin⟩
    · have same : (step rt s request).users = s.users :=
        (unchanged_or_adminChange (by rw [named]; rfl)).resolve_right goes
      refine ⟨fun _ a => absurd ⟨a⟩ goes, fun _ => ⟨d, ?_, admin⟩⟩
      rw [same]
      exact member

/-- The ids that are there are numbers. -/
def NumericIds (c : Collection) : Prop := ∀ d ∈ c.docs, ∀ v, d.get? "id" = some v → ∃ n : Int, v = .int n

/-- The self-deletion check does its part: a deletion leaves its author an active administrator. -/
theorem sparesAnAdmin_of_check (numeric : NumericIds s.users)
    (checked : ∀ userId, request.endpoint ≠ .updateUser userId ∧ request.endpoint ≠ .upgradeUser userId) :
    SparesAnAdmin rt s request := by
  intro a demotes
  obtain ⟨endpoint, req⟩ := request
  cases endpoint with
  | updateUser userId => exact absurd rfl (checked userId).1
  | upgradeUser userId => exact absurd rfl (checked userId).2
  | activateUser userId =>
    obtain asked : some [("is_active", .bool true), ("is_suspended", .bool false)] = some a.change := a.asked
    rw [← Option.some.inj asked] at demotes
    simp [Demotes, Dict.lookup_cons, Value.truthy] at demotes
  | deleteUser userId =>
    have id : userId = a.userId := Option.some.inj a.named
    obtain ⟨ownId, stored, other⟩ := a.spared (congrArg Endpoint.deleteUser id)
    obtain ⟨member, -⟩ := Auth.resolve_mem a.resolved
    refine ⟨a.currentUser, member, fun same => ?_, a.active, a.admin⟩
    obtain ⟨present, passes⟩ := Collection.first?_mem a.found
    have own : a.currentUser = a.target := Collection.eq_of_oid member present same
    have held := Document.index_ok stored
    obtain ⟨n, rfl⟩ := numeric _ member _ held
    have hit : (Value.int a.userId).matchesField (a.target.get? "id") = true := by
      simpa [Document.satisfies, Condition.holds] using passes
    rw [← own, held, Value.matchesField_int, decide_eq_true_eq] at hit
    rw [hit] at other
    simp [Value.pyEq] at other
  | _ => cases a.named

/-- From a collection with an active administrator there is one in every state of a run exactly
when every change of the run that goes through and stores another type or a false `is_active` is
made while another user is an active administrator. Only `update_user` and `upgrade_user` can
fail that. -/
theorem last_admin_kept_iff (rt : Runtime) {s : Server} (start : HasAdmin s) (requests : List Request) :
    (Throughout (step rt) HasAdmin s requests ↔ AllSteps (step rt) (SparesAnAdmin rt) s requests) ∧
    ∀ (s : Server) (request : Request), NumericIds s.users →
      (∀ userId, request.endpoint ≠ .updateUser userId ∧ request.endpoint ≠ .upgradeUser userId) →
      SparesAnAdmin rt s request := by
  refine ⟨?_, fun s request numeric checked => sparesAnAdmin_of_check numeric checked⟩
  exact @throughout_iff_allSteps _ _ (step rt) (SparesAnAdmin rt) HasAdmin HasAdmin (fun _ has => has)
    (fun _ request has spares => (hasAdmin_step_iff has request).mpr spares)
    (fun _ request has takes kept => takes ((hasAdmin_step_iff has request).mp kept)) s start requests

/-- The state after the registration of an administrator. -/
def oneAdmin : Server :=
  step plainRuntime Server.initial (.registration "sarah@example.com" "s3cret" "admin" 0)

/-- The administrator with id 1 asks for the type `user`. -/
def selfDemotion : Request := ⟨.upgradeUser 1, .ofEntries (some "Bearer i") [("user_type", .str "user")] rfl 1⟩

theorem oneAdmin_hasAdmin : HasAdmin oneAdmin := by
  have first : oneAdmin.users.docs.any (fun d => Auth.isActive d && Auth.isAdmin d) = true := by
    decide +kernel
  obtain ⟨d, member, admin⟩ := List.any_eq_true.mp first
  exact ⟨d, member, by simpa [Document.IsActiveAdmin] using admin⟩

theorem last_admin_kept_iff_one :
    (Throughout (step plainRuntime) HasAdmin oneAdmin [selfDemotion] ↔
      AllSteps (step plainRuntime) (SparesAnAdmin plainRuntime) oneAdmin [selfDemotion]) ∧
    ∀ (s : Server) (request : Request), NumericIds s.users →
      (∀ userId, request.endpoint ≠ .updateUser userId ∧ request.endpoint ≠ .upgradeUser userId) →
      SparesAnAdmin plainRuntime s request :=
  last_admin_kept_iff plainRuntime oneAdmin_hasAdmin [selfDemotion]

/-- The only administrator changes its own type. -/
theorem last_admin_demotes_itself :
    HasAdmin oneAdmin ∧ ¬Throughout (step plainRuntime) HasAdmin oneAdmin [selfDemotion] := by
  refine ⟨oneAdmin_hasAdmin, fun all => ?_⟩
  obtain ⟨d, member, admin⟩ := all.2
  have nobody : (step plainRuntime oneAdmin selfDemotion).users.docs.any
      (fun d => Auth.isActive d && Auth.isAdmin d) = false := by decide +kernel
  have there := List.any_eq_false.mp nobody d member
  exact there (by simpa [Document.IsActiveAdmin] using admin)

end UssdCredit
