import UssdCredit.Identity
import UssdCredit.Library.Runs
import Mathlib.Data.Set.Basic

/-! Who becomes an administrator without one: exactly those whose registration says so. -/

namespace UssdCredit

open Library Program

/-- The accounts stored as administrators, by ObjectId. -/
def admins (c : Collection) : Set Nat :=
  {oid | ∃ d ∈ c.docs, d.oid = oid ∧ d.get? "user_type" = some (.str "admin")}

/-- The endpoints that write to the users collection without an administrator. -/
def Endpoint.selfService : Endpoint → Bool
  | .register | .login | .googleLogin | .updateProfile | .changePassword | .createUser => true
  | _ => false

abbrev SelfServiceRequest := {request : Request // request.endpoint.selfService = true}

/-- The request is a registration that goes through and whose payload asks for the type
`admin`: its names, email and password are texts, the email is not registered, and the
database takes one more document under a new ObjectId. -/
def RegistersAdmin (rt : Runtime) (s : Server) (request : Request) : Prop :=
  request.endpoint = .register ∧
    (∃ r : Auth.Registration rt request.http s.users, r.userType = .str "admin") ∧
    request.http.oid ∉ s.users.docs.map Document.oid ∧ s.users.docs.length + 1 < 2 ^ 63

variable {rt : Runtime} {s : Server}

/-! The driver takes the document of such a registration. -/

theorem nextUserId_eq (c : Collection) :
    Auth.nextUserId c = ((c.docs.length + 1 : Nat) : Int) := by
  simp [Auth.nextUserId]

theorem registration_encodes {req : Http} (r : Auth.Registration rt req s.users)
    (typed : r.userType = .str "admin") :
    Value.bsonErrorEntries r.fields = none ↔ s.users.docs.length + 1 < 2 ^ 63 := by
  have keys : ∀ key ∈ r.fields.map Prod.fst, encodeKey key = none := by
    have listed : r.fields.map Prod.fst = ["id", "email", "password_hash", "first_name",
      "last_name", "user_type", "email_verified", "phone_verified", "is_active", "is_suspended",
      "created_at", "updated_at"] := rfl
    rw [listed]
    decide
  rw [bsonErrorEntries_none]
  constructor
  · intro all
    have counted := (all ("id", .int (Auth.nextUserId s.users)) (List.mem_cons_self ..)).2
    by_contra large
    rw [Value.bsonError, nextUserId_eq, encodeInt_natCast, if_neg large] at counted
    cases counted
  · intro small entry member
    refine ⟨keys entry.1 (List.mem_map_of_mem member), ?_⟩
    have counted : encodeInt (Auth.nextUserId s.users) = none := by
      rw [nextUserId_eq, encodeInt_natCast, if_pos small]
    simp only [Auth.Registration.fields, Auth.newUser, typed, List.mem_cons, List.not_mem_nil,
      or_false] at member
    rcases member with rfl | rfl | rfl | rfl | rfl | rfl | rfl | rfl | rfl | rfl | rfl | rfl
    · simpa only [Value.bsonError] using counted
    all_goals rfl

theorem insertOne_registers {req : Http} (r : Auth.Registration rt req s.users)
    (typed : r.userType = .str "admin") (fresh : req.oid ∉ s.users.docs.map Document.oid)
    (small : s.users.docs.length + 1 < 2 ^ 63) :
    ∃ c, s.users.insertOne req.oid r.fields = .ok c :=
  Collection.inserts_iff.mp ⟨fresh, (registration_encodes r typed).mpr small⟩

/-! One request. -/

theorem admins_insert {c c' : Collection} {new : Document}
    (appended : c'.docs = c.docs ++ [new]) :
    admins c' ⊆ admins c ∪ {oid | oid = new.oid ∧ new.get? "user_type" = some (.str "admin")} := by
  rintro oid ⟨d, member, rfl, typed⟩
  rw [appended, List.mem_append, List.mem_singleton] at member
  rcases member with old | rfl
  · exact .inl ⟨d, old, rfl, typed⟩
  · exact .inr ⟨rfl, typed⟩

/-- No self-service endpoint updates a user type. -/
theorem selfService_keeps_type {endpoint : Endpoint} (self : endpoint.selfService = true) :
    "user_type" ∉ endpoint.updates := by
  cases endpoint <;> first
    | exact absurd self Bool.false_ne_true
    | simp [Endpoint.updates, Auth.googleKeys, Auth.profileFields]

/-- An account inserted by a registration has the type the payload names. -/
theorem registersAdmin_of_insert {req : Http} {fields : Fields} {c : Collection}
    (inserted : s.users.insertOne req.oid fields = .ok c)
    (stepped : (step rt s ⟨.register, req⟩).users = c)
    (typed : fields.lookup "user_type" = some (.str "admin")) :
    RegistersAdmin rt s ⟨.register, req⟩ := by
  obtain ⟨appended, fresh⟩ := Collection.insertOne_ok inserted
  rcases Auth.post_register rt req s with ⟨same, -⟩ | ⟨r, c', inserted', final, -⟩
  · have grown : s.users.docs = s.users.docs ++ [⟨req.oid, fields⟩] := by
      rw [← appended, ← stepped]
      exact congrArg (fun s : Server => s.users.docs) same.symm
    exact absurd (congrArg List.length grown) (by simp)
  · have users' : (step rt s ⟨.register, req⟩).users = c' :=
      (congrArg Server.users final).trans (users_setCollection s c')
    obtain rfl : c = c' := stepped.symm.trans users'
    have entries : (⟨req.oid, fields⟩ : Document) = ⟨req.oid, r.fields⟩ := by
      have both := appended.symm.trans (Collection.insertOne_ok inserted').1
      simpa using both
    obtain rfl : fields = r.fields := congrArg Document.fields entries
    have admin : r.userType = .str "admin" := Option.some.inj typed
    exact ⟨rfl, ⟨r, admin⟩, fresh,
      (registration_encodes r admin).mp (Collection.inserts_iff.mpr ⟨c, inserted⟩).2⟩

/-- A self-service request that is no such registration makes nobody an administrator. -/
theorem admins_step {request : Request} (self : request.endpoint.selfService = true)
    (plain : ¬RegistersAdmin rt s request) :
    admins (step rt s request).users ⊆ admins s.users := by
  have effect := step_effect rt s request
  generalize stepped : (step rt s request).users = c at effect ⊢
  cases effect with
  | unchanged => exact Set.Subset.rfl
  | @account fields c new creates inserted =>
    refine (admins_insert (Collection.insertOne_ok inserted).1).trans (Set.union_subset Set.Subset.rfl ?_)
    rintro oid ⟨-, typed⟩
    obtain ⟨endpoint, req⟩ := request
    dsimp only at creates
    rcases creates with rfl | rfl
    · exact absurd (registersAdmin_of_insert inserted stepped typed) plain
    · have google := new.google_type rfl
      have same : some new.userType = some (Value.str "admin") := new.type_given.symm.trans typed
      rw [google] at same
      exact absurd same (by decide)
  | @contact fields c creates keys inserted =>
    refine (admins_insert (Collection.insertOne_ok inserted).1).trans (Set.union_subset Set.Subset.rfl ?_)
    rintro oid ⟨-, typed⟩
    have none : fields.lookup "user_type" = none := by
      refine Dict.lookup_eq_none ?_
      rw [keys]
      decide
    exact absurd (none.symm.trans typed) nofun
  | @edited c edit rewritten =>
    rintro oid ⟨d, member, rfl, typed⟩
    rw [rewritten, List.mem_map] at member
    obtain ⟨old, present, rfl⟩ := member
    have kept : "user_type" ∉ edit.update.map Prod.fst := by
      intro member
      obtain ⟨entry, given, named⟩ := List.mem_map.mp member
      exact selfService_keeps_type self (named ▸ edit.listed entry given)
    rw [Document.edit_get? kept] at typed
    exact ⟨old, present, (Document.edit_oid ..).symm, typed⟩

theorem oids_step (rt : Runtime) (s : Server) (request : Request) {oid : Nat}
    (present : oid ∈ s.users.docs.map Document.oid) :
    oid ∈ (step rt s request).users.docs.map Document.oid := by
  obtain ⟨d, member, rfl⟩ := List.mem_map.mp present
  obtain ⟨d', member', same, -⟩ := (step_effect rt s request).keeps_document member
  exact same ▸ List.mem_map_of_mem member'

/-- A registration as administrator makes one, under an ObjectId that was not there. -/
theorem registersAdmin_step {request : Request} (registers : RegistersAdmin rt s request) :
    request.http.oid ∈ admins (step rt s request).users ∧
      request.http.oid ∉ s.users.docs.map Document.oid := by
  obtain ⟨endpoint, req⟩ := request
  obtain ⟨same, ⟨r, typed⟩, fresh, small⟩ := registers
  dsimp only at same fresh
  subst same
  obtain ⟨c, inserted⟩ := insertOne_registers r typed fresh small
  have stepped : (step rt s ⟨.register, req⟩).users = c :=
    (congrArg (fun result => result.2.users) (Auth.run_register r inserted)).trans
      (users_setCollection s c)
  refine ⟨⟨⟨req.oid, r.fields⟩, ?_, rfl, ?_⟩, fresh⟩
  · rw [stepped, (Collection.insertOne_ok inserted).1]
    exact List.mem_append_right _ (List.mem_singleton_self _)
  · exact congrArg some typed

/-! Runs. -/

/-- In a run of self-service requests the administrators never become more exactly when no
request of the run is a registration that asks to be one and goes through. -/
theorem no_new_admins_iff (rt : Runtime) (s : Server) (requests : List SelfServiceRequest) :
    Throughout (fun s request => step rt s request.val)
        (fun s' => admins s'.users ⊆ admins s.users) s requests ↔
      AllSteps (fun s request => step rt s request.val)
        (fun s' request => ¬RegistersAdmin rt s' request.val) s requests := by
  let invariant := fun s' : Server => admins s'.users ⊆ admins s.users ∧
    ∀ oid ∈ admins s.users, oid ∈ s'.users.docs.map Document.oid
  have start : invariant s :=
    ⟨Set.Subset.rfl, by rintro oid ⟨d, member, rfl, -⟩; exact List.mem_map_of_mem member⟩
  refine throughout_iff_allSteps (fun s' holds => holds.1) ?_ ?_ start requests
  · intro s' request holds plain
    exact ⟨(admins_step request.property plain).trans holds.1,
      fun oid member => oids_step rt s' request.val (holds.2 oid member)⟩
  · intro s' request holds registers grown
    obtain ⟨there, fresh⟩ := registersAdmin_step (not_not.mp registers)
    exact fresh (holds.2 _ (grown there))

/-- Anyone can register as an administrator. -/
theorem registration_makes_admin :
    ¬Throughout (fun s (request : SelfServiceRequest) => step plainRuntime s request.val)
      (fun s => admins s.users ⊆ admins Server.initial.users) Server.initial
      [⟨.registration "sarah@example.com" "s3cret" "admin" 0, rfl⟩] := by
  rintro ⟨-, grown⟩
  have there : 0 ∈ admins (step plainRuntime Server.initial
      (.registration "sarah@example.com" "s3cret" "admin" 0)).users := by
    refine ⟨(step plainRuntime Server.initial
      (.registration "sarah@example.com" "s3cret" "admin" 0)).users.docs.head (by decide +kernel),
      List.head_mem _, by decide +kernel, by decide +kernel⟩
  obtain ⟨d, member, -⟩ := grown there
  cases member

end UssdCredit
