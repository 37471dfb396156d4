import UssdCredit.Identity
import UssdCredit.Library.Protocol

/-! Accounts that are created at the same time. Workers run the registrations and the Google
logins side by side on one users collection, which has no index on the email or the id. -/

namespace UssdCredit

open Library

/-- A request that may create an account. -/
inductive SignUp where
  | register (req : Http)
  | google (req : Http)

def SignUp.program (rt : Runtime) : SignUp → Prog Response
  | .register req => Auth.register rt req
  | .google req => Auth.googleLogin rt req

/-- The server with the requests its workers are handling. -/
abbrev Workers := Pool Op Op.Result PyExn Response Server

def Workers.begin (rt : Runtime) (server : Server) (signUps : List SignUp) : Workers :=
  ⟨server, signUps.map (SignUp.program rt)⟩

/-- The request as the router sees it. -/
def SignUp.request : SignUp → Request
  | .register req => ⟨.register, req⟩
  | .google req => ⟨.googleLogin, req⟩

/-- Where one worker is scheduled until its request is answered, the server is the one after that
request. -/
theorem SignUp.alone (rt : Runtime) (server : Server) {signUps : List SignUp} {signUp : SignUp}
    {thread : Nat} (here : signUps[thread]? = some signUp) :
    ∃ steps, ((List.replicate steps thread).foldl (Pool.step exec)
      (Workers.begin rt server signUps)).store = UssdCredit.step rt server signUp.request := by
  have handled : signUp.program rt = handler rt signUp.request := by
    cases signUp <;> rfl
  have waiting : (signUps.map (SignUp.program rt))[thread]? = some (handler rt signUp.request) := by
    rw [List.getElem?_map, here, Option.map_some, handled]
  obtain ⟨steps, finished⟩ := Pool.sequential_schedule exec (handler rt signUp.request) server
    (signUps.map (SignUp.program rt)) thread waiting
  exact ⟨steps, congrArg Pool.store finished⟩

/-- No two documents have one email, and no two have one id. -/
structure AccountsDistinct (users : Collection) : Prop where
  emails : Distinct "email" users
  ids : Distinct "id" users

/-- The ids are integers not above the number of documents. -/
def IdsCounted (users : Collection) : Prop :=
  ∀ d ∈ users.docs, ∀ v, d.get? "id" = some v → ∃ n : Int, v = .int n ∧ n ≤ users.docs.length

/-- What a request has read still holds when its account is inserted: the email is not there, and
the documents are as many as the id says. -/
def StillFresh (workers : Workers) (thread : Nat) : Prop :=
  ∀ oid fields, workers.pending thread = some (.insertOne .users oid fields) →
    workers.store.users.Inserts oid fields →
    (∀ d ∈ workers.store.users.docs, ∀ v, fields.lookup "email" = some v → d.get? "email" ≠ some v) ∧
      fields.lookup "id" = some (.int (workers.store.users.docs.length + 1))

/-! The protocol of the two handlers: an insertion follows directly on a count, and takes its id
from it. -/

/-- The phase is what the last operation counted, if it was a count. -/
def signUpProtocol : Protocol Op Op.Result PyExn (Option Nat) where
  allowed counted
    | .findOne .users _ => True
    | .countDocuments .users filter => filter = []
    | .insertOne .users _ fields => ∃ n email, counted = some n ∧
        fields.lookup "id" = some (.int (n + 1)) ∧ fields.lookup "email" = some (.str email)
    | .updateOne .users _ update => "id" ∉ update.map Prod.fst ∧ "email" ∉ update.map Prod.fst
    | _ => False
  advance
    | _, .countDocuments _ _, .ok n => some n
    | _, _, _ => none

/-- The count is still right, or another request has taken the id since. -/
def CountStands : Option Nat → Server → Prop
  | none, _ => True
  | some n, s => n = s.users.docs.length ∨
      n < s.users.docs.length ∧ ∃ d ∈ s.users.docs, d.get? "id" = some (.int (n + 1))

section Handlers

open Library.Program

variable {rt : Runtime} {req : Http} {phase : Option Nat}

/-- The end of both logins touches no collection. -/
theorem issueToken_follows {π : Type} {protocol : Protocol Op Op.Result PyExn π} {phase : π}
    (userDoc : Document) (text : String) :
    (Auth.issueToken rt req userDoc text).Follows protocol phase := by
  unfold Auth.issueToken
  refine follows_lift_bind fun userId _ => ?_
  refine follows_lift_bind fun userType _ => ?_
  refine follows_lift_bind fun token _ => ?_
  exact follows_lift_bind fun user _ => follows_pure _

theorem register_follows : (Auth.register rt req).Follows signUpProtocol phase := by
  unfold Auth.register
  refine follows_lift_bind fun data _ => ?_
  refine follows_lift_bind fun missing _ => ?_
  cases missing with
  | some field => exact follows_pure _
  | none =>
    refine follows_lift_bind fun emailValue _ => ?_
    refine follows_lift_bind fun email _ => ?_
    refine follows_lift_bind fun password _ => ?_
    refine follows_lift_bind fun firstValue _ => ?_
    refine follows_lift_bind fun first _ => ?_
    refine follows_lift_bind fun lastValue _ => ?_
    refine follows_lift_bind fun last _ => ?_
    refine follows_perform_bind trivial fun existingUser => ?_
    cases existingUser with
    | some userDoc => exact follows_pure _
    | none =>
      refine follows_perform_bind rfl fun count => ?_
      refine follows_lift_bind fun passwordHash _ => ?_
      refine follows_lift_bind fun userType _ => ?_
      refine follows_perform_bind ⟨count, _, rfl, rfl, rfl⟩ fun _ => ?_
      exact follows_lift_bind fun token _ => follows_pure _

theorem googleAccount_follows (email : String) (googleId firstName lastName avatarUrl : Value) :
    (Auth.googleAccount req email googleId firstName lastName avatarUrl).Follows signUpProtocol
      phase := by
  unfold Auth.googleAccount
  refine follows_perform_bind trivial fun existingUser => ?_
  cases existingUser with
  | some userDoc =>
    refine follows_perform_bind ?_ fun _ => follows_pure _
    exact ⟨by simp, by simp⟩
  | none =>
    refine follows_perform_bind rfl fun count => ?_
    exact follows_perform_bind ⟨count, _, rfl, rfl, rfl⟩ fun _ => follows_pure _

theorem googleLogin_follows : (Auth.googleLogin rt req).Follows signUpProtocol phase := by
  unfold Auth.googleLogin
  refine follows_lift_bind fun data _ => ?_
  refine follows_lift_bind fun idToken _ => ?_
  split_ifs
  · refine follows_handle ?_ fun e phase => follows_pure _
    unfold Auth.googleSignIn
    refine follows_lift_bind fun userInfo _ => ?_
    refine follows_lift_bind fun address _ => ?_
    split_ifs
    · refine follows_lift_bind fun emailValue _ => ?_
      refine follows_lift_bind fun email _ => ?_
      refine follows_lift_bind fun sub _ => ?_
      refine follows_lift_bind fun id _ => ?_
      refine follows_lift_bind fun firstName _ => ?_
      refine follows_lift_bind fun lastName _ => ?_
      refine follows_lift_bind fun avatarUrl _ => ?_
      exact follows_bind (googleAccount_follows _ _ _ _ _) fun userDoc phase =>
        issueToken_follows userDoc _
    · exact follows_pure _
  · exact follows_pure _

theorem signUp_follows (signUp : SignUp) : (signUp.program rt).Follows signUpProtocol phase := by
  cases signUp with
  | register req => exact register_follows
  | google req => exact googleLogin_follows

end Handlers

/-! What one operation does to the users collection. -/

/-- Documents are only edited, in keys other than the email and the id. -/
def SameAccounts (users users' : Collection) : Prop :=
  ∃ oid update, users'.docs = users.docs.map (Document.edit oid update) ∧
    "id" ∉ update.map Prod.fst ∧ "email" ∉ update.map Prod.fst

theorem SameAccounts.refl (users : Collection) : SameAccounts users users := by
  refine ⟨0, [], ?_, List.not_mem_nil, List.not_mem_nil⟩
  have still : Document.edit 0 [] = id := by
    funext d
    unfold Document.edit
    split_ifs
    · rfl
    · rfl
  rw [still, List.map_id]

theorem exec_signUp {phase : Option Nat} {op : Op} (may : signUpProtocol.allowed phase op)
    (s : Server) : SameAccounts s.users (exec op s).2.users ∨
      ∃ oid fields, op = .insertOne .users oid fields ∧ s.users.Inserts oid fields ∧
        (exec op s).2.users.docs = s.users.docs ++ [⟨oid, fields⟩] := by
  cases op with
  | findOne name filter => exact .inl (SameAccounts.refl _)
  | countDocuments name filter => exact .inl (SameAccounts.refl _)
  | insertOne name oid fields =>
    cases name with
    | users =>
      cases inserted : s.users.insertOne oid fields with
      | error e =>
        refine .inl ?_
        rw [show exec (.insertOne .users oid fields) s = s.write .users (.error e) from
          congrArg (s.write .users) inserted]
        exact SameAccounts.refl _
      | ok c =>
        refine .inr ⟨oid, fields, rfl, Collection.inserts_iff.mpr ⟨c, inserted⟩, ?_⟩
        rw [exec_insertOne inserted]
        exact (Collection.insertOne_ok inserted).1
    | _ => exact may.elim
  | updateOne name filter update =>
    cases name with
    | users =>
      refine .inl ?_
      cases updated : s.users.updateOne filter update with
      | error e =>
        rw [show exec (.updateOne .users filter update) s = s.write .users (.error e) from
          congrArg (s.write .users) updated]
        exact SameAccounts.refl _
      | ok c =>
        rw [exec_updateOne updated]
        rcases Collection.updateOne_ok updated with ⟨-, rfl⟩ | ⟨d, -, rewritten⟩
        · exact SameAccounts.refl _
        · exact ⟨d.oid, update, rewritten, may⟩
    | _ => exact may.elim
  | _ => exact may.elim

section Edited

variable {users users' : Collection} (same : SameAccounts users users')

include same

theorem SameAccounts.length : users'.docs.length = users.docs.length := by
  obtain ⟨oid, update, edited, -, -⟩ := same
  rw [edited, List.length_map]

theorem SameAccounts.distinct (distinct : AccountsDistinct users) : AccountsDistinct users' := by
  obtain ⟨oid, update, edited, no_id, no_email⟩ := same
  exact ⟨distinct.emails.edit edited no_email, distinct.ids.edit edited no_id⟩

/-- The documents hold the ids they held before. -/
theorem SameAccounts.id_iff (v : Value) :
    (∃ d ∈ users'.docs, d.get? "id" = some v) ↔ ∃ d ∈ users.docs, d.get? "id" = some v := by
  obtain ⟨oid, update, edited, no_id, -⟩ := same
  simp only [edited, List.mem_map, exists_exists_and_eq_and, Document.edit_get? no_id]

theorem SameAccounts.counted (counted : IdsCounted users) : IdsCounted users' := by
  intro d member v held
  obtain ⟨old, present, held⟩ := (same.id_iff v).mp ⟨d, member, held⟩
  rw [same.length]
  exact counted old present v held

end Edited

/-! Insertions. -/

section Inserted

variable {users users' : Collection} {oid : Nat} {fields : Fields}
  (appended : users'.docs = users.docs ++ [⟨oid, fields⟩])

include appended

theorem AccountsDistinct.insert (distinct : AccountsDistinct users) (counted : IdsCounted users)
    (newEmail : ∀ d ∈ users.docs, ∀ v, fields.lookup "email" = some v → d.get? "email" ≠ some v)
    (newId : fields.lookup "id" = some (.int (users.docs.length + 1))) :
    AccountsDistinct users' ∧ IdsCounted users' := by
  have length : users'.docs.length = users.docs.length + 1 := by simp [appended]
  refine ⟨⟨distinct.emails.insert appended fun v given d member => newEmail d member v given,
    distinct.ids.insert appended ?_⟩, ?_⟩
  · intro v given d member held
    obtain rfl := Option.some.inj (newId.symm.trans given)
    obtain ⟨n, same, small⟩ := counted d member _ held
    have equal : ((users.docs.length : Int) + 1) = n := by simpa using same
    omega
  · intro d member v held
    rw [appended, List.mem_append, List.mem_singleton] at member
    rcases member with old | rfl
    · obtain ⟨n, same, small⟩ := counted d old v held
      exact ⟨n, same, by omega⟩
    · exact ⟨users.docs.length + 1, (Option.some.inj (newId.symm.trans held)).symm, by omega⟩

/-- A document with a value that is already there. -/
theorem not_distinct_insert {key : String} {v : Value} (fresh : oid ∉ users.docs.map Document.oid)
    (given : fields.lookup key = some v) {d : Document} (member : d ∈ users.docs)
    (held : d.get? key = some v) : ¬Distinct key users' := by
  intro distinct
  have last : (⟨oid, fields⟩ : Document) ∈ users'.docs := by simp [appended]
  have old : d ∈ users'.docs := by simp [appended, member]
  have same := distinct d old _ last v held given
  exact fresh (List.mem_map.mpr ⟨d, member, by rw [same]⟩)

end Inserted

/-! The counts the requests hold. -/

theorem CountStands.same {counted : Option Nat} {s s' : Server} (stands : CountStands counted s)
    (same : SameAccounts s.users s'.users) : CountStands counted s' := by
  cases counted with
  | none => trivial
  | some n =>
    simp only [CountStands] at stands ⊢
    rwa [same.length, same.id_iff]

theorem CountStands.insert {counted : Option Nat} {s s' : Server} {oid : Nat} {fields : Fields}
    (stands : CountStands counted s) (appended : s'.users.docs = s.users.docs ++ [⟨oid, fields⟩])
    (newId : fields.lookup "id" = some (.int (s.users.docs.length + 1))) :
    CountStands counted s' := by
  cases counted with
  | none => trivial
  | some n =>
    have length : s'.users.docs.length = s.users.docs.length + 1 := by simp [appended]
    refine .inr ?_
    rcases stands with rfl | ⟨small, d, member, held⟩
    · exact ⟨by omega, ⟨oid, fields⟩, by simp [appended], newId⟩
    · exact ⟨by omega, d, by simp [appended, member], held⟩

/-- A request that has just counted has the right count. -/
theorem countStands_advance {phase : Option Nat} {op : Op} (may : signUpProtocol.allowed phase op)
    (s : Server) : CountStands (signUpProtocol.advance phase op (exec op s).1) (exec op s).2 := by
  cases op with
  | countDocuments name filter =>
    cases name with
    | users =>
      obtain rfl : filter = [] := may
      rw [exec_countAll]
      exact .inl rfl
    | _ => exact may.elim
  | _ => trivial

/-- What holds of the workers as long as every account is inserted on fresh readings. -/
structure SigningUp (workers : Workers) : Prop where
  distinct : AccountsDistinct workers.store.users
  counted : IdsCounted workers.store.users
  conforms : workers.Conforms signUpProtocol CountStands

variable {workers : Workers} {thread : Nat}

theorem SigningUp.step (signing : SigningUp workers) (fresh : StillFresh workers thread) :
    SigningUp (workers.step exec thread) := by
  rcases Pool.step_cases exec workers thread with ⟨-, idle⟩ | ⟨op, next, -, pending, moved⟩
  · rwa [idle]
  · obtain ⟨phase, may, stands⟩ := signing.conforms.pending pending
    have store : (workers.step exec thread).store = (exec op workers.store).2 := by rw [moved]
    rcases exec_signUp may workers.store with same | ⟨oid, fields, rfl, inserts, appended⟩
    · refine ⟨store ▸ same.distinct signing.distinct, store ▸ same.counted signing.counted, ?_⟩
      refine signing.conforms.step exec (fun phase op' next' may' _ => ?_) fun phase op' next' relied => ?_
      · obtain rfl := Option.some.inj (pending.symm.trans next')
        exact countStands_advance may' workers.store
      · obtain rfl := Option.some.inj (pending.symm.trans next')
        exact relied.same same
    · obtain ⟨newEmail, newId⟩ := fresh oid fields pending inserts
      obtain ⟨distinct, counted⟩ := signing.distinct.insert appended signing.counted newEmail newId
      refine ⟨store ▸ distinct, store ▸ counted, ?_⟩
      refine signing.conforms.step exec (fun phase op' next' may' _ => ?_) fun phase op' next' relied => ?_
      · obtain rfl := Option.some.inj (pending.symm.trans next')
        exact countStands_advance may' workers.store
      · obtain rfl := Option.some.inj (pending.symm.trans next')
        exact relied.insert appended newId

/-- An insertion on stale readings makes two accounts with one email or one id. -/
theorem SigningUp.clash (signing : SigningUp workers) (stale : ¬StillFresh workers thread) :
    ¬AccountsDistinct (workers.step exec thread).store.users := by
  intro after
  refine stale fun oid fields pending inserts => ?_
  rcases Pool.step_cases exec workers thread with ⟨idle, -⟩ | ⟨op, next, -, pending', moved⟩
  · cases idle.symm.trans pending
  · obtain rfl := Option.some.inj (pending.symm.trans pending')
    obtain ⟨phase, ⟨n, email, rfl, newId, newEmail⟩, stands⟩ := signing.conforms.pending pending
    obtain ⟨c, inserted⟩ := Collection.inserts_iff.mp inserts
    have users : (workers.step exec thread).store.users = c := by
      rw [moved, exec_insertOne inserted]
      rfl
    rw [users] at after
    obtain ⟨appended, -⟩ := Collection.insertOne_ok inserted
    constructor
    · intro d member v given held
      exact not_distinct_insert appended inserts.1 given member held after.emails
    · rcases stands with rfl | ⟨-, d, member, held⟩
      · exact newId
      · exact absurd after.ids (not_distinct_insert appended inserts.1 newId member held)

/-- From a collection with distinct emails and distinct ids not above its size, the emails and the
ids of the accounts are distinct in every state of a schedule if and only if every account of the
schedule is inserted while what its request has read still holds. -/
theorem concurrent_accounts_distinct_iff (rt : Runtime) (server : Server)
    (distinct : AccountsDistinct server.users) (counted : IdsCounted server.users)
    (signUps : List SignUp) (schedule : List Nat) :
    Throughout (Pool.step exec) (fun workers => AccountsDistinct workers.store.users)
        (Workers.begin rt server signUps) schedule ↔
      AllSteps (Pool.step exec) StillFresh (Workers.begin rt server signUps) schedule := by
  have conforms : (Workers.begin rt server signUps).Conforms signUpProtocol CountStands := by
    intro program member
    obtain ⟨signUp, -, rfl⟩ := List.mem_map.mp member
    exact ⟨none, signUp_follows signUp, trivial⟩
  exact @throughout_iff_allSteps _ _ (Pool.step exec) StillFresh
    (fun workers => AccountsDistinct workers.store.users) SigningUp (fun _ => SigningUp.distinct)
    (fun _ _ => SigningUp.step) (fun _ _ => SigningUp.clash) _ ⟨distinct, counted, conforms⟩ schedule

theorem accountsDistinct_initial : AccountsDistinct Server.initial.users :=
  ⟨identified_initial.emails, identified_initial.ids⟩

theorem idsCounted_initial : IdsCounted Server.initial.users := by
  intro d member
  cases member

/-- Two visitors register with one email. -/
def twoRegistrations : Workers :=
  Workers.begin plainRuntime Server.initial [
    .register (Request.registration "sarah@example.com" "s3cret" "user" 1).http,
    .register (Request.registration "sarah@example.com" "pa55word" "user" 2).http]

/-- One of them after the other. -/
theorem concurrent_accounts_distinct_iff_two :
    Throughout (Pool.step exec) (fun workers => AccountsDistinct workers.store.users)
        twoRegistrations [0, 0, 0, 1] ↔
      AllSteps (Pool.step exec) StillFresh twoRegistrations [0, 0, 0, 1] :=
  concurrent_accounts_distinct_iff plainRuntime Server.initial accountsDistinct_initial
    idsCounted_initial _ _

/-- Taking turns, both find the email free and count no document: the two accounts have one email
and one id. -/
theorem simultaneous_registrations_clash :
    let reached := [0, 1, 0, 1, 0, 1].foldl (Pool.step exec) twoRegistrations
    (∃ d ∈ reached.store.users.docs, ∃ d' ∈ reached.store.users.docs, d ≠ d' ∧
      d.get? "email" = some (.str "sarah@example.com") ∧
      d'.get? "email" = some (.str "sarah@example.com") ∧
      d.get? "id" = some (.int 1) ∧ d'.get? "id" = some (.int 1)) ∧
      AccountsDistinct Server.initial.users ∧ IdsCounted Server.initial.users ∧
      ¬AccountsDistinct reached.store.users := by
  intro reached
  have clash : ∃ d ∈ reached.store.users.docs, ∃ d' ∈ reached.store.users.docs, d ≠ d' ∧
      d.get? "email" = some (.str "sarah@example.com") ∧
      d'.get? "email" = some (.str "sarah@example.com") ∧
      d.get? "id" = some (.int 1) ∧ d'.get? "id" = some (.int 1) := by decide +kernel
  refine ⟨clash, accountsDistinct_initial, idsCounted_initial, fun distinct => ?_⟩
  obtain ⟨d, member, d', member', different, email, email', -⟩ := clash
  exact different (distinct.emails d member d' member' _ email email')

end UssdCredit
