import Mathlib.Data.List.Forall2
import UssdCredit.Effects

/-! Confidentiality of the password hashes, as a law about two runs: states that differ in
nothing but their hashes answer alike. Every reader of the users collection respects it
except the search, which hands the hashes out. -/

namespace UssdCredit

open Library Program

/-! Documents that differ in the password hash only. -/

/-- The same document but for the value of its password hash. -/
structure Twin (d d' : Document) : Prop where
  oid : d.oid = d'.oid
  fields : Dict.AgreeExcept "password_hash" d.fields d'.fields

namespace Twin

variable {d d' : Document} (twin : Twin d d') {key : String} (other : key ≠ "password_hash")

include twin

include other in
theorem get? : d.get? key = d'.get? key := twin.fields.lookup other

include other in
theorem get (default : Value) : d.get key default = d'.get key default := by
  unfold Document.get
  rw [twin.get? other]

include other in
theorem index : d.index key = d'.index key := by
  have same : d.fields.lookup key = d'.fields.lookup key := twin.fields.lookup other
  simp only [Document.index, Value.pyIndex, same]

omit twin in
theorem refl (d : Document) : Twin d d :=
  ⟨rfl, List.forall₂_same.mpr fun _ _ => ⟨rfl, .inr rfl⟩⟩

theorem edit (oid : Nat) (update : Fields) : Twin (d.edit oid update) (d'.edit oid update) := by
  unfold Document.edit
  rw [twin.oid]
  split_ifs
  · exact ⟨rfl, twin.fields.setAll update⟩
  · exact twin

/-- The administrator's projection leaves nothing that differs. -/
theorem withoutHash : Admin.withoutHash d = Admin.withoutHash d' := by
  unfold Admin.withoutHash
  rw [twin.oid, twin.fields.filter]

/-- A filter that does not look at the hash selects both or neither. -/
theorem satisfies {filter : Filter} (blind : "password_hash" ∉ filter.keys) :
    d.satisfies filter = d'.satisfies filter := by
  have looked : ∀ c ∈ filter, c.holds d = c.holds d' := by
    intro c member
    have away : ∀ key ∈ c.keys, key ≠ "password_hash" := fun key listed same =>
      blind (List.mem_flatMap.mpr ⟨c, member, same ▸ listed⟩)
    cases c with
    | objectId oid => simp only [Condition.holds, twin.oid]
    | eq field value =>
      simp only [Condition.holds, twin.get? (away field (List.mem_singleton_self _))]
    | anyRegex fields test =>
      have tests : ∀ field ∈ fields, (d.get? field).any test = (d'.get? field).any test :=
        fun field listed => by rw [twin.get? (away field listed)]
      simp only [Condition.holds]
      rw [Bool.eq_iff_iff, List.any_eq_true, List.any_eq_true]
      exact exists_congr fun field => and_congr_right fun listed => by rw [tests field listed]
    | since field t =>
      simp only [Condition.holds, twin.get? (away field (List.mem_singleton_self _))]
    | operators field expression reading =>
      simp only [Condition.holds, twin.get? (away field (List.mem_singleton_self _))]
  unfold Document.satisfies
  rw [Bool.eq_iff_iff, List.all_eq_true, List.all_eq_true]
  exact forall₂_congr fun c member => by rw [looked c member]

end Twin

/-! Lists of such documents. -/

section Lists

variable {docs docs' : List Document} (twins : List.Forall₂ Twin docs docs') {filter : Filter}
  (blind : "password_hash" ∉ filter.keys)

include twins

theorem map_twins {α : Type} {f : Document → α} (same : ∀ d d', Twin d d' → f d = f d') :
    docs.map f = docs'.map f := by
  induction twins with
  | nil => rfl
  | cons twin _ ih => rw [List.map_cons, List.map_cons, same _ _ twin, ih]

theorem edit_twins (oid : Nat) (update : Fields) :
    List.Forall₂ Twin (docs.map (Document.edit oid update)) (docs'.map (Document.edit oid update)) := by
  rw [List.forall₂_map_left_iff, List.forall₂_map_right_iff]
  exact twins.imp fun _ _ twin => twin.edit oid update

/-- Documents without a hash have nothing to differ in. -/
theorem eq_of_twins (absent : ∀ d ∈ docs, d.get? "password_hash" = none) : docs = docs' := by
  induction twins with
  | nil => rfl
  | @cons d d' rest rest' twin _ ih =>
    have first : d = d' := by
      obtain ⟨oid, fields⟩ := d
      have bare : fields.lookup "password_hash" = none := absent _ List.mem_cons_self
      have same_fields : fields = d'.fields := twin.fields.eq bare
      have same_oid : oid = d'.oid := twin.oid
      rw [same_fields, same_oid]
    rw [first, ih fun d member => absent d (List.mem_cons_of_mem _ member)]

include blind

theorem filter_twins :
    List.Forall₂ Twin (docs.filter (·.satisfies filter)) (docs'.filter (·.satisfies filter)) :=
  List.rel_filter (fun d d' twin => by
    change d.satisfies filter = true ↔ d'.satisfies filter = true
    rw [twin.satisfies blind]) twins

theorem find?_twins :
    Option.Rel Twin (docs.find? (·.satisfies filter)) (docs'.find? (·.satisfies filter)) := by
  induction twins with
  | nil => exact .none
  | @cons d d' rest rest' twin _ ih =>
    rw [List.find?_cons, List.find?_cons, ← twin.satisfies blind]
    cases d.satisfies filter with
    | true => exact .some twin
    | false => exact ih

end Lists

/-! States that differ in the password hashes only. -/

/-- The states differ in password hashes, of whatever collection. -/
structure Server.Twins (s s' : Server) : Prop where
  collections : ∀ name, List.Forall₂ Twin (s.collection name).docs (s'.collection name).docs
  influencersDb : s.influencersDb = s'.influencersDb
  subscribersDb : s.subscribersDb = s'.subscribersDb

/-- No filter looks at the password hash. -/
def Op.Blind : Op → Prop
  | .find _ filter | .findOne _ filter | .countDocuments _ filter | .updateOne _ filter _ =>
      "password_hash" ∉ filter.keys
  | _ => True

/-- Documents may differ in their hashes; every other answer is the same. -/
def Answers : (op : Op) → op.Result → op.Result → Prop
  | .find _ _ => List.Forall₂ Twin
  | .findOne _ _ => Option.Rel Twin
  | _ => Eq

theorem Server.Twins.set {s s' : Server} (twins : s.Twins s') {name : CollectionName}
    {c c' : Collection} (written : List.Forall₂ Twin c.docs c'.docs) :
    (s.setCollection name c).Twins (s'.setCollection name c') where
  collections other := by
    rw [Server.setCollection_collection, Server.setCollection_collection]
    split_ifs
    · exact written
    · exact twins.collections other
  influencersDb := twins.influencersDb
  subscribersDb := twins.subscribersDb

/-- Collections whose documents are twins. -/
def TwinCollections (c c' : Collection) : Prop := List.Forall₂ Twin c.docs c'.docs

theorem insertOne_twins {c c' : Collection} (twins : List.Forall₂ Twin c.docs c'.docs) (oid : Nat)
    (fields : Fields) :
    Corresponds TwinCollections (c.insertOne oid fields) (c'.insertOne oid fields) := by
  have oids := map_twins twins fun _ _ twin => twin.oid
  unfold Collection.insertOne
  split
  · exact .error _
  · by_cases taken : oid ∈ c.docs.map Document.oid
    · rw [dif_pos taken, dif_pos (oids ▸ taken)]
      exact .error _
    · rw [dif_neg taken, dif_neg (oids ▸ taken)]
      exact .ok (List.rel_append twins (.cons (.refl _) .nil))

theorem updateOne_twins {c c' : Collection} (twins : List.Forall₂ Twin c.docs c'.docs)
    {filter : Filter} (blind : "password_hash" ∉ filter.keys) (update : Fields) :
    Corresponds TwinCollections (c.updateOne filter update) (c'.updateOne filter update) := by
  have found : Option.Rel Twin (c.first? filter) (c'.first? filter) := find?_twins twins blind
  unfold Collection.updateOne
  split
  · exact .error _
  · split
    · exact .error _
    · generalize c.first? filter = left, c'.first? filter = right at found
      cases found with
      | none => exact .ok twins
      | @some d d' twin =>
        refine .ok ?_
        change List.Forall₂ Twin (c.docs.map (Document.edit d.oid update)) (c'.docs.map (Document.edit d'.oid update))
        rw [← twin.oid]
        exact edit_twins twins d.oid update

theorem write_twins {s s' : Server} (twins : s.Twins s') (name : CollectionName)
    {result result' : Except PyExn Collection} (written : Corresponds TwinCollections result result') :
    (s.write name result).2.Twins (s'.write name result').2 ∧
      Corresponds Eq (s.write name result).1 (s'.write name result').1 := by
  cases written with
  | ok written => exact ⟨twins.set written, .ok rfl⟩
  | error e => exact ⟨twins, .error e⟩

theorem exec_respects : Respects exec exec Op.Blind Server.Twins Answers := by
  intro op s s' blind twins
  cases op with
  | find name filter =>
    refine ⟨twins, ?_⟩
    simp only [exec, Collection.find]
    split
    · exact .error _
    · exact .ok (filter_twins (twins.collections name) blind)
  | findOne name filter =>
    refine ⟨twins, ?_⟩
    simp only [exec, Collection.findOne]
    split
    · exact .error _
    · exact .ok (find?_twins (twins.collections name) blind)
  | countDocuments name filter =>
    refine ⟨twins, ?_⟩
    simp only [exec, Collection.countDocuments]
    split
    · exact .error _
    · refine .ok ?_
      change List.countP _ _ = List.countP _ _
      rw [List.countP_eq_length_filter, List.countP_eq_length_filter]
      exact (filter_twins (twins.collections name) blind).length_eq
  | insertOne name oid fields =>
    exact write_twins twins name (insertOne_twins (twins.collections name) oid fields)
  | updateOne name filter update =>
    exact write_twins twins name (updateOne_twins (twins.collections name) blind update)
  | readInfluencers => exact ⟨twins, .ok twins.influencersDb⟩
  | writeInfluencers db => exact ⟨⟨twins.collections, rfl, twins.subscribersDb⟩, .ok rfl⟩
  | readSubscribers => exact ⟨twins, .ok twins.subscribersDb⟩
  | writeSubscribers db => exact ⟨⟨twins.collections, twins.influencersDb, rfl⟩, .ok rfl⟩

/-! The handlers: on twin documents they perform the same operations and end alike. -/

/-- The two programs end with the same result wherever the states are twins. -/
abbrev Hides (p q : Prog Response) : Prop := Similar Op.Blind Answers Eq p q

theorem hides_pure (response : Response) : Hides (pure response) (pure response) := .ok rfl

theorem hides_raise (e : PyExn) : Hides (raise e) (raise e) := .error e

/-- A query for one document, and what follows with and without it. -/
theorem similar_findOne {α : Type} {A : α → α → Prop} {name : CollectionName} {filter : Filter}
    {f g : Option Document → Prog α} (blind : "password_hash" ∉ filter.keys)
    (absent : Similar Op.Blind Answers A (f none) (g none))
    (found : ∀ d d', Twin d d' → Similar Op.Blind Answers A (f (some d)) (g (some d'))) :
    Similar Op.Blind Answers A (perform (.findOne name filter) >>= f)
      (perform (.findOne name filter) >>= g) := by
  refine .perform_bind blind fun x y twins => ?_
  cases twins with
  | none => exact absent
  | some twin => exact found _ _ twin

/-- An operation that answers no document. -/
theorem similar_perform {α : Type} {A : α → α → Prop} {op : Op} {f g : op.Result → Prog α}
    (blind : op.Blind) (equal : ∀ x y, Answers op x y → x = y)
    (rest : ∀ x, Similar Op.Blind Answers A (f x) (g x)) :
    Similar Op.Blind Answers A (perform op >>= f) (perform op >>= g) :=
  .perform_bind blind fun x y same => equal x y same ▸ rest x

theorem blind_eq {key : String} (other : key ≠ "password_hash") (value : Value) :
    "password_hash" ∉ Filter.keys [.eq key value] := by
  simpa [Filter.keys, Condition.keys] using Ne.symm other

variable {rt : Runtime} {req : Http}

theorem hides_jwtRequired {view view' : Document → Prog Response}
    (views : ∀ d d', Twin d d' → Hides (view d) (view' d')) :
    Hides (Auth.jwtRequired rt req view) (Auth.jwtRequired rt req view') := by
  unfold Auth.jwtRequired
  split
  · exact hides_pure _
  · split
    · exact hides_pure _
    · exact hides_pure _
    · refine .lift_bind fun currentUserId _ => ?_
      refine similar_findOne (blind_eq (by decide) _) (hides_pure _) fun d d' twin => ?_
      dsimp only
      rw [twin.get (by decide)]
      split_ifs
      · exact views d d' twin
      · exact hides_pure _

theorem hides_adminRequired {view view' : Document → Prog Response}
    (views : ∀ d d', Twin d d' → Hides (view d) (view' d')) :
    Hides (Auth.adminRequired rt req view) (Auth.adminRequired rt req view') := by
  refine hides_jwtRequired fun d d' twin => ?_
  rw [twin.get (by decide)]
  split_ifs
  · exact views d d' twin
  · exact hides_pure _

theorem hides_plain {body : Prog Response} (calls : body.Calls Op.plain) : Hides body body := by
  refine calls.similar (fun op plain => ?_) fun op plain x y same => ?_
  · cases op with
    | countDocuments name filter => exact plain
    | find name filter => exact plain.elim
    | findOne name filter => exact plain.elim
    | updateOne name filter update => exact plain.elim
    | _ => trivial
  · cases op with
    | find name filter => exact plain.elim
    | findOne name filter => exact plain.elim
    | _ => exact same

theorem hides_register : Hides (Auth.register rt req) (Auth.register rt req) := by
  unfold Auth.register
  refine .lift_bind fun data _ => ?_
  refine .lift_bind fun missing _ => ?_
  split
  · exact hides_pure _
  · refine .lift_bind fun emailValue _ => ?_
    refine .lift_bind fun email _ => ?_
    refine .lift_bind fun password _ => ?_
    refine .lift_bind fun firstValue _ => ?_
    refine .lift_bind fun first _ => ?_
    refine .lift_bind fun lastValue _ => ?_
    refine .lift_bind fun last _ => ?_
    refine similar_findOne (blind_eq (by decide) _) ?_ fun _ _ _ => hides_pure _
    refine similar_perform List.not_mem_nil (fun _ _ => id) fun count => ?_
    refine .lift_bind fun pwhash _ => ?_
    refine .lift_bind fun userType _ => ?_
    refine similar_perform trivial (fun _ _ => id) fun _ => ?_
    exact .lift_bind fun token _ => hides_pure _

/-- A new token and the account's data do not depend on the hash. -/
theorem hides_issueToken {d d' : Document} (twin : Twin d d') (text : String) :
    Hides (Auth.issueToken rt req d text) (Auth.issueToken rt req d' text) := by
  have listed : Auth.loginUser d = Auth.loginUser d' := by
    unfold Auth.loginUser
    rw [twin.index (by decide), twin.index (by decide), twin.index (by decide),
      twin.index (by decide), twin.index (by decide), twin.get (by decide)]
  unfold Auth.issueToken
  rw [listed, twin.index (by decide), twin.index (by decide)]
  refine .lift_bind fun userId _ => ?_
  refine .lift_bind fun userType _ => ?_
  refine .lift_bind fun token _ => ?_
  exact .lift_bind fun user _ => hides_pure _

/-- The account a Google login continues with: twins on the two sides. -/
theorem similar_googleAccount (email : String) (googleId firstName lastName avatarUrl : Value) :
    Similar Op.Blind Answers Twin
      (Auth.googleAccount req email googleId firstName lastName avatarUrl)
      (Auth.googleAccount req email googleId firstName lastName avatarUrl) := by
  unfold Auth.googleAccount
  refine similar_findOne (blind_eq (by decide) _) ?_ fun d d' twin => ?_
  · refine similar_perform List.not_mem_nil (fun _ _ => id) fun count => ?_
    exact similar_perform trivial (fun _ _ => id) fun _ => .ok (.refl _)
  · dsimp only
    rw [twin.oid]
    exact similar_perform List.not_mem_nil (fun _ _ => id) fun _ => .ok twin

theorem hides_googleLogin : Hides (Auth.googleLogin rt req) (Auth.googleLogin rt req) := by
  unfold Auth.googleLogin
  refine .lift_bind fun data _ => ?_
  refine .lift_bind fun idToken _ => ?_
  split_ifs
  · refine .handle ?_ fun e => hides_pure _
    unfold Auth.googleSignIn
    refine .lift_bind fun userInfo _ => ?_
    refine .lift_bind fun address _ => ?_
    split_ifs
    · refine .lift_bind fun emailValue _ => ?_
      refine .lift_bind fun email _ => ?_
      refine .lift_bind fun sub _ => ?_
      refine .lift_bind fun id _ => ?_
      refine .lift_bind fun firstName _ => ?_
      refine .lift_bind fun lastName _ => ?_
      refine .lift_bind fun avatarUrl _ => ?_
      exact .bind (similar_googleAccount ..) fun d d' twin => hides_issueToken twin _
    · exact hides_pure _
  · exact hides_pure _

theorem hides_getProfile {d d' : Document} : Hides (Auth.getProfile d) (Auth.getProfile d') :=
  .error _

theorem hides_updateProfile {d d' : Document} (twin : Twin d d') :
    Hides (Auth.updateProfile req d) (Auth.updateProfile req d') := by
  have listed : ∀ u u', Twin u u' → Auth.profileUser u = Auth.profileUser u' := by
    intro u u' twin
    unfold Auth.profileUser
    rw [twin.index (by decide), twin.index (by decide), twin.index (by decide),
      twin.index (by decide), twin.index (by decide), twin.get (by decide), twin.get (by decide)]
  unfold Auth.updateProfile
  refine .lift_bind fun data _ => ?_
  refine .lift_bind fun updateData _ => ?_
  split_ifs
  · exact hides_pure _
  · rw [twin.index (by decide)]
    refine .lift_bind fun userId _ => ?_
    refine similar_perform (blind_eq (by decide) _) (fun _ _ => id) fun _ => ?_
    refine similar_findOne (blind_eq (by decide) _) (hides_raise _) fun u u' updated => ?_
    dsimp only
    rw [listed u u' updated]
    exact .lift_bind fun user _ => hides_pure _

theorem hides_createUser : Hides (Users.createUser req) (Users.createUser req) := by
  unfold Users.createUser
  refine .lift_bind fun payload _ => ?_
  refine .lift_bind fun phone _ => ?_
  refine .lift_bind fun role _ => ?_
  refine .lift_bind fun pin _ => ?_
  refine .lift_bind fun balance _ => ?_
  refine similar_perform trivial (fun _ _ => id) fun _ => ?_
  exact .lift_bind fun doc _ => hides_pure _

theorem hides_ifMongo {unavailable : String} {body : Prog Response} (hides : Hides body body) :
    Hides (Admin.ifMongo rt unavailable body) (Admin.ifMongo rt unavailable body) := by
  unfold Admin.ifMongo
  refine .lift_bind fun available _ => ?_
  split_ifs
  · exact hides
  · exact hides_pure _

/-- A search of the user list looks at names and types only. -/
theorem blind_listFilter {filter : Filter} (built : Admin.listFilter rt req = .ok filter) :
    "password_hash" ∉ filter.keys := by
  have byType : "password_hash" ∉ (req.argFilter "user_type").keys := by
    rcases req.argFilter_cases "user_type" with none | ⟨userType, -, -, given⟩
    · rw [none]
      exact List.not_mem_nil
    · rw [given]
      exact blind_eq (by decide) _
  unfold Admin.listFilter at built
  dsimp only at built
  split_ifs at built
  · exact Except.ok.inj built ▸ byType
  · obtain ⟨test, -, same⟩ := bind_eq_ok.mp built
    rw [← Except.ok.inj same, Filter.keys, List.flatMap_append, List.mem_append, not_or]
    exact ⟨byType, by simp [Condition.keys, Admin.searchFields]⟩

/-- The projection of the list leaves the hashes out. -/
theorem hides_listUsers : Hides (Admin.listUsers rt req) (Admin.listUsers rt req) := by
  unfold Admin.listUsers
  refine hides_ifMongo ?_
  refine .lift_bind fun page _ => ?_
  refine .lift_bind fun perPage _ => ?_
  refine .lift_bind fun filterQuery built => ?_
  have blind := blind_listFilter built
  refine similar_perform blind (fun _ _ => id) fun total => ?_
  refine .lift_bind fun _ _ => ?_
  refine .lift_bind fun _ _ => ?_
  refine .perform_bind blind fun found found' twins => ?_
  rw [map_twins twins fun _ _ twin => twin.withoutHash]
  refine .lift_bind fun users _ => ?_
  split_ifs
  · exact hides_raise _
  · exact hides_pure _

theorem hides_getUser (userId : Nat) :
    Hides (Admin.getUser rt userId) (Admin.getUser rt userId) := by
  unfold Admin.getUser
  refine hides_ifMongo ?_
  refine similar_findOne (blind_eq (by decide) _) (hides_pure _) fun d d' twin => ?_
  dsimp only
  rw [twin.withoutHash]
  exact .lift_bind fun user _ => hides_pure _

/-- The frame around an administrator's change. -/
theorem hides_change {userId : Nat} {body : Prog Response} (hides : Hides body body) :
    Hides (Admin.ifMongo rt "User management not available" (Admin.ifExists userId body))
      (Admin.ifMongo rt "User management not available" (Admin.ifExists userId body)) := by
  refine hides_ifMongo ?_
  unfold Admin.ifExists
  exact similar_findOne (blind_eq (by decide) _) (hides_pure _) fun _ _ _ => hides

theorem hides_setUser (userId : Nat) (update : Fields) (response : Response) :
    Hides (Admin.setUser req userId update response) (Admin.setUser req userId update response) := by
  unfold Admin.setUser
  exact similar_perform (blind_eq (by decide) _) (fun _ _ => id) fun _ => hides_pure _

theorem hides_updateUser (userId : Nat) :
    Hides (Admin.updateUser rt req userId) (Admin.updateUser rt req userId) := by
  unfold Admin.updateUser
  refine .lift_bind fun data _ => ?_
  refine hides_change ?_
  refine .lift_bind fun updateData _ => ?_
  split_ifs
  · exact hides_pure _
  · exact hides_setUser ..

theorem hides_deleteUser (userId : Nat) {d d' : Document} (twin : Twin d d') :
    Hides (Admin.deleteUser rt req d userId) (Admin.deleteUser rt req d' userId) := by
  unfold Admin.deleteUser
  rw [twin.index (by decide)]
  refine hides_change ?_
  refine .lift_bind fun ownId _ => ?_
  split_ifs
  · exact hides_pure _
  · exact hides_setUser ..

theorem hides_activateUser (userId : Nat) :
    Hides (Admin.activateUser rt req userId) (Admin.activateUser rt req userId) := by
  unfold Admin.activateUser
  exact hides_change (hides_setUser ..)

theorem hides_upgradeUser (userId : Nat) :
    Hides (Admin.upgradeUser rt req userId) (Admin.upgradeUser rt req userId) := by
  unfold Admin.upgradeUser
  refine .lift_bind fun data _ => ?_
  refine .lift_bind fun newUserType _ => ?_
  split_ifs
  · split
    · exact hides_pure _
    · exact hides_change (hides_setUser ..)
  · exact hides_pure _

/-- Every endpoint but the search and the two that compare passwords hides the hashes. -/
theorem hides_handler (rt : Runtime) {request : Request} (no_login : request.endpoint ≠ .login)
    (no_change : request.endpoint ≠ .changePassword) (no_search : request.endpoint ≠ .searchUsers) :
    Hides (handler rt request) (handler rt request) := by
  cases plain : request.endpoint.isPlain with
  | true =>
    obtain ⟨body, calls, guarded⟩ := guarded_of_isPlain rt plain
    generalize handler rt request = served at guarded ⊢
    cases guarded with
    | anyone => exact hides_plain calls
    | login => exact hides_jwtRequired fun _ _ _ => hides_plain calls
    | admin => exact hides_adminRequired fun _ _ _ => hides_plain calls
  | false =>
    obtain ⟨endpoint, req⟩ := request
    cases endpoint with
    | register => exact hides_register
    | googleLogin => exact hides_googleLogin
    | getProfile => exact hides_jwtRequired fun _ _ _ => hides_getProfile
    | updateProfile => exact hides_jwtRequired fun _ _ twin => hides_updateProfile twin
    | createUser => exact hides_createUser
    | listUsers => exact hides_adminRequired fun _ _ _ => hides_listUsers
    | getUser userId => exact hides_adminRequired fun _ _ _ => hides_getUser userId
    | updateUser userId => exact hides_adminRequired fun _ _ _ => hides_updateUser userId
    | deleteUser userId => exact hides_adminRequired fun _ _ twin => hides_deleteUser userId twin
    | activateUser userId => exact hides_adminRequired fun _ _ _ => hides_activateUser userId
    | upgradeUser userId => exact hides_adminRequired fun _ _ _ => hides_upgradeUser userId
    | login => exact absurd rfl no_login
    | changePassword => exact absurd rfl no_change
    | searchUsers => exact absurd rfl no_search
    | _ => exact absurd plain.symm Bool.false_ne_true

/-! The search. -/

theorem blind_searchFilter (req : Http) : "password_hash" ∉ (Users.searchFilter req).keys := by
  unfold Users.searchFilter
  rcases req.argFilter_cases "phone" with phone | ⟨phone, -, -, phone_given⟩ <;>
    rcases req.argFilter_cases "pin" with pin | ⟨pin, -, -, pin_given⟩ <;>
    simp_all [Filter.keys, Condition.keys]

/-- The request is a search that selects a document with a password hash. -/
def Request.exposesHash (request : Request) (s : Server) : Prop :=
  request.endpoint = .searchUsers ∧ ∃ d ∈ s.users.docs,
    d.satisfies (Users.searchFilter request.http) = true ∧ (d.get? "password_hash").isSome

/-- The states differ in the users' password hashes only. -/
structure Server.DiffersInHashes (s s' : Server) : Prop where
  users : List.Forall₂ Twin s.users.docs s'.users.docs
  others : ∀ name ≠ .users, s.collection name = s'.collection name
  influencersDb : s.influencersDb = s'.influencersDb
  subscribersDb : s.subscribersDb = s'.subscribersDb

theorem Server.DiffersInHashes.twins {s s' : Server} (differ : s.DiffersInHashes s') :
    s.Twins s' where
  collections name := by
    by_cases users : name = .users
    · subst users
      exact differ.users
    · rw [differ.others name users]
      exact List.forall₂_same.mpr fun d _ => .refl d
  influencersDb := differ.influencersDb
  subscribersDb := differ.subscribersDb

/-! A state with other hashes. -/

/-- One text in place of every password hash. -/
def Document.mask (text : String) (d : Document) : Document :=
  ⟨d.oid, Dict.mask "password_hash" (.str text) d.fields⟩

theorem twin_mask (text : String) (d : Document) : Twin d (d.mask text) :=
  ⟨rfl, Dict.agreeExcept_mask ..⟩

def Collection.mask (text : String) (c : Collection) : Collection where
  docs := c.docs.map (Document.mask text)
  nodup := by
    rw [List.map_map]
    exact c.nodup
  encoded := by
    intro d member
    obtain ⟨old, present, rfl⟩ := List.mem_map.mp member
    have encoded := bsonErrorEntries_none.mp (c.encoded old present)
    rw [bsonErrorEntries_none]
    intro entry listed
    obtain ⟨before, there, rfl⟩ := List.mem_map.mp listed
    refine ⟨(encoded before there).1, ?_⟩
    dsimp only
    split_ifs
    · rfl
    · exact (encoded before there).2

theorem differsInHashes_mask (s : Server) (text : String) :
    s.DiffersInHashes (s.setCollection .users (s.users.mask text)) where
  users := by
    rw [users_setCollection]
    unfold Collection.mask
    rw [List.forall₂_map_right_iff, List.forall₂_same]
    exact fun d _ => twin_mask text d
  others name other := by rw [Server.setCollection_collection, if_neg other]
  influencersDb := rfl
  subscribersDb := rfl

/-- A search that selects a hash answers with it. -/
theorem search_shows_hash {rt : Runtime} {s : Server} {req : Http} {text : String}
    (same : answer rt s ⟨.searchUsers, req⟩ =
      answer rt (s.setCollection .users (s.users.mask text)) ⟨.searchUsers, req⟩)
    {d : Document} (member : d ∈ s.users.docs) (selected : d.satisfies (Users.searchFilter req) = true)
    {hash : Value} (held : d.get? "password_hash" = some hash) :
    hash.mapScalar jsonScalar = .str text := by
  have filtered : (s.users.docs.map (Document.mask text)).filter
      (·.satisfies (Users.searchFilter req)) =
      (s.users.docs.filter (·.satisfies (Users.searchFilter req))).map (Document.mask text) := by
    rw [List.filter_map]
    exact congrArg _ (List.filter_congr fun d _ =>
      ((twin_mask text d).satisfies (blind_searchFilter req)).symm)
  rw [answer_searchUsers, answer_searchUsers, users_setCollection] at same
  simp only [jsonify, Response.mk.injEq, true_and, Value.mapScalar, Value.list.injEq,
    Value.mapScalarList_eq, List.map_map, Collection.mask, filtered] at same
  have here := List.map_inj_left.mp same d (List.mem_filter.mpr ⟨member, selected⟩)
  have entries := Value.dict.inj here
  have shown := congrArg (List.lookup "password_hash") entries
  have masked : (d.mask text).fields.lookup "password_hash" = some (.str text) :=
    Dict.lookup_mask (Option.isSome_of_eq_some held) _
  have stored : d.fields.lookup "password_hash" = some hash := held
  rw [Value.lookup_mapScalarEntries, Value.lookup_mapScalarEntries, masked, stored] at shown
  exact Option.some.inj shown

/-- For every state and every request but a login or a change of password: the answer is the
same in all states that differ in the users' password hashes only, if and only if the request
is no search that selects a document with a hash. -/
theorem password_hashes_confidential_iff (rt : Runtime) (s : Server) {request : Request}
    (no_login : request.endpoint ≠ .login) (no_change : request.endpoint ≠ .changePassword) :
    (∀ s', s.DiffersInHashes s' → answer rt s request = answer rt s' request) ↔
      ¬request.exposesHash s := by
  constructor
  · rintro agree ⟨search, d, member, selected, held⟩
    obtain ⟨endpoint, req⟩ := request
    obtain rfl : endpoint = .searchUsers := search
    obtain ⟨hash, held⟩ := Option.isSome_iff_exists.mp held
    -- Two texts are given away as the same hash.
    have shown : ∀ text, hash.mapScalar jsonScalar = .str text := fun text =>
      search_shows_hash (agree _ (differsInHashes_mask s text)) member selected held
    exact absurd ((shown "").symm.trans (shown "x")) (by simp)
  · intro hidden s' differ
    by_cases search : request.endpoint = .searchUsers
    · obtain ⟨endpoint, req⟩ := request
      obtain rfl : endpoint = .searchUsers := search
      have selected : List.Forall₂ Twin (s.users.docs.filter (·.satisfies (Users.searchFilter req)))
          (s'.users.docs.filter (·.satisfies (Users.searchFilter req))) :=
        filter_twins differ.users (blind_searchFilter req)
      have bare : ∀ d ∈ s.users.docs.filter (·.satisfies (Users.searchFilter req)),
          d.get? "password_hash" = none := by
        intro d member
        obtain ⟨stored, matched⟩ := List.mem_filter.mp member
        by_contra held
        exact hidden ⟨rfl, d, stored, matched, Option.ne_none_iff_isSome.mp held⟩
      rw [answer_searchUsers, answer_searchUsers, eq_of_twins selected bare]
    · obtain ⟨-, same⟩ := (hides_handler rt no_login no_change search).run exec_respects differ.twins
      exact congrArg Outcome.answer same.eq

/-- A registered user asks for her profile. -/
theorem password_hashes_confidential_iff_profile :
    let s := run plainRuntime Server.initial [.registration "sarah@example.com" "s3cret" "user" 0]
    let request := Request.bearing .getProfile "i"
    (∀ s', s.DiffersInHashes s' → answer plainRuntime s request = answer plainRuntime s' request) ↔
      ¬request.exposesHash s :=
  password_hashes_confidential_iff plainRuntime _ (by decide) (by decide)

/-- Anyone can search for all users, and is shown the hash of every account. -/
theorem search_exposes_password_hashes :
    let s := run plainRuntime Server.initial [.registration "sarah@example.com" "s3cret" "user" 0]
    let s' := s.setCollection .users (s.users.mask "other")
    let request : Request := ⟨.searchUsers, .ofEntries none [] rfl 0⟩
    s.DiffersInHashes s' ∧ answer plainRuntime s request ≠ answer plainRuntime s' request := by
  intro s s' request
  exact ⟨differsInHashes_mask s "other", by decide +kernel⟩

end UssdCredit
