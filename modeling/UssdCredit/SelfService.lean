import UssdCredit.Tokens

/-! What users change by themselves: the profile and the password requests with a user's own
token reach the editable fields of that one document, and a refused request reaches nothing. -/

namespace UssdCredit

open Library Program

/-- The fields the two requests may write. -/
def ownFields : List String := Auth.profileFields ++ ["password_hash", "updated_at"]

/-- Every creator of a document with an id writes these fields as well. -/
def Document.IsAccountDocument (d : Document) : Prop :=
  ∀ key ∈ ["email", "first_name", "last_name", "user_type"], (d.get? key).isSome

/-- A profile or password request whose token, if it is accepted, names the user. -/
def OwnRequest (rt : Runtime) (u : Document) (request : Request) : Prop :=
  (request.endpoint = .updateProfile ∨ request.endpoint = .changePassword) ∧
    ∀ userId, Auth.tokenUser rt request.http = some userId → u.get? "id" = some userId

/-- A document with other values in its editable fields. -/
structure OwnChange (u u' : Document) : Prop where
  oid : u'.oid = u.oid
  kept : ∀ key, key ∉ ownFields → u'.get? key = u.get? key

/-- The server after one document was replaced. -/
def Replaces (u u' : Document) (s s' : Server) : Prop :=
  ∃ c, s' = s.setCollection .users c ∧
    c.docs = s.users.docs.map fun d => if d.oid = u.oid then u' else d

variable {rt : Runtime} {req : Http} {s s' : Server} {u u' : Document}

theorem Document.edit_self (update : Fields) (d : Document) :
    d.edit d.oid update = ⟨d.oid, Dict.setAll update d.fields⟩ := if_pos rfl

theorem ownChange_edit {update : Fields} (own : ∀ key ∈ update.map Prod.fst, key ∈ ownFields) :
    OwnChange u (u.edit u.oid update) where
  oid := Document.edit_oid _ _ _
  kept := fun key other => Document.edit_get? (fun written => other (own key written)) _ _

theorem OwnChange.trans {u'' : Document} (first : OwnChange u u') (second : OwnChange u' u'') :
    OwnChange u u'' where
  oid := second.oid.trans first.oid
  kept := fun key other => (second.kept key other).trans (first.kept key other)

theorem OwnChange.id (change : OwnChange u u') : u'.get? "id" = u.get? "id" :=
  change.kept "id" (by decide)

theorem OwnChange.request (change : OwnChange u u') {request : Request}
    (own : OwnRequest rt u request) : OwnRequest rt u' request :=
  ⟨own.1, fun userId named => change.id.trans (own.2 userId named)⟩

/-- An edit adds keys and takes none away. -/
theorem Document.IsAccountDocument.edit (complete : u.IsAccountDocument) (update : Fields) :
    (u.edit u.oid update).IsAccountDocument := by
  intro key listed
  rw [Document.edit_self]
  exact Dict.isSome_lookup_setAll update (complete key listed)

theorem UniqueIds.edit {c c' : Collection} (unique : UniqueIds c) {oid : Nat} {update : Fields}
    (rewritten : c'.docs = c.docs.map (Document.edit oid update))
    (untouched : "id" ∉ update.map Prod.fst) : UniqueIds c' := by
  intro d member d' member' v holds matched
  rw [rewritten, List.mem_map] at member member'
  obtain ⟨old, present, rfl⟩ := member
  obtain ⟨old', present', rfl⟩ := member'
  rw [Document.edit_get? untouched] at holds matched
  rw [unique old present old' present' v holds matched]

/-- The token of a user resolves to the user's document or to none. -/
theorem resolve_own (unique : UniqueIds s.users) (member : u ∈ s.users.docs) {request : Request}
    (own : OwnRequest rt u request) {d : Document}
    (resolved : Auth.resolve rt request.http s.users = some d) : d = u := by
  obtain ⟨present, userId, named, matched⟩ := Auth.resolve_mem resolved
  exact unique u member d present userId (own.2 userId named) matched

/-! One request. -/

theorem profileUser_ok {v : Value} (held : u.get? "id" = some v) (complete : u.IsAccountDocument) :
    ∃ user, Auth.profileUser u = .ok user := by
  have read : ∀ key ∈ ["email", "first_name", "last_name", "user_type"],
      ∃ value, u.index key = .ok value := by
    intro key listed
    obtain ⟨value, stored⟩ := Option.isSome_iff_exists.mp (complete key listed)
    exact ⟨value, Document.index_of_get? stored⟩
  obtain ⟨email, email_read⟩ := read "email" (by decide)
  obtain ⟨firstName, firstName_read⟩ := read "first_name" (by decide)
  obtain ⟨lastName, lastName_read⟩ := read "last_name" (by decide)
  obtain ⟨userType, userType_read⟩ := read "user_type" (by decide)
  unfold Auth.profileUser
  rw [Document.index_of_get? held, email_read, firstName_read, lastName_read, userType_read]
  exact ⟨_, rfl⟩

/-- Nothing can fail between the update of a profile and its response: the document is found
again under the id it kept. -/
theorem post_updateProfile_answers (unique : UniqueIds s.users) (member : u ∈ s.users.docs)
    (complete : u.IsAccountDocument) :
    Post exec (Auth.updateProfile req u) s fun outcome s' =>
      s' = s ∨ ∃ body, outcome = .ok (jsonify 200 body) := by
  unfold Auth.updateProfile
  refine post_lift_bind (fun e _ => .inl rfl) fun data _ => ?_
  refine post_lift_bind (fun e _ => .inl rfl) fun updateData collected => ?_
  split_ifs
  · exact post_pure (.inl rfl)
  · refine post_lift_bind (fun e _ => .inl rfl) fun userId id_stored => ?_
    refine post_updateOne (fun e => .inl rfl) fun c updated => ?_
    have held : u.get? "id" = some userId := Document.index_ok id_stored
    have untouched : "id" ∉ (updateData ++ [("updated_at", req.utcnow)]).map Prod.fst := by
      intro written
      rw [List.map_append, List.mem_append] at written
      rcases written with given | last
      · have listed := (Value.collectFields_keys collected).subset given
        exact absurd listed (by decide)
      · simp at last
    have rewritten := Collection.updateOne_found (unique.first?_id member held) updated
    have moved : u.edit u.oid (updateData ++ [("updated_at", req.utcnow)]) ∈ c.docs :=
      rewritten ▸ List.mem_map_of_mem member
    have held' := (Document.edit_get? untouched u.oid u).trans held
    have again : ((s.setCollection .users c).collection .users).first? [.eq "id" userId] = some _ :=
      (unique.edit rewritten untouched).first?_id moved held'
    obtain ⟨user, answered⟩ := profileUser_ok held' (complete.edit _)
    have encodes : Filter.bsonError [.eq "id" userId] = none := by
      simp [Filter.bsonError, Collection.bsonError_get? member held]
    apply post_findOne
    · intro e refused
      cases refused.symm.trans encodes
    · intro _
      rw [again]
      apply post_lift_bind
      · intro e refused
        cases refused.symm.trans answered
      · exact fun user _ => post_pure (.inr ⟨_, rfl⟩)

/-- What one request leaves: nothing changed, or it was answered 200 after one update. -/
def OwnStep (u : Document) (s : Server) (outcome : Outcome) (s' : Server) : Prop :=
  s' = s ∨ (Outcome.answer outcome).status = 200 ∧ ∃ (update : Fields) (c : Collection),
    (∀ key ∈ update.map Prod.fst, key ∈ ownFields) ∧ s' = s.setCollection .users c ∧
    c.docs = s.users.docs.map (Document.edit u.oid update)

theorem ownStep_written {userId : Value} {update : Fields} {c : Collection} {response : Response}
    (unique : UniqueIds s.users) (member : u ∈ s.users.docs) (id_stored : u.index "id" = .ok userId)
    (listed : ∀ key ∈ update.map Prod.fst, key ∈ ownFields) (succeeded : response.status = 200)
    (written : s.users.updateOne [.eq "id" userId] update = .ok c) :
    OwnStep u s (.ok response) (s.setCollection .users c) := by
  have found := unique.first?_id member (Document.index_ok id_stored)
  exact .inr ⟨succeeded, update, c, listed, rfl, Collection.updateOne_found found written⟩

theorem post_updateProfile_own (unique : UniqueIds s.users) (member : u ∈ s.users.docs)
    (complete : u.IsAccountDocument) : Post exec (Auth.updateProfile req u) s (OwnStep u s) := by
  rcases @post_updateProfile_answers req s u unique member complete with same | ⟨body, answered⟩
  · exact .inl same
  · rcases @Auth.post_updateProfile req u s with
      same | ⟨userId, update, c, id_stored, listed, written, moved⟩
    · exact .inl same
    · unfold Post
      rw [answered, moved]
      refine ownStep_written unique member id_stored (fun key given => ?_) rfl written
      have allowed := listed key given
      simp only [ownFields, List.mem_append, List.mem_cons] at allowed ⊢
      tauto

theorem post_changePassword_own (unique : UniqueIds s.users) (member : u ∈ s.users.docs) :
    Post exec (Auth.changePassword rt req u) s (OwnStep u s) := by
  rcases @Auth.post_changePassword rt req u s with ⟨same, -⟩ | ⟨p, c, written, moved, answered⟩
  · exact .inl same
  · unfold Post
    rw [answered, moved]
    refine ownStep_written unique member p.id_stored (fun key given => ?_) rfl written
    simp only [Auth.PasswordChange.update, List.map_cons, List.map_nil] at given
    exact List.mem_append_right _ given

theorem ownRequest_step (unique : UniqueIds s.users) (member : u ∈ s.users.docs)
    (complete : u.IsAccountDocument) {request : Request} (own : OwnRequest rt u request) :
    OwnStep u s ((handler rt request).serve s).1 (step rt s request) := by
  have guard : ∀ view, Post exec (view u) s (OwnStep u s) →
      Post exec (Auth.jwtRequired rt request.http view) s (OwnStep u s) :=
    fun view enters => Auth.post_jwtRequired (fun _ _ => .inl rfl) fun d resolved _ =>
      resolve_own unique member own resolved ▸ enters
  obtain ⟨endpoint, http⟩ := request
  rcases own.1 with rfl | rfl
  · exact guard _ (post_updateProfile_own unique member complete)
  · exact guard _ (post_changePassword_own unique member)

/-- An edit replaces the one document with the ObjectId. -/
theorem replaces_edit {update : Fields} {c : Collection} (member : u ∈ s.users.docs)
    (rewritten : c.docs = s.users.docs.map (Document.edit u.oid update)) :
    Replaces u (u.edit u.oid update) s (s.setCollection .users c) := by
  refine ⟨c, rfl, ?_⟩
  rw [rewritten]
  apply List.map_congr_left
  intro d present
  by_cases same : d.oid = u.oid
  · rw [if_pos same, Collection.eq_of_oid present member same]
  · rw [if_neg same, Document.edit_other update same]

/-! Runs. -/

theorem replaces_refl (member : u ∈ s.users.docs) : Replaces u u s s := by
  refine ⟨s.users, ?_, ?_⟩
  · cases s
    simp only [Server.setCollection, Server.mk.injEq, and_true]
    funext name
    split_ifs with users
    · rw [users]
    · rfl
  · have same : ∀ d ∈ s.users.docs, (if d.oid = u.oid then u else d) = d := by
      intro d present
      split_ifs with here
      · exact (Collection.eq_of_oid present member here).symm
      · rfl
    rw [List.map_congr_left same, List.map_id']

theorem Replaces.trans {u'' : Document} {s'' : Server} (same : u'.oid = u.oid)
    (first : Replaces u u' s s') (second : Replaces u' u'' s' s'') : Replaces u u'' s s'' := by
  obtain ⟨c, rfl, docs⟩ := first
  obtain ⟨c', rfl, docs'⟩ := second
  refine ⟨c', ?_, ?_⟩
  · simp only [Server.setCollection, Server.mk.injEq, and_true]
    funext name
    split_ifs <;> rfl
  · have now : (s.setCollection .users c).users.docs =
        s.users.docs.map fun d => if d.oid = u.oid then u' else d := docs
    rw [docs', now, List.map_map]
    apply List.map_congr_left
    intro d _
    by_cases here : d.oid = u.oid
    · simp [here, same]
    · simp [here, same]

/-- For a collection whose ids are distinct and a user with the fields an account is created
with, any run of profile and password requests with the user's own tokens rewrites at most the
editable fields of that document and nothing else, and each request that is not answered 200
changes nothing. -/
theorem self_service_touches_own_fields (rt : Runtime) (s : Server) (u : Document)
    (requests : List Request) (unique : UniqueIds s.users) (member : u ∈ s.users.docs)
    (complete : u.IsAccountDocument) (own : ∀ request ∈ requests, OwnRequest rt u request) :
    (∃ u', OwnChange u u' ∧ Replaces u u' s (run rt s requests)) ∧
      AllSteps (step rt) (fun s request => (answer rt s request).status ≠ 200 →
        step rt s request = s) s requests := by
  induction requests generalizing s u with
  | nil => exact ⟨⟨u, ⟨rfl, fun _ _ => rfl⟩, replaces_refl member⟩, trivial⟩
  | cons request rest ih =>
    have later : ∀ other ∈ rest, OwnRequest rt u other :=
      fun other present => own other (List.mem_cons_of_mem _ present)
    have stepped := ownRequest_step unique member complete (own request (List.mem_cons_self ..))
    rcases stepped with same | ⟨answered, update, c, listed, state, rewritten⟩
    · have rested := ih s u unique member complete later
      change (∃ u', OwnChange u u' ∧ Replaces u u' s (run rt (step rt s request) rest)) ∧
        ((answer rt s request).status ≠ 200 → step rt s request = s) ∧
          AllSteps (step rt) _ (step rt s request) rest
      rw [same]
      exact ⟨rested.1, fun _ => rfl, rested.2⟩
    · have change := ownChange_edit (u := u) listed
      have moved : u.edit u.oid update ∈ c.docs := rewritten ▸ List.mem_map_of_mem member
      have fixed : "id" ∉ update.map Prod.fst := fun written => absurd (listed _ written) (by decide)
      obtain ⟨⟨u', further, replaced⟩, rested⟩ := ih (s.setCollection .users c) _
        (unique.edit rewritten fixed) moved (complete.edit update)
        fun other present => change.request (later other present)
      have first := replaces_edit member rewritten
      rw [← state] at replaced rested first
      exact ⟨⟨u', change.trans further, first.trans change.oid replaced⟩,
        fun refused => absurd answered refused, rested⟩

/-- A registered user changes the name, with a user type that is ignored, and the password. -/
theorem self_service_touches_own_fields_registered :
    let s := run plainRuntime Server.initial [.registration "sarah@example.com" "s3cret" "user" 0]
    let u : Document := s.users.docs.headD ⟨0, []⟩
    let requests : List Request := [
      ⟨.updateProfile, .ofEntries (some "Bearer i")
        [("first_name", .str " Wanjiku "), ("user_type", .str "admin")] rfl 0⟩,
      ⟨.changePassword, .ofEntries (some "Bearer i")
        [("current_password", .str "s3cret"), ("new_password", .str "n3w")] rfl 0⟩]
    (∃ u', OwnChange u u' ∧ Replaces u u' s (run plainRuntime s requests)) ∧
      AllSteps (step plainRuntime) (fun s request => (answer plainRuntime s request).status ≠ 200 →
        step plainRuntime s request = s) s requests := by
  intro s u requests
  have unique := (run_identified plainRuntime identified_initial
    [.registration "sarah@example.com" "s3cret" "user" 0]).uniqueIds
  have member : u ∈ s.users.docs := by decide +kernel
  have id : u.get? "id" = some (.int 1) := by decide +kernel
  have complete : u.IsAccountDocument := by
    unfold Document.IsAccountDocument
    decide +kernel
  have named : ∀ request ∈ requests,
      Auth.tokenUser plainRuntime request.http = some (.int 1) := by decide +kernel
  refine self_service_touches_own_fields plainRuntime s u requests unique member complete ?_
  intro request listed
  refine ⟨?_, fun userId token => ?_⟩
  · rcases List.mem_cons.mp listed with rfl | last
    · exact .inl rfl
    · rw [List.mem_singleton.mp last]
      exact .inr rfl
  · rw [id, ← token, named request listed]

end UssdCredit
