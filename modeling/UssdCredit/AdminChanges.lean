import UssdCredit.Effects

/-! The four changes an administrator makes to a user: exactly when one goes through, and
what it then does to the users collection. -/

namespace UssdCredit

open Library Program

/-- What a request of an administrator asks to write, besides the time. -/
def Request.change (request : Request) : Option Fields :=
  match request.endpoint with
  | .updateUser _ =>
      match request.http.getJson with
      | .error _ => none
      | .ok data =>
          match data.collectFields (fun value => value) Admin.userFields with
          | .error _ => none
          | .ok update => if update.isEmpty then none else some update
  | .upgradeUser _ =>
      match request.http.getJson with
      | .error _ => none
      | .ok data =>
          match data.pyGet "user_type" .null with
          | .ok (.str userType) =>
              if userType ∈ Admin.validTypes then some [("user_type", .str userType)] else none
          | _ => none
  | .deleteUser _ => some [("is_active", .bool false), ("is_suspended", .bool true)]
  | .activateUser _ => some [("is_active", .bool true), ("is_suspended", .bool false)]
  | _ => none

/-- A change that goes through. -/
structure AdminChange (rt : Runtime) (request : Request) (users : Collection) where
  currentUser : Document
  userId : Nat
  target : Document
  change : Fields
  resolved : Auth.resolve rt request.http users = some currentUser
  active : Auth.isActive currentUser = true
  admin : Auth.isAdmin currentUser = true
  available : rt.mongoTruth = .ok true
  named : request.endpoint.target = some userId
  reachable : encodeInt userId = none
  found : users.first? [.eq "id" (.int userId)] = some target
  spared : request.endpoint = .deleteUser userId →
    ∃ ownId, currentUser.index "id" = .ok ownId ∧ (Value.int userId).pyEq ownId = false
  asked : request.change = some change
  encodes : Value.bsonErrorEntries (change ++ [("updated_at", request.http.utcnow)]) = none

def AdminChange.update {rt : Runtime} {request : Request} {users : Collection}
    (a : AdminChange rt request users) : Fields := a.change ++ [("updated_at", request.http.utcnow)]

namespace Admin

variable {rt : Runtime} {req : Http} {s : Server}

/-! The frame around a change. -/

theorem run_ifMongo (available : rt.mongoTruth = .ok true) (unavailable : String) (body : Prog Response) :
    (ifMongo rt unavailable body).run exec s = body.run exec s := by
  unfold ifMongo
  rw [run_lift_bind exec available, if_pos rfl]

theorem idFilter_encodes (userId : Nat) :
    Filter.bsonError [.eq "id" (.int userId)] = encodeInt userId := by
  cases reachable : encodeInt userId <;> simp [Filter.bsonError, Value.bsonError, reachable]

theorem run_ifExists {userId : Nat} (reachable : encodeInt userId = none) {d : Document}
    (found : s.users.first? [.eq "id" (.int userId)] = some d) (body : Prog Response) :
    (ifExists userId body).run exec s = body.run exec s := by
  unfold ifExists
  rw [run_findOne ((idFilter_encodes userId).trans reachable), found]

theorem run_setUser {userId : Nat} {change : Fields} {c : Collection}
    (written : s.users.updateOne [.eq "id" (.int userId)] (change ++ [("updated_at", req.utcnow)]) = .ok c)
    (response : Response) :
    ((setUser req userId change response).run exec s).2 = s.setCollection .users c := by
  unfold setUser
  rw [run_updateOne written]
  rfl

theorem post_frame {Q : Outcome → Server → Prop} {unavailable : String} {userId : Nat}
    {body : Prog Response} (refused : ∀ outcome, Q outcome s)
    (entered : rt.mongoTruth = .ok true → encodeInt userId = none →
      ∀ d, s.users.first? [.eq "id" (.int userId)] = some d → Post exec body s Q) :
    Post exec (ifMongo rt unavailable (ifExists userId body)) s Q := by
  unfold ifMongo
  refine post_lift_bind (fun _ _ => refused _) fun available given => ?_
  split_ifs with there
  · subst there
    unfold ifExists
    refine post_findOne (fun _ _ => refused _) fun encodes => ?_
    split
    · exact post_pure (refused _)
    · next d found => exact entered given ((idFilter_encodes userId).symm.trans encodes) d found
  · exact post_pure (refused _)

end Admin

section Changes

variable {rt : Runtime} {request : Request} {s : Server}

/-- What a request of an administrator ends with: nothing is changed, or a change went through. -/
def Changed (rt : Runtime) (request : Request) (s : Server) : Outcome → Server → Prop :=
  fun _ s' => s' = s ∨ ∃ (a : AdminChange rt request s.users) (c : Collection),
    s.users.updateOne [.eq "id" (.int a.userId)] a.update = .ok c ∧ s' = s.setCollection .users c

theorem changed_setUser {userId : Nat} {change : Fields} {response : Response}
    (complete : Value.bsonErrorEntries (change ++ [("updated_at", request.http.utcnow)]) = none →
      ∃ a : AdminChange rt request s.users, a.userId = userId ∧ a.change = change) :
    Post exec (Admin.setUser request.http userId change response) s (Changed rt request s) := by
  unfold Admin.setUser
  refine post_updateOne (fun _ => .inl rfl) fun c written => post_pure (.inr ?_)
  obtain ⟨a, rfl, rfl⟩ := complete ((Collection.updateOne_sent written).2)
  exact ⟨a, c, written, rfl⟩

/-- The four handlers end that way. -/
theorem changed_handler (target : request.endpoint.target.isSome) :
    Post exec (handler rt request) s (Changed rt request s) := by
  have refused : ∀ outcome : Outcome, Changed rt request s outcome s := fun _ => .inl rfl
  obtain ⟨endpoint, req⟩ := request
  cases endpoint with
  | updateUser userId =>
    refine Auth.post_adminRequired (fun _ _ => refused _) fun currentUser resolved active admin => ?_
    refine post_lift_bind (fun _ _ => refused _) fun data parsed => ?_
    refine Admin.post_frame refused fun available reachable d found => ?_
    refine post_lift_bind (fun _ _ => refused _) fun update collected => ?_
    split_ifs with none
    · exact post_pure (refused _)
    · have asked : Request.change ⟨.updateUser userId, req⟩ = some update := by
        simp only [Request.change, parsed, collected, if_neg none]
      exact changed_setUser fun encodes => ⟨⟨currentUser, userId, d, update, resolved, active, admin,
        available, rfl, reachable, found, nofun, asked, encodes⟩, rfl, rfl⟩
  | upgradeUser userId =>
    refine Auth.post_adminRequired (fun _ _ => refused _) fun currentUser resolved active admin => ?_
    refine post_lift_bind (fun _ _ => refused _) fun data parsed => ?_
    refine post_lift_bind (fun _ _ => refused _) fun newUserType given => ?_
    split_ifs with present
    · split
      · exact post_pure (refused _)
      · next userType valid =>
        have named : newUserType = .str userType :=
          Value.eq_of_str_pyEq (by simpa using List.find?_some valid)
        subst named
        refine Admin.post_frame refused fun available reachable d found => ?_
        have asked : Request.change ⟨.upgradeUser userId, req⟩ = some [("user_type", .str userType)] := by
          simp only [Request.change, parsed, given, if_pos (List.mem_of_find?_eq_some valid)]
        exact changed_setUser fun encodes => ⟨⟨currentUser, userId, d, _, resolved, active, admin,
          available, rfl, reachable, found, nofun, asked, encodes⟩, rfl, rfl⟩
    · exact post_pure (refused _)
  | deleteUser userId =>
    refine Auth.post_adminRequired (fun _ _ => refused _) fun currentUser resolved active admin => ?_
    refine Admin.post_frame refused fun available reachable d found => ?_
    refine post_lift_bind (fun _ _ => refused _) fun ownId stored => ?_
    split_ifs with own
    · exact post_pure (refused _)
    · exact changed_setUser fun encodes => ⟨⟨currentUser, userId, d, _, resolved, active, admin,
        available, rfl, reachable, found, fun _ => ⟨ownId, stored, by simpa using own⟩, rfl, encodes⟩,
        rfl, rfl⟩
  | activateUser userId =>
    refine Auth.post_adminRequired (fun _ _ => refused _) fun currentUser resolved active admin => ?_
    refine Admin.post_frame refused fun available reachable d found => ?_
    exact changed_setUser fun encodes => ⟨⟨currentUser, userId, d, _, resolved, active, admin,
      available, rfl, reachable, found, nofun, rfl, encodes⟩, rfl, rfl⟩
  | _ => cases target

/-! A change that goes through takes effect. -/

theorem AdminChange.written (a : AdminChange rt request s.users) :
    ∃ c, s.users.updateOne [.eq "id" (.int a.userId)] a.update = .ok c ∧
      c.docs = s.users.docs.map (Document.edit a.target.oid a.update) :=
  Collection.updateOne_modifies ((Admin.idFilter_encodes _).trans a.reachable) a.encodes a.found

/-- The upgrade view comes to its update. -/
theorem run_upgradeUser {req : Http} {userId : Nat} {change : Fields}
    (asked : Request.change ⟨.upgradeUser userId, req⟩ = some change) (s : Server) :
    ∃ response, (Admin.upgradeUser rt req userId).run exec s =
      (Admin.ifMongo rt "User management not available"
        (Admin.ifExists userId (Admin.setUser req userId change response))).run exec s := by
  unfold Request.change at asked
  dsimp only at asked
  split at asked
  · cases asked
  · next data parsed =>
    split at asked
    · next userType given =>
      split_ifs at asked with valid
      have there : (Admin.validTypes.find? fun t => (Value.str t).pyEq (.str userType)) = some userType := by
        simp only [Admin.validTypes, List.mem_cons, List.not_mem_nil, or_false] at valid ⊢
        rcases valid with rfl | rfl | rfl | rfl <;> decide
      have present : (Value.str userType).truthy = true := by
        simp only [Admin.validTypes, List.mem_cons, List.not_mem_nil, or_false] at valid
        rcases valid with rfl | rfl | rfl | rfl <;> decide
      unfold Admin.upgradeUser
      rw [run_lift_bind exec parsed, run_lift_bind exec given, if_pos present, there,
        ← Option.some.inj asked]
      exact ⟨_, rfl⟩
    · cases asked

theorem run_updateUser {req : Http} {userId : Nat} {change : Fields}
    (asked : Request.change ⟨.updateUser userId, req⟩ = some change)
    (available : rt.mongoTruth = .ok true) (reachable : encodeInt userId = none) {s : Server}
    {d : Document} (found : s.users.first? [.eq "id" (.int userId)] = some d) :
    ∃ response, (Admin.updateUser rt req userId).run exec s =
      (Admin.setUser req userId change response).run exec s := by
  unfold Request.change at asked
  dsimp only at asked
  split at asked
  · cases asked
  · next data parsed =>
    split at asked
    · cases asked
    · next update collected =>
      split_ifs at asked with none
      unfold Admin.updateUser
      rw [run_lift_bind exec parsed, Admin.run_ifMongo available, Admin.run_ifExists reachable found,
        run_lift_bind exec collected, if_neg none, ← Option.some.inj asked]
      exact ⟨_, rfl⟩

theorem AdminChange.step (a : AdminChange rt request s.users) {c : Collection}
    (written : s.users.updateOne [.eq "id" (.int a.userId)] a.update = .ok c) :
    step rt s request = s.setCollection .users c := by
  obtain ⟨currentUser, userId, target, change, resolved, active, admin, available, named, reachable,
    found, spared, asked, encodes⟩ := a
  have set : ∀ response, ((Admin.setUser request.http userId change response).run exec s).2 =
      s.setCollection .users c := Admin.run_setUser written
  obtain ⟨endpoint, req⟩ := request
  cases endpoint with
  | updateUser id =>
    obtain rfl := Option.some.inj named
    change ((Auth.adminRequired rt req fun _ => Admin.updateUser rt req id).run exec s).2 = _
    obtain ⟨response, ran⟩ := run_updateUser asked available reachable found
    rw [Auth.run_adminRequired_admin resolved active admin, ran]
    exact set response
  | upgradeUser id =>
    obtain rfl := Option.some.inj named
    change ((Auth.adminRequired rt req fun _ => Admin.upgradeUser rt req id).run exec s).2 = _
    obtain ⟨response, ran⟩ := run_upgradeUser asked s
    rw [Auth.run_adminRequired_admin resolved active admin, ran, Admin.run_ifMongo available,
      Admin.run_ifExists reachable found]
    exact set response
  | deleteUser id =>
    obtain rfl := Option.some.inj named
    obtain ⟨ownId, stored, other⟩ := spared rfl
    change ((Auth.adminRequired rt req fun currentUser =>
      Admin.deleteUser rt req currentUser id).run exec s).2 = _
    rw [Auth.run_adminRequired_admin resolved active admin, Admin.deleteUser,
      Admin.run_ifMongo available, Admin.run_ifExists reachable found, run_lift_bind exec stored,
      if_neg (by simp [other])]
    obtain rfl := Option.some.inj asked
    exact set _
  | activateUser id =>
    obtain rfl := Option.some.inj named
    change ((Auth.adminRequired rt req fun _ => Admin.activateUser rt req id).run exec s).2 = _
    rw [Auth.run_adminRequired_admin resolved active admin, Admin.activateUser,
      Admin.run_ifMongo available, Admin.run_ifExists reachable found]
    obtain rfl := Option.some.inj asked
    exact set _
  | _ => cases named

theorem change_keys {change : Fields} (asked : request.change = some change) :
    (change.map Prod.fst).Sublist Admin.userFields := by
  unfold Request.change at asked
  split at asked
  · split at asked
    · cases asked
    · split at asked
      · cases asked
      · next collected =>
        split_ifs at asked
        rw [← Option.some.inj asked]
        exact Value.collectFields_keys collected
  · split at asked
    · cases asked
    · split at asked
      · split_ifs at asked
        rw [← Option.some.inj asked]
        exact List.singleton_sublist.mpr (by simp [Admin.userFields])
      · cases asked
  · rw [← Option.some.inj asked]
    decide
  · rw [← Option.some.inj asked]
    decide
  · cases asked

/-- After a change the target holds what the change says, and otherwise what it held. -/
theorem AdminChange.get?_edit (a : AdminChange rt request s.users) {key : String}
    (other : key ≠ "updated_at") : (a.target.edit a.target.oid a.update).get? key =
      (a.change.lookup key).or (a.target.get? key) := by
  have whitelist : (Admin.userFields ++ ["updated_at"]).Nodup := by decide
  have distinct : (a.update.map Prod.fst).Nodup := by
    unfold AdminChange.update
    rw [List.map_append]
    exact whitelist.sublist ((change_keys a.asked).append (List.Sublist.refl _))
  rw [Document.edit_self_get?, Dict.lookup_setAll_of_nodup distinct, AdminChange.update,
    List.lookup_append, Dict.lookup_cons, if_neg other, List.lookup_nil, Option.or_none]
  rfl

/-- A request goes through in one way at most. -/
theorem AdminChange.unique {users : Collection} (a b : AdminChange rt request users) :
    a.target = b.target ∧ a.change = b.change := by
  have id : a.userId = b.userId := Option.some.inj (a.named.symm.trans b.named)
  have target := a.found
  rw [id] at target
  exact ⟨Option.some.inj (target.symm.trans b.found), Option.some.inj (a.asked.symm.trans b.asked)⟩

/-- What a request of an administrator does to the users: nothing, or its change. -/
theorem adminChange_docs (a : AdminChange rt request s.users) :
    (UssdCredit.step rt s request).users.docs =
      s.users.docs.map (Document.edit a.target.oid a.update) := by
  obtain ⟨c, written, rewritten⟩ := a.written
  rw [a.step written, users_setCollection, rewritten]

theorem unchanged_or_adminChange (target : request.endpoint.target.isSome) :
    (UssdCredit.step rt s request).users = s.users ∨ Nonempty (AdminChange rt request s.users) := by
  rcases @changed_handler rt request s target with same | ⟨a, -⟩
  · exact .inl (congrArg Server.users same)
  · exact .inr ⟨a⟩

end Changes

end UssdCredit
