import UssdCredit.Guards

/-! What the other writing routes do to the users collection: the profile and the password
of the caller, the changes by an administrator, and the creation of a contact. -/

namespace UssdCredit

open Library Program

variable {rt : Runtime} {req : Http}

/-- The outcome of a view that updates the user with an id: it is refused and changes
nothing, or one update of the allowed kind was made. -/
inductive UserUpdate (userId : Value) (allowed : Fields → Prop) (s : Server) :
    Outcome → Server → Prop where
  | refused {outcome : Outcome} (refusal : IsRefusal outcome) : UserUpdate userId allowed s outcome s
  | updated {outcome : Outcome} {d : Document} {update : Fields} {c : Collection}
      (found : s.users.first? [.eq "id" userId] = some d) (kind : allowed update)
      (written : s.users.updateOne [.eq "id" userId] update = .ok c) :
      UserUpdate userId allowed s outcome (s.setCollection .users c)

namespace Auth

/-- The password change a request asks for, on the document it is checked against. -/
structure PasswordChange (rt : Runtime) (req : Http) (currentUser : Document)
    (users : Collection) where
  data : Value
  newPassword : String
  userId : Value
  userDoc : Document
  parsed : req.getJson = .ok data
  given : data.pyIndex "new_password" = .ok (.str newPassword)
  id_stored : currentUser.index "id" = .ok userId
  found : users.first? [.eq "id" userId] = some userDoc

def PasswordChange.update {currentUser : Document} {users : Collection}
    (p : PasswordChange rt req currentUser users) : Fields :=
  [("password_hash", .str (rt.hash req.salt p.newPassword)), ("updated_at", req.utcnow)]

/-- A password is changed and the answer is 200, or the request is refused. -/
theorem post_changePassword (currentUser : Document) (s : Server) :
    Post exec (changePassword rt req currentUser) s fun outcome s' =>
      (s' = s ∧ IsRefusal outcome) ∨
      ∃ (p : PasswordChange rt req currentUser s.users) (c : Collection),
        s.users.updateOne [.eq "id" p.userId] p.update = .ok c ∧
        s' = s.setCollection .users c ∧
        outcome = .ok (message 200 "Password changed successfully") := by
  unfold changePassword
  refine post_lift_bind (fun e _ => .inl ⟨rfl, isRefusal_error _⟩) fun data parsed => ?_
  refine post_lift_bind (fun e _ => .inl ⟨rfl, isRefusal_error _⟩) fun missing _ => ?_
  cases missing with
  | some field => exact post_pure (.inl ⟨rfl, isRefusal_message (by decide) _⟩)
  | none =>
    refine post_lift_bind (fun e _ => .inl ⟨rfl, isRefusal_error _⟩) fun currentPassword _ => ?_
    refine post_lift_bind (fun e _ => .inl ⟨rfl, isRefusal_error _⟩) fun newPassword given => ?_
    refine post_lift_bind (fun e _ => .inl ⟨rfl, isRefusal_error _⟩) fun userId id_stored => ?_
    refine post_findOne (fun e _ => .inl ⟨rfl, isRefusal_error _⟩) fun _ => ?_
    split
    · exact post_pure (.inl ⟨rfl, isRefusal_message (by decide) _⟩)
    · next userDoc found =>
      refine post_lift_bind (fun e _ => .inl ⟨rfl, isRefusal_error _⟩) fun pwhash _ => ?_
      refine post_lift_bind (fun e _ => .inl ⟨rfl, isRefusal_error _⟩) fun correct _ => ?_
      split_ifs
      · refine post_lift_bind (fun e _ => .inl ⟨rfl, isRefusal_error _⟩) fun pwhash hashed => ?_
        obtain ⟨text, rfl, rfl⟩ := generatePasswordHash_ok hashed
        let p : PasswordChange rt req currentUser s.users :=
          ⟨data, text, userId, userDoc, parsed, given, id_stored, found⟩
        refine post_updateOne (fun e => .inl ⟨rfl, isRefusal_error _⟩) fun c updated => post_pure ?_
        exact .inr ⟨p, c, updated, rfl, rfl⟩
      · exact post_pure (.inl ⟨rfl, isRefusal_message (by decide) _⟩)

theorem post_updateProfile (currentUser : Document) (s : Server) :
    Post exec (updateProfile req currentUser) s fun _ s' =>
      s' = s ∨ ∃ userId update c, currentUser.index "id" = .ok userId ∧
        (∀ key ∈ update.map Prod.fst, key ∈ profileFields ++ ["updated_at"]) ∧
        s.users.updateOne [.eq "id" userId] update = .ok c ∧ s' = s.setCollection .users c := by
  unfold updateProfile
  refine post_lift_bind (fun e _ => .inl rfl) fun data _ => ?_
  refine post_lift_bind (fun e _ => .inl rfl) fun updateData collected => ?_
  split_ifs
  · exact post_pure (.inl rfl)
  · refine post_lift_bind (fun e _ => .inl rfl) fun userId id_stored => ?_
    refine post_updateOne (fun e => .inl rfl) fun c updated => ?_
    have keys : ∀ key ∈ (updateData ++ [("updated_at", req.utcnow)]).map Prod.fst,
        key ∈ profileFields ++ ["updated_at"] := by
      intro key member
      rw [List.map_append, List.mem_append] at member
      rcases member with given | last
      · obtain ⟨entry, present, rfl⟩ := List.mem_map.mp given
        exact List.mem_append_left _ (Value.collectFields_spec collected entry present).1
      · exact List.mem_append_right _ last
    have done : s.setCollection .users c = s ∨ ∃ userId update c', currentUser.index "id" = .ok userId ∧
        (∀ key ∈ update.map Prod.fst, key ∈ profileFields ++ ["updated_at"]) ∧
        s.users.updateOne [.eq "id" userId] update = .ok c' ∧
        s.setCollection .users c = s.setCollection .users c' :=
      .inr ⟨userId, _, c, id_stored, keys, updated, rfl⟩
    refine post_findOne (fun e _ => done) fun _ => ?_
    split
    · exact done
    · exact post_lift_bind (fun e _ => done) fun user _ => post_pure done

end Auth

namespace Admin

variable {Q : Outcome → Server → Prop} {s : Server} {body : Prog Response}

theorem post_ifMongo {unavailable : String} (refused : ∀ e, Q (.error e) s)
    (unread : Q (.ok (message 500 unavailable)) s) (entered : Post exec body s Q) :
    Post exec (ifMongo rt unavailable body) s Q := by
  unfold ifMongo
  refine post_lift_bind (fun e _ => refused e) fun available _ => ?_
  split_ifs
  · exact entered
  · exact post_pure unread

theorem post_ifExists {userId : Nat} (refused : ∀ e, Q (.error e) s)
    (unknown : Q (.ok (message 404 "User not found")) s)
    (entered : ∀ d, s.users.first? [.eq "id" (.int userId)] = some d → Post exec body s Q) :
    Post exec (ifExists userId body) s Q := by
  unfold ifExists
  refine post_findOne (fun e _ => refused e) fun _ => ?_
  split
  · exact post_pure unknown
  · next d found => exact entered d found

/-- The frame around a change: the database is there and the user exists. -/
theorem post_change {userId : Nat} {allowed : Fields → Prop}
    (entered : ∀ d, s.users.first? [.eq "id" (.int userId)] = some d →
      Post exec body s (UserUpdate (.int userId) allowed s)) :
    Post exec (ifMongo rt "User management not available" (ifExists userId body)) s
      (UserUpdate (.int userId) allowed s) :=
  post_ifMongo (fun _ => .refused (isRefusal_error _)) (.refused (isRefusal_message (by decide) _))
    (post_ifExists (fun _ => .refused (isRefusal_error _))
      (.refused (isRefusal_message (by decide) _)) entered)

theorem post_setUser {userId : Nat} {d : Document} {update : Fields} {response : Response}
    {allowed : Fields → Prop} (found : s.users.first? [.eq "id" (.int userId)] = some d)
    (kind : allowed (update ++ [("updated_at", req.utcnow)])) :
    Post exec (setUser req userId update response) s (UserUpdate (.int userId) allowed s) := by
  unfold setUser
  exact post_updateOne (fun e => .refused (isRefusal_error _)) fun c written =>
    post_pure (.updated found kind written)

theorem post_deleteUser (currentUser : Document) (userId : Nat) :
    Post exec (deleteUser rt req currentUser userId) s
      (UserUpdate (.int userId) (· = [("is_active", .bool false), ("is_suspended", .bool true),
        ("updated_at", req.utcnow)]) s) := by
  unfold deleteUser
  refine post_change fun d found => ?_
  refine post_lift_bind (fun e _ => .refused (isRefusal_error _)) fun ownId _ => ?_
  split_ifs
  · exact post_pure (.refused (isRefusal_message (by decide) _))
  · exact post_setUser found rfl

theorem post_activateUser (userId : Nat) :
    Post exec (activateUser rt req userId) s
      (UserUpdate (.int userId) (· = [("is_active", .bool true), ("is_suspended", .bool false),
        ("updated_at", req.utcnow)]) s) := by
  unfold activateUser
  exact post_change fun d found => post_setUser found rfl

/-- An upgrade writes one of the valid types, and the request names it. -/
theorem post_upgradeUser (userId : Nat) :
    Post exec (upgradeUser rt req userId) s
      (UserUpdate (.int userId) (fun update => ∃ data userType, req.getJson = .ok data ∧
        data.pyGet "user_type" .null = .ok (.str userType) ∧ userType ∈ validTypes ∧
        update = [("user_type", .str userType), ("updated_at", req.utcnow)]) s) := by
  unfold upgradeUser
  refine post_lift_bind (fun e _ => .refused (isRefusal_error _)) fun data parsed => ?_
  refine post_lift_bind (fun e _ => .refused (isRefusal_error _)) fun newUserType given => ?_
  split_ifs
  · split
    · exact post_pure (.refused (isRefusal_message (by decide) _))
    · next userType valid =>
      have named : newUserType = .str userType :=
        Value.eq_of_str_pyEq (by simpa using List.find?_some valid)
      subst named
      exact post_change fun d found => post_setUser found
        ⟨data, userType, parsed, given, List.mem_of_find?_eq_some valid, rfl⟩
  · exact post_pure (.refused (isRefusal_message (by decide) _))

/-- An administrator's update writes fields of the whitelist as the payload holds them. -/
theorem post_updateUser (userId : Nat) :
    Post exec (updateUser rt req userId) s
      (UserUpdate (.int userId) (fun update => ∃ data, req.getJson = .ok data ∧
        ∀ entry ∈ update, entry.1 = "updated_at" ∨
          entry.1 ∈ userFields ∧ data.pyIndex entry.1 = .ok entry.2) s) := by
  unfold updateUser
  refine post_lift_bind (fun e _ => .refused (isRefusal_error _)) fun data parsed => ?_
  refine post_change fun d known => ?_
  refine post_lift_bind (fun e _ => .refused (isRefusal_error _)) fun updateData collected => ?_
  split_ifs
  · exact post_pure (.refused (isRefusal_message (by decide) _))
  · refine post_setUser known ⟨data, parsed, fun entry member => ?_⟩
    rcases List.mem_append.mp member with given | last
    · obtain ⟨listed, item, found, same⟩ := Value.collectFields_spec collected entry given
      exact .inr ⟨listed, same ▸ found⟩
    · exact .inl (congrArg Prod.fst (List.mem_singleton.mp last))

end Admin

namespace Users

def contactKeys : List String := ["phone", "role", "pin", "balance"]

/-- A contact is stored before the answer fails to serialise. -/
theorem post_createUser (s : Server) :
    Post exec (createUser req) s fun _ s' =>
      s' = s ∨ ∃ fields c, fields.map Prod.fst = contactKeys ∧
        s.users.insertOne req.oid fields = .ok c ∧ s' = s.setCollection .users c := by
  unfold createUser
  refine post_lift_bind (fun e _ => .inl rfl) fun payload _ => ?_
  refine post_lift_bind (fun e _ => .inl rfl) fun phone _ => ?_
  refine post_lift_bind (fun e _ => .inl rfl) fun role _ => ?_
  refine post_lift_bind (fun e _ => .inl rfl) fun pin _ => ?_
  refine post_lift_bind (fun e _ => .inl rfl) fun balance _ => ?_
  refine post_insertOne (fun e => .inl rfl) fun c inserted => ?_
  have done : s.setCollection .users c = s ∨ ∃ fields c', fields.map Prod.fst = contactKeys ∧
      s.users.insertOne req.oid fields = .ok c' ∧
      s.setCollection .users c = s.setCollection .users c' := .inr ⟨_, c, rfl, inserted, rfl⟩
  exact post_lift_bind (fun e _ => done) fun doc _ => post_pure done

end Users

end UssdCredit
