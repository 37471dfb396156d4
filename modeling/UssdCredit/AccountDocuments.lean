import UssdCredit.Credentials

/-! The documents of the users collection over a run: accounts, which hold all that a login
reads except perhaps a password, and contacts, which nobody can log in as. -/

namespace UssdCredit

open Library Program

/-- An account; the hash of its password, if it has one, was made by the server. -/
structure AccountDocument (rt : Runtime) (c : Collection) (d : Document) : Prop where
  account : ∃ id email, IsAccount id email c d
  hashed : ∀ v, d.get? "password_hash" = some v → ∃ salt password, v = .str (rt.hash salt password)

/-- A document as POST /users stores it. -/
structure ContactDocument (d : Document) : Prop where
  id : d.get? "id" = none
  email : d.get? "email" = none
  passwordHash : d.get? "password_hash" = none

/-- There are no other kinds of documents. -/
def Stocked (rt : Runtime) (c : Collection) : Prop :=
  ∀ d ∈ c.docs, AccountDocument rt c d ∨ ContactDocument d

variable {rt : Runtime} {s : Server}

section Effects

variable {request : Request} {c c' : Collection}

/-- A request keeps the kind of a document that was there, unless it changes a password. -/
theorem Stocked.keeps (stocked : Stocked rt c) (effect : Effect request c c')
    (kept : "password_hash" ∉ request.endpoint.updates) {d d' : Document} (before : d ∈ c.docs)
    (after : d' ∈ c'.docs) (same : d'.oid = d.oid) : AccountDocument rt c' d' ∨ ContactDocument d' := by
  rcases stocked d before with ⟨⟨id, email, account⟩, hashed⟩ | ⟨no_id, no_email, no_hash⟩
  · obtain ⟨d'', account', oid, hash⟩ := account.effect effect
    obtain rfl := Collection.eq_of_oid account'.member after (oid.trans same.symm)
    exact .inl ⟨⟨id, email, account'⟩, fun v stored => hashed v ((hash kept).symm.trans stored)⟩
  · obtain ⟨d'', member, oid, others⟩ := effect.keeps_document before
    obtain rfl := Collection.eq_of_oid member after (oid.trans same.symm)
    obtain ⟨id_kept, email_kept⟩ := updates_keep_identity request.endpoint
    exact .inr ⟨(others _ id_kept).trans no_id, (others _ email_kept).trans no_email,
      (others _ kept).trans no_hash⟩

theorem Stocked.insert (stocked : Stocked rt c) (effect : Effect request c c')
    (kept : "password_hash" ∉ request.endpoint.updates) {new : Document} (appended : c'.docs = c.docs ++ [new])
    (kind : AccountDocument rt c' new ∨ ContactDocument new) : Stocked rt c' := by
  intro d' after
  have listed := after
  rw [appended, List.mem_append, List.mem_singleton] at listed
  rcases listed with before | rfl
  · exact stocked.keeps effect kept before after rfl
  · exact kind

theorem Stocked.edit (stocked : Stocked rt c) (effect : Effect request c c')
    (kept : "password_hash" ∉ request.endpoint.updates) {oid : Nat} {update : Fields}
    (rewritten : c'.docs = c.docs.map (Document.edit oid update)) : Stocked rt c' := by
  intro d' after
  have listed := after
  rw [rewritten, List.mem_map] at listed
  obtain ⟨d, before, rfl⟩ := listed
  exact stocked.keeps effect kept before after (Document.edit_oid ..)

end Effects

/-! The requests that create accounts or change passwords. -/

section Steps

variable {req : Http}

theorem stocked_register (stocked : Stocked rt s.users) :
    Stocked rt (step rt s ⟨.register, req⟩).users := by
  have effect := step_effect rt s ⟨.register, req⟩
  rcases Auth.post_register rt req s with ⟨same, -⟩ | ⟨r, c, inserted, moved, -⟩
  · have same : step rt s ⟨.register, req⟩ = s := same
    rwa [same]
  · have stored : (step rt s ⟨.register, req⟩).users = c :=
      (congrArg Server.users moved).trans (users_setCollection s c)
    rw [stored] at effect ⊢
    refine stocked.insert effect (password_hash_kept Endpoint.noConfusion) (Collection.insertOne_ok inserted).1 (.inl ?_)
    refine ⟨⟨_, _, isAccount_registered r inserted⟩, fun v given => ?_⟩
    exact ⟨req.salt, r.password, (Option.some.inj given).symm⟩

/-- An account created by a Google login has no password. -/
theorem accountDocument_google {c : Collection} (g : Auth.GoogleSignUp s.users)
    (inserted : s.users.insertOne req.oid (g.fields req) = .ok c) :
    AccountDocument rt c ⟨req.oid, g.fields req⟩ where
  account := ⟨_, _, isAccount_inserted inserted g.unregistered rfl rfl rfl rfl ⟨.str "user", rfl, rfl⟩⟩
  hashed := by
    intro v given
    cases given

theorem stocked_googleLogin (stocked : Stocked rt s.users) :
    Stocked rt (step rt s ⟨.googleLogin, req⟩).users := by
  have kept : "password_hash" ∉ (Endpoint.googleLogin).updates := password_hash_kept Endpoint.noConfusion
  have effect := step_effect rt s ⟨.googleLogin, req⟩
  have done : Auth.GoogleEffect rt req s ((handler rt ⟨.googleLogin, req⟩).serve s).1
      (step rt s ⟨.googleLogin, req⟩) := Auth.post_googleLogin s
  generalize step rt s ⟨.googleLogin, req⟩ = s' at done effect ⊢
  cases done with
  | refused _ => exact stocked
  | returned found keys updated _ =>
    rw [users_setCollection] at effect ⊢
    rcases Collection.updateOne_ok updated with ⟨-, rfl⟩ | ⟨d, -, rewritten⟩
    · exact stocked
    · exact stocked.edit effect kept rewritten
  | signedUp g inserted _ =>
    rw [users_setCollection] at effect ⊢
    exact stocked.insert effect kept (Collection.insertOne_ok inserted).1
      (.inl (accountDocument_google g inserted))

theorem stocked_changePassword (identified : Identified s.users) (stocked : Stocked rt s.users) :
    Stocked rt (step rt s ⟨.changePassword, req⟩).users := by
  rcases changePassword_cases identified req with
    ⟨same, -⟩ | ⟨currentUser, p, -, member, rewritten, -⟩
  · rwa [same]
  · intro d' after
    have listed := after
    rw [rewritten, List.mem_map] at listed
    obtain ⟨d, before, rfl⟩ := listed
    have effect := step_effect rt s ⟨.changePassword, req⟩
    by_cases own : d.oid = currentUser.oid
    · obtain rfl := Collection.eq_of_oid before member own
      -- The caller has an id, so its document is an account.
      rcases stocked d before with ⟨⟨id, email, account⟩, -⟩ | ⟨no_id, -, -⟩
      · obtain ⟨d'', account', oid, -⟩ := account.effect effect
        obtain rfl := Collection.eq_of_oid account'.member after (oid.trans (Document.edit_oid ..).symm)
        refine .inl ⟨⟨id, email, account'⟩, fun v given => ⟨req.salt, p.newPassword, ?_⟩⟩
        rw [Document.edit_self_get?] at given
        have written : (Dict.setAll p.update d.fields).lookup "password_hash" =
            some (.str (rt.hash req.salt p.newPassword)) := Dict.lookup_setAll_cons (by simp) _
        exact Option.some.inj (given.symm.trans written)
      · cases no_id.symm.trans (Document.index_ok p.id_stored)
    · rw [Document.edit_other _ own] at after ⊢
      rcases stocked d before with ⟨⟨id, email, account⟩, hashed⟩ | contact
      · obtain ⟨d'', account', oid, -⟩ := account.effect effect
        obtain rfl := Collection.eq_of_oid account'.member after oid
        exact .inl ⟨⟨id, email, account'⟩, hashed⟩
      · exact .inr contact

end Steps

theorem Stocked.step (identified : Identified s.users) (stocked : Stocked rt s.users) (request : Request) :
    Stocked rt (UssdCredit.step rt s request).users := by
  by_cases changes : request.endpoint = .changePassword
  · obtain ⟨endpoint, req⟩ := request
    obtain rfl : endpoint = .changePassword := changes
    exact stocked_changePassword identified stocked
  · have kept := password_hash_kept changes
    have effect := step_effect rt s request
    generalize moved : (UssdCredit.step rt s request).users = c at effect ⊢
    have after := effect
    cases effect with
    | unchanged => exact stocked
    | account new creates inserted =>
      obtain ⟨endpoint, req⟩ := request
      rw [← moved]
      dsimp only at creates
      rcases creates with rfl | rfl
      · exact stocked_register stocked
      · exact stocked_googleLogin stocked
    | contact creates keys inserted =>
      refine stocked.insert after kept (Collection.insertOne_ok inserted).1 (.inr ?_)
      exact ⟨contact_lacks keys (by decide), contact_lacks keys (by decide), contact_lacks keys (by decide)⟩
    | edited edit rewritten => exact stocked.edit after kept rewritten

end UssdCredit
