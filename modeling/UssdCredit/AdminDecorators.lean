import UssdCredit.Guards

/-! The administrator decorator in front of the influencer views. It hands the current user to
views that have no parameter for it, so no call reaches a view. -/

namespace UssdCredit

open Library Program

/-- The view behind the decorators of an influencer endpoint. -/
def Endpoint.undecorated (req : Http) : Endpoint → Option (Prog Response)
  | .adminListInfluencers => some AdminInfluencers.adminListInfluencers
  | .adminCreateInfluencer => some (AdminInfluencers.adminCreateInfluencer req)
  | .adminUpdateInfluencer influencerId =>
      some (AdminInfluencers.adminUpdateInfluencer req influencerId)
  | .adminDeleteInfluencer influencerId => some (AdminInfluencers.adminDeleteInfluencer influencerId)
  | _ => none

/-- The exception of a call whose arguments do not fit the parameters. -/
def BindingError (e : PyExn) : Prop :=
  ∃ name params keywords, AdminInfluencers.bindCall name params keywords = .error e

/-- A request is served as the undecorated view serves it, and its arguments were bound. -/
structure ReachesView (rt : Runtime) (s : Server) (request : Request) (view : Prog Response) :
    Prop where
  served : (handler rt request).serve s = view.serve s
  bound : ∀ e, ((handler rt request).serve s).1 = .error e → ¬BindingError e

variable {rt : Runtime} {s : Server} {currentUser : Document}

/-- For an active administrator the decorators come down to the call. -/
theorem run_decorated {req : Http} {name : String} {params keywords : List String}
    {body : Prog Response} {e : PyExn}
    (resolved : Auth.resolve rt req s.users = some currentUser)
    (active : Auth.isActive currentUser = true) (admin : Auth.isAdmin currentUser = true)
    (unbound : AdminInfluencers.bindCall name params keywords = .error e) :
    (AdminInfluencers.decorated rt req name params keywords body).serve s = (.error e, s) := by
  unfold AdminInfluencers.decorated Prog.serve
  rw [Auth.run_adminRequired_admin resolved active admin, unbound]
  rfl

/-- The two views without a parameter get one argument too many, and the other two get the
current user in the place of the id that the route passes by name. -/
theorem run_undecorated {request : Request} {view : Prog Response}
    (routed : request.endpoint.undecorated request.http = some view)
    (resolved : Auth.resolve rt request.http s.users = some currentUser)
    (active : Auth.isActive currentUser = true) (admin : Auth.isAdmin currentUser = true) :
    ∃ e, BindingError e ∧ (handler rt request).serve s = (.error e, s) := by
  obtain ⟨endpoint, req⟩ := request
  have called : ∀ {name : String} {params keywords : List String} {body : Prog Response} {e : PyExn},
      AdminInfluencers.bindCall name params keywords = .error e →
      ∃ e, BindingError e ∧
        (AdminInfluencers.decorated rt req name params keywords body).serve s = (.error e, s) :=
    fun unbound => ⟨_, ⟨_, _, _, unbound⟩, run_decorated resolved active admin unbound⟩
  cases endpoint with
  | adminListInfluencers => exact called rfl
  | adminCreateInfluencer => exact called rfl
  | adminUpdateInfluencer influencerId => exact called rfl
  | adminDeleteInfluencer influencerId => exact called rfl
  | _ => cases routed

/-- No request of an active administrator to these endpoints reaches its view: each ends with a
binding error, which changes nothing. -/
theorem decorated_views_never_run (rt : Runtime) (s : Server) (request : Request)
    (view : Prog Response) (currentUser : Document)
    (routed : request.endpoint.undecorated request.http = some view)
    (resolved : Auth.resolve rt request.http s.users = some currentUser)
    (active : Auth.isActive currentUser = true) (admin : Auth.isAdmin currentUser = true) :
    ¬ReachesView rt s request view ∧
      (answer rt s request).status = 500 ∧ step rt s request = s := by
  obtain ⟨e, unbound, ran⟩ := run_undecorated routed resolved active admin
  refine ⟨fun reaches => reaches.bound e (congrArg Prod.fst ran) unbound, ?_, congrArg Prod.snd ran⟩
  have answered : answer rt s request = e.answer := congrArg (fun r : Outcome × Server => r.1.answer) ran
  rw [answered]
  obtain ⟨name, params, keywords, bound⟩ := unbound
  have kind : e.kind = .typeError := by
    unfold AdminInfluencers.bindCall at bound
    split at bound
    · split_ifs at bound <;> rw [← Except.error.inj bound]
    · split_ifs at bound
      rw [← Except.error.inj bound]
  unfold PyExn.answer
  rw [kind]
  rfl

/-- A server with one administrator. -/
def Server.administered : Server :=
  run plainRuntime .initial [.registration "admin@example.com" "s3cret" "admin" 0]

/-- The token of the administrator. -/
theorem administered_resolves {endpoint : Endpoint} {rt : Runtime}
    (decodes : rt.jwtDecode = plainRuntime.jwtDecode) :
    ∃ currentUser, Auth.resolve rt (Request.bearing endpoint "i").http
      Server.administered.users = some currentUser ∧ Auth.isActive currentUser = true ∧
      Auth.isAdmin currentUser = true := by
  have same : Auth.resolve rt (Request.bearing endpoint "i").http Server.administered.users =
      Auth.resolve plainRuntime (Request.bearing .logout "i").http Server.administered.users := by
    have http : (Request.bearing endpoint "i").http = (Request.bearing .logout "i").http := rfl
    rw [http]
    simp only [Auth.resolve, Auth.tokenUser, decodes]
  rw [same]
  cases found : Auth.resolve plainRuntime (Request.bearing .logout "i").http
      Server.administered.users with
  | none => exact absurd found (by decide +kernel)
  | some d =>
    have all : (Auth.resolve plainRuntime (Request.bearing .logout "i").http
        Server.administered.users).all (fun d => Auth.isActive d && Auth.isAdmin d) = true := by
      decide +kernel
    rw [found, Option.all_some, Bool.and_eq_true] at all
    exact ⟨d, rfl, all⟩

/-- The administrator deletes the first influencer. -/
theorem decorated_views_never_run_delete :
    let request := Request.bearing (.adminDeleteInfluencer 1) "i"
    ¬ReachesView plainRuntime .administered request (AdminInfluencers.adminDeleteInfluencer 1) ∧
      (answer plainRuntime .administered request).status = 500 ∧
      step plainRuntime .administered request = .administered := by
  intro request
  obtain ⟨currentUser, found, active, admin⟩ := @administered_resolves (.adminDeleteInfluencer 1) plainRuntime rfl
  exact decorated_views_never_run plainRuntime .administered request _ currentUser rfl found active admin

/-- The list of influencers, which the undecorated view would hand out. -/
theorem admin_list_fails :
    let request := Request.bearing .adminListInfluencers "i"
    (answer plainRuntime .administered request).status = 500 ∧
      (AdminInfluencers.adminListInfluencers.serve .administered).1.answer.status = 200 ∧
      ¬ReachesView plainRuntime .administered request AdminInfluencers.adminListInfluencers := by
  intro request
  have statuses : (answer plainRuntime .administered request).status = 500 ∧
      (AdminInfluencers.adminListInfluencers.serve .administered).1.answer.status = 200 := by
    decide +kernel
  refine ⟨statuses.1, statuses.2, fun reaches => ?_⟩
  have same : (answer plainRuntime .administered request).status =
      (AdminInfluencers.adminListInfluencers.serve .administered).1.answer.status :=
    congrArg (fun r : Outcome × Server => r.1.answer.status) reaches.served
  rw [statuses.1, statuses.2] at same
  cases same

end UssdCredit
