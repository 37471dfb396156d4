import UssdCredit.ConcurrentRequests
import UssdCredit.DemoInfluencers

/-! The three stores of the server: the database, the influencers in memory and the subscriptions
in memory. Each request belongs to one of them, and what is stored and answered there does not
depend on the requests to the others. -/

namespace UssdCredit

open Library Program

inductive Store where
  | database
  | influencers
  | subscriptions
  deriving DecidableEq

/-- Where an operation reads or writes. -/
def Op.store : Op → Store
  | .readInfluencers | .writeInfluencers _ => .influencers
  | .readSubscribers | .writeSubscribers _ => .subscriptions
  | _ => .database

/-- The store of an endpoint. The administrators' influencer endpoints fail before they reach the
list, so what they depend on is the guard. -/
def Endpoint.store : Endpoint → Store
  | .listSimpleInfluencers | .createInfluencer | .populateDemoInfluencers => .influencers
  | .listSimpleSubscribers | .createSimpleSubscription | .getSimpleSubscription _
  | .updateSimpleSubscription _ | .deleteSimpleSubscription _ | .populateDemoSubscribers =>
      .subscriptions
  | _ => .database

/-- Two servers with the same content of a store. -/
def Server.Agree (s t : Server) : Store → Prop
  | .database => s.collection = t.collection
  | .influencers => s.influencersDb = t.influencersDb
  | .subscriptions => s.subscribersDb = t.subscribersDb

theorem Server.eq_of_agree {s t : Server} (database : s.Agree t .database)
    (influencers : s.Agree t .influencers) (subscriptions : s.Agree t .subscriptions) : s = t := by
  cases s
  cases t
  cases database
  cases influencers
  cases subscriptions
  rfl

/-! One operation. -/

section Operations

variable {s t : Server} {store : Store}

theorem Server.Agree.write (agree : s.Agree t .database) (name : CollectionName)
    (result : Except PyExn Collection) :
    (s.write name result).1 = (t.write name result).1 ∧
      (s.write name result).2.Agree (t.write name result).2 .database := by
  have same : s.collection = t.collection := agree
  cases result with
  | ok c =>
    refine ⟨rfl, ?_⟩
    change (s.setCollection name c).collection = (t.setCollection name c).collection
    unfold Server.setCollection
    rw [same]
  | error e => exact ⟨rfl, same⟩

/-- An operation on a store sees and leaves nothing but it. -/
theorem exec_agree (op : Op) (agree : s.Agree t op.store) :
    (exec op s).1 = (exec op t).1 ∧ (exec op s).2.Agree (exec op t).2 op.store := by
  cases op with
  | find name filter =>
    have same : s.collection = t.collection := agree
    exact ⟨by simp only [exec, same], agree⟩
  | findOne name filter =>
    have same : s.collection = t.collection := agree
    exact ⟨by simp only [exec, same], agree⟩
  | countDocuments name filter =>
    have same : s.collection = t.collection := agree
    exact ⟨by simp only [exec, same], agree⟩
  | insertOne name oid fields =>
    have same : s.collection = t.collection := agree
    simp only [exec, Op.store, ← same]
    exact Server.Agree.write agree name _
  | updateOne name filter update =>
    have same : s.collection = t.collection := agree
    simp only [exec, Op.store, ← same]
    exact Server.Agree.write agree name _
  | readInfluencers => exact ⟨congrArg Except.ok agree, agree⟩
  | writeInfluencers db => exact ⟨rfl, rfl⟩
  | readSubscribers => exact ⟨congrArg Except.ok agree, agree⟩
  | writeSubscribers db => exact ⟨rfl, rfl⟩

theorem exec_other (op : Op) (other : op.store ≠ store) : (exec op s).2.Agree s store := by
  have written : ∀ name result, store ≠ .database → (s.write name result).2.Agree s store := by
    intro name result elsewhere
    cases result <;> cases store <;> first
      | exact absurd rfl elsewhere
      | rfl
  cases op with
  | insertOne name oid fields => exact written _ _ (Ne.symm other)
  | updateOne name filter update => exact written _ _ (Ne.symm other)
  | writeInfluencers db => cases store <;> first | exact absurd rfl other | rfl
  | writeSubscribers db => cases store <;> first | exact absurd rfl other | rfl
  | _ => cases store <;> rfl

end Operations

/-! Every request keeps to its store. -/

theorem calls_typeCounts (types : List String) :
    (Admin.countTypes types).Calls fun op => op.store = .database := by
  induction types with
  | nil => exact calls_pure _
  | cons userType rest ih =>
    exact calls_bind (calls_bind (calls_op rfl) fun _ => calls_pure _) fun _ =>
      calls_bind ih fun _ => calls_pure _

/-- Along every path a handler only calls operations on the store of its endpoint. -/
theorem calls_store (rt : Runtime) (request : Request) :
    (handler rt request).Calls fun op => op.store = request.endpoint.store := by
  obtain ⟨endpoint, req⟩ := request
  cases endpoint <;> dsimp only [handler, Endpoint.store, AdminInfluencers.decorated, Auth.adminRequired]
  case adminListInfluencers | adminCreateInfluencer | adminUpdateInfluencer | adminDeleteInfluencer =>
    refine calls_jwtRequired (fun _ => rfl) fun d => ?_
    split_ifs
    · exact calls_done _
    · exact calls_pure _
  all_goals try refine calls_jwtRequired (fun _ => rfl) fun d => ?_
  all_goals simp only [Auth.register, Auth.login, Auth.googleLogin, Auth.googleSignIn,
    Auth.googleAccount, Auth.issueToken, Auth.getProfile, Auth.updateProfile, Auth.changePassword,
    Auth.logout, Users.searchUsers, Users.createUser, Admin.listUsers, Admin.getUser,
    Admin.updateUser, Admin.deleteUser, Admin.activateUser, Admin.upgradeUser, Admin.ifExists,
    Admin.setUser,
    Auth.refreshToken, Admin.getAdminStats, Admin.statistics,
    Admin.ifMongo, Admin.countUsers, InfluencersSimple.listSimpleInfluencers,
    InfluencersSimple.createInfluencer, InfluencersSimple.populateDemoInfluencers,
    SubscribersSimple.listSimpleSubscribers, SubscribersSimple.createSimpleSubscription,
    SubscribersSimple.getSimpleSubscription, SubscribersSimple.updateSimpleSubscription,
    SubscribersSimple.deleteSimpleSubscription, SubscribersSimple.populateDemoSubscribers,
    SubscribersSimple.attempt, SubscribersSimple.assign, SubscribersSimple.setSubscription]
  all_goals repeat' first
    | with_reducible refine calls_bind ?_ fun _ => ?_
    | with_reducible exact calls_pure _
    | with_reducible exact calls_lift _
    | exact calls_op rfl
    | with_reducible exact calls_typeCounts _
    | with_reducible exact calls_raise _
    | with_reducible refine calls_handle ?_ fun _ => ?_
    | split

section Requests

variable {rt : Runtime} {s t : Server} {request : Request}

/-- A handler answers, and leaves its store, by the content of that store. -/
theorem serve_agree (agree : s.Agree t request.endpoint.store) :
    ((handler rt request).serve s).1 = ((handler rt request).serve t).1 ∧
      ((handler rt request).serve s).2.Agree ((handler rt request).serve t).2 request.endpoint.store := by
  have respects : Respects exec exec (fun op => op.store = request.endpoint.store)
      (fun s t => s.Agree t request.endpoint.store) (fun _ => Eq) := by
    intro op s t may agree
    obtain ⟨answers, after⟩ := exec_agree op (may ▸ agree)
    refine ⟨may ▸ after, ?_⟩
    rw [answers]
    cases (exec op t).1 with
    | ok a => exact .ok rfl
    | error e => exact .error e
  have similar := (calls_store rt request).similar (fun _ may => may) fun _ _ _ _ same => same
  obtain ⟨after, answers⟩ := similar.run respects agree
  exact ⟨answers.eq, after⟩

theorem step_agree (agree : s.Agree t request.endpoint.store) :
    (step rt s request).Agree (step rt t request) request.endpoint.store := (serve_agree agree).2

theorem answer_agree (agree : s.Agree t request.endpoint.store) :
    answer rt s request = answer rt t request := by
  unfold answer
  rw [(serve_agree agree).1]

/-- A request leaves the other stores as they are. -/
theorem step_other {store : Store} (other : request.endpoint.store ≠ store) :
    (step rt s request).Agree s store := by
  have calls := calls_store rt request
  have keeps : ∀ (op : Op) (s : Server), op.store = request.endpoint.store →
      (exec op s).2.Agree s store := fun op s may => exec_other op (may ▸ other)
  cases store with
  | database => exact @Calls.run_frame _ _ _ _ _ _ exec _ Server.collection keeps _ calls s
  | influencers => exact @Calls.run_frame _ _ _ _ _ _ exec _ Server.influencersDb keeps _ calls s
  | subscriptions => exact @Calls.run_frame _ _ _ _ _ _ exec _ Server.subscribersDb keeps _ calls s

end Requests

/-! Runs. -/

/-- The requests of a run that belong to a store. -/
def requestsTo (store : Store) (requests : List Request) : List Request :=
  requests.filter fun request => request.endpoint.store = store

theorem Server.Agree.trans {s t u : Server} {store : Store} (first : s.Agree t store)
    (second : t.Agree u store) : s.Agree u store := by
  cases store <;> exact Eq.trans first second

theorem Server.Agree.symm {s t : Server} {store : Store} (agree : s.Agree t store) : t.Agree s store := by
  cases store <;> exact Eq.symm agree

theorem Server.Agree.refl (s : Server) (store : Store) : s.Agree s store := by
  cases store <;> rfl

theorem run_store (rt : Runtime) (store : Store) (s : Server) (requests : List Request) :
    (run rt s requests).Agree (run rt s (requestsTo store requests)) store := by
  refine @run_filter _ _ (step rt) (fun s t => s.Agree t store)
    (fun request => request.endpoint.store = store) ?_ ?_ _ _ (Server.Agree.refl s store) requests
  · intro s t request concerned agree
    cases of_decide_eq_true concerned
    exact step_agree agree
  · intro s t request elsewhere agree
    exact (step_other (of_decide_eq_false elsewhere)).trans agree

/-- Whatever requests a server has handled, its answer to the next one is the answer of a server
that has handled only those to the same store: the database, the influencers in memory and the
subscriptions in memory do not see each other. -/
theorem answers_ignore_other_stores (rt : Runtime) (s : Server) (requests : List Request)
    (request : Request) :
    answer rt (run rt s requests) request =
      answer rt (run rt s (requestsTo request.endpoint.store requests)) request :=
  answer_agree (run_store rt request.endpoint.store s requests)

/-! The influencers in memory. -/

theorem step_createInfluencer (rt : Runtime) (s : Server) (req : Http) :
    (step rt s ⟨.createInfluencer, req⟩).influencersDb = s.influencersDb := by
  have calls : (InfluencersSimple.createInfluencer req).Calls fun _ => False := by
    refine calls_lift_bind fun payload _ => ?_
    refine calls_lift_bind fun name _ => ?_
    refine calls_lift_bind fun phone _ => ?_
    refine calls_lift_bind fun received _ => ?_
    exact calls_lift_bind fun imageUrl _ => calls_pure _
  exact @Calls.run_frame _ _ _ _ _ _ exec _ Server.influencersDb (fun _ _ may => may.elim) _ calls s

/-- A request adds the demo influencers or leaves the list alone. -/
theorem step_influencers (rt : Runtime) (s : Server) (request : Request) :
    (step rt s request).influencersDb =
      if request.endpoint = .populateDemoInfluencers then s.influencersDb ++ demoRecords s.influencersDb
      else s.influencersDb := by
  obtain ⟨endpoint, req⟩ := request
  have other : endpoint.store ≠ .influencers →
      (step rt s ⟨endpoint, req⟩).influencersDb = s.influencersDb :=
    fun elsewhere => @step_other rt s ⟨endpoint, req⟩ .influencers elsewhere
  cases endpoint with
  | populateDemoInfluencers => exact congrArg (fun served => served.2.influencersDb) (run_populate_eq s)
  | createInfluencer => exact step_createInfluencer rt s req
  | listSimpleInfluencers => rfl
  | _ => exact other Store.noConfusion

theorem run_influencers (rt : Runtime) (s : Server) (requests : List Request) :
    (run rt s requests).influencersDb =
      if ∃ request ∈ requests, request.endpoint = .populateDemoInfluencers then
        s.influencersDb ++ demoRecords s.influencersDb
      else s.influencersDb := by
  induction requests using List.reverseRecOn with
  | nil => simp [run]
  | append_singleton requests request ih =>
    have last : run rt s (requests ++ [request]) = step rt (run rt s requests) request := by
      simp only [run, List.foldl_append, List.foldl_cons, List.foldl_nil]
    rw [last, step_influencers, ih]
    have again : demoRecords (s.influencersDb ++ demoRecords s.influencersDb) = [] :=
      demoRecords_of_stored (demoStored_populated s.influencersDb)
    have some_asks : (∃ r ∈ requests ++ [request], r.endpoint = .populateDemoInfluencers) ↔
        (∃ r ∈ requests, r.endpoint = .populateDemoInfluencers) ∨
          request.endpoint = .populateDemoInfluencers := by
      simp only [List.mem_append, List.mem_singleton, or_and_right, exists_or, exists_eq_left]
    simp only [some_asks]
    by_cases before : ∃ r ∈ requests, r.endpoint = .populateDemoInfluencers
    · simp only [before, true_or, if_true, again, List.append_nil, ite_self]
    · simp only [before, false_or, if_false]

/-- In whatever order requests of any kind come, with whatever payloads and credentials: the
influencers in memory are the first ones, and the demo influencers after them as soon as one request
has asked for these; and whoever asks for the list is shown these records. -/
theorem influencers_after_run (rt : Runtime) (s : Server) (requests : List Request) :
    let stored := if ∃ request ∈ requests, request.endpoint = .populateDemoInfluencers then
        s.influencersDb ++ demoRecords s.influencersDb
      else s.influencersDb
    (run rt s requests).influencersDb = stored ∧
      ∀ req, answer rt (run rt s requests) ⟨.listSimpleInfluencers, req⟩ =
        jsonify 200 (.list (stored.map Influencer.toJson)) := by
  intro stored
  have kept : (run rt s requests).influencersDb = stored := run_influencers rt s requests
  refine ⟨kept, fun req => ?_⟩
  rw [← kept]
  rfl

end UssdCredit
