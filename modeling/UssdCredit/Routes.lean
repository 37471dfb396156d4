import UssdCredit.Admin
import UssdCredit.InfluencerStore
import UssdCredit.SubscriberStore
import UssdCredit.Users

/-! The routes of the API blueprint and their handlers, and the server as a machine that
takes one request after another. -/

namespace UssdCredit

inductive Endpoint where
  | register
  | login
  | googleLogin
  | getProfile
  | updateProfile
  | changePassword
  | refreshToken
  | logout
  | searchUsers
  | createUser
  | listUsers
  | getUser (userId : Nat)
  | updateUser (userId : Nat)
  | deleteUser (userId : Nat)
  | activateUser (userId : Nat)
  | upgradeUser (userId : Nat)
  | getAdminStats
  | adminListInfluencers
  | adminCreateInfluencer
  | adminUpdateInfluencer (influencerId : Nat)
  | adminDeleteInfluencer (influencerId : Nat)
  | listSimpleInfluencers
  | createInfluencer
  | populateDemoInfluencers
  | listSimpleSubscribers
  | createSimpleSubscription
  | getSimpleSubscription (subscriptionId : Nat)
  | updateSimpleSubscription (subscriptionId : Nat)
  | deleteSimpleSubscription (subscriptionId : Nat)
  | populateDemoSubscribers
  deriving DecidableEq

structure Request where
  endpoint : Endpoint
  http : Http

variable (rt : Runtime)

open AdminInfluencers in
/-- The handler of a request, decorators included. -/
def handler (request : Request) : Prog Response :=
  let req := request.http
  match request.endpoint with
  | .register => Auth.register rt req
  | .login => Auth.login rt req
  | .googleLogin => Auth.googleLogin rt req
  | .getProfile => Auth.jwtRequired rt req Auth.getProfile
  | .updateProfile => Auth.jwtRequired rt req (Auth.updateProfile req)
  | .changePassword => Auth.jwtRequired rt req (Auth.changePassword rt req)
  | .refreshToken => Auth.refreshToken
  | .logout => Auth.jwtRequired rt req Auth.logout
  | .searchUsers => Users.searchUsers req
  | .createUser => Users.createUser req
  | .listUsers => Auth.adminRequired rt req fun _ => Admin.listUsers rt req
  | .getUser userId => Auth.adminRequired rt req fun _ => Admin.getUser rt userId
  | .updateUser userId => Auth.adminRequired rt req fun _ => Admin.updateUser rt req userId
  | .deleteUser userId =>
      Auth.adminRequired rt req fun currentUser => Admin.deleteUser rt req currentUser userId
  | .activateUser userId => Auth.adminRequired rt req fun _ => Admin.activateUser rt req userId
  | .upgradeUser userId => Auth.adminRequired rt req fun _ => Admin.upgradeUser rt req userId
  | .getAdminStats => Auth.adminRequired rt req fun _ => Admin.getAdminStats rt req
  | .adminListInfluencers =>
      decorated rt req "admin_list_influencers" [] [] adminListInfluencers
  | .adminCreateInfluencer =>
      decorated rt req "admin_create_influencer" [] [] (adminCreateInfluencer req)
  | .adminUpdateInfluencer influencerId =>
      decorated rt req "admin_update_influencer" ["influencer_id"] ["influencer_id"]
        (adminUpdateInfluencer req influencerId)
  | .adminDeleteInfluencer influencerId =>
      decorated rt req "admin_delete_influencer" ["influencer_id"] ["influencer_id"]
        (adminDeleteInfluencer influencerId)
  | .listSimpleInfluencers => InfluencersSimple.listSimpleInfluencers
  | .createInfluencer => InfluencersSimple.createInfluencer req
  | .populateDemoInfluencers => InfluencersSimple.populateDemoInfluencers
  | .listSimpleSubscribers => SubscribersSimple.listSimpleSubscribers
  | .createSimpleSubscription => SubscribersSimple.createSimpleSubscription rt req
  | .getSimpleSubscription subscriptionId => SubscribersSimple.getSimpleSubscription subscriptionId
  | .updateSimpleSubscription subscriptionId =>
      SubscribersSimple.updateSimpleSubscription rt req subscriptionId
  | .deleteSimpleSubscription subscriptionId =>
      SubscribersSimple.deleteSimpleSubscription subscriptionId
  | .populateDemoSubscribers => SubscribersSimple.populateDemoSubscribers req

/-- A server that has just started on an empty database. -/
def Server.initial : Server := ⟨fun _ => .empty, initialInfluencers, []⟩

/-- A registration that names a user type. -/
def Request.registration (email password userType : String) (oid : Nat) : Request :=
  ⟨.register, .ofEntries none [("email", .str email), ("password", .str password),
    ("first_name", .str "Sarah"), ("last_name", .str "Kimani"), ("user_type", .str userType)] rfl
    oid⟩

/-- A request with a token and no data. -/
def Request.bearing (endpoint : Endpoint) (token : String) : Request :=
  ⟨endpoint, .ofEntries (some ("Bearer " ++ token)) [] rfl 0⟩

/-- What the client receives for a request. -/
def answer (s : Server) (request : Request) : Response :=
  Outcome.answer ((handler rt request).serve s).1

theorem answer_searchUsers (s : Server) (req : Http) :
    answer rt s ⟨.searchUsers, req⟩ =
      jsonify 200 (.list ((s.users.docs.filter (·.satisfies (Users.searchFilter req))).map
        fun d => .dict d.fields)) :=
  congrArg (fun result : Outcome × Server => result.1.answer) (Users.run_searchUsers req s)

/-- Flask's answer for a URL without a route: a page of its own, which is no JSON. -/
def notFound : Response := ⟨404, .str "Not Found"⟩

/-- The server after a request. -/
def step (s : Server) (request : Request) : Server := ((handler rt request).serve s).2

/-- The server after a run of requests, processed one after another. -/
def run (s : Server) (requests : List Request) : Server := requests.foldl (step rt) s

end UssdCredit
