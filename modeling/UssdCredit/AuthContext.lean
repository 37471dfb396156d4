import UssdCredit.Accounts

/-! The session of the web client: the requests of the authentication API, the interceptors
around them, and the context that keeps the user and the token. -/

namespace UssdCredit

open Library

/-- A JavaScript value that is JSON data; `none` is `undefined`. -/
abbrev Js := Option Value

namespace Js

/-- `v?.name`, for a name that arrays and texts do not have. -/
def property (v : Js) (name : String) : Js :=
  match v with
  | some (.dict entries) => entries.lookup name
  | _ => none

/-- Arrays and objects are true, the empty ones too. -/
def truthy : Js → Bool
  | none => false
  | some (.list _) => true
  | some (.dict _) => true
  | some (.float x) => x ≠ .finite 0 && x ≠ .nan
  | some v => v.truthy

/-- `a || b`. -/
def or (a b : Js) : Js := if a.truthy then a else b

end Js

/-- The texts a browser makes of values, and reads back. -/
structure Browser where
  /-- `String(v)`. -/
  text : Value → String
  /-- `JSON.stringify(v)`. -/
  stringify : Value → String
  /-- `JSON.parse(text)`. -/
  parse : String → Option Value

abbrev LocalStorage := List (String × String)

namespace LocalStorage

variable (storage : LocalStorage)

def getItem (key : String) : Option String := storage.lookup key

/-- `undefined` is stored as its name. -/
def setItem (key : String) (text : Option String) : LocalStorage :=
  Dict.set key (text.getD "undefined") storage

def removeItem (key : String) : LocalStorage := storage.filter fun item => item.1 ≠ key

/-- The two items of a session are removed. -/
def signOut : LocalStorage := (storage.removeItem "authToken").removeItem "user"

@[simp] theorem getItem_setItem (key other : String) (text : Option String) :
    (storage.setItem other text).getItem key =
      if key = other then some (text.getD "undefined") else storage.getItem key :=
  Dict.lookup_set key other _ storage

end LocalStorage

/-! The state of the context. -/

structure AuthState where
  user : Js
  token : Js
  isAuthenticated : Bool
  isLoading : Bool
  error : Js

inductive AuthAction where
  | authStart
  | authSuccess (user token : Js)
  | authFailure (error : Js)
  | authLogout
  | clearError
  | updateUser (user : Js)

def authReducer (state : AuthState) : AuthAction → AuthState
  | .authStart => { state with isLoading := true, error := some .null }
  | .authSuccess user token => ⟨user, token, true, false, some .null⟩
  | .authFailure error => ⟨some .null, some .null, false, false, error⟩
  | .authLogout => ⟨some .null, some .null, false, false, some .null⟩
  | .clearError => { state with error := some .null }
  | .updateUser user => { state with user }

/-- The page with the server it talks to. -/
structure Site where
  state : AuthState
  localStorage : LocalStorage
  /-- `window.location.href`. -/
  location : String
  server : Server

namespace Site

def dispatch (site : Site) (action : AuthAction) : Site :=
  { site with state := authReducer site.state action }

/-- `getInitialState`: a stored user that does not parse ends the session. -/
def getInitialState (browser : Browser) (site : Site) : Site :=
  let nobody : AuthState := ⟨some .null, some .null, false, false, some .null⟩
  match site.localStorage.getItem "authToken", site.localStorage.getItem "user" with
  | some token, some userStr =>
      if token = "" ∨ userStr = "" then { site with state := nobody }
      else
        match browser.parse userStr with
        | some user =>
            { site with state := ⟨some user, some (.str token), true, false, some .null⟩ }
        | none => { site with state := nobody, localStorage := site.localStorage.signOut }
  | _, _ => { site with state := nobody }

end Site

/-! The requests. -/

/-- `RegisterData`. -/
structure RegisterData where
  email : String
  password : String
  firstName : String
  lastName : String

structure ApiRequest where
  url : String
  /-- The route the method and the URL lead to. -/
  endpoint : Endpoint
  data : Option Json

namespace AuthApi

def register (userData : RegisterData) : ApiRequest :=
  ⟨"/api/auth/register", .register, some ⟨.dict [
    ("email", .str userData.email),
    ("password", .str userData.password),
    ("first_name", .str userData.firstName),
    ("last_name", .str userData.lastName)], rfl⟩⟩

def login (email password : String) : ApiRequest :=
  ⟨"/api/auth/login", .login, some ⟨.dict [("email", .str email), ("password", .str password)], rfl⟩⟩

def googleLogin (googleToken : String) : ApiRequest :=
  ⟨"/api/auth/google", .googleLogin, some ⟨.dict [("token", .str googleToken)], rfl⟩⟩

def getProfile : ApiRequest := ⟨"/api/auth/profile", .getProfile, none⟩

def updateProfile (profileData : Json) : ApiRequest :=
  ⟨"/api/auth/profile", .updateProfile, some profileData⟩

end AuthApi

/-- What the server takes from outside while it handles a request. -/
structure Occasion where
  now : Int
  salt : Nat
  oid : Nat

/-- The request as it is sent: the interceptor adds the stored token. -/
def ApiRequest.sent (request : ApiRequest) (storage : LocalStorage) (occasion : Occasion) : Request :=
  ⟨request.endpoint, {
    authorization := match storage.getItem "authToken" with
      | some token => if token = "" then none else some ("Bearer " ++ token)
      | none => none
    body := request.data
    args := []
    now := occasion.now
    salt := occasion.salt
    oid := occasion.oid }⟩

/-- The response interceptor: an object that comes from an API route is put into an array. -/
def intercept (url : String) (data : Value) : Value :=
  match data with
  | .dict entries =>
      if "/api/".toList <:+: url.toList then .list [.dict entries] else .dict entries
  | data => data

theorem intercept_object {url : String} (api : "/api/".toList <:+: url.toList) (entries : Fields) :
    intercept url (.dict entries) = .list [.dict entries] := if_pos api

/-! The server, with a JSON provider that writes ObjectIds as `oidText` does: `get_profile` is the
route that needs one. -/

section Calls

variable (rt : Runtime) (browser : Browser) (oidText : Nat → String)

def Auth.getProfileWith (currentUser : Document) : Prog Response :=
  return jsonify 200 (.dict [
    ("message", .str "Profile retrieved successfully"),
    ("user", .dict (("_id", .str (oidText currentUser.oid)) :: currentUser.fields))])

/-- The server's answer to a request, and the server afterwards. -/
def serve (s : Server) (request : Request) : Response × Server :=
  match request.endpoint with
  | .getProfile =>
      let ended := (Auth.jwtRequired rt request.http (Auth.getProfileWith oidText)).serve s
      (Outcome.answer ended.1, ended.2)
  | _ => (answer rt s request, step rt s request)

/-- A request through `api`: its data as the caller gets them, or the response it throws. -/
def Site.send (site : Site) (request : ApiRequest) (occasion : Occasion) :
    Except Response Value × Site :=
  let served := serve rt oidText site.server (request.sent site.localStorage occasion)
  let site := { site with server := served.2 }
  if served.1.succeeds then (.ok (intercept request.url served.1.body), site)
  else if served.1.status = 401 then
    (.error served.1, { site with localStorage := site.localStorage.signOut, location := "/auth" })
  else (.error served.1, site)

end Calls

/-! The calls of the context. A call that throws ends with its message. -/

namespace AuthContext

variable (rt : Runtime) (browser : Browser) (oidText : Nat → String)

/-- `error.response?.data?.message || text`. -/
def errorMessage (response : Option Response) (text : String) : Js :=
  (Js.property (response.map (·.body)) "message").or (some (.str text))

def fail (site : Site) (message : Js) : Except Js Unit × Site :=
  (.error message, site.dispatch (.authFailure message))

/-- The common body of `login`, `register` and `googleLogin`. -/
def signIn (request : ApiRequest) (text : String) (site : Site) (occasion : Occasion) :
    Except Js Unit × Site :=
  let (result, site) := (site.dispatch .authStart).send rt oidText request occasion
  match result with
  | .error response => fail site (errorMessage (some response) text)
  -- `null` cannot be destructured.
  | .ok .null => fail site (errorMessage none text)
  | .ok data =>
      let user := Js.property (some data) "user"
      let token := Js.property (some data) "token"
      let storage := (site.localStorage.setItem "authToken" (token.map browser.text)).setItem "user"
        (user.map browser.stringify)
      (.ok (), { site with localStorage := storage }.dispatch (.authSuccess user token))

def login (email password : String) : Site → Occasion → Except Js Unit × Site :=
  signIn rt browser oidText (AuthApi.login email password) "Login failed"

def register (userData : RegisterData) : Site → Occasion → Except Js Unit × Site :=
  signIn rt browser oidText (AuthApi.register userData) "Registration failed"

/-- The user information that comes with the token is not sent. -/
def googleLogin (idToken : String) (_userInfo : Value) : Site → Occasion → Except Js Unit × Site :=
  signIn rt browser oidText (AuthApi.googleLogin idToken) "Google login failed"

def updateProfile (userData : Json) (site : Site) (occasion : Occasion) : Except Js Unit × Site :=
  let (result, site) := site.send rt oidText (AuthApi.updateProfile userData) occasion
  match result with
  | .error response => (.error (errorMessage (some response) "Profile update failed"), site)
  | .ok updatedUser =>
      let storage := site.localStorage.setItem "user" (some (browser.stringify updatedUser))
      (.ok (), { site with localStorage := storage }.dispatch (.updateUser (some updatedUser)))

/-- `checkAuth` catches what its request throws. -/
def checkAuth (site : Site) (occasion : Occasion) : Except Js Unit × Site :=
  let invalid (site : Site) : Except Js Unit × Site :=
    (.ok (), { site with localStorage := site.localStorage.signOut }.dispatch
      (.authFailure (some (.str "Token validation failed"))))
  match site.localStorage.getItem "authToken" with
  | none => (.ok (), site.dispatch (.authFailure (some .null)))
  | some token =>
      if token = "" then (.ok (), site.dispatch (.authFailure (some .null)))
      else
        match site.send rt oidText AuthApi.getProfile occasion with
        | (.error _, site) => invalid site
        | (.ok .null, site) => invalid site
        | (.ok data, site) =>
            let userData := (Js.property (some data) "user").or (some data)
            (.ok (), site.dispatch (.authSuccess userData (some (.str token))))

/-- On mount the state comes from the storage, and is checked. -/
def mount (site : Site) : Occasion → Except Js Unit × Site :=
  checkAuth rt oidText (site.getInitialState browser)

end AuthContext

/-! Agreement of the page and the server. -/

inductive AuthCall where
  | login (email password : String)
  | register (userData : RegisterData)
  | googleLogin (idToken : String) (userInfo : Value)
  | updateProfile (userData : Json)
  | mount

namespace AuthCall

def request : AuthCall → ApiRequest
  | .login email password => AuthApi.login email password
  | .register userData => AuthApi.register userData
  | .googleLogin idToken _ => AuthApi.googleLogin idToken
  | .updateProfile userData => AuthApi.updateProfile userData
  | .mount => AuthApi.getProfile

/-- The server issues a token for these calls. -/
def issuesToken : AuthCall → Bool
  | .login _ _ | .register _ | .googleLogin _ _ => true
  | .updateProfile _ | .mount => false

variable (rt : Runtime) (browser : Browser) (oidText : Nat → String)

def run : AuthCall → Site → Occasion → Except Js Unit × Site
  | .login email password => AuthContext.login rt browser oidText email password
  | .register userData => AuthContext.register rt browser oidText userData
  | .googleLogin idToken userInfo => AuthContext.googleLogin rt browser oidText idToken userInfo
  | .updateProfile userData => AuthContext.updateProfile rt browser oidText userData
  | .mount => AuthContext.mount rt browser oidText

end AuthCall

/-- What the page shows of an account. -/
def accountKeys : List String := ["id", "email", "first_name", "last_name", "user_type"]

/-- The user of the page has the data of an account the server stores. -/
def ShowsAccount (user : Js) (users : Collection) : Prop :=
  ∃ account ∈ users.docs, ∀ key ∈ accountKeys, ∃ v,
    account.get? key = some v ∧ Js.property user key = some v

/-- A call succeeds, and the state, the storage and the server agree on the user and the token. -/
structure Agrees (rt : Runtime) (browser : Browser) (oidText : Nat → String) (call : AuthCall)
    (site : Site) (occasion : Occasion) : Prop where
  succeeded : (call.run rt browser oidText site occasion).1 = .ok ()
  user : let after := (call.run rt browser oidText site occasion).2
    ShowsAccount after.state.user after.server.users
  token : let after := (call.run rt browser oidText site occasion).2
    let answered := (serve rt oidText site.server (call.request.sent site.localStorage occasion)).1
    ∃ token, after.state.token = some (.str token) ∧
      after.localStorage.getItem "authToken" = some token ∧
      (call.issuesToken = true → Js.property (some answered.body) "token" = some (.str token))
  userStored : let after := (call.run rt browser oidText site occasion).2
    after.localStorage.getItem "user" = after.state.user.map browser.stringify

/-! A user without properties shows no account. -/

/-- A user whose properties are all undefined. -/
def Blank (user : Js) : Prop := ∀ name, Js.property user name = none

theorem Blank.not_showsAccount {user : Js} (blank : Blank user) (users : Collection) :
    ¬ShowsAccount user users := by
  rintro ⟨account, -, shown⟩
  obtain ⟨v, -, read⟩ := shown "id" (by decide)
  rw [blank] at read
  cases read

/-- Every URL of the authentication API is one the interceptor wraps the answers of. -/
theorem AuthCall.request_wrapped (call : AuthCall) :
    "/api/".toList <:+: call.request.url.toList := by
  cases call <;> simp only [AuthCall.request, AuthApi.login, AuthApi.register,
    AuthApi.googleLogin, AuthApi.updateProfile, AuthApi.getProfile] <;> decide +kernel

theorem blank_intercept (call : AuthCall) (data : Value) :
    Blank (some (intercept call.request.url data)) := by
  intro name
  cases data with
  | dict entries =>
    rw [intercept_object call.request_wrapped]
    rfl
  | _ => rfl

section Calls

variable {rt : Runtime} {browser : Browser} {oidText : Nat → String} {site : Site}
  {occasion : Occasion}

theorem send_succeeds {request : ApiRequest}
    (resolved : (serve rt oidText site.server
      (request.sent site.localStorage occasion)).1.succeeds = true) :
    let served := serve rt oidText site.server (request.sent site.localStorage occasion)
    site.send rt oidText request occasion =
      (.ok (intercept request.url served.1.body), { site with server := served.2 }) :=
  if_pos resolved

theorem send_blank {call : AuthCall} {data : Value} {after : Site}
    (sent : site.send rt oidText call.request occasion = (.ok data, after)) :
    Blank (some data) := by
  unfold Site.send at sent
  dsimp only at sent
  split_ifs at sent
  · rw [← Except.ok.inj (Prod.mk.inj sent).1]
    exact blank_intercept call _
  · cases (Prod.mk.inj sent).1
  · cases (Prod.mk.inj sent).1

theorem signIn_blank (call : AuthCall) (text : String)
    (ended : (AuthContext.signIn rt browser oidText call.request text site occasion).1 = .ok ()) :
    Blank (AuthContext.signIn rt browser oidText call.request text site occasion).2.state.user := by
  unfold AuthContext.signIn at ended ⊢
  rcases sent : (site.dispatch .authStart).send rt oidText call.request occasion with ⟨result, after⟩
  simp only [sent] at ended ⊢
  cases result with
  | error response => cases ended
  | ok data =>
    have blank := send_blank sent
    split at ended
    · cases ended
    · cases ended
    · next other same =>
      obtain rfl := Except.ok.inj same
      intro name
      simp only [Site.dispatch, authReducer]
      rw [blank "user"]
      rfl

theorem updateProfile_blank (userData : Json)
    (ended : (AuthContext.updateProfile rt browser oidText userData site occasion).1 = .ok ()) :
    Blank (AuthContext.updateProfile rt browser oidText userData site occasion).2.state.user := by
  unfold AuthContext.updateProfile at ended ⊢
  rcases sent : site.send rt oidText (AuthApi.updateProfile userData) occasion with ⟨result, after⟩
  simp only [sent] at ended ⊢
  cases result with
  | error response => cases ended
  | ok data => exact @send_blank _ _ _ _ (.updateProfile userData) _ _ sent

/-- Whether the token is accepted or not, the check leaves no user with data. -/
theorem checkAuth_blank : Blank (AuthContext.checkAuth rt oidText site occasion).2.state.user := by
  have nobody : Blank (some .null) := fun _ => rfl
  unfold AuthContext.checkAuth
  cases site.localStorage.getItem "authToken" with
  | none => exact nobody
  | some token =>
    dsimp only
    split_ifs
    · exact nobody
    · split
      · exact nobody
      · exact nobody
      · next data after sent =>
        have blank := @send_blank _ _ _ _ .mount _ _ sent
        simp only [Site.dispatch, authReducer]
        rw [blank "user"]
        exact blank

/-- A successful answer leaves a session without user and with the name `undefined` for a token. -/
theorem signIn_undefined {call : AuthCall} {text : String} {status : Nat} {entries : Fields}
    (answered : (serve rt oidText site.server (call.request.sent site.localStorage occasion)).1 =
      ⟨status, .dict entries⟩) (succeeds : 200 ≤ status ∧ status < 300) :
    let ended := AuthContext.signIn rt browser oidText call.request text site occasion
    ended.1 = .ok () ∧ ended.2.state = ⟨none, none, true, false, some .null⟩ ∧
      ended.2.localStorage.getItem "authToken" = some "undefined" ∧
      ended.2.localStorage.getItem "user" = some "undefined" := by
  intro ended
  let served := serve rt oidText site.server (call.request.sent site.localStorage occasion)
  have resolved : served.1.succeeds = true := by
    rw [show served.1 = _ from answered]
    simp [Response.succeeds, succeeds]
  have wrapped : intercept call.request.url served.1.body = .list [.dict entries] := by
    rw [show served.1 = _ from answered]
    exact intercept_object call.request_wrapped entries
  have sent : (site.dispatch .authStart).send rt oidText call.request occasion =
      (.ok (.list [.dict entries]), { site.dispatch .authStart with server := served.2 }) :=
    wrapped ▸ @send_succeeds _ _ (site.dispatch .authStart) _ _ resolved
  have reached : ended = (.ok (), { site.dispatch .authStart with
      server := served.2
      localStorage := (site.localStorage.setItem "authToken" none).setItem "user" none }.dispatch
        (.authSuccess none none)) := by
    simp only [ended, AuthContext.signIn, sent]
    rfl
  rw [reached]
  refine ⟨rfl, rfl, ?_, ?_⟩ <;> simp [Site.dispatch]

/-- With the right password the server issues a token, and the page keeps nothing of it. -/
theorem login_undefined {email password : String}
    (l : Auth.Login rt ((AuthApi.login email password).sent site.localStorage occasion).http
      site.server.users) {c : Collection}
    (updated : site.server.users.updateOne [.objectId l.userDoc.oid] [("last_login",
      ((AuthApi.login email password).sent site.localStorage occasion).http.utcnow)] = .ok c)
    {response : Response} (issued : Auth.Issued rt
      ((AuthApi.login email password).sent site.localStorage occasion).http l.userDoc
      "Login successful" response) :
    let ended := AuthContext.login rt browser oidText email password site occasion
    ended.1 = .ok () ∧ ended.2.state = ⟨none, none, true, false, some .null⟩ ∧
      ended.2.localStorage.getItem "authToken" = some "undefined" ∧
      ended.2.localStorage.getItem "user" = some "undefined" := by
  have answered : (serve rt oidText site.server
      ((AuthApi.login email password).sent site.localStorage occasion)).1 = response :=
    congrArg (fun result : Outcome × Server => result.1.answer) (Auth.run_login l updated issued)
  rw [issued.answered] at answered
  exact @signIn_undefined _ _ _ _ _ (.login email password) _ _ _ answered (by decide)

/-- The server looks for the token under another name, and refuses. -/
theorem googleLogin_refused (idToken : String) (userInfo : Value) :
    (AuthContext.googleLogin rt browser oidText idToken userInfo site occasion).1 =
      .error (some (.str "Google ID token is required")) := by
  have answered : (serve rt oidText site.server
      ((AuthApi.googleLogin idToken).sent site.localStorage occasion)).1 =
        message 400 "Google ID token is required" := rfl
  unfold AuthContext.googleLogin AuthContext.signIn Site.send
  dsimp only
  rw [show (serve rt oidText (site.dispatch .authStart).server ((AuthApi.googleLogin idToken).sent
    (site.dispatch .authStart).localStorage occasion)).1 = _ from answered]
  rfl

end Calls

/-- No call ever brings the page and the server to agree on who is logged in, with valid
credentials or without. -/
theorem client_never_agrees (rt : Runtime) (browser : Browser) (oidText : Nat → String)
    (call : AuthCall) (site : Site) (occasion : Occasion) :
    ¬Agrees rt browser oidText call site occasion := by
  intro agrees
  refine Blank.not_showsAccount ?_ _ agrees.user
  have ended := agrees.succeeded
  cases call with
  | login email password => exact signIn_blank (.login email password) _ ended
  | register userData => exact signIn_blank (.register userData) _ ended
  | googleLogin idToken userInfo =>
    exact @signIn_blank rt browser _ _ _ (.googleLogin idToken userInfo) _ ended
  | updateProfile userData => exact updateProfile_blank userData ended
  | mount => exact checkAuth_blank

/-- A browser for pages that store texts and nothing else. -/
def plainBrowser : Browser where
  text
    | .str s => s
    | _ => "[object Object]"
  stringify
    | .str s => "\"" ++ s ++ "\""
    | _ => "null"
  parse text := if text = "null" then some .null else none

/-- The login page of a new visitor. -/
def visitor (server : Server) : Site :=
  ⟨⟨some .null, some .null, false, false, some .null⟩, [], "/auth", server⟩

/-- Sarah logs in with her password and is answered with her account and a token; the page is
left with neither. -/
theorem login_loses_user_and_token :
    let site := visitor (step plainRuntime Server.initial
      (.registration "sarah@example.com" "s3cret" "user" 1))
    let call := AuthCall.login "sarah@example.com" "s3cret"
    let occasion : Occasion := ⟨0, 0, 2⟩
    let answered := (serve plainRuntime toString site.server
      (call.request.sent site.localStorage occasion)).1
    let ended := call.run plainRuntime plainBrowser toString site occasion
    answered.status = 200 ∧ Js.property (some answered.body) "token" = some (.str "i") ∧
      ended.1 = .ok () ∧ ended.2.state.user = none ∧ ended.2.state.token = none ∧
      ended.2.localStorage = [("authToken", "undefined"), ("user", "undefined")] ∧
      ¬Agrees plainRuntime plainBrowser toString call site occasion := by
  intro site call occasion answered ended
  have nobody : ended.2.state.user = none := by decide +kernel
  refine ⟨by decide +kernel, by decide +kernel, by decide +kernel, nobody, by decide +kernel,
    by decide +kernel, fun agrees => ?_⟩
  have blank : Blank ended.2.state.user := fun _ => by rw [nobody]; rfl
  exact blank.not_showsAccount _ agrees.user

end UssdCredit
