import Mathlib.Data.List.Perm.Basic
import Mathlib.Data.Nat.Bits
import Mathlib.Logic.Function.Basic
import UssdCredit.Library.Runs

/-! The status buttons of the user management page: the requests they send, chosen from the list
of the render they belong to, and the local list that each success negates a flag of. The server
is the documented one, which knows both requests. -/

namespace UssdCredit

open Library

namespace StatusToggles

structure AdminUser where
  id : Nat
  isActive : Bool
  deriving DecidableEq

structure StatusRequest where
  userId : Nat
  activate : Bool
  deriving DecidableEq

def activateUser (userId : Nat) : StatusRequest := ⟨userId, true⟩

def deactivateUser (userId : Nat) : StatusRequest := ⟨userId, false⟩

/-- The end of a request: whether the server has found the user. -/
structure StatusAnswer where
  userId : Nat
  succeeded : Bool
  deriving DecidableEq

structure Message where
  type : String
  text : String
  deriving DecidableEq

def statusMessage (succeeded : Bool) : Message :=
  if succeeded then ⟨"success", "User status updated successfully!"⟩
  else ⟨"error", "Failed to update user status. Please try again."⟩

/-- The request `handleUserStatusToggle` makes, from the list of its render. -/
def handleUserStatusToggle (users : List AdminUser) (userId : Nat) : Option StatusRequest :=
  match users.find? (·.id = userId) with
  | none => none
  | some user => some (if user.isActive then deactivateUser userId else activateUser userId)

def toggledUser (userId : Nat) (u : AdminUser) : AdminUser :=
  if u.id = userId then { u with isActive := !u.isActive } else u

/-- What a success does to the list. -/
def toggled (userId : Nat) (users : List AdminUser) : List AdminUser :=
  users.map (toggledUser userId)

/-- The page, the requests in flight before and after the server has dealt with them, and the
flags of the server's users. -/
structure Session where
  users : List AdminUser
  rendered : List AdminUser
  message : Option Message
  sent : List StatusRequest
  answered : List StatusAnswer
  server : Nat → Option Bool

inductive Event where
  | click (userId : Nat)
  | serve
  | respond (i : Nat)
  | render

def send (s : Session) (request : StatusRequest) : Session :=
  { s with sent := s.sent ++ [request] }

/-- The server deals with the oldest request. -/
def serve (s : Session) : Session :=
  match s.sent with
  | [] => s
  | request :: later =>
      match s.server request.userId with
      | none => { s with sent := later, answered := s.answered ++ [⟨request.userId, false⟩] }
      | some _ =>
          { s with
            sent := later
            answered := s.answered ++ [⟨request.userId, true⟩]
            server := Function.update s.server request.userId (some request.activate) }

def respond (s : Session) (i : Nat) : Session :=
  match s.answered[i]? with
  | none => s
  | some answer =>
      { s with
        users := if answer.succeeded then toggled answer.userId s.users else s.users
        message := some (statusMessage answer.succeeded)
        answered := s.answered.eraseIdx i }

def step (s : Session) : Event → Session
  | .click userId =>
      match handleUserStatusToggle s.rendered userId with
      | none => s
      | some request => send s request
  | .serve => serve s
  | .respond i => respond s i
  | .render => { s with rendered := s.users }

/-- The page once it has shown the list it has fetched. -/
def opened (users : List AdminUser) (server : Nat → Option Bool) : Session where
  users := users
  rendered := users
  message := none
  sent := []
  answered := []
  server := server

namespace Session

def Quiet (s : Session) : Prop := s.sent = [] ∧ s.answered = []

def Agrees (s : Session) : Prop := ∀ u ∈ s.users, s.server u.id = some u.isActive

def inFlight (s : Session) (userId : Nat) : Nat :=
  s.sent.countP (·.userId = userId) + s.answered.countP (·.userId = userId)

/-- What the requests in flight for a user will have made of its local flag. -/
def ahead (s : Session) (u : AdminUser) : Bool := u.isActive ^^ (s.inFlight u.id).bodd

/-- What the requests in flight for a user will have made of its flag on the server. -/
def target (s : Session) (userId : Nat) : Option Bool :=
  match (s.sent.filter (·.userId = userId)).getLast? with
  | some request => some request.activate
  | none => s.server userId

/-- Both will be the same. -/
def Settled (s : Session) (userId : Nat) : Prop :=
  ∀ u ∈ s.users, u.id = userId → s.target userId = some (s.ahead u)

/-- A click that finds, in the list of its render, the flag which the requests already in flight
for the user lead to. -/
def InStep (s : Session) : Event → Prop
  | .click userId => ∀ shown, s.rendered.find? (·.id = userId) = some shown →
      ∀ u ∈ s.users, u.id = userId → shown.isActive = s.ahead u
  | _ => True

instance (s : Session) : ∀ event, Decidable (s.InStep event)
  | .click userId => inferInstanceAs (Decidable (∀ shown ∈ s.rendered.find? (·.id = userId),
      ∀ u ∈ s.users, u.id = userId → shown.isActive = s.ahead u))
  | .serve | .respond _ | .render => isTrue trivial

/-- The page knows users of the server only. -/
structure Known (s : Session) : Prop where
  rendered : s.rendered.map (·.id) = s.users.map (·.id)
  users : ∀ id ∈ s.users.map (·.id), (s.server id).isSome
  sent : ∀ request ∈ s.sent, (s.server request.userId).isSome
  answered : ∀ answer ∈ s.answered, answer.succeeded = true

end Session

/-! One event. -/

section Steps

variable {s : Session} {userId : Nat}

theorem toggledUser_id (userId : Nat) (u : AdminUser) : (toggledUser userId u).id = u.id := by
  rw [toggledUser]
  split <;> rfl

theorem toggled_ids (userId : Nat) (users : List AdminUser) :
    (toggled userId users).map (·.id) = users.map (·.id) := by
  rw [toggled, List.map_map]
  exact List.map_congr_left fun u _ => toggledUser_id userId u

theorem server_update_isSome {id : Nat} (known : (s.server id).isSome) (flag : Bool) :
    (Function.update s.server userId (some flag) id).isSome := by
  by_cases same : id = userId
  · rw [same, Function.update_self]
    rfl
  · rw [Function.update_of_ne same]
    exact known

theorem handle_eq {shown : AdminUser} (found : s.rendered.find? (·.id = userId) = some shown) :
    handleUserStatusToggle s.rendered userId = some ⟨userId, !shown.isActive⟩ := by
  simp only [handleUserStatusToggle, found]
  cases shown.isActive <;> rfl

theorem handle_none (absent : s.rendered.find? (·.id = userId) = none) :
    handleUserStatusToggle s.rendered userId = none := by
  simp only [handleUserStatusToggle, absent]

/-- A user of the page is in the render it shows. -/
theorem Session.Known.exists_shown (known : s.Known) {u : AdminUser} (member : u ∈ s.users) :
    ∃ shown, s.rendered.find? (·.id = u.id) = some shown := by
  have id_member : u.id ∈ s.rendered.map (·.id) := by
    rw [known.rendered]
    exact List.mem_map_of_mem member
  obtain ⟨shown, present, same⟩ := List.mem_map.mp id_member
  rw [← Option.isSome_iff_exists, List.find?_isSome]
  exact ⟨shown, present, by simpa using same⟩

theorem Session.Known.user_of_shown (known : s.Known) {shown : AdminUser}
    (found : s.rendered.find? (·.id = userId) = some shown) : (s.server userId).isSome := by
  have same : shown.id = userId := by simpa using List.find?_some found
  rw [← same]
  apply known.users
  rw [← known.rendered]
  exact List.mem_map_of_mem (List.mem_of_find?_eq_some found)

theorem step_click {shown : AdminUser} (found : s.rendered.find? (·.id = userId) = some shown) :
    step s (.click userId) = send s ⟨userId, !shown.isActive⟩ := by
  simp only [step, handle_eq found]

theorem step_click_absent (absent : s.rendered.find? (·.id = userId) = none) :
    step s (.click userId) = s := by
  simp only [step, handle_none absent]

theorem serve_cons (known : s.Known) {request : StatusRequest} {later : List StatusRequest}
    (queue : s.sent = request :: later) :
    serve s =
      { s with
        sent := later
        answered := s.answered ++ [⟨request.userId, true⟩]
        server := Function.update s.server request.userId (some request.activate) } := by
  have present := known.sent request (by rw [queue]; exact List.mem_cons_self)
  obtain ⟨flag, held⟩ := Option.isSome_iff_exists.mp present
  simp only [serve, queue, held]

theorem respond_some (known : s.Known) {i : Nat} {answer : StatusAnswer}
    (waits : s.answered[i]? = some answer) :
    respond s i =
      { s with
        users := toggled answer.userId s.users
        message := some (statusMessage true)
        answered := s.answered.eraseIdx i } := by
  have success := known.answered answer (List.mem_of_getElem? waits)
  simp only [respond, waits, success, if_true]

theorem Session.Known.send (known : s.Known) (present : (s.server userId).isSome) (flag : Bool) :
    (send s ⟨userId, flag⟩).Known := by
  refine ⟨known.rendered, known.users, fun request member => ?_, known.answered⟩
  rcases List.mem_append.mp member with early | new
  · exact known.sent request early
  · rw [List.mem_singleton.mp new]
    exact present

theorem Session.Known.serve (known : s.Known) : (serve s).Known := by
  cases queue : s.sent with
  | nil =>
    simp only [StatusToggles.serve, queue]
    exact known
  | cons request later =>
    rw [serve_cons known queue]
    refine ⟨known.rendered, fun id member => server_update_isSome (known.users id member) _,
      fun other member => ?_, fun answer member => ?_⟩
    · refine server_update_isSome (known.sent other ?_) _
      rw [queue]
      exact List.mem_cons_of_mem _ member
    · rcases List.mem_append.mp member with early | new
      · exact known.answered answer early
      · rw [List.mem_singleton.mp new]

theorem Session.Known.respond (known : s.Known) (i : Nat) : (respond s i).Known := by
  cases waits : s.answered[i]? with
  | none =>
    simp only [StatusToggles.respond, waits]
    exact known
  | some answer =>
    have ids := toggled_ids answer.userId s.users
    rw [respond_some known waits]
    refine ⟨known.rendered.trans ids.symm, fun id member => ?_, known.sent,
      fun other member => known.answered other (List.mem_of_mem_eraseIdx member)⟩
    rw [ids] at member
    exact known.users id member

theorem Session.Known.step (known : s.Known) (event : Event) : (step s event).Known := by
  cases event with
  | click userId =>
    cases found : s.rendered.find? (·.id = userId) with
    | none =>
      rw [step_click_absent found]
      exact known
    | some shown =>
      rw [step_click found]
      exact known.send (known.user_of_shown found) _
  | serve => exact known.serve
  | respond i => exact known.respond i
  | render => exact ⟨rfl, known.users, known.sent, known.answered⟩

end Steps

/-! What the events do to the two flags a user is heading for. -/

section Settling

variable {s s' : Session} {userId : Nat}

theorem settled_congr (users : s'.users = s.users) (target : s'.target userId = s.target userId)
    (inFlight : s'.inFlight userId = s.inFlight userId) :
    s'.Settled userId ↔ s.Settled userId := by
  have ahead : ∀ u : AdminUser, u.id = userId → s'.ahead u = s.ahead u := by
    rintro u rfl
    rw [Session.ahead, Session.ahead, inFlight]
  rw [Session.Settled, Session.Settled, users, target]
  refine forall₃_congr fun u _ same => ?_
  rw [ahead u same]

theorem target_send (s : Session) (flag : Bool) :
    (send s ⟨userId, flag⟩).target userId = some flag := by
  have kept : ([⟨userId, flag⟩] : List StatusRequest).filter (·.userId = userId) =
      [⟨userId, flag⟩] := List.filter_cons_of_pos (by simp)
  simp only [Session.target, send, List.filter_append, kept, List.getLast?_concat]

theorem target_send_other {id : Nat} (other : userId ≠ id) (flag : Bool) :
    (send s ⟨userId, flag⟩).target id = s.target id := by
  have dropped : ([⟨userId, flag⟩] : List StatusRequest).filter (·.userId = id) = [] :=
    List.filter_cons_of_neg (by simpa using other)
  simp only [Session.target, send, List.filter_append, dropped, List.append_nil]

theorem inFlight_send (s : Session) (flag : Bool) (id : Nat) :
    (send s ⟨userId, flag⟩).inFlight id = s.inFlight id + if userId = id then 1 else 0 := by
  simp only [Session.inFlight, send, List.countP_append, List.countP_singleton, decide_eq_true_eq]
  omega

/-- A click settles its user just when it is in step. -/
theorem settled_click (known : s.Known) :
    (step s (.click userId)).Settled userId ↔ s.InStep (.click userId) := by
  cases found : s.rendered.find? (·.id = userId) with
  | none =>
    rw [step_click_absent found]
    refine iff_of_true (fun u member same => ?_) (fun shown present => ?_)
    · obtain ⟨shown, present⟩ := known.exists_shown member
      rw [same, found] at present
      cases present
    · rw [found] at present
      cases present
  | some shown =>
    have flips : ∀ u : AdminUser, u.id = userId →
        (step s (.click userId)).ahead u = !s.ahead u := by
      rintro u rfl
      rw [step_click found, Session.ahead, inFlight_send, if_pos rfl, Nat.bodd_succ, Session.ahead,
        Bool.xor_not]
    have sent : (step s (.click userId)).target userId = some !shown.isActive := by
      rw [step_click found, target_send]
    have users : (step s (.click userId)).users = s.users := by
      rw [step_click found]
      rfl
    rw [Session.Settled, sent, users]
    constructor
    · intro settled other present u member same
      cases Option.some.inj (found.symm.trans present)
      have agreed := settled u member same
      rw [flips u same] at agreed
      exact Bool.not_inj (Option.some.inj agreed)
    · intro inStep u member same
      rw [flips u same, inStep shown found u member same]

theorem settled_click_other {id : Nat} (other : userId ≠ id) :
    (step s (.click userId)).Settled id ↔ s.Settled id := by
  cases found : s.rendered.find? (·.id = userId) with
  | none => rw [step_click_absent found]
  | some shown =>
    rw [step_click found]
    refine settled_congr rfl (target_send_other other _) ?_
    rw [inFlight_send, if_neg other, Nat.add_zero]

/-- The server moves a request on: what it leaves behind is what the request asks for. -/
theorem settled_serve (known : s.Known) : (serve s).Settled userId ↔ s.Settled userId := by
  cases queue : s.sent with
  | nil => simp only [serve, queue]
  | cons request later =>
    rw [serve_cons known queue]
    refine settled_congr rfl ?_ ?_
    · rw [Session.target, Session.target, queue]
      by_cases own : request.userId = userId
      · rw [List.filter_cons_of_pos (by simpa using own)]
        cases rest : later.filter (·.userId = userId) with
        | nil =>
          rw [own]
          exact Function.update_self ..
        | cons next others =>
          rw [List.getLast?_cons_cons]
          simp only [List.getLast?_cons]
      · rw [List.filter_cons_of_neg (by simpa using own)]
        cases (later.filter (·.userId = userId)).getLast? with
        | none => exact Function.update_of_ne (Ne.symm own) ..
        | some last => rfl
    · simp only [Session.inFlight, queue, List.countP_append, List.countP_cons, List.countP_nil]
      omega

theorem inFlight_respond {i : Nat} {answer : StatusAnswer} (waits : s.answered[i]? = some answer)
    (users : List AdminUser) (message : Option Message) (id : Nat) :
    s.inFlight id =
      { s with users := users, message := message, answered := s.answered.eraseIdx i }.inFlight id +
        if answer.userId = id then 1 else 0 := by
  obtain ⟨bound, rfl⟩ := List.getElem?_eq_some_iff.mp waits
  have counted := (List.getElem_cons_eraseIdx_perm bound).countP_eq (·.userId = id)
  rw [List.countP_cons] at counted
  simp only [Session.inFlight, ← counted, decide_eq_true_eq]
  omega

/-- A success negates the flag it was counted for. -/
theorem ahead_respond {i : Nat} {answer : StatusAnswer} (waits : s.answered[i]? = some answer)
    (users : List AdminUser) (message : Option Message) (u : AdminUser) :
    { s with users := users, message := message, answered := s.answered.eraseIdx i }.ahead
        (toggledUser answer.userId u) = s.ahead u := by
  rw [Session.ahead, Session.ahead, toggledUser_id, inFlight_respond waits users message u.id,
    toggledUser]
  by_cases own : u.id = answer.userId
  · rw [if_pos own, if_pos own.symm, Nat.bodd_succ, Bool.xor_not, Bool.not_xor]
  · rw [if_neg own, if_neg (Ne.symm own), Nat.add_zero]

theorem settled_respond (known : s.Known) (i : Nat) :
    (respond s i).Settled userId ↔ s.Settled userId := by
  cases waits : s.answered[i]? with
  | none => simp only [respond, waits]
  | some answer =>
    rw [respond_some known waits, Session.Settled, Session.Settled, toggled, List.forall_mem_map]
    refine forall₂_congr fun u _ => ?_
    rw [toggledUser_id, ahead_respond waits]
    rfl

/-- Only a click on a user changes whether it is settled. -/
theorem settled_step (known : s.Known) {event : Event} (other : event ≠ .click userId) :
    (step s event).Settled userId ↔ s.Settled userId := by
  cases event with
  | click id =>
    refine settled_click_other fun same => other ?_
    rw [same]
  | serve => exact settled_serve known
  | respond i => exact settled_respond known i
  | render => rfl

end Settling

/-! Whole runs. -/

section Runs

variable {s : Session} {users : List AdminUser} {server : Nat → Option Bool}

theorem agrees_iff_settled (quiet : s.Quiet) : s.Agrees ↔ ∀ userId, s.Settled userId := by
  have calm : ∀ userId, s.inFlight userId = 0 := by
    intro userId
    rw [Session.inFlight, quiet.1, quiet.2]
    rfl
  have left : ∀ userId, s.target userId = s.server userId := by
    intro userId
    rw [Session.target, quiet.1]
    rfl
  have shown : ∀ u : AdminUser, s.ahead u = u.isActive := by
    intro u
    rw [Session.ahead, calm, Nat.bodd_zero, Bool.xor_false]
  constructor
  · rintro agrees userId u member rfl
    rw [left, shown]
    exact agrees u member
  · intro settled u member
    rw [← left, ← shown]
    exact settled u.id u member rfl

theorem known_opened (agrees : (opened users server).Agrees) : (opened users server).Known where
  rendered := rfl
  users := by
    intro id member
    obtain ⟨u, present, rfl⟩ := List.mem_map.mp member
    exact Option.isSome_iff_exists.mpr ⟨u.isActive, agrees u present⟩
  sent := fun _ member => absurd member List.not_mem_nil
  answered := fun _ member => absurd member List.not_mem_nil

theorem settled_opened (agrees : (opened users server).Agrees) :
    ∀ userId, (opened users server).Settled userId :=
  (agrees_iff_settled ⟨rfl, rfl⟩).mp agrees

/-- While every click is in step, every user is settled. -/
theorem settled_keeps (s : Session) (event : Event)
    (kept : s.Known ∧ ∀ userId, s.Settled userId) (inStep : s.InStep event) :
    (step s event).Known ∧ ∀ userId, (step s event).Settled userId := by
  refine ⟨kept.1.step event, fun userId => ?_⟩
  by_cases own : event = .click userId
  · rw [own] at inStep ⊢
    exact (settled_click kept.1).mpr inStep
  · exact (settled_step kept.1 own).mpr (kept.2 userId)

theorem settled_iff_lastMeets (agrees : (opened users server).Agrees) (userId : Nat)
    (events : List Event) :
    (events.foldl step (opened users server)).Settled userId ↔
      LastMeets step Session.InStep (· = .click userId) (opened users server) events := by
  refine holds_iff_lastMeets Session.Known (fun s => s.Settled userId)
    (fun s event known => known.step event) ?_ ?_ (known_opened agrees)
    (settled_opened agrees userId) events
  · rintro s event known rfl
    exact settled_click known
  · intro s event known other
    exact settled_step known other

/-- In runs whose clicks are all in step the list agrees with the server whenever nothing is in
flight; at a moment when nothing is in flight it does just when the last click on each user was. -/
theorem toggles_converge (users : List AdminUser) (server : Nat → Option Bool)
    (agrees : (opened users server).Agrees) :
    (∀ events, AllSteps step Session.InStep (opened users server) events →
      Throughout step (fun s => s.Quiet → s.Agrees) (opened users server) events) ∧
    ∀ events, (events.foldl step (opened users server)).Quiet →
      ((events.foldl step (opened users server)).Agrees ↔
        ∀ userId, LastMeets step Session.InStep (· = .click userId) (opened users server) events) := by
  refine ⟨fun events inStep => ?_, fun events quiet => ?_⟩
  · have start : (opened users server).Known ∧ ∀ userId, (opened users server).Settled userId :=
      ⟨known_opened agrees, settled_opened agrees⟩
    refine AllSteps.throughout (fun s => s.Known ∧ ∀ userId, s.Settled userId) ?_ settled_keeps
      start inStep
    intro s kept quiet
    exact (agrees_iff_settled quiet).mpr kept.2
  · rw [agrees_iff_settled quiet]
    exact forall_congr' fun userId => settled_iff_lastMeets agrees userId events

end Runs

/-- Two clicks before the first response: both ask for the same, and both successes negate. -/
theorem toggles_diverge_after_two_clicks :
    ∃ (users : List AdminUser) (server : Nat → Option Bool) (events : List Event),
      (opened users server).Agrees ∧
      (events.foldl step (opened users server)).Quiet ∧
      ¬(events.foldl step (opened users server)).Agrees ∧
      (events.foldl step (opened users server)).users = [⟨1, true⟩] ∧
      (events.foldl step (opened users server)).server 1 = some false :=
  ⟨[⟨1, true⟩], Function.update (fun _ => none) 1 (some true),
    [.click 1, .click 1, .serve, .serve, .respond 0, .render, .respond 0, .render], by
      unfold Session.Agrees; decide, by unfold Session.Quiet; decide,
      by unfold Session.Agrees; decide, by decide, by decide⟩

/-- A deactivation and an activation after it, one at a time. -/
theorem toggles_converge_one_user :
    Throughout step (fun s => s.Quiet → s.Agrees)
      (opened [⟨1, true⟩] (Function.update (fun _ => none) 1 (some true)))
      [.click 1, .serve, .respond 0, .render, .click 1, .serve, .respond 0, .render] :=
  (toggles_converge [⟨1, true⟩] (Function.update (fun _ => none) 1 (some true))
    (by unfold Session.Agrees; decide)).1 _ (by decide)

end StatusToggles

end UssdCredit
