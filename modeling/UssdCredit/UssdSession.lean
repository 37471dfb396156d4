import UssdCredit.Http

/-! The USSD webhook and the sessions the gateway holds with it. The gateway sends all inputs
of a session so far, joined by asterisks, and closes the session on a reply that starts with
`END`. -/

namespace UssdCredit

/-- `Response(reply, mimetype="text/plain")`. -/
def textPlain (reply : String) : Response := ⟨200, .str reply⟩

/-- The form values of a request; those for the session, the service and the phone are read and
not used. -/
def ussdWebhook (values : List (String × String)) : Response :=
  let text := (values.lookup "text").getD ""
  if text = "" then textPlain "CON Welcome to Auto-Credit\n1. Subscribe\n2. My Subscriptions\n0. Exit"
  else if text = "0" then textPlain "END Goodbye"
  else textPlain "CON Feature coming soon.\n0. Exit"

/-- The reply closes the session. -/
def Response.ends (response : Response) : Bool :=
  match response.body with
  | .str reply => "END".toList.isPrefixOf reply.toList
  | _ => false

/-- The reply offers `0` as the way out. -/
def Response.offersExit (response : Response) : Bool :=
  match response.body with
  | .str reply => "0. Exit".toList.isSuffixOf reply.toList
  | _ => false

structure Session where
  sessionId : String
  serviceCode : String
  phoneNumber : String
  inputs : List String

namespace Session

variable (session : Session)

def text : String := "*".intercalate session.inputs

def values : List (String × String) := [
  ("sessionId", session.sessionId),
  ("serviceCode", session.serviceCode),
  ("phoneNumber", session.phoneNumber),
  ("text", session.text)]

def reply : Response := ussdWebhook session.values

/-- The next input reaches the gateway. -/
def enter (input : String) : Session := { session with inputs := session.inputs ++ [input] }

/-- A session that has been closed takes no input. -/
def press (input : String) : Session := if session.reply.ends then session else session.enter input

def dial (sessionId serviceCode phoneNumber : String) : Session := ⟨sessionId, serviceCode, phoneNumber, []⟩

/-- From the second input on the text has an asterisk in it. -/
theorem text_enter (later : session.inputs ≠ []) (input : String) :
    '*' ∈ (session.enter input).text.toList := by
  unfold text enter
  rw [String.intercalate_append_of_ne_nil later (List.cons_ne_nil _ _), String.toList_append,
    String.toList_append]
  exact List.mem_append_left _ (List.mem_append_right _ (List.mem_singleton.mpr rfl))

theorem text_enter_first (first : session.inputs = []) (input : String) :
    (session.enter input).text = input := by
  unfold text enter
  rw [first, List.nil_append, String.intercalate_singleton]

theorem reply_eq : session.reply =
    if session.text = "" then
      textPlain "CON Welcome to Auto-Credit\n1. Subscribe\n2. My Subscriptions\n0. Exit"
    else if session.text = "0" then textPlain "END Goodbye"
    else textPlain "CON Feature coming soon.\n0. Exit" := rfl

/-- Only the text `0` closes a session; every other reply offers the way out. -/
theorem ends_iff : session.reply.ends = true ↔ session.text = "0" := by
  rw [reply_eq]
  split_ifs with menu exit
  · rw [menu]
    decide
  · rw [exit]
    decide
  · exact iff_of_false (by decide) exit

theorem ends_or_offersExit : session.reply.ends = true ∨ session.reply.offersExit = true := by
  rw [reply_eq]
  split_ifs
  · exact .inr (by decide)
  · exact .inl (by decide)
  · exact .inr (by decide)

/-- An input closes the session if it is the first one and `0`. -/
theorem ends_enter_iff (input : String) :
    (session.enter input).reply.ends = true ↔ session.inputs = [] ∧ input = "0" := by
  rw [ends_iff]
  by_cases first : session.inputs = []
  · rw [text_enter_first session first]
    exact (and_iff_right first).symm
  · refine iff_of_false (fun same => ?_) fun h => first h.1
    have star := text_enter session first input
    rw [same] at star
    exact absurd star (by decide)

theorem press_closed (closed : session.reply.ends = true) (inputs : List String) :
    inputs.foldl press session = session := by
  induction inputs with
  | nil => rfl
  | cons input rest ih => rw [List.foldl_cons, press, if_pos closed, ih]

/-- After a first input other than `0` a session stays open. -/
theorem press_open (later : session.inputs ≠ []) (opened : session.reply.ends = false)
    (inputs : List String) : (inputs.foldl press session).reply.ends = false := by
  induction inputs generalizing session with
  | nil => exact opened
  | cons input rest ih =>
    rw [List.foldl_cons, press, if_neg (by rw [opened]; exact Bool.false_ne_true)]
    refine ih _ (by simp [enter]) ?_
    rw [Bool.eq_false_iff]
    exact fun closed => later ((ends_enter_iff session input).mp closed).1

end Session

/-- The input `0`, which every reply that keeps a session open offers as the way out, closes the
session exactly when it is the first input; a session that the gateway holds over any inputs
is closed exactly when the first one was `0`. -/
theorem exit_closes_session_iff (session : Session) (sessionId serviceCode phoneNumber : String)
    (inputs : List String) :
    ((session.enter "0").reply.ends = true ↔ session.inputs = []) ∧
    (session.reply.ends = true ∨ session.reply.offersExit = true) ∧
    ((inputs.foldl Session.press (.dial sessionId serviceCode phoneNumber)).reply.ends = true ↔
      inputs.head? = some "0") := by
  refine ⟨?_, session.ends_or_offersExit, ?_⟩
  · rw [Session.ends_enter_iff]
    exact and_iff_left rfl
  · have opened : (Session.dial sessionId serviceCode phoneNumber).reply.ends = false := rfl
    cases inputs with
    | nil => exact iff_of_false (by rw [List.foldl_nil, opened]; exact Bool.false_ne_true) nofun
    | cons input rest =>
      rw [List.foldl_cons, Session.press, if_neg (by rw [opened]; exact Bool.false_ne_true),
        List.head?_cons, Option.some.injEq]
      have first := Session.ends_enter_iff (.dial sessionId serviceCode phoneNumber) input
      cases closed : ((Session.dial sessionId serviceCode phoneNumber).enter input).reply.ends with
      | true =>
        rw [Session.press_closed _ closed, closed]
        exact ⟨fun _ => (first.mp closed).2, fun _ => rfl⟩
      | false =>
        rw [Session.press_open _ (by simp [Session.enter]) closed]
        refine iff_of_false Bool.false_ne_true fun exit => ?_
        rw [first.mpr ⟨rfl, exit⟩] at closed
        cases closed

/-- After `1` the way out is answered with the same menu again. -/
theorem exit_after_subscribe :
    let session : Session := ⟨"ATUid_1", "*384#", "+254700000001", ["1", "0"]⟩
    session.reply = textPlain "CON Feature coming soon.\n0. Exit" ∧ session.reply.ends = false := by
  decide

end UssdCredit
