import UssdCredit.Library.Runs
import UssdCredit.PinVerification
import UssdCredit.SubscriptionIds

/-! The subscription form as a transition system. Every submission runs on its own between its
requests: the form can be submitted again before the answers are there. -/

namespace UssdCredit

open Library

/-- Where a call of `handleSubmit` stands; it works with the form as it was when it began. -/
inductive SubmitCall where
  /-- `verifyPin` waits for its answer. -/
  | verifying (form : SubscribeForm)
  /-- `handleSubscribe` has posted, and the server has not come to it. -/
  | posting (form : SubscribeForm)
  | answered (response : Response)
  | returned

/-- An answer that will move the form to `confirmation`. -/
def SubmitCall.confirms : SubmitCall → Bool
  | .answered response => response.succeeds
  | _ => false

structure FormSession where
  form : SubscribeForm
  calls : List SubmitCall
  server : Server

inductive FormEvent where
  | setPhone (phone : String)
  | setPin (pin : String)
  | setAmount (amount : PyFloat)
  | setFrequency (frequency : String)
  | submit
  /-- The answer to the check of a call arrives. -/
  | verified (i : Nat)
  /-- The server handles the subscription of a call. -/
  | processed (i : Nat)
  /-- Its answer arrives. -/
  | answered (i : Nat)

namespace FormSession

variable (rt : Runtime)

def step (session : FormSession) : FormEvent → FormSession
  | .setPhone phone => { session with form := { session.form with phone } }
  | .setPin pin => { session with form := { session.form with pin } }
  | .setAmount amount => { session with form := { session.form with amount } }
  | .setFrequency frequency => { session with form := { session.form with frequency } }
  | .submit =>
      match session.form.step with
      | .phone => { session with form := { session.form with step := .pin } }
      | .pin => { session with calls := session.calls ++ [.verifying session.form] }
      | .confirmation => session
  | .verified i =>
      match session.calls[i]? with
      | some (.verifying form) =>
          if SubscribeForm.verifyPin rt session.server form.phone form.pin then
            { session with calls := session.calls.set i (.posting form) }
          else
            { session with
              form := { session.form with pin := "" }
              calls := session.calls.set i .returned }
      | _ => session
  | .processed i =>
      match session.calls[i]? with
      | some (.posting form) =>
          let request := SubscribeForm.handleSubscribe form
          { session with
            calls := session.calls.set i (.answered (answer rt session.server request))
            server := UssdCredit.step rt session.server request }
      | _ => session
  | .answered i =>
      match session.calls[i]? with
      | some (.answered response) =>
          if response.succeeds then
            { session with
              form := { session.form with step := .confirmation }
              calls := session.calls.set i .returned }
          else { session with calls := session.calls.set i .returned }
      | _ => session

/-- The form as it is first shown. -/
def opened (influencerId : Int) (server : Server) : FormSession where
  form := ⟨influencerId, "", "", .finite 10, "none", .phone⟩
  calls := []
  server := server

/-- A submission has succeeded, whether or not the form has heard of it. -/
def settled (session : FormSession) : Bool :=
  session.form.step = .confirmation || session.calls.any SubmitCall.confirms

/-! What an event does to a call that is there for it. -/

section Steps

variable {rt} {session : FormSession} {i : Nat} {form : SubscribeForm} {response : Response}

theorem step_verified (waits : session.calls[i]? = some (.verifying form)) :
    step rt session (.verified i) =
      if SubscribeForm.verifyPin rt session.server form.phone form.pin then
        { session with calls := session.calls.set i (.posting form) }
      else
        { session with
          form := { session.form with pin := "" }
          calls := session.calls.set i .returned } := by
  simp only [step, waits]

theorem step_processed (waits : session.calls[i]? = some (.posting form)) :
    step rt session (.processed i) =
      { session with
        calls := session.calls.set i
          (.answered (answer rt session.server (SubscribeForm.handleSubscribe form)))
        server := UssdCredit.step rt session.server (SubscribeForm.handleSubscribe form) } := by
  simp only [step, waits]

theorem step_answered (waits : session.calls[i]? = some (.answered response)) :
    step rt session (.answered i) =
      if response.succeeds then
        { session with
          form := { session.form with step := .confirmation }
          calls := session.calls.set i .returned }
      else { session with calls := session.calls.set i .returned } := by
  simp only [step, waits]

/-! An event without a call that waits for it does nothing. -/

theorem verified_idle (none : ∀ form, session.calls[i]? ≠ some (.verifying form)) :
    step rt session (.verified i) = session := by
  simp only [step]

theorem processed_idle (none : ∀ form, session.calls[i]? ≠ some (.posting form)) :
    step rt session (.processed i) = session := by
  simp only [step]

theorem answered_idle (none : ∀ response, session.calls[i]? ≠ some (.answered response)) :
    step rt session (.answered i) = session := by
  simp only [step]

end Steps

/-- Without other calls in between, the events of a submission are `handleSubmit`. -/
theorem submit_alone (session : FormSession) (asked : session.form.step = .pin) :
    let i := session.calls.length
    ([FormEvent.submit, .verified i, .processed i, .answered i].foldl (step rt) session).form =
      (SubscribeForm.handleSubmit rt session.server session.form).1 := by
  intro i
  have submitted : step rt session .submit =
      { session with calls := session.calls ++ [.verifying session.form] } := by
    simp only [step, asked]
  have here : ∀ (calls : List SubmitCall) (call : SubmitCall), i < calls.length →
      (calls.set i call)[i]? = some call := fun calls call small => List.getElem?_set_self small
  have small : i < (session.calls ++ [SubmitCall.verifying session.form]).length := by
    simp [i]
  simp only [List.foldl_cons, List.foldl_nil]
  rw [submitted, step_verified (List.getElem?_concat_length ..)]
  unfold SubscribeForm.handleSubmit
  rw [asked]
  dsimp only
  split_ifs with valid succeeds
  · rw [step_processed (here _ _ small), step_answered (here _ _ (by simpa using small)),
      if_pos (by simpa [Response.succeeds] using succeeds)]
  · rw [step_processed (here _ _ small), step_answered (here _ _ (by simpa using small)),
      if_neg (by simpa [Response.succeeds] using succeeds)]
  · rw [processed_idle (by rw [here _ _ small]; exact fun _ => nofun),
      answered_idle (by rw [here _ _ small]; exact fun _ => nofun)]
    simp only [asked]

end FormSession

/-! The server's side of a post. -/

/-- A post stores one subscription and succeeds, or does neither. -/
theorem subscription_posted (rt : Runtime) (s : Server) (form : SubscribeForm) :
    let request := SubscribeForm.handleSubscribe form
    (¬Nonempty (NewSubscription rt request.http) ∧ step rt s request = s ∧
      (answer rt s request).succeeds = false) ∨
    ∃ new : NewSubscription rt request.http,
      step rt s request = s.setSubscribers (s.subscribersDb ++ [new.record s.subscribersDb]) ∧
      (answer rt s request).succeeds = true := by
  intro request
  rcases @post_createSimpleSubscription rt request.http s with ⟨same, refusal⟩ | ⟨new, moved, answered⟩
  · refine .inl ⟨?_, same, ?_⟩
    · rintro ⟨new⟩
      have stored := @run_createSimpleSubscription rt request.http s new
      have longer := congrArg (fun s : Server => s.subscribersDb.length) (stored.symm.trans same)
      simp [Server.setSubscribers] at longer
    · have high : 400 ≤ (answer rt s request).status := refusal.answer_status
      simp only [Response.succeeds, Bool.and_eq_false_imp, decide_eq_true_eq, decide_eq_false_iff_not]
      omega
  · refine .inr ⟨new, moved, ?_⟩
    have created : answer rt s request = _ := congrArg Outcome.answer answered
    rw [created]
    rfl

/-! What one event preserves. -/

/-- The form has stored at most one subscription beyond those of the start, and exactly one when
it shows the confirmation. -/
def StoresOnce (start : List Subscription) (session : FormSession) : Prop :=
  ∃ stored, session.server.subscribersDb = start ++ stored ∧ stored.length ≤ 1 ∧
    (session.form.step = .confirmation → stored.length = 1)

/-- The server accepts a post of the form only while none of its submissions has succeeded. -/
def PostsOnce (rt : Runtime) (session : FormSession) (event : FormEvent) : Prop :=
  ∀ i form, event = .processed i → session.calls[i]? = some (.posting form) →
    Nonempty (NewSubscription rt (SubscribeForm.handleSubscribe form).http) → session.settled = false

/-- `Confirm` is not pressed while an earlier press is being worked on. -/
def Patient (session : FormSession) (event : FormEvent) : Prop :=
  event = .submit → session.form.step = .pin → ∀ call ∈ session.calls, call = .returned

/-- The store has as many subscriptions of the form as submissions have succeeded. -/
def Counted (start : List Subscription) (session : FormSession) : Prop :=
  (session.settled = false ∧ session.server.subscribersDb = start) ∨
    (session.settled = true ∧ ∃ stored, session.server.subscribersDb = start ++ [stored])

section Events

variable {rt : Runtime} {start : List Subscription} {session : FormSession} {event : FormEvent}

theorem any_confirms_set {calls : List SubmitCall} {i : Nat} {old new : SubmitCall}
    (there : calls[i]? = some old) (same : new.confirms = old.confirms) :
    (calls.set i new).any SubmitCall.confirms = calls.any SubmitCall.confirms := by
  obtain ⟨small, rfl⟩ := List.getElem?_eq_some_iff.mp there
  have kept : (calls.set i new).map SubmitCall.confirms = calls.map SubmitCall.confirms := by
    rw [List.map_set, same]
    refine List.ext_getElem (by simp) fun j _ _ => ?_
    rw [List.getElem_set]
    split_ifs with here
    · subst here
      rw [List.getElem_map]
    · rfl
  have all := congrArg (List.any · id) kept
  simpa only [List.any_map, Function.id_comp] using all

/-- Only the server's handling of a post changes the store, or how many submissions have
succeeded. -/
theorem settled_step (other : ∀ i, event ≠ .processed i) :
    (session.step rt event).settled = session.settled ∧
      (session.step rt event).server = session.server := by
  cases event with
  | setPhone phone | setPin pin | setAmount amount | setFrequency frequency => exact ⟨rfl, rfl⟩
  | submit =>
    unfold FormSession.step FormSession.settled
    cases at_step : session.form.step <;> simp [at_step, SubmitCall.confirms]
  | verified i =>
    by_cases waits : ∃ form, session.calls[i]? = some (.verifying form)
    · obtain ⟨form, waits⟩ := waits
      rw [FormSession.step_verified waits]
      split_ifs
      · refine ⟨congrArg₂ or rfl ?_, rfl⟩
        exact any_confirms_set waits rfl
      · refine ⟨congrArg₂ or rfl ?_, rfl⟩
        exact any_confirms_set waits rfl
    · rw [FormSession.verified_idle fun form there => waits ⟨form, there⟩]
      exact ⟨rfl, rfl⟩
  | processed i => exact absurd rfl (other i)
  | answered i =>
    by_cases waits : ∃ response, session.calls[i]? = some (.answered response)
    · obtain ⟨response, waits⟩ := waits
      rw [FormSession.step_answered waits]
      split_ifs with succeeds
      · have known : session.calls.any SubmitCall.confirms = true :=
          List.any_eq_true.mpr ⟨_, List.mem_of_getElem? waits, succeeds⟩
        simp [FormSession.settled, known]
      · refine ⟨congrArg₂ or rfl ?_, rfl⟩
        exact any_confirms_set waits (by simpa [SubmitCall.confirms] using succeeds)
    · rw [FormSession.answered_idle fun response there => waits ⟨response, there⟩]
      exact ⟨rfl, rfl⟩

/-- The server's handling of a post. -/
theorem processed_step {i : Nat} {form : SubscribeForm} (waits : session.calls[i]? = some (.posting form)) :
    let next := session.step rt (.processed i)
    (¬Nonempty (NewSubscription rt (SubscribeForm.handleSubscribe form).http) ∧
      next.settled = session.settled ∧ next.server = session.server) ∨
    (Nonempty (NewSubscription rt (SubscribeForm.handleSubscribe form).http) ∧ next.settled = true ∧
      ∃ stored, next.server.subscribersDb = session.server.subscribersDb ++ [stored]) := by
  intro next
  have moved : next = _ := FormSession.step_processed waits
  rw [moved]
  rcases subscription_posted rt session.server form with ⟨refused, same, fails⟩ | ⟨new, stored, succeeds⟩
  · refine .inl ⟨refused, congrArg₂ or rfl ?_, same⟩
    exact any_confirms_set waits (by simpa [SubmitCall.confirms] using fails)
  · refine .inr ⟨⟨new⟩, ?_, _, congrArg Server.subscribersDb stored⟩
    have small : i < session.calls.length := (List.getElem?_eq_some_iff.mp waits).1
    have known : SubmitCall.answered (answer rt session.server (SubscribeForm.handleSubscribe form)) ∈
        session.calls.set i (.answered (answer rt session.server (SubscribeForm.handleSubscribe form))) :=
      List.mem_set small _
    unfold FormSession.settled
    rw [Bool.or_eq_true]
    exact .inr (List.any_eq_true.mpr ⟨_, known, succeeds⟩)

theorem counted_step (counted : Counted start session) (once : PostsOnce rt session event) :
    Counted start (session.step rt event) := by
  have same : ∀ next : FormSession, next.settled = session.settled → next.server = session.server →
      Counted start next := by
    intro next settled server
    unfold Counted
    rw [settled, server]
    exact counted
  by_cases other : ∀ i, event ≠ .processed i
  · exact same _ (settled_step other).1 (settled_step other).2
  · push Not at other
    obtain ⟨i, rfl⟩ := other
    by_cases waits : ∃ form, session.calls[i]? = some (.posting form)
    · obtain ⟨form, waits⟩ := waits
      rcases @processed_step rt session i form waits with ⟨-, settled, server⟩ | ⟨accepted, settled, stored, grown⟩
      · exact same _ settled server
      · rcases counted with ⟨-, untouched⟩ | ⟨already, -⟩
        · exact .inr ⟨settled, stored, by rw [grown, untouched]⟩
        · rw [once i form rfl waits accepted] at already
          cases already
    · rw [FormSession.processed_idle fun form there => waits ⟨form, there⟩]
      exact counted

/-- A second accepted post shows at once. -/
theorem second_post (counted : Counted start session) (second : ¬PostsOnce rt session event) :
    ¬StoresOnce start (session.step rt event) := by
  unfold PostsOnce at second
  push Not at second
  obtain ⟨i, form, rfl, waits, accepted, settled⟩ := second
  rcases counted with ⟨unsettled, -⟩ | ⟨-, first, stored⟩
  · exact absurd unsettled settled
  · rcases @processed_step rt session i form waits with ⟨refused, -⟩ | ⟨-, -, other, grown⟩
    · exact absurd accepted refused
    · rintro ⟨all, same, few, -⟩
      rw [grown, stored, List.append_assoc] at same
      rw [← List.append_cancel_left same] at few
      simp at few

theorem Counted.storesOnce (counted : Counted start session) : StoresOnce start session := by
  rcases counted with ⟨unsettled, same⟩ | ⟨-, stored, same⟩
  · refine ⟨[], by rw [same, List.append_nil], by simp, fun confirmed => ?_⟩
    simp [FormSession.settled, confirmed] at unsettled
  · exact ⟨[stored], same, le_rfl, fun _ => rfl⟩

/-! One press at a time. -/

/-- At most one call is not at its end, and once a submission has succeeded it is that one. -/
def OneAtATime (session : FormSession) : Prop :=
  (∃ k, ∀ (j : Nat) (call : SubmitCall), session.calls[j]? = some call → j ≠ k → call = .returned) ∧
    (session.settled = true → ∀ call ∈ session.calls, call = .returned ∨ call.confirms = true)

theorem OneAtATime.set (one : OneAtATime session) {next : FormSession} {i : Nat} {old : SubmitCall}
    (new : SubmitCall) (there : session.calls[i]? = some old) (working : old ≠ .returned)
    (moved : next.calls = session.calls.set i new)
    (done : next.settled = true → new = .returned ∨ new.confirms = true) : OneAtATime next := by
  obtain ⟨⟨k, others⟩, -⟩ := one
  obtain rfl : i = k := by
    by_contra apart
    exact working (others i old there apart)
  have kept : ∀ j call, next.calls[j]? = some call → j ≠ i → call = .returned := by
    intro j call held apart
    rw [moved, List.getElem?_set_ne (Ne.symm apart)] at held
    exact others j call held apart
  refine ⟨⟨i, kept⟩, fun settled call member => ?_⟩
  obtain ⟨j, held⟩ := List.mem_iff_getElem?.mp member
  by_cases here : j = i
  · subst here
    have small : j < session.calls.length := (List.getElem?_eq_some_iff.mp there).1
    rw [moved, List.getElem?_set_self small] at held
    rw [← Option.some.inj held]
    exact done settled
  · exact .inl (kept j call held here)

/-- While a call waits for its check or its post, no submission has succeeded. -/
theorem OneAtATime.unsettled (one : OneAtATime session) {i : Nat} {call : SubmitCall}
    (there : session.calls[i]? = some call) (working : call ≠ .returned) (waits : call.confirms = false) :
    session.settled = false := by
  by_contra settled
  rcases one.2 (by simpa using settled) call (List.mem_of_getElem? there) with finished | confirms
  · exact working finished
  · rw [waits] at confirms
    cases confirms

theorem OneAtATime.postsOnce (one : OneAtATime session) (event : FormEvent) :
    PostsOnce rt session event := fun _ _ _ waits _ => one.unsettled waits nofun rfl

theorem OneAtATime.submit (one : OneAtATime session) (patient : Patient session .submit) :
    OneAtATime (session.step rt .submit) := by
  cases at_step : session.form.step with
  | phone =>
    have same := (@settled_step rt session .submit nofun).1
    have calls : (session.step rt .submit).calls = session.calls := by
      simp only [FormSession.step, at_step]
    unfold OneAtATime
    rw [same, calls]
    exact one
  | pin =>
    have returned := patient rfl at_step
    have calls : (session.step rt .submit).calls = session.calls ++ [.verifying session.form] := by
      simp only [FormSession.step, at_step]
    have unsettled : (session.step rt .submit).settled = false := by
      rw [(@settled_step rt session .submit nofun).1]
      have none : session.calls.any SubmitCall.confirms = false :=
        List.any_eq_false.mpr fun call member => by rw [returned call member]; exact nofun
      simp [FormSession.settled, at_step, none]
    refine ⟨⟨session.calls.length, fun j call held apart => ?_⟩, fun settled => ?_⟩
    · rw [calls] at held
      have bound := (List.getElem?_eq_some_iff.mp held).1
      rw [List.length_append, List.length_singleton] at bound
      rw [List.getElem?_append_left (by omega)] at held
      exact returned call (List.mem_of_getElem? held)
    · rw [unsettled] at settled
      cases settled
  | confirmation =>
    have same : session.step rt .submit = session := by simp only [FormSession.step, at_step]
    rwa [same]

/-- An answer to the check does not come after a success. -/
theorem OneAtATime.verified (one : OneAtATime session) {i : Nat} {form : SubscribeForm}
    (waits : session.calls[i]? = some (.verifying form)) :
    OneAtATime (session.step rt (.verified i)) := by
  have unsettled := one.unsettled waits nofun rfl
  have still : ∀ new : SubmitCall, (session.step rt (.verified i)).settled = true →
      new = .returned ∨ new.confirms = true := by
    intro new settled
    rw [(@settled_step rt session (.verified i) nofun).1, unsettled] at settled
    cases settled
  by_cases valid : SubscribeForm.verifyPin rt session.server form.phone form.pin
  · refine one.set (.posting form) waits nofun ?_ (still _)
    rw [FormSession.step_verified waits, if_pos valid]
  · refine one.set .returned waits nofun ?_ (still _)
    rw [FormSession.step_verified waits, if_neg valid]

/-- After a post a submission has succeeded only if this one has. -/
theorem OneAtATime.processed (one : OneAtATime session) {i : Nat} {form : SubscribeForm}
    (waits : session.calls[i]? = some (.posting form)) :
    OneAtATime (session.step rt (.processed i)) := by
  have unsettled := one.unsettled waits nofun rfl
  refine one.set (.answered (answer rt session.server (SubscribeForm.handleSubscribe form))) waits
    nofun (by rw [FormSession.step_processed waits]) fun settled => .inr ?_
  by_contra fails
  rcases @processed_step rt session i form waits with ⟨-, same, -⟩ | ⟨accepted, -, -⟩
  · rw [same, unsettled] at settled
    cases settled
  · rcases subscription_posted rt session.server form with ⟨refused, -⟩ | ⟨-, -, succeeds⟩
    · exact refused accepted
    · exact fails succeeds

theorem oneAtATime_step (one : OneAtATime session) (patient : Patient session event) :
    OneAtATime (session.step rt event) := by
  cases event with
  | setPhone phone | setPin pin | setAmount amount | setFrequency frequency => exact one
  | submit => exact one.submit patient
  | verified i =>
    by_cases waits : ∃ form, session.calls[i]? = some (.verifying form)
    · obtain ⟨form, waits⟩ := waits
      exact one.verified waits
    · rwa [FormSession.verified_idle fun form there => waits ⟨form, there⟩]
  | processed i =>
    by_cases waits : ∃ form, session.calls[i]? = some (.posting form)
    · obtain ⟨form, waits⟩ := waits
      exact one.processed waits
    · rwa [FormSession.processed_idle fun form there => waits ⟨form, there⟩]
  | answered i =>
    by_cases waits : ∃ response, session.calls[i]? = some (.answered response)
    · obtain ⟨response, waits⟩ := waits
      refine one.set .returned waits nofun ?_ fun _ => .inl rfl
      rw [FormSession.step_answered waits]
      split_ifs <;> rfl
    · rwa [FormSession.answered_idle fun response there => waits ⟨response, there⟩]

end Events

/-- From a form as it is first shown, the store has at most one subscription of the form in every
state of a run, and exactly one where the form shows the confirmation, if and only if the server
accepts no post of the form once another submission has succeeded; and that is so in every run in
which nobody presses `Confirm` while an earlier press is being worked on. -/
theorem subscription_stored_once_iff (rt : Runtime) (influencerId : Int) (server : Server)
    (events : List FormEvent) :
    let start := FormSession.opened influencerId server
    (Throughout (FormSession.step rt) (StoresOnce server.subscribersDb) start events ↔
      AllSteps (FormSession.step rt) (PostsOnce rt) start events) ∧
    (AllSteps (FormSession.step rt) Patient start events →
      Throughout (FormSession.step rt) (StoresOnce server.subscribersDb) start events) := by
  intro start
  have begun : Counted server.subscribersDb start := .inl ⟨rfl, rfl⟩
  have exactly := @throughout_iff_allSteps _ _ (FormSession.step rt) (PostsOnce rt)
    (StoresOnce server.subscribersDb) (Counted server.subscribersDb) (fun _ => Counted.storesOnce)
    (fun _ _ => counted_step) (fun _ _ => second_post) start begun events
  refine ⟨exactly, fun patient => exactly.mpr ?_⟩
  have one : OneAtATime start := ⟨⟨0, fun _ _ held => nomatch held⟩, nofun⟩
  exact AllSteps.mono_of_invariant (fun _ event one _ => one.postsOnce event)
    (fun _ _ => oneAtATime_step) one patient

/-- `Confirm` is pressed twice before the first answer is there. -/
def doubleConfirm : List FormEvent := [.setPhone "254700000000", .submit, .setPin "1234", .submit,
  .submit, .verified 0, .verified 1, .processed 0, .processed 1, .answered 0, .answered 1]

/-- The form ends in the confirmation with two subscriptions stored. -/
theorem double_confirm_stores_two :
    let server := withContact "254700000000" "1234"
    let reached := doubleConfirm.foldl (FormSession.step plainRuntime) (.opened 1 server)
    reached.form.step = .confirmation ∧ reached.server.subscribersDb.length = 2 ∧
      server.subscribersDb = [] ∧ ¬StoresOnce server.subscribersDb reached := by
  intro server reached
  have two : reached.server.subscribersDb.length = 2 := by decide +kernel
  refine ⟨by decide +kernel, two, rfl, ?_⟩
  rintro ⟨stored, same, few, -⟩
  rw [same, show server.subscribersDb = [] from rfl, List.nil_append] at two
  omega

end UssdCredit
