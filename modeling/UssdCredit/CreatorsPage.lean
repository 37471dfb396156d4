import UssdCredit.OpenPages
import UssdCredit.SubscribeFormRuns

/-! The page of the creators: the list it fetches, and a subscription form for each of them. Whatever
others do meanwhile, what its forms store is for the influencer on the card, and for a phone number
whose PIN check was answered with yes. The dashboard of the creators shows the same list. -/

namespace UssdCredit

open Library Program

/-- `v ?? w`. -/
def Js.coalesce (v : Js) (w : Value) : Value :=
  match v with
  | none | some .null => w
  | some v => v

/-- What the form does by itself, its user gone or not. -/
def FormEvent.byItself : FormEvent → Bool
  | .verified _ | .processed _ | .answered _ => true
  | _ => false

namespace InfluencerList

/-- An influencer of the list, and the state of the form for it. -/
structure Card where
  influencer : Value
  form : SubscribeForm
  calls : List SubmitCall

structure Page where
  cards : List Card
  isLoading : Bool
  failed : Bool
  isMounted : Bool

def Page.initial : Page := ⟨[], true, false, true⟩

inductive Act where
  | fetched
  | unmount
  | form (card : Nat) (event : FormEvent)

/-- `{ ...x, imageUrl: x.imageUrl ?? x.image_url ?? '' }`, or `none` where it throws. -/
def withImage (x : Value) : Option Value :=
  match x with
  | .dict entries =>
      let image := Js.coalesce (entries.lookup "imageUrl") (Js.coalesce (entries.lookup "image_url") (.str ""))
      some (.dict (Dict.set "imageUrl" image entries))
  | .null => none
  | _ => some (.dict [("imageUrl", .str "")])

/-- The items of `useInfluencers`; what is no array has no `map`. -/
def itemsOf (data : Value) : Option (List Value) :=
  match Js.or (some data) (some (.list [])) with
  | some (.list items) => items.mapM withImage
  | _ => none

/-- The whole number that `JSON.stringify` writes for the id. -/
def formId (id : Js) : Option Int :=
  match id with
  | some (.int n) => some n
  | some (.float (.finite q)) => if q.den = 1 then some q.num else none
  | _ => none

def cardOf (server : Server) (influencer : Value) : Option Card :=
  (formId (Js.property (some influencer) "id")).map fun influencerId =>
    let session := FormSession.opened influencerId server
    ⟨influencer, session.form, session.calls⟩

section Definitions

variable (engine : JsEngine) (rt : Runtime) (oidText : Nat → String)

def useInfluencers (page : Page) (server : Server) (response : Except Response Value) : Page :=
  match response.toOption.bind itemsOf with
  | some items => { page with cards := items.filterMap (cardOf server), isLoading := false }
  | none => { page with failed := true, isLoading := false }

def act (visit : OpenPage Page) (a : Act) (occasion : Occasion) : OpenPage Page :=
  let page := visit.page
  match a with
  | .fetched =>
      let (data, after) := visit.ask engine rt oidText (some InfluencerApi.getAll) occasion
      if page.isLoading && page.isMounted then after.show (useInfluencers page visit.server data) else after
  | .unmount => visit.show { page with isMounted := false }
  | .form i event =>
      match page.cards[i]? with
      | some card =>
          if page.isMounted || event.byItself then
            let session := FormSession.step rt ⟨card.form, card.calls, visit.server⟩ event
            let card := ⟨card.influencer, session.form, session.calls⟩
            ⟨{ page with cards := page.cards.set i card }, visit.localStorage, session.server⟩
          else visit
      | none => visit

end Definitions

/-! The records of the deployed server. -/

/-- Integers up to 2^53 are doubles. -/
def Exact (engine : JsEngine) : Prop := ∀ n : Int, n.natAbs ≤ 2 ^ 53 → engine.round n = .finite n

def deployedInfluencers : List Influencer := initialInfluencers ++ demoRecords initialInfluencers

theorem deployed_small : ∀ record ∈ deployedInfluencers, record.id.natAbs ≤ 2 ^ 53 := by decide

theorem deployed_standard : ∀ record ∈ deployedInfluencers, record.toJson.standard = true := by decide

theorem deployed_ids : (deployedInfluencers.map Influencer.id).Nodup := by decide

section Records

variable {engine : JsEngine} {rt : Runtime} {record other : Influencer} {s : Server}
  {requests : List Request}

theorem run_deployed : (run rt .initial requests).influencersDb <+: deployedInfluencers := by
  rw [run_influencers]
  split_ifs
  · exact List.prefix_rfl
  · exact List.prefix_append _ _

theorem run_grows : s.influencersDb <+: (run rt s requests).influencersDb := by
  rw [run_influencers]
  split_ifs
  · exact List.prefix_append _ _
  · exact List.prefix_rfl

/-- No two influencers of the deployed server have one id. -/
theorem deployed_unique (stored : record ∈ deployedInfluencers) (stored' : other ∈ deployedInfluencers)
    (same : other.id = record.id) : other = record :=
  List.inj_on_of_nodup_map deployed_ids stored' stored same

/-- The id of a record as the page has it. -/
theorem formId_delivered (exact : Exact engine) (small : record.id.natAbs ≤ 2 ^ 53) {shown : Value}
    (imaged : withImage (AdminInfluencerManagement.delivered engine record) = some shown) :
    formId (Js.property (some shown) "id") = some record.id := by
  have number : Js.property (some (AdminInfluencerManagement.delivered engine record)) "id" =
      some (.float (engine.round record.id)) := rfl
  rw [exact record.id small] at number
  obtain ⟨entries, object⟩ : ∃ entries, AdminInfluencerManagement.delivered engine record = .dict entries :=
    ⟨_, rfl⟩
  rw [object] at number imaged
  have listed : entries.lookup "id" = some (.float (.finite record.id)) := number
  rw [← Option.some.inj imaged]
  change formId ((Dict.set "imageUrl" _ entries).lookup "id") = _
  rw [Dict.lookup_set, if_neg (by decide), listed]
  change (if (record.id : Rat).den = 1 then some (record.id : Rat).num else none) = some record.id
  rw [if_pos (Rat.den_intCast record.id), Rat.num_intCast]

end Records

/-! What a form may have under way. -/

/-- Before some of the requests `verifyPin` is answered with yes. -/
def Checked (rt : Runtime) (requests : List Request) (form : SubscribeForm) : Prop :=
  ∃ before, before <+: requests ∧
    SubscribeForm.verifyPin rt (run rt .initial before) form.phone form.pin = true

def CallFor (rt : Runtime) (requests : List Request) (influencerId : Int) : SubmitCall → Prop
  | .verifying form => form.influencerId = influencerId
  | .posting form => form.influencerId = influencerId ∧ Checked rt requests form
  | _ => True

structure FormFor (rt : Runtime) (requests : List Request) (influencerId : Int) (form : SubscribeForm)
    (calls : List SubmitCall) : Prop where
  payee : form.influencerId = influencerId
  calls : ∀ call ∈ calls, CallFor rt requests influencerId call

section Forms

variable {rt : Runtime} {requests later : List Request} {influencerId : Int} {form : SubscribeForm}
  {calls : List SubmitCall} {session : FormSession}

theorem Checked.mono (checked : Checked rt requests form) (longer : requests <+: later) :
    Checked rt later form := by
  obtain ⟨before, earlier, confirmed⟩ := checked
  exact ⟨before, earlier.trans longer, confirmed⟩

theorem FormFor.mono (made : FormFor rt requests influencerId form calls) (longer : requests <+: later) :
    FormFor rt later influencerId form calls := by
  refine ⟨made.payee, fun call member => ?_⟩
  have before := made.calls call member
  cases call with
  | verifying form => exact before
  | posting form => exact ⟨before.1, before.2.mono longer⟩
  | answered response => trivial
  | returned => trivial

theorem FormFor.set (made : FormFor rt requests influencerId form calls) {form' : SubscribeForm}
    (payee : form'.influencerId = influencerId) {i : Nat} {call : SubmitCall}
    (next : CallFor rt requests influencerId call) :
    FormFor rt requests influencerId form' (calls.set i call) := by
  refine ⟨payee, fun other member => ?_⟩
  rcases List.mem_or_eq_of_mem_set member with old | rfl
  · exact made.calls other old
  · exact next

/-- The check reads the database only. -/
theorem verifyPin_agree {s s' : Server} (agree : s.Agree s' .database) (phone pin : String) :
    SubscribeForm.verifyPin rt s phone pin = SubscribeForm.verifyPin rt s' phone pin := by
  unfold SubscribeForm.verifyPin
  rw [@answer_agree rt s s' (SubscribeForm.usersRequest phone pin) agree]

theorem step_formFor (made : FormFor rt requests influencerId session.form session.calls)
    (agree : session.server.Agree (run rt .initial requests) .database) (event : FormEvent) :
    FormFor rt requests influencerId (FormSession.step rt session event).form
      (FormSession.step rt session event).calls := by
  have returned : CallFor rt requests influencerId .returned := trivial
  cases event with
  | setPhone _ | setPin _ | setAmount _ | setFrequency _ => exact ⟨made.payee, made.calls⟩
  | submit =>
    unfold FormSession.step
    dsimp only
    split
    · exact ⟨made.payee, made.calls⟩
    · refine ⟨made.payee, fun call member => ?_⟩
      rcases List.mem_append.mp member with old | new
      · exact made.calls call old
      · rw [List.mem_singleton.mp new]
        exact made.payee
    · exact made
  | verified i =>
    unfold FormSession.step
    dsimp only
    split
    · next form waits =>
      have sent : form.influencerId = influencerId := made.calls _ (List.mem_of_getElem? waits)
      split_ifs with confirmed
      · refine made.set made.payee ⟨sent, requests, List.prefix_rfl, ?_⟩
        rw [← verifyPin_agree agree]
        exact confirmed
      · refine made.set ?_ returned
        exact made.payee
    · exact made
  | processed i =>
    unfold FormSession.step
    dsimp only
    split
    · refine made.set made.payee ?_
      trivial
    · exact made
  | answered i =>
    unfold FormSession.step
    dsimp only
    split
    · split_ifs
      · refine made.set ?_ returned
        exact made.payee
      · exact made.set made.payee returned
    · exact made

/-- Only a post of a confirmed form changes the server. -/
theorem step_server (made : FormFor rt requests influencerId session.form session.calls) (event : FormEvent) :
    (FormSession.step rt session event).server = session.server ∨
      ∃ form, form.influencerId = influencerId ∧ Checked rt requests form ∧
        (FormSession.step rt session event).server =
          step rt session.server (SubscribeForm.handleSubscribe form) := by
  cases event with
  | setPhone _ | setPin _ | setAmount _ | setFrequency _ => exact .inl rfl
  | submit =>
    left
    unfold FormSession.step
    dsimp only
    split <;> rfl
  | verified i =>
    left
    unfold FormSession.step
    dsimp only
    split
    · split_ifs <;> rfl
    · rfl
  | processed i =>
    unfold FormSession.step
    dsimp only
    split
    · next form waits =>
      have posted := made.calls _ (List.mem_of_getElem? waits)
      exact .inr ⟨form, posted.1, posted.2, rfl⟩
    · exact .inl rfl
  | answered i =>
    left
    unfold FormSession.step
    dsimp only
    split
    · split_ifs <;> rfl
    · rfl

/-- The subscription a form has posted. -/
theorem posted_for (s : Server) (form : SubscribeForm) :
    step rt s (SubscribeForm.handleSubscribe form) = s ∨
      ∃ sub, step rt s (SubscribeForm.handleSubscribe form) = s.setSubscribers (s.subscribersDb ++ [sub]) ∧
        sub.influencerId = .int form.influencerId ∧ sub.fanPhone = .str form.phone := by
  rcases subscription_posted rt s form with ⟨-, same, -⟩ | ⟨new, stored, -⟩
  · exact .inl same
  · refine .inr ⟨_, stored, ?_⟩
    have payload := Except.ok.inj (new.parsed.symm.trans rfl)
    have influencer := new.influencerId_given
    have phone := new.fanPhone_given
    rw [payload] at influencer phone
    exact ⟨(Except.ok.inj influencer).symm, (Except.ok.inj phone).symm⟩

end Forms

/-! The page. -/

/-- The card is for an influencer that the server has, and so is what its form has under way. -/
def CardFor (engine : JsEngine) (rt : Runtime) (requests : List Request) (s : Server) (card : Card) : Prop :=
  ∃ record ∈ s.influencersDb,
    withImage (AdminInfluencerManagement.delivered engine record) = some card.influencer ∧
      FormFor rt requests record.id card.form card.calls

/-- Accounts and influencers are as the requests have left them. -/
structure Deployed (rt : Runtime) (requests : List Request) (s : Server) : Prop where
  accounts : s.Agree (run rt .initial requests) .database
  influencers : s.Agree (run rt .initial requests) .influencers

/-- The page after some requests of others: it has left accounts and influencers to them, and every
card is for an influencer. -/
structure Sound (engine : JsEngine) (rt : Runtime) (requests : List Request) (visit : OpenPage Page) : Prop where
  deployed : Deployed rt requests visit.server
  cards : ∀ card ∈ visit.page.cards, CardFor engine rt requests visit.server card

/-- What the page does to the server: nothing, or a subscription for the influencer of a card, who
is the only one with that id and stays so, and for a phone number whose PIN check was answered with
yes. -/
structure MadeFor (engine : JsEngine) (rt : Runtime) (requests : List Request) (visit : OpenPage Page)
    (card : Card) (record : Influencer) (sub : Subscription) : Prop where
  shown : card ∈ visit.page.cards
  influencer : withImage (AdminInfluencerManagement.delivered engine record) = some card.influencer
  payee : sub.influencerId = .int record.id
  stays : ∀ more, record ∈ (run rt visit.server more).influencersDb
  alone : ∀ more, ∀ other ∈ (run rt visit.server more).influencersDb, other.id = record.id → other = record
  checked : ∃ before phone pin, before <+: requests ∧ sub.fanPhone = .str phone ∧
    SubscribeForm.verifyPin rt (run rt .initial before) phone pin = true

section Acts

variable {engine : JsEngine} {rt : Runtime} {oidText : Nat → String} {requests : List Request}
  {visit : OpenPage Page} {occasion : Occasion}

theorem CardFor.mono {later : List Request} {s s' : Server} {card : Card}
    (made : CardFor engine rt requests s card) (grows : s.influencersDb <+: s'.influencersDb)
    (longer : requests <+: later) : CardFor engine rt later s' card := by
  obtain ⟨record, stored, shown, form⟩ := made
  exact ⟨record, grows.subset stored, shown, form.mono longer⟩

theorem Deployed.run_prefix {s : Server} (deployed : Deployed rt requests s) (more : List Request) :
    (run rt s more).influencersDb <+: deployedInfluencers := by
  have same : s.influencersDb = (run rt .initial requests).influencersDb := deployed.influencers
  have later : (run rt s more).influencersDb = (run rt .initial (requests ++ more)).influencersDb := by
    rw [run, run, List.foldl_append, ← run, ← run, ← run, run_influencers, same,
      ← run_influencers]
  rw [later]
  exact run_deployed

theorem Deployed.step {s : Server} (deployed : Deployed rt requests s) (request : Request) :
    Deployed rt (requests ++ [request]) (UssdCredit.step rt s request) := by
  have later : run rt .initial (requests ++ [request]) =
      UssdCredit.step rt (run rt .initial requests) request := by
    rw [run, List.foldl_append]
    rfl
  have agree : ∀ store, s.Agree (run rt .initial requests) store →
      (UssdCredit.step rt s request).Agree (run rt .initial (requests ++ [request])) store := by
    intro store same
    rw [later]
    by_cases own : request.endpoint.store = store
    · exact own ▸ step_agree (own ▸ same)
    · have kept := @step_other rt (run rt .initial requests) request store own
      exact (step_other own).trans (same.trans kept.symm)
  exact ⟨agree _ deployed.accounts, agree _ deployed.influencers⟩

/-- The items of a fetch are the records of the server, as they arrive. -/
theorem items_delivered {Page : Type} {visit : OpenPage Page} (deployed : Deployed rt requests visit.server)
    {items : List Value}
    (listed : ((visit.ask engine rt oidText (some InfluencerApi.getAll) occasion).1).toOption.bind itemsOf =
      some items) {item : Value} (member : item ∈ items) :
    ∃ record ∈ visit.server.influencersDb,
      withImage (AdminInfluencerManagement.delivered engine record) = some item := by
  let db := visit.server.influencersDb
  have asked : (visit.ask engine rt oidText (some InfluencerApi.getAll) occasion).1 =
      .ok (intercept "/api/influencers" (engine.received
        ((Value.list (db.map Influencer.toJson)).mapScalar jsonScalar))) := rfl
  have parses : ((Value.list (db.map Influencer.toJson)).mapScalar jsonScalar).standard = true := by
    rw [Value.standard_jsonScalar, AdminInfluencerManagement.standard_influencers]
    exact fun record stored => deployed_standard record ((deployed.run_prefix []).subset stored)
  rw [asked, JsEngine.received, if_pos parses] at listed
  simp only [Value.mapScalar, Value.mapScalarList_eq, List.map_map] at listed
  have mapped : (db.map (AdminInfluencerManagement.delivered engine)).mapM withImage = some items := listed
  obtain ⟨value, sent, imaged⟩ := Filters.mem_of_mapM mapped item member
  obtain ⟨record, stored, rfl⟩ := List.mem_map.mp sent
  exact ⟨record, stored, imaged⟩

/-- The cards of a fetch. -/
theorem useInfluencers_cards (exact : Exact engine) (sound : Sound engine rt requests visit) {card : Card}
    (member : card ∈ (useInfluencers visit.page visit.server
      (visit.ask engine rt oidText (some InfluencerApi.getAll) occasion).1).cards) :
    card ∈ visit.page.cards ∨ CardFor engine rt requests visit.server card := by
  rw [useInfluencers] at member
  split at member
  · next items listed =>
    right
    obtain ⟨item, shown, made⟩ := List.mem_filterMap.mp member
    obtain ⟨record, stored, imaged⟩ := items_delivered sound.deployed listed shown
    have small := deployed_small record ((sound.deployed.run_prefix []).subset stored)
    rw [cardOf, formId_delivered exact small imaged] at made
    rw [← Option.some.inj made]
    exact ⟨record, stored, imaged, rfl, List.forall_mem_nil _⟩
  · exact .inl member

/-- A form stores what is for its card, if it stores anything. -/
theorem form_makes (sound : Sound engine rt requests visit) {i : Nat} {card : Card}
    (shown : visit.page.cards[i]? = some card) (event : FormEvent) :
    let session := FormSession.step rt ⟨card.form, card.calls, visit.server⟩ event
    session.server = visit.server ∨ ∃ record sub,
      session.server = visit.server.setSubscribers (visit.server.subscribersDb ++ [sub]) ∧
        MadeFor engine rt requests visit card record sub := by
  intro session
  have member := List.mem_of_getElem? shown
  obtain ⟨record, stored, influencer, made⟩ := sound.cards card member
  rcases @step_server rt requests record.id ⟨card.form, card.calls, visit.server⟩ made event with
    same | ⟨form, payee, ⟨before, earlier, confirmed⟩, posted⟩
  · exact .inl same
  · rcases posted_for visit.server form with same | ⟨sub, added, influencerId, phone⟩
    · exact .inl (posted.trans same)
    · have stays : ∀ more, record ∈ (run rt visit.server more).influencersDb :=
        fun more => run_grows.subset stored
      refine .inr ⟨record, sub, posted.trans added, member, influencer, ?_, stays, ?_, ?_⟩
      · rw [influencerId, payee]
      · intro more other stored' same
        exact deployed_unique ((sound.deployed.run_prefix more).subset (stays more))
          ((sound.deployed.run_prefix more).subset stored') same
      · exact ⟨before, form.phone, form.pin, earlier, phone, confirmed⟩

theorem act_makes (sound : Sound engine rt requests visit) (a : Act) (occasion : Occasion) :
    (act engine rt oidText visit a occasion).server = visit.server ∨ ∃ card record sub,
      (act engine rt oidText visit a occasion).server =
        visit.server.setSubscribers (visit.server.subscribersDb ++ [sub]) ∧
          MadeFor engine rt requests visit card record sub := by
  cases a with
  | fetched =>
    left
    have same := @ask_list engine rt oidText _ visit occasion InfluencerApi.getAll (by decide)
    unfold act
    dsimp only
    split_ifs <;> exact same
  | unmount => exact .inl rfl
  | form i event =>
    unfold act
    dsimp only
    split
    · next card shown =>
      split_ifs
      · exact (form_makes sound shown event).imp id fun made => ⟨card, made⟩
      · exact .inl rfl
    · exact .inl rfl

theorem act_sound (exact : Exact engine) (sound : Sound engine rt requests visit) (a : Act)
    (occasion : Occasion) : Sound engine rt requests (act engine rt oidText visit a occasion) := by
  have server : (act engine rt oidText visit a occasion).server.Agree visit.server .database ∧
      (act engine rt oidText visit a occasion).server.influencersDb = visit.server.influencersDb := by
    rcases @act_makes engine rt oidText requests visit sound a occasion with same | ⟨_, _, _, stored, -⟩
    · rw [same]
      exact ⟨rfl, rfl⟩
    · rw [stored]
      exact ⟨rfl, rfl⟩
  have deployed := sound.deployed
  refine ⟨⟨server.1.trans deployed.accounts, server.2.trans deployed.influencers⟩, fun card member => ?_⟩
  have kept : ∀ card, CardFor engine rt requests visit.server card →
      CardFor engine rt requests (act engine rt oidText visit a occasion).server card := by
    intro card made
    refine made.mono ?_ List.prefix_rfl
    rw [server.2]
  refine kept card ?_
  cases a with
  | fetched =>
    unfold act at member
    dsimp only at member
    split_ifs at member
    · exact (useInfluencers_cards exact sound member).elim (sound.cards card) id
    · exact sound.cards card member
  | unmount => exact sound.cards card member
  | form i event =>
    unfold act at member
    dsimp only at member
    split at member
    · next shown there =>
      split_ifs at member
      · rcases List.mem_or_eq_of_mem_set member with old | rfl
        · exact sound.cards card old
        · obtain ⟨record, stored, influencer, made⟩ := sound.cards shown (List.mem_of_getElem? there)
          exact ⟨record, stored, influencer, step_formFor made sound.deployed.accounts event⟩
      · exact sound.cards card member
    · exact sound.cards card member

theorem other_sound (sound : Sound engine rt requests visit) (request : Request) :
    Sound engine rt (requests ++ [request]) { visit with server := step rt visit.server request } := by
  refine ⟨sound.deployed.step request, fun card member => ?_⟩
  exact (sound.cards card member).mono (@run_grows rt visit.server [request]) (List.prefix_append _ _)

theorem run_sound (exact : Exact engine) (storage : LocalStorage) (events : List (PageEvent Act)) :
    Sound engine rt (events.filterMap PageEvent.request?)
      (events.foldl (OpenPage.step rt (act engine rt oidText)) ⟨.initial, storage, .initial⟩) := by
  induction events using List.reverseRecOn with
  | nil => exact ⟨⟨rfl, rfl⟩, List.forall_mem_nil _⟩
  | append_singleton events event sound =>
    rw [List.foldl_append, List.filterMap_append]
    generalize events.foldl (OpenPage.step rt (act engine rt oidText)) ⟨.initial, storage, .initial⟩ = visit
      at sound
    cases event with
    | act a occasion =>
      rw [List.filterMap_cons_none rfl, List.filterMap_nil, List.append_nil]
      exact act_sound exact sound a occasion
    | stored storage =>
      rw [List.filterMap_cons_none rfl, List.filterMap_nil, List.append_nil]
      exact ⟨sound.deployed, sound.cards⟩
    | other request => exact other_sound sound request

end Acts

/-- Whatever happens on the page of the creators and on the rest of the deployed server, and in
whatever order: a step of the page stores nothing, or one subscription, for the influencer on the card
whose form it is, who is the only one with that id then and later on, and for a phone number for which
the check of the PIN had been answered with yes before. -/
theorem creators_page_subscriptions (engine : JsEngine) (exact : Exact engine) (rt : Runtime)
    (oidText : Nat → String) (storage : LocalStorage) (events : List (PageEvent Act)) (a : Act)
    (occasion : Occasion) :
    let visit := events.foldl (OpenPage.step rt (act engine rt oidText)) ⟨.initial, storage, .initial⟩
    let next := act engine rt oidText visit a occasion
    next.server = visit.server ∨ ∃ card record sub,
      next.server = visit.server.setSubscribers (visit.server.subscribersDb ++ [sub]) ∧
        MadeFor engine rt (events.filterMap PageEvent.request?) visit card record sub :=
  act_makes (run_sound exact storage events) a occasion

def pinHolder : Request :=
  ⟨.createUser, .ofEntries none [("phone", .str "254700000000"), ("pin", .str "1234")] rfl 7⟩

/-- Somebody with a PIN opens the page and confirms the form for the first influencer. -/
def firstSubscription : List (PageEvent Act) :=
  .other pinHolder ::
    ([.fetched, .form 0 (.setPhone "254700000000"), .form 0 .submit, .form 0 (.setPin "1234"),
      .form 0 .submit, .form 0 (.verified 0)].map fun a => .act a ⟨0, 0, 0⟩)

theorem creators_page_subscriptions_first :
    let act := act SubscriberDashboard.plainJsEngine plainRuntime toString
    let visit := firstSubscription.foldl (OpenPage.step plainRuntime act) ⟨.initial, [], .initial⟩
    let next := act visit (.form 0 (.processed 0)) ⟨0, 0, 0⟩
    next.server.subscribersDb.map Subscription.influencerId = [.int 1] ∧
      (next.server = visit.server ∨ ∃ card record sub,
        next.server = visit.server.setSubscribers (visit.server.subscribersDb ++ [sub]) ∧
          MadeFor SubscriberDashboard.plainJsEngine plainRuntime
            (firstSubscription.filterMap PageEvent.request?) visit card record sub) :=
  ⟨by decide +kernel, creators_page_subscriptions SubscriberDashboard.plainJsEngine (fun _ _ => rfl)
    plainRuntime toString [] firstSubscription (.form 0 (.processed 0)) ⟨0, 0, 0⟩⟩

end InfluencerList

/-! The dashboard of the creators: one influencer of the list, with a box to choose another. -/

namespace InfluencerDashboard

open InfluencerList

structure Page where
  influencers : List Value
  isLoading : Bool
  failed : Bool
  isMounted : Bool
  selectedId : Option Int

def Page.initial : Page := ⟨[], true, false, true, none⟩

inductive Act where
  | fetched
  | unmount
  | select (selectedId : Int)

/-- `selectedId ? influencers.find(inf => inf.id === selectedId) : influencers[0]`. -/
def Page.influencer (page : Page) : Option Value :=
  match page.selectedId with
  | none | some 0 => page.influencers.head?
  | some selectedId =>
      page.influencers.find? fun inf => formId (Js.property (some inf) "id") = some selectedId

def act (engine : JsEngine) (rt : Runtime) (oidText : Nat → String) (visit : OpenPage Page) (a : Act)
    (occasion : Occasion) : OpenPage Page :=
  let page := visit.page
  match a with
  | .fetched =>
      let (data, after) := visit.ask engine rt oidText (some InfluencerApi.getAll) occasion
      if page.isLoading && page.isMounted then
        match data.toOption.bind itemsOf with
        | some items => after.show { page with influencers := items, isLoading := false }
        | none => after.show { page with failed := true, isLoading := false }
      else after
  | .unmount => visit.show { page with isMounted := false }
  | .select selectedId => visit.show { page with selectedId := some selectedId }

/-- What is listed are influencers of the server. -/
def Lists (engine : JsEngine) (s : Server) (page : Page) : Prop :=
  ∀ item ∈ page.influencers, ∃ record ∈ s.influencersDb,
    withImage (AdminInfluencerManagement.delivered engine record) = some item

section Acts

variable {engine : JsEngine} {rt : Runtime} {oidText : Nat → String} {requests : List Request}
  {visit : OpenPage Page} {page : Page} {s s' : Server}

theorem Lists.mono (lists : Lists engine s page) (grows : s.influencersDb <+: s'.influencersDb) :
    Lists engine s' page := by
  intro item member
  obtain ⟨record, stored, imaged⟩ := lists item member
  exact ⟨record, grows.subset stored, imaged⟩

/-- And so is the one that is shown. -/
theorem Lists.influencer (lists : Lists engine s page) {item : Value}
    (shown : page.influencer = some item) :
    ∃ record ∈ s.influencersDb,
      withImage (AdminInfluencerManagement.delivered engine record) = some item := by
  refine lists item ?_
  unfold Page.influencer at shown
  split at shown
  · exact List.mem_of_mem_head? shown
  · exact List.mem_of_mem_head? shown
  · exact List.mem_of_find?_eq_some shown

/-- The dashboard reads, and lists what it has read. -/
theorem act_lists (deployed : Deployed rt requests visit.server)
    (lists : Lists engine visit.server visit.page) (a : Act) (occasion : Occasion) :
    let after := act engine rt oidText visit a occasion
    Lists engine after.server after.page ∧ after.server = visit.server := by
  intro after
  cases a with
  | fetched =>
    have same := @ask_list engine rt oidText _ visit occasion InfluencerApi.getAll (by decide)
    have server : after.server = visit.server := by
      change (act engine rt oidText visit .fetched occasion).server = _
      unfold act
      dsimp only
      split_ifs
      · split <;> exact same
      · exact same
    refine ⟨?_, server⟩
    rw [server]
    change Lists engine visit.server (act engine rt oidText visit .fetched occasion).page
    unfold act
    dsimp only
    split_ifs
    · split
      · next items listed => exact fun item member => items_delivered deployed listed member
      · exact lists
    · exact lists
  | unmount => exact ⟨lists, rfl⟩
  | select selectedId => exact ⟨lists, rfl⟩

/-- What the others have left, and what is listed of it. -/
theorem run_lists (storage : LocalStorage) (events : List (PageEvent Act)) :
    let later := events.foldl (OpenPage.step rt (act engine rt oidText)) ⟨.initial, storage, .initial⟩
    later.server = run rt .initial (events.filterMap PageEvent.request?) ∧
      Lists engine later.server later.page := by
  induction events using List.reverseRecOn with
  | nil => exact ⟨rfl, List.forall_mem_nil _⟩
  | append_singleton events event sound =>
    rw [List.foldl_append, List.filterMap_append]
    generalize events.foldl (OpenPage.step rt (act engine rt oidText)) ⟨.initial, storage, .initial⟩ = visit
      at sound
    obtain ⟨left, lists⟩ := sound
    cases event with
    | act a occasion =>
      rw [List.filterMap_cons_none rfl, List.filterMap_nil, List.append_nil]
      have deployed : Deployed rt (events.filterMap PageEvent.request?) visit.server := by
        rw [left]
        exact ⟨rfl, rfl⟩
      obtain ⟨listed, same⟩ := @act_lists engine rt oidText _ visit deployed lists a occasion
      exact ⟨same.trans left, listed⟩
    | stored storage =>
      rw [List.filterMap_cons_none rfl, List.filterMap_nil, List.append_nil]
      exact ⟨left, lists⟩
    | other request =>
      refine ⟨?_, lists.mono (@run_grows rt visit.server [request])⟩
      rw [run, List.foldl_append]
      change step rt visit.server request = step rt (run rt .initial _) request
      rw [left]

end Acts

/-- In every run of the dashboard between the requests of others it changes nothing on the server, and
whomever it shows is an influencer that the server has, whatever was chosen. -/
theorem creators_dashboard_reads (engine : JsEngine) (rt : Runtime) (oidText : Nat → String)
    (storage : LocalStorage) (events : List (PageEvent Act)) :
    let later := events.foldl (OpenPage.step rt (act engine rt oidText)) ⟨.initial, storage, .initial⟩
    later.server = run rt .initial (events.filterMap PageEvent.request?) ∧
      ∀ item, later.page.influencer = some item → ∃ record ∈ later.server.influencersDb,
        withImage (AdminInfluencerManagement.delivered engine record) = some item := by
  intro later
  obtain ⟨left, lists⟩ := @run_lists engine rt oidText storage events
  exact ⟨left, fun item shown => lists.influencer shown⟩

end InfluencerDashboard

end UssdCredit
