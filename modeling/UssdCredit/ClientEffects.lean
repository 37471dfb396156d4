import UssdCredit.CreatorsPage
import UssdCredit.ManagementPages

/-! The whole client against the whole server: any number of people with any number of pages, and
others who send what they like. What a step of the client can do to the stores is little, whatever
page it is on. -/

namespace UssdCredit

open Library Program

/-- A page that has been opened. One that has been left stays, for what it has under way. -/
inductive Mounted where
  | creators (page : InfluencerList.Page)
  | revenue (page : InfluencerDashboard.Page)
  | subscriber (page : SubscriberDashboard)
  | dashboard (page : AdminDashboard.Page)
  | users (page : AdminUserManagement.Page)
  | influencers (page : AdminInfluencerManagement.Page)

/-- The routes to pages that keep a state of their own. -/
inductive PagePath where
  | home
  | dashboard
  | subscriber
  | admin
  | adminUsers
  | adminInfluencers

def PagePath.opened : PagePath → Mounted
  | .home => .creators .initial
  | .dashboard => .revenue .initial
  | .subscriber => .subscriber .initial
  | .admin => .dashboard .initial
  | .adminUsers => .users .initial
  | .adminInfluencers => .influencers .initial

inductive MountedAct where
  | creators (a : InfluencerList.Act)
  | revenue (a : InfluencerDashboard.Act)
  | subscriber (a : SubscriberDashboard.Act)
  | dashboard (a : AdminDashboard.Act)
  | users (a : AdminUserManagement.Act)
  | influencers (a : AdminInfluencerManagement.Act)

/-- What a client does: with the forms of the account, by opening a page, or on an open one. -/
inductive ClientAct where
  | form (action : FormAction)
  | visit (path : PagePath)
  | page (screen : Nat) (a : MountedAct)

structure Client where
  site : Site
  screens : List Mounted

structure World where
  clients : Nat → Client
  server : Server

inductive Happening where
  | client (i : Nat) (a : ClientAct) (occasion : Occasion)
  | other (request : Request)

/-- A page seen as one of the pages there are. -/
def OpenPage.within {Page : Type} (screen : Page → Mounted) (visit : OpenPage Page) : OpenPage Mounted :=
  ⟨screen visit.page, visit.localStorage, visit.server⟩

section Definitions

variable (engine : JsEngine) (toLowerCase : String → String) (rt : Runtime) (browser : Browser)
  (oidText : Nat → String)

def Mounted.act (visit : OpenPage Mounted) (a : MountedAct) (occasion : Occasion) : OpenPage Mounted :=
  match visit.page, a with
  | .creators page, .creators a =>
      (InfluencerList.act engine rt oidText ⟨page, visit.localStorage, visit.server⟩ a occasion).within .creators
  | .revenue page, .revenue a =>
      (InfluencerDashboard.act engine rt oidText ⟨page, visit.localStorage, visit.server⟩ a
        occasion).within .revenue
  | .subscriber page, .subscriber a =>
      (SubscriberDashboard.act engine rt oidText ⟨page, visit.localStorage, visit.server⟩ a
        occasion).within .subscriber
  | .dashboard page, .dashboard a =>
      (AdminDashboard.act engine rt oidText ⟨page, visit.localStorage, visit.server⟩ a occasion).within .dashboard
  | .users page, .users a =>
      (AdminUserManagement.act engine toLowerCase rt oidText ⟨page, visit.localStorage, visit.server⟩ a
        occasion).within .users
  | .influencers page, .influencers a =>
      (AdminInfluencerManagement.act engine toLowerCase rt oidText ⟨page, visit.localStorage, visit.server⟩ a
        occasion).within .influencers
  | _, _ => visit

/-- A client after an act, with the server it has found. -/
def Client.act (client : Client) (server : Server) (a : ClientAct) (occasion : Occasion) : Client × Server :=
  match a with
  | .form action =>
      let site := action.run rt browser oidText { client.site with server } occasion
      ({ client with site }, site.server)
  | .visit path => ({ client with screens := client.screens ++ [path.opened] }, server)
  | .page i a =>
      match client.screens[i]? with
      | some screen =>
          let after := Mounted.act engine toLowerCase rt oidText ⟨screen, client.site.localStorage, server⟩ a
            occasion
          (⟨{ client.site with localStorage := after.localStorage }, client.screens.set i after.page⟩,
            after.server)
      | none => (client, server)

def World.step (world : World) : Happening → World
  | .client i a occasion =>
      let after := (world.clients i).act engine toLowerCase rt browser oidText world.server a occasion
      ⟨Function.update world.clients i after.1, after.2⟩
  | .other request => { world with server := UssdCredit.step rt world.server request }

end Definitions

/-- Clients without an open page, and a server that has just started on an empty database. -/
def World.initial (sites : Nat → Site) : World := ⟨fun i => ⟨sites i, []⟩, .initial⟩

/-! What a step of the client may do. -/

structure ClientEffect (rt : Runtime) (s s' : Server) : Prop where
  accounts : Tends rt s.users s'.users
  influencers : s'.influencersDb = s.influencersDb
  subscriptions : s'.subscribersDb = s.subscribersDb ∨ ∃ record ∈ s.influencersDb, ∃ sub : Subscription,
    s'.subscribersDb = s.subscribersDb ++ [sub] ∧ sub.influencerId = .int record.id

/-- What the invariants of the pages say of an open one. -/
def MountedFor (engine : JsEngine) (rt : Runtime) (requests : List Request) (s : Server) : Mounted → Prop
  | .creators page => ∀ card ∈ page.cards, InfluencerList.CardFor engine rt requests s card
  | .revenue page => InfluencerDashboard.Lists engine s page
  | .subscriber page => page.Nameless
  | .dashboard page => AdminDashboard.Inert engine page
  | .users page => AdminUserManagement.Inert page
  | .influencers page => AdminInfluencerManagement.Shows (fun _ => True) page

structure Whole (engine : JsEngine) (rt : Runtime) (requests : List Request) (world : World) : Prop where
  deployed : InfluencerList.Deployed rt requests world.server
  screens : ∀ i, ∀ screen ∈ (world.clients i).screens, MountedFor engine rt requests world.server screen

section Acts

variable {engine : JsEngine} {toLowerCase : String → String} {rt : Runtime} {browser : Browser}
  {oidText : Nat → String} {requests later : List Request} {s s' : Server}

theorem ClientEffect.refl (s : Server) : ClientEffect rt s s := ⟨.refl _, rfl, .inl rfl⟩

theorem ClientEffect.grows (effect : ClientEffect rt s s') : s.influencersDb <+: s'.influencersDb := by
  rw [effect.influencers]

theorem MountedFor.mono {screen : Mounted} (made : MountedFor engine rt requests s screen)
    (grows : s.influencersDb <+: s'.influencersDb) (longer : requests <+: later) :
    MountedFor engine rt later s' screen := by
  cases screen with
  | creators page => exact fun card member => (made card member).mono grows longer
  | revenue page => exact InfluencerDashboard.Lists.mono made grows
  | subscriber _ | dashboard _ | users _ | influencers _ => exact made

theorem mountedFor_opened (path : PagePath) : MountedFor engine rt requests s path.opened := by
  cases path with
  | home => exact List.forall_mem_nil _
  | dashboard => exact List.forall_mem_nil _
  | subscriber => exact List.forall_mem_nil _
  | admin => exact ⟨List.forall_mem_nil _, .inl rfl, .inl rfl⟩
  | adminUsers => exact ⟨.inl rfl, fun _ reported => by cases reported⟩
  | adminInfluencers => exact .inl ⟨trivial, fun _ reported => by cases reported⟩

/-- A step of a page keeps its invariant and the stores but for a subscription. -/
theorem mounted_act (exact : InfluencerList.Exact engine) {visit : OpenPage Mounted}
    (deployed : InfluencerList.Deployed rt requests visit.server)
    (made : MountedFor engine rt requests visit.server visit.page) (a : MountedAct) (occasion : Occasion) :
    let after := Mounted.act engine toLowerCase rt oidText visit a occasion
    MountedFor engine rt requests after.server after.page ∧
      after.server.collection = visit.server.collection ∧ ClientEffect rt visit.server after.server := by
  obtain ⟨screen, storage, server⟩ := visit
  have unmoved : ∀ (same : Server) page, same = server → MountedFor engine rt requests server page →
      MountedFor engine rt requests same page ∧ same.collection = server.collection ∧
        ClientEffect rt server same := by
    rintro same page rfl kept
    exact ⟨kept, rfl, .refl _⟩
  cases screen with
  | creators page =>
    cases a with
    | creators a =>
      have sound : InfluencerList.Sound engine rt requests ⟨page, storage, server⟩ := ⟨deployed, made⟩
      refine ⟨(InfluencerList.act_sound exact sound a occasion).cards, ?_⟩
      have makes := @InfluencerList.act_makes engine rt oidText requests _ sound a occasion
      have after : (Mounted.act engine toLowerCase rt oidText ⟨.creators page, storage, server⟩ (.creators a)
          occasion).server = (InfluencerList.act engine rt oidText ⟨page, storage, server⟩ a occasion).server :=
        rfl
      rw [after]
      rcases makes with same | ⟨card, record, sub, stored, for_card⟩
      · rw [same]
        exact ⟨rfl, .refl _⟩
      · rw [stored]
        exact ⟨rfl, .refl _, rfl, .inr ⟨record, for_card.stays [], sub, rfl, for_card.payee⟩⟩
    | revenue _ | subscriber _ | dashboard _ | users _ | influencers _ => exact unmoved _ _ rfl made
  | revenue page =>
    cases a with
    | revenue a =>
      have after :=
        @InfluencerDashboard.act_lists engine rt oidText requests ⟨page, storage, server⟩ deployed
        made a occasion
      have lists : InfluencerDashboard.Lists engine server _ := after.2 ▸ after.1
      exact unmoved _ (.revenue _) after.2 lists
    | creators _ | subscriber _ | dashboard _ | users _ | influencers _ => exact unmoved _ _ rfl made
  | subscriber page =>
    cases a with
    | subscriber a =>
      have after := @SubscriberDashboard.act_nameless engine rt oidText ⟨page, storage, server⟩ a occasion made
      exact unmoved _ _ after.2 after.1
    | creators _ | revenue _ | dashboard _ | users _ | influencers _ => exact unmoved _ _ rfl made
  | dashboard page =>
    cases a with
    | dashboard a =>
      have after := @AdminDashboard.act_inert engine rt oidText ⟨page, storage, server⟩ a occasion made
      exact unmoved _ _ after.2 after.1
    | creators _ | revenue _ | subscriber _ | users _ | influencers _ => exact unmoved _ _ rfl made
  | users page =>
    cases a with
    | users a =>
      have after := @AdminUserManagement.act_inert engine toLowerCase rt oidText ⟨page, storage, server⟩ a
        occasion made
      exact unmoved _ _ after.2 after.1
    | creators _ | revenue _ | subscriber _ | dashboard _ | influencers _ => exact unmoved _ _ rfl made
  | influencers page =>
    cases a with
    | influencers a =>
      have after := @AdminInfluencerManagement.act_shows engine toLowerCase rt oidText
        ⟨page, storage, server⟩ occasion (fun _ => True) trivial made a
      exact unmoved _ _ after.2 after.1
    | creators _ | revenue _ | subscriber _ | dashboard _ | users _ => exact unmoved _ _ rfl made

theorem asks_store {request : Request} (asks : FormAction.Asks request) :
    request.endpoint.store = .database := by
  cases asks <;> rfl

/-- A step of a client has an effect of the client only, and so have those that may follow. -/
theorem client_act (exact : InfluencerList.Exact engine) {client : Client}
    (deployed : InfluencerList.Deployed rt requests s)
    (screens : ∀ screen ∈ client.screens, MountedFor engine rt requests s screen) (a : ClientAct)
    (occasion : Occasion) :
    let after := client.act engine toLowerCase rt browser oidText s a occasion
    ClientEffect rt s after.2 ∧ ∃ later, requests <+: later ∧ InfluencerList.Deployed rt later after.2 ∧
      ∀ screen ∈ after.1.screens, MountedFor engine rt later after.2 screen := by
  cases a with
  | form action =>
    have sent := @FormAction.server rt browser oidText { client.site with server := s } occasion action
    unfold Client.act
    dsimp only
    rcases sent with same | ⟨request, asks, same⟩
    · rw [same]
      exact ⟨.refl _, requests, List.prefix_rfl, deployed, screens⟩
    · rw [same]
      have elsewhere : ∀ store ≠ Store.database, (step rt s request).Agree s store :=
        fun store other => step_other ((asks_store asks).trans_ne other.symm)
      have influencers : (step rt s request).influencersDb = s.influencersDb :=
        elsewhere .influencers Store.noConfusion
      have subscriptions : (step rt s request).subscribersDb = s.subscribersDb :=
        elsewhere .subscriptions Store.noConfusion
      refine ⟨⟨asks.tends s, influencers, .inl subscriptions⟩, requests ++ [request],
        List.prefix_append _ _, deployed.step request, fun screen member => ?_⟩
      exact (screens screen member).mono (by rw [influencers]) (List.prefix_append _ _)
  | visit path =>
    refine ⟨.refl _, requests, List.prefix_rfl, deployed, fun screen member => ?_⟩
    rcases List.mem_append.mp member with old | new
    · exact screens screen old
    · rw [List.mem_singleton.mp new]
      exact mountedFor_opened path
  | page i a =>
    unfold Client.act
    dsimp only
    split
    · next screen there =>
      obtain ⟨made, documents, effect⟩ := @mounted_act engine toLowerCase rt oidText requests exact
        ⟨screen, client.site.localStorage, s⟩ deployed (screens screen (List.mem_of_getElem? there)) a occasion
      refine ⟨effect, requests, List.prefix_rfl, ⟨?_, ?_⟩, fun other member => ?_⟩
      · exact documents.trans deployed.accounts
      · exact effect.influencers.trans deployed.influencers
      · rcases List.mem_or_eq_of_mem_set member with old | rfl
        · exact (screens other old).mono effect.grows List.prefix_rfl
        · exact made
    · exact ⟨.refl _, requests, List.prefix_rfl, deployed, screens⟩

theorem Whole.step (exact : InfluencerList.Exact engine) {world : World}
    (whole : Whole engine rt requests world) (happening : Happening) :
    ∃ later, Whole engine rt later (world.step engine toLowerCase rt browser oidText happening) := by
  cases happening with
  | client i a occasion =>
    obtain ⟨effect, later, longer, deployed, screens⟩ :=
      @client_act engine toLowerCase rt browser oidText requests world.server exact (world.clients i)
        whole.deployed (whole.screens i) a occasion
    refine ⟨later, deployed, fun j screen member => ?_⟩
    unfold World.step at member
    dsimp only at member
    by_cases own : j = i
    · subst own
      rw [Function.update_self] at member
      exact screens screen member
    · rw [Function.update_of_ne own] at member
      exact (whole.screens j screen member).mono effect.grows longer
  | other request =>
    refine ⟨requests ++ [request], whole.deployed.step request, fun j screen member => ?_⟩
    exact (whole.screens j screen member).mono (@InfluencerList.run_grows rt world.server [request])
      (List.prefix_append _ _)

end Acts

/-- In every state that any number of clients reach on a server that has just started on an empty
database, whatever pages they open, whatever they do on them and whatever others send meanwhile, a
step of a client loses no account, raises or lowers no privilege and adds ordinary users only, with
passwords of eight characters at least; it changes no influencer; and it changes no subscription and
adds one at most, for an influencer that there is. -/
theorem shipped_client_effects (engine : JsEngine) (exact : InfluencerList.Exact engine)
    (toLowerCase : String → String) (rt : Runtime) (browser : Browser) (oidText : Nat → String)
    (sites : Nat → Site) (happenings : List Happening) :
    Throughout (World.step engine toLowerCase rt browser oidText) (fun world =>
      ∀ (i : Nat) (a : ClientAct) (occasion : Occasion), ClientEffect rt world.server
        (world.step engine toLowerCase rt browser oidText (.client i a occasion)).server)
      (.initial sites) happenings := by
  refine @throughout_of_invariant _ _ _ _ (fun world => ∃ requests, Whole engine rt requests world)
    ?_ ?_ _ ?_ happenings
  · rintro world ⟨requests, whole⟩ i a occasion
    exact (client_act exact whole.deployed (whole.screens i) a occasion).1
  · rintro world happening ⟨requests, whole⟩
    exact whole.step exact happening
  · exact ⟨[], ⟨rfl, rfl⟩, fun _ => List.forall_mem_nil _⟩

/-- A client with a PIN subscribes on the page of the creators, another one looks on. -/
def firstSubscriber : List Happening :=
  [.other InfluencerList.pinHolder, .client 0 (.visit .home) ⟨0, 0, 0⟩,
    .client 1 (.visit .adminInfluencers) ⟨0, 0, 0⟩] ++
    ([.fetched, .form 0 (.setPhone "254700000000"), .form 0 .submit, .form 0 (.setPin "1234"),
      .form 0 .submit, .form 0 (.verified 0), .form 0 (.processed 0)].map fun a =>
        .client 0 (.page 0 (.creators a)) ⟨0, 0, 0⟩)

theorem shipped_client_effects_first :
    let step := World.step SubscriberDashboard.plainJsEngine id plainRuntime plainBrowser toString
    let start := World.initial fun _ => visitor Server.initial
    (firstSubscriber.foldl step start).server.subscribersDb.length = 1 ∧
      Throughout step (fun world => ∀ (i : Nat) (a : ClientAct) (occasion : Occasion),
        ClientEffect plainRuntime world.server (step world (.client i a occasion)).server)
        start firstSubscriber :=
  ⟨by decide +kernel, shipped_client_effects SubscriberDashboard.plainJsEngine (fun _ _ => rfl) id plainRuntime
    plainBrowser toString (fun _ => visitor Server.initial) firstSubscriber⟩

end UssdCredit
