import UssdCredit.InfluencerDocuments
import UssdCredit.InfluencerInvariant
import UssdCredit.Routes

/-! An update of an influencer in memory, field by field. The name is written before the phone is
tested, so a refused update may leave a new name. -/

namespace UssdCredit

open Library Program

namespace Influencer

/-- The record with the fields of a payload. -/
def updated (entries : Fields) (inf : Influencer) : Influencer where
  id := inf.id
  name := given entries "name" inf.name
  phone := given entries "phone" inf.phone
  received := given entries "received" inf.received
  imageUrl := given entries "imageUrl" inf.imageUrl
  ussdShortcode := (entries.lookup "ussd_shortcode").or inf.ussdShortcode
  createdAt := inf.createdAt

/-- One assignment: the field is written if the payload has the key. -/
def assigned (entries : Fields) (key : String) (write : Value → Influencer → Influencer)
    (inf : Influencer) : Influencer :=
  match entries.lookup key with
  | some value => write value inf
  | none => inf

theorem assigned_name (entries : Fields) :
    assigned entries "name" (fun name inf => { inf with name }) =
      fun inf => { inf with name := given entries "name" inf.name } := by
  funext inf
  unfold assigned given
  cases entries.lookup "name" <;> rfl

theorem assigned_phone (entries : Fields) :
    assigned entries "phone" (fun phone inf => { inf with phone }) =
      fun inf => { inf with phone := given entries "phone" inf.phone } := by
  funext inf
  unfold assigned given
  cases entries.lookup "phone" <;> rfl

theorem assigned_received (entries : Fields) :
    assigned entries "received" (fun received inf => { inf with received }) =
      fun inf => { inf with received := given entries "received" inf.received } := by
  funext inf
  unfold assigned given
  cases entries.lookup "received" <;> rfl

theorem assigned_imageUrl (entries : Fields) :
    assigned entries "imageUrl" (fun imageUrl inf => { inf with imageUrl }) =
      fun inf => { inf with imageUrl := given entries "imageUrl" inf.imageUrl } := by
  funext inf
  unfold assigned given
  cases entries.lookup "imageUrl" <;> rfl

theorem assigned_ussdShortcode (entries : Fields) :
    assigned entries "ussd_shortcode" (fun code inf => { inf with ussdShortcode := some code }) =
      fun inf => { inf with ussdShortcode := (entries.lookup "ussd_shortcode").or inf.ussdShortcode } := by
  funext inf
  unfold assigned
  cases entries.lookup "ussd_shortcode" <;> rfl

end Influencer

section Update

variable {req : Http} {s : Server} {entries : Fields} {α : Type}

/-- On an object no assignment fails. -/
theorem run_assign (key : String) (influencerId : Int) (write : Value → Influencer → Influencer)
    (f : Unit → Prog α) :
    (AdminInfluencers.assign (.dict entries) key influencerId write >>= f).run exec s =
      (f ()).run exec (s.setInfluencers (Records.modify Influencer.id influencerId
        (Influencer.assigned entries key write) s.influencersDb)) := by
  have ran : (AdminInfluencers.assign (.dict entries) key influencerId write).run exec s =
      (.ok (), s.setInfluencers (Records.modify Influencer.id influencerId
        (Influencer.assigned entries key write) s.influencersDb)) := by
    unfold AdminInfluencers.assign Influencer.assigned
    have asked : Value.pyIn key (.dict entries) = .ok (entries.lookup key).isSome := rfl
    rw [run_lift_bind exec asked]
    cases present : entries.lookup key with
    | none =>
      have kept : Records.modify Influencer.id influencerId (fun inf => inf) s.influencersDb =
          s.influencersDb := Records.modify_id influencerId s.influencersDb
      rw [kept]
      rfl
    | some value =>
      rw [Option.isSome_some, if_pos rfl, run_lift_bind exec (Value.pyIndex_held present)]
      rfl
  exact run_bind_ok ran f

/-- The phone of the payload belongs to another record. -/
def Conflicts (entries : Fields) (influencerId : Int) (db : List Influencer) : Bool :=
  match entries.lookup "phone" with
  | some phone => db.any fun inf => inf.phone.pyEq phone && inf.id ≠ influencerId
  | none => false

theorem run_phoneConflict (influencerId : Int) (f : Bool → Prog α) :
    (AdminInfluencers.phoneConflict (.dict entries) influencerId >>= f).run exec s =
      (f (Conflicts entries influencerId s.influencersDb)).run exec s := by
  have ran : (AdminInfluencers.phoneConflict (.dict entries) influencerId).run exec s =
      (.ok (Conflicts entries influencerId s.influencersDb), s) := by
    unfold AdminInfluencers.phoneConflict Conflicts
    have asked : Value.pyIn "phone" (.dict entries) = .ok (entries.lookup "phone").isSome := rfl
    rw [run_lift_bind exec asked]
    cases present : entries.lookup "phone" with
    | none => rfl
    | some phone =>
      rw [Option.isSome_some, if_pos rfl, run_lift_bind exec (Value.pyIndex_held present)]
      rfl
  exact run_bind_ok ran f

/-- A new name does not show in the test of the phone. -/
theorem conflicts_rename (influencerId : Int) (db : List Influencer) :
    Conflicts entries influencerId (Records.modify Influencer.id influencerId
      (Influencer.assigned entries "name" fun name inf => { inf with name }) db) =
        Conflicts entries influencerId db := by
  have keys : (Records.modify Influencer.id influencerId
      (Influencer.assigned entries "name" fun name inf => { inf with name }) db).map Influencer.keys =
        db.map Influencer.keys := by
    refine Records.map_modify (fun inf => ?_) influencerId db
    rw [Influencer.assigned_name]
    rfl
  unfold Conflicts
  cases entries.lookup "phone" with
  | none => rfl
  | some phone => exact any_keys keys fun keys => keys.2.pyEq phone && keys.1 ≠ influencerId

/-! The three ways an update ends. -/

section Ends

variable {influencerId : Nat} (parsed : req.getJson = .ok (.dict entries))

include parsed

theorem run_update_unknown
    (absent : AdminInfluencers.findInfluencer influencerId s.influencersDb = none) :
    (AdminInfluencers.adminUpdateInfluencer req influencerId).serve s =
      (.ok (AdminInfluencers.error 404 "Influencer not found"), s) := by
  unfold Prog.serve AdminInfluencers.adminUpdateInfluencer
  rw [run_lift_bind exec parsed, run_readInfluencers, absent]
  rfl

variable {influencer : Influencer}
  (found : AdminInfluencers.findInfluencer influencerId s.influencersDb = some influencer)

include found

/-- A refusal for the phone comes after the name. -/
theorem run_update_conflict (conflict : Conflicts entries influencerId s.influencersDb = true) :
    (AdminInfluencers.adminUpdateInfluencer req influencerId).serve s =
      (.ok (AdminInfluencers.error 409 "Phone number already exists"),
        s.setInfluencers (Records.modify Influencer.id influencerId
          (Influencer.assigned entries "name" fun name inf => { inf with name }) s.influencersDb)) := by
  unfold Prog.serve AdminInfluencers.adminUpdateInfluencer
  rw [run_lift_bind exec parsed, run_readInfluencers, found]
  dsimp only
  rw [run_assign, run_phoneConflict, setInfluencers_influencersDb, conflicts_rename, if_pos conflict]
  rfl

theorem run_update_accepted (free : Conflicts entries influencerId s.influencersDb = false) :
    ∃ body, (AdminInfluencers.adminUpdateInfluencer req influencerId).serve s =
      (.ok (jsonify 200 body), s.setInfluencers
        (Records.modify Influencer.id influencerId (Influencer.updated entries) s.influencersDb)) := by
  unfold Prog.serve AdminInfluencers.adminUpdateInfluencer
  rw [run_lift_bind exec parsed, run_readInfluencers, found]
  dsimp only
  rw [run_assign, run_phoneConflict, setInfluencers_influencersDb, conflicts_rename, free,
    if_neg Bool.false_ne_true]
  rw [run_assign, run_assign, run_assign, run_assign]
  simp only [setInfluencers_influencersDb]
  rw [Influencer.assigned_name, Influencer.assigned_phone, Influencer.assigned_received,
    Influencer.assigned_imageUrl, Influencer.assigned_ussdShortcode]
  -- The five writes reach one record, since none of them touches an id.
  rw [Records.modify_modify, Records.modify_modify, Records.modify_modify, Records.modify_modify]
  · exact ⟨_, rfl⟩
  · exact fun _ => rfl
  · exact fun _ => rfl
  · exact fun _ => rfl
  · exact fun _ => rfl

end Ends

end Update

theorem setInfluencers_eq_self (s : Server) (db : List Influencer) :
    s.setInfluencers db = s ↔ db = s.influencersDb := by
  constructor
  · exact fun same => congrArg Server.influencersDb same
  · rintro rfl
    rfl

/-- Without success nothing changes. With success the record with the id has the fields of the
payload, and nothing else changes. -/
def UpdateIsWhole (req : Http) (entries : Fields) (influencerId : Nat) (s : Server) : Prop :=
  let ended := (AdminInfluencers.adminUpdateInfluencer req influencerId).serve s
  if (Outcome.answer ended.1).succeeds then
    ended.2 = s.setInfluencers
      (Records.modify Influencer.id influencerId (Influencer.updated entries) s.influencersDb)
  else ended.2 = s

/-- The payload renames the record, and its phone is refused. -/
def RenamesAndConflicts (entries : Fields) (influencerId : Nat) (db : List Influencer) : Prop :=
  ∃ influencer, AdminInfluencers.findInfluencer influencerId db = some influencer ∧
    given entries "name" influencer.name ≠ influencer.name ∧ Conflicts entries influencerId db = true

/-- An update is all or nothing unless it renames the record before its phone is refused. -/
theorem influencer_update_whole_iff {req : Http} {entries : Fields}
    (parsed : req.getJson = .ok (.dict entries)) (influencerId : Nat) (s : Server) :
    UpdateIsWhole req entries influencerId s ↔
      ¬RenamesAndConflicts entries influencerId s.influencersDb := by
  unfold UpdateIsWhole RenamesAndConflicts
  cases found : AdminInfluencers.findInfluencer influencerId s.influencersDb with
  | none =>
    rw [run_update_unknown parsed found]
    refine iff_of_true rfl ?_
    rintro ⟨influencer, impossible, -⟩
    cases impossible
  | some influencer =>
    cases conflict : Conflicts entries influencerId s.influencersDb with
    | true =>
      rw [run_update_conflict parsed found conflict, Influencer.assigned_name]
      change s.setInfluencers _ = s ↔ _
      rw [setInfluencers_eq_self, Records.modify_eq_self_iff found]
      have kept : { influencer with name := given entries "name" influencer.name } = influencer ↔
          given entries "name" influencer.name = influencer.name := by
        constructor
        · exact fun same => congrArg Influencer.name same
        · exact fun same => by rw [same]
      rw [kept]
      constructor
      · rintro same ⟨other, here, renamed, -⟩
        obtain rfl := Option.some.inj here
        exact renamed same
      · intro unrenamed
        by_contra renamed
        exact unrenamed ⟨influencer, rfl, renamed, rfl⟩
    | false =>
      obtain ⟨body, ran⟩ := run_update_accepted parsed found conflict
      rw [ran]
      refine iff_of_true rfl ?_
      rintro ⟨other, -, -, impossible⟩
      cases impossible

/-- The server with the demo influencers; Sarah Kimani has the id 2 and David Ochieng the id 3. -/
def demoServer : Server := InfluencerCall.step Server.initial .populate

def renamedTo (phone : String) : Fields := [("name", .str "Sarah W. Kimani"), ("phone", .str phone)]

theorem influencer_update_whole_iff_free :
    let req := Http.ofEntries none (renamedTo "+254700000009") rfl 0
    UpdateIsWhole req (renamedTo "+254700000009") 2 demoServer := by
  intro req
  apply (@influencer_update_whole_iff req (renamedTo "+254700000009") rfl 2 demoServer).mpr
  rintro ⟨influencer, -, -, conflict⟩
  have free : Conflicts (renamedTo "+254700000009") 2 demoServer.influencersDb = false := by
    decide +kernel
  cases conflict.symm.trans free

/-- Sarah cannot have David's phone, and is renamed all the same. -/
theorem refused_update_renames :
    let req := Http.ofEntries none (renamedTo "+254700000002") rfl 0
    let ended := (AdminInfluencers.adminUpdateInfluencer req 2).serve demoServer
    (Outcome.answer ended.1).status = 409 ∧
      (AdminInfluencers.findInfluencer 2 demoServer.influencersDb).map Influencer.name =
        some (.str "Sarah Kimani") ∧
      (AdminInfluencers.findInfluencer 2 ended.2.influencersDb).map Influencer.name =
        some (.str "Sarah W. Kimani") ∧
      ¬UpdateIsWhole req (renamedTo "+254700000002") 2 demoServer := by
  intro req ended
  have before : (AdminInfluencers.findInfluencer 2 demoServer.influencersDb).map Influencer.name =
      some (.str "Sarah Kimani") := by decide +kernel
  have after : (AdminInfluencers.findInfluencer 2 ended.2.influencersDb).map Influencer.name =
      some (.str "Sarah W. Kimani") := by decide +kernel
  refine ⟨by decide +kernel, before, after, fun whole => ?_⟩
  have refused : (Outcome.answer ended.1).succeeds = false := by decide +kernel
  unfold UpdateIsWhole at whole
  rw [if_neg (ne_true_of_eq_false refused)] at whole
  rw [show ended.2 = demoServer from whole, before] at after
  revert after
  decide +kernel

end UssdCredit
