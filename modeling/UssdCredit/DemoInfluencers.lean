import UssdCredit.InfluencerInvariant

/-! The demo influencers: what adding them does to a list, whatever is in it, and that adding
them again does nothing as long as no demo record is deleted. -/

namespace UssdCredit

open Library Program InfluencersSimple

/-- The demo records whose phones are not taken. -/
def newSamples (db : List Influencer) : List Sample :=
  sampleInfluencers.filter fun sample => !phoneTaken (.str sample.phone) db

/-- Samples as records under consecutive ids. -/
def numbered (first : Int) : List Sample → List Influencer
  | [] => []
  | sample :: rest => sample.record first :: numbered (first + 1) rest

theorem ids_numbered (first : Int) (samples : List Sample) :
    (numbered first samples).map Influencer.id = Records.consecutive first samples.length := by
  induction samples generalizing first with
  | nil => rfl
  | cons sample rest ih =>
    rw [numbered, List.map_cons, ih]
    rfl

theorem records_numbered (first : Int) (samples : List Sample) :
    List.Forall₂ (fun sample inf => inf = sample.record inf.id) samples (numbered first samples) := by
  induction samples generalizing first with
  | nil => exact .nil
  | cons sample rest ih => exact .cons rfl (ih (first + 1))

theorem mem_numbered {first : Int} {samples : List Sample} {sample : Sample} (member : sample ∈ samples) :
    ∃ id, sample.record id ∈ numbered first samples := by
  induction samples generalizing first with
  | nil => cases member
  | cons other rest ih =>
    rcases List.mem_cons.mp member with rfl | member
    · exact ⟨first, List.mem_cons_self⟩
    · obtain ⟨id, stored⟩ := ih member
      exact ⟨id, List.mem_cons_of_mem _ stored⟩

theorem phoneTaken_append (phone : Value) (db db' : List Influencer) :
    phoneTaken phone (db ++ db') = (phoneTaken phone db || phoneTaken phone db') := List.any_append

/-- A demo record takes its own phone and no other text. -/
theorem phoneTaken_sample (phone : String) (sample : Sample) (id : Int) :
    phoneTaken (.str phone) [sample.record id] = decide (sample.phone = phone) := by
  have same : (Value.str sample.phone).pyEq (.str phone) = decide (sample.phone = phone) := by
    rw [Bool.eq_iff_iff, Value.pyEq_str, decide_eq_true_iff]
    exact ⟨fun equal => Scalar.str.inj (Value.scalar.inj equal), fun equal => by rw [equal]⟩
  rw [← same]
  exact Bool.or_false _

/-- The loop appends the samples whose phones were not taken before it, under consecutive ids:
what a round appends is not in the way of the later ones. -/
theorem foldl_addSample {samples : List Sample} (distinct : samples.Pairwise fun a b => a.phone ≠ b.phone)
    (db : List Influencer) :
    samples.foldl addSample db = db ++ numbered (nextInfluencerId db)
      (samples.filter fun sample => !phoneTaken (.str sample.phone) db) := by
  induction samples generalizing db with
  | nil => exact (List.append_nil db).symm
  | cons sample rest ih =>
    obtain ⟨others, distinct⟩ := List.pairwise_cons.mp distinct
    rw [List.foldl_cons, ih distinct, addSample]
    cases taken : phoneTaken (.str sample.phone) db with
    | true => simp [taken]
    | false =>
      have next : nextInfluencerId (db ++ [sample.record (nextInfluencerId db)]) =
          nextInfluencerId db + 1 := by
        unfold nextInfluencerId
        rw [List.map_append, List.map_singleton]
        exact Records.nextId_append_nextId _
      have later : ∀ other ∈ rest,
          (!phoneTaken (.str other.phone) (db ++ [sample.record (nextInfluencerId db)])) =
            !phoneTaken (.str other.phone) db := by
        intro other member
        rw [phoneTaken_append, phoneTaken_sample, decide_eq_false (others other member), Bool.or_false]
      rw [if_neg Bool.false_ne_true, next, List.filter_congr later, List.filter_cons, taken]
      rw [if_pos (by rfl), numbered, List.append_assoc]
      rfl

theorem ids_addSamples {samples : List Sample}
    (distinct : samples.Pairwise fun a b => a.phone ≠ b.phone) (db : List Influencer) :
    (samples.foldl addSample db).map Influencer.id =
      db.map Influencer.id ++ Records.consecutive (nextInfluencerId db)
        (samples.filter fun sample => !phoneTaken (.str sample.phone) db).length := by
  rw [foldl_addSample distinct, List.map_append, ids_numbered]

theorem sampleInfluencers_phones : sampleInfluencers.Pairwise fun a b => a.phone ≠ b.phone := by decide

/-- What the endpoint appends. -/
def demoRecords (db : List Influencer) : List Influencer := numbered (nextInfluencerId db) (newSamples db)

theorem run_populate_eq (s : Server) :
    populateDemoInfluencers.serve s =
      (.ok (populatedAnswer s.influencersDb (s.influencersDb ++ demoRecords s.influencersDb)),
        s.setInfluencers (s.influencersDb ++ demoRecords s.influencersDb)) := by
  rw [run_populateDemoInfluencers, foldl_addSample sampleInfluencers_phones]
  rfl

/-- The records appended to a list by adding the demo influencers. -/
structure AppendsDemo (db appended : List Influencer) : Prop where
  records : List.Forall₂ (fun sample inf => inf = sample.record inf.id) (newSamples db) appended
  increasing : (appended.map Influencer.id).Pairwise (· < ·)
  above : ∀ old ∈ db, ∀ new ∈ appended, old.id < new.id
  ids : (db.map Influencer.id).Nodup → ((db ++ appended).map Influencer.id).Nodup
  phones : (db.Pairwise fun a b => a.phone.pyEq b.phone = false) →
    (db ++ appended).Pairwise fun a b => a.phone.pyEq b.phone = false

theorem demoRecords_above {db : List Influencer} {old new : Influencer} (before : old ∈ db)
    (appended : new ∈ demoRecords db) : old.id < new.id := by
  have least : nextInfluencerId db ≤ new.id := by
    have listed := List.mem_map_of_mem (f := Influencer.id) appended
    rw [demoRecords, ids_numbered] at listed
    exact (Records.mem_consecutive.mp listed).1
  exact (Records.lt_nextId (List.mem_map_of_mem before)).trans_le least

theorem appendsDemo (db : List Influencer) : AppendsDemo db (demoRecords db) where
  records := records_numbered _ _
  increasing := by
    rw [demoRecords, ids_numbered]
    exact Records.pairwise_consecutive _ _
  above := fun _ before _ appended => demoRecords_above before appended
  ids := by
    intro distinct
    have kept := nodup_addDemo distinct sampleInfluencers
    rwa [foldl_addSample sampleInfluencers_phones] at kept
  phones := by
    intro phones
    have kept := phones_addDemo phones sampleInfluencers
    rwa [foldl_addSample sampleInfluencers_phones] at kept

/-! Once they are there. -/

/-- The phones of the demo records are all taken. -/
def DemoStored (db : List Influencer) : Prop :=
  ∀ sample ∈ sampleInfluencers, phoneTaken (.str sample.phone) db = true

theorem phoneTaken_str {phone : String} {db : List Influencer} :
    phoneTaken (.str phone) db = true ↔ ∃ inf ∈ db, inf.phone = .str phone := by
  simp only [phoneTaken, List.any_eq_true, Value.pyEq_str]

theorem demoStored_populated (db : List Influencer) : DemoStored (db ++ demoRecords db) := by
  intro sample member
  rw [phoneTaken_append]
  cases taken : phoneTaken (.str sample.phone) db with
  | true => rfl
  | false =>
    have fresh : sample ∈ newSamples db := List.mem_filter.mpr ⟨member, by rw [taken]; rfl⟩
    obtain ⟨id, appended⟩ := @mem_numbered (nextInfluencerId db) _ _ fresh
    rw [Bool.false_or]
    exact phoneTaken_str.mpr ⟨_, appended, rfl⟩

theorem demoRecords_of_stored {db : List Influencer} (stored : DemoStored db) : demoRecords db = [] := by
  have none_new : newSamples db = [] := by
    refine List.filter_eq_nil_iff.mpr fun sample member => ?_
    rw [stored sample member]
    exact Bool.false_ne_true
  rw [demoRecords, none_new]
  rfl

/-- A deletion that finds no record with the phone of a demo record. -/
def SparesDemo (s : Server) (call : InfluencerCall) : Prop :=
  ∃ influencerId : Nat, call = .delete influencerId ∧
    ∀ inf, AdminInfluencers.findInfluencer influencerId s.influencersDb = some inf →
      ∀ sample ∈ sampleInfluencers, inf.phone ≠ .str sample.phone

theorem DemoStored.remove {db : List Influencer} (stored : DemoStored db) {influencerId : Int}
    (spares : ∀ inf, AdminInfluencers.findInfluencer influencerId db = some inf →
      ∀ sample ∈ sampleInfluencers, inf.phone ≠ .str sample.phone) :
    DemoStored (Records.remove Influencer.id influencerId db) := by
  cases found : AdminInfluencers.findInfluencer influencerId db with
  | none => rwa [Records.remove_of_find_none found]
  | some deleted =>
    obtain ⟨here, before, after, split, first⟩ := Records.find_eq_some_iff.mp found
    intro sample member
    obtain ⟨inf, listed, phone⟩ := phoneTaken_str.mp (stored sample member)
    rw [split, Records.remove_split here first]
    rw [split, List.mem_append, List.mem_cons] at listed
    refine phoneTaken_str.mpr ⟨inf, ?_, phone⟩
    rcases listed with earlier | rfl | later
    · exact List.mem_append_left _ earlier
    · exact absurd phone (spares _ found sample member)
    · exact List.mem_append_right _ later

theorem DemoStored.spared {s : Server} {call : InfluencerCall} (stored : DemoStored s.influencersDb)
    (spares : SparesDemo s call) : DemoStored (call.step s).influencersDb := by
  obtain ⟨influencerId, rfl, spares⟩ := spares
  rcases step_delete s influencerId with same | moved
  · rwa [same]
  · rw [moved]
    exact stored.remove spares

theorem populate_of_stored {s : Server} (stored : DemoStored s.influencersDb) :
    populateDemoInfluencers.serve s = (.ok (populatedAnswer s.influencersDb s.influencersDb), s) := by
  rw [run_populate_eq, demoRecords_of_stored stored, List.append_nil]
  rfl

/-- Adding the demo influencers appends those whose phones are not taken, in their order and
under new ids, keeps distinct ids and phones distinct, and answers with the growth of the list
as `added_count`. After that, and after any deletions of other records, it adds nothing. -/
theorem populate_conservative_idempotent (s : Server) :
    ∃ appended, AppendsDemo s.influencersDb appended ∧
      (populateDemoInfluencers.serve s).2 = s.setInfluencers (s.influencersDb ++ appended) ∧
      (populateDemoInfluencers.serve s).1 = .ok (jsonify 200 (.dict [
        ("message", .str s!"Successfully added {(appended.length : Int)} demo influencers"),
        ("total_influencers", .int (s.influencersDb ++ appended).length),
        ("added_count", .int appended.length)])) ∧
      ∀ deletions, AllSteps InfluencerCall.step SparesDemo (InfluencerCall.step s .populate) deletions →
        let later := deletions.foldl InfluencerCall.step (InfluencerCall.step s .populate)
        InfluencerCall.step later .populate = later := by
  have moved : InfluencerCall.step s .populate = _ := congrArg Prod.snd (run_populate_eq s)
  refine ⟨demoRecords s.influencersDb, appendsDemo _, moved, ?_, fun deletions spared => ?_⟩
  · have growth : ((s.influencersDb ++ demoRecords s.influencersDb).length : Int) -
        s.influencersDb.length = (demoRecords s.influencersDb).length := by
      rw [List.length_append]
      omega
    rw [run_populate_eq, populatedAnswer, growth]
  · refine congrArg Prod.snd (populate_of_stored ?_)
    refine AllSteps.run_invariant (fun s : Server => DemoStored s.influencersDb)
      (fun _ _ => DemoStored.spared) spared ?_
    rw [moved]
    exact demoStored_populated _

end UssdCredit
