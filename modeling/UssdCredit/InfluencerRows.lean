import UssdCredit.InfluencerDocuments

/-! What the requests do to the influencer table: when each of them goes through, what it then
writes, and that it changes nothing otherwise. -/

namespace UssdCredit

open Library Program

/-! How the operations on the table run. -/

section Rules

variable {α : Type} {engine : SqlEngine} {rows : List InfluencerRow}

theorem sqlExec_mapped (mapped : engine.mapperError = none) (op : SqlOp) :
    sqlExec engine op rows = tableExec engine op rows := by
  unfold sqlExec
  rw [mapped]

/-- Without mappers no operation reaches the table. -/
theorem run_sqlUnmapped {op : SqlOp} {e : PyExn} (unmapped : engine.mapperError = some e)
    (f : op.Result → SqlProg α) :
    (Influencers.Sql.perform op >>= f).run (sqlExec engine) rows = (.error e, rows) := by
  have raised : sqlExec engine op rows = (.error e, rows) := by
    unfold sqlExec
    rw [unmapped]
  exact run_perform_error raised f

theorem run_sqlAll (mapped : engine.mapperError = none) (f : List InfluencerRow → SqlProg α) :
    (Influencers.Sql.perform .all >>= f).run (sqlExec engine) rows =
      (f (rows.mergeSort fun a b => a.id ≤ b.id)).run (sqlExec engine) rows := by
  have answered : sqlExec engine .all rows = (.ok (rows.mergeSort fun a b => a.id ≤ b.id), rows) := by
    rw [sqlExec_mapped mapped]
    rfl
  exact run_perform_bind answered f

theorem run_sqlGet {influencerId : Nat} (mapped : engine.mapperError = none)
    (reachable : encodeInt influencerId = none) (f : Option InfluencerRow → SqlProg α) :
    (Influencers.Sql.perform (.get influencerId) >>= f).run (sqlExec engine) rows =
      (f (Records.find InfluencerRow.id influencerId rows)).run (sqlExec engine) rows := by
  have answered : sqlExec engine (.get influencerId) rows =
      (.ok (Records.find InfluencerRow.id influencerId rows), rows) := by
    rw [sqlExec_mapped mapped]
    simp only [tableExec, reachable]
  exact run_perform_bind answered f

theorem run_sqlGet_error {influencerId : Nat} (mapped : engine.mapperError = none)
    (large : encodeInt influencerId ≠ none) (f : Option InfluencerRow → SqlProg α) :
    (Influencers.Sql.perform (.get influencerId) >>= f).run (sqlExec engine) rows =
      (.error sqlTooLarge, rows) := by
  have raised : sqlExec engine (.get influencerId) rows = (.error sqlTooLarge, rows) := by
    rw [sqlExec_mapped mapped]
    cases sent : encodeInt influencerId with
    | none => exact absurd sent large
    | some e => simp only [tableExec, sent]
  exact run_perform_error raised f

theorem run_sqlFirst {code : Value} (mapped : engine.mapperError = none)
    (asked : engine.binds code = none) (f : Option InfluencerRow → SqlProg α) :
    (Influencers.Sql.perform (.firstByShortcode code) >>= f).run (sqlExec engine) rows =
      (f (rows.find? fun row => row.ussdShortcode = engine.textColumn code)).run (sqlExec engine) rows := by
  have answered : sqlExec engine (.firstByShortcode code) rows =
      (.ok (rows.find? fun row => row.ussdShortcode = engine.textColumn code), rows) := by
    rw [sqlExec_mapped mapped]
    simp only [tableExec, asked]
  exact run_perform_bind answered f

theorem run_sqlFirst_error {code : Value} {e : PyExn} (mapped : engine.mapperError = none)
    (refused : engine.binds code = some e) (f : Option InfluencerRow → SqlProg α) :
    (Influencers.Sql.perform (.firstByShortcode code) >>= f).run (sqlExec engine) rows =
      (.error e, rows) := by
  have raised : sqlExec engine (.firstByShortcode code) rows = (.error e, rows) := by
    rw [sqlExec_mapped mapped]
    simp only [tableExec, refused]
  exact run_perform_error raised f

theorem run_sqlAdd {row : InfluencerRow} (mapped : engine.mapperError = none)
    (stores : engine.refuses rows (row.inserted rows) = none) (f : InfluencerRow → SqlProg α) :
    (Influencers.Sql.perform (.add row) >>= f).run (sqlExec engine) rows =
      (f (engine.columns (row.inserted rows))).run (sqlExec engine)
        (rows ++ [engine.columns (row.inserted rows)]) := by
  have answered : sqlExec engine (.add row) rows =
      (.ok (engine.columns (row.inserted rows)), rows ++ [engine.columns (row.inserted rows)]) := by
    rw [sqlExec_mapped mapped]
    simp only [tableExec, stores]
  exact run_perform_bind answered f

theorem run_sqlAdd_error {row : InfluencerRow} {e : PyExn} (mapped : engine.mapperError = none)
    (refused : engine.refuses rows (row.inserted rows) = some e) (f : InfluencerRow → SqlProg α) :
    (Influencers.Sql.perform (.add row) >>= f).run (sqlExec engine) rows = (.error e, rows) := by
  have raised : sqlExec engine (.add row) rows = (.error e, rows) := by
    rw [sqlExec_mapped mapped]
    simp only [tableExec, refused]
  exact run_perform_error raised f

theorem run_sqlSave {row : InfluencerRow} (mapped : engine.mapperError = none)
    (stores : engine.refuses rows row = none) (f : InfluencerRow → SqlProg α) :
    (Influencers.Sql.perform (.save row) >>= f).run (sqlExec engine) rows =
      (f (engine.columns row)).run (sqlExec engine)
        (Records.modify InfluencerRow.id row.id (fun _ => engine.columns row) rows) := by
  have answered : sqlExec engine (.save row) rows = (.ok (engine.columns row),
      Records.modify InfluencerRow.id row.id (fun _ => engine.columns row) rows) := by
    rw [sqlExec_mapped mapped]
    simp only [tableExec, stores]
  exact run_perform_bind answered f

theorem run_sqlSave_error {row : InfluencerRow} {e : PyExn} (mapped : engine.mapperError = none)
    (refused : engine.refuses rows row = some e) (f : InfluencerRow → SqlProg α) :
    (Influencers.Sql.perform (.save row) >>= f).run (sqlExec engine) rows = (.error e, rows) := by
  have raised : sqlExec engine (.save row) rows = (.error e, rows) := by
    rw [sqlExec_mapped mapped]
    simp only [tableExec, refused]
  exact run_perform_error raised f

/-- A deletion takes the row out, unless the database keeps it. -/
theorem run_sqlDelete (mapped : engine.mapperError = none) (id : Int) (f : Unit → SqlProg Response) :
    ((Influencers.Sql.perform (.delete id) >>= f).run (sqlExec engine) rows).2 = rows ∨
      (Influencers.Sql.perform (.delete id) >>= f).run (sqlExec engine) rows =
        (f ()).run (sqlExec engine) (Records.remove InfluencerRow.id id rows) := by
  have ran : sqlExec engine (.delete id) rows = tableExec engine (.delete id) rows :=
    sqlExec_mapped mapped _
  cases kept : engine.keeps rows id with
  | some e =>
    have raised : sqlExec engine (.delete id) rows = (.error e, rows) := by
      rw [ran]
      simp only [tableExec, kept]
    exact .inl (congrArg Prod.snd (run_perform_error raised f))
  | none =>
    have answered : sqlExec engine (.delete id) rows =
        (.ok (), Records.remove InfluencerRow.id id rows) := by
      rw [ran]
      simp only [tableExec, kept]
    exact .inr (run_perform_bind answered f)

/-- The answer after a commit, unless the schema cannot dump the row. -/
theorem run_sqlAnswer (status : Nat) (dumped : Except PyExn Value) :
    ∃ outcome : Outcome, ((do return jsonify status (← dumped) : SqlProg Response)).run (sqlExec engine) rows =
      (outcome, rows) ∧ ∀ response, outcome = .ok response → response.status = status := by
  cases dumped with
  | error e => exact ⟨.error e, rfl, nofun⟩
  | ok body =>
    refine ⟨.ok (jsonify status body), rfl, fun response same => ?_⟩
    rw [← Except.ok.inj same]
    rfl

end Rules

/-! Creations. -/

/-- The row a creation stores. -/
def newRow (entries : Fields) (now : Int) (rows : List InfluencerRow) : InfluencerRow where
  id := Records.nextId (rows.map InfluencerRow.id)
  phone := given entries "phone" .null
  name := given entries "name" (.str "")
  imageUrl := givenImage entries
  ussdShortcode := given entries "ussd_shortcode" .null
  received := orDefault (given entries "received" (.int 0)) (.int 0)
  status := orDefault (given entries "status" (.str "active")) (.str "active")
  createdAt := now
  updatedAt := now

/-- The first row with the shortcode of the payload, as a text column holds it. -/
def rowWithCode (engine : SqlEngine) (entries : Fields) (rows : List InfluencerRow) :
    Option InfluencerRow :=
  rows.find? fun row => row.ussdShortcode = engine.textColumn (given entries "ussd_shortcode" .null)

/-- A creation that goes through. -/
structure RowCreation (engine : SqlEngine) (rows : List InfluencerRow) (req : Http)
    (entries : Fields) : Prop where
  parsed : req.getJson = .ok (.dict entries)
  named : (given entries "name" .null).truthy = true
  coded : (given entries "ussd_shortcode" .null).truthy = true
  mapped : engine.mapperError = none
  asked : engine.binds (given entries "ussd_shortcode" .null) = none
  free : rowWithCode engine entries rows = none
  stores : engine.refuses rows (newRow entries req.now rows) = none

/-- How a creation with a JSON object can end. -/
inductive RowCreateRun (engine : SqlEngine) (rows : List InfluencerRow) (req : Http)
    (entries : Fields) : Outcome × List InfluencerRow → Prop where
  | unnamed (missing : (given entries "name" .null).truthy = false) :
      RowCreateRun engine rows req entries (.ok (abort 400 "Name is required"), rows)
  | uncoded (named : (given entries "name" .null).truthy = true)
      (missing : (given entries "ussd_shortcode" .null).truthy = false) :
      RowCreateRun engine rows req entries (.ok (abort 400 "USSD shortcode is required"), rows)
  | unmapped {e : PyExn} (unmapped : engine.mapperError ≠ none) :
      RowCreateRun engine rows req entries (.error e, rows)
  | unasked {e : PyExn} (refused : engine.binds (given entries "ussd_shortcode" .null) ≠ none) :
      RowCreateRun engine rows req entries (.error e, rows)
  | taken (named : (given entries "name" .null).truthy = true)
      (coded : (given entries "ussd_shortcode" .null).truthy = true)
      (found : (rowWithCode engine entries rows).isSome) :
      RowCreateRun engine rows req entries (.ok Influencers.taken, rows)
  | refused {e : PyExn} (named : (given entries "name" .null).truthy = true)
      (coded : (given entries "ussd_shortcode" .null).truthy = true)
      (free : rowWithCode engine entries rows = none)
      (refused : engine.refuses rows (newRow entries req.now rows) = some e) :
      RowCreateRun engine rows req entries (.error e, rows)
  | created {outcome : Outcome} (creation : RowCreation engine rows req entries)
      (answered : ∀ response, outcome = .ok response → response.status = 201) :
      RowCreateRun engine rows req entries
        (outcome, rows ++ [engine.columns (newRow entries req.now rows)])

theorem rowCreate_run {req : Http} {entries : Fields} (parsed : req.getJson = .ok (.dict entries))
    (engine : SqlEngine) (rows : List InfluencerRow) :
    RowCreateRun engine rows req entries
      ((Influencers.Sql.createInfluencer req engine).run (sqlExec engine) rows) := by
  unfold Influencers.Sql.createInfluencer
  rw [run_lift_bind _ parsed, run_lift_bind _ (incomplete_dict entries)]
  cases named : (given entries "name" .null).truthy with
  | false => exact .unnamed named
  | true =>
    cases coded : (given entries "ussd_shortcode" .null).truthy with
    | false => exact .uncoded named coded
    | true =>
      simp only [Bool.not_true, Bool.false_eq_true, if_false]
      rw [run_lift_bind _ (Value.pyGet_dict entries "ussd_shortcode" .null)]
      change RowCreateRun engine rows req entries (run (sqlExec engine) (Influencers.Sql.perform
        (.firstByShortcode (given entries "ussd_shortcode" .null)) >>= _) rows)
      cases mapped : engine.mapperError with
      | some e =>
        rw [run_sqlUnmapped mapped]
        exact .unmapped (by rw [mapped]; exact Option.some_ne_none e)
      | none =>
        cases asked : engine.binds (given entries "ussd_shortcode" .null) with
        | some e =>
          rw [run_sqlFirst_error mapped asked]
          exact .unasked (by rw [asked]; exact Option.some_ne_none e)
        | none =>
          rw [run_sqlFirst mapped asked]
          change RowCreateRun engine rows req entries (run (sqlExec engine)
            (if (rowWithCode engine entries rows).isSome then _ else _) rows)
          cases found : (rowWithCode engine entries rows).isSome with
          | true => exact .taken named coded found
          | false =>
            rw [if_neg Bool.false_ne_true]
            rw [run_lift_bind _ (Value.pyGet_dict entries "phone" .null)]
            rw [run_lift_bind _ (Value.pyGet_dict entries "name" (.str ""))]
            rw [run_lift_bind _ (imageUrl_dict entries)]
            rw [run_lift_bind _ (Value.pyGet_dict entries "ussd_shortcode" .null)]
            rw [run_lift_bind _ (Value.pyGet_dict entries "received" (.int 0))]
            rw [run_lift_bind _ (Value.pyGet_dict entries "status" (.str "active"))]
            have free := Option.not_isSome_iff_eq_none.mp (Bool.eq_false_iff.mp found)
            cases stores : engine.refuses rows (newRow entries req.now rows) with
            | some e =>
              rw [run_sqlAdd_error mapped stores]
              exact .refused named coded free stores
            | none =>
              rw [run_sqlAdd mapped stores]
              obtain ⟨outcome, ran, answered⟩ :=
                run_sqlAnswer 201 (engine.dump (engine.columns (newRow entries req.now rows)))
              exact ran ▸ .created ⟨parsed, named, coded, mapped, asked, free, stores⟩ answered

/-! Updates. -/

/-- The row after the assignments of an update. -/
def assignedRow (entries : Fields) (row : InfluencerRow) : InfluencerRow :=
  { row with
    name := if (given entries "name" .null).truthy then given entries "name" .null else row.name
    phone := if given entries "phone" .null ≠ .null then given entries "phone" .null else row.phone
    imageUrl := if (givenImage entries).truthy then givenImage entries else row.imageUrl
    ussdShortcode :=
      if (given entries "ussd_shortcode" .null).truthy then given entries "ussd_shortcode" .null
      else row.ussdShortcode
    received :=
      if given entries "received" .null ≠ .null then given entries "received" .null else row.received
    status :=
      if (given entries "status" .null).truthy then given entries "status" .null else row.status }

theorem assigned_dict (entries : Fields) (row : InfluencerRow) :
    Influencers.Sql.assigned (.dict entries) row = .ok (assignedRow entries row) := rfl

@[simp] theorem touch_id {now : Int} {old new : InfluencerRow} (same : new.id = old.id) :
    (Influencers.Sql.touch now old new).id = old.id := by
  unfold Influencers.Sql.touch
  split_ifs
  · rfl
  · exact same

@[simp] theorem touch_status (now : Int) (old new : InfluencerRow) :
    (Influencers.Sql.touch now old new).status = new.status := by
  unfold Influencers.Sql.touch
  split_ifs with same
  · rw [same]
  · rfl

/-- The row an update saves. -/
def updatedRow (entries : Fields) (now : Int) (row : InfluencerRow) : InfluencerRow :=
  Influencers.Sql.touch now row (assignedRow entries row)

/-- The update brings a shortcode that differs from the row's. -/
def rowRecodes (entries : Fields) (row : InfluencerRow) : Bool :=
  (given entries "ussd_shortcode" .null).truthy &&
    !(given entries "ussd_shortcode" .null).pyEq row.ussdShortcode

/-- An update that goes through, to the row it finds. -/
structure RowUpdate (engine : SqlEngine) (rows : List InfluencerRow) (req : Http) (influencerId : Nat)
    (entries : Fields) (row : InfluencerRow) : Prop where
  parsed : req.getJson = .ok (.dict entries)
  mapped : engine.mapperError = none
  reachable : encodeInt influencerId = none
  found : Records.find InfluencerRow.id influencerId rows = some row
  asked : rowRecodes entries row = true → engine.binds (given entries "ussd_shortcode" .null) = none
  free : rowRecodes entries row = true → rowWithCode engine entries rows = none
  stores : engine.refuses rows (updatedRow entries req.now row) = none

/-- How an update with a JSON object can end. -/
inductive RowUpdateRun (engine : SqlEngine) (rows : List InfluencerRow) (req : Http)
    (influencerId : Nat) (entries : Fields) : Outcome × List InfluencerRow → Prop where
  | unmapped {e : PyExn} (unmapped : engine.mapperError ≠ none) :
      RowUpdateRun engine rows req influencerId entries (.error e, rows)
  | unsent {e : PyExn} (large : encodeInt influencerId ≠ none) :
      RowUpdateRun engine rows req influencerId entries (.error e, rows)
  | missing (reachable : encodeInt influencerId = none)
      (absent : Records.find InfluencerRow.id influencerId rows = none) :
      RowUpdateRun engine rows req influencerId entries (.ok Influencers.Sql.notFound, rows)
  | unasked {e : PyExn} {row : InfluencerRow}
      (found : Records.find InfluencerRow.id influencerId rows = some row)
      (differs : rowRecodes entries row = true)
      (refused : engine.binds (given entries "ussd_shortcode" .null) ≠ none) :
      RowUpdateRun engine rows req influencerId entries (.error e, rows)
  | taken {row : InfluencerRow} (reachable : encodeInt influencerId = none)
      (found : Records.find InfluencerRow.id influencerId rows = some row)
      (differs : rowRecodes entries row = true)
      (other : (rowWithCode engine entries rows).isSome) :
      RowUpdateRun engine rows req influencerId entries (.ok Influencers.taken, rows)
  | refused {e : PyExn} {row : InfluencerRow}
      (found : Records.find InfluencerRow.id influencerId rows = some row)
      (refused : engine.refuses rows (updatedRow entries req.now row) = some e) :
      RowUpdateRun engine rows req influencerId entries (.error e, rows)
  | updated {row : InfluencerRow} {outcome : Outcome}
      (update : RowUpdate engine rows req influencerId entries row)
      (answered : ∀ response, outcome = .ok response → response.status = 200) :
      RowUpdateRun engine rows req influencerId entries (outcome, Records.modify InfluencerRow.id row.id
        (fun _ => engine.columns (updatedRow entries req.now row)) rows)

theorem run_sqlConflict_keeps {engine : SqlEngine} {rows : List InfluencerRow} {entries : Fields}
    {row : InfluencerRow} (plain : rowRecodes entries row = false) :
    (Influencers.Sql.shortcodeConflict (.dict entries) row).run (sqlExec engine) rows =
      (.ok false, rows) := by
  unfold rowRecodes given at plain
  have skipped : Influencers.Sql.shortcodeConflict (.dict entries) row = pure false := by
    unfold Influencers.Sql.shortcodeConflict
    change (if _ then _ else _) = _
    exact if_neg (by rw [plain]; exact Bool.false_ne_true)
  rw [skipped]
  rfl

theorem sqlConflict_recodes {entries : Fields} {row : InfluencerRow}
    (differs : rowRecodes entries row = true) :
    Influencers.Sql.shortcodeConflict (.dict entries) row =
      Influencers.Sql.perform (.firstByShortcode (given entries "ussd_shortcode" .null)) >>=
        fun existing => pure existing.isSome := by
  unfold rowRecodes given at differs
  unfold Influencers.Sql.shortcodeConflict
  change (if _ then _ else _) = _
  exact if_pos differs

theorem run_sqlConflict_recodes {engine : SqlEngine} {rows : List InfluencerRow} {entries : Fields}
    {row : InfluencerRow} (differs : rowRecodes entries row = true) (mapped : engine.mapperError = none)
    (asked : engine.binds (given entries "ussd_shortcode" .null) = none) :
    (Influencers.Sql.shortcodeConflict (.dict entries) row).run (sqlExec engine) rows =
      (.ok (rowWithCode engine entries rows).isSome, rows) := by
  rw [sqlConflict_recodes differs, run_sqlFirst mapped asked]
  rfl

theorem run_sqlConflict_error {engine : SqlEngine} {rows : List InfluencerRow} {entries : Fields}
    {row : InfluencerRow} {e : PyExn} (differs : rowRecodes entries row = true)
    (mapped : engine.mapperError = none)
    (refused : engine.binds (given entries "ussd_shortcode" .null) = some e) :
    (Influencers.Sql.shortcodeConflict (.dict entries) row).run (sqlExec engine) rows =
      (.error e, rows) := by
  rw [sqlConflict_recodes differs, run_sqlFirst_error mapped refused]

theorem rowUpdate_run {req : Http} {entries : Fields} (parsed : req.getJson = .ok (.dict entries))
    (engine : SqlEngine) (rows : List InfluencerRow) (influencerId : Nat) :
    RowUpdateRun engine rows req influencerId entries
      ((Influencers.Sql.updateInfluencer req engine influencerId).run (sqlExec engine) rows) := by
  unfold Influencers.Sql.updateInfluencer
  rw [run_lift_bind _ parsed]
  cases mapped : engine.mapperError with
  | some e =>
    rw [run_sqlUnmapped mapped]
    exact .unmapped (by rw [mapped]; exact Option.some_ne_none e)
  | none =>
    by_cases reachable : encodeInt influencerId = none
    · rw [run_sqlGet mapped reachable]
      cases found : Records.find InfluencerRow.id influencerId rows with
      | none => exact .missing reachable found
      | some row =>
        have write : ∀ (asked : rowRecodes entries row = true →
              engine.binds (given entries "ussd_shortcode" .null) = none)
            (free : rowRecodes entries row = true → rowWithCode engine entries rows = none),
            RowUpdateRun engine rows req influencerId entries (run (sqlExec engine) (do
              let updated ← Influencers.Sql.perform (.save (Influencers.Sql.touch req.now row
                (← Influencers.Sql.assigned (.dict entries) row)))
              return jsonify 200 (← engine.dump updated)) rows) := by
          intro asked free
          rw [run_lift_bind _ (assigned_dict entries row)]
          change RowUpdateRun engine rows req influencerId entries (run (sqlExec engine)
            (Influencers.Sql.perform (.save (updatedRow entries req.now row)) >>= _) rows)
          cases stores : engine.refuses rows (updatedRow entries req.now row) with
          | some e =>
            rw [run_sqlSave_error mapped stores]
            exact .refused found stores
          | none =>
            have id : (updatedRow entries req.now row).id = row.id := touch_id rfl
            rw [run_sqlSave mapped stores, id]
            obtain ⟨outcome, ran, answered⟩ :=
              run_sqlAnswer 200 (engine.dump (engine.columns (updatedRow entries req.now row)))
            exact ran ▸ .updated ⟨parsed, mapped, reachable, found, asked, free, stores⟩ answered
        dsimp only
        rw [run_bind]
        cases differs : rowRecodes entries row with
        | false =>
          rw [run_sqlConflict_keeps differs]
          have plain : ¬rowRecodes entries row = true := ne_true_of_eq_false differs
          exact write (absurd · plain) (absurd · plain)
        | true =>
          cases asked : engine.binds (given entries "ussd_shortcode" .null) with
          | some e =>
            rw [run_sqlConflict_error differs mapped asked]
            exact .unasked found differs (by rw [asked]; exact Option.some_ne_none e)
          | none =>
            rw [run_sqlConflict_recodes differs mapped asked]
            cases other : (rowWithCode engine entries rows).isSome with
            | true => exact .taken reachable found differs other
            | false =>
              exact write (fun _ => asked) fun _ =>
                Option.not_isSome_iff_eq_none.mp (Bool.eq_false_iff.mp other)
    · rw [run_sqlGet_error mapped reachable]
      exact .unsent reachable

/-! Status changes and deletions. -/

/-- The row a status view saves. -/
def restatusRow (status : String) (now : Int) (row : InfluencerRow) : InfluencerRow :=
  Influencers.Sql.touch now row { row with status := .str status }

/-- How a status view can end. -/
inductive RowStatusRun (engine : SqlEngine) (rows : List InfluencerRow) (status done : String)
    (now : Int) (influencerId : Nat) : Outcome × List InfluencerRow → Prop where
  | unmapped {e : PyExn} (unmapped : engine.mapperError ≠ none) :
      RowStatusRun engine rows status done now influencerId (.error e, rows)
  | unsent {e : PyExn} (large : encodeInt influencerId ≠ none) :
      RowStatusRun engine rows status done now influencerId (.error e, rows)
  | missing (reachable : encodeInt influencerId = none)
      (absent : Records.find InfluencerRow.id influencerId rows = none) :
      RowStatusRun engine rows status done now influencerId (.ok Influencers.Sql.notFound, rows)
  | refused {e : PyExn} {row : InfluencerRow}
      (found : Records.find InfluencerRow.id influencerId rows = some row)
      (refused : engine.refuses rows (restatusRow status now row) = some e) :
      RowStatusRun engine rows status done now influencerId (.error e, rows)
  | changed {row : InfluencerRow} (mapped : engine.mapperError = none)
      (reachable : encodeInt influencerId = none)
      (found : Records.find InfluencerRow.id influencerId rows = some row)
      (stores : engine.refuses rows (restatusRow status now row) = none) :
      RowStatusRun engine rows status done now influencerId (.ok (message 200 done),
        Records.modify InfluencerRow.id row.id
          (fun _ => engine.columns (restatusRow status now row)) rows)

theorem rowStatus_run (engine : SqlEngine) (rows : List InfluencerRow) (req : Http)
    (status done : String) (influencerId : Nat) :
    RowStatusRun engine rows status done req.now influencerId
      ((Influencers.Sql.setStatus req status done influencerId).run (sqlExec engine) rows) := by
  unfold Influencers.Sql.setStatus
  cases mapped : engine.mapperError with
  | some e =>
    rw [run_sqlUnmapped mapped]
    exact .unmapped (by rw [mapped]; exact Option.some_ne_none e)
  | none =>
    by_cases reachable : encodeInt influencerId = none
    · rw [run_sqlGet mapped reachable]
      cases found : Records.find InfluencerRow.id influencerId rows with
      | none => exact .missing reachable found
      | some row =>
        dsimp only
        change RowStatusRun engine rows status done req.now influencerId (run (sqlExec engine)
          (Influencers.Sql.perform (.save (restatusRow status req.now row)) >>= _) rows)
        cases stores : engine.refuses rows (restatusRow status req.now row) with
        | some e =>
          rw [run_sqlSave_error mapped stores]
          exact .refused found stores
        | none =>
          have id : (restatusRow status req.now row).id = row.id := touch_id rfl
          rw [run_sqlSave mapped stores, id]
          exact .changed mapped reachable found stores
    · rw [run_sqlGet_error mapped reachable]
      exact .unsent reachable

/-- What a request does to the rows. -/
inductive RowsEffect (engine : SqlEngine) (rows : List InfluencerRow) :
    InfluencersRequest → List InfluencerRow → Prop where
  | kept {request : InfluencersRequest} : RowsEffect engine rows request rows
  | created {req : Http} {entries : Fields} (creation : RowCreation engine rows req entries) :
      RowsEffect engine rows (.create req)
        (rows ++ [engine.columns (newRow entries req.now rows)])
  | updated {req : Http} {influencerId : Nat} {entries : Fields} {row : InfluencerRow}
      (update : RowUpdate engine rows req influencerId entries row) :
      RowsEffect engine rows (.update req influencerId) (Records.modify InfluencerRow.id row.id
        (fun _ => engine.columns (updatedRow entries req.now row)) rows)
  | restatus {request : InfluencersRequest} {status : String} {now : Int} {influencerId : Nat}
      {row : InfluencerRow} (sets : request.setsStatus = some (status, now, influencerId))
      (mapped : engine.mapperError = none) (reachable : encodeInt influencerId = none)
      (found : Records.find InfluencerRow.id influencerId rows = some row)
      (stores : engine.refuses rows (restatusRow status now row) = none) :
      RowsEffect engine rows request (Records.modify InfluencerRow.id row.id
        (fun _ => engine.columns (restatusRow status now row)) rows)
  | deleted {influencerId : Nat} : RowsEffect engine rows (.delete influencerId)
      (Records.remove InfluencerRow.id influencerId rows)

theorem rowsEffect_status {engine : SqlEngine} {rows : List InfluencerRow}
    {request : InfluencersRequest} {status done : String} {req : Http} {influencerId : Nat}
    (sets : request.setsStatus = some (status, req.now, influencerId)) :
    RowsEffect engine rows request
      ((Influencers.Sql.setStatus req status done influencerId).run (sqlExec engine) rows).2 := by
  have ran := rowStatus_run engine rows req status done influencerId
  generalize (Influencers.Sql.setStatus req status done influencerId).run (sqlExec engine) rows = result
    at ran
  cases ran with
  | changed mapped reachable found stores => exact .restatus sets mapped reachable found stores
  | _ => exact .kept

theorem rowCreate_unread {req : Http} (unread : ∀ entries, req.getJson ≠ .ok (.dict entries))
    (engine : SqlEngine) (rows : List InfluencerRow) :
    InfluencersRequest.sqlStep engine rows (.create req) = rows := by
  change ((Influencers.Sql.createInfluencer req engine).run (sqlExec engine) rows).2 = rows
  unfold Influencers.Sql.createInfluencer
  cases parsed : req.getJson with
  | error e => rfl
  | ok payload =>
    have other : ∀ entries, payload ≠ .dict entries := fun entries same => unread entries (same ▸ parsed)
    obtain ⟨e, raised⟩ := incomplete_error other
    rw [run_lift_bind _ rfl, raised]
    rfl

theorem rowUpdate_unread {req : Http} (unread : ∀ entries, req.getJson ≠ .ok (.dict entries))
    (engine : SqlEngine) (rows : List InfluencerRow) (influencerId : Nat) :
    InfluencersRequest.sqlStep engine rows (.update req influencerId) = rows := by
  change ((Influencers.Sql.updateInfluencer req engine influencerId).run (sqlExec engine) rows).2 = rows
  unfold Influencers.Sql.updateInfluencer
  cases parsed : req.getJson with
  | error e => rfl
  | ok payload =>
    have other : ∀ entries, payload ≠ .dict entries := fun entries same => unread entries (same ▸ parsed)
    rw [run_lift_bind _ rfl]
    cases mapped : engine.mapperError with
    | some e => rw [run_sqlUnmapped mapped]
    | none =>
      by_cases reachable : encodeInt influencerId = none
      · rw [run_sqlGet mapped reachable]
        cases Records.find InfluencerRow.id influencerId rows with
        | none => rfl
        | some row =>
          obtain ⟨e, raised⟩ := pyGet_error other "ussd_shortcode" .null
          dsimp only
          unfold Influencers.Sql.shortcodeConflict
          rw [raised]
          rfl
      · rw [run_sqlGet_error mapped reachable]

theorem rowGet_keeps (engine : SqlEngine) (rows : List InfluencerRow) (influencerId : Nat) :
    InfluencersRequest.sqlStep engine rows (.get influencerId) = rows := by
  change ((Influencers.Sql.getInfluencer influencerId).run (sqlExec engine) rows).2 = rows
  unfold Influencers.Sql.getInfluencer
  cases mapped : engine.mapperError with
  | some e => rw [run_sqlUnmapped mapped]
  | none =>
    by_cases reachable : encodeInt influencerId = none
    · rw [run_sqlGet mapped reachable]
      cases Records.find InfluencerRow.id influencerId rows <;> rfl
    · rw [run_sqlGet_error mapped reachable]

/-- The list reads every row in the order of the ids and changes none. -/
theorem sqlServe_list {engine : SqlEngine} (mapped : engine.mapperError = none)
    (rows : List InfluencerRow) : InfluencersRequest.sqlServe engine .list rows =
      (.ok (jsonify 200 (.list ((rows.mergeSort fun a b => a.id ≤ b.id).map
        Influencers.Sql.normalized))), rows) := by
  change Influencers.Sql.listInfluencers.run (sqlExec engine) rows = _
  unfold Influencers.Sql.listInfluencers
  rw [run_sqlAll mapped]
  rfl

theorem rowList_keeps (engine : SqlEngine) (rows : List InfluencerRow) :
    InfluencersRequest.sqlStep engine rows .list = rows := by
  cases mapped : engine.mapperError with
  | some e =>
    have raised : sqlExec engine .all rows = (.error e, rows) := by
      unfold sqlExec
      rw [mapped]
    exact congrArg Prod.snd (run_perform_error raised _)
  | none => exact congrArg Prod.snd (sqlServe_list mapped rows)

theorem rowDelete_step (engine : SqlEngine) (rows : List InfluencerRow) (influencerId : Nat) :
    InfluencersRequest.sqlStep engine rows (.delete influencerId) = rows ∨
      InfluencersRequest.sqlStep engine rows (.delete influencerId) =
        Records.remove InfluencerRow.id influencerId rows := by
  change ((Influencers.Sql.deleteInfluencer influencerId).run (sqlExec engine) rows).2 = _ ∨
    ((Influencers.Sql.deleteInfluencer influencerId).run (sqlExec engine) rows).2 = _
  unfold Influencers.Sql.deleteInfluencer
  cases mapped : engine.mapperError with
  | some e =>
    rw [run_sqlUnmapped mapped]
    exact .inl rfl
  | none =>
    by_cases reachable : encodeInt influencerId = none
    · rw [run_sqlGet mapped reachable]
      cases found : Records.find InfluencerRow.id influencerId rows with
      | none => exact .inl rfl
      | some row =>
        have id : row.id = influencerId := (Records.find_some found).2
        dsimp only
        rw [id]
        rcases run_sqlDelete mapped influencerId _ with kept | removed
        · exact .inl kept
        · exact .inr (congrArg Prod.snd removed)
    · rw [run_sqlGet_error mapped reachable]
      exact .inl rfl

theorem rows_effect (engine : SqlEngine) (rows : List InfluencerRow) (request : InfluencersRequest) :
    RowsEffect engine rows request (request.sqlStep engine rows) := by
  cases request with
  | list =>
    rw [rowList_keeps]
    exact .kept
  | get influencerId =>
    rw [rowGet_keeps]
    exact .kept
  | create req =>
    by_cases read : ∃ entries, req.getJson = .ok (.dict entries)
    · obtain ⟨entries, parsed⟩ := read
      have ran := rowCreate_run parsed engine rows
      change RowsEffect engine rows _
        ((Influencers.Sql.createInfluencer req engine).run (sqlExec engine) rows).2
      generalize (Influencers.Sql.createInfluencer req engine).run (sqlExec engine) rows = result at ran
      cases ran with
      | created creation answered => exact .created creation
      | _ => exact .kept
    · rw [rowCreate_unread fun entries same => read ⟨entries, same⟩]
      exact .kept
  | update req influencerId =>
    by_cases read : ∃ entries, req.getJson = .ok (.dict entries)
    · obtain ⟨entries, parsed⟩ := read
      have ran := rowUpdate_run parsed engine rows influencerId
      change RowsEffect engine rows _
        ((Influencers.Sql.updateInfluencer req engine influencerId).run (sqlExec engine) rows).2
      generalize (Influencers.Sql.updateInfluencer req engine influencerId).run (sqlExec engine) rows =
        result at ran
      cases ran with
      | updated update answered => exact .updated update
      | _ => exact .kept
    · rw [rowUpdate_unread fun entries same => read ⟨entries, same⟩]
      exact .kept
  | delete influencerId =>
    rcases rowDelete_step engine rows influencerId with same | removed
    · rw [same]
      exact .kept
    · rw [removed]
      exact .deleted
  | suspend req influencerId => exact rowsEffect_status rfl
  | activate req influencerId => exact rowsEffect_status rfl
  | terminate req influencerId => exact rowsEffect_status rfl

/-! What does not go through leaves the table alone. -/

theorem rowCreate_keeps {engine : SqlEngine} {rows : List InfluencerRow} {req : Http}
    (refused : ¬∃ entries, RowCreation engine rows req entries) :
    InfluencersRequest.sqlStep engine rows (.create req) = rows := by
  have effect := rows_effect engine rows (.create req)
  generalize InfluencersRequest.sqlStep engine rows (.create req) = rows' at effect
  cases effect with
  | kept => rfl
  | created creation => exact absurd ⟨_, creation⟩ refused
  | restatus sets mapped reachable found stores => cases sets

theorem rowUpdate_keeps {engine : SqlEngine} {rows : List InfluencerRow} {req : Http}
    {influencerId : Nat} (refused : ¬∃ entries row, RowUpdate engine rows req influencerId entries row) :
    InfluencersRequest.sqlStep engine rows (.update req influencerId) = rows := by
  have effect := rows_effect engine rows (.update req influencerId)
  generalize InfluencersRequest.sqlStep engine rows (.update req influencerId) = rows' at effect
  cases effect with
  | kept => rfl
  | updated update => exact absurd ⟨_, _, update⟩ refused
  | restatus sets mapped reachable found stores => cases sets

theorem rowStatus_keeps {engine : SqlEngine} {rows : List InfluencerRow} {request : InfluencersRequest}
    {status : String} {now : Int} {influencerId : Nat}
    (sets : request.setsStatus = some (status, now, influencerId))
    (refused : ¬∃ row, engine.mapperError = none ∧ encodeInt influencerId = none ∧
      Records.find InfluencerRow.id influencerId rows = some row ∧
      engine.refuses rows (restatusRow status now row) = none) : request.sqlStep engine rows = rows := by
  have effect := rows_effect engine rows request
  generalize request.sqlStep engine rows = rows' at effect
  cases effect with
  | kept => rfl
  | created creation => cases sets
  | updated update => cases sets
  | deleted => cases sets
  | restatus sets' mapped reachable found stores =>
    obtain ⟨rfl, rfl, rfl⟩ : status = _ ∧ now = _ ∧ influencerId = _ := by
      simpa using sets.symm.trans sets'
    exact absurd ⟨_, mapped, reachable, found, stores⟩ refused

/-! What goes through takes effect. -/

theorem RowCreation.step {engine : SqlEngine} {rows : List InfluencerRow} {req : Http}
    {entries : Fields} (creation : RowCreation engine rows req entries) :
    InfluencersRequest.sqlStep engine rows (.create req) =
      rows ++ [engine.columns (newRow entries req.now rows)] := by
  have ran := rowCreate_run creation.parsed engine rows
  change ((Influencers.Sql.createInfluencer req engine).run (sqlExec engine) rows).2 = _
  generalize (Influencers.Sql.createInfluencer req engine).run (sqlExec engine) rows = result at ran
  cases ran with
  | unnamed missing => cases creation.named.symm.trans missing
  | uncoded named missing => cases creation.coded.symm.trans missing
  | unmapped unmapped => exact absurd creation.mapped unmapped
  | unasked refused => exact absurd creation.asked refused
  | taken named coded found =>
    rw [creation.free] at found
    cases found
  | refused named coded free refused => cases creation.stores.symm.trans refused
  | created creation' answered => rfl

theorem RowUpdate.step {engine : SqlEngine} {rows : List InfluencerRow} {req : Http}
    {influencerId : Nat} {entries : Fields} {row : InfluencerRow}
    (update : RowUpdate engine rows req influencerId entries row) :
    InfluencersRequest.sqlStep engine rows (.update req influencerId) =
      Records.modify InfluencerRow.id row.id
        (fun _ => engine.columns (updatedRow entries req.now row)) rows := by
  have ran := rowUpdate_run update.parsed engine rows influencerId
  change ((Influencers.Sql.updateInfluencer req engine influencerId).run (sqlExec engine) rows).2 = _
  generalize (Influencers.Sql.updateInfluencer req engine influencerId).run (sqlExec engine) rows =
    result at ran
  have only : ∀ {other : InfluencerRow},
      Records.find InfluencerRow.id influencerId rows = some other → other = row :=
    fun found => Option.some.inj (found.symm.trans update.found)
  cases ran with
  | unmapped unmapped => exact absurd update.mapped unmapped
  | unsent large => exact absurd update.reachable large
  | missing reachable absent => cases absent.symm.trans update.found
  | unasked found differs refused =>
    rw [only found] at differs
    exact absurd (update.asked differs) refused
  | taken reachable found differs other =>
    rw [only found] at differs
    rw [update.free differs] at other
    cases other
  | refused found refused =>
    rw [only found] at refused
    cases update.stores.symm.trans refused
  | updated update' answered => rw [only update'.found]

theorem rowStatus_step {engine : SqlEngine} {rows : List InfluencerRow} {request : InfluencersRequest}
    {status : String} {now : Int} {influencerId : Nat} {row : InfluencerRow}
    (sets : request.setsStatus = some (status, now, influencerId))
    (mapped : engine.mapperError = none) (reachable : encodeInt influencerId = none)
    (found : Records.find InfluencerRow.id influencerId rows = some row)
    (stores : engine.refuses rows (restatusRow status now row) = none) :
    request.sqlStep engine rows = Records.modify InfluencerRow.id row.id
      (fun _ => engine.columns (restatusRow status now row)) rows := by
  have changed : ∀ (req : Http) (done : String), req.now = now →
      ((Influencers.Sql.setStatus req status done influencerId).run (sqlExec engine) rows).2 =
        Records.modify InfluencerRow.id row.id
          (fun _ => engine.columns (restatusRow status now row)) rows := by
    rintro req done rfl
    have ran := rowStatus_run engine rows req status done influencerId
    generalize (Influencers.Sql.setStatus req status done influencerId).run (sqlExec engine) rows =
      result at ran
    cases ran with
    | unmapped unmapped => exact absurd mapped unmapped
    | unsent large => exact absurd reachable large
    | missing reachable absent => cases absent.symm.trans found
    | refused found' refused =>
      rw [Option.some.inj (found'.symm.trans found)] at refused
      cases stores.symm.trans refused
    | changed mapped reachable found' stores => rw [Option.some.inj (found'.symm.trans found)]
  cases request with
  | suspend req other | activate req other | terminate req other =>
    obtain ⟨rfl, now, rfl⟩ : _ = status ∧ req.now = now ∧ other = influencerId := by
      simpa [InfluencersRequest.setsStatus] using sets
    exact changed req _ now
  | _ => cases sets

/-! A request goes through in one way at most. -/

theorem RowCreation.unique {engine : SqlEngine} {rows : List InfluencerRow} {req : Http}
    {entries entries' : Fields} (creation : RowCreation engine rows req entries)
    (creation' : RowCreation engine rows req entries') : entries = entries' :=
  Http.entries_unique creation.parsed creation'.parsed

theorem RowUpdate.unique {engine : SqlEngine} {rows : List InfluencerRow} {req : Http}
    {influencerId : Nat} {entries entries' : Fields} {row row' : InfluencerRow}
    (update : RowUpdate engine rows req influencerId entries row)
    (update' : RowUpdate engine rows req influencerId entries' row') : entries = entries' ∧ row = row' :=
  ⟨Http.entries_unique update.parsed update'.parsed,
    Option.some.inj (update.found.symm.trans update'.found)⟩

end UssdCredit
