import UssdCredit.InfluencerDocuments
import UssdCredit.Library.Runs
import UssdCredit.Models
import UssdCredit.MongoUri

/-! The migration that is to give every influencer a status, on the documents and on the table. It
may be run again at any time, between the requests of the running application. -/

namespace UssdCredit

open Library Program

/-! The two databases. -/

namespace Collection

/-- `update_many(test, {"$set": update})`. -/
def updateMany (c : Collection) (test : Document → Bool) (update : Fields)
    (encodes : Value.bsonErrorEntries update = none) : Collection where
  docs := c.docs.map fun d => if test d then d.edit d.oid update else d
  nodup := by
    have same : Document.oid ∘ (fun d => if test d then d.edit d.oid update else d) = Document.oid := by
      funext d
      simp only [Function.comp_apply]
      split_ifs
      · exact Document.edit_oid _ _ _
      · rfl
    rw [List.map_map, same]
    exact c.nodup
  encoded := by
    intro d member
    obtain ⟨old, present, rfl⟩ := List.mem_map.mp member
    split_ifs
    · unfold Document.edit
      rw [if_pos rfl]
      exact bsonErrorEntries_setAll encodes (c.encoded old present)
    · exact c.encoded old present

end Collection

/-- The tables that exist, and the rows of the influencers: none without their table. -/
structure SqlDatabase where
  tables : List String
  influencers : List InfluencerRow
  stored : "influencers" ∉ tables → influencers = []

namespace SqlDatabase

def create (database : SqlDatabase) (tables : List String) : SqlDatabase where
  tables := database.tables ++ tables
  influencers := database.influencers
  stored absent := database.stored fun present => absent (List.mem_append_left _ present)

/-- `query.update({Influencer.status: status})`: every row, and `onupdate` dates the change. -/
def updateStatus (database : SqlDatabase) (status : String) (now : Int) : SqlDatabase where
  tables := database.tables
  influencers := database.influencers.map fun row => { row with status := .str status, updatedAt := now }
  stored absent := by rw [database.stored absent, List.map_nil]

/-- A request reaches the rows when there is a table. -/
def serve (engine : SqlEngine) (database : SqlDatabase) (request : InfluencersRequest) : SqlDatabase :=
  if present : "influencers" ∈ database.tables then
    { tables := database.tables
      influencers := request.sqlStep engine database.influencers
      stored := fun absent => absurd present absent }
  else database

end SqlDatabase

/-! The two migrations. -/

def migrateSqlite (now : Int) (database : SqlDatabase) : Except PyExn Unit × SqlDatabase :=
  match createAll ModelBase.extensions.models database.tables with
  | .error e => (.error e, database)
  | .ok tables =>
      let created := database.create tables
      match mapperError ModelBase.extensions.models with
      | some e => (.error e, created)
      | none => (.ok (), created.updateStatus "active" now)

/-- The name `mongo_db` of the script is given. -/
def migrateMongodb {Database : Type} (mongoDb : Option Database) (c : Collection) : Collection :=
  match mongoDb with
  | none => c
  | some _ => c.updateMany (fun d => (d.get? "status").isNone) [("status", .str "active")] (by decide)

section Script

variable {Client Database : Type}

/-- The module `app.extensions`, and the script's own `mongo_db`. -/
structure ScriptNames (Client Database : Type) where
  extensions : MongoHandles Client Database
  mongoDb : Option Database

namespace ScriptNames

/-- `from app.extensions import db, mongo_db`. -/
def importExtensions (names : ScriptNames Client Database) : ScriptNames Client Database :=
  { names with mongoDb := names.extensions.mongoDb }

/-- `create_app()` has `init_mongodb` bind the names of its own module. -/
def createApp (driver : MongoDriver Client Database) (mongoUri : Option String)
    (names : ScriptNames Client Database) : ScriptNames Client Database :=
  { names with extensions := initMongodb driver mongoUri names.extensions }

/-- The imports stand before `main()`. -/
def atMigration (driver : MongoDriver Client Database) (mongoUri : Option String) :
    ScriptNames Client Database :=
  let loaded : ScriptNames Client Database := ⟨⟨none, none⟩, none⟩
  loaded.importExtensions.createApp driver mongoUri

/-- The script keeps what it imported, whatever `create_app()` connects to. -/
theorem atMigration_mongoDb (driver : MongoDriver Client Database) (mongoUri : Option String) :
    (atMigration driver mongoUri).mongoDb = none := rfl

end ScriptNames

end Script

/-! What a migration is to do with the statuses. -/

/-- The statuses of the documents, absent where a document has none. -/
def Collection.givenStatuses (c : Collection) : List (Option Value) := c.docs.map (·.get? "status")

/-- The statuses of the rows, absent where the column is NULL. -/
def givenRowStatuses (rows : List InfluencerRow) : List (Option Value) :=
  rows.map fun row => if row.status = .null then none else some row.status

/-- 'active' where there was no status, and each given status as it was. -/
def Migrates (before after : List (Option Value)) : Prop :=
  after = before.map fun status => some (status.getD (.str "active"))

/-- What happens to a database over time; the script reads the connection string when it runs. -/
inductive MigrationEvent where
  | served (request : InfluencersRequest)
  | migrate (mongoUri : Option String) (now : Int)

namespace MigrationEvent

variable {Client Database : Type} (driver : MongoDriver Client Database) (mongo : MongoEngine)
  (engine : SqlEngine)

def isMigration : MigrationEvent → Bool
  | .served _ => false
  | .migrate _ _ => true

def mongoStep (c : Collection) : MigrationEvent → Collection
  | .served request => request.mongoStep mongo c
  | .migrate mongoUri _ => migrateMongodb (ScriptNames.atMigration driver mongoUri).mongoDb c

def sqlStep (database : SqlDatabase) : MigrationEvent → SqlDatabase
  | .served request => database.serve engine request
  | .migrate _ now => (migrateSqlite now database).2

end MigrationEvent

/-- If the event is a migration, it migrates the statuses. -/
def MongoMigrates {Client Database : Type} (driver : MongoDriver Client Database) (mongo : MongoEngine)
    (c : Collection) (event : MigrationEvent) : Prop :=
  event.isMigration = true → Migrates c.givenStatuses (event.mongoStep driver mongo c).givenStatuses

def SqlMigrates (engine : SqlEngine) (database : SqlDatabase) (event : MigrationEvent) : Prop :=
  event.isMigration = true → Migrates (givenRowStatuses database.influencers)
    (givenRowStatuses (event.sqlStep engine database).influencers)

/-- If the event is a migration, it finds no document without a status. -/
def FindsGiven (c : Collection) (event : MigrationEvent) : Prop :=
  event.isMigration = true → ∀ d ∈ c.docs, (d.get? "status").isSome

/-- If the event is a migration, it finds no row without a status. -/
def FindsGivenRows (database : SqlDatabase) (event : MigrationEvent) : Prop :=
  event.isMigration = true → ∀ row ∈ database.influencers, row.status ≠ .null

/-- Statuses that are left as they are were migrated if none was missing. -/
theorem migrates_self_iff (statuses : List (Option Value)) :
    Migrates statuses statuses ↔ none ∉ statuses := by
  unfold Migrates
  constructor
  · intro same missing
    rw [same] at missing
    obtain ⟨status, -, absent⟩ := List.mem_map.mp missing
    cases absent
  · intro given
    have kept : ∀ status ∈ statuses, some (status.getD (.str "active")) = status := by
      intro status member
      cases status with
      | none => exact absurd member given
      | some value => rfl
    exact ((List.map_congr_left kept).trans (List.map_id' _)).symm

/-! The table: the script fails before its UPDATE. -/

section Table

theorem migrateSqlite_influencers (now : Int) (database : SqlDatabase) :
    (migrateSqlite now database).2.influencers = database.influencers := by
  obtain ⟨e, unmapped⟩ := mapperError_extensions
  unfold migrateSqlite
  cases createAll ModelBase.extensions.models database.tables with
  | error e => rfl
  | ok tables =>
    dsimp only
    rw [unmapped]
    rfl

/-- Without the table of the influencers the script stops in `create_all()`, with no table made. -/
theorem migrateSqlite_unprepared (now : Int) {database : SqlDatabase}
    (missing : "influencers" ∉ database.tables) : (migrateSqlite now database).2 = database := by
  obtain ⟨e, raised⟩ := createAll_extensions_error_iff.mpr missing
  unfold migrateSqlite
  rw [raised]

/-- And with it, in the query. -/
theorem migrateSqlite_fails (now : Int) (database : SqlDatabase) :
    ∃ e, (migrateSqlite now database).1 = .error e := by
  unfold migrateSqlite
  cases created : createAll ModelBase.extensions.models database.tables with
  | error e => exact ⟨e, rfl⟩
  | ok tables =>
    obtain ⟨e, unmapped⟩ := mapperError_extensions
    dsimp only
    rw [unmapped]
    exact ⟨e, rfl⟩

theorem none_mem_givenRowStatuses {rows : List InfluencerRow} :
    none ∈ givenRowStatuses rows ↔ ∃ row ∈ rows, row.status = .null := by
  unfold givenRowStatuses
  rw [List.mem_map]
  refine exists_congr fun row => and_congr_right fun _ => ?_
  split_ifs with missing
  · exact ⟨fun _ => missing, fun _ => rfl⟩
  · exact ⟨nofun, fun null => absurd null missing⟩

theorem sqlMigrates_iff {engine : SqlEngine} {database : SqlDatabase} {event : MigrationEvent} :
    SqlMigrates engine database event ↔ FindsGivenRows database event := by
  cases event with
  | served request => exact ⟨fun _ migrates => (nomatch migrates), fun _ migrates => (nomatch migrates)⟩
  | migrate mongoUri now =>
    refine imp_congr_right fun _ => ?_
    change Migrates _ (givenRowStatuses (migrateSqlite now database).2.influencers) ↔ _
    rw [migrateSqlite_influencers, migrates_self_iff, none_mem_givenRowStatuses]
    push Not
    rfl

end Table

/-! The documents: the script returns before its update. -/

section Documents

variable {Client Database : Type} {driver : MongoDriver Client Database} {mongo : MongoEngine}
  {c : Collection}

theorem migrate_keeps (driver : MongoDriver Client Database) (mongo : MongoEngine)
    (mongoUri : Option String) (now : Int) (c : Collection) :
    (MigrationEvent.migrate mongoUri now).mongoStep driver mongo c = c := by
  change migrateMongodb (ScriptNames.atMigration driver mongoUri).mongoDb c = c
  rw [ScriptNames.atMigration_mongoDb]
  rfl

theorem mongoMigrates_iff {event : MigrationEvent} :
    MongoMigrates driver mongo c event ↔ FindsGiven c event := by
  cases event with
  | served request => exact ⟨fun _ migrates => (nomatch migrates), fun _ migrates => (nomatch migrates)⟩
  | migrate mongoUri now =>
    refine imp_congr_right fun _ => ?_
    rw [migrate_keeps, migrates_self_iff, Collection.givenStatuses, List.mem_map]
    push Not
    exact forall₂_congr fun d _ => Option.isSome_iff_ne_none.symm

/-- With a database the update would do what is asked of it. -/
theorem migrateMongodb_migrates (database : Database) (c : Collection) :
    Migrates c.givenStatuses (migrateMongodb (some database) c).givenStatuses := by
  unfold Migrates Collection.givenStatuses migrateMongodb Collection.updateMany
  rw [List.map_map, List.map_map]
  apply List.map_congr_left
  intro d _
  simp only [Function.comp_apply]
  rcases Option.eq_none_or_eq_some (d.get? "status") with stored | ⟨status, stored⟩
  · have absent : (d.get? "status").isNone = true := by rw [stored, Option.isNone_none]
    rw [if_pos absent, Document.edit_self_get?, stored]
    simp [Dict.setAll, Dict.lookup_set]
  · have present : ¬(d.get? "status").isNone = true := by simp [stored]
    rw [if_neg present, stored, Option.getD_some]

end Documents

/-- Over any run of requests and migrations on both databases, every migration sets 'active'
exactly where a status is missing if and only if none finds an influencer without a status. For
the script changes no influencer: on the table it fails, and on the documents it returns, although
the update it does not reach would be right. So it can be repeated, and leaves the same statuses
on both databases when they were the same. -/
theorem migrations_preserve_statuses_iff {Client Database : Type}
    (driver : MongoDriver Client Database) (mongo : MongoEngine) (engine : SqlEngine)
    (database : SqlDatabase) (c : Collection) (events : List MigrationEvent) :
    (AllSteps (MigrationEvent.sqlStep engine) (SqlMigrates engine) database events ∧
        AllSteps (MigrationEvent.mongoStep driver mongo) (MongoMigrates driver mongo) c events ↔
      AllSteps (MigrationEvent.sqlStep engine) FindsGivenRows database events ∧
        AllSteps (MigrationEvent.mongoStep driver mongo) FindsGiven c events) ∧
    (∀ (mongoUri : Option String) (now : Int),
      (∃ e, (migrateSqlite now database).1 = .error e) ∧
      ("influencers" ∉ database.tables → (migrateSqlite now database).2 = database) ∧
      (MigrationEvent.sqlStep engine database (.migrate mongoUri now)).influencers =
        database.influencers ∧
      MigrationEvent.mongoStep driver mongo c (.migrate mongoUri now) = c) ∧
    ∀ opened : Database, Migrates c.givenStatuses (migrateMongodb (some opened) c).givenStatuses := by
  refine ⟨and_congr ?_ ?_, fun mongoUri now => ⟨migrateSqlite_fails now database,
    migrateSqlite_unprepared now, migrateSqlite_influencers now database,
    migrate_keeps driver mongo mongoUri now c⟩, fun opened => migrateMongodb_migrates opened c⟩
  · exact @allSteps_congr _ _ (MigrationEvent.sqlStep engine) (SqlMigrates engine) (fun _ => True)
      FindsGivenRows (fun _ _ _ => sqlMigrates_iff) (fun _ _ _ _ => trivial) database trivial events
  · exact @allSteps_congr _ _ (MigrationEvent.mongoStep driver mongo) (MongoMigrates driver mongo)
      (fun _ => True) FindsGiven (fun _ _ _ => mongoMigrates_iff) (fun _ _ _ _ => trivial) c trivial
      events

/-- A row and a document from before the status. -/
theorem migration_skips_influencers :
    let row : InfluencerRow := {
      id := 1, phone := .str "+254700000001", name := .str "Sarah Kimani", imageUrl := .null,
      ussdShortcode := .str "123", received := .int 0, status := .null, createdAt := 0,
      updatedAt := 0 }
    let database : SqlDatabase := ⟨["influencers", "subscriptions", "payments", "withdrawals",
      "otp_codes"], [row], by decide⟩
    let c := Collection.empty.add 1 [("id", .int 1), ("name", .str "Sarah Kimani")] (by decide) (by decide)
    let script := MigrationEvent.migrate (some "mongodb://localhost:27017/ussd_credit") 0
    ¬SqlMigrates plainEngine database script ∧ ¬MongoMigrates MongoUri.naming plainMongo c script := by
  intro row database c script
  constructor
  · rw [sqlMigrates_iff]
    intro given
    exact given rfl row (List.mem_singleton.mpr rfl) rfl
  · rw [mongoMigrates_iff]
    intro given
    have stored := given rfl _ (List.mem_singleton.mpr rfl)
    cases stored

end UssdCredit
