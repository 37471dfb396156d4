import UssdCredit.Library.QueryString
import UssdCredit.Library.Splits
import UssdCredit.Python

/-! The database that `init_mongodb` opens for a connection string. -/

namespace UssdCredit

open Library

/-- `mongo_uri.split('/')[-1].split('?')[0]`. -/
def mongoDbName (mongoUri : String) : String :=
  String.ofList (firstPart '?' (lastPart '/' mongoUri.toList))

/-- The two operations of the database driver. -/
structure MongoDriver (Client Database : Type) where
  connect : String → Except PyExn Client
  database : Client → String → Except PyExn Database

/-- The module's `mongo_client` and `mongo_db`. -/
structure MongoHandles (Client Database : Type) where
  mongoClient : Option Client
  mongoDb : Option Database

variable {Client Database : Type}

/-- Both handles for one database of a connection, or none when the driver refuses. -/
def MongoDriver.handles (driver : MongoDriver Client Database) (mongoUri name : String) :
    MongoHandles Client Database :=
  match driver.connect mongoUri with
  | .error _ => ⟨none, none⟩
  | .ok client =>
    match driver.database client name with
    | .error _ => ⟨none, none⟩
    | .ok database => ⟨some client, some database⟩

def initMongodb (driver : MongoDriver Client Database) (mongoUri : Option String)
    (globals : MongoHandles Client Database) : MongoHandles Client Database :=
  match mongoUri with
  | none => globals
  | some mongoUri =>
    if mongoUri = "" then globals else driver.handles mongoUri (mongoDbName mongoUri)

/-- A connection string that names a database. -/
structure MongoUri where
  scheme : List Char
  authority : List Char
  name : List Char
  options : Option (List Char)
  authority_plain : '/' ∉ authority ∧ '?' ∉ authority
  name_plain : '/' ∉ name ∧ '?' ∉ name
  named : name ≠ []

namespace MongoUri

def optionsText (uri : MongoUri) : List Char :=
  match uri.options with
  | none => []
  | some options => '?' :: options

/-- The string after its scheme. -/
def schemeFree (uri : MongoUri) : List Char := uri.authority ++ '/' :: (uri.name ++ uri.optionsText)

def text (uri : MongoUri) : String := String.ofList (uri.scheme ++ "://".toList ++ uri.schemeFree)

/-- After the last slash of the options, if they have one, stands the name again. -/
def NameLast (uri : MongoUri) : Prop :=
  ∀ options ∈ uri.options, '/' ∈ options → ∃ before after,
    options = before ++ '/' :: (uri.name ++ after) ∧ '/' ∉ after ∧
      (after = [] ∨ after.head? = some '?')

theorem text_filled (uri : MongoUri) : uri.text ≠ "" := by
  intro empty
  have letters := congrArg String.toList empty
  rw [text, String.toList_ofList] at letters
  simp at letters

theorem lastPart_text (uri : MongoUri) :
    lastPart '/' uri.text.toList = lastPart '/' (uri.name ++ uri.optionsText) := by
  rw [text, String.toList_ofList, schemeFree, ← List.append_assoc, lastPart_append]

/-- A part that reads as the name is the name, alone or before a question mark. -/
theorem cut_eq_name_iff (uri : MongoUri) (part : List Char) :
    firstPart '?' part = uri.name ↔
      ∃ after, part = uri.name ++ after ∧ (after = [] ∨ after.head? = some '?') := by
  rw [firstPart_eq_iff uri.name_plain.2]
  constructor
  · rintro (alone | ⟨rest, marked⟩)
    · exact ⟨[], by rw [alone, List.append_nil], .inl rfl⟩
    · exact ⟨'?' :: rest, marked, .inr rfl⟩
  · rintro ⟨after, rfl, rfl | marked⟩
    · exact .inl (List.append_nil _)
    · obtain ⟨rest, rfl⟩ := List.head?_eq_some_iff.mp marked
      exact .inr ⟨rest, rfl⟩

/-- Without a slash in the options the name is in the last part of the string. -/
theorem lastPart_plain (uri : MongoUri) (plain : ∀ options ∈ uri.options, '/' ∉ options) :
    lastPart '/' (uri.name ++ uri.optionsText) = uri.name ++ uri.optionsText := by
  apply lastPart_of_free
  rw [List.mem_append, not_or]
  refine ⟨uri.name_plain.1, ?_⟩
  rw [optionsText]
  cases given : uri.options with
  | none => exact List.not_mem_nil
  | some options =>
    rw [List.mem_cons, not_or]
    exact ⟨by decide, plain options given⟩

theorem lastPart_options (uri : MongoUri) {options : List Char} (given : uri.options = some options)
    (slash : '/' ∈ options) :
    lastPart '/' (uri.name ++ uri.optionsText) = lastPart '/' options := by
  have shape : uri.name ++ uri.optionsText = uri.name ++ ['?'] ++ options := by
    rw [optionsText, given, List.append_assoc]
    rfl
  rw [shape, lastPart_append_of_mem slash]

theorem lastPart_iff_nameLast (uri : MongoUri) {options : List Char} (slash : '/' ∈ options) :
    (∃ after, lastPart '/' options = uri.name ++ after ∧ (after = [] ∨ after.head? = some '?')) ↔
      ∃ before after, options = before ++ '/' :: (uri.name ++ after) ∧ '/' ∉ after ∧
        (after = [] ∨ after.head? = some '?') := by
  constructor
  · rintro ⟨after, last, cut⟩
    obtain ⟨free, before, split⟩ := exists_lastPart slash
    rw [last] at free split
    exact ⟨before, after, split, fun member => free (List.mem_append_right _ member), cut⟩
  · rintro ⟨before, after, split, plain, cut⟩
    refine ⟨after, ?_, cut⟩
    rw [split, lastPart_append]
    apply lastPart_of_free
    rw [List.mem_append, not_or]
    exact ⟨uri.name_plain.1, plain⟩

theorem cut_text_iff (uri : MongoUri) :
    firstPart '?' (lastPart '/' uri.text.toList) = uri.name ↔ uri.NameLast := by
  rw [lastPart_text, NameLast]
  by_cases plain : ∀ options ∈ uri.options, '/' ∉ options
  · rw [uri.lastPart_plain plain, cut_eq_name_iff]
    refine ⟨fun _ options given slash => absurd slash (plain options given), fun _ => ?_⟩
    refine ⟨uri.optionsText, rfl, ?_⟩
    rw [optionsText]
    cases uri.options with
    | none => exact .inl rfl
    | some options => exact .inr rfl
  · push Not at plain
    obtain ⟨options, given, slash⟩ := plain
    rw [uri.lastPart_options given slash, cut_eq_name_iff, uri.lastPart_iff_nameLast slash]
    refine ⟨fun last others given' _ => ?_, fun all => all options given slash⟩
    cases Option.some.inj (given.symm.trans given')
    exact last

theorem mongoDbName_iff (uri : MongoUri) :
    mongoDbName uri.text = String.ofList uri.name ↔ uri.NameLast := by
  rw [mongoDbName, String.ofList_inj, cut_text_iff]

theorem initMongodb_text (uri : MongoUri) (driver : MongoDriver Client Database)
    (globals : MongoHandles Client Database) :
    initMongodb driver (some uri.text) globals = driver.handles uri.text (mongoDbName uri.text) :=
  if_neg uri.text_filled

/-- A driver whose databases are their names. -/
def naming : MongoDriver Unit String where
  connect := fun _ => .ok ()
  database := fun _ name => .ok name

/-- The database of every driver is the named one when the name is what is read. -/
theorem initMongodb_opens_iff (uri : MongoUri) :
    (∀ (Client Database : Type) (driver : MongoDriver Client Database)
        (globals : MongoHandles Client Database),
      initMongodb driver (some uri.text) globals =
        driver.handles uri.text (String.ofList uri.name)) ↔
      mongoDbName uri.text = String.ofList uri.name := by
  constructor
  · intro opens
    have named := opens Unit String naming ⟨none, none⟩
    rw [initMongodb_text] at named
    exact Option.some.inj (congrArg MongoHandles.mongoDb named)
  · intro read Client Database driver globals
    rw [initMongodb_text, read]

/-! The driver's own cuts of the string, in the other order. -/

/-- The text before the first separator, and the text after it. -/
def partition (sep : Char) (text : List Char) : List Char × List Char :=
  (text.takeWhile (· ≠ sep), (text.dropWhile (· ≠ sep)).drop 1)

/-- `scheme_free.partition("?")`, and its first part cut with `partition("/")`. In a name with a
percent sign, a plus or a dot the driver goes on to decode it and to split a collection off. -/
def driverDbName (schemeFree : List Char) : List Char :=
  (partition '/' (partition '?' schemeFree).1).2

theorem partition_append {sep : Char} {before : List Char} (free : sep ∉ before)
    (after : List Char) : partition sep (before ++ sep :: after) = (before, after) := by
  rw [partition, QueryString.takeWhile_append_stop free, QueryString.dropWhile_append_stop free,
    List.takeWhile_cons_of_neg (by simp), List.append_nil]
  rfl

theorem partition_of_free {sep : Char} {text : List Char} (free : sep ∉ text) :
    (partition sep text).1 = text := by
  have whole := QueryString.takeWhile_append_stop free []
  rwa [List.takeWhile_nil, List.append_nil] at whole

/-- The driver's cuts leave the name of every connection string. -/
theorem driverDbName_schemeFree (uri : MongoUri) : driverDbName uri.schemeFree = uri.name := by
  have plain : '?' ∉ uri.authority ++ '/' :: uri.name := by
    rw [List.mem_append, List.mem_cons, not_or, not_or]
    exact ⟨uri.authority_plain.2, by decide, uri.name_plain.2⟩
  have front : (partition '?' uri.schemeFree).1 = uri.authority ++ '/' :: uri.name := by
    rw [schemeFree, optionsText]
    cases uri.options with
    | none => rw [List.append_nil, partition_of_free plain]
    | some options =>
      rw [← List.cons_append, ← List.append_assoc, partition_append plain]
  rw [driverDbName, front, partition_append uri.authority_plain.1]

end MongoUri

/-- The database opened is the named one, which the driver's cuts leave of every string, just when
the name is last. -/
theorem initMongodb_named_iff (uri : MongoUri) :
    (mongoDbName uri.text = String.ofList uri.name ↔ uri.NameLast) ∧
    ((∀ (Client Database : Type) (driver : MongoDriver Client Database)
        (globals : MongoHandles Client Database),
      initMongodb driver (some uri.text) globals =
        driver.handles uri.text (String.ofList uri.name)) ↔ uri.NameLast) ∧
    MongoUri.driverDbName uri.schemeFree = uri.name :=
  ⟨uri.mongoDbName_iff, uri.initMongodb_opens_iff.trans uri.mongoDbName_iff,
    uri.driverDbName_schemeFree⟩

theorem initMongodb_certificate_path :
    ∃ uri : MongoUri,
      uri.text =
        "mongodb://localhost:27017/ussd_credit?tls=true&tlsCAFile=/etc/ssl/ca.pem" ∧
      String.ofList uri.name = "ussd_credit" ∧ mongoDbName uri.text = "ca.pem" ∧
      mongoDbName uri.text ≠ String.ofList uri.name :=
  ⟨{ scheme := "mongodb".toList
     authority := "localhost:27017".toList
     name := "ussd_credit".toList
     options := some "tls=true&tlsCAFile=/etc/ssl/ca.pem".toList
     authority_plain := by decide
     name_plain := by decide
     named := by decide }, by decide +kernel, by decide +kernel, by decide +kernel,
    by decide +kernel⟩

end UssdCredit
