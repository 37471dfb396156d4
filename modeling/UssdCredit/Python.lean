import UssdCredit.Value

/-! The Python operations the handlers apply to request data, with the exceptions they
raise and the texts of these exceptions. -/

namespace UssdCredit

inductive PyKind where
  | attributeError
  | typeError
  | keyError
  | valueError
  | zeroDivisionError
  | overflowError
  | notImplementedError
  | invalidDocument
  | duplicateKeyError
  | operationFailure
  | invalidRequestError
  | noReferencedTableError
  | badRequest
  deriving DecidableEq

/-- An exception and the text `str(e)` gives for it. -/
structure PyExn where
  kind : PyKind
  text : String
  deriving DecidableEq

/-- A sequence succeeds when its parts do. -/
theorem bind_eq_ok {ε α β : Type} {x : Except ε α} {f : α → Except ε β} {b : β} :
    (x >>= f) = .ok b ↔ ∃ a, x = .ok a ∧ f a = .ok b := by
  cases x <;> simp [bind, Except.bind]

/-- Whitespace in the sense of `str.strip`. -/
def isPySpace (c : Char) : Bool :=
  let n := c.toNat
  (0x09 ≤ n && n ≤ 0x0D) || (0x1C ≤ n && n ≤ 0x20) || n == 0x85 || n == 0xA0 || n == 0x1680 ||
    (0x2000 ≤ n && n ≤ 0x200A) || n == 0x2028 || n == 0x2029 || n == 0x202F || n == 0x205F ||
    n == 0x3000

/-- `s.strip()`. -/
def strip (s : String) : String :=
  String.ofList ((s.toList.dropWhile isPySpace).reverse.dropWhile isPySpace).reverse

/-- Decimal digits, with single underscores between them. -/
def digitsFrom (value : Nat) : List Char → Option Nat
  | [] => some value
  | '_' :: c :: rest =>
      if c.isDigit then digitsFrom (10 * value + (c.toNat - '0'.toNat)) rest else none
  | c :: rest =>
      if c.isDigit then digitsFrom (10 * value + (c.toNat - '0'.toNat)) rest else none

def unsigned : List Char → Option Nat
  | c :: rest => if c.isDigit then digitsFrom (c.toNat - '0'.toNat) rest else none
  | [] => none

/-- `int(s)` on ASCII text. -/
def pyInt (s : String) : Except PyExn Int :=
  let parsed := match (strip s).toList with
    | '-' :: digits => (unsigned digits).map (fun n => -(n : Int))
    | '+' :: digits => (unsigned digits).map (fun n => (n : Int))
    | digits => (unsigned digits).map (fun n => (n : Int))
  match parsed with
  | some n => .ok n
  | none => .error ⟨.valueError, s!"invalid literal for int() with base 10: '{s}'"⟩

def padded (width n : Nat) : String :=
  let digits := Nat.toDigits 10 n
  String.ofList (List.replicate (width - digits.length) '0' ++ digits)

/-! Moments, in microseconds since the epoch. -/

structure Date where
  year : Nat
  month : Nat
  day : Nat

/-- The proleptic Gregorian date of a number of days since the epoch. -/
def civil (days : Int) : Date :=
  let day := days + 719468
  let era := day / 146097
  let dayOfEra := (day % 146097).toNat
  let yearOfEra := (dayOfEra - dayOfEra / 1460 + dayOfEra / 36524 - dayOfEra / 146096) / 365
  let dayOfYear := dayOfEra - (365 * yearOfEra + yearOfEra / 4 - yearOfEra / 100)
  let shifted := (5 * dayOfYear + 2) / 153
  let month := if shifted < 10 then shifted + 3 else shifted - 9
  { year := (yearOfEra + 400 * era + if month ≤ 2 then 1 else 0).toNat
    month
    day := dayOfYear - (153 * shifted + 2) / 5 + 1 }

def clock (t : Int) : String :=
  let second := ((t / 1000000) % 86400).toNat
  padded 2 (second / 3600) ++ ":" ++ padded 2 (second / 60 % 60) ++ ":" ++ padded 2 (second % 60)

/-- `datetime.isoformat()`. -/
def isoformat (t : Int) : String :=
  let date := civil (t / 86400000000)
  let microsecond := (t % 1000000).toNat
  padded 4 date.year ++ "-" ++ padded 2 date.month ++ "-" ++ padded 2 date.day ++ "T" ++ clock t ++
    if microsecond = 0 then "" else "." ++ padded 6 microsecond

/-- The HTTP date of a moment, as the JSON provider writes datetimes. -/
def httpDate (t : Int) : String :=
  let days := t / 86400000000
  let date := civil days
  let weekday := ["Mon", "Tue", "Wed", "Thu", "Fri", "Sat", "Sun"].getD ((days + 3) % 7).toNat ""
  let month := ["Jan", "Feb", "Mar", "Apr", "May", "Jun", "Jul", "Aug", "Sep", "Oct", "Nov",
    "Dec"].getD (date.month - 1) ""
  weekday ++ ", " ++ padded 2 date.day ++ " " ++ month ++ " " ++ padded 4 date.year ++ " " ++
    clock t ++ " GMT"

example : isoformat 1709164800250000 = "2024-02-29T00:00:00.250000" := by decide +kernel
example : httpDate 1709164800250000 = "Thu, 29 Feb 2024 00:00:00 GMT" := by decide +kernel

namespace Value

/-- `v.get(key, default)`. -/
def pyGet (v : Value) (key : String) (default : Value) : Except PyExn Value :=
  match v with
  | .dict entries => .ok ((entries.lookup key).getD default)
  | v => .error ⟨.attributeError, s!"'{v.typeName}' object has no attribute 'get'"⟩

/-- `key in v`. -/
def pyIn (key : String) (v : Value) : Except PyExn Bool :=
  match v with
  | .dict entries => .ok (entries.lookup key).isSome
  | .list items => .ok (items.any (fun item => item.pyEq (.str key)))
  | .str s => .ok (decide (key.toList <:+: s.toList))
  | v => .error ⟨.typeError, s!"argument of type '{v.typeName}' is not iterable"⟩

/-- `v[key]`. -/
def pyIndex (v : Value) (key : String) : Except PyExn Value :=
  match v with
  | .dict entries =>
      match entries.lookup key with
      | some item => .ok item
      | none => .error ⟨.keyError, s!"'{key}'"⟩
  | .list _ => .error ⟨.typeError, "list indices must be integers or slices, not str"⟩
  | .str _ => .error ⟨.typeError, "string indices must be integers"⟩
  | v => .error ⟨.typeError, s!"'{v.typeName}' object is not subscriptable"⟩

/-- The text a method of `str` is called on. -/
def pyStr (v : Value) (method : String) : Except PyExn String :=
  match v with
  | .str s => .ok s
  | v => .error ⟨.attributeError, s!"'{v.typeName}' object has no attribute '{method}'"⟩

/-- `v.strip() if isinstance(v, str) else v`. -/
def stripIfStr : Value → Value
  | .str s => .str (strip s)
  | v => v

/-- `a or b`. -/
def pyOr (a b : Value) : Value := if a.truthy then a else b

/-- The first of `fields` for which `not v.get(field)`. -/
def missingField (v : Value) : List String → Except PyExn (Option String)
  | [] => .ok none
  | field :: rest =>
      match v.pyGet field .null with
      | .error e => .error e
      | .ok item => if item.truthy then missingField v rest else .ok (some field)

/-- The entries of `fields` that occur in `v`: `for field in fields: if field in v: …`. -/
def collectFields (convert : Value → Value) (v : Value) : List String → Except PyExn Fields
  | [] => .ok []
  | field :: rest => do
      if ← pyIn field v then
        let item ← v.pyIndex field
        let others ← collectFields convert v rest
        return (field, convert item) :: others
      else collectFields convert v rest

theorem pyGet_dict (entries : Fields) (key : String) (default : Value) :
    (Value.dict entries).pyGet key default = .ok ((entries.lookup key).getD default) := rfl

theorem pyGet_held {entries : Fields} {key : String} {item : Value}
    (held : entries.lookup key = some item) (default : Value) :
    (Value.dict entries).pyGet key default = .ok item := by
  rw [pyGet_dict, held]
  rfl

theorem pyGet_ok {v item default : Value} {key : String} (found : v.pyGet key default = .ok item) :
    ∃ entries, v = .dict entries ∧ (entries.lookup key).getD default = item := by
  unfold pyGet at found
  split at found
  · exact ⟨_, rfl, Except.ok.inj found⟩
  · cases found

theorem truthy_of_missingField {entries : Fields} {fields : List String}
    (complete : (Value.dict entries).missingField fields = .ok none) {field : String} (listed : field ∈ fields) :
    ((entries.lookup field).getD .null).truthy = true := by
  induction fields with
  | nil => cases listed
  | cons first rest ih =>
    simp only [missingField, pyGet_dict] at complete
    split_ifs at complete with given
    · rcases List.mem_cons.mp listed with rfl | later
      · exact given
      · exact ih complete later
    · cases complete

@[simp] theorem pyStr_str (s method : String) : (Value.str s).pyStr method = .ok s := rfl

theorem pyStr_ok {v : Value} {method s : String} (text : v.pyStr method = .ok s) : v = .str s := by
  unfold pyStr at text
  split at text
  · rw [Except.ok.inj text]
  · cases text

theorem pyIndex_held {entries : Fields} {key : String} {item : Value}
    (held : entries.lookup key = some item) : (Value.dict entries).pyIndex key = .ok item := by
  simp only [pyIndex, held]

theorem pyIndex_ok {v item : Value} {key : String} (found : v.pyIndex key = .ok item) :
    ∃ entries, v = .dict entries ∧ entries.lookup key = some item := by
  unfold pyIndex at found
  split at found
  · split at found
    · next present => exact ⟨_, rfl, Except.ok.inj found ▸ present⟩
    · cases found
  · cases found
  · cases found
  · cases found

theorem isJson_pyGet {v item default : Value} {key : String} (json : v.isJson = true)
    (fallback : default.isJson = true) (found : v.pyGet key default = .ok item) :
    item.isJson = true := by
  obtain ⟨entries, rfl, rfl⟩ := pyGet_ok found
  cases present : entries.lookup key with
  | none => simpa only [Option.getD_none] using fallback
  | some item => simpa only [Option.getD_some] using isJson_of_lookup json present

theorem isJson_pyIndex {v item : Value} {key : String} (json : v.isJson = true)
    (found : v.pyIndex key = .ok item) : item.isJson = true := by
  obtain ⟨entries, rfl, present⟩ := pyIndex_ok found
  exact isJson_of_lookup json present

/-- The collected keys are those of the whitelist, in its order. -/
theorem collectFields_keys {convert : Value → Value} {v : Value} {fields : List String}
    {collected : Fields} (result : collectFields convert v fields = .ok collected) :
    (collected.map Prod.fst).Sublist fields := by
  induction fields generalizing collected with
  | nil =>
    obtain rfl : [] = collected := Except.ok.inj result
    exact List.Sublist.refl _
  | cons first rest ih =>
    unfold collectFields at result
    obtain ⟨present, -, later⟩ := bind_eq_ok.mp result
    split_ifs at later
    · obtain ⟨item, -, later⟩ := bind_eq_ok.mp later
      obtain ⟨others, tail, same⟩ := bind_eq_ok.mp later
      rw [← Except.ok.inj same]
      exact (ih tail).cons_cons first
    · exact (ih later).cons first

/-- Only whitelisted keys are collected, each with what the payload holds under it. -/
theorem collectFields_spec {convert : Value → Value} {v : Value} {fields : List String}
    {collected : Fields} (result : collectFields convert v fields = .ok collected) :
    ∀ entry ∈ collected, entry.1 ∈ fields ∧
      ∃ item, v.pyIndex entry.1 = .ok item ∧ entry.2 = convert item := by
  induction fields generalizing collected with
  | nil =>
    obtain rfl : [] = collected := Except.ok.inj result
    simp
  | cons first rest ih =>
    have later : ∀ others, collectFields convert v rest = .ok others → ∀ entry ∈ others,
        entry.1 ∈ first :: rest ∧ ∃ item, v.pyIndex entry.1 = .ok item ∧ entry.2 = convert item :=
      fun others found entry member =>
        ⟨List.mem_cons_of_mem _ (ih found entry member).1, (ih found entry member).2⟩
    unfold collectFields at result
    cases occurs : pyIn first v with
    | error e => simp [occurs, bind, Except.bind] at result
    | ok present =>
      cases present with
      | false =>
        simp only [occurs, bind, Except.bind, Bool.false_eq_true, if_false] at result
        exact later _ result
      | true =>
        cases found : v.pyIndex first with
        | error e => simp [occurs, found, bind, Except.bind] at result
        | ok item =>
          cases tail : collectFields convert v rest with
          | error e => simp [occurs, found, tail, bind, Except.bind] at result
          | ok others =>
            simp only [occurs, found, tail, bind, Except.bind, if_true, pure, Except.pure] at result
            rw [← Except.ok.inj result]
            intro entry member
            rcases List.mem_cons.mp member with rfl | old
            · exact ⟨List.mem_cons_self .., item, found, rfl⟩
            · exact later _ tail entry old

end Value

end UssdCredit
