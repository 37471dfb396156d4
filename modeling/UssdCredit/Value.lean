import Mathlib.Data.List.Infix
import Mathlib.Data.Rat.Lemmas
import UssdCredit.Library.Dict

/-! The values that travel between requests, Python objects and the document store:
JSON values, and the datetimes the server adds. ObjectIds occur only as the `_id` of a
document, which is not a value of this type. -/

namespace UssdCredit

/-- A double by its exact value; the sign of zero is not kept. -/
inductive PyFloat where
  | finite (q : Rat)
  | infinite (negative : Bool)
  | nan
  deriving DecidableEq

inductive Scalar where
  | null
  | bool (b : Bool)
  | int (n : Int)
  | float (x : PyFloat)
  | str (s : String)
  /-- Microseconds since the epoch. -/
  | datetime (t : Int)
  deriving DecidableEq

inductive Value where
  | scalar (s : Scalar)
  | list (items : List Value)
  | dict (entries : List (String × Value))

/-- The entries of a Python dict or of a stored document. -/
abbrev Fields := List (String × Value)

namespace Value

@[match_pattern] abbrev null : Value := .scalar .null
@[match_pattern] abbrev bool (b : Bool) : Value := .scalar (.bool b)
@[match_pattern] abbrev int (n : Int) : Value := .scalar (.int n)
@[match_pattern] abbrev float (x : PyFloat) : Value := .scalar (.float x)
@[match_pattern] abbrev str (s : String) : Value := .scalar (.str s)
@[match_pattern] abbrev datetime (t : Int) : Value := .scalar (.datetime t)

/-! Structural equality. -/

mutual
def same : Value → Value → Bool
  | .scalar a, .scalar b => a == b
  | .list xs, .list ys => sameList xs ys
  | .dict xs, .dict ys => sameEntries xs ys
  | _, _ => false

def sameList : List Value → List Value → Bool
  | [], [] => true
  | x :: xs, y :: ys => same x y && sameList xs ys
  | _, _ => false

def sameEntries : List (String × Value) → List (String × Value) → Bool
  | [], [] => true
  | (j, x) :: xs, (k, y) :: ys => j == k && same x y && sameEntries xs ys
  | _, _ => false
end

mutual
theorem same_iff : (a b : Value) → (a.same b = true ↔ a = b)
  | .scalar a, .scalar b => by simp [same]
  | .list xs, .list ys => by simp [same, sameList_iff xs ys]
  | .dict xs, .dict ys => by simp [same, sameEntries_iff xs ys]
  | .scalar _, .list _ | .scalar _, .dict _ | .list _, .scalar _ | .list _, .dict _
  | .dict _, .scalar _ | .dict _, .list _ => by simp [same]

theorem sameList_iff : (xs ys : List Value) → (sameList xs ys = true ↔ xs = ys)
  | [], [] => by simp [sameList]
  | x :: xs, y :: ys => by simp [sameList, same_iff x y, sameList_iff xs ys]
  | [], _ :: _ | _ :: _, [] => by simp [sameList]

theorem sameEntries_iff : (xs ys : List (String × Value)) → (sameEntries xs ys = true ↔ xs = ys)
  | [], [] => by simp [sameEntries]
  | (j, x) :: xs, (k, y) :: ys => by
      simp [sameEntries, same_iff x y, sameEntries_iff xs ys]
  | [], _ :: _ | _ :: _, [] => by simp [sameEntries]
end

instance : DecidableEq Value :=
  fun a b => decidable_of_iff (a.same b = true) (same_iff a b)

/-! Numbers compare by value whatever their type, in Python and in the database alike. -/

mutual
def mapScalar (f : Scalar → Scalar) : Value → Value
  | .scalar s => .scalar (f s)
  | .list items => .list (mapScalarList f items)
  | .dict entries => .dict (mapScalarEntries f entries)

def mapScalarList (f : Scalar → Scalar) : List Value → List Value
  | [] => []
  | item :: rest => mapScalar f item :: mapScalarList f rest

def mapScalarEntries (f : Scalar → Scalar) : List (String × Value) → List (String × Value)
  | [] => []
  | (key, item) :: rest => (key, mapScalar f item) :: mapScalarEntries f rest
end

theorem mapScalarList_eq (f : Scalar → Scalar) (items : List Value) :
    mapScalarList f items = items.map (mapScalar f) := by
  induction items with
  | nil => rfl
  | cons item rest ih => rw [mapScalarList, ih, List.map_cons]

theorem lookup_mapScalarEntries (f : Scalar → Scalar) (entries : List (String × Value))
    (key : String) :
    (mapScalarEntries f entries).lookup key = (entries.lookup key).map (mapScalar f) := by
  induction entries with
  | nil => rfl
  | cons entry rest ih =>
    obtain ⟨other, item⟩ := entry
    rw [mapScalarEntries, Library.Dict.lookup_cons, Library.Dict.lookup_cons, ih]
    split_ifs <;> rfl

theorem keys_mapScalarEntries (f : Scalar → Scalar) (entries : List (String × Value)) :
    (mapScalarEntries f entries).map Prod.fst = entries.map Prod.fst := by
  induction entries with
  | nil => rfl
  | cons entry rest ih => rw [mapScalarEntries, List.map_cons, List.map_cons, ih]

/-- An integral double is the integer it equals. -/
def integral : Scalar → Scalar
  | .float (.finite q) => if q.den = 1 then .int q.num else .float (.finite q)
  | s => s

/-- Python's booleans are the integers 0 and 1. -/
def pyNumber : Scalar → Scalar
  | .bool b => .int (if b then 1 else 0)
  | s => integral s

def insertKey (key : String) (value : Value) : List (String × Value) → List (String × Value)
  | [] => [(key, value)]
  | (other, old) :: rest =>
      if key < other then (key, value) :: (other, old) :: rest
      else if key = other then (other, old) :: rest
      else (other, old) :: insertKey key value rest

mutual
/-- The order of a dict's keys does not matter to Python. -/
def sortKeys : Value → Value
  | .scalar s => .scalar s
  | .list items => .list (sortKeysList items)
  | .dict entries => .dict (sortKeysEntries entries)

def sortKeysList : List Value → List Value
  | [] => []
  | item :: rest => sortKeys item :: sortKeysList rest

def sortKeysEntries : List (String × Value) → List (String × Value)
  | [] => []
  | (key, item) :: rest => insertKey key (sortKeys item) (sortKeysEntries rest)
end

theorem lookup_insertKey_other {key other : String} (different : key ≠ other) (value : Value)
    (entries : List (String × Value)) :
    (insertKey other value entries).lookup key = entries.lookup key := by
  induction entries with
  | nil => rw [insertKey, Library.Dict.lookup_cons, if_neg different]
  | cons entry rest ih =>
    obtain ⟨first, old⟩ := entry
    unfold insertKey
    split_ifs
    · rw [Library.Dict.lookup_cons, if_neg different]
    · rfl
    · rw [Library.Dict.lookup_cons, Library.Dict.lookup_cons, ih]

theorem lookup_insertKey_self {key : String} (value : Value) {entries : List (String × Value)}
    (absent : entries.lookup key = none) : (insertKey key value entries).lookup key = some value := by
  induction entries with
  | nil => rw [insertKey, Library.Dict.lookup_cons, if_pos rfl]
  | cons entry rest ih =>
    obtain ⟨first, old⟩ := entry
    rw [Library.Dict.lookup_cons] at absent
    split_ifs at absent with here
    unfold insertKey
    rw [if_neg here]
    split_ifs
    · rw [Library.Dict.lookup_cons, if_pos rfl]
    · rw [Library.Dict.lookup_cons, if_neg here, ih absent]

/-- Sorting moves the entries of a dict with distinct keys and loses none. -/
theorem lookup_sortKeysEntries (key : String) {entries : List (String × Value)}
    (distinct : (entries.map Prod.fst).Nodup) :
    (sortKeysEntries entries).lookup key = (entries.lookup key).map sortKeys := by
  induction entries with
  | nil => rfl
  | cons entry rest ih =>
    obtain ⟨first, item⟩ := entry
    obtain ⟨fresh, others⟩ := List.nodup_cons.mp distinct
    rw [sortKeysEntries, Library.Dict.lookup_cons]
    by_cases here : key = first
    · subst here
      rw [if_pos rfl, lookup_insertKey_self, Option.map_some]
      rw [ih others, Library.Dict.lookup_eq_none fresh, Option.map_none]
    · rw [if_neg here, lookup_insertKey_other here, ih others]

/-- Python's `==` on values that came from JSON. The parser hands out one NaN object:
it differs from itself, but containers compare their items by identity first. -/
def pyEq (a b : Value) : Bool :=
  a ≠ .float .nan && (a.mapScalar pyNumber).sortKeys = (b.mapScalar pyNumber).sortKeys

theorem pyEq_symm (a b : Value) : a.pyEq b = b.pyEq a := by
  by_cases keys : (a.mapScalar pyNumber).sortKeys = (b.mapScalar pyNumber).sortKeys
  · have nan_iff : a = .float .nan ↔ b = .float .nan := by
      have only : ∀ v : Value, (v.mapScalar pyNumber).sortKeys = .float .nan ↔ v = .float .nan := by
        intro v
        cases v with
        | list items => simp [mapScalar, sortKeys]
        | dict entries => simp [mapScalar, sortKeys]
        | scalar s =>
          cases s with
          | float x =>
            cases x with
            | finite q =>
              by_cases whole : q.den = 1 <;> simp [mapScalar, sortKeys, pyNumber, integral, whole]
            | infinite negative => simp [mapScalar, sortKeys, pyNumber, integral]
            | nan => simp [mapScalar, sortKeys, pyNumber, integral]
          | _ => simp [mapScalar, sortKeys, pyNumber, integral]
      rw [← only a, ← only b, keys]
    simp only [pyEq, keys, decide_true, Bool.and_true, ne_eq, nan_iff]
  · have keys' : ¬(b.mapScalar pyNumber).sortKeys = (a.mapScalar pyNumber).sortKeys :=
      fun h => keys h.symm
    simp only [pyEq, keys, keys', decide_false, Bool.and_false]

/-- Equal dicts hold equal values under each key. -/
theorem lookup_of_pyEq {left right : List (String × Value)}
    (equal : (Value.dict left).pyEq (.dict right) = true)
    (distinct : (left.map Prod.fst).Nodup) (distinct' : (right.map Prod.fst).Nodup) (key : String) :
    (left.lookup key).map (fun v => (v.mapScalar pyNumber).sortKeys) =
      (right.lookup key).map fun v => (v.mapScalar pyNumber).sortKeys := by
  have sorted : ∀ entries : List (String × Value), (entries.map Prod.fst).Nodup →
      (sortKeysEntries (mapScalarEntries pyNumber entries)).lookup key =
        (entries.lookup key).map fun v => (v.mapScalar pyNumber).sortKeys := by
    intro entries distinct
    rw [← keys_mapScalarEntries pyNumber] at distinct
    rw [lookup_sortKeysEntries key distinct, lookup_mapScalarEntries, Option.map_map]
    rfl
  have same : sortKeysEntries (mapScalarEntries pyNumber left) =
      sortKeysEntries (mapScalarEntries pyNumber right) := by
    simpa [pyEq, mapScalar, sortKeys] using equal
  rw [← sorted left distinct, ← sorted right distinct', same]

/-- Only a text equals a text. -/
theorem eq_of_str_pyEq {s : String} {v : Value} (equal : (Value.str s).pyEq v = true) :
    v = .str s := by
  have keys : Value.str s = (v.mapScalar pyNumber).sortKeys := by
    simpa [pyEq, mapScalar, sortKeys, pyNumber, integral] using equal
  cases v with
  | list items => simp [mapScalar, sortKeys] at keys
  | dict entries => simp [mapScalar, sortKeys] at keys
  | scalar given =>
    cases given with
    | str t => simpa [mapScalar, sortKeys, pyNumber, integral] using keys.symm
    | float x =>
      cases x with
      | finite q =>
        by_cases whole : q.den = 1 <;> simp [mapScalar, sortKeys, pyNumber, integral, whole] at keys
      | infinite negative => simp [mapScalar, sortKeys, pyNumber, integral] at keys
      | nan => simp [mapScalar, sortKeys, pyNumber, integral] at keys
    | _ => simp [mapScalar, sortKeys, pyNumber, integral] at keys

theorem pyEq_str {v : Value} {s : String} : v.pyEq (.str s) = true ↔ v = .str s := by
  rw [pyEq_symm]
  constructor
  · exact eq_of_str_pyEq
  · rintro rfl
    simp [pyEq]

/-- A value equals one integer at most. -/
theorem int_pyEq_inj {m n : Int} {v : Value} (equal : (Value.int m).pyEq v = true)
    (equal' : (Value.int n).pyEq v = true) : m = n := by
  have keys : ∀ k : Int, (Value.int k).pyEq v = true → (Value.int k) = (v.mapScalar pyNumber).sortKeys := by
    intro k equal
    simpa [pyEq, mapScalar, sortKeys, pyNumber, integral] using equal
  have same := (keys m equal).trans (keys n equal').symm
  simpa using same

/-- A field equals a queried value in MongoDB when the two are equal up to the type of
numbers, when it is an array with such an element, or, for null, when it is absent. -/
def matchesField (query : Value) : Option Value → Bool
  | none => query = .null
  | some stored =>
      query.mapScalar integral = stored.mapScalar integral ||
        match stored with
        | .list items => items.any (fun item => query.mapScalar integral = item.mapScalar integral)
        | _ => false

@[simp] theorem mapScalar_integral_str (s : String) :
    (Value.str s).mapScalar integral = .str s := rfl

@[simp] theorem mapScalar_integral_int (n : Int) :
    (Value.int n).mapScalar integral = .int n := rfl

/-- Only a text matches a text. -/
theorem mapScalar_integral_eq_str {v : Value} {s : String} :
    v.mapScalar integral = .str s ↔ v = .str s := by
  cases v with
  | list items => simp [mapScalar]
  | dict entries => simp [mapScalar]
  | scalar given =>
    cases given with
    | float x =>
      cases x with
      | finite q => by_cases whole : q.den = 1 <;> simp [mapScalar, integral, whole]
      | _ => simp [mapScalar, integral]
    | _ => simp [mapScalar, integral]

theorem matchesField_self (v : Value) : v.matchesField (some v) = true := by
  simp [matchesField]

theorem matchesField_int (m n : Int) : (Value.int m).matchesField (some (.int n)) = decide (m = n) := by
  simp [matchesField]

theorem matchesField_str_str (s t : String) :
    (Value.str s).matchesField (some (.str t)) = decide (s = t) := by
  simp [matchesField]

/-! Truth, types and encodings. -/

/-- `bool(v)`. -/
def truthy : Value → Bool
  | .null => false
  | .bool b => b
  | .int n => n ≠ 0
  | .float x => x ≠ .finite 0
  | .str s => s ≠ ""
  | .datetime _ => true
  | .list items => !items.isEmpty
  | .dict entries => !entries.isEmpty

/-- `type(v).__name__`, as error messages quote it. -/
def typeName : Value → String
  | .null => "NoneType"
  | .bool _ => "bool"
  | .int _ => "int"
  | .float _ => "float"
  | .str _ => "str"
  | .datetime _ => "datetime.datetime"
  | .list _ => "list"
  | .dict _ => "dict"

mutual
/-- The value can come from a JSON text: it holds no datetime. -/
def isJson : Value → Bool
  | .datetime _ => false
  | .scalar _ => true
  | .list items => isJsonList items
  | .dict entries => isJsonEntries entries

def isJsonList : List Value → Bool
  | [] => true
  | item :: rest => isJson item && isJsonList rest

def isJsonEntries : List (String × Value) → Bool
  | [] => true
  | (_, item) :: rest => isJson item && isJsonEntries rest
end

theorem isJson_of_lookup {entries : List (String × Value)} {key : String} {value : Value}
    (json : (Value.dict entries).isJson = true) (found : entries.lookup key = some value) :
    value.isJson = true := by
  simp only [isJson] at json
  induction entries with
  | nil => cases found
  | cons entry rest ih =>
    obtain ⟨name, item⟩ := entry
    simp only [isJsonEntries, Bool.and_eq_true] at json
    rw [Library.Dict.lookup_cons] at found
    split_ifs at found with here
    · exact Option.some.inj found ▸ json.1
    · exact ih json.2 found

end Value

end UssdCredit
