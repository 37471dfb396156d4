import Mathlib.Data.List.Forall2
import Mathlib.Data.List.Nodup

/-! Insertion-ordered dictionaries as lists of entries. Reading is `List.lookup`;
writing replaces the first entry of the key or appends a new one. -/

namespace UssdCredit.Library.Dict

variable {κ α : Type} [DecidableEq κ]

/-- Store one entry: in place when the key is present, at the end otherwise. -/
def set (key : κ) (value : α) : List (κ × α) → List (κ × α)
  | [] => [(key, value)]
  | (other, old) :: rest =>
      if other = key then (key, value) :: rest else (other, old) :: set key value rest

/-- Store a list of entries one after another. -/
def setAll (update entries : List (κ × α)) : List (κ × α) :=
  update.foldl (fun stored entry => set entry.1 entry.2 stored) entries

theorem lookup_cons (key other : κ) (value : α) (rest : List (κ × α)) :
    List.lookup key ((other, value) :: rest) =
      if key = other then some value else rest.lookup key := by
  by_cases same : key = other
  · simp [same]
  · simp [List.lookup_cons, same, beq_false_of_ne same]

theorem lookup_eq_none {key : κ} {entries : List (κ × α)}
    (absent : key ∉ entries.map Prod.fst) : entries.lookup key = none := by
  induction entries with
  | nil => rfl
  | cons entry rest ih =>
    simp only [List.map_cons, List.mem_cons, not_or] at absent
    rw [lookup_cons, if_neg absent.1, ih absent.2]

theorem lookup_set (key other : κ) (value : α) (entries : List (κ × α)) :
    (set other value entries).lookup key =
      if key = other then some value else entries.lookup key := by
  induction entries with
  | nil => rw [set, lookup_cons]
  | cons entry rest ih =>
    obtain ⟨first, old⟩ := entry
    by_cases here : first = other
    · subst here
      rw [set, if_pos rfl, lookup_cons, lookup_cons]
      split_ifs <;> rfl
    · rw [set, if_neg here, lookup_cons, lookup_cons, ih]
      split_ifs with first_key other_key
      · exact absurd (first_key.symm.trans other_key) here
      · rfl
      · rfl
      · rfl

/-- What is filtered out by its key is not seen under the keys that stay. -/
theorem lookup_filter {keep : κ → Bool} {key : κ} (kept : keep key = true) (entries : List (κ × α)) :
    (entries.filter fun entry => keep entry.1).lookup key = entries.lookup key := by
  induction entries with
  | nil => rfl
  | cons entry rest ih =>
    obtain ⟨first, old⟩ := entry
    rw [List.filter_cons, lookup_cons]
    dsimp only
    split_ifs with stays here here
    · rw [lookup_cons, if_pos here]
    · rw [lookup_cons, if_neg here, ih]
    · exact absurd (here ▸ kept) stays
    · exact ih

theorem filter_set {keep : κ → Bool} {key : κ} (kept : keep key = true) (value : α)
    (entries : List (κ × α)) : (set key value entries).filter (fun entry => keep entry.1) =
      set key value (entries.filter fun entry => keep entry.1) := by
  induction entries with
  | nil => simp [set, kept]
  | cons entry rest ih =>
    obtain ⟨first, old⟩ := entry
    simp only [set, List.filter_cons]
    by_cases here : first = key
    · simp only [here, kept, List.filter_cons, if_true, set]
    · by_cases stays : keep first = true
      · simp only [if_neg here, stays, List.filter_cons, if_true, ih, set]
      · simp only [if_neg here, stays, List.filter_cons, ih, if_false, Bool.false_eq_true]

theorem mem_set {key : κ} {value : α} {entries : List (κ × α)} {entry : κ × α}
    (member : entry ∈ set key value entries) : entry = (key, value) ∨ entry ∈ entries := by
  induction entries with
  | nil => exact .inl (List.mem_singleton.mp member)
  | cons head rest ih =>
    obtain ⟨first, old⟩ := head
    unfold set at member
    split_ifs at member
    · rcases List.mem_cons.mp member with same | later
      · exact .inl same
      · exact .inr (List.mem_cons_of_mem _ later)
    · rcases List.mem_cons.mp member with same | later
      · exact .inr (same ▸ List.mem_cons_self ..)
      · exact (ih later).imp_right (List.mem_cons_of_mem _)

theorem lookup_setAll_of_not_mem {key : κ} {update : List (κ × α)}
    (absent : key ∉ update.map Prod.fst) (entries : List (κ × α)) :
    (setAll update entries).lookup key = entries.lookup key := by
  induction update generalizing entries with
  | nil => rfl
  | cons entry rest ih =>
    simp only [List.map_cons, List.mem_cons, not_or] at absent
    change (setAll rest (set entry.1 entry.2 entries)).lookup key = _
    rw [ih absent.2, lookup_set, if_neg absent.1]

theorem lookup_setAll_cons {key : κ} {value : α} {rest : List (κ × α)}
    (last : key ∉ rest.map Prod.fst) (entries : List (κ × α)) :
    (setAll ((key, value) :: rest) entries).lookup key = some value := by
  change (setAll rest (set key value entries)).lookup key = _
  rw [lookup_setAll_of_not_mem last, lookup_set, if_pos rfl]

/-- After an update a key holds an updated value, or what it held before. -/
theorem lookup_setAll {key : κ} {update entries : List (κ × α)} {value : α}
    (found : (setAll update entries).lookup key = some value) :
    (key, value) ∈ update ∨ entries.lookup key = some value := by
  induction update generalizing entries with
  | nil => exact .inr found
  | cons entry rest ih =>
    change (setAll rest (set entry.1 entry.2 entries)).lookup key = _ at found
    rcases ih found with later | before
    · exact .inl (List.mem_cons_of_mem _ later)
    · rw [lookup_set] at before
      split_ifs at before with same
      · obtain rfl : entry.2 = value := Option.some.inj before
        exact .inl (List.mem_cons.mpr (.inl (Prod.ext same rfl)))
      · exact .inr before

/-- With distinct keys the update decides where it has the key. -/
theorem lookup_setAll_of_nodup {update : List (κ × α)} (distinct : (update.map Prod.fst).Nodup)
    (key : κ) (entries : List (κ × α)) :
    (setAll update entries).lookup key = (update.lookup key).or (entries.lookup key) := by
  induction update generalizing entries with
  | nil => rfl
  | cons entry rest ih =>
    obtain ⟨other, value⟩ := entry
    obtain ⟨fresh, distinct⟩ := List.nodup_cons.mp distinct
    change (setAll rest (set other value entries)).lookup key = _
    rw [ih distinct, lookup_set, lookup_cons]
    split_ifs with here
    · rw [here, lookup_eq_none fresh, Option.none_or, Option.some_or]
    · rfl

theorem isSome_lookup_setAll {key : κ} {entries : List (κ × α)} (update : List (κ × α))
    (present : (entries.lookup key).isSome) : ((setAll update entries).lookup key).isSome := by
  induction update generalizing entries with
  | nil => exact present
  | cons entry rest ih =>
    apply ih
    rw [lookup_set]
    split_ifs
    · rfl
    · exact present

theorem mem_setAll {update entries : List (κ × α)} {entry : κ × α}
    (member : entry ∈ setAll update entries) : entry ∈ update ∨ entry ∈ entries := by
  induction update generalizing entries with
  | nil => exact .inr member
  | cons head rest ih =>
    rcases ih member with later | before
    · exact .inl (List.mem_cons_of_mem _ later)
    · rcases mem_set before with same | old
      · exact .inl (same ▸ List.mem_cons_self ..)
      · exact .inr old

theorem mem_of_lookup {key : κ} {value : α} {entries : List (κ × α)}
    (found : entries.lookup key = some value) : (key, value) ∈ entries := by
  induction entries with
  | nil => cases found
  | cons entry rest ih =>
    obtain ⟨first, old⟩ := entry
    rw [lookup_cons] at found
    split_ifs at found with same
    · rw [same, Option.some.inj found]
      exact List.mem_cons_self ..
    · exact List.mem_cons_of_mem _ (ih found)

/-! Dictionaries that differ at one key only. -/

/-- The same keys in the same order, and the same values except under `secret`. -/
def AgreeExcept (secret : κ) (left right : List (κ × α)) : Prop :=
  List.Forall₂ (fun a b => a.1 = b.1 ∧ (a.1 = secret ∨ a.2 = b.2)) left right

theorem AgreeExcept.lookup {secret key : κ} {left right : List (κ × α)}
    (agree : AgreeExcept secret left right) (other : key ≠ secret) :
    left.lookup key = right.lookup key := by
  induction agree with
  | nil => rfl
  | @cons a b left right same _ ih =>
    obtain ⟨name, value⟩ := a
    obtain ⟨name', value'⟩ := b
    obtain ⟨names, hidden⟩ := same
    dsimp only at names hidden
    rw [lookup_cons, lookup_cons, ih, names]
    split_ifs with here
    · rw [hidden.resolve_left (fun h => other (here.trans (names.symm.trans h)))]
    · rfl

theorem AgreeExcept.set {secret : κ} {left right : List (κ × α)}
    (agree : AgreeExcept secret left right) (key : κ) (value : α) :
    AgreeExcept secret (set key value left) (set key value right) := by
  induction agree with
  | nil => exact .cons ⟨rfl, .inr rfl⟩ .nil
  | @cons a b left right same rest ih =>
    unfold Dict.set
    split_ifs with here there there
    · exact .cons ⟨rfl, .inr rfl⟩ rest
    · exact absurd (same.1.symm.trans here) there
    · exact absurd (same.1.trans there) here
    · exact .cons same ih

theorem AgreeExcept.setAll {secret : κ} {left right : List (κ × α)}
    (agree : AgreeExcept secret left right) (update : List (κ × α)) :
    AgreeExcept secret (setAll update left) (setAll update right) := by
  induction update generalizing left right with
  | nil => exact agree
  | cons entry rest ih => exact ih (agree.set entry.1 entry.2)

/-- Leaving the secret out makes such dictionaries equal. -/
theorem AgreeExcept.filter {secret : κ} {left right : List (κ × α)}
    (agree : AgreeExcept secret left right) :
    left.filter (fun entry => entry.1 ≠ secret) = right.filter (fun entry => entry.1 ≠ secret) := by
  induction agree with
  | nil => rfl
  | @cons a b left right same _ ih =>
    by_cases hidden : a.1 = secret
    · simp only [ne_eq, decide_not, List.filter_cons, hidden, same.1 ▸ hidden, decide_true,
        Bool.not_true, Bool.false_eq_true, if_false] at ih ⊢
      exact ih
    · have equal : a = b := Prod.ext same.1 (same.2.resolve_left hidden)
      rw [List.filter_cons, List.filter_cons, ih, equal]

/-- Without the secret there is nothing to differ in. -/
theorem AgreeExcept.eq {secret : κ} {left right : List (κ × α)}
    (agree : AgreeExcept secret left right) (absent : left.lookup secret = none) :
    left = right := by
  induction agree with
  | nil => rfl
  | @cons a b left right same _ ih =>
    obtain ⟨key, value⟩ := a
    rw [lookup_cons] at absent
    split_ifs at absent with here
    have equal : (key, value) = b :=
      Prod.ext same.1 (same.2.resolve_left fun hidden => here hidden.symm)
    rw [ih absent, equal]

/-- Put one value under every occurrence of the secret. -/
def mask (secret : κ) (value : α) (entries : List (κ × α)) : List (κ × α) :=
  entries.map fun entry => (entry.1, if entry.1 = secret then value else entry.2)

theorem agreeExcept_mask (secret : κ) (value : α) (entries : List (κ × α)) :
    AgreeExcept secret entries (mask secret value entries) := by
  unfold AgreeExcept mask
  rw [List.forall₂_map_right_iff, List.forall₂_same]
  intro entry _
  by_cases hidden : entry.1 = secret
  · exact ⟨rfl, .inl hidden⟩
  · exact ⟨rfl, .inr (if_neg hidden).symm⟩

theorem lookup_mask {secret : κ} {entries : List (κ × α)} (held : (entries.lookup secret).isSome)
    (value : α) : (mask secret value entries).lookup secret = some value := by
  induction entries with
  | nil => cases held
  | cons entry rest ih =>
    obtain ⟨key, old⟩ := entry
    change List.lookup secret ((key, if key = secret then value else old) :: mask secret value rest) = _
    rw [lookup_cons] at held ⊢
    by_cases here : secret = key
    · rw [if_pos here, if_pos here.symm]
    · rw [if_neg here] at held ⊢
      exact ih held

end UssdCredit.Library.Dict
