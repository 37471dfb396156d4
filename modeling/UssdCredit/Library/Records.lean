import Mathlib.Algebra.BigOperators.Group.List.Basic
import Mathlib.Data.Int.Cast.Lemmas
import Mathlib.Data.List.Nodup
import Mathlib.Data.Nat.Cast.Basic

/-! Lists of records under integer keys that nothing enforces to be distinct: every access
goes to the first record with its key. -/

namespace UssdCredit.Library.Records

variable {α : Type} (key : α → Int)

/-- The record an access with `id` reaches. -/
def find (id : Int) (records : List α) : Option α := records.find? fun record => key record = id

/-- Rewrite that record in place. -/
def modify (id : Int) (write : α → α) : List α → List α
  | [] => []
  | record :: rest =>
      if key record = id then write record :: rest else record :: modify id write rest

/-- Take that record out. -/
def remove (id : Int) (records : List α) : List α := records.eraseP fun record => key record = id

/-- `max(…) + 1`, or 1 when there is no record. -/
def nextId : List Int → Int
  | [] => 1
  | id :: ids => ids.foldl max id + 1

/-- `count` ids from `first` on. -/
def consecutive (first : Int) : Nat → List Int
  | 0 => []
  | count + 1 => first :: consecutive (first + 1) count

theorem mem_consecutive {first id : Int} {count : Nat} :
    id ∈ consecutive first count ↔ first ≤ id ∧ id < first + count := by
  induction count generalizing first with
  | zero => simp [consecutive]
  | succ count ih =>
    rw [consecutive, List.mem_cons, ih]
    omega

theorem consecutive_succ (first : Int) (count : Nat) :
    consecutive first (count + 1) = consecutive first count ++ [first + count] := by
  induction count generalizing first with
  | zero => simp [consecutive]
  | succ count ih =>
    have shifted : first + 1 + (count : Int) = first + ((count + 1 : Nat) : Int) := by omega
    rw [consecutive, ih (first + 1), shifted]
    rfl

theorem pairwise_consecutive (first : Int) (count : Nat) :
    (consecutive first count).Pairwise (· < ·) := by
  induction count generalizing first with
  | zero => exact .nil
  | succ count ih =>
    refine List.pairwise_cons.mpr ⟨fun id member => ?_, ih (first + 1)⟩
    have bounds := mem_consecutive.mp member
    omega

theorem le_foldl_max (ids : List Int) (first : Int) : first ≤ ids.foldl max first ∧
    ∀ id ∈ ids, id ≤ ids.foldl max first := by
  induction ids generalizing first with
  | nil => simp
  | cons id rest ih =>
    obtain ⟨least, others⟩ := ih (max first id)
    simp only [List.foldl_cons, List.forall_mem_cons]
    exact ⟨by omega, by omega, others⟩

theorem lt_nextId {id : Int} {ids : List Int} (member : id ∈ ids) : id < nextId ids := by
  cases ids with
  | nil => cases member
  | cons first rest =>
    obtain ⟨least, others⟩ := le_foldl_max rest first
    change id < rest.foldl max first + 1
    rcases List.mem_cons.mp member with rfl | later
    · omega
    · have bound := others id later
      omega

theorem nextId_append_nextId (ids : List Int) : nextId (ids ++ [nextId ids]) = nextId ids + 1 := by
  cases ids with
  | nil => rfl
  | cons first rest =>
    rw [List.cons_append]
    simp only [nextId, List.foldl_append, List.foldl_cons, List.foldl_nil]
    omega

theorem nextId_consecutive (count : Nat) : nextId (consecutive 1 count) = count + 1 := by
  induction count with
  | zero => rfl
  | succ count ih =>
    have last : (1 : Int) + count = nextId (consecutive 1 count) := by omega
    rw [consecutive_succ, last, nextId_append_nextId, ih]
    rfl

theorem nodup_append_nextId {ids : List Int} (distinct : ids.Nodup) :
    (ids ++ [nextId ids]).Nodup := by
  refine List.nodup_append.mpr ⟨distinct, List.nodup_singleton _, ?_⟩
  intro id member other last same
  have above := lt_nextId member
  rw [same, List.mem_singleton.mp last] at above
  omega

theorem find_cons (id : Int) (record : α) (rest : List α) :
    find key id (record :: rest) = if key record = id then some record else find key id rest := by
  unfold find
  by_cases here : key record = id <;> simp [here]

theorem remove_cons (id : Int) (record : α) (rest : List α) :
    remove key id (record :: rest) =
      if key record = id then rest else record :: remove key id rest := by
  unfold remove
  by_cases here : key record = id <;> simp [here]

variable {key}

theorem find_some {id : Int} {records : List α} {record : α}
    (found : find key id records = some record) : record ∈ records ∧ key record = id :=
  ⟨List.mem_of_find?_eq_some found, by simpa using List.find?_some found⟩

theorem find_append_of_some {id : Int} {records : List α} {record : α}
    (found : find key id records = some record) (later : List α) :
    find key id (records ++ later) = some record := by
  unfold find at *
  rw [List.find?_append, found, Option.some_or]

theorem find_none {id : Int} {records : List α} :
    find key id records = none ↔ ∀ record ∈ records, key record ≠ id := by
  simp [find]

theorem remove_of_find_none {id : Int} {records : List α} (absent : find key id records = none) :
    remove key id records = records :=
  List.eraseP_of_forall_not fun record member => by simpa using find_none.mp absent record member

/-- The record found is the first one with the id. -/
theorem find_eq_some_iff {id : Int} {records : List α} {record : α} :
    find key id records = some record ↔ key record = id ∧ ∃ before after,
      records = before ++ record :: after ∧ ∀ other ∈ before, key other ≠ id := by
  simp [find, List.find?_eq_some_iff_append]

theorem modify_cons (id : Int) (write : α → α) (record : α) (rest : List α) :
    modify key id write (record :: rest) =
      if key record = id then write record :: rest else record :: modify key id write rest := rfl

theorem modify_of_find_none {id : Int} {records : List α} (absent : find key id records = none)
    (write : α → α) : modify key id write records = records := by
  induction records with
  | nil => rfl
  | cons head rest ih =>
    rw [find_cons] at absent
    split_ifs at absent with here
    rw [modify_cons, if_neg here, ih absent]

theorem modify_id (id : Int) (records : List α) : modify key id (fun record => record) records = records := by
  induction records with
  | nil => rfl
  | cons head rest ih =>
    rw [modify_cons, ih]
    exact ite_self _

/-- A write shows if it changes the record it reaches. -/
theorem modify_eq_self_iff {id : Int} {records : List α} {record : α}
    (found : find key id records = some record) (write : α → α) :
    modify key id write records = records ↔ write record = record := by
  induction records with
  | nil => cases found
  | cons head rest ih =>
    rw [find_cons] at found
    rw [modify_cons]
    split_ifs at found ⊢ with here
    · obtain rfl := Option.some.inj found
      exact ⟨fun same => (List.cons.inj same).1, fun same => by rw [same]⟩
    · exact ⟨fun same => (ih found).mp (List.cons.inj same).2, fun same => by rw [(ih found).mpr same]⟩

/-! A list around the first record with an id. -/

section Split

variable {id : Int} {record : α} {before : List α} (here : key record = id)
  (earlier : ∀ other ∈ before, key other ≠ id) (after : List α)

include here earlier

theorem modify_split (write : α → α) :
    modify key id write (before ++ record :: after) = before ++ write record :: after := by
  induction before with
  | nil => exact if_pos here
  | cons head rest ih =>
    obtain ⟨other, others⟩ := List.forall_mem_cons.mp earlier
    rw [List.cons_append, modify_cons, if_neg other, ih others]
    rfl

theorem remove_split : remove key id (before ++ record :: after) = before ++ after := by
  induction before with
  | nil => exact (remove_cons key id record after).trans (if_pos here)
  | cons head rest ih =>
    obtain ⟨other, others⟩ := List.forall_mem_cons.mp earlier
    rw [List.cons_append, remove_cons, if_neg other, ih others]
    rfl

end Split

/-- With distinct keys a record is the one found under its key. -/
theorem find_of_mem {records : List α} (distinct : (records.map key).Nodup) {record : α}
    (member : record ∈ records) : find key (key record) records = some record := by
  cases found : find key (key record) records with
  | none => exact absurd rfl (find_none.mp found record member)
  | some other =>
    obtain ⟨present, same⟩ := find_some found
    rw [List.inj_on_of_nodup_map distinct present member same]

theorem mem_modify {id : Int} {write : α → α} {records : List α} {record : α}
    (member : record ∈ modify key id write records) :
    record ∈ records ∨ ∃ old ∈ records, key old = id ∧ record = write old := by
  induction records with
  | nil => cases member
  | cons head rest ih =>
    unfold modify at member
    split_ifs at member with here
    · rcases List.mem_cons.mp member with rfl | later
      · exact .inr ⟨head, List.mem_cons_self .., here, rfl⟩
      · exact .inl (List.mem_cons_of_mem _ later)
    · rcases List.mem_cons.mp member with rfl | later
      · exact .inl (List.mem_cons_self ..)
      · rcases ih later with old | ⟨old, present, same, written⟩
        · exact .inl (List.mem_cons_of_mem _ old)
        · exact .inr ⟨old, List.mem_cons_of_mem _ present, same, written⟩

/-- A write that keeps a projection of the records keeps the list of projections. -/
theorem map_modify {β : Type} {proj : α → β} {write : α → α}
    (keeps : ∀ record, proj (write record) = proj record) (id : Int) (records : List α) :
    (modify key id write records).map proj = records.map proj := by
  induction records with
  | nil => rfl
  | cons head rest ih =>
    unfold modify
    split_ifs
    · rw [List.map_cons, List.map_cons, keeps]
    · rw [List.map_cons, List.map_cons, ih]

/-- Two writes under one id reach the same record, when the first keeps the keys. -/
theorem modify_modify {first : α → α} (keeps : ∀ record, key (first record) = key record) (id : Int)
    (second : α → α) (records : List α) :
    modify key id second (modify key id first records) =
      modify key id (fun record => second (first record)) records := by
  induction records with
  | nil => rfl
  | cons head rest ih =>
    by_cases here : key head = id
    · simp only [modify, here, if_true, keeps]
    · simp only [modify, here, if_false, ih]

/-- A write keeps a symmetric relation between any two records when it keeps the relation of
the written record to all others. -/
theorem pairwise_modify {related : α → α → Prop} (symm : ∀ a b, related a b → related b a)
    {id : Int} {write : α → α} {records : List α} (distinct : (records.map key).Nodup)
    (pairwise : records.Pairwise related)
    (written : ∀ a ∈ records, ∀ b, key a ≠ id → key b = id → related (write b) a) :
    (modify key id write records).Pairwise related := by
  induction records with
  | nil => exact .nil
  | cons head rest ih =>
    obtain ⟨first, others⟩ := List.pairwise_cons.mp pairwise
    obtain ⟨fresh, distinct⟩ := List.nodup_cons.mp distinct
    unfold modify
    split_ifs with here
    · refine List.pairwise_cons.mpr ⟨fun a member => ?_, others⟩
      refine written a (List.mem_cons_of_mem _ member) head (fun same => ?_) here
      exact fresh (here.trans same.symm ▸ List.mem_map_of_mem member)
    · refine List.pairwise_cons.mpr ⟨fun a member => ?_, ih distinct others fun a member =>
        written a (List.mem_cons_of_mem _ member)⟩
      rcases mem_modify member with old | ⟨old, present, same, rfl⟩
      · exact first a old
      · exact symm _ _ (written head (List.mem_cons_self ..) old here same)

/-- With distinct keys a write reaches every record with the key. -/
theorem modify_eq_map {records : List α} (distinct : (records.map key).Nodup) (id : Int)
    (write : α → α) : modify key id write records =
      records.map fun record => if key record = id then write record else record := by
  induction records with
  | nil => rfl
  | cons head rest ih =>
    obtain ⟨fresh, distinct⟩ := List.nodup_cons.mp distinct
    unfold modify
    rw [List.map_cons]
    split_ifs with here
    · have others : ∀ other ∈ rest, (if key other = id then write other else other) = other := by
        intro other member
        have apart : key other ≠ id := fun same =>
          fresh (here.trans same.symm ▸ List.mem_map_of_mem member)
        exact if_neg apart
      rw [List.map_congr_left others, List.map_id']
    · rw [ih distinct]

/-- Lists with the same projections still have them after a write, when key and write depend
on the projection only. -/
theorem map_modify_congr {β : Type} {proj : α → β} {write : α → α}
    (respects : ∀ a b, proj a = proj b → key a = key b ∧ proj (write a) = proj (write b))
    (id : Int) {left right : List α} (same : left.map proj = right.map proj) :
    (modify key id write left).map proj = (modify key id write right).map proj := by
  induction left generalizing right with
  | nil => rw [List.map_eq_nil_iff.mp same.symm]
  | cons a rest ih =>
    cases right with
    | nil => cases same
    | cons b rest' =>
      obtain ⟨head, tail⟩ := List.cons.inj same
      obtain ⟨keys, written⟩ := respects a b head
      unfold modify
      rw [keys]
      split_ifs
      · rw [List.map_cons, List.map_cons, written, tail]
      · rw [List.map_cons, List.map_cons, head, ih tail]

theorem find_remove {id other : Int} (different : other ≠ id) (records : List α) :
    find key other (remove key id records) = find key other records := by
  induction records with
  | nil => rfl
  | cons head rest ih =>
    rw [remove_cons, find_cons]
    by_cases here : key head = id
    · rw [if_pos here, if_neg (fun asked => different (asked.symm.trans here))]
    · rw [if_neg here, find_cons, ih]

/-- Taking out the first record that passes a test takes out the record with the id, when that
record passes and only records with its id do. -/
theorem eraseP_eq_remove {id : Int} {test : α → Bool} {records : List α} {record : α}
    (found : find key id records = some record) (passes : test record = true)
    (only : ∀ other ∈ records, test other = true → key other = id) :
    records.eraseP test = remove key id records := by
  induction records with
  | nil => cases found
  | cons head rest ih =>
    rw [find_cons] at found
    rw [remove_cons]
    split_ifs at found with here
    · rw [if_pos here, List.eraseP_cons_of_pos (Option.some.inj found ▸ passes)]
    · have fails : ¬test head = true := fun passed => here (only head (List.mem_cons_self ..) passed)
      rw [if_neg here, List.eraseP_cons_of_neg fails]
      rw [ih found fun other member => only other (List.mem_cons_of_mem _ member)]

/-- Where two records never both pass the test, taking out the first that passes takes out all. -/
theorem eraseP_eq_filter {test : α → Bool} {records : List α}
    (once : records.Pairwise fun a b => test a = true → test b = false) :
    records.eraseP test = records.filter fun record => !test record := by
  induction records with
  | nil => rfl
  | cons head rest ih =>
    obtain ⟨first, others⟩ := List.pairwise_cons.mp once
    by_cases passes : test head = true
    · have stay : ∀ record ∈ rest, (!test record) = true := fun record member => by
        rw [first record member passes]
        rfl
      rw [List.eraseP_cons_of_pos passes, List.filter_cons_of_neg (by simp [passes]),
        List.filter_eq_self.mpr stay]
    · rw [List.eraseP_cons_of_neg passes, List.filter_cons_of_pos (by simp [passes]), ih others]

theorem isSome_find_modify {id other : Int} {write : α → α} (keeps : ∀ record, key (write record) = key record)
    (records : List α) : (find key other (modify key id write records)).isSome =
      (find key other records).isSome := by
  induction records with
  | nil => rfl
  | cons head rest ih =>
    rw [modify_cons]
    by_cases here : key head = id
    · rw [if_pos here, find_cons, find_cons, keeps]
      split_ifs <;> rfl
    · rw [if_neg here, find_cons, find_cons]
      split_ifs
      · rfl
      · exact ih

/-- A map of the records that keeps their keys, and takes one write to another, commutes with the
accesses. -/
theorem map_modify_hom {β : Type} {key' : β → Int} {f : α → β} (keys : ∀ record, key' (f record) = key record)
    {write : α → α} {write' : β → β} (homs : ∀ record, f (write record) = write' (f record)) (id : Int)
    (records : List α) :
    (modify key id write records).map f = modify key' id write' (records.map f) := by
  induction records with
  | nil => rfl
  | cons head rest ih =>
    rw [List.map_cons, modify_cons, modify_cons, keys]
    split_ifs
    · rw [List.map_cons, homs]
    · rw [List.map_cons, ih]

theorem map_remove {β : Type} {key' : β → Int} {f : α → β} (keys : ∀ record, key' (f record) = key record)
    (id : Int) (records : List α) : (remove key id records).map f = remove key' id (records.map f) := by
  induction records with
  | nil => rfl
  | cons head rest ih =>
    rw [List.map_cons, remove_cons, remove_cons, keys]
    split_ifs
    · rfl
    · rw [List.map_cons, ih]

theorem isSome_find_map {β : Type} {key' : β → Int} {f : α → β}
    (keys : ∀ record, key' (f record) = key record) (id : Int) (records : List α) :
    (find key' id (records.map f)).isSome = (find key id records).isSome := by
  induction records with
  | nil => rfl
  | cons head rest ih =>
    rw [List.map_cons, find_cons, find_cons, keys]
    split_ifs
    · rfl
    · exact ih

/-- After a write the access reaches the written record. -/
theorem find_modify_self {id : Int} {write : α → α} (keeps : ∀ record, key (write record) = key record)
    {records : List α} {record : α} (found : find key id records = some record) :
    find key id (modify key id write records) = some (write record) := by
  induction records with
  | nil => cases found
  | cons head rest ih =>
    rw [find_cons] at found
    rw [modify_cons]
    split_ifs at found ⊢ with here
    · rw [find_cons, keeps, if_pos here, Option.some.inj found]
    · rw [find_cons, if_neg here, ih found]

/-! Accesses with different ids do not meet. -/

section Commutation

variable {id other : Int} (different : id ≠ other) {write write' : α → α}
  (keeps : ∀ record, key (write record) = key record)
  (keeps' : ∀ record, key (write' record) = key record)

include different

theorem remove_comm (records : List α) :
    remove key id (remove key other records) = remove key other (remove key id records) := by
  induction records with
  | nil => rfl
  | cons head rest ih =>
    by_cases first : key head = id
    · have second : key head ≠ other := fun same => different (first.symm.trans same)
      rw [remove_cons key other, if_neg second, remove_cons key id, if_pos first,
        remove_cons key id, if_pos first]
    · by_cases second : key head = other
      · rw [remove_cons key other, if_pos second, remove_cons key id, if_neg first,
          remove_cons key other, if_pos second]
      · rw [remove_cons key other, if_neg second, remove_cons key id, if_neg first, ih,
          remove_cons key id, if_neg first, remove_cons key other, if_neg second]

include keeps in
theorem remove_modify (records : List α) :
    remove key other (modify key id write records) = modify key id write (remove key other records) := by
  induction records with
  | nil => rfl
  | cons head rest ih =>
    by_cases first : key head = id
    · have second : key head ≠ other := fun same => different (first.symm.trans same)
      rw [modify_cons, if_pos first, remove_cons, keeps, if_neg second, remove_cons, if_neg second,
        modify_cons, if_pos first]
    · rw [modify_cons, if_neg first, remove_cons, remove_cons, ih]
      by_cases second : key head = other
      · rw [if_pos second, if_pos second]
      · rw [if_neg second, if_neg second, modify_cons, if_neg first]

include keeps keeps' in
theorem modify_comm (records : List α) :
    modify key id write (modify key other write' records) =
      modify key other write' (modify key id write records) := by
  induction records with
  | nil => rfl
  | cons head rest ih =>
    by_cases first : key head = id
    · have second : key head ≠ other := fun same => different (first.symm.trans same)
      rw [modify_cons other, if_neg second, modify_cons id, if_pos first, modify_cons id, if_pos first,
        modify_cons other, keeps, if_neg second]
    · by_cases second : key head = other
      · rw [modify_cons other, if_pos second, modify_cons id, keeps', if_neg first, modify_cons id,
          if_neg first, modify_cons other, if_pos second]
      · rw [modify_cons other, if_neg second, modify_cons id, if_neg first, ih, modify_cons id,
          if_neg first, modify_cons other, if_neg second]

end Commutation

theorem remove_sublist (id : Int) (records : List α) :
    (remove key id records).Sublist records := List.eraseP_sublist

/-! Notes kept beside the records, one for each. -/

variable {β : Type}

/-- The notes without the one of the record that `remove` takes out. -/
def removeNote (key : α → Int) (id : Int) : List α → List β → List β
  | record :: rest, note :: notes =>
      if key record = id then notes else note :: removeNote key id rest notes
  | _, notes => notes

theorem length_removeNote {id : Int} {records : List α} {notes : List β}
    (beside : notes.length = records.length) :
    (removeNote key id records notes).length = (remove key id records).length := by
  induction records generalizing notes with
  | nil => exact beside
  | cons record rest ih =>
    cases notes with
    | nil => cases beside
    | cons note notes =>
      rw [removeNote, remove_cons]
      split_ifs
      · exact Nat.succ.inj beside
      · rw [List.length_cons, List.length_cons, ih (Nat.succ.inj beside)]

theorem mem_zip_remove {id : Int} {records : List α} {notes : List β} {entry : α × β}
    (member : entry ∈ (remove key id records).zip (removeNote key id records notes)) :
    entry ∈ records.zip notes := by
  induction records generalizing notes with
  | nil => exact member
  | cons record rest ih =>
    cases notes with
    | nil => simp [removeNote] at member
    | cons note notes =>
      rw [removeNote, remove_cons] at member
      rw [List.zip_cons_cons]
      split_ifs at member
      · exact List.mem_cons_of_mem _ member
      · rcases List.mem_cons.mp member with rfl | later
        · exact List.mem_cons_self ..
        · exact List.mem_cons_of_mem _ (ih later)

/-! Records under labels. -/

/-- When every record has one of the labels, the counts of the labels add up to all records. -/
theorem sum_countP_labels {κ : Type} [DecidableEq κ] {labels : List κ} (distinct : labels.Nodup) (label : α → κ) (records : List α)
    (labelled : ∀ record ∈ records, label record ∈ labels) :
    (labels.map fun l => (records.countP (fun record => label record = l) : Int)).sum = records.length := by
  induction records with
  | nil => simp
  | cons record rest ih =>
    have later := ih fun other member => labelled other (List.mem_cons_of_mem _ member)
    have once : (labels.map fun l => if l = label record then (1 : Int) else 0).sum = 1 := by
      rw [List.sum_map_ite_eq, List.count_eq_one_of_mem distinct (labelled record (List.mem_cons_self ..))]
      simp
    have split : ∀ l, ((record :: rest).countP (fun record => label record = l) : Int) =
        (rest.countP (fun record => label record = l) : Int) + if l = label record then 1 else 0 := by
      intro l
      rw [List.countP_cons]
      by_cases here : label record = l
      · simp [here]
      · simp [here, Ne.symm here]
    simp only [split, List.sum_map_add, later, once, List.length_cons, Nat.cast_add, Nat.cast_one]

end UssdCredit.Library.Records
