import Mathlib.Data.List.Basic

/-! Filters whose test may fail on an item, and then give no list at all. -/

namespace UssdCredit.Library.Filters

variable {α : Type} {test : α → Option Bool} {wanted : α → Bool} {items : List α}

def filterPartial (test : α → Option Bool) : List α → Option (List α)
  | [] => some []
  | item :: rest =>
      match test item with
      | none => none
      | some keep => (filterPartial test rest).map fun kept => if keep then item :: kept else kept

theorem filterPartial_of_defined (defined : ∀ item ∈ items, test item = some (wanted item)) :
    filterPartial test items = some (items.filter wanted) := by
  induction items with
  | nil => rfl
  | cons item rest ih =>
    obtain ⟨here, later⟩ := List.forall_mem_cons.mp defined
    rw [filterPartial, here, ih later, List.filter_cons]
    rfl

theorem isSome_of_filterPartial {kept : List α} (filtered : filterPartial test items = some kept) :
    ∀ item ∈ items, (test item).isSome := by
  induction items generalizing kept with
  | nil => exact fun _ member => absurd member List.not_mem_nil
  | cons item rest ih =>
    rw [filterPartial] at filtered
    cases tested : test item with
    | none =>
      rw [tested] at filtered
      cases filtered
    | some keep =>
      rw [tested] at filtered
      obtain ⟨kept', filtered', -⟩ := Option.map_eq_some_iff.mp filtered
      exact List.forall_mem_cons.mpr ⟨Option.isSome_iff_exists.mpr ⟨keep, tested⟩, ih filtered'⟩

/-- A test that is right where it does not fail keeps the wanted items if and only if it fails on
none. -/
theorem filterPartial_exact_iff
    (right : ∀ item ∈ items, ∀ keep, test item = some keep → keep = wanted item) :
    filterPartial test items = some (items.filter wanted) ↔ ∀ item ∈ items, (test item).isSome := by
  constructor
  · exact fun filtered => isSome_of_filterPartial filtered
  · intro defined
    refine filterPartial_of_defined fun item member => ?_
    obtain ⟨keep, tested⟩ := Option.isSome_iff_exists.mp (defined item member)
    rw [tested, right item member keep tested]

/-- What a map gives whose function has failed on no item. -/
theorem mem_of_mapM {β : Type} {f : α → Option β} {results : List β}
    (mapped : items.mapM f = some results) : ∀ result ∈ results, ∃ item ∈ items, f item = some result := by
  induction items generalizing results with
  | nil =>
    rw [← Option.some.inj mapped]
    exact List.forall_mem_nil _
  | cons item rest ih =>
    rw [List.mapM_cons] at mapped
    obtain ⟨first, here, later⟩ := Option.bind_eq_some_iff.mp mapped
    obtain ⟨others, there, same⟩ := Option.bind_eq_some_iff.mp later
    rw [← Option.some.inj same]
    refine List.forall_mem_cons.mpr ⟨⟨item, List.mem_cons_self, here⟩, fun result member => ?_⟩
    obtain ⟨item', member', given⟩ := ih there result member
    exact ⟨item', List.mem_cons_of_mem _ member', given⟩

end UssdCredit.Library.Filters
