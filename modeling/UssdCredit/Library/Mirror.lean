import Mathlib.Data.List.Forall2

/-! A local copy of a store: its rows stand for the records one by one and in order. What a
rewriting of both sides keeps, and what it breaks. -/

namespace UssdCredit.Library

variable {α β : Type} {stands : α → β → Prop} {copy : List α} {store : List β}

/-- The rows of the copy stand for the records of the store. -/
abbrev Mirrors (stands : α → β → Prop) (copy : List α) (store : List β) : Prop :=
  List.Forall₂ stands copy store

namespace Mirrors

theorem exists_record (mirrors : Mirrors stands copy store) {row : α} (member : row ∈ copy) :
    ∃ record ∈ store, stands row record := by
  induction mirrors with
  | nil => cases member
  | @cons first record rest records same _ ih =>
    rcases List.mem_cons.mp member with rfl | later
    · exact ⟨record, List.mem_cons_self .., same⟩
    · obtain ⟨other, present, holds⟩ := ih later
      exact ⟨other, List.mem_cons_of_mem _ present, holds⟩

theorem exists_row (mirrors : Mirrors stands copy store) {record : β} (member : record ∈ store) :
    ∃ row ∈ copy, stands row record := exists_record mirrors.flip member

/-- Both sides are rewritten alike. -/
theorem map (mirrors : Mirrors stands copy store) {f : α → α} {g : β → β}
    (agree : ∀ row, ∀ record ∈ store, stands row record → stands (f row) (g record)) :
    Mirrors stands (copy.map f) (store.map g) := by
  induction mirrors with
  | nil => exact .nil
  | cons same _ ih =>
    refine .cons (agree _ _ (List.mem_cons_self ..) same) (ih fun row record member => ?_)
    exact agree row record (List.mem_cons_of_mem _ member)

/-- One record is rewritten otherwise than its row. -/
theorem not_map (mirrors : Mirrors stands copy store) {f : α → α} {g : β → β} {record : β}
    (member : record ∈ store) (differ : ∀ row, stands row record → ¬stands (f row) (g record)) :
    ¬Mirrors stands (copy.map f) (store.map g) := by
  intro after
  induction mirrors with
  | nil => cases member
  | cons same _ ih =>
    obtain ⟨head, tail⟩ := List.forall₂_cons.mp after
    rcases List.mem_cons.mp member with rfl | later
    · exact differ _ same head
    · exact ih later tail

/-- Both sides drop the same. -/
theorem filter (mirrors : Mirrors stands copy store) {p : α → Bool} {q : β → Bool}
    (agree : ∀ row, ∀ record ∈ store, stands row record → p row = q record) :
    Mirrors stands (copy.filter p) (store.filter q) := by
  induction mirrors with
  | nil => exact .nil
  | @cons row record rest records same _ ih =>
    have later := ih fun row record member => agree row record (List.mem_cons_of_mem _ member)
    have tests := agree row record (List.mem_cons_self ..) same
    by_cases kept : q record = true
    · rw [List.filter_cons_of_pos (tests.trans kept), List.filter_cons_of_pos kept]
      exact .cons same later
    · rw [List.filter_cons_of_neg (tests ▸ kept), List.filter_cons_of_neg kept]
      exact later

end Mirrors

end UssdCredit.Library
