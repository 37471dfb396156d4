import Mathlib.Data.List.Basic

/-! The first and the last part of a text cut at a separator. -/

namespace UssdCredit.Library

variable {α : Type} [BEq α] [LawfulBEq α] {sep : α} {text before after : List α}

/-- `text.split(sep)[0]`. -/
def firstPart (sep : α) (text : List α) : List α := (text.splitOn sep).headD []

/-- `text.split(sep)[-1]`. -/
def lastPart (sep : α) (text : List α) : List α := (text.splitOn sep).getLastD []

theorem firstPart_of_free (free : sep ∉ text) : firstPart sep text = text := by
  rw [firstPart, List.splitOn_eq_singleton free]
  rfl

theorem lastPart_of_free (free : sep ∉ text) : lastPart sep text = text := by
  rw [lastPart, List.splitOn_eq_singleton free]
  rfl

theorem firstPart_append (free : sep ∉ before) (after : List α) :
    firstPart sep (before ++ sep :: after) = before := by
  rw [firstPart, List.splitOn_append_cons_self_of_not_mem free]
  rfl

theorem lastPart_append (before after : List α) :
    lastPart sep (before ++ sep :: after) = lastPart sep after := by
  rw [lastPart, List.splitOn_append_cons_self, List.getLastD_eq_getLast?,
    List.getLast?_append_of_ne_nil _ (List.splitOn_ne_nil sep after), lastPart,
    List.getLastD_eq_getLast?]

theorem exists_lastPart (member : sep ∈ text) :
    sep ∉ lastPart sep text ∧ ∃ before, text = before ++ sep :: lastPart sep text := by
  obtain ⟨behind, ahead, reversed, free⟩ :=
    List.eq_append_cons_of_mem (List.mem_reverse.mpr member)
  have forward : text = ahead.reverse ++ sep :: behind.reverse := by
    rw [← List.reverse_reverse text, reversed]
    simp
  have last : lastPart sep text = behind.reverse := by
    rw [forward, lastPart_append, lastPart_of_free (List.mem_reverse.not.mpr free)]
  rw [last]
  exact ⟨List.mem_reverse.not.mpr free, ahead.reverse, forward⟩

/-- A text with a separator hides what stands before it. -/
theorem lastPart_append_of_mem (member : sep ∈ text) (before : List α) :
    lastPart sep (before ++ text) = lastPart sep text := by
  obtain ⟨front, back, rfl⟩ := List.append_of_mem member
  rw [← List.append_assoc, lastPart_append, lastPart_append]

theorem firstPart_eq_iff {part : List α} (free : sep ∉ part) :
    firstPart sep text = part ↔ text = part ∨ ∃ rest, text = part ++ sep :: rest := by
  constructor
  · intro cut
    by_cases member : sep ∈ text
    · obtain ⟨before, after, rfl, clear⟩ := List.eq_append_cons_of_mem member
      rw [firstPart_append clear] at cut
      exact .inr ⟨after, by rw [cut]⟩
    · rw [firstPart_of_free member] at cut
      exact .inl cut
  · rintro (rfl | ⟨rest, rfl⟩)
    · exact firstPart_of_free free
    · exact firstPart_append free rest

end UssdCredit.Library
