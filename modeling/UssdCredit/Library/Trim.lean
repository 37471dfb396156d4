import Mathlib.Data.List.DropRight

/-! Dropping the unwanted elements at both ends of a list. -/

namespace UssdCredit.Library

variable {α : Type} {drops : α → Bool} {text : List α}

def trim (drops : α → Bool) (text : List α) : List α :=
  (text.dropWhile drops).rdropWhile drops

/-- Neither end of the list is an unwanted element. -/
structure Trimmed (drops : α → Bool) (text : List α) : Prop where
  first : ∀ c ∈ text.head?, drops c = false
  last : ∀ c ∈ text.getLast?, drops c = false

theorem dropWhile_of_head (kept : ∀ c ∈ text.head?, drops c = false) :
    text.dropWhile drops = text := by
  cases text with
  | nil => rfl
  | cons c rest => rw [List.dropWhile_cons_of_neg (by simp [kept c rfl])]

theorem rdropWhile_of_last (kept : ∀ c ∈ text.getLast?, drops c = false) :
    text.rdropWhile drops = text := by
  rw [List.rdropWhile_eq_self_iff]
  intro filled dropped
  have last : drops (text.getLast filled) = false :=
    kept _ (List.getLast?_eq_some_getLast filled)
  rw [last] at dropped
  cases dropped

theorem Trimmed.trim_eq (trimmed : Trimmed drops text) : trim drops text = text := by
  rw [trim, dropWhile_of_head trimmed.first, rdropWhile_of_last trimmed.last]

theorem head_of_prefix {part : List α} (isPart : part <+: text)
    (kept : ∀ c ∈ text.head?, drops c = false) :
    ∀ c ∈ part.head?, drops c = false := by
  obtain ⟨rest, rfl⟩ := isPart
  intro c first
  cases part with
  | nil => cases first
  | cons _ _ => exact kept c first

theorem last_of_suffix {part : List α} (isPart : part <:+ text)
    (kept : ∀ c ∈ text.getLast?, drops c = false) :
    ∀ c ∈ part.getLast?, drops c = false := by
  obtain ⟨start, rfl⟩ := isPart
  intro c last
  refine kept c ?_
  rw [List.getLast?_append, Option.mem_def.mp last]
  rfl

theorem head_dropWhile : ∀ c ∈ (text.dropWhile drops).head?, drops c = false := by
  intro c first
  have := List.head?_dropWhile_not drops text
  rw [Option.mem_def.mp first] at this
  exact this

theorem trim_trimmed (drops : α → Bool) (text : List α) : Trimmed drops (trim drops text) where
  first := head_of_prefix (List.rdropWhile_prefix drops _) head_dropWhile
  last := by
    intro c last
    have filled : trim drops text ≠ [] := by
      intro empty
      rw [empty] at last
      cases last
    have kept := List.rdropWhile_last_not drops (text.dropWhile drops) filled
    rw [Option.mem_def, List.getLast?_eq_some_getLast filled] at last
    cases last
    exact eq_false_of_ne_true kept

/-- What surrounds a trimmed list is dropped. -/
theorem Trimmed.trim_surrounded (trimmed : Trimmed drops text) (filled : text ≠ [])
    {before after : List α} (before_drops : ∀ c ∈ before, drops c = true)
    (after_drops : ∀ c ∈ after, drops c = true) :
    trim drops (before ++ text ++ after) = text := by
  have front : (before ++ text ++ after).dropWhile drops = text ++ after := by
    rw [List.append_assoc, List.dropWhile_append_of_pos before_drops]
    apply dropWhile_of_head
    intro c first
    rw [List.head?_append_of_ne_nil _ filled] at first
    exact trimmed.first c first
  have back : (text ++ after).rdropWhile drops = text.rdropWhile drops := by
    rw [List.rdropWhile, List.reverse_append,
      List.dropWhile_append_of_pos (fun c member => after_drops c (List.mem_reverse.mp member))]
    rfl
  rw [trim, front, back, rdropWhile_of_last trimmed.last]

theorem length_trim_le (drops : α → Bool) (text : List α) : (trim drops text).length ≤ text.length :=
  (List.rdropWhile_prefix drops _).length_le.trans (List.dropWhile_suffix drops).length_le

/-- A first element that is dropped shortens the list. -/
theorem length_trim_lt {c : α} (dropped : drops c = true) (rest : List α) :
    (trim drops (c :: rest)).length < (c :: rest).length := by
  have shorter : trim drops (c :: rest) = trim drops rest := by
    rw [trim, List.dropWhile_cons_of_pos dropped, trim]
  rw [shorter]
  exact Nat.lt_succ_of_le (length_trim_le drops rest)

end UssdCredit.Library
