import Mathlib.Algebra.Order.Floor.Div
import Mathlib.Data.List.Basic

/-! Lists cut into pages of one size by `drop` and `take`. -/

namespace UssdCredit.Library.Pages

variable {α : Type} {size : Nat} {items : List α}

/-- The page that follows a number of full ones. -/
def page (size before : Nat) (items : List α) : List α := (items.drop (size * before)).take size

/-- As many pages as it takes for all items. -/
def count (size : Nat) (items : List α) : Nat := items.length ⌈/⌉ size

/-- The rounding of `(length + size - 1) // size`. -/
theorem count_eq (size : Nat) (items : List α) : count size items = (items.length + size - 1) / size :=
  Nat.ceilDiv_eq_add_pred_div _ _

theorem page_eq_nil_iff (positive : 0 < size) (before : Nat) :
    page size before items = [] ↔ count size items ≤ before := by
  have rounded : count size items ≤ before ↔ items.length ≤ size * before :=
    ceilDiv_le_iff_le_mul positive
  rw [rounded, page, List.take_eq_nil_iff, List.drop_eq_nil_iff]
  exact or_iff_right positive.ne'

theorem count_eq_zero_iff (positive : 0 < size) : count size items = 0 ↔ items = [] := by
  have rounded : count size items ≤ 0 ↔ items.length ≤ size * 0 := ceilDiv_le_iff_le_mul positive
  rw [← Nat.le_zero, rounded, mul_zero, Nat.le_zero, List.length_eq_zero_iff]

/-- The first pages one after another are a prefix. -/
theorem flatMap_range_page (size pages : Nat) (items : List α) :
    (List.range pages).flatMap (fun before => page size before items) = items.take (size * pages) := by
  induction pages with
  | zero => rfl
  | succ pages ih =>
    rw [List.range_succ, List.flatMap_append, List.flatMap_singleton, ih, page, mul_add, mul_one]
    exact List.take_add.symm

theorem flatMap_all (positive : 0 < size) (items : List α) {pages : Nat}
    (enough : count size items ≤ pages) :
    (List.range pages).flatMap (fun before => page size before items) = items := by
  rw [flatMap_range_page]
  exact List.take_of_length_le ((ceilDiv_le_iff_le_mul positive).mp enough)

end UssdCredit.Library.Pages
