import UssdCredit.Library.Trim
import UssdCredit.Python

/-! Decimal texts: what `str.strip` leaves of them, and that `int` reads the numbers back. -/

namespace UssdCredit

open Library

theorem strip_toList (text : String) : (strip text).toList = trim isPySpace text.toList := by
  rw [strip, String.toList_ofList]
  rfl

theorem isPySpace_of_isDigit {c : Char} (digit : c.isDigit = true) : isPySpace c = false := by
  have bounds : 48 ≤ c.toNat ∧ c.toNat ≤ 57 := by
    simpa [Char.isDigit, UInt32.le_iff_toNat_le] using digit
  simp only [isPySpace]
  grind

theorem trimmed_of_digits {text : List Char} (digits : ∀ c ∈ text, c.isDigit = true) :
    Trimmed isPySpace text where
  first c head := isPySpace_of_isDigit (digits c (List.mem_of_mem_head? head))
  last c last := isPySpace_of_isDigit (digits c (List.mem_of_getLast? last))

theorem digitsFrom_digits {text : List Char} (digits : ∀ c ∈ text, c.isDigit = true) (value : Nat) :
    digitsFrom value text = some (Nat.ofDigitChars 10 text value) := by
  induction text generalizing value with
  | nil => rfl
  | cons c rest ih =>
    have digit := digits c List.mem_cons_self
    have plain : c ≠ '_' := by
      rintro rfl
      cases digit
    rw [digitsFrom.eq_3 value c rest fun d others underscore => absurd underscore plain, if_pos digit,
      ih (fun d member => digits d (List.mem_cons_of_mem c member)), Nat.ofDigitChars_cons]

theorem unsigned_digits {text : List Char} (filled : text ≠ [])
    (digits : ∀ c ∈ text, c.isDigit = true) :
    unsigned text = some (Nat.ofDigitChars 10 text 0) := by
  cases text with
  | nil => exact absurd rfl filled
  | cons c rest =>
    rw [unsigned, if_pos (digits c List.mem_cons_self),
      digitsFrom_digits fun d member => digits d (List.mem_cons_of_mem c member),
      Nat.ofDigitChars_cons, Nat.mul_zero, Nat.zero_add]

theorem pyInt_digits {text : String} (filled : text.toList ≠ [])
    (digits : ∀ c ∈ text.toList, c.isDigit = true) :
    pyInt text = .ok (Nat.ofDigitChars 10 text.toList 0) := by
  have read := unsigned_digits filled digits
  rw [pyInt, strip_toList, (trimmed_of_digits digits).trim_eq]
  generalize text.toList = letters at digits read ⊢
  have not_minus : ∀ rest, letters ≠ '-' :: rest := by
    rintro rest rfl
    cases digits '-' List.mem_cons_self
  have not_plus : ∀ rest, letters ≠ '+' :: rest := by
    rintro rest rfl
    cases digits '+' List.mem_cons_self
  split
  next n parsed =>
    split at parsed
    next rest => exact absurd rfl (not_minus rest)
    next rest => exact absurd rfl (not_plus rest)
    next =>
      rw [read] at parsed
      exact congrArg Except.ok (Option.some.inj parsed).symm
  next failed =>
    split at failed
    next rest => exact absurd rfl (not_minus rest)
    next rest => exact absurd rfl (not_plus rest)
    next =>
      rw [read] at failed
      cases failed

/-- `int(str(n))`. -/
theorem pyInt_toString (n : Nat) : pyInt (toString (n : Int)) = .ok n := by
  have shown : (toString (n : Int)).toList = Nat.toDigits 10 n := Nat.toList_repr
  have digits : ∀ c ∈ (toString (n : Int)).toList, c.isDigit = true := by
    intro c member
    rw [shown] at member
    exact Nat.isDigit_of_mem_toDigits (by decide) (by decide) member
  rw [pyInt_digits (by rw [shown]; exact Nat.toDigits_ne_nil) digits, shown,
    Nat.ofDigitChars_ten_toDigits]

end UssdCredit
