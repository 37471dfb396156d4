import UssdCredit.Numerals

/-! The subscriber numbers the phone utilities write in one form. -/

namespace UssdCredit

open Library

def normalizeMsisdn (phone : String) : String :=
  let phone := (strip phone).toList
  if phone = [] then String.ofList phone
  else
    let phone := if phone.head? = some '+' then phone.drop 1 else phone
    if phone.head? = some '0' ∧ phone.length = 10 then
      String.ofList ("254".toList ++ phone.drop 1)
    else String.ofList phone

namespace Msisdn

/-- The number after its international prefix sign. -/
def withoutPlus (phone : List Char) : List Char :=
  if phone.head? = some '+' then phone.drop 1 else phone

/-- A number dialled within the country, with the country's code instead of its zero. -/
def withCode (phone : List Char) : List Char :=
  if phone.head? = some '0' ∧ phone.length = 10 then "254".toList ++ phone.drop 1 else phone

theorem normalizeMsisdn_toList (phone : String) :
    (normalizeMsisdn phone).toList = withCode (withoutPlus (trim isPySpace phone.toList)) := by
  rw [normalizeMsisdn, strip_toList]
  generalize trim isPySpace phone.toList = stripped
  cases stripped with
  | nil => rfl
  | cons c rest =>
    change String.toList (if _ ∧ _ then _ else _) = withCode (withoutPlus (c :: rest))
    rw [apply_ite String.toList]
    simp only [String.toList_ofList]
    rfl

theorem normalizeMsisdn_eq_iff {phone other : String} :
    normalizeMsisdn phone = normalizeMsisdn other ↔
      withCode (withoutPlus (trim isPySpace phone.toList)) =
        withCode (withoutPlus (trim isPySpace other.toList)) := by
  rw [← String.toList_inj, normalizeMsisdn_toList, normalizeMsisdn_toList]

/-! One number read a second time. -/

theorem withoutPlus_of_head {phone : List Char} (unmarked : phone.head? ≠ some '+') :
    withoutPlus phone = phone := if_neg unmarked

theorem withCode_head {phone : List Char} (unmarked : phone.head? ≠ some '+') :
    (withCode phone).head? ≠ some '+' := by
  rw [withCode]
  split
  · intro plus
    cases plus
  · exact unmarked

theorem withCode_withCode (phone : List Char) : withCode (withCode phone) = withCode phone := by
  by_cases domestic : phone.head? = some '0' ∧ phone.length = 10
  · have coded : withCode phone = '2' :: '5' :: '4' :: phone.drop 1 := if_pos domestic
    rw [coded]
    refine if_neg fun zero => ?_
    cases zero.1
  · have same : withCode phone = phone := if_neg domestic
    rw [same, same]

theorem withCode_trimmed {phone : List Char} (trimmed : Trimmed isPySpace phone) :
    Trimmed isPySpace (withCode phone) := by
  rw [withCode]
  split
  next domestic =>
    refine ⟨fun c first => ?_, fun c last => ?_⟩
    · cases first
      decide
    · rw [List.getLast?_append, Option.mem_def, Option.or_eq_some_iff] at last
      rcases last with own | ⟨-, code⟩
      · exact last_of_suffix (List.drop_suffix 1 phone) trimmed.last c own
      · cases code
        decide
  next => exact trimmed

/-- Once no second sign or blank shows at its front, a normal form is read as it is. -/
theorem withCode_kept {phone : List Char} (trimmed : Trimmed isPySpace phone)
    (unmarked : phone.head? ≠ some '+') :
    withCode (withoutPlus (trim isPySpace (withCode phone))) = withCode phone := by
  rw [(withCode_trimmed trimmed).trim_eq, withoutPlus_of_head (withCode_head unmarked),
    withCode_withCode]

/-- What follows the plus sign of the number starts with another one or with a blank. -/
def MarkAfterPlus (phone : String) : Prop :=
  ∃ c rest, (strip phone).toList = '+' :: c :: rest ∧ (c = '+' ∨ isPySpace c = true)

theorem withCode_of_mark {c : Char} {rest : List Char} (mark : c = '+' ∨ isPySpace c = true) :
    withCode (c :: rest) = c :: rest := by
  refine if_neg fun domestic => ?_
  cases domestic.1
  rcases mark with plus | blank
  · cases plus
  · cases blank

theorem length_withCode_le (phone : List Char) :
    (withCode phone).length ≤ phone.length ∨ (withCode phone).head? = some '2' := by
  rw [withCode]
  split
  · exact .inr rfl
  · exact .inl le_rfl

theorem length_withoutPlus_le (phone : List Char) : (withoutPlus phone).length ≤ phone.length := by
  rw [withoutPlus]
  split
  · exact (List.drop_sublist 1 phone).length_le
  · exact le_rfl

/-- A sign or a blank at the front is read away. -/
theorem length_read_lt {c : Char} {rest : List Char}
    (last : ∀ e ∈ (c :: rest).getLast?, isPySpace e = false)
    (mark : c = '+' ∨ isPySpace c = true) :
    (withoutPlus (trim isPySpace (c :: rest))).length < (c :: rest).length := by
  rcases mark with rfl | blank
  · have trimmed : Trimmed isPySpace ('+' :: rest) := by
      refine ⟨fun e first => ?_, last⟩
      cases first
      decide
    rw [trimmed.trim_eq]
    exact Nat.lt_succ_self rest.length
  · exact (length_withoutPlus_le _).trans_lt (length_trim_lt blank rest)

theorem withCode_changed {c : Char} {rest : List Char}
    (last : ∀ e ∈ (c :: rest).getLast?, isPySpace e = false)
    (mark : c = '+' ∨ isPySpace c = true) :
    withCode (withoutPlus (trim isPySpace (c :: rest))) ≠ c :: rest := by
  intro same
  have shorter := length_read_lt last mark
  rcases length_withCode_le (withoutPlus (trim isPySpace (c :: rest))) with short | code
  · rw [same] at short
    omega
  · rw [same] at code
    cases code
    rcases mark with plus | blank
    · cases plus
    · cases blank

/-- What stands after a plus sign is read the same again just when it bears no mark. -/
theorem reread_iff {number : List Char} (last : ∀ c ∈ number.getLast?, isPySpace c = false) :
    withCode (withoutPlus (trim isPySpace (withCode number))) = withCode number ↔
      ∀ c ∈ number.head?, ¬(c = '+' ∨ isPySpace c = true) := by
  constructor
  · intro same c head mark
    obtain ⟨rest, rfl⟩ := List.head?_eq_some_iff.mp head
    rw [withCode_of_mark mark] at same
    exact withCode_changed last mark same
  · intro unmarked
    refine withCode_kept ⟨fun c head => ?_, last⟩ fun plus => ?_
    · exact eq_false_of_ne_true fun blank => unmarked c head (.inr blank)
    · exact unmarked '+' plus (.inl rfl)

theorem withCode_withCode_iff {phone : List Char} (trimmed : Trimmed isPySpace phone) :
    withCode (withoutPlus (trim isPySpace (withCode (withoutPlus phone)))) =
        withCode (withoutPlus phone) ↔
      ¬∃ c rest, phone = '+' :: c :: rest ∧ (c = '+' ∨ isPySpace c = true) := by
  by_cases plus : phone.head? = some '+'
  · obtain ⟨number, rfl⟩ := List.head?_eq_some_iff.mp plus
    change withCode (withoutPlus (trim isPySpace (withCode number))) = withCode number ↔ _
    rw [reread_iff (last_of_suffix (List.suffix_cons '+' number) trimmed.last)]
    constructor
    · rintro unmarked ⟨c, rest, same, mark⟩
      cases same
      exact unmarked c rfl mark
    · intro unmarked c head mark
      obtain ⟨rest, rfl⟩ := List.head?_eq_some_iff.mp head
      exact unmarked ⟨c, rest, rfl, mark⟩
  · rw [withoutPlus_of_head plus]
    refine iff_of_true (withCode_kept trimmed plus) ?_
    rintro ⟨c, rest, rfl, -⟩
    exact plus rfl

theorem normalizeMsisdn_idempotent_iff (phone : String) :
    normalizeMsisdn (normalizeMsisdn phone) = normalizeMsisdn phone ↔ ¬MarkAfterPlus phone := by
  rw [normalizeMsisdn_eq_iff, normalizeMsisdn_toList, MarkAfterPlus, strip_toList]
  exact withCode_withCode_iff (trim_trimmed isPySpace phone.toList)

end Msisdn

/-- The nine digits that name a subscriber within the country. -/
structure Subscriber where
  digits : List Char
  nine : digits.length = 9
  decimal : ∀ c ∈ digits, c.isDigit = true

inductive DialledForm where
  | domestic
  | international
  | unsigned

def DialledForm.lead : DialledForm → List Char
  | .domestic => "0".toList
  | .international => "+254".toList
  | .unsigned => "254".toList

/-- A subscriber number as it is entered, with the blanks around it. -/
structure Spelling where
  subscriber : Subscriber
  form : DialledForm
  before : List Char
  after : List Char
  before_blank : ∀ c ∈ before, isPySpace c = true
  after_blank : ∀ c ∈ after, isPySpace c = true

def Spelling.text (spelling : Spelling) : String :=
  String.ofList (spelling.before ++ (spelling.form.lead ++ spelling.subscriber.digits) ++
    spelling.after)

theorem Subscriber.digits_filled (subscriber : Subscriber) : subscriber.digits ≠ [] := by
  intro empty
  have nine := subscriber.nine
  rw [empty] at nine
  cases nine

theorem Spelling.number_trimmed (spelling : Spelling) :
    Trimmed isPySpace (spelling.form.lead ++ spelling.subscriber.digits) where
  first := by
    obtain ⟨subscriber, form, before, after, before_blank, after_blank⟩ := spelling
    intro c head
    cases form <;> cases head <;> decide
  last := by
    intro c last
    rw [List.getLast?_append_of_ne_nil _ spelling.subscriber.digits_filled] at last
    exact isPySpace_of_isDigit (spelling.subscriber.decimal c (List.mem_of_getLast? last))

theorem Spelling.strip_text (spelling : Spelling) :
    trim isPySpace spelling.text.toList = spelling.form.lead ++ spelling.subscriber.digits := by
  rw [Spelling.text, String.toList_ofList]
  refine spelling.number_trimmed.trim_surrounded ?_ spelling.before_blank spelling.after_blank
  exact List.append_ne_nil_of_right_ne_nil _ spelling.subscriber.digits_filled

theorem normalizeMsisdn_spelling (spelling : Spelling) :
    normalizeMsisdn spelling.text = String.ofList ("254".toList ++ spelling.subscriber.digits) := by
  rw [← String.toList_inj, Msisdn.normalizeMsisdn_toList, spelling.strip_text, String.toList_ofList]
  have nine := spelling.subscriber.nine
  cases spelling.form with
  | domestic => exact if_pos ⟨rfl, congrArg (· + 1) nine⟩
  | international => rfl
  | unsigned => rfl

theorem normalizeMsisdn_spelling_eq_iff (one other : Spelling) :
    normalizeMsisdn one.text = normalizeMsisdn other.text ↔
      one.subscriber.digits = other.subscriber.digits := by
  rw [normalizeMsisdn_spelling, normalizeMsisdn_spelling, String.ofList_inj, List.append_cancel_left_eq]

theorem normalizeMsisdn_canonical :
    (∀ phone, normalizeMsisdn (normalizeMsisdn phone) = normalizeMsisdn phone ↔
      ¬Msisdn.MarkAfterPlus phone) ∧
    (∀ spelling : Spelling, normalizeMsisdn spelling.text =
      String.ofList ("254".toList ++ spelling.subscriber.digits)) ∧
    ∀ one other : Spelling, normalizeMsisdn one.text = normalizeMsisdn other.text ↔
      one.subscriber.digits = other.subscriber.digits :=
  ⟨Msisdn.normalizeMsisdn_idempotent_iff, normalizeMsisdn_spelling, normalizeMsisdn_spelling_eq_iff⟩

theorem normalizeMsisdn_two_plus_signs :
    normalizeMsisdn (normalizeMsisdn "++254712345678") ≠ normalizeMsisdn "++254712345678" := by
  decide +kernel

end UssdCredit
