import UssdCredit.Library.QueryString
import UssdCredit.Effects

/-! The PIN check of the subscription form, from the URL the form builds to the filter the
search applies. The form escapes nothing, so the server may read another PIN, or none. -/

namespace UssdCredit

open Library

/-! The form. -/

inductive Step where
  | phone
  | pin
  | confirmation
  deriving DecidableEq

/-- The properties and the state of the form; `amount` is a JavaScript number. -/
structure SubscribeForm where
  influencerId : Int
  phone : String
  pin : String
  amount : PyFloat
  frequency : String
  step : Step

namespace SubscribeForm

/-- The URL of the check, after the base. -/
def usersUrl (phone pin : String) : String := "/api/users?phone=" ++ phone ++ "&pin=" ++ pin

/-- The request the server receives for the URL; its view reads the query only. -/
def usersRequest (phone pin : String) : Request :=
  ⟨.searchUsers, {
    authorization := none
    body := none
    args := QueryString.parse (QueryString.ofUrl (usersUrl phone pin).toList)
    now := 0
    salt := 0
    oid := 0 }⟩

variable (rt : Runtime)

/-- `response.data.length > 0`; a status outside the 200s is an exception, which is caught. -/
def verifyPin (s : Server) (phone pin : String) : Bool :=
  let response := answer rt s (usersRequest phone pin)
  200 ≤ response.status && response.status < 300 &&
    match response.body with
    | .list items => 0 < items.length
    | .str text => 0 < text.length
    | _ => false

/-- A number as `JSON.stringify` writes it and Python reads it. -/
def jsonNumber : PyFloat → Value
  | .finite q => if q.den = 1 ∧ q.num.natAbs < 10 ^ 21 then .int q.num else .float (.finite q)
  | _ => .null

theorem jsonNumber_isJson (x : PyFloat) : (jsonNumber x).isJson = true := by
  cases x with
  | finite q =>
    dsimp only [jsonNumber]
    split_ifs <;> rfl
  | _ => rfl

/-- The request that `handleSubscribe` posts. -/
def handleSubscribe (form : SubscribeForm) : Request :=
  ⟨.createSimpleSubscription, .ofEntries none [
    ("fan_phone", .str form.phone),
    ("influencer_id", .int form.influencerId),
    ("amount", jsonNumber form.amount),
    ("frequency", .str form.frequency),
    ("is_active", .bool true)] (by simp [Value.isJson, Value.isJsonEntries, jsonNumber_isJson]) 0⟩

/-- The form after a submission, and the subscription it has posted. -/
def handleSubmit (s : Server) (form : SubscribeForm) : SubscribeForm × Option Request :=
  match form.step with
  | .phone => ({ form with step := .pin }, none)
  | .pin =>
      if verifyPin rt s form.phone form.pin then
        let request := handleSubscribe form
        let status := (answer rt s request).status
        if 200 ≤ status ∧ status < 300 then ({ form with step := .confirmation }, some request)
        else (form, some request)
      else ({ form with pin := "" }, none)
  | .confirmation => (form, none)

/-- The posted subscription depends on the check alone. -/
theorem handleSubmit_posts (s : Server) {form : SubscribeForm} (asked : form.step = .pin) :
    (handleSubmit rt s form).2.isSome ↔ verifyPin rt s form.phone form.pin = true := by
  unfold handleSubmit
  rw [asked]
  dsimp only
  split_ifs with verified <;> simp [verified]

end SubscribeForm

/-! What the server reads. -/

/-- The pattern of the phone input: `254[0-9]{9}`. -/
def IsPhone (phone : String) : Prop :=
  ∃ digits, phone.toList = '2' :: '5' :: '4' :: digits ∧ digits.length = 9 ∧
    ∀ c ∈ digits, '0' ≤ c ∧ c ≤ '9'

theorem IsPhone.digits {phone : String} (valid : IsPhone phone) :
    ∀ c ∈ phone.toList, '0' ≤ c ∧ c ≤ '9' := by
  obtain ⟨digits, same, -, range⟩ := valid
  rw [same]
  simp only [List.forall_mem_cons]
  exact ⟨by decide, by decide, by decide, range⟩

/-- No sign of the URL syntax is a digit. -/
theorem IsPhone.not_mem {phone : String} (valid : IsPhone phone) {sign : Char}
    (other : ¬('0' ≤ sign ∧ sign ≤ '9')) : sign ∉ phone.toList :=
  fun member => other (valid.digits sign member)

/-- The part of the PIN that travels as the parameter `pin`. -/
def sentPin (pin : String) : List Char := (pin.toList.takeWhile (· ≠ '#')).takeWhile (· ≠ '&')

/-- The PIN the server reads. -/
def readPin (pin : String) : String := String.ofList (QueryString.read (sentPin pin))

theorem query_of_form {phone : String} (valid : IsPhone phone) (pin : String) :
    QueryString.ofUrl (SubscribeForm.usersUrl phone pin).toList =
      ("phone=".toList ++ phone.toList) ++
        '&' :: ("pin=".toList ++ pin.toList.takeWhile (· ≠ '#')) := by
  have url : (SubscribeForm.usersUrl phone pin).toList =
      ("/api/users?phone=".toList ++ phone.toList ++ "&pin=".toList) ++ pin.toList := by
    unfold SubscribeForm.usersUrl
    simp only [String.toList_append]
  have no_hash : '#' ∉ "/api/users?phone=".toList ++ phone.toList ++ "&pin=".toList := by
    have free : '#' ∉ phone.toList := valid.not_mem (by decide)
    simpa using free
  have no_mark : '?' ∉ "/api/users".toList := by simp
  have path : "/api/users?phone=".toList = "/api/users".toList ++ '?' :: "phone=".toList := by simp
  have separator : "&pin=".toList = '&' :: "pin=".toList := by simp
  unfold QueryString.ofUrl
  rw [url, QueryString.takeWhile_append_stop no_hash, path, separator]
  simp only [List.append_assoc, List.cons_append]
  rw [QueryString.dropWhile_append_stop no_mark, List.drop_one, List.tail_cons]

theorem args_of_form {phone : String} (valid : IsPhone phone) (pin : String) :
    (SubscribeForm.usersRequest phone pin).http.arg "phone" = some phone ∧
      (SubscribeForm.usersRequest phone pin).http.arg "pin" = some (readPin pin) := by
  have no_separator : '&' ∉ "phone=".toList ++ phone.toList := by
    simp only [List.mem_append, not_or]
    exact ⟨by decide, valid.not_mem (by decide)⟩
  have first : QueryString.readPair ("phone=".toList ++ phone.toList) = ("phone", phone) := by
    have read : QueryString.read phone.toList = phone.toList :=
      QueryString.read_plain (valid.not_mem (by decide)) (valid.not_mem (by decide))
    have pair := QueryString.readPair_append (show '=' ∉ "phone".toList by decide) phone.toList
    rw [read, String.ofList_toList] at pair
    exact pair
  have second_text : ("pin=".toList ++ pin.toList.takeWhile (· ≠ '#')).takeWhile (· ≠ '&') =
      "pin".toList ++ '=' :: sentPin pin :=
    QueryString.takeWhile_append_stop (show '&' ∉ "pin=".toList by decide) _
  have second : QueryString.readPair ("pin".toList ++ '=' :: sentPin pin) = ("pin", readPin pin) :=
    QueryString.readPair_append (show '=' ∉ "pin".toList by decide) (sentPin pin)
  obtain ⟨others, parsed⟩ := @QueryString.parse_first
    ("pin=".toList ++ pin.toList.takeWhile (· ≠ '#')) (by rw [second_text]; simp)
  have args : (SubscribeForm.usersRequest phone pin).http.args =
      ("phone", phone) :: ("pin", readPin pin) :: others := by
    change QueryString.parse _ = _
    rw [query_of_form valid, QueryString.parse_append no_separator (by simp), first, parsed,
      second_text, second]
  unfold Http.arg
  rw [args]
  exact ⟨rfl, rfl⟩

/-! What the check answers. -/

/-- The field holds the text, or an array with the text in it: equality in the database. -/
def Document.Equals (d : Document) (key text : String) : Prop :=
  d.get? key = some (.str text) ∨ ∃ items, d.get? key = some (.list items) ∧ .str text ∈ items

theorem matchesField_str_iff (d : Document) (key text : String) :
    (Value.str text).matchesField (d.get? key) = true ↔ d.Equals key text := by
  unfold Document.Equals
  cases d.get? key with
  | none => simp [Value.matchesField]
  | some stored =>
    have whole : Value.str text = stored.mapScalar Value.integral ↔ stored = .str text :=
      eq_comm.trans Value.mapScalar_integral_eq_str
    simp only [Value.matchesField, Value.mapScalar_integral_str, Bool.or_eq_true, decide_eq_true_eq,
      whole, Option.some.injEq]
    refine or_congr_right ?_
    cases stored with
    | list items =>
      have item : ∀ v : Value, Value.str text = v.mapScalar Value.integral ↔ v = .str text :=
        fun v => eq_comm.trans Value.mapScalar_integral_eq_str
      simp [List.any_eq_true, item]
    | _ => simp

theorem verifyPin_iff (rt : Runtime) (s : Server) {phone : String} (valid : IsPhone phone)
    (pin : String) : SubscribeForm.verifyPin rt s phone pin = true ↔
      ∃ d ∈ s.users.docs, d.Equals "phone" phone ∧ (readPin pin = "" ∨ d.Equals "pin" (readPin pin)) := by
  obtain ⟨phone_read, pin_read⟩ := args_of_form valid pin
  have phone_text : phone ≠ "" := by
    rintro rfl
    obtain ⟨digits, same, -, -⟩ := valid
    cases same
  have selected : ∀ d : Document,
      d.satisfies (Users.searchFilter (SubscribeForm.usersRequest phone pin).http) = true ↔
        d.Equals "phone" phone ∧ (readPin pin = "" ∨ d.Equals "pin" (readPin pin)) := by
    intro d
    unfold Users.searchFilter Http.argFilter
    rw [phone_read, pin_read]
    by_cases none : readPin pin = ""
    · simp [phone_text, none, Document.satisfies, Condition.holds, matchesField_str_iff]
    · simp [phone_text, none, Document.satisfies, Condition.holds, matchesField_str_iff]
  have answered : SubscribeForm.verifyPin rt s phone pin = decide (0 < (s.users.docs.filter
      (·.satisfies (Users.searchFilter (SubscribeForm.usersRequest phone pin).http))).length) := by
    unfold SubscribeForm.verifyPin SubscribeForm.usersRequest
    rw [answer_searchUsers]
    simp [jsonify, Value.mapScalar, Value.mapScalarList_eq]
  rw [answered, decide_eq_true_eq, List.length_pos_iff_exists_mem]
  simp only [List.mem_filter, selected]

/-! Which PINs arrive as they were entered. -/

/-- The PIN has no sign that ends or changes a parameter, and no escape that is decoded. -/
def PinArrives (pin : String) : Prop :=
  '#' ∉ pin.toList ∧ '&' ∉ pin.toList ∧ '+' ∉ pin.toList ∧ QueryString.escapesStay pin.toList = true

/-- Cutting a list short by a condition that every element meets leaves it whole. -/
theorem not_mem_of_length_takeWhile {stop : Char} {text : List Char}
    (whole : text.length ≤ (text.takeWhile (· ≠ stop)).length) : stop ∉ text := by
  intro member
  obtain ⟨before, after, rfl, free⟩ := List.eq_append_cons_of_mem member
  rw [QueryString.takeWhile_append_stop free, List.takeWhile_cons_of_neg (by simp)] at whole
  simp only [List.append_nil, List.length_append, List.length_cons] at whole
  omega

theorem readPin_eq_iff {pin : String} (short : pin.toList.length ≤ 4) :
    readPin pin = pin ↔ PinArrives pin := by
  have cut : (pin.toList.takeWhile (· ≠ '#')).length ≤ pin.toList.length :=
    (List.takeWhile_sublist _).length_le
  have cut_again : (sentPin pin).length ≤ (pin.toList.takeWhile (· ≠ '#')).length :=
    (List.takeWhile_sublist _).length_le
  have whole : '#' ∉ pin.toList → '&' ∉ pin.toList → sentPin pin = pin.toList := by
    intro no_hash no_ampersand
    have first : pin.toList.takeWhile (· ≠ '#') = pin.toList := by
      simpa using QueryString.takeWhile_append_stop no_hash []
    have second : pin.toList.takeWhile (· ≠ '&') = pin.toList := by
      simpa using QueryString.takeWhile_append_stop no_ampersand []
    rw [sentPin, first, second]
  constructor
  · intro same
    have read : QueryString.read (sentPin pin) = pin.toList := by
      have texts := congrArg String.toList same
      rwa [readPin, String.toList_ofList] at texts
    -- A PIN that is read whole was sent whole.
    have longer := QueryString.length_read_le (le_trans (le_trans cut_again cut) short)
    rw [read] at longer
    have no_hash : '#' ∉ pin.toList := not_mem_of_length_takeWhile (le_trans longer cut_again)
    have first : pin.toList.takeWhile (· ≠ '#') = pin.toList := by
      simpa using QueryString.takeWhile_append_stop no_hash []
    have no_ampersand : '&' ∉ pin.toList := by
      rw [sentPin, first] at longer
      exact not_mem_of_length_takeWhile longer
    rw [whole no_hash no_ampersand, QueryString.read_eq_self_iff short] at read
    exact ⟨no_hash, no_ampersand, read⟩
  · rintro ⟨no_hash, no_ampersand, stays⟩
    rw [readPin, whole no_hash no_ampersand, (QueryString.read_eq_self_iff short).mpr stays,
      String.ofList_toList]

/-! A server with one contact. -/

def contact (phone pin : String) : Document := ⟨0, [("phone", .str phone), ("pin", .str pin)]⟩

def withContact (phone pin : String) : Server :=
  Server.initial.setCollection .users {
    docs := [contact phone pin]
    nodup := List.nodup_singleton _
    encoded := by
      intro d member
      rw [List.mem_singleton.mp member, bsonErrorEntries_none]
      simp [contact, encodeKey, Value.bsonError] }

theorem users_withContact (phone pin : String) :
    (withContact phone pin).users.docs = [contact phone pin] := by
  unfold withContact
  rw [users_setCollection]

theorem contact_phone (phone pin : String) : (contact phone pin).get? "phone" = some (.str phone) :=
  rfl

theorem contact_pin (phone pin : String) : (contact phone pin).get? "pin" = some (.str pin) := rfl

theorem equals_of_str {d : Document} {key stored : String} (held : d.get? key = some (.str stored))
    (text : String) : d.Equals key text ↔ text = stored := by
  unfold Document.Equals
  rw [held]
  simp [eq_comm]

/-- No contact has an array for its phone or its PIN. -/
def Server.NoArrays (s : Server) : Prop :=
  ∀ d ∈ s.users.docs, ∀ items, d.get? "phone" ≠ some (.list items) ∧ d.get? "pin" ≠ some (.list items)

theorem noArrays_withContact (phone pin : String) : (withContact phone pin).NoArrays := by
  intro d member items
  rw [users_withContact] at member
  rw [List.mem_singleton.mp member, contact_phone, contact_pin]
  simp

/-- A PIN that is read as another one, or as none, is a contact taken for another. -/
theorem readPin_of_exact (rt : Runtime) {phone pin : String} (valid : IsPhone phone)
    (some_pin : pin ≠ "")
    (exact : ∀ stored, SubscribeForm.verifyPin rt (withContact phone stored) phone pin = true ↔
      stored = pin) : readPin pin = pin := by
  have verified : ∀ stored, SubscribeForm.verifyPin rt (withContact phone stored) phone pin = true ↔
      readPin pin = "" ∨ readPin pin = stored := by
    intro stored
    rw [verifyPin_iff rt _ valid, users_withContact]
    simp [equals_of_str (contact_phone phone stored), equals_of_str (contact_pin phone stored)]
  rcases (verified pin).mp ((exact pin).mpr rfl) with none | same
  · exact absurd ((exact "").mp ((verified "").mpr (.inl none))).symm some_pin
  · exact same

/-- For every phone the form admits and every PIN of at most four characters: the check
succeeds exactly when a contact has this phone and this PIN, in every state of the server, if
and only if the PIN arrives as it was entered. Equality is that of the database; where no
contact has an array for one of these fields it is equality. The posted subscription depends
on the check alone. -/
theorem verifyPin_exact_iff (rt : Runtime) {phone pin : String} (valid : IsPhone phone)
    (some_pin : pin ≠ "") (short : pin.toList.length ≤ 4) :
    ((∀ s : Server, SubscribeForm.verifyPin rt s phone pin = true ↔
        ∃ d ∈ s.users.docs, d.Equals "phone" phone ∧ d.Equals "pin" pin) ↔ PinArrives pin) ∧
    ((∀ s : Server, s.NoArrays → (SubscribeForm.verifyPin rt s phone pin = true ↔
        ∃ d ∈ s.users.docs, d.get? "phone" = some (.str phone) ∧ d.get? "pin" = some (.str pin))) ↔
      PinArrives pin) ∧
    ∀ (s : Server) (form : SubscribeForm), form.step = .pin → form.phone = phone → form.pin = pin →
      ((SubscribeForm.handleSubmit rt s form).2.isSome ↔
        SubscribeForm.verifyPin rt s phone pin = true) := by
  have sound : PinArrives pin → ∀ s : Server, SubscribeForm.verifyPin rt s phone pin = true ↔
      ∃ d ∈ s.users.docs, d.Equals "phone" phone ∧ d.Equals "pin" pin := by
    intro arrives s
    have read := (readPin_eq_iff short).mpr arrives
    rw [verifyPin_iff rt s valid, read]
    simp [some_pin]
  refine ⟨⟨fun exact => ?_, sound⟩, ⟨fun exact => ?_, fun arrives s plain => ?_⟩, ?_⟩
  · refine (readPin_eq_iff short).mp (readPin_of_exact rt valid some_pin fun stored => ?_)
    rw [exact, users_withContact]
    simp [equals_of_str (contact_phone phone stored), equals_of_str (contact_pin phone stored),
      eq_comm]
  · refine (readPin_eq_iff short).mp (readPin_of_exact rt valid some_pin fun stored => ?_)
    rw [exact _ (noArrays_withContact phone stored), users_withContact]
    simp [contact_phone, contact_pin]
  · rw [sound arrives s]
    refine exists_congr fun d => and_congr_right fun member => ?_
    have no_list := plain d member
    simp [Document.Equals, no_list]
  · rintro s form asked rfl rfl
    exact SubscribeForm.handleSubmit_posts rt s asked

theorem isPhone_example : IsPhone "254700000000" := ⟨"700000000".toList, by simp, by simp, by simp⟩

theorem verifyPin_exact_iff_digits :
    (∀ s : Server, SubscribeForm.verifyPin plainRuntime s "254700000000" "1234" = true ↔
      ∃ d ∈ s.users.docs, d.Equals "phone" "254700000000" ∧ d.Equals "pin" "1234") ↔
    PinArrives "1234" :=
  (verifyPin_exact_iff plainRuntime isPhone_example (by decide) (by simp)).1

/-- After a hash sign no PIN is sent: the check succeeds with the phone alone. -/
theorem verifyPin_hash_sign :
    SubscribeForm.verifyPin plainRuntime (withContact "254700000000" "1234") "254700000000" "#" =
      true ∧
    ¬∃ d ∈ (withContact "254700000000" "1234").users.docs,
      d.Equals "phone" "254700000000" ∧ d.Equals "pin" "#" := by
  refine ⟨by decide +kernel, ?_⟩
  rintro ⟨d, member, -, pin⟩
  rw [users_withContact] at member
  rw [List.mem_singleton.mp member, equals_of_str (contact_pin _ _)] at pin
  exact absurd pin (by decide)

end UssdCredit
