import Mathlib.Data.List.GetD
import Mathlib.Tactic.SplitIfs

/-! Query strings as a server reads them: pairs between ampersands, name and value at the
first equals sign, plus for a space, and percent escapes of UTF-8 bytes. Bytes that are no
UTF-8 text stay escaped. -/

namespace UssdCredit.Library.QueryString

/-! Escapes. -/

def hexDigit? (c : Char) : Option Nat :=
  if '0' ≤ c ∧ c ≤ '9' then some (c.toNat - 48)
  else if 'a' ≤ c ∧ c ≤ 'f' then some (c.toNat - 87)
  else if 'A' ≤ c ∧ c ≤ 'F' then some (c.toNat - 55)
  else none

/-- The byte two hexadecimal digits stand for. -/
def hexByte? (a b : Char) : Option Nat := do return 16 * (← hexDigit? a) + (← hexDigit? b)

def upperDigits : List Char := "0123456789ABCDEF".toList

def upperDigit (n : Nat) : Char := upperDigits.getD n '0'

/-- The escape of a byte. -/
def quote (byte : Nat) : List Char := ['%', upperDigit (byte / 16), upperDigit (byte % 16)]

/-- A text as characters and escaped bytes. A character that was sent as such is not taken
apart: its bytes are a whole UTF-8 sequence and come back as this character. -/
def unescape : List Char → List (Char ⊕ Nat)
  | '%' :: a :: b :: rest =>
      match hexByte? a b with
      | some byte => .inr byte :: unescape rest
      | none => .inl '%' :: unescape (a :: b :: rest)
  | c :: rest => .inl c :: unescape rest
  | [] => []

/-! UTF-8. -/

def isContinuation (byte : Nat) : Bool := 0x80 ≤ byte && byte < 0xC0

/-- The character that starts with a byte, and how many of the following bytes it takes. -/
def utf8Char (byte : Nat) (following : List Nat) : Option (Char × Nat) :=
  if byte < 0x80 then some (Char.ofNat byte, 0)
  else if byte < 0xE0 then
    match following with
    | b :: _ =>
        let code := (byte - 0xC0) * 64 + (b - 0x80)
        if 0xC2 ≤ byte ∧ isContinuation b then some (Char.ofNat code, 1) else none
    | _ => none
  else if byte < 0xF0 then
    match following with
    | b :: c :: _ =>
        let code := (byte - 0xE0) * 4096 + (b - 0x80) * 64 + (c - 0x80)
        if isContinuation b ∧ isContinuation c ∧ 0x800 ≤ code ∧ code.isValidChar then
          some (Char.ofNat code, 2)
        else none
    | _ => none
  else
    match following with
    | b :: c :: d :: _ =>
        let code := (byte - 0xF0) * 262144 + (b - 0x80) * 4096 + (c - 0x80) * 64 + (d - 0x80)
        if isContinuation b ∧ isContinuation c ∧ isContinuation d ∧ 0x10000 ≤ code ∧
            code.isValidChar then
          some (Char.ofNat code, 3)
        else none
    | _ => none

/-- The bytes up to the next character. -/
def leadingBytes : List (Char ⊕ Nat) → List Nat
  | .inr byte :: rest => byte :: leadingBytes rest
  | _ => []

/-- Put characters for the bytes; `taken` of them belong to the last character. -/
def decode : Nat → List (Char ⊕ Nat) → List Char
  | _, [] => []
  | taken + 1, _ :: rest => decode taken rest
  | 0, .inl c :: rest => c :: decode 0 rest
  | 0, .inr byte :: rest =>
      match utf8Char byte (leadingBytes rest) with
      | some (c, taken) => c :: decode taken rest
      | none => quote byte ++ decode 0 rest

def unquote (text : List Char) : List Char := decode 0 (unescape text)

def plusToSpace (text : List Char) : List Char := text.map fun c => if c = '+' then ' ' else c

/-- A name or a value as the server reads it. -/
def read (text : List Char) : List Char := unquote (plusToSpace text)

/-! Pairs. -/

/-- A name, and the value after the first equals sign or the empty one. -/
def readPair (pair : List Char) : String × String :=
  (String.ofList (read (pair.takeWhile (· ≠ '='))),
    String.ofList (read ((pair.dropWhile (· ≠ '=')).drop 1)))

def parse (query : List Char) : List (String × String) :=
  ((query.splitOn '&').filter (· ≠ [])).map readPair

/-- The query part of a URL; the part after the hash sign is not sent. -/
def ofUrl (url : List Char) : List Char := ((url.takeWhile (· ≠ '#')).dropWhile (· ≠ '?')).drop 1

example : parse "a=1+2&b&c=%41%C3%A9%c3=%zz".toList =
    [("a", "1 2"), ("b", ""), ("c", "Aé%C3=%zz")] := by decide +kernel

/-! Plain texts. -/

theorem decode_map_inl (text : List Char) : decode 0 (text.map Sum.inl) = text := by
  induction text with
  | nil => rfl
  | cons c rest ih => rw [List.map_cons, decode, ih]

theorem length_plusToSpace (text : List Char) : (plusToSpace text).length = text.length :=
  List.length_map _

theorem plus_not_mem_plusToSpace (text : List Char) : '+' ∉ plusToSpace text := by
  intro member
  obtain ⟨c, -, same⟩ := List.mem_map.mp member
  split_ifs at same with plus
  · cases same
  · exact plus same

theorem plusToSpace_eq_self {text : List Char} (free : '+' ∉ text) : plusToSpace text = text := by
  have kept : ∀ c ∈ text, (if c = '+' then ' ' else c) = c := by
    intro c member
    refine if_neg ?_
    rintro rfl
    exact free member
  exact (List.map_congr_left kept).trans (List.map_id' text)

theorem unescape_plain {text : List Char} (no_percent : '%' ∉ text) :
    unescape text = text.map Sum.inl := by
  induction text with
  | nil => rfl
  | cons c rest ih =>
    rw [List.mem_cons, not_or] at no_percent
    rw [unescape.eq_2 c rest fun a b tail percent => absurd percent.symm no_percent.1,
      ih no_percent.2, List.map_cons]

/-- A text without plus and percent signs is read as itself. -/
theorem read_plain {text : List Char} (no_plus : '+' ∉ text) (no_percent : '%' ∉ text) :
    read text = text := by
  rw [read, plusToSpace_eq_self no_plus, unquote, unescape_plain no_percent, decode_map_inl]

/-! Pairs one after another. -/

theorem takeWhile_append_stop {stop : Char} {text : List Char} (free : stop ∉ text)
    (rest : List Char) : (text ++ rest).takeWhile (· ≠ stop) = text ++ rest.takeWhile (· ≠ stop) :=
  List.takeWhile_append_of_pos fun c member => by
    rw [decide_eq_true_eq]
    rintro rfl
    exact free member

theorem dropWhile_append_stop {stop : Char} {text : List Char} (free : stop ∉ text)
    (rest : List Char) : (text ++ stop :: rest).dropWhile (· ≠ stop) = stop :: rest := by
  rw [List.dropWhile_append_of_pos fun c member => ?_]
  · rw [List.dropWhile_cons_of_neg (by simp)]
  · rw [decide_eq_true_eq]
    rintro rfl
    exact free member

theorem readPair_append {name : List Char} (free : '=' ∉ name) (value : List Char) :
    readPair (name ++ '=' :: value) = (String.ofList (read name), String.ofList (read value)) := by
  unfold readPair
  rw [takeWhile_append_stop free, dropWhile_append_stop free,
    List.takeWhile_cons_of_neg (by simp), List.append_nil]
  rfl

theorem parse_append {pair : List Char} (free : '&' ∉ pair) (some_text : pair ≠ [])
    (rest : List Char) : parse (pair ++ '&' :: rest) = readPair pair :: parse rest := by
  unfold parse
  rw [List.splitOn_append_cons_self_of_not_mem free, List.filter_cons_of_pos (by simpa using some_text),
    List.map_cons]

/-- Whatever follows, the first pair is the one up to the ampersand. -/
theorem parse_first {query : List Char} (some_text : query.takeWhile (· ≠ '&') ≠ []) :
    ∃ rest, parse query = readPair (query.takeWhile (· ≠ '&')) :: rest := by
  by_cases separated : '&' ∈ query
  · obtain ⟨pair, rest, rfl, free⟩ := List.eq_append_cons_of_mem separated
    have first : (pair ++ '&' :: rest).takeWhile (· ≠ '&') = pair := by
      rw [takeWhile_append_stop free, List.takeWhile_cons_of_neg (by simp), List.append_nil]
    rw [first] at some_text ⊢
    exact ⟨parse rest, parse_append free some_text rest⟩
  · have whole : query.takeWhile (· ≠ '&') = query := by
      simpa using takeWhile_append_stop separated []
    rw [whole] at some_text ⊢
    refine ⟨[], ?_⟩
    unfold parse
    rw [List.splitOn_eq_singleton separated, List.filter_cons_of_pos (by simpa using some_text)]
    rfl

/-! Short texts: at most one escape, and no character in more than one byte. -/

/-- Every escape is the one this server writes for a byte that is no character. -/
def escapesStay : List Char → Bool
  | '%' :: a :: b :: rest =>
      (match hexByte? a b with
        | some byte => 0x80 ≤ byte && quote byte = ['%', a, b]
        | none => true) && escapesStay (a :: b :: rest)
  | _ :: rest => escapesStay rest
  | [] => true

theorem leadingBytes_map_inl (text : List Char) : leadingBytes (text.map Sum.inl) = [] := by
  cases text <;> rfl

/-- A byte without continuation is an ASCII character or stays escaped. -/
theorem utf8Char_nil (byte : Nat) :
    utf8Char byte [] = if byte < 0x80 then some (Char.ofNat byte, 0) else none := by
  unfold utf8Char
  split_ifs <;> rfl

theorem decode_inr_map_inl (byte : Nat) (text : List Char) :
    decode 0 (.inr byte :: text.map Sum.inl) =
      (if byte < 0x80 then [Char.ofNat byte] else quote byte) ++ text := by
  rw [decode, leadingBytes_map_inl, utf8Char_nil]
  by_cases ascii : byte < 0x80
  · simp only [if_pos ascii, decode_map_inl, List.singleton_append]
  · simp only [if_neg ascii, decode_map_inl]

theorem hexDigit?_ne_percent {c : Char} {n : Nat} (digit : hexDigit? c = some n) : c ≠ '%' := by
  rintro rfl
  revert digit
  decide +revert

theorem hexByte?_ne_percent {a b : Char} {byte : Nat} (hex : hexByte? a b = some byte) :
    a ≠ '%' ∧ b ≠ '%' := by
  simp only [hexByte?, bind, Option.bind_eq_some_iff] at hex
  obtain ⟨high, first, low, second, -⟩ := hex
  exact ⟨hexDigit?_ne_percent first, hexDigit?_ne_percent second⟩

theorem escapesStay_cons {c : Char} (other : c ≠ '%') (rest : List Char) :
    escapesStay (c :: rest) = escapesStay rest := by
  rw [escapesStay]
  intro a b tail same
  exact absurd same other

/-- A text with no escape, or with exactly one. -/
inductive Short (text : List Char) : Prop where
  | plain (whole : unescape text = text.map Sum.inl) (stay : escapesStay text = true) : Short text
  | escape {before after : List Char} {a b : Char} {byte : Nat}
      (here : text = before ++ '%' :: a :: b :: after) (hex : hexByte? a b = some byte)
      (parts : unescape text = before.map Sum.inl ++ .inr byte :: after.map Sum.inl)
      (stay : escapesStay text = (0x80 ≤ byte && quote byte = ['%', a, b])) : Short text

theorem Short.cons {c : Char} {rest : List Char} (short : Short rest)
    (parts : unescape (c :: rest) = .inl c :: unescape rest)
    (stay : escapesStay (c :: rest) = escapesStay rest) : Short (c :: rest) := by
  cases short with
  | plain whole kept => exact .plain (by rw [parts, whole]; rfl) (stay.trans kept)
  | @escape before after a b byte here hex split kept =>
    exact @Short.escape _ (c :: before) after a b byte (congrArg (c :: ·) here) hex
      (by rw [parts, split]; rfl) (stay.trans kept)

theorem short_of_length {text : List Char} (short : text.length ≤ 4) : Short text := by
  fun_induction unescape text with
  | case1 a b rest byte hex ih =>
    obtain ⟨first, second⟩ := hexByte?_ne_percent hex
    have alone : unescape rest = rest.map Sum.inl ∧ escapesStay rest = true := by
      match rest, short with
      | [], _ => exact ⟨rfl, rfl⟩
      | [c], _ => exact ⟨by simp [unescape], by simp [escapesStay]⟩
    refine .escape (List.nil_append _).symm hex ?_ ?_
    · rw [unescape, hex, alone.1]
      rfl
    · rw [escapesStay, hex, escapesStay_cons first, escapesStay_cons second, alone.2, Bool.and_true]
  | case2 a b rest hex ih =>
    have fewer : (a :: b :: rest).length ≤ 4 := by simp only [List.length_cons] at short ⊢; omega
    refine (ih fewer).cons (by rw [unescape, hex]) ?_
    rw [escapesStay, hex, Bool.true_and]
  | case3 c rest other ih =>
    have fewer : rest.length ≤ 4 := by rw [List.length_cons] at short; omega
    exact (ih fewer).cons (unescape.eq_2 c rest other) (escapesStay.eq_2 c rest other)
  | case4 => exact .plain rfl rfl

theorem decode_map_inl_append (text : List Char) (rest : List (Char ⊕ Nat)) :
    decode 0 (text.map Sum.inl ++ rest) = text ++ decode 0 rest := by
  induction text with
  | nil => rfl
  | cons c tail ih => rw [List.map_cons, List.cons_append, decode, ih, List.cons_append]

/-- What comes back for one escape. -/
def replaced (byte : Nat) : List Char := if byte < 0x80 then [Char.ofNat byte] else quote byte

theorem unquote_escape {text before after : List Char} {byte : Nat}
    (parts : unescape text = before.map Sum.inl ++ .inr byte :: after.map Sum.inl) :
    unquote text = before ++ (replaced byte ++ after) := by
  rw [unquote, parts, decode_map_inl_append, decode_inr_map_inl]
  rfl

theorem unquote_eq_self_iff {text : List Char} (short : text.length ≤ 4) :
    unquote text = text ↔ escapesStay text = true := by
  cases short_of_length short with
  | plain whole stay =>
    have same : unquote text = text := by rw [unquote, whole, decode_map_inl]
    exact iff_of_true same stay
  | @escape before after a b byte here hex parts stay =>
    have apart : before ++ (replaced byte ++ after) = text ↔ replaced byte = ['%', a, b] := by
      rw [here, List.append_cancel_left_eq]
      exact @List.append_left_inj _ (replaced byte) ['%', a, b] after
    rw [unquote_escape parts, stay, apart, Bool.and_eq_true, decide_eq_true_eq, decide_eq_true_eq]
    unfold replaced
    split_ifs with ascii
    · refine iff_of_false (fun same => ?_) fun kept => absurd ascii (Nat.not_lt.mpr kept.1)
      simp at same
    · simp only [true_and, Nat.le_of_not_lt ascii]

theorem upperDigit_ne_plus (n : Nat) : upperDigit n ≠ '+' := by
  rcases Nat.lt_or_ge n upperDigits.length with digit | beyond
  · have listed : upperDigit n ∈ upperDigits := by
      unfold upperDigit
      rw [List.getD_eq_getElem _ _ digit]
      exact List.getElem_mem digit
    intro plus
    rw [plus] at listed
    exact absurd listed (by decide)
  · unfold upperDigit
    rw [List.getD_eq_default _ _ beyond]
    decide

/-- Reading makes no text longer, and of the same length only without new plus signs. -/
theorem unquote_length {text : List Char} (short : text.length ≤ 4) :
    (unquote text).length < text.length ∨
      (unquote text).length = text.length ∧ ('+' ∈ unquote text → '+' ∈ text) := by
  cases short_of_length short with
  | plain whole stay =>
    have same : unquote text = text := by rw [unquote, whole, decode_map_inl]
    exact .inr ⟨by rw [same], fun plus => same ▸ plus⟩
  | @escape before after a b byte here hex parts stay =>
    rw [unquote_escape parts]
    by_cases ascii : byte < 0x80
    · left
      rw [here, replaced, if_pos ascii]
      simp
    · right
      rw [here, replaced, if_neg ascii]
      have digits := upperDigit_ne_plus
      refine ⟨by simp [quote], fun plus => ?_⟩
      simp only [quote, List.mem_append, List.mem_cons, List.not_mem_nil, or_false] at plus ⊢
      rcases plus with first | (percent | high | low) | last
      · exact .inl first
      · exact absurd percent (by decide)
      · exact absurd high.symm (digits _)
      · exact absurd low.symm (digits _)
      · exact .inr (.inr (.inr (.inr last)))

/-- A short text is read as itself when it has no plus sign and its escapes stay. -/
theorem read_eq_self_iff {text : List Char} (short : text.length ≤ 4) :
    read text = text ↔ '+' ∉ text ∧ escapesStay text = true := by
  constructor
  · intro same
    have short' : (plusToSpace text).length ≤ 4 := by rwa [length_plusToSpace]
    have free : '+' ∉ text := by
      intro plus
      rcases unquote_length short' with shorter | ⟨-, old⟩
      · have length : (unquote (plusToSpace text)).length = text.length := congrArg List.length same
        rw [length_plusToSpace] at shorter
        omega
      · have read_plus : '+' ∈ unquote (plusToSpace text) := by
          change '+' ∈ read text
          rwa [same]
        exact plus_not_mem_plusToSpace text (old read_plus)
    rw [read, plusToSpace_eq_self free] at same
    exact ⟨free, (unquote_eq_self_iff short).mp same⟩
  · rintro ⟨free, stay⟩
    rw [read, plusToSpace_eq_self free]
    exact (unquote_eq_self_iff short).mpr stay

theorem length_read_le {text : List Char} (short : text.length ≤ 4) :
    (read text).length ≤ text.length := by
  have short' : (plusToSpace text).length ≤ 4 := by rwa [length_plusToSpace]
  rw [← length_plusToSpace text]
  rcases unquote_length short' with shorter | ⟨equal, -⟩
  · exact Nat.le_of_lt shorter
  · exact Nat.le_of_eq equal

end UssdCredit.Library.QueryString
