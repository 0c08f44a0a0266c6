import RelayBench.Log.JsonLine
import Mathlib.Data.List.Basic
import Mathlib.Data.Nat.Digits.Defs

/-! Reading JSON, as strictly as its grammar has it, and what is read in a printed value.  Each part of
the reader takes what it knows from the head of a text and gives back the rest. -/
namespace RelayBench.Json

def isBlank (c : Char) : Bool := c = ' ' || c = '\t' || c = '\n' || c = '\r'

def skip (text : List Char) : List Char := text.dropWhile isBlank

/-! Strings. -/

/-- Four hexadecimal digits. -/
def codeUnit? : List Char → Option (Nat × List Char)
  | first :: second :: third :: fourth :: rest => do
    let a ← Text.hexValue? first
    let b ← Text.hexValue? second
    let c ← Text.hexValue? third
    let d ← Text.hexValue? fourth
    some (((a * 16 + b) * 16 + c) * 16 + d, rest)
  | _ => none

/-- The character of a code unit, or of two that are the halves of one; a lone half is no character. -/
def codePoint? (text : List Char) : Option (Char × List Char) := do
  let (unit, rest) ← codeUnit? text
  if unit < 0xD800 || 0xDFFF < unit then some (Char.ofNat unit, rest)
  else if 0xDC00 ≤ unit then none
  else match rest with
    | '\\' :: 'u' :: rest => do
      let (low, rest) ← codeUnit? rest
      if 0xDC00 ≤ low && low ≤ 0xDFFF then
        some (Char.ofNat (0x10000 + (unit - 0xD800) * 0x400 + (low - 0xDC00)), rest)
      else none
    | _ => none

/-- The character that is written after a backslash. -/
def escaped? : List Char → Option (Char × List Char)
  | [] => none
  | c :: rest =>
    if c = '"' || c = '\\' || c = '/' then some (c, rest)
    else if c = 'b' then some (Char.ofNat 8, rest)
    else if c = 'f' then some (Char.ofNat 12, rest)
    else if c = 'n' then some ('\n', rest)
    else if c = 'r' then some ('\r', rest)
    else if c = 't' then some ('\t', rest)
    else if c = 'u' then codePoint? rest
    else none

/-- A character of a string; no character below the space stands there by itself. -/
def char? : List Char → Option (Char × List Char)
  | [] => none
  | c :: rest =>
    if c = '\\' then escaped? rest
    else if c = '"' || c.toNat < 32 then none
    else some (c, rest)

/-- The characters up to the closing mark of a string. -/
def chars? : Nat → List Char → Option (List Char × List Char)
  | 0, _ => none
  | limit + 1, text =>
    if text.head? = some '"' then some ([], text.tail)
    else do
      let (c, rest) ← char? text
      let (others, rest) ← chars? limit rest
      some (c :: others, rest)

/-! Numbers. -/

def sign : List Char → Bool × List Char
  | [] => (false, [])
  | c :: rest => if c = '-' then (true, rest) else (false, c :: rest)

def signed (negative : Bool) (n : Nat) : Int := if negative then -(n : Int) else n

/-- The digits at the head of a text, at least one. -/
def digits? (text : List Char) : Option (List Char × List Char) :=
  let digits := text.takeWhile Char.isDigit
  if digits.isEmpty then none else some (digits, text.dropWhile Char.isDigit)

/-- The whole part of a number: zero by itself, or digits that zero does not lead. -/
def whole? (text : List Char) : Option (List Char × List Char) := do
  let (digits, rest) ← digits? text
  if digits.head? = some '0' && digits.length != 1 then none else some (digits, rest)

def fraction? (text : List Char) : Option (List Char × List Char) :=
  if text.head? = some '.' then digits? text.tail else some ([], text)

def exponent? (text : List Char) : Option (Option Int × List Char) :=
  if text.head? = some 'e' || text.head? = some 'E' then do
    let (negative, rest) := if text.tail.head? = some '+' then (false, text.tail.tail) else sign text.tail
    let (digits, rest) ← digits? rest
    some (some (signed negative (Nat.ofDigitChars 10 digits 0)), rest)
  else some (none, text)

/-- A number; it is whole when it has neither a fraction nor an exponent. -/
def number? (text : List Char) : Option (Datum × List Char) := do
  let (negative, text) := sign text
  let (whole, text) ← whole? text
  let (fraction, text) ← fraction? text
  let (exponent, text) ← exponent? text
  if fraction.isEmpty && exponent.isNone then
    some (.int (signed negative (Nat.ofDigitChars 10 whole 0)), text)
  else
    some (.float (Binary64.ofDecimal negative (Nat.ofDigitChars 10 (whole ++ fraction) 0)
      (exponent.getD 0 - fraction.length)), text)

/-! Values. -/

def word? (word : String) (meaning : Datum) (text : List Char) : Option (Datum × List Char) :=
  if word.toList.isPrefixOf text then some (meaning, text.drop word.length) else none

/-- The name of a member, with the colon after it. -/
def name? (limit : Nat) (text : List Char) : Option (String × List Char) :=
  if text.head? = some '"' then do
    let (name, rest) ← chars? limit text.tail
    if (skip rest).head? = some ':' then some (String.ofList name, skip (skip rest).tail) else none
  else none

mutual

/-- A value that begins at the head of a text.  The limit bounds how far the reading goes; the length of the
text is enough. -/
def value? : Nat → List Char → Option (Datum × List Char)
  | 0, _ => none
  | _, [] => none
  | limit + 1, c :: rest =>
    if c = 'n' then word? "null" .none (c :: rest)
    else if c = 't' then word? "true" (.bool true) (c :: rest)
    else if c = 'f' then word? "false" (.bool false) (c :: rest)
    else if c = '"' then do
      let (text, rest) ← chars? limit rest
      some (.text (String.ofList text), rest)
    else if c = '[' then
      if (skip rest).head? = some ']' then some (.list [], (skip rest).tail)
      else do
        let (items, rest) ← items? limit (skip rest)
        some (.list items, rest)
    else if c = '\x7b' then
      if (skip rest).head? = some '\x7d' then some (.record [], (skip rest).tail)
      else do
        let (fields, rest) ← members? limit (skip rest)
        some (.record fields, rest)
    else number? (c :: rest)

/-- The values up to the bracket that closes a list. -/
def items? : Nat → List Char → Option (List Datum × List Char)
  | 0, _ => none
  | limit + 1, text => do
    let (item, rest) ← value? limit text
    if (skip rest).head? = some ']' then some ([item], (skip rest).tail)
    else if (skip rest).head? = some ',' then do
      let (items, rest) ← items? limit (skip (skip rest).tail)
      some (item :: items, rest)
    else none

/-- The members up to the brace that closes a record, in the order in which they are written. -/
def members? : Nat → List Char → Option (List (String × Datum) × List Char)
  | 0, _ => none
  | limit + 1, text => do
    let (name, rest) ← name? limit text
    let (item, rest) ← value? limit rest
    if (skip rest).head? = some '\x7d' then some ([(name, item)], (skip rest).tail)
    else if (skip rest).head? = some ',' then do
      let (fields, rest) ← members? limit (skip (skip rest).tail)
      some ((name, item) :: fields, rest)
    else none

end

/-- The value that a whole text is, with nothing but blanks around it. -/
def decode? (text : String) : Option Datum := do
  let (datum, rest) ← value? (text.length + 1) (skip text.toList)
  if (skip rest).isEmpty then some datum else none

/-! What is read in a string that was printed. -/

theorem skip_cons {c : Char} (shown : isBlank c = false) (rest : List Char) : skip (c :: rest) = c :: rest := by
  simp [skip, shown]

theorem hexValue?_hexDigit : ∀ n < 16, Text.hexValue? (Text.hexDigit n) = some n := by decide

theorem codeUnit?_hexDigits {n : Nat} (small : n < 0x10000) (rest : List Char) :
    codeUnit? (Text.hexDigits 4 n ++ rest) = some (n, rest) := by
  have whole : ((n / 16 / 16 / 16 % 16 * 16 + n / 16 / 16 % 16) * 16 + n / 16 % 16) * 16 + n % 16 = n := by omega
  simp only [Text.hexDigits, List.nil_append, List.cons_append, codeUnit?,
    hexValue?_hexDigit _ (Nat.mod_lt _ (by decide : 0 < 16)), Option.bind_eq_bind, Option.bind_some, whole]

theorem codePoint?_hexDigits {c : Char} (small : c.toNat < 32) (rest : List Char) :
    codePoint? (Text.hexDigits 4 c.toNat ++ rest) = some (c, rest) := by
  have below : c.toNat < 0xD800 := by omega
  simp [codePoint?, codeUnit?_hexDigits (by omega : c.toNat < 0x10000), below]

/-- Every character is read back as it was escaped. -/
theorem char?_escapeChar (c : Char) (rest : List Char) : char? (escapeChar c ++ rest) = some (c, rest) := by
  unfold escapeChar
  split_ifs with quotation backslash newline back tab backspace feed control
  · simp [quotation, char?, escaped?]
  · simp [backslash, char?, escaped?]
  · simp [newline, char?, escaped?]
  · simp [back, char?, escaped?]
  · simp [tab, char?, escaped?]
  · have this : Char.ofNat 8 = c := by rw [← backspace, Char.ofNat_toNat]
    simpa [char?, escaped?] using this
  · have this : Char.ofNat 12 = c := by rw [← feed, Char.ofNat_toNat]
    simpa [char?, escaped?] using this
  · simp [char?, escaped?, codePoint?_hexDigits control]
  · simp [char?, quotation, backslash, control]

theorem escapeChar_head (c : Char) : ∃ first others, escapeChar c = first :: others ∧ first ≠ '"' := by
  unfold escapeChar
  split_ifs with quotation
  all_goals first | exact ⟨_, _, rfl, by decide⟩ | exact ⟨_, _, rfl, quotation⟩

theorem chars?_escaped (text : List Char) : ∀ (limit : Nat) (rest : List Char),
    (text.flatMap escapeChar).length < limit →
      chars? limit (text.flatMap escapeChar ++ '"' :: rest) = some (text, rest) := by
  induction text with
  | nil =>
    rintro (_ | limit) rest room
    · cases room
    · simp [chars?]
  | cons c text ih =>
    rintro (_ | limit) rest room
    · cases room
    · obtain ⟨first, others, begins, inner⟩ := escapeChar_head c
      have read := char?_escapeChar c (text.flatMap escapeChar ++ '"' :: rest)
      rw [List.flatMap_cons, begins, List.length_append, List.length_cons] at room
      have later := ih limit rest (by omega)
      rw [begins] at read
      simp only [List.cons_append] at read
      simp [chars?, begins, inner, read, later]

theorem toList_string (text : String) :
    (string text).toList = '"' :: (text.toList.flatMap escapeChar ++ ['"']) := by
  simp [string]

/-! What is read in a number that was printed. -/

/-- What may stand after a value: nothing, or the next sign of the list or the record that it is in. -/
def Closes (rest : List Char) : Prop := ∀ c, rest.head? = some c → c = ',' ∨ c = ']' ∨ c = '\x7d'

theorem digits?_toDigits (n : Nat) {rest : List Char} (closed : Closes rest) :
    digits? (Nat.toDigits 10 n ++ rest) = some (Nat.toDigits 10 n, rest) := by
  have digits : ∀ c ∈ Nat.toDigits 10 n, c.isDigit = true := fun c =>
    Nat.isDigit_of_mem_toDigits (by decide) (by decide)
  have stop : rest.takeWhile Char.isDigit = [] ∧ rest.dropWhile Char.isDigit = rest := by
    cases rest with
    | nil => exact ⟨rfl, rfl⟩
    | cons c rest => rcases closed c rfl with rfl | rfl | rfl <;> simp
  simp [digits?, List.takeWhile_append_of_pos digits, List.dropWhile_append_of_pos digits, stop,
    Nat.toDigits_ne_nil]

/-- Zero leads no digits but its own. -/
theorem length_of_leading_zero (n : Nat) (leads : (Nat.toDigits 10 n).head? = some '0') :
    (Nat.toDigits 10 n).length = 1 := by
  induction n using Nat.strongRecOn with
  | ind n ih =>
    rcases Nat.lt_or_ge n 10 with small | large
    · simp [Nat.toDigits_of_lt_base small]
    · rw [Nat.toDigits_of_base_le (by decide) large] at leads
      have front : (Nat.toDigits 10 (n / 10)).head? = some '0' := by
        rwa [List.head?_append_of_ne_nil _ Nat.toDigits_ne_nil] at leads
      have single := ih (n / 10) (by omega) front
      obtain ⟨c, only⟩ := List.length_eq_one_iff.mp single
      have zero : n / 10 = 0 := by
        rw [← @Nat.ofDigitChars_ten_toDigits (n / 10), only]
        simp only [only, List.head?_cons, Option.some.injEq] at front
        subst front
        rfl
      omega

theorem whole?_toDigits (n : Nat) {rest : List Char} (closed : Closes rest) :
    whole? (Nat.toDigits 10 n ++ rest) = some (Nat.toDigits 10 n, rest) := by
  have noZero : ¬ ((Nat.toDigits 10 n).head? = some '0' ∧ (Nat.toDigits 10 n).length ≠ 1) := fun both =>
    both.2 (length_of_leading_zero n both.1)
  simp [whole?, digits?_toDigits n closed]
  tauto

theorem fraction?_of_closes {rest : List Char} (closed : Closes rest) : fraction? rest = some ([], rest) := by
  refine if_neg fun point => ?_
  rcases closed '.' point with h | h | h <;> cases h

theorem exponent?_of_closes {rest : List Char} (closed : Closes rest) : exponent? rest = some (none, rest) := by
  refine if_neg fun letter => ?_
  rw [Bool.or_eq_true, decide_eq_true_iff, decide_eq_true_iff] at letter
  rcases letter with lower | upper
  · rcases closed 'e' lower with h | h | h <;> cases h
  · rcases closed 'E' upper with h | h | h <;> cases h

/-- The digits of a number, with a sign before them when it is negative. -/
theorem toList_toString (n : Int) :
    (toString n).toList = (if n < 0 then ['-'] else []) ++ Nat.toDigits 10 n.natAbs := by
  cases n with
  | ofNat n => simp [Int.toString_eq_repr, Int.repr, Nat.repr_eq_ofList_toDigits]
  | negSucc n => simp [Int.toString_eq_repr, Int.repr, Nat.repr_eq_ofList_toDigits]

theorem toDigits_head (n : Nat) : ∃ c others, Nat.toDigits 10 n = c :: others ∧ c.isDigit = true := by
  obtain ⟨c, others, shape⟩ := List.exists_cons_of_ne_nil (Nat.toDigits_ne_nil (n := n) (b := 10))
  exact ⟨c, others, shape, Nat.isDigit_of_mem_toDigits (b := 10) (n := n) (by decide) (by decide) (by simp [shape])⟩

theorem sign_toString (n : Int) (rest : List Char) :
    sign ((toString n).toList ++ rest) = (decide (n < 0), Nat.toDigits 10 n.natAbs ++ rest) := by
  rw [toList_toString]
  split_ifs with negative
  · simp [sign, negative]
  · obtain ⟨c, others, shape, digit⟩ := toDigits_head n.natAbs
    have unsigned : c ≠ '-' := by
      rintro rfl
      cases digit
    simp [shape, sign, unsigned, negative]

theorem signed_natAbs (n : Int) : signed (decide (n < 0)) n.natAbs = n := by
  unfold signed
  split_ifs with negative
  · have below : n < 0 := of_decide_eq_true negative
    omega
  · have above : ¬ n < 0 := fun below => negative (decide_eq_true below)
    omega

theorem toString_head (n : Int) : ∃ c others, (toString n).toList = c :: others ∧ (c = '-' ∨ c.isDigit = true) := by
  rw [toList_toString]
  obtain ⟨c, others, shape, digit⟩ := toDigits_head n.natAbs
  split_ifs with negative
  · exact ⟨'-', _, rfl, .inl rfl⟩
  · exact ⟨c, others, shape, .inr digit⟩

/-- Every whole number is read back as it was printed. -/
theorem number?_toString (n : Int) {rest : List Char} (closed : Closes rest) :
    number? ((toString n).toList ++ rest) = some (.int n, rest) := by
  simp only [number?, sign_toString, whole?_toDigits _ closed, fraction?_of_closes closed,
    exponent?_of_closes closed, Option.bind_eq_bind, Option.bind_some]
  simp [Nat.ofDigitChars_ten_toDigits, signed_natAbs]

/-! What is read in a value that was printed. -/

mutual

/-- A value of what JSON has words for; other values are printed as texts, or as numbers with a point. -/
def isPlain : Datum → Bool
  | .none | .bool _ | .int _ | .text _ => true
  | .float _ | .bytes _ | .fault _ => false
  | .list items => arePlain items
  | .record fields => arePlainMembers fields

def arePlain : List Datum → Bool
  | [] => true
  | item :: rest => isPlain item && arePlain rest

def arePlainMembers : List (String × Datum) → Bool
  | [] => true
  | (_, item) :: rest => isPlain item && arePlainMembers rest

end

/-- Printed values with what stands between them. -/
def joined (texts : List String) : List Char := (", ".intercalate texts).toList

theorem joined_singleton (text : String) : joined [text] = text.toList := by
  simp [joined]

theorem joined_cons_cons (text next : String) (rest : List String) :
    joined (text :: next :: rest) = text.toList ++ (',' :: ' ' :: joined (next :: rest)) := by
  simp [joined, String.toList_intercalate]

theorem joined_values (item next : Datum) (rest : List Datum) :
    joined (values (item :: next :: rest)) =
      (value item).toList ++ (',' :: ' ' :: joined (values (next :: rest))) :=
  joined_cons_cons (value item) (value next) (values rest)

/-- A printed member: its name, and its value after a colon. -/
def member (field : String × Datum) : List Char :=
  (string field.1).toList ++ (':' :: ' ' :: (value field.2).toList)

theorem joined_member (field : String × Datum) : joined (members [field]) = member field := by
  rw [members, members, joined_singleton]
  simp [member]

theorem joined_members (field next : String × Datum) (rest : Context) :
    joined (members (field :: next :: rest)) =
      member field ++ (',' :: ' ' :: joined (members (next :: rest))) := by
  rw [members, members, joined_cons_cons]
  simp [member]

/-- No value is read where a blank or the end of a list stands. -/
theorem value?_head {limit : Nat} {text : List Char} {datum : Datum} {rest : List Char}
    (read : value? limit text = some (datum, rest)) :
    ∃ c others, text = c :: others ∧ isBlank c = false ∧ c ≠ ']' := by
  rcases limit with _ | limit
  · cases read
  rcases text with _ | ⟨c, others⟩
  · simp [value?] at read
  · refine ⟨c, others, rfl, ?_⟩
    by_contra wrong
    have kind : c = ' ' ∨ c = '\t' ∨ c = '\n' ∨ c = '\r' ∨ c = ']' := by
      by_contra other
      simp only [not_or] at other
      exact wrong (by simp [isBlank, other])
    rcases kind with rfl | rfl | rfl | rfl | rfl <;>
      simp [value?, number?, sign, whole?, digits?] at read

theorem word?_self (word : String) (meaning : Datum) (rest : List Char) :
    word? word meaning (word.toList ++ rest) = some (meaning, rest) := by
  simp [word?, ← String.length_toList]

/-! Each of the three statements holds under a limit when the others do under the next smaller one. -/

/-- Under a limit, printed values are read back, and nothing of what stands after them. -/
def ReadsValues (limit : Nat) : Prop :=
  ∀ (datum : Datum) (rest : List Char), isPlain datum = true → (value datum).toList.length < limit → Closes rest →
    value? limit ((value datum).toList ++ rest) = some (datum, rest)

def ReadsItems (limit : Nat) : Prop :=
  ∀ (item : Datum) (items : List Datum) (rest : List Char), arePlain (item :: items) = true →
    (joined (values (item :: items))).length + 1 < limit →
      items? limit (joined (values (item :: items)) ++ ']' :: rest) = some (item :: items, rest)

def ReadsMembers (limit : Nat) : Prop :=
  ∀ (field : String × Datum) (fields : Context) (rest : List Char), arePlainMembers (field :: fields) = true →
    (joined (members (field :: fields))).length + 1 < limit →
      members? limit (joined (members (field :: fields)) ++ '\x7d' :: rest) = some (field :: fields, rest)

section

variable {limit : Nat}

theorem closes_cons {c : Char} (sign : c = ',' ∨ c = ']' ∨ c = '\x7d') (rest : List Char) : Closes (c :: rest) := by
  rintro _ ⟨⟩
  exact sign

theorem ReadsItems.head (items : ReadsItems limit) {item : Datum} {others : List Datum}
    (plain : arePlain (item :: others) = true) (room : (joined (values (item :: others))).length + 1 < limit)
    (rest : List Char) : ∃ c behind, joined (values (item :: others)) ++ ']' :: rest = c :: behind ∧
      isBlank c = false ∧ c ≠ ']' := by
  have read := items item others rest plain room
  rcases limit with _ | limit
  · cases read
  · rw [items?] at read
    obtain ⟨⟨first, left⟩, here, _⟩ := Option.bind_eq_some_iff.mp read
    exact value?_head here

/-- The reading of values that follow a comma begins behind the blank that is printed there. -/
theorem skip_of_head {text : List Char} (shown : ∃ c others, text = c :: others ∧ isBlank c = false) :
    skip (' ' :: text) = text ∧ skip text = text := by
  obtain ⟨c, others, rfl, shown⟩ := shown
  exact ⟨skip_cons shown others, skip_cons shown others⟩

theorem ReadsItems.succ (reads : ReadsValues limit) (items : ReadsItems limit) : ReadsItems (limit + 1) := by
  intro item others rest plain room
  obtain ⟨here, later⟩ := Bool.and_eq_true_iff.mp plain
  cases others with
  | nil =>
    rw [values, values, joined_singleton] at room ⊢
    have first := reads item (']' :: rest) here (by omega) (closes_cons (by simp) rest)
    simp [items?, first, skip_cons (c := ']') rfl]
  | cons next others =>
    rw [joined_values, List.length_append, List.length_cons, List.length_cons] at room
    have small : (joined (values (next :: others))).length + 1 < limit := by omega
    obtain ⟨c, behind, shape, shown, _⟩ := items.head later small rest
    have first := reads item (',' :: ' ' :: joined (values (next :: others)) ++ ']' :: rest) here (by omega)
      (closes_cons (by simp) _)
    have second := items next others rest later small
    simp only [List.cons_append] at first
    rw [joined_values, List.append_assoc, List.cons_append, List.cons_append]
    simp [items?, first, skip_cons (c := ',') rfl, (skip_of_head ⟨c, behind, shape, shown⟩).1, second]

theorem value_nonempty (datum : Datum) (reads : ReadsValues limit) (plain : isPlain datum = true)
    (room : (value datum).toList.length < limit) {rest : List Char} (closed : Closes rest) :
    ∃ c others, (value datum).toList ++ rest = c :: others ∧ isBlank c = false := by
  obtain ⟨c, others, shape, shown, _⟩ := value?_head (reads datum rest plain room closed)
  exact ⟨c, others, shape, shown⟩

theorem name?_string (limit : Nat) (name : String) {text : List Char} (room : (string name).toList.length < limit + 2)
    (shown : ∃ c others, text = c :: others ∧ isBlank c = false) :
    name? limit ((string name).toList ++ (':' :: ' ' :: text)) = some (name, text) := by
  rw [toList_string, List.length_cons, List.length_append, List.length_singleton] at room
  have read := chars?_escaped name.toList limit (':' :: ' ' :: text) (by omega)
  rw [toList_string, List.cons_append, List.append_assoc, List.singleton_append]
  simp [name?, read, skip_cons (c := ':') rfl, (skip_of_head shown).1]

theorem members_head (field : String × Datum) (fields : Context) (rest : List Char) :
    ∃ others, joined (members (field :: fields)) ++ rest = '"' :: others := by
  cases fields with
  | nil =>
    rw [joined_member, member, toList_string]
    exact ⟨_, rfl⟩
  | cons next fields =>
    rw [joined_members, member, toList_string]
    exact ⟨_, rfl⟩

theorem ReadsMembers.succ (reads : ReadsValues limit) (fields : ReadsMembers limit) : ReadsMembers (limit + 1) := by
  intro field others rest plain room
  obtain ⟨here, later⟩ := Bool.and_eq_true_iff.mp plain
  cases others with
  | nil =>
    rw [joined_member, member, List.length_append, List.length_cons, List.length_cons] at room
    have closed : Closes ('\x7d' :: rest) := closes_cons (by simp) rest
    have first := reads field.2 ('\x7d' :: rest) here (by omega) closed
    have name := name?_string limit field.1 (by omega)
      (value_nonempty field.2 reads here (by omega) closed)
    rw [joined_member, member, List.append_assoc, List.cons_append, List.cons_append]
    simp [members?, name, first, skip_cons (c := '\x7d') rfl]
  | cons next others =>
    rw [joined_members, member, List.length_append, List.length_append, List.length_cons, List.length_cons,
      List.length_cons, List.length_cons] at room
    have closed : Closes (',' :: ' ' :: (joined (members (next :: others)) ++ '\x7d' :: rest)) :=
      closes_cons (by simp) _
    have first := reads field.2 _ here (by omega) closed
    have name := name?_string limit field.1 (by omega)
      (value_nonempty field.2 reads here (by omega) closed)
    obtain ⟨behind, shape⟩ := members_head next others ('\x7d' :: rest)
    have second := fields next others rest later (by omega)
    rw [joined_members, member]
    simp only [List.append_assoc, List.cons_append]
    simp [members?, name, first, skip_cons (c := ',') rfl, (skip_of_head ⟨'"', behind, shape, rfl⟩).1, second]

theorem toList_list (items : List Datum) : (value (.list items)).toList = '[' :: (joined (values items) ++ [']']) := by
  simp [value, joined]

theorem toList_record (fields : Context) :
    (value (.record fields)).toList = '\x7b' :: (joined (members fields) ++ ['\x7d']) := by
  simp [value, joined]

theorem value?_number {c : Char} (number : c = '-' ∨ c.isDigit = true) (rest : List Char) :
    value? (limit + 1) (c :: rest) = number? (c :: rest) := by
  have other : c ≠ 'n' ∧ c ≠ 't' ∧ c ≠ 'f' ∧ c ≠ '"' ∧ c ≠ '[' ∧ c ≠ '\x7b' := by
    rcases number with rfl | digit
    · decide
    · refine ⟨?_, ?_, ?_, ?_, ?_, ?_⟩ <;>
      · rintro rfl
        cases digit
  simp [value?, other]

theorem ReadsValues.succ (items : ReadsItems limit) (fields : ReadsMembers limit) : ReadsValues (limit + 1) := by
  intro datum rest plain room closed
  cases datum with
  | none => exact word?_self "null" .none rest
  | bool b =>
    cases b with
    | true => exact word?_self "true" (.bool true) rest
    | false => exact word?_self "false" (.bool false) rest
  | int n =>
    obtain ⟨c, others, shape, number⟩ := toString_head n
    have read := number?_toString n closed
    rw [value, shape] at *
    rw [List.cons_append, value?_number number]
    exact read
  | text s =>
    rw [value, toList_string, List.length_cons, List.length_append, List.length_singleton] at room
    have read := chars?_escaped s.toList limit rest (by omega)
    rw [value, toList_string, List.cons_append, List.append_assoc, List.singleton_append]
    simp [value?, read]
  | list members =>
    cases members with
    | nil => rfl
    | cons item others =>
      rw [toList_list, List.length_cons, List.length_append, List.length_singleton] at room
      have small : (joined (values (item :: others))).length + 1 < limit := by omega
      obtain ⟨c, behind, shape, shown, inside⟩ := items.head plain small rest
      have read := items item others rest plain small
      rw [toList_list, List.cons_append, List.append_assoc, List.singleton_append]
      rw [shape] at read ⊢
      simp [value?, skip_cons shown, inside, read]
  | record members =>
    cases members with
    | nil => rfl
    | cons field others =>
      rw [toList_record, List.length_cons, List.length_append, List.length_singleton] at room
      obtain ⟨behind, shape⟩ := members_head field others ('\x7d' :: rest)
      have read := fields field others rest plain (by omega)
      rw [toList_record, List.cons_append, List.append_assoc, List.singleton_append]
      rw [shape] at read ⊢
      simp [value?, skip_cons (c := '"') rfl, read]
  | float x => cases plain
  | bytes b => cases plain
  | fault f => cases plain

theorem reads (limit : Nat) : ReadsValues limit ∧ ReadsItems limit ∧ ReadsMembers limit := by
  induction limit with
  | zero =>
    refine ⟨?_, ?_, ?_⟩
    · rintro _ _ _ ⟨⟩
    · rintro _ _ _ _ ⟨⟩
    · rintro _ _ _ _ ⟨⟩
  | succ limit ih =>
    obtain ⟨values, items, members⟩ := ih
    exact ⟨.succ items members, .succ values items, .succ values members⟩

end

/-- What is printed is read back. -/
theorem decode?_value {datum : Datum} (plain : isPlain datum = true) : decode? (value datum) = some datum := by
  have read := (reads ((value datum).length + 1)).1 datum [] plain
    (Nat.lt_succ_of_le (Nat.le_of_eq String.length_toList)) (by rintro _ ⟨⟩)
  rw [List.append_nil] at read
  obtain ⟨c, others, shape, shown, _⟩ := value?_head read
  rw [decode?, (skip_of_head ⟨c, others, shape, shown⟩).2, read]
  rfl

/-! The reader is strict: it takes no comma at the end of a list, no number that zero leads, no line break inside a
string and no half of a character. -/

example : decode? "[true, \"\\ud83d\\ude00\\n\"]" = some (.list [.bool true, .text "😀\n"]) := by cbv

example : [decode? "[true,]", decode? "[1, 02]", decode? "\"a\nb\"", decode? "\"\\ud83d\""] =
    [none, none, none, none] := by cbv

end RelayBench.Json
