import BdPay.Data.Text

namespace BdPay.Data

open Text List

/-! JSON text without white space, and why it determines the value it writes. -/

inductive Json where
  | null
  | bool (value : Bool)
  | int (value : Int)
  | str (value : String)
  | array (items : List Json)
  | object (fields : List (String × Json))

namespace Json

def hexDigit (value : Nat) : Char := Nat.digitChar value

/-- The escapes of a JSON string that keeps every character it may keep. -/
def escapeChar (char : Char) : List Char :=
  if char = '"' then ['\\', '"']
  else if char = '\\' then ['\\', '\\']
  else if char = '\n' then ['\\', 'n']
  else if char = '\r' then ['\\', 'r']
  else if char = '\t' then ['\\', 't']
  else if char = '\x08' then ['\\', 'b']
  else if char = '\x0c' then ['\\', 'f']
  else if char.toNat < 32 then ['\\', 'u', '0', '0', hexDigit (char.toNat / 16), hexDigit (char.toNat % 16)]
  else [char]

def escape (text : List Char) : List Char := text.flatMap escapeChar

def quote (text : List Char) : List Char := '"' :: (escape text ++ ['"'])

mutual

def text : Json → List Char
  | .null => ['n', 'u', 'l', 'l']
  | .bool true => ['t', 'r', 'u', 'e']
  | .bool false => ['f', 'a', 'l', 's', 'e']
  | .int value => decimal value
  | .str value => quote value.toList
  | .array items => '[' :: (itemsText true items ++ [']'])
  | .object fields => '\x7b' :: (fieldsText true fields ++ ['\x7d'])

/-- The items of an array, each but the first behind a comma. -/
def itemsText (first : Bool) : List Json → List Char
  | [] => []
  | item :: rest => (if first then [] else [',']) ++ (text item ++ itemsText false rest)

def fieldsText (first : Bool) : List (String × Json) → List Char
  | [] => []
  | (key, value) :: rest =>
    (if first then [] else [',']) ++ (quote key.toList ++ ':' :: (text value ++ fieldsText false rest))

end

example : text (.object [("a", .array [.int (-1), .bool true]), ("b", .str "x\n")]) =
    "\x7b\"a\":[-1,true],\"b\":\"x\\n\"\x7d".toList := by decide

def hexValue (digit : Char) : Nat := if digit.toNat < 58 then digit.toNat - 48 else digit.toNat - 87

/-- The character an escaped text starts with, and the text behind its escape. -/
def unescape : List Char → Option (Char × List Char)
  | '\\' :: '"' :: rest => some ('"', rest)
  | '\\' :: '\\' :: rest => some ('\\', rest)
  | '\\' :: 'n' :: rest => some ('\n', rest)
  | '\\' :: 'r' :: rest => some ('\r', rest)
  | '\\' :: 't' :: rest => some ('\t', rest)
  | '\\' :: 'b' :: rest => some ('\x08', rest)
  | '\\' :: 'f' :: rest => some ('\x0c', rest)
  | '\\' :: 'u' :: '0' :: '0' :: high :: low :: rest =>
    some (Char.ofNat (16 * hexValue high + hexValue low), rest)
  | '"' :: _ => none
  | char :: rest => some (char, rest)
  | [] => none

theorem hexValue_hexDigit : ∀ value < 16, hexValue (hexDigit value) = value := by decide

theorem unescape_escapeChar (char : Char) (rest : List Char) :
    unescape (escapeChar char ++ rest) = some (char, rest) := by
  unfold escapeChar
  split_ifs with quoted backslash newline carriage tab back form control
  any_goals (subst_vars; rfl)
  · have high := hexValue_hexDigit (char.toNat / 16) (by omega)
    have low := hexValue_hexDigit (char.toNat % 16) (by omega)
    have whole : 16 * (char.toNat / 16) + char.toNat % 16 = char.toNat := by omega
    simp [unescape, high, low, whole]
  · simp [unescape, backslash]

theorem escapeChar_append_inj
    (same : escapeChar left ++ leftRest = escapeChar right ++ rightRest) : left = right ∧ leftRest = rightRest := by
  have read := congrArg unescape same
  simpa [unescape_escapeChar] using read

/-- An escape never starts with the quote that would end the string. -/
theorem escapeChar_append_ne (char : Char) (rest other : List Char) : escapeChar char ++ rest ≠ '"' :: other := by
  intro same
  have read := congrArg unescape same
  rw [unescape_escapeChar] at read
  simp [unescape] at read

theorem quote_append_inj
    (same : quote left ++ leftRest = quote right ++ rightRest) : left = right ∧ leftRest = rightRest := by
  have inner : escape left ++ '"' :: leftRest = escape right ++ '"' :: rightRest := by
    simpa [quote] using same
  clear same
  induction left generalizing right with
  | nil =>
    cases right with
    | nil => simpa [escape] using inner
    | cons char =>
      exact absurd inner.symm (by simpa [escape] using escapeChar_append_ne char _ leftRest)
  | cons char _ ih =>
    cases right with
    | nil => exact absurd inner (by simpa [escape] using escapeChar_append_ne char _ rightRest)
    | cons =>
      simp only [escape, flatMap_cons, append_assoc] at inner
      obtain ⟨rfl, rest⟩ := escapeChar_append_inj inner
      obtain ⟨rfl, rests⟩ := ih rest
      exact ⟨rfl, rests⟩

theorem escapeChar_of_isDigit (digit : char.isDigit = true) : escapeChar char = [char] := by
  have range : 48 ≤ char.toNat := by
    simp only [Char.isDigit, Bool.and_eq_true, decide_eq_true_eq] at digit
    exact UInt32.le_iff_toNat_le.mp digit.1
  have other : ∀ special : Char, special.isDigit = false → char ≠ special := by
    rintro special plain rfl
    simp [plain] at digit
  simp only [escapeChar, other '"' rfl, other '\\' rfl, other '\n' rfl, other '\r' rfl, other '\t' rfl,
    other '\x08' rfl, other '\x0c' rfl, if_false, if_neg (show ¬ char.toNat < 32 by omega)]

theorem escape_eq_self {text : List Char} (plain : ∀ char ∈ text, escapeChar char = [char]) : escape text = text := by
  induction text with
  | nil => rfl
  | cons _ _ ih =>
    simp only [mem_cons, forall_eq_or_imp] at plain
    rw [escape, flatMap_cons, plain.1, ← escape, ih plain.2, singleton_append]

/-- What the first character of a text says about the value written there. -/
def headTag : List Char → Char
  | [] => ' '
  | char :: _ => if char.isDigit ∨ char = '-' then '0' else char

def tag : Json → Char
  | .null => 'n'
  | .bool true => 't'
  | .bool false => 'f'
  | .int _ => '0'
  | .str _ => '"'
  | .array _ => '['
  | .object _ => '\x7b'

theorem headTag_text (value : Json) (rest : List Char) : headTag (text value ++ rest) = tag value := by
  cases value with
  | int value =>
    obtain ⟨char, tail, split, starts⟩ := head_decimal value
    simp [text, split, headTag, tag, starts]
  | bool value => cases value <;> simp [text, headTag, tag]
  | _ => simp [text, quote, headTag, tag]

theorem noDigitHead_itemsText (items : List Json) (rest : List Char) :
    NoDigitHead (itemsText false items ++ ']' :: rest) := by
  cases items <;> simp [itemsText]

theorem noDigitHead_fieldsText (fields : List (String × Json)) (rest : List Char) :
    NoDigitHead (fieldsText false fields ++ '\x7d' :: rest) := by
  cases fields <;> simp [fieldsText]

theorem itemsText_cons_ne (first : Bool) (item : Json) (items : List Json) (rest other : List Char) :
    itemsText first (item :: items) ++ rest ≠ ']' :: other := by
  intro same
  cases first with
  | false => simp [itemsText] at same
  | true =>
    have starts := congrArg headTag same
    simp only [itemsText, if_true, nil_append, append_assoc, headTag_text] at starts
    revert starts
    cases item with
    | bool value => cases value <;> simp [tag, headTag]
    | _ => simp [tag, headTag]

mutual

/-- The text of a value says where it ends: followed by anything that is not a
digit, it is read in one way only. -/
theorem text_append_inj : ∀ (left right : Json) {leftRest rightRest : List Char},
    NoDigitHead leftRest → NoDigitHead rightRest → text left ++ leftRest = text right ++ rightRest →
      left = right ∧ leftRest = rightRest
  | left, right, leftRest, rightRest, leftEnds, rightEnds, same => by
      have sameTag : tag left = tag right := by
        rw [← headTag_text left leftRest, same, headTag_text]
      match left, right with
      | .null, .null => simpa [text] using same
      | .bool true, .bool true => simpa [text] using same
      | .bool false, .bool false => simpa [text] using same
      | .int left, .int right =>
        obtain ⟨rfl, rest⟩ := decimal_append_inj leftEnds rightEnds same
        exact ⟨rfl, rest⟩
      | .str left, .str right =>
        obtain ⟨read, rest⟩ := quote_append_inj same
        exact ⟨by rw [String.toList_inj.mp read], rest⟩
      | .array left, .array right =>
        simp only [text, cons_append, append_assoc, nil_append, cons.injEq, true_and] at same
        obtain ⟨rfl, rest⟩ := itemsText_append_inj left right true same
        exact ⟨rfl, rest⟩
      | .object left, .object right =>
        simp only [text, cons_append, append_assoc, nil_append, cons.injEq, true_and] at same
        obtain ⟨rfl, rest⟩ := fieldsText_append_inj left right true same
        exact ⟨rfl, rest⟩

theorem itemsText_append_inj : ∀ (left right : List Json) (first : Bool) {leftRest rightRest : List Char},
    itemsText first left ++ ']' :: leftRest = itemsText first right ++ ']' :: rightRest →
      left = right ∧ leftRest = rightRest
  | [], [], _, _, _, same => by simpa [itemsText] using same
  | [], item :: items, first, _, _, same => absurd same.symm (itemsText_cons_ne first item items _ _)
  | item :: items, [], first, _, _, same => absurd same (itemsText_cons_ne first item items _ _)
  | item :: items, other :: others, first, leftRest, rightRest, same => by
      simp only [itemsText, append_assoc, append_cancel_left_eq] at same
      obtain ⟨rfl, rest⟩ := text_append_inj item other (noDigitHead_itemsText items leftRest)
        (noDigitHead_itemsText others rightRest) same
      obtain ⟨rfl, rests⟩ := itemsText_append_inj items others false rest
      exact ⟨rfl, rests⟩

theorem fieldsText_append_inj : ∀ (left right : List (String × Json)) (first : Bool) {leftRest rightRest : List Char},
    fieldsText first left ++ '\x7d' :: leftRest = fieldsText first right ++ '\x7d' :: rightRest →
      left = right ∧ leftRest = rightRest
  | [], [], _, _, _, same => by simpa [fieldsText] using same
  | [], (_, _) :: _, first, _, _, same => by cases first <;> simp [fieldsText, quote] at same
  | (_, _) :: _, [], first, _, _, same => by cases first <;> simp [fieldsText, quote] at same
  | (key, value) :: fields, (otherKey, other) :: others, first, leftRest, rightRest, same => by
      simp only [fieldsText, append_assoc, append_cancel_left_eq, cons_append] at same
      obtain ⟨sameKey, behind⟩ := quote_append_inj same
      obtain ⟨rfl, rest⟩ := text_append_inj value other (noDigitHead_fieldsText fields leftRest)
        (noDigitHead_fieldsText others rightRest) (cons.inj behind).2
      obtain ⟨rfl, rests⟩ := fieldsText_append_inj fields others false rest
      rw [String.toList_inj.mp sameKey]
      exact ⟨rfl, rests⟩

end

theorem text_injective : Function.Injective text := fun left right same =>
  (text_append_inj left right noDigitHead_nil noDigitHead_nil (by simp [same])).1

end Json

end BdPay.Data
