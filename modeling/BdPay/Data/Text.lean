import Mathlib

namespace BdPay.Data

open List

/-! Text built out of fields: decimal numerals, zero padding and delimiters.

A writer that concatenates fields can be read back only when each field ends
where its reader stops.  The lemmas here say when it does: a numeral before a
character that is no digit, and a delimited record whose fields avoid the
delimiter.
-/

namespace Text

def digits (value : Nat) : List Char := Nat.toDigits 10 value

/-- `str(value)` of an integer. -/
def decimal : Int → List Char
  | .ofNat value => digits value
  | .negSucc value => '-' :: digits (value + 1)

/-- `f"{value:0{width}d}"`: never cut, padded on the left when short. -/
def zeroPadded (width value : Nat) : List Char :=
  replicate (width - (digits value).length) '0' ++ digits value

/-- The fields with one separator between any two neighbours. -/
def delimited (separator : Char) (fields : List (List Char)) : List Char :=
  [separator].intercalate fields

def beginsWith (text start : List Char) : Bool := start.isPrefixOf text

def endsWith (text final : List Char) : Bool := final.isSuffixOf text

/-- `text.rsplit(separator, 1)[-1]`. -/
def afterLast (separator : Char) (text : List Char) : List Char :=
  (text.reverse.takeWhile (fun char => char ≠ separator)).reverse

/-- `text[:-count]` for a positive `count`. -/
def dropLast (count : Nat) (text : List Char) : List Char := text.take (text.length - count)

/-- No digit follows, so a numeral written in front of `text` ends there. -/
def NoDigitHead (text : List Char) : Prop := ∀ char ∈ text.head?, char.isDigit = false

@[simp] theorem noDigitHead_nil : NoDigitHead [] := by simp [NoDigitHead]

@[simp] theorem noDigitHead_cons :
    NoDigitHead (char :: text) ↔ char.isDigit = false := by simp [NoDigitHead]

variable {char : Char} {value : Nat}

theorem isDigit_of_mem_digits (member : char ∈ digits value) : char.isDigit = true :=
  Nat.isDigit_of_mem_toDigits (by decide) (by decide) member

theorem digits_ne_nil (value : Nat) : digits value ≠ [] := Nat.toDigits_ne_nil

theorem digits_injective : Function.Injective digits := fun left right same => by
  have read := congrArg (fun text => Nat.ofDigitChars 10 text 0) same
  simpa [digits] using read

/-- Two runs of digits in front of text that starts with none are the same run. -/
theorem append_inj_of_digits
    (leftDigits : ∀ char ∈ left, char.isDigit = true) (rightDigits : ∀ char ∈ right, char.isDigit = true)
    (leftEnds : NoDigitHead leftRest) (rightEnds : NoDigitHead rightRest)
    (same : left ++ leftRest = right ++ rightRest) : left = right ∧ leftRest = rightRest := by
  induction left generalizing right with
  | nil =>
    cases right with
    | nil => exact ⟨rfl, same⟩
    | cons char tail =>
      have first : leftRest = char :: (tail ++ rightRest) := same
      subst first
      simp [rightDigits char (by simp)] at leftEnds
  | cons char tail ih =>
    cases right with
    | nil =>
      have first : rightRest = char :: (tail ++ leftRest) := same.symm
      subst first
      simp [leftDigits char (by simp)] at rightEnds
    | cons =>
      obtain ⟨rfl, rest⟩ := cons.inj same
      obtain ⟨rfl, tails⟩ := ih (fun c member => leftDigits c (by simp [member]))
        (fun c member => rightDigits c (by simp [member])) rest
      exact ⟨rfl, tails⟩

theorem digits_append_inj (leftEnds : NoDigitHead leftRest) (rightEnds : NoDigitHead rightRest)
    (same : digits left ++ leftRest = digits right ++ rightRest) : left = right ∧ leftRest = rightRest := by
  obtain ⟨run, rest⟩ := append_inj_of_digits (fun _ => isDigit_of_mem_digits)
    (fun _ => isDigit_of_mem_digits) leftEnds rightEnds same
  exact ⟨digits_injective run, rest⟩

/-- A written integer starts with a digit or with a minus sign. -/
theorem head_decimal (value : Int) :
    ∃ char rest, decimal value = char :: rest ∧ (char.isDigit = true ∨ char = '-') := by
  cases value with
  | ofNat value =>
    obtain ⟨char, rest, split⟩ := exists_cons_of_ne_nil (digits_ne_nil value)
    have inside : char ∈ digits value := by rw [split]; exact mem_cons_self
    exact ⟨char, rest, split, .inl (isDigit_of_mem_digits inside)⟩
  | negSucc => exact ⟨'-', _, rfl, .inr rfl⟩

theorem decimal_append_inj (leftEnds : NoDigitHead leftRest) (rightEnds : NoDigitHead rightRest)
    (same : decimal left ++ leftRest = decimal right ++ rightRest) : left = right ∧ leftRest = rightRest := by
  -- The minus sign is no digit, so it tells the two signs apart.
  have noMinus : ∀ value rest other, digits value ++ rest ≠ '-' :: other := by
    intro value rest other starts
    obtain ⟨char, tail, split⟩ := exists_cons_of_ne_nil (digits_ne_nil value)
    have inside : char ∈ digits value := by rw [split]; exact mem_cons_self
    rw [split, cons_append] at starts
    have minus := isDigit_of_mem_digits inside
    rw [(cons.inj starts).1] at minus
    exact absurd minus (by decide)
  cases left with
  | ofNat =>
    cases right with
    | ofNat =>
      obtain ⟨rfl, rest⟩ := digits_append_inj leftEnds rightEnds same
      exact ⟨rfl, rest⟩
    | negSucc => exact absurd same (noMinus _ _ _)
  | negSucc =>
    cases right with
    | ofNat => exact absurd same.symm (noMinus _ _ _)
    | negSucc =>
      obtain ⟨next, rest⟩ := digits_append_inj leftEnds rightEnds (cons.inj same).2
      exact ⟨by rw [Nat.succ.inj next], rest⟩

theorem decimal_injective : Function.Injective decimal := fun left right same => by
  have padded : decimal left ++ [] = decimal right ++ [] := by rw [same]
  exact (decimal_append_inj noDigitHead_nil noDigitHead_nil padded).1

theorem mem_decimal {value : Int} (member : char ∈ decimal value) : char.isDigit = true ∨ char = '-' := by
  cases value with
  | ofNat => exact .inl (isDigit_of_mem_digits member)
  | negSucc =>
    simp only [decimal, mem_cons] at member
    exact member.symm.imp isDigit_of_mem_digits id

theorem isDigit_of_mem_zeroPadded (member : char ∈ zeroPadded width value) : char.isDigit = true := by
  simp only [zeroPadded, mem_append, mem_replicate] at member
  rcases member with ⟨-, rfl⟩ | member
  · decide
  · exact isDigit_of_mem_digits member

theorem zeroPadded_injective (width : Nat) : Function.Injective (zeroPadded width) :=
  fun left right same => by
    have read := congrArg (fun text => Nat.ofDigitChars 10 text 0) same
    simpa [zeroPadded, digits, Nat.ofDigitChars_append, Nat.ofDigitChars_replicate_zero] using read

variable {separator : Char}

theorem count_delimited : (delimited separator (field :: fields)).count separator =
      fields.length + ((field :: fields).map (count separator)).sum := by
  induction fields generalizing field with
  | nil => simp [delimited, intercalate]
  | cons next rest ih =>
    have step : delimited separator (field :: next :: rest) =
        field ++ separator :: delimited separator (next :: rest) := by
      simp [delimited, intercalate]
    rw [step, count_append, count_cons_self, ih]
    simp only [map_cons, sum_cons, length_cons]
    omega

/-- A record whose fields avoid the separator is told apart from every other
record with as many fields, whatever that record's fields contain: a separator
inside one of them would be one too many. -/
theorem delimited_inj (nonempty : left ≠ [])
    (free : ∀ field ∈ left, separator ∉ field) (arity : left.length = right.length)
    (same : delimited separator left = delimited separator right) : left = right := by
  obtain ⟨first, others, rfl⟩ := exists_cons_of_ne_nil nonempty
  cases right with
  | nil => simp at arity
  | cons head tail =>
    have counts := congrArg (count separator) same
    rw [count_delimited, count_delimited] at counts
    have leftZero : ((first :: others).map (List.count separator)).sum = 0 := by
      rw [List.sum_eq_zero_iff_forall_eq_nat]
      simp only [List.mem_map, forall_exists_index, and_imp, forall_apply_eq_imp_iff₂]
      exact fun field member => count_eq_zero.mpr (free field member)
    have rightZero : ((head :: tail).map (count separator)).sum = 0 := by
      simp only [length_cons] at arity
      omega
    have rightFree : ∀ field ∈ head :: tail, separator ∉ field := fun field member =>
      List.count_eq_zero.mp (List.sum_eq_zero_iff_forall_eq_nat.mp rightZero _ (List.mem_map_of_mem member))
    rw [← List.splitOn_intercalate separator free nonempty,
      ← splitOn_intercalate separator rightFree (cons_ne_nil _ _)]
    exact congrArg (splitOn separator) same

@[simp] theorem beginsWith_append (start rest : List Char) : beginsWith (start ++ rest) start = true :=
  isPrefixOf_iff_prefix.mpr (prefix_append start rest)

@[simp] theorem endsWith_append (rest final : List Char) : endsWith (rest ++ final) final = true :=
  isSuffixOf_iff_suffix.mpr (suffix_append rest final)

@[simp] theorem dropLast_append (rest final : List Char) :
    dropLast final.length (rest ++ final) = rest := by simp [dropLast]

theorem afterLast_append (absent : separator ∉ final) : afterLast separator (start ++ separator :: final) = final := by
  have clear : ∀ char ∈ final.reverse, decide (char ≠ separator) = true := fun char member =>
    decide_eq_true fun same => absent (same ▸ mem_reverse.mp member)
  have reversed : (start ++ separator :: final).reverse = final.reverse ++ separator :: start.reverse := by simp
  rw [afterLast, reversed, takeWhile_append_of_pos clear]
  simp

end Text

end BdPay.Data
