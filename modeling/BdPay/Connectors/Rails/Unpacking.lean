import BdPay.Connectors.Rails.Iso8583

namespace BdPay.Connectors.Npsb

open Data Effect

/-! The ISO 8583 codec, the other way: how bytes from the wire are read. -/

/-- What `unpack_message` raises: its own refusals, and what a subscript raises. -/
inductive UnpackError where
  | iso (error : Iso8583Error)
  | indexError
deriving DecidableEq

def byteOf (char : Char) : UInt8 := .ofNat char.toNat

def charOf (byte : UInt8) : Char := .ofNat byte.toNat

/-- `decode("ascii")`. -/
def asciiText (bytes : List UInt8) : Option (List Char) :=
  if bytes.all (·.toNat < 128) then some (bytes.map charOf) else none

def hexValue (char : Char) : Option Nat :=
  if char.isDigit then some (char.toNat - 48)
  else if 'A' ≤ char ∧ char ≤ 'F' then some (char.toNat - 55)
  else if 'a' ≤ char ∧ char ≤ 'f' then some (char.toNat - 87)
  else none

def isBlank (char : Char) : Bool := char.toNat = 32 ∨ (9 ≤ char.toNat ∧ char.toNat ≤ 13)

/-- `bytes.fromhex`, which skips blanks between two bytes. -/
def fromHex : List Char → Option (List Nat)
  | [] => some []
  | [char] => if isBlank char then some [] else none
  | first :: second :: rest =>
    if isBlank first then fromHex (second :: rest)
    else
      match hexValue first, hexValue second, fromHex rest with
      | some high, some low, some bytes => some ((16 * high + low) :: bytes)
      | _, _, _ => none

/-- The numbers of the set bits. -/
def setBits (first : Nat) (bytes : List Nat) : List Nat :=
  ((List.range 64).filter fun bit => bytes.getD (bit / 8) 0 &&& 0x80 >>> (bit % 8) ≠ 0).map (first + ·)

/-- One bitmap.  The loop over its bits looks at eight bytes, as many as there may be. -/
def readBitmap (first : Nat) (slice : List UInt8) : Except UnpackError (List Nat) :=
  match (asciiText slice).bind fromHex with
  | none => .error (.iso .bitmapNotHex)
  | some bytes => if bytes.length < 8 then .error .indexError else .ok (setBits first bytes)

/-- The elements that are present, and what follows the bitmaps. -/
def decodeBitmaps (body : List UInt8) : Except UnpackError (List Nat × List UInt8) := do
  let primary ← readBitmap 1 (body.take 16)
  if 1 ∈ primary then
    let secondary ← readBitmap 65 ((body.drop 16).take 16)
    pure (primary.filter (· ≠ 1) ++ secondary, body.drop 32)
  else pure (primary, body.drop 16)

def readLength (de width : Nat) (rest : List UInt8) : Except Iso8583Error Nat :=
  let raw := rest.take width
  if raw.length ≠ width ∨ ¬ raw.all (fun byte => 48 ≤ byte.toNat ∧ byte.toNat ≤ 57) then .error (.lengthPrefix de)
  else .ok (Nat.ofDigitChars 10 (raw.map charOf) 0)

/-- The digits in front of a value.  Whatever is not `FIXED` or `LLVAR` is read as `LLLVAR`. -/
def LenType.width : LenType → Nat
  | .fixed => 0
  | .llvar => 2
  | .lllvar | .unknown _ => 3

/-- How long the value is: the dictionary says so, or the digits in front of it. -/
def valueLength (de : Nat) (entry : Element) (rest : List UInt8) : Except Iso8583Error Nat :=
  if entry.lenType = .fixed then .ok entry.max else readLength de entry.lenType.width rest

variable (dictionary : IsoDictionary)

def unpackElement (de : Nat) (rest : List UInt8) : Except Iso8583Error (String × List UInt8) :=
  match dictionary.elements.get? de with
  | none => .error (.unknownDe de dictionary.dialect)
  | some entry => do
      let length ← valueLength de entry rest
      let rest := rest.drop entry.lenType.width
      if (rest.take length).length ≠ length then .error (.truncated de)
      else
        match asciiText (rest.take length) with
        | none => .error (.undecodable de)
        | some text => do
            validateValue de (String.ofList text) entry
            pure (String.ofList text, rest.drop length)

def unpackElements : List Nat → Fields → List UInt8 → Except Iso8583Error (Fields × List UInt8)
  | [], fields, rest => pure (fields, rest)
  | de :: others, fields, rest => do
      let (value, rest) ← unpackElement dictionary de rest
      unpackElements others (fields.set de value) rest

/-- The elements have to end where the buffer does. -/
def unpackFields (present : List Nat) (rest : List UInt8) : Except UnpackError Fields :=
  match unpackElements dictionary present .empty rest with
  | .error error => .error (.iso error)
  | .ok (fields, []) => .ok fields
  | .ok (_, _ :: _) => .error (.iso .trailingBytes)

def unpackMessage (buffer : List UInt8) : Except UnpackError IsoMessage :=
  match asciiText (buffer.take 4) with
  | none => .error (.iso .mtiNotAscii)
  | some mti =>
    if String.ofList mti ∈ dictionary.mtiAllowed then do
      let (present, rest) ← decodeBitmaps (buffer.drop 4)
      let fields ← unpackFields dictionary present rest
      pure ⟨String.ofList mti, fields⟩
    else .error (.iso (.mtiNotAllowed (String.ofList mti)))

/-! What can escape the callers of the codec. -/

/-- Sixteen characters that read as hex at all read as eight bytes. -/
def WholeBitmap (slice : List UInt8) : Prop := ∀ bytes ∈ (asciiText slice).bind fromHex, 8 ≤ bytes.length

/-- The bitmaps that are read are whole: the first, and the second if the first asks for it. -/
def WholeBitmaps (body : List UInt8) : Prop :=
  WholeBitmap (body.take 16) ∧
    ∀ primary, readBitmap 1 (body.take 16) = .ok primary → 1 ∈ primary → WholeBitmap ((body.drop 16).take 16)

variable {dictionary : IsoDictionary}

theorem readBitmap_indexError : readBitmap first slice = .error .indexError ↔ ¬ WholeBitmap slice := by
  cases decoded : (asciiText slice).bind fromHex with
  | none | some => simp [readBitmap, WholeBitmap, decoded]

theorem decodeBitmaps_indexError : decodeBitmaps body = .error .indexError ↔ ¬ WholeBitmaps body := by
  rw [decodeBitmaps, except_bind_eq_error, readBitmap_indexError, WholeBitmaps, not_and_or]
  push Not
  refine or_congr_right (exists_congr fun primary => and_congr_right fun _ => ?_)
  by_cases asks : 1 ∈ primary
  · simp [asks, except_bind_eq_error, readBitmap_indexError, pure, Except.pure]
  · simp [asks, pure, Except.pure]

theorem unpackFields_ne_indexError (present : List Nat) (rest : List UInt8) :
    unpackFields dictionary present rest ≠ .error .indexError := by
  unfold unpackFields
  split <;> simp

theorem unpackMessage_indexError {buffer : List UInt8} : unpackMessage dictionary buffer = .error .indexError ↔
    ∃ mti ∈ asciiText (buffer.take 4), String.ofList mti ∈ dictionary.mtiAllowed ∧ ¬ WholeBitmaps (buffer.drop 4) := by
  rw [unpackMessage, ← decodeBitmaps_indexError]
  cases asciiText (buffer.take 4) with
  | none => simp
  | some mti =>
    by_cases allowed : String.ofList mti ∈ dictionary.mtiAllowed
    · simp [allowed, except_bind_eq_error, unpackFields_ne_indexError, pure, Except.pure]
    · simp [allowed]

/-- All that `unpack_message` raises is its own error, exactly when the bitmaps it reads are whole. -/
theorem raises_iso_iff (dictionary : IsoDictionary) (buffer : List UInt8) :
    (∀ error, unpackMessage dictionary buffer = .error error → ∃ refusal, error = .iso refusal) ↔
      ∀ mti ∈ asciiText (buffer.take 4), String.ofList mti ∈ dictionary.mtiAllowed → WholeBitmaps (buffer.drop 4) := by
  have escapes := @unpackMessage_indexError dictionary buffer
  constructor
  · intro own mti decoded allowed
    by_contra short
    obtain ⟨refusal, same⟩ := own _ (escapes.mpr ⟨mti, decoded, allowed, short⟩)
    cases same
  · intro whole error raised
    cases error with
    | iso refusal => exact ⟨refusal, rfl⟩
    | indexError =>
      obtain ⟨mti, decoded, allowed, short⟩ := escapes.mp raised
      exact absurd (whole mti decoded allowed) short

/-- A message that ends after its type. -/
theorem missing_bitmap_escapes :
    unpackMessage npsbV28Dictionary ("0200".toList.map byteOf) = .error .indexError := rfl

end BdPay.Connectors.Npsb
