import BdPay.Connectors.Rails.Npsb

namespace BdPay.Connectors.Npsb

open Data Text IsoMessage List

/-! The ISO 8583 codec: how messages are packed, and what their MAC is computed over. -/

inductive LenType where
  | fixed | llvar | lllvar
  | unknown (name : String)
deriving DecidableEq

/-- What the codec reads of a data element's entry in the dictionary. -/
structure Element where
  format : String
  lenType : LenType
  max : Nat
deriving DecidableEq

structure IsoDictionary where
  dialect : String
  mtiAllowed : List String
  elements : Dict Nat Element

inductive Iso8583Error where
  | mtiNotAllowed (mti : String)
  | outOfRange
  | unknownDe (de : Nat) (dialect : String)
  | notAscii (de : Nat)
  | fixedLength (de max length : Nat)
  | tooLong (de max : Nat)
  | unknownLenType (de : Nat) (name : String)
  | notDigits (de : Nat)
  | mtiNotAscii | bitmapNotHex
  | lengthPrefix (de : Nat)
  | truncated (de : Nat)
  | undecodable (de : Nat)
  | trailingBytes
deriving DecidableEq

/-- The data elements that hold a MAC. -/
def macDes : List Nat := [64, 128]

def bitmapByte (present : List Nat) (index : Nat) : Nat :=
  ((range 8).map fun bit => if 8 * index + bit + 1 ∈ present then 0x80 >>> bit else 0).sum

def hexByte (byte : Nat) : List Char := [(Nat.digitChar (byte / 16)).toUpper, (Nat.digitChar (byte % 16)).toUpper]

def encodeBitmaps (present : List Nat) : List Char :=
  let present := if present.any (64 < ·) then 1 :: present else present
  let primary := (range 8).flatMap fun index => hexByte (bitmapByte present index)
  if 1 ∈ present then primary ++ (range 8).flatMap fun index => hexByte (bitmapByte present (8 + index)) else primary

def validateValue (de : Nat) (value : String) (entry : Element) : Except Iso8583Error Unit := do
  if ¬ value.toList.all (·.toNat < 128) then throw (.notAscii de)
  match entry.lenType with
  | .fixed => if value.length ≠ entry.max then throw (.fixedLength de entry.max value.length)
  | .llvar | .lllvar => if entry.max < value.length then throw (.tooLong de entry.max)
  | .unknown name => throw (.unknownLenType de name)
  if entry.format = "n" ∧ ¬ value.toList.all Char.isDigit then throw (.notDigits de)

namespace IsoMessage

variable (message : IsoMessage)

/-- `sorted(fields)`. -/
def present : List Nat := message.fields.keys.insertionSort (· ≤ ·)

def value (de : Nat) : String := (message.fields.get? de).getD ""

def packElement (dictionary : IsoDictionary) (de : Nat) : Except Iso8583Error (List Char) :=
  match dictionary.elements.get? de with
  | none => throw (.unknownDe de dictionary.dialect)
  | some entry => do
      let value := message.value de
      validateValue de value entry
      match entry.lenType with
      | .llvar => pure (zeroPadded 2 value.length ++ value.toList)
      | .lllvar => pure (zeroPadded 3 value.length ++ value.toList)
      | _ => pure value.toList

def packElements (dictionary : IsoDictionary) : List Nat → Except Iso8583Error (List Char)
  | [] => pure []
  | de :: rest => do
      let part ← message.packElement dictionary de
      let parts ← packElements dictionary rest
      pure (part ++ parts)

def packMessage (dictionary : IsoDictionary) : Except Iso8583Error (List Char) := do
  if message.mti ∉ dictionary.mtiAllowed then throw (.mtiNotAllowed message.mti)
  if message.present.any fun de => de < 2 ∨ 128 < de then throw .outOfRange
  let parts ← message.packElements dictionary message.present
  pure (message.mti.toList ++ encodeBitmaps message.present ++ parts)

/-- The elements the MAC is computed over. -/
def covered : List Nat := message.present.filter (· ∉ macDes)

def macPreimage : List Char := message.mti.toList ++ message.covered.flatMap fun de => (message.value de).toList

end IsoMessage

/-! What a MAC binds. -/

/-- The type of the message, and all its elements but the MACs. -/
def SameContent (left right : IsoMessage) : Prop :=
  left.mti = right.mti ∧ ∀ de ∉ macDes, left.fields.get? de = right.fields.get? de

/-- Types of one length, the same elements, and variable ones of the same lengths. -/
structure SameShape (dictionary : IsoDictionary) (left right : IsoMessage) : Prop where
  mti : left.mti.length = right.mti.length
  covered : left.covered = right.covered
  lengths : ∀ de ∈ left.covered, (∀ entry ∈ dictionary.elements.get? de, entry.lenType ≠ .fixed) →
    (left.value de).length = (right.value de).length

variable {left right message : IsoMessage} {dictionary : IsoDictionary} {items : List Nat} {de : Nat}

theorem mem_covered : de ∈ message.covered ↔ de ∈ message.fields.keys ∧ de ∉ macDes := by
  simp [covered, present]

theorem covered_eq_of_get? (same : ∀ de ∉ macDes, left.fields.get? de = right.fields.get? de) :
    left.covered = right.covered := by
  have sorted : ∀ message : IsoMessage, message.covered.Pairwise (· ≤ ·) := fun message =>
    (pairwise_insertionSort (· ≤ ·) message.fields.keys).filter _
  have nodup : ∀ message : IsoMessage, message.covered.Nodup := fun message =>
    ((perm_insertionSort _ _).nodup_iff.mpr message.fields.nodup_keys).filter _
  refine List.Perm.eq_of_pairwise (fun _ _ _ _ => Nat.le_antisymm) (sorted left) (sorted right) ?_
  refine (perm_ext_iff_of_nodup (nodup left) (nodup right)).mpr fun de => ?_
  rw [mem_covered, mem_covered]
  refine and_congr_left fun open_ => ?_
  rw [← not_iff_not, ← Dict.get?_eq_none_iff, ← Dict.get?_eq_none_iff, same de open_]

theorem packElement_of_mem (packed : message.packElements dictionary items = .ok wire) (member : de ∈ items) :
    ∃ part, message.packElement dictionary de = .ok part := by
  induction items generalizing wire with
  | nil => cases member
  | cons first rest ih =>
    rw [packElements] at packed
    cases here : message.packElement dictionary first with
    | error =>
      rw [here] at packed
      cases packed
    | ok part =>
      rw [here] at packed
      rcases mem_cons.mp member with rfl | later
      · exact ⟨part, here⟩
      · cases there : message.packElements dictionary rest with
        | error =>
          rw [there] at packed
          cases packed
        | ok => exact ih there later

theorem length_of_fixed (packed : (message.packMessage dictionary).isOk = true) (member : de ∈ message.covered)
    (found : dictionary.elements.get? de = some entry)
    (fixed : entry.lenType = .fixed) : (message.value de).length = entry.max := by
  have listed : de ∈ message.present := (mem_filter.mp member).1
  cases parts : message.packElements dictionary message.present with
  | error =>
    simp only [packMessage, parts] at packed
    split_ifs at packed <;> cases packed
  | ok =>
    obtain ⟨part, here⟩ := packElement_of_mem parts listed
    simp only [packElement, found] at here
    by_contra wrong
    simp only [validateValue, fixed, ne_eq, wrong, not_false_eq_true, if_true] at here
    split_ifs at here <;> cases here

theorem flatMap_inj_of_lengths {first second : Nat → List Char}
    (lengths : ∀ item ∈ items, (first item).length = (second item).length)
    (same : items.flatMap first = items.flatMap second) : ∀ item ∈ items, first item = second item := by
  induction items with
  | nil => simp
  | cons item _ ih =>
    obtain ⟨here, there⟩ := append_inj same (lengths item mem_cons_self)
    intro other member
    rcases mem_cons.mp member with rfl | later
    · exact here
    · exact ih (fun item member => lengths item (mem_cons_of_mem _ member)) there other later

/-- Of two messages with one preimage, the contents agree exactly if the shapes do. -/
theorem sameContent_iff_sameShape (dictionary : IsoDictionary) (left right : IsoMessage)
    (packed : (left.packMessage dictionary).isOk = true) (packed' : (right.packMessage dictionary).isOk = true)
    (same : left.macPreimage = right.macPreimage) : SameContent left right ↔ SameShape dictionary left right := by
  constructor
  · rintro ⟨mti, fields⟩
    refine ⟨by rw [mti], covered_eq_of_get? fields, fun de member _ => ?_⟩
    rw [IsoMessage.value, IsoMessage.value, fields de (mem_covered.mp member).2]
  · rintro ⟨mti, covered, lengths⟩
    obtain ⟨sameMti, values⟩ := List.append_inj same (by rw [String.length_toList, String.length_toList, mti])
    refine ⟨String.toList_inj.mp sameMti, fun de open_ => ?_⟩
    rw [← covered] at values
    have agree := flatMap_inj_of_lengths (fun de member => ?_) values
    · by_cases bound : de ∈ left.covered
      · have equal : left.value de = right.value de := String.toList_inj.mp (agree de bound)
        cases mine : left.fields.get? de with
        | none => exact absurd (mem_covered.mp bound).1 (Dict.get?_eq_none_iff.mp mine)
        | some =>
          cases theirs : right.fields.get? de with
          | none => exact absurd (mem_covered.mp (covered ▸ bound)).1 (Dict.get?_eq_none_iff.mp theirs)
          | some => simpa [IsoMessage.value, mine, theirs] using equal
      · have absent : ∀ message : IsoMessage, de ∉ message.covered → message.fields.get? de = none := fun message out =>
          Dict.get?_eq_none_iff.mpr fun inside => out (mem_covered.mpr ⟨inside, open_⟩)
        rw [absent left bound, absent right (covered ▸ bound)]
    · rw [String.length_toList, String.length_toList]
      cases found : dictionary.elements.get? de with
      | none => exact lengths de member fun entry listed => by simp [found] at listed
      | some entry =>
        by_cases fixed : entry.lenType = .fixed
        · rw [length_of_fixed packed member found fixed, length_of_fixed packed' (covered ▸ member) found fixed]
        · exact lengths de member fun other listed => Option.mem_unique found listed ▸ fixed

/-- The dictionary that is shipped. -/
def npsbV28Dictionary : IsoDictionary where
  dialect := "NPSB-BB-v2.8"
  mtiAllowed := ["0100", "0110", "0200", "0210", "0420", "0421", "0430", "0800", "0810"]
  elements := Dict.empty.setAll [(2, ⟨"n", .llvar, 19⟩), (3, ⟨"n", .fixed, 6⟩), (4, ⟨"n", .fixed, 12⟩),
    (7, ⟨"n", .fixed, 10⟩), (11, ⟨"n", .fixed, 6⟩), (12, ⟨"n", .fixed, 6⟩), (13, ⟨"n", .fixed, 4⟩),
    (32, ⟨"n", .llvar, 11⟩), (37, ⟨"an", .fixed, 12⟩), (38, ⟨"an", .fixed, 6⟩), (39, ⟨"an", .fixed, 2⟩),
    (41, ⟨"ans", .fixed, 8⟩), (48, ⟨"ans", .lllvar, 999⟩), (49, ⟨"n", .fixed, 3⟩), (63, ⟨"ans", .lllvar, 999⟩),
    (64, ⟨"b", .fixed, 16⟩), (70, ⟨"n", .fixed, 3⟩), (90, ⟨"n", .fixed, 42⟩), (102, ⟨"ans", .llvar, 28⟩),
    (103, ⟨"ans", .llvar, 28⟩), (128, ⟨"b", .fixed, 16⟩)]

/-- A transfer between two account references. -/
def transfer (sender beneficiary : String) : IsoMessage :=
  ⟨"0200", (Dict.empty.set 102 sender).set 103 beneficiary⟩

/-- The boundary between the two references is not authenticated. -/
theorem beneficiary_not_bound :
    ((transfer "acct1" "23").packMessage npsbV28Dictionary).isOk = true ∧
      ((transfer "acct12" "3").packMessage npsbV28Dictionary).isOk = true ∧
      (transfer "acct1" "23").macPreimage = (transfer "acct12" "3").macPreimage ∧
      ¬ SameContent (transfer "acct1" "23") (transfer "acct12" "3") := by
  refine ⟨by decide +kernel, by decide +kernel, by decide +kernel, fun same => ?_⟩
  exact absurd (same.2 103 (by decide)) (by decide)

/-- The transfer with a MAC. -/
def signed : IsoMessage := ⟨"0200", (transfer "acct1" "23").fields.set 128 "0123456789ABCDEF"⟩

/-- Messages that differ in their MAC only. -/
theorem mac_field_not_covered : SameContent (transfer "acct1" "23") signed :=
  (sameContent_iff_sameShape npsbV28Dictionary (transfer "acct1" "23") signed (by decide +kernel)
    (by decide +kernel) (by decide +kernel)).mpr ⟨rfl, by decide +kernel, by decide +kernel⟩

end BdPay.Connectors.Npsb
