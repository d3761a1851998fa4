import BdPay.Data.Effect
import BdPay.Data.Json
import BdPay.Platform.Clock

namespace BdPay.Platform

open Data Text List

/-! Canonical JSON: the one wire form that identifiers and seals are hashed from. -/

/-- The Python values that reach the canonical writer.  The keys of a `dict` are
distinct strings; a circular value cannot be built. -/
inductive PyValue where
  | none
  | bool (value : Bool)
  | int (value : Int)
  | float
  | str (value : String)
  | datetime (value : DateTime)
  | set
  | other (typeName : String)
  | list (items : List PyValue)
  | dict (fields : List (String × PyValue))

inductive CanonicalError where
  | float | set
  | type (typeName : String)
deriving DecidableEq

def CanonicalError.message : CanonicalError → String
  | .float => "floats are rejected in canonical JSON; money is integer paisa (spec 00 §6)"
  | .set => "sets are rejected in canonical JSON (unordered)"
  | .type typeName => s!"type {typeName} is not canonically serializable"

/-- `sorted(items, key=lambda kv: kv[0])`: stable, by code points. -/
def sortByKey {α : Type} (fields : List (String × α)) : List (String × α) :=
  fields.insertionSort (fun left right => left.1 ≤ right.1)

/-- Writes the fields of a dict in the order given, each but the first behind a comma. -/
def writeSorted (first : Bool) :
    List (String × Except CanonicalError (List Char)) → Except CanonicalError (List Char)
  | [] => .ok []
  | (key, value) :: rest => do
      let written ← value
      let others ← writeSorted false rest
      return (if first then [] else [',']) ++ (Json.quote key.toList ++ ':' :: (written ++ others))

mutual

def write : PyValue → Except CanonicalError (List Char)
  | .none => .ok "null".toList
  | .bool value => .ok (if value then "true".toList else "false".toList)
  | .float => .error .float
  | .str value => .ok (Json.quote value.toList)
  | .int value => .ok (decimal value)
  | .datetime value => .ok ('"' :: (value.isoMillis ++ ['"']))
  | .set => .error .set
  | .dict fields => do
      let written ← writeSorted true (sortByKey (writeFields fields))
      return '\x7b' :: (written ++ ['\x7d'])
  | .list items => do
      let written ← writeItems true items
      return '[' :: (written ++ [']'])
  | .other typeName => .error (.type typeName)

def writeItems (first : Bool) : List PyValue → Except CanonicalError (List Char)
  | [] => .ok []
  | item :: rest => do
      let written ← write item
      let others ← writeItems false rest
      return (if first then [] else [',']) ++ (written ++ others)

/-- The text, or the refusal, of each value of a dict.  A refusal is raised only
when the sorted fields are written out, in their order. -/
def writeFields : List (String × PyValue) → List (String × Except CanonicalError (List Char))
  | [] => []
  | (key, value) :: rest => (key, write value) :: writeFields rest

end

def canonicalJson (value : PyValue) : Except CanonicalError String := (write value).map String.ofList

/-- `sha256_canonical`, over the hash of a UTF-8 text. -/
def sha256Canonical (sha256 : String → String) (value : PyValue) : Except CanonicalError String :=
  (canonicalJson value).map sha256

example : canonicalJson (.dict [("b", .list [.int 1, .none]), ("a", .str "x")]) =
    .ok "\x7b\"a\":\"x\",\"b\":[1,null]\x7d" := by decide

/-! What a value means on the wire: dict fields in key order, instants as text. -/

def collect {α : Type} (fields : List (String × Except CanonicalError α)) :
    Except CanonicalError (List (String × α)) :=
  Effect.sequence (fields.map fun field => field.2.map (field.1, ·))

mutual

def meaning : PyValue → Except CanonicalError Json
  | .none => .ok .null
  | .bool value => .ok (.bool value)
  | .float => .error .float
  | .str value => .ok (.str value)
  | .int value => .ok (.int value)
  | .datetime value => .ok (.str (String.ofList value.isoMillis))
  | .set => .error .set
  | .dict fields => (collect (sortByKey (meaningFields fields))).map Json.object
  | .list items => (Effect.sequence (meaningItems items)).map Json.array
  | .other typeName => .error (.type typeName)

def meaningItems : List PyValue → List (Except CanonicalError Json)
  | [] => []
  | item :: rest => meaning item :: meaningItems rest

def meaningFields : List (String × PyValue) → List (String × Except CanonicalError Json)
  | [] => []
  | (key, value) :: rest => (key, meaning value) :: meaningFields rest

end

theorem sortByKey_map (f : α → β) (fields : List (String × α)) :
    sortByKey (fields.map fun field => (field.1, f field.2)) =
      (sortByKey fields).map fun field => (field.1, f field.2) :=
  (map_insertionSort _ _ _ _ (by simp)).symm

theorem sortByKey_perm (fields : List (String × α)) : (sortByKey fields).Perm fields :=
  perm_insertionSort _ fields

theorem writeSorted_eq (first : Bool) (fields : List (String × Except CanonicalError Json)) :
    writeSorted first (fields.map fun field => (field.1, field.2.map Json.text)) =
      (collect fields).map (Json.fieldsText first) := by
  induction fields generalizing first with
  | nil => rfl
  | cons field rest ih =>
    obtain ⟨key, value⟩ := field
    cases value with
    | error => rfl
    | ok =>
      simp only [map_cons, writeSorted]
      rw [ih false]
      simp only [collect, map_cons, Except.map, Effect.sequence]
      cases Effect.sequence (rest.map _) <;> rfl

mutual

/-- The writer writes the meaning of a value, and refuses exactly the values that have none. -/
theorem write_eq_meaning : ∀ value : PyValue, write value = (meaning value).map Json.text
  | .none | .float | .str _ | .int _ | .set | .other _ => rfl
  | .bool value => by cases value <;> rfl
  | .datetime value => by
      -- Digits and the punctuation of a timestamp are never escaped.
      have plain : Json.escape value.isoMillis = value.isoMillis := by
        refine Json.escape_eq_self fun char member => ?_
        rcases DateTime.mem_isoMillis member with digit | punctuation
        · exact Json.escapeChar_of_isDigit digit
        · simp only [mem_cons, not_mem_nil, or_false] at punctuation
          rcases punctuation with rfl | rfl | rfl | rfl | rfl <;> rfl
      simp [write, meaning, Except.map, Json.text, Json.quote, plain]
  | .list items => by
      rw [write, meaning, writeItems_eq_meaning true items]
      cases Effect.sequence (meaningItems items) <;> rfl
  | .dict fields => by
      rw [write, meaning, writeFields_eq_meaning fields, sortByKey_map, writeSorted_eq]
      cases collect (sortByKey (meaningFields fields)) <;> rfl

theorem writeItems_eq_meaning (first : Bool) : ∀ items : List PyValue,
    writeItems first items = (Effect.sequence (meaningItems items)).map (Json.itemsText first)
  | [] => rfl
  | item :: rest => by
      rw [writeItems, meaningItems, write_eq_meaning item, writeItems_eq_meaning false rest]
      cases meaning item with
      | error => rfl
      | ok =>
        rw [Effect.sequence]
        cases Effect.sequence (meaningItems rest) <;> rfl

theorem writeFields_eq_meaning : ∀ fields : List (String × PyValue),
    writeFields fields = (meaningFields fields).map fun field => (field.1, field.2.map Json.text)
  | [] => rfl
  | (key, value) :: rest => by
      rw [writeFields, meaningFields, write_eq_meaning value, writeFields_eq_meaning rest]
      rfl

end

theorem canonicalJson_eq_ok :
    canonicalJson value = .ok text ↔ ∃ json, meaning value = .ok json ∧ text = String.ofList json.text := by
  rw [canonicalJson, write_eq_meaning]
  cases meaning value <;> simp [Except.map, eq_comm]

/-- The two values have a meaning, and it is the same one. -/
def MeanSame (left right : PyValue) : Prop := ∃ json, meaning left = .ok json ∧ meaning right = .ok json

theorem MeanSame.str (same : MeanSame (.str left) (.str right)) : left = right := by
  obtain ⟨json, leftMeans, rightMeans⟩ := same
  simpa [meaning] using leftMeans.trans rightMeans.symm

theorem MeanSame.int (same : MeanSame (.int left) (.int right)) : left = right := by
  obtain ⟨json, leftMeans, rightMeans⟩ := same
  simpa [meaning] using leftMeans.trans rightMeans.symm

theorem meanSame_of_canonicalJson_eq
    (leftText : canonicalJson left = .ok text) (rightText : canonicalJson right = .ok text) : MeanSame left right := by
  obtain ⟨leftJson, leftMeans, rfl⟩ := canonicalJson_eq_ok.mp leftText
  obtain ⟨rightJson, rightMeans, same⟩ := canonicalJson_eq_ok.mp rightText
  have texts : leftJson.text = rightJson.text := by
    simpa using congrArg String.toList same
  exact ⟨leftJson, leftMeans, Json.text_injective texts ▸ rightMeans⟩

theorem collect_eq_ok {found : List (String × α)} :
    collect fields = .ok found ↔ fields = found.map fun field => (field.1, .ok field.2) := by
  rw [collect, Effect.sequence_eq_ok]
  induction fields generalizing found with
  | nil => cases found <;> simp
  | cons field _ ih =>
    obtain ⟨key, value⟩ := field
    cases found with
    | nil => simp
    | cons =>
      simp only [map_cons, cons.injEq, ih, Effect.map_eq_ok, Prod.ext_iff]
      grind

theorem meaningFields_eq_map (fields : List (String × PyValue)) :
    meaningFields fields = fields.map fun field => (field.1, meaning field.2) := by
  induction fields with
  | nil => rfl
  | cons _ _ ih => simp [meaningFields, ih]

theorem meaningItems_eq_map (items : List PyValue) : meaningItems items = items.map meaning := by
  induction items with
  | nil => rfl
  | cons _ _ ih => simp [meaningItems, ih]

theorem MeanSame.list (same : MeanSame (.list left) (.list right)) : List.Forall₂ MeanSame left right := by
  obtain ⟨json, leftMeans, rightMeans⟩ := same
  simp only [meaning, Effect.map_eq_ok, Effect.sequence_eq_ok, meaningItems_eq_map] at leftMeans rightMeans
  obtain ⟨items, leftFound, rfl⟩ := leftMeans
  obtain ⟨others, rightFound, sameItems⟩ := rightMeans
  rw [Json.array.inj sameItems] at rightFound
  clear sameItems others
  induction items generalizing left right with
  | nil => simp_all
  | cons item _ ih =>
    obtain ⟨first, tail, rfl, means, means'⟩ := map_eq_cons_iff.mp leftFound
    obtain ⟨head, behind, rfl, heads, heads'⟩ := map_eq_cons_iff.mp rightFound
    exact .cons ⟨item, means, heads⟩ (ih means' heads')

theorem MeanSame.perm (same : MeanSame (.dict left) (.dict right)) :
    (left.map fun field => (field.1, meaning field.2)).Perm (right.map fun field => (field.1, meaning field.2)) ∧
      ∀ field ∈ left, ∃ json, meaning field.2 = .ok json := by
  obtain ⟨json, leftMeans, rightMeans⟩ := same
  simp only [meaning, Effect.map_eq_ok, collect_eq_ok, meaningFields_eq_map] at leftMeans rightMeans
  obtain ⟨fields, leftSorted, rfl⟩ := leftMeans
  obtain ⟨others, rightSorted, sameFields⟩ := rightMeans
  rw [Json.object.inj sameFields] at rightSorted
  have leftPerm := sortByKey_perm (left.map fun field => (field.1, meaning field.2))
  have rightPerm := sortByKey_perm (right.map fun field => (field.1, meaning field.2))
  rw [leftSorted] at leftPerm
  rw [rightSorted] at rightPerm
  refine ⟨leftPerm.symm.trans rightPerm, fun field member => ?_⟩
  obtain ⟨found, -, means⟩ := mem_map.mp (leftPerm.mem_iff.mpr (mem_map_of_mem member))
  exact ⟨found.2, (congrArg Prod.snd means).symm⟩

/-- Dicts that mean the same agree, in meaning, on every key they share. -/
theorem MeanSame.field (same : MeanSame (.dict left) (.dict right)) (nodup : (left.map Prod.fst).Nodup) (key : String)
    (leftField : (key, leftValue) ∈ left) (rightField : (key, rightValue) ∈ right) : MeanSame leftValue rightValue := by
  obtain ⟨perm, found⟩ := same.perm
  obtain ⟨json, means⟩ := found _ leftField
  have keys : ((left.map fun field => (field.1, meaning field.2)).map Prod.fst).Nodup := by
    simpa [Function.comp_def] using nodup
  have values : meaning leftValue = meaning rightValue := congrArg Prod.snd (inj_on_of_nodup_map keys
    (mem_map_of_mem leftField) (perm.mem_iff.mpr (mem_map_of_mem rightField)) rfl)
  exact ⟨json, means, values ▸ means⟩

end BdPay.Platform
