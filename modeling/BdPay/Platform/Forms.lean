import BdPay.Platform.Canonical

namespace BdPay.Platform

open Data List

/-! What the canonical text of a value says about it.

The writer sorts the keys of every dict and loses nothing else, so two values have
one text exactly when they are equal up to the order of dict keys.
-/

/-- Built from None, booleans, integers, strings, lists and dicts, whose keys are distinct. -/
inductive Plain : PyValue → Prop
  | none : Plain .none
  | bool : Plain (.bool value)
  | int : Plain (.int value)
  | str : Plain (.str value)
  | list (each : ∀ item ∈ items, Plain item) : Plain (.list items)
  | dict (distinct : (fields.map Prod.fst).Nodup) (each : ∀ field ∈ fields, Plain field.2) : Plain (.dict fields)

/-- Equal up to the order of dict keys; `True` is not `1`. -/
inductive Alike : PyValue → PyValue → Prop
  | none : Alike .none .none
  | bool : Alike (.bool value) (.bool value)
  | int : Alike (.int value) (.int value)
  | str : Alike (.str value) (.str value)
  | list (sameLength : left.length = right.length) (each : ∀ pair ∈ left.zip right, Alike pair.1 pair.2) :
      Alike (.list left) (.list right)
  | dict (keys : (left.map Prod.fst).Perm (right.map Prod.fst))
      (each : ∀ mine ∈ left, ∀ other ∈ right, mine.1 = other.1 → Alike mine.2 other.2) :
      Alike (.dict left) (.dict right)

theorem exists_meaning (plain : Plain value) : ∃ json, meaning value = .ok json := by
  have : Nonempty Json := ⟨.null⟩
  induction plain with
  | none | bool | int | str => exact ⟨_, rfl⟩
  | @list items each found =>
    choose! json means using found
    refine ⟨.array (items.map json), ?_⟩
    rw [meaning, meaningItems_eq_map, Effect.sequence_eq_ok.mpr]
    · rfl
    · simpa using means
  | @dict fields distinct each found =>
    choose! json means using found
    refine ⟨.object (sortByKey (fields.map fun field => (field.1, json field))), ?_⟩
    rw [meaning, meaningFields_eq_map, collect_eq_ok.mpr]
    · rfl
    · rw [← sortByKey_map, map_map]
      congr 1
      exact map_congr_left fun field member => by simp [means field member]

theorem Alike.meaning_eq (alike : Alike left right) (leftPlain : Plain left) (rightPlain : Plain right) :
    meaning left = meaning right := by
  induction alike with
  | none | bool | int | str => rfl
  | list sameLength each same =>
    cases leftPlain with | list leftEach =>
    cases rightPlain with | list rightEach =>
    have items : Forall₂ (fun mine other => meaning mine = meaning other) _ _ := forall₂_iff_zip.mpr ⟨sameLength,
      fun member => same _ member (leftEach _ (of_mem_zip member).1) (rightEach _ (of_mem_zip member).2)⟩
    have means := forall₂_map_left_iff.mpr (forall₂_map_right_iff.mpr items)
    rw [forall₂_eq_eq_eq] at means
    rw [meaning, meaning, meaningItems_eq_map, meaningItems_eq_map, means]
  | @dict left right keys each same =>
    cases leftPlain with | dict leftDistinct leftEach =>
    cases rightPlain with | dict rightDistinct rightEach =>
    let mean : String × PyValue → String × Except CanonicalError Json := fun field => (field.1, meaning field.2)
    have agree : ∀ mine ∈ left, ∀ other ∈ right, mine.1 = other.1 → mean mine = mean other :=
      fun mine member other otherMember sameKey => Prod.ext sameKey
        (same mine member other otherMember sameKey (leftEach mine member) (rightEach other otherMember))
    have subset : left.map mean ⊆ right.map mean := by
      intro field member
      obtain ⟨mine, inside, rfl⟩ := mem_map.mp member
      obtain ⟨other, found, sameKey⟩ := mem_map.mp (keys.mem_iff.mp (mem_map_of_mem inside))
      exact agree mine inside other found sameKey.symm ▸ mem_map_of_mem found
    have distinct : (left.map mean).Nodup := .of_map Prod.fst (by simpa [Function.comp_def, mean] using leftDistinct)
    have perm : (left.map mean).Perm (right.map mean) :=
      (subperm_of_subset distinct subset).perm_of_length_le (by simpa using keys.length_eq.ge)
    have sorted : sortByKey (left.map mean) = sortByKey (right.map mean) := by
      refine Perm.eq_of_pairwise ?_ (pairwise_insertionSort _ _) (pairwise_insertionSort _ _)
        ((sortByKey_perm _).trans (perm.trans (sortByKey_perm _).symm))
      intro first second firstIn secondIn below above
      obtain ⟨mine, inside, rfl⟩ := mem_map.mp ((sortByKey_perm _).mem_iff.mp firstIn)
      obtain ⟨other, found, rfl⟩ := mem_map.mp ((sortByKey_perm _).mem_iff.mp secondIn)
      exact agree mine inside other found (le_antisymm below above)
    rw [meaning, meaning, meaningFields_eq_map, meaningFields_eq_map]
    exact congrArg _ (congrArg _ sorted)

theorem MeanSame.alike (plain : Plain left) (rightPlain : Plain right) (same : MeanSame left right) :
    Alike left right := by
  induction plain generalizing right with
  | none | bool | int | str => cases rightPlain <;> grind [MeanSame, meaning, Effect.map_eq_ok, Alike]
  | list each alike =>
    cases rightPlain with
    | list rightEach =>
      obtain ⟨sameLength, pairs⟩ := forall₂_iff_zip.mp same.list
      exact .list sameLength fun pair member =>
        alike _ (of_mem_zip member).1 (rightEach _ (of_mem_zip member).2) (pairs member)
    | _ => grind [MeanSame, meaning, Effect.map_eq_ok]
  | dict distinct each alike =>
    cases rightPlain with
    | dict rightDistinct rightEach =>
      refine .dict (by simpa [Function.comp_def] using same.perm.1.map Prod.fst)
        fun mine member other found sameKey => ?_
      exact alike mine member (rightEach other found) (same.field distinct mine.1 member (sameKey ▸ found))
    | _ => grind [MeanSame, meaning, Effect.map_eq_ok]

/-- Plain values have one canonical text, and so one hash, exactly when they are equal up to the order of keys. -/
theorem canonicalJson_eq_iff (leftPlain : Plain left) (rightPlain : Plain right) :
    ((canonicalJson left).map String.toUTF8 = (canonicalJson right).map String.toUTF8 ↔ Alike left right) ∧
    ∀ sha256, Function.Injective sha256 →
      (sha256Canonical sha256 left = sha256Canonical sha256 right ↔ Alike left right) := by
  obtain ⟨leftJson, leftMeans⟩ := exists_meaning leftPlain
  obtain ⟨rightJson, rightMeans⟩ := exists_meaning rightPlain
  have leftText := canonicalJson_eq_ok.mpr ⟨leftJson, leftMeans, rfl⟩
  have rightText := canonicalJson_eq_ok.mpr ⟨rightJson, rightMeans, rfl⟩
  have texts : String.ofList leftJson.text = String.ofList rightJson.text ↔ Alike left right := by
    constructor
    · intro same
      exact (meanSame_of_canonicalJson_eq (same ▸ leftText) rightText).alike leftPlain rightPlain
    · intro alike
      have means := alike.meaning_eq leftPlain rightPlain
      rw [leftMeans, rightMeans] at means
      rw [Except.ok.inj means]
  simp only [sha256Canonical, leftText, rightText, Except.map, Except.ok.injEq, ← texts]
  exact ⟨String.toByteArray_inj, fun sha256 injective => injective.eq_iff⟩

def transfer (flag : PyValue) : PyValue := .dict [("to", .dict [("id", .int 1), ("ok", flag)]), ("by", .str "a")]

def reordered : PyValue := .dict [("by", .str "a"), ("to", .dict [("ok", .bool true), ("id", .int 1)])]

/-- The keys may stand in another order, and `True` is not `1`. -/
theorem reordered_canonicalJson :
    (canonicalJson (transfer (.bool true))).map String.toUTF8 = (canonicalJson reordered).map String.toUTF8 ∧
    (canonicalJson (transfer (.int 1))).map String.toUTF8 ≠ (canonicalJson reordered).map String.toUTF8 := by
  have plain : Plain reordered := by grind [reordered, Plain]
  refine ⟨(canonicalJson_eq_iff (by grind [transfer, Plain]) plain).1.mpr ?_, fun same => ?_⟩
  · grind [transfer, reordered, Alike]
  · cases (canonicalJson_eq_iff (by grind [transfer, Plain]) plain).1.mp same with | dict _ each =>
    cases each ("to", _) (.head _) ("to", _) (.tail _ (.head _)) rfl with | dict _ each =>
    cases each ("ok", _) (.tail _ (.head _)) ("ok", _) (.head _) rfl

end BdPay.Platform
