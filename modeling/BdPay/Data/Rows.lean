import BdPay.Data.Dict

namespace BdPay.Data.Dict

open List

/-! Tables: dictionaries whose rows carry the key they are filed under. -/

variable {κ : Type u} {ν : Type v}

def mapValues (dict : Dict κ ν) (change : ν → ν) : Dict κ ν where
  entries := dict.entries.map fun entry => (entry.1, change entry.2)
  nodup := by simpa [Function.comp_def] using dict.nodup

@[simp] theorem values_mapValues (dict : Dict κ ν) (change : ν → ν) :
    (dict.mapValues change).values = dict.values.map change := by
  simp [values, mapValues]

theorem mapValues_congr {dict : Dict κ ν} (same : ∀ row ∈ dict.values, first row = second row) :
    dict.mapValues first = dict.mapValues second := by
  apply ext_entries
  apply map_congr_left
  intro entry member
  rw [same entry.2 (mem_map_of_mem member)]

theorem mapValues_id (dict : Dict κ ν) : dict.mapValues id = dict :=
  ext_entries (map_id _)

theorem mapValues_mapValues (dict : Dict κ ν) (first second : ν → ν) :
    (dict.mapValues first).mapValues second = dict.mapValues fun row => second (first row) :=
  ext_entries (by simp [mapValues])

/-- Every row is filed under the key it carries. -/
def Keyed (keyOf : ν → κ) (dict : Dict κ ν) : Prop := ∀ entry ∈ dict.entries, keyOf entry.2 = entry.1

variable {keyOf : ν → κ} {dict : Dict κ ν} {change : ν → ν}

theorem keyed_empty : (empty : Dict κ ν).Keyed keyOf := by simp [Keyed]

section

variable (keyed : dict.Keyed keyOf)

include keyed

theorem Keyed.mapValues
    (same : ∀ row ∈ dict.values, keyOf (change row) = keyOf row) : (dict.mapValues change).Keyed keyOf := by
  intro entry member
  obtain ⟨original, inside, rfl⟩ := mem_map.mp member
  exact (same original.2 (mem_map_of_mem inside)).trans (keyed original inside)

theorem Keyed.keys_eq : dict.values.map keyOf = dict.keys := by
  rw [values, keys, map_map]
  exact map_congr_left keyed

theorem Keyed.nodup_values : dict.values.Nodup :=
  List.Nodup.of_map keyOf (keyed.keys_eq ▸ dict.nodup_keys)

theorem Keyed.inj (one : first ∈ dict.values) (other : second ∈ dict.values)
    (same : keyOf first = keyOf second) : first = second :=
  inj_on_of_nodup_map (keyed.keys_eq ▸ dict.nodup_keys) one other same

end

variable [DecidableEq κ]

theorem get?_mapValues (dict : Dict κ ν) (change : ν → ν) (key : κ) :
    (dict.mapValues change).get? key = (dict.get? key).map change := by
  simp only [get?, mapValues, find?_map, Option.map_map]
  rfl

variable {key : κ} {row old new : ν}

theorem sum_values_set_of_fresh (fresh : dict.get? key = none) (weight : ν → Int) :
    ((dict.set key new).values.map weight).sum = (dict.values.map weight).sum + weight new := by
  rw [values_set_of_fresh fresh]
  simp

theorem sum_values_set_of_bound (bound : dict.get? key = some old) (weight : ν → Int) :
    ((dict.set key new).values.map weight).sum = (dict.values.map weight).sum - weight old + weight new := by
  obtain ⟨front, back, split, replaced⟩ := entries_set_of_bound bound
  simp only [values, split, replaced new, map_append, map_cons, sum_append, sum_cons]
  omega

variable (keyed : dict.Keyed keyOf)
include keyed

theorem Keyed.key_of_get? (found : dict.get? key = some row) : keyOf row = key :=
  keyed (key, row) (mem_of_get? found)

theorem Keyed.get?_of_mem (member : row ∈ dict.values) : dict.get? (keyOf row) = some row := by
  obtain ⟨key, found⟩ := get?_of_mem_values member
  rw [keyed.key_of_get? found]
  exact found

theorem Keyed.set (carries : keyOf row = key) : (dict.set key row).Keyed keyOf := by
  intro entry member
  have found := Dict.get?_of_mem member
  rw [get?_set] at found
  split_ifs at found with same
  · rw [← Option.some.inj found, carries, same]
  · exact keyed entry (mem_of_get? found)

theorem Keyed.mem_values_set {row other : ν} :
    other ∈ (dict.set (keyOf row) row).values ↔ other = row ∨ other ∈ dict.values ∧ keyOf other ≠ keyOf row := by
  constructor
  · intro member
    have found := (keyed.set rfl).get?_of_mem member
    rw [get?_set] at found
    split_ifs at found with same
    · exact .inl (Option.some.inj found).symm
    · exact .inr ⟨mem_values_of_get? found, same⟩
  · rintro (rfl | ⟨member, different⟩)
    · exact mem_values_of_get? (get?_set_self _ _ _)
    · exact mem_values_of_get? ((get?_set_of_ne different).trans (keyed.get?_of_mem member))

theorem Keyed.set_eq_mapValues (bound : dict.get? key = some old)
    (new : ν) : dict.set key new = dict.mapValues fun row => if keyOf row = key then new else row := by
  have member : key ∈ dict.keys := mem_map_of_mem (mem_of_get? bound)
  apply ext_entries
  simp only [Dict.set, dif_pos member, Dict.mapValues]
  apply map_congr_left
  intro entry inside
  rw [keyed entry inside]
  by_cases same : entry.1 = key <;> simp [same]

/-- A loop that replaces some of the rows, each by what becomes of it. -/
theorem Keyed.foldl_set [DecidableEq ν] {rows : List ν} (listed : ∀ row ∈ rows, row ∈ dict.values)
    (same : ∀ row ∈ rows, keyOf (change row) = keyOf row) (distinct : rows.Nodup) :
    rows.foldl (fun table row => table.set (keyOf row) (change row)) dict =
      dict.mapValues fun row => if row ∈ rows then change row else row := by
  induction rows generalizing dict with
  | nil =>
    simp only [foldl_nil, not_mem_nil, if_false]
    exact dict.mapValues_id.symm
  | cons row rest ih =>
    obtain ⟨apart, distinct⟩ := nodup_cons.mp distinct
    have here := listed row mem_cons_self
    have replaced := keyed.set_eq_mapValues (keyed.get?_of_mem here) (change row)
    have others : ∀ other ∈ rest, keyOf other ≠ keyOf row := by
      intro other member sameKey
      have equal := keyed.inj (listed other (mem_cons_of_mem _ member)) here sameKey
      exact apart (equal ▸ member)
    have keyed' : (dict.set (keyOf row) (change row)).Keyed keyOf := by
      rw [replaced]
      apply keyed.mapValues
      intro other _
      split_ifs with hit
      · rw [same row mem_cons_self, hit]
      · rfl
    have listed' : ∀ other ∈ rest, other ∈ (dict.set (keyOf row) (change row)).values := by
      intro other member
      rw [replaced, values_mapValues]
      exact mem_map.mpr ⟨other, listed other (mem_cons_of_mem _ member), if_neg (others other member)⟩
    rw [foldl_cons, ih keyed' listed' (fun other member => same other (mem_cons_of_mem _ member)) distinct,
      replaced, mapValues_mapValues]
    apply mapValues_congr
    intro other inside
    by_cases hit : keyOf other = keyOf row
    · have equal := keyed.inj inside here hit
      subst equal
      have changed : change other ∉ rest := fun member =>
        others (change other) member (same other mem_cons_self)
      simp [changed]
    · have different : other ≠ row := fun equal => hit (congrArg keyOf equal)
      simp [hit, different]

end BdPay.Data.Dict
