import Mathlib

namespace BdPay.Data

open List

/-! An insertion-ordered dictionary.

The bindings are kept in the order in which their keys were first set; setting
a key again replaces its value in place.  Iteration order and size are therefore
read off `entries`, and no key is ever bound twice.
-/

structure Dict (κ : Type u) (ν : Type v) where
  entries : List (κ × ν)
  nodup : (entries.map Prod.fst).Nodup
deriving Repr

namespace Dict

variable {κ : Type u} {ν : Type v}

theorem ext_entries {left right : Dict κ ν} (same : left.entries = right.entries) : left = right := by
  cases left
  cases right
  cases same
  rfl

def empty : Dict κ ν := ⟨[], nodup_nil⟩

instance : Inhabited (Dict κ ν) := ⟨empty⟩

instance [DecidableEq κ] [DecidableEq ν] : DecidableEq (Dict κ ν) := fun left right =>
  decidable_of_iff (left.entries = right.entries) ⟨ext_entries, congrArg entries⟩

def keys (dict : Dict κ ν) : List κ := dict.entries.map Prod.fst

def values (dict : Dict κ ν) : List ν := dict.entries.map Prod.snd

def size (dict : Dict κ ν) : Nat := dict.entries.length

@[simp] theorem entries_empty : (empty : Dict κ ν).entries = [] := rfl

@[simp] theorem values_empty : (empty : Dict κ ν).values = [] := rfl

@[simp] theorem length_keys (dict : Dict κ ν) : dict.keys.length = dict.size := length_map _

theorem nodup_keys (dict : Dict κ ν) : dict.keys.Nodup := dict.nodup

variable [DecidableEq κ]

def get? (dict : Dict κ ν) (key : κ) : Option ν :=
  (dict.entries.find? (fun entry => entry.1 = key)).map Prod.snd

def contains (dict : Dict κ ν) (key : κ) : Bool := (dict.get? key).isSome

@[simp] theorem get?_empty (key : κ) : (empty : Dict κ ν).get? key = none := rfl

variable {dict : Dict κ ν} {key : κ} {value : ν} {bindings : List (κ × ν)}

theorem mem_of_get? (found : dict.get? key = some value) : (key, value) ∈ dict.entries := by
  obtain ⟨entry, located, rfl⟩ := Option.map_eq_some_iff.mp found
  have member := mem_of_find?_eq_some located
  have same : entry.1 = key := by simpa using find?_some located
  rwa [← same]

theorem get?_of_mem (member : (key, value) ∈ dict.entries) : dict.get? key = some value := by
  cases located : dict.entries.find? (fun entry => entry.1 = key) with
  | none =>
    have absent := find?_eq_none.mp located (key, value) member
    simp at absent
  | some entry =>
    have same : entry.1 = key := by simpa using find?_some located
    have inside := mem_of_find?_eq_some located
    have unique := inj_on_of_nodup_map dict.nodup inside member (by simpa using same)
    simp [get?, located, unique]

theorem get?_eq_none_iff : dict.get? key = none ↔ key ∉ dict.keys := by
  constructor
  · intro missing bound
    obtain ⟨⟨_, value⟩, member, rfl⟩ := mem_map.mp bound
    rw [get?_of_mem member] at missing
    cases missing
  · intro absent
    cases found : dict.get? key with
    | none => rfl
    | some => exact absurd (mem_map_of_mem (mem_of_get? found)) absent

theorem mem_values_of_get? (found : dict.get? key = some value) : value ∈ dict.values :=
  mem_map_of_mem (mem_of_get? found)

theorem get?_of_mem_values (member : value ∈ dict.values) : ∃ key, dict.get? key = some value := by
  obtain ⟨⟨key, _⟩, inside, rfl⟩ := mem_map.mp member
  exact ⟨key, get?_of_mem inside⟩

theorem contains_eq_false_iff : dict.contains key = false ↔ dict.get? key = none := by
  simp [contains]

/-- Binding a key: in place when it is bound already, at the end otherwise. -/
def set (dict : Dict κ ν) (key : κ) (value : ν) : Dict κ ν :=
  if bound : key ∈ dict.keys then
    ⟨dict.entries.map (fun entry => if entry.1 = key then (key, value) else entry), by
      have sameKeys : (dict.entries.map (fun entry => if entry.1 = key then (key, value) else entry)).map
          Prod.fst = dict.keys := by
        rw [map_map]
        apply map_congr_left
        intro entry _
        by_cases same : entry.1 = key <;> simp [same]
      rw [sameKeys]
      exact dict.nodup⟩
  else
    ⟨dict.entries ++ [(key, value)], by
      rw [map_append]
      exact dict.nodup.append (nodup_singleton _) (by simpa [keys] using bound)⟩

theorem entries_set_of_fresh (fresh : dict.get? key = none) :
    (dict.set key value).entries = dict.entries ++ [(key, value)] := by
  simp [set, get?_eq_none_iff.mp fresh]

theorem values_set_of_fresh (fresh : dict.get? key = none) : (dict.set key value).values = dict.values ++ [value] := by
  simp [values, entries_set_of_fresh fresh]

theorem get?_set (dict : Dict κ ν) (key other : κ) (value : ν) :
    (dict.set key value).get? other = if other = key then some value else dict.get? other := by
  by_cases bound : key ∈ dict.keys
  · by_cases same : other = key
    · subst same
      obtain ⟨entry, member, rfl⟩ := mem_map.mp bound
      rw [if_pos rfl]
      apply get?_of_mem
      simp only [set, dif_pos bound]
      exact mem_map.mpr ⟨entry, member, by simp⟩
    · rw [if_neg same]
      simp only [get?, set, dif_pos bound]
      congr 1
      induction dict.entries with
      | nil => rfl
      | cons entry _ ih =>
        by_cases hit : entry.1 = key
        · have miss : ¬ key = other := fun equal => same equal.symm
          simp [hit, miss, ih]
        · by_cases here : entry.1 = other
          · simp [here, same]
          · simp [hit, here, ih]
  · simp only [get?, set, dif_neg bound, find?_append]
    by_cases same : other = key
    · subst same
      have missing : dict.entries.find? (fun entry => entry.1 = other) = none := by
        simpa [get?] using get?_eq_none_iff.mpr bound
      simp [missing]
    · have miss : ¬ key = other := fun equal => same equal.symm
      simp [same, miss]

/-- A write keeps what holds of every binding, if it holds of the new one. -/
theorem forall_set {holds : κ → ν → Prop}
    (all : ∀ {other found}, dict.get? other = some found → holds other found) (new : holds key value) {other : κ}
    {found : ν} (stored : (dict.set key value).get? other = some found) : holds other found := by
  rw [get?_set] at stored
  split_ifs at stored with own
  · cases stored
    exact own ▸ new
  · exact all stored

/-- A row is found under its own key after a write if it was written, or was there under another key. -/
theorem get?_set_row (keyOf : ν → κ) : (dict.set (keyOf written) written).get? (keyOf row) = some row ↔
      row = written ∨ (dict.get? (keyOf row) = some row ∧ keyOf row ≠ keyOf written) := by
  rw [get?_set]
  split_ifs with here
  · simp only [Option.some.injEq, here, ne_eq, not_true_eq_false, and_false, or_false]
    exact eq_comm
  · simp only [ne_eq, here, not_false_eq_true, and_true]
    exact ⟨.inr, fun either => either.resolve_left fun same => here (same ▸ rfl)⟩

theorem row_of_key {keyOf : ν → κ} (found : dict.get? key = some row) (same : keyOf row = key) :
    dict.get? (keyOf row) = some row :=
  same ▸ found

theorem row_unique (keyOf : ν → κ) (left : dict.get? (keyOf first) = some first)
    (right : dict.get? (keyOf second) = some second) (same : keyOf first = keyOf second) : first = second := by
  rw [same, right] at left
  exact (Option.some.inj left).symm

@[simp] theorem get?_set_self (dict : Dict κ ν) (key : κ) (value : ν) : (dict.set key value).get? key = some value := by
  simp [get?_set]

theorem get?_set_of_ne (different : other ≠ key) : (dict.set key value).get? other = dict.get? other := by
  simp [get?_set, different]

theorem set_set (dict : Dict κ ν) (key : κ) (first second : ν) :
    (dict.set key first).set key second = dict.set key second := by
  have bound : key ∈ (dict.set key first).keys := by
    by_contra absent
    simpa using get?_eq_none_iff.mpr absent
  have overwritten : ((dict.set key first).set key second).entries =
      (dict.set key first).entries.map fun entry => if entry.1 = key then (key, second) else entry := by
    rw [set, dif_pos bound]
  apply ext_entries
  rw [overwritten]
  by_cases already : key ∈ dict.keys
  · simp only [set, dif_pos already, map_map]
    apply map_congr_left
    intro entry _
    by_cases same : entry.1 = key <;> simp [same]
  · simp only [set, dif_neg already, map_append]
    congr 1
    · nth_rewrite 2 [← map_id dict.entries]
      apply map_congr_left
      intro entry member
      have different : entry.1 ≠ key := fun same => already (same ▸ mem_map_of_mem member)
      simp [different]
    · simp

/-- A bound key keeps its place. -/
theorem entries_set_of_bound {old : ν} (bound : dict.get? key = some old) :
    ∃ front back, dict.entries = front ++ (key, old) :: back ∧
      ∀ value, (dict.set key value).entries = front ++ (key, value) :: back := by
  obtain ⟨front, back, split⟩ := append_of_mem (mem_of_get? bound)
  refine ⟨front, back, split, fun value => ?_⟩
  have distinct := dict.nodup
  rw [split, map_append, map_cons] at distinct
  have member : key ∈ dict.keys := mem_map_of_mem (mem_of_get? bound)
  have elsewhere : ∀ entry ∈ front ++ back, entry.1 ≠ key := by
    intro entry inside same
    have apart := (nodup_middle.mp distinct).notMem
    rw [← map_append] at apart
    exact apart (mem_map.mpr ⟨entry, inside, same⟩)
  have kept : ∀ part : List (κ × ν), (∀ entry ∈ part, entry.1 ≠ key) →
      part.map (fun entry => if entry.1 = key then (key, value) else entry) = part := by
    intro part apart
    nth_rewrite 2 [← map_id part]
    apply map_congr_left
    intro entry inside
    simp [apart entry inside]
  simp only [set, dif_pos member, split, map_append, map_cons, if_pos]
  rw [kept front fun entry inside => elsewhere entry (mem_append_left _ inside),
    kept back fun entry inside => elsewhere entry (mem_append_right _ inside)]

theorem set_of_get? (bound : dict.get? key = some value) : dict.set key value = dict := by
  obtain ⟨front, back, split, replaced⟩ := entries_set_of_bound bound
  exact ext_entries ((replaced value).trans split.symm)

/-- Setting every binding of a list, the first one first. -/
def setAll (dict : Dict κ ν) (bindings : List (κ × ν)) : Dict κ ν :=
  bindings.foldl (fun acc entry => acc.set entry.1 entry.2) dict

def update (dict other : Dict κ ν) : Dict κ ν := dict.setAll other.entries

@[simp] theorem setAll_nil (dict : Dict κ ν) : dict.setAll [] = dict := rfl

@[simp] theorem setAll_cons (dict : Dict κ ν) (entry : κ × ν) (rest : List (κ × ν)) :
    dict.setAll (entry :: rest) = (dict.set entry.1 entry.2).setAll rest := rfl

theorem get?_setAll_of_notMem
    (absent : key ∉ bindings.map Prod.fst) : (dict.setAll bindings).get? key = dict.get? key := by
  induction bindings generalizing dict with
  | nil => rfl
  | cons _ _ ih =>
    simp only [map_cons, mem_cons, not_or] at absent
    rw [setAll_cons, ih absent.2, get?_set_of_ne absent.1]

@[simp] theorem update_empty (dict : Dict κ ν) : dict.update empty = dict := rfl

theorem entries_setAll_of_fresh (distinct : (bindings.map Prod.fst).Nodup)
    (fresh : ∀ entry ∈ bindings, dict.get? entry.1 = none) :
    (dict.setAll bindings).entries = dict.entries ++ bindings := by
  induction bindings generalizing dict with
  | nil => simp
  | cons entry _ ih =>
    have headFresh := fresh entry (by simp)
    simp only [map_cons, nodup_cons] at distinct
    rw [setAll_cons, ih distinct.2, entries_set_of_fresh headFresh, append_assoc]
    · rfl
    · intro other member
      rw [get?_set_of_ne]
      · exact fresh other (by simp [member])
      · intro same
        exact distinct.1 (same ▸ mem_map_of_mem member)

theorem update_singleton (key : κ) (value : ν) : dict.update (empty.set key value) = dict.set key value := rfl

/-! Sums over the bindings -/

theorem sum_map_filter_of_zero {items : List α} {weight : α → Int}
    (dropped : ∀ item ∈ items, keep item = false → weight item = 0) :
    (items.map weight).sum = ((items.filter keep).map weight).sum := by
  induction items with
  | nil => rfl
  | cons item _ ih =>
    have tail := ih fun other member => dropped other (by simp [member])
    cases kept : keep item with
    | true => simp [kept, tail]
    | false => simp [kept, tail, dropped item (by simp) kept]

theorem sum_map_lookup (dict : Dict κ ν) (keys : List κ) (weight : κ → ν → Int) :
    (keys.map fun key => ((dict.get? key).map (weight key)).getD 0).sum =
      ((keys.filterMap fun key => (dict.get? key).map (key, ·)).map fun entry => weight entry.1 entry.2).sum := by
  induction keys with
  | nil => rfl
  | cons key _ ih =>
    cases found : dict.get? key with
    | none | some => simp [found, ih]

/-- A sum over the bindings, when only those of the given keys count. -/
theorem sum_entries (dict : Dict κ ν) {keys : List κ} (distinct : keys.Nodup) (weight : κ → ν → Int)
    (outside : ∀ key value, (key, value) ∈ dict.entries → key ∉ keys → weight key value = 0) :
    (dict.entries.map fun entry => weight entry.1 entry.2).sum =
      (keys.map fun key => ((dict.get? key).map (weight key)).getD 0).sum := by
  have permuted : (dict.entries.filter fun entry => entry.1 ∈ keys).Perm
      (keys.filterMap fun key => (dict.get? key).map (key, ·)) := by
    rw [perm_ext_iff_of_nodup]
    · intro entry
      obtain ⟨key, value⟩ := entry
      simp only [mem_filter, mem_filterMap, Option.map_eq_some_iff, Prod.mk.injEq, decide_eq_true_eq]
      constructor
      · intro listed
        exact ⟨key, listed.2, value, get?_of_mem listed.1, rfl, rfl⟩
      · intro found
        obtain ⟨_, inside, _, read, rfl, rfl⟩ := found
        exact ⟨mem_of_get? read, inside⟩
    · exact (List.Nodup.of_map _ dict.nodup).filter _
    · refine distinct.filterMap ?_
      intro left right entry leftFound rightFound
      simp only [Option.mem_def, Option.map_eq_some_iff] at leftFound rightFound
      obtain ⟨_, _, rfl⟩ := leftFound
      obtain ⟨_, _, same⟩ := rightFound
      exact (congrArg Prod.fst same).symm
  calc
    (dict.entries.map fun entry => weight entry.1 entry.2).sum =
        ((dict.entries.filter fun entry => entry.1 ∈ keys).map fun entry => weight entry.1 entry.2).sum := by
      apply sum_map_filter_of_zero
      intro entry member skipped
      exact outside entry.1 entry.2 member (by simpa using skipped)
    _ = ((keys.filterMap fun key => (dict.get? key).map (key, ·)).map fun entry => weight entry.1 entry.2).sum :=
      (permuted.map _).sum_eq
    _ = _ := (sum_map_lookup dict keys weight).symm

end Dict

end BdPay.Data
