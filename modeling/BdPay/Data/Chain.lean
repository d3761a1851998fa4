import Mathlib

namespace BdPay.Data.Chain

open List

/-! Numbered chains of rows in which every row carries the hash of the one before it. -/

variable {ρ δ : Type} (index : ρ → Int) (prev hash : ρ → δ)

/-- Rows numbered upward from `next`, each linked to the hash in front of it. -/
def Linked : Int → δ → List ρ → Prop
  | _, _, [] => True
  | next, last, row :: rest => index row = next ∧ prev row = last ∧ Linked (next + 1) (hash row) rest

/-- The hash the next row has to be linked to. -/
def tip (start : δ) : List ρ → δ
  | [] => start
  | row :: rest => tip (hash row) rest

variable {index prev hash} {next : Int} {start : δ}

theorem linked_append : Linked index prev hash next start (left ++ right) ↔ Linked index prev hash next start left ∧
        Linked index prev hash (next + left.length) (tip hash start left) right := by
  induction left generalizing next start with
  | nil => simp [Linked, tip]
  | cons _ rest ih =>
    simp only [cons_append, Linked, tip, ih, length_cons, and_assoc]
    have shift : next + 1 + (rest.length : Int) = next + ((rest.length + 1 : Nat) : Int) := by omega
    rw [shift]

theorem tip_append : tip hash start (left ++ right) = tip hash (tip hash start left) right := by
  induction left generalizing start with
  | nil => rfl
  | cons _ _ ih => exact ih

variable {rows : List ρ} {row : ρ}

theorem tip_concat : tip hash start (rows ++ [row]) = hash row := by
  rw [tip_append]
  rfl

section

variable (linked : Linked index prev hash next start rows)
include linked

theorem Linked.index_mem (member : row ∈ rows) : next ≤ index row ∧ index row < next + rows.length := by
  induction rows generalizing next start with
  | nil => simp at member
  | cons _ _ ih =>
    obtain ⟨numbered, -, tail⟩ := linked
    rcases mem_cons.mp member with rfl | inside
    · simp only [length_cons]
      omega
    · have bounds := ih tail inside
      simp only [length_cons]
      omega

theorem Linked.prev_mem (member : row ∈ rows) : prev row = start ∨ ∃ other ∈ rows, prev row = hash other := by
  induction rows generalizing next start with
  | nil => simp at member
  | cons first _ ih =>
    obtain ⟨-, linkedTo, tail⟩ := linked
    rcases mem_cons.mp member with rfl | inside
    · exact .inl linkedTo
    · rcases ih tail inside with atFirst | ⟨other, earlier, same⟩
      · exact .inr ⟨first, by simp, atFirst⟩
      · exact .inr ⟨other, by simp [earlier], same⟩

theorem Linked.pairwise : rows.Pairwise fun earlier later => index earlier < index later := by
  induction rows generalizing next start with
  | nil => exact List.Pairwise.nil
  | cons _ _ ih =>
    obtain ⟨numbered, -, tail⟩ := linked
    refine List.Pairwise.cons ?_ (ih tail)
    intro later inside
    have bounds := tail.index_mem inside
    omega

theorem Linked.filter_ge (first : Int) :
    rows.filter (fun row => first ≤ index row) = rows.drop (first - next).toNat := by
  induction rows generalizing next start with
  | nil => simp
  | cons row rest ih =>
    have ⟨numbered, _, tail⟩ := linked
    by_cases inside : first ≤ next
    · have everything : ∀ other ∈ row :: rest, decide (first ≤ index other) = true := by
        intro other member
        have bounds := linked.index_mem member
        simp only [decide_eq_true_eq]
        omega
      rw [filter_eq_self.mpr everything, Int.toNat_of_nonpos (by omega), drop_zero]
    · have skipped : (first - next).toNat = (first - (next + 1)).toNat + 1 := by omega
      rw [skipped, drop_succ_cons, ← ih tail, filter_cons_of_neg]
      simp only [numbered, decide_eq_true_eq]
      exact inside

theorem Linked.filter_le (last : Int) :
    rows.filter (fun row => index row ≤ last) = rows.take (last + 1 - next).toNat := by
  induction rows generalizing next start with
  | nil => simp
  | cons row rest ih =>
    have ⟨numbered, _, tail⟩ := linked
    by_cases inside : next ≤ last
    · have kept : (last + 1 - next).toNat = (last + 1 - (next + 1)).toNat + 1 := by omega
      rw [kept, take_succ_cons, ← ih tail, filter_cons_of_pos]
      simp only [numbered, decide_eq_true_eq]
      exact inside
    · have nothing : ∀ other ∈ row :: rest, ¬ decide (index other ≤ last) = true := by
        intro other member
        have bounds := linked.index_mem member
        simp only [decide_eq_true_eq]
        omega
      rw [filter_eq_nil_iff.mpr nothing, Int.toNat_of_nonpos (by omega), take_zero]

theorem Linked.drop (count : Nat) (within : count ≤ rows.length) :
    Linked index prev hash (next + count) (tip hash start (rows.take count)) (rows.drop count) := by
  have split : Linked index prev hash next start (rows.take count ++ rows.drop count) := by
    rwa [take_append_drop]
  have rest := (linked_append.mp split).2
  rwa [length_take, Nat.min_eq_left within] at rest

theorem Linked.take (count : Nat) : Linked index prev hash next start (rows.take count) := by
  have split : Linked index prev hash next start (rows.take count ++ rows.drop count) := by
    rwa [take_append_drop]
  exact (linked_append.mp split).1

theorem Linked.index_getElem (position : Nat) (within : position < rows.length) :
    index rows[position] = next + position := by
  have rest := linked.drop position (by omega)
  rw [drop_eq_getElem_cons within] at rest
  exact rest.1

end

theorem tip_take_succ (position : Nat) (within : position < rows.length) :
    tip hash start (rows.take (position + 1)) = hash rows[position] := by
  rw [← take_append_getElem within, tip_concat]

/-- Commitment: when a hash determines what its row shows and the hash before it,
two chains of one length that end in the same hash show the same, row by row. -/
theorem view_eq_of_tip_eq (leftLinked : Linked index prev hash leftNext leftStart left)
    (rightLinked : Linked index prev hash rightNext rightStart right) (length : left.length = right.length)
    (binding : ∀ first ∈ left, ∀ second ∈ right, hash first = hash second →
      view first = view second ∧ prev first = prev second)
    (tips : tip hash leftStart left = tip hash rightStart right) :
    left.map view = right.map view ∧ leftStart = rightStart := by
  induction left using reverseRecOn generalizing right with
  | nil =>
    obtain rfl := length_eq_zero_iff.mp length.symm
    exact ⟨rfl, tips⟩
  | append_singleton front last ih =>
    rcases eq_nil_or_concat' right with rfl | ⟨others, final, rfl⟩
    · simp at length
    · rw [tip_concat, tip_concat] at tips
      obtain ⟨shown, linkedTo⟩ := binding last (by simp) final (by simp) tips
      obtain ⟨frontLinked, lastLinked⟩ := linked_append.mp leftLinked
      obtain ⟨othersLinked, finalLinked⟩ := linked_append.mp rightLinked
      have before : tip hash leftStart front = tip hash rightStart others := by
        rw [← lastLinked.2.1, ← finalLinked.2.1]
        exact linkedTo
      obtain ⟨fronts, starts⟩ := ih frontLinked othersLinked (by simpa using length)
        (fun first inFront second inOthers => binding first (by simp [inFront]) second (by simp [inOthers])) before
      exact ⟨by simp [fronts, shown], starts⟩

end BdPay.Data.Chain
