import OneUnknown.Proofs.Number.TotalOrder
import OneUnknown.RealRoots

/-!
# Distinct roots

Roots are taken one after the other, and a root is kept unless it is too near to one that has been
kept before. What is decided of a root depends on all decisions before it, so the outcome is
described by the places of the roots that are kept.

* `IsWithin`: two numbers are as near as the tolerance allows;
* `marked`: the entries of a list in the places that are marked;
* **`KeepsGreedily`**: which places are marked;
* `keepApart_concat`, `exists_keepsGreedily`: one root more, and all roots;
* **`distinctRoots_greedy`**: the distinct roots are the rounded roots that are kept, in ascending
  order.
-/

namespace OneUnknown

/-! ## Places -/

/-- Two numbers are no farther apart than the tolerance. What is no number is near to nothing. -/
def IsWithin (tolerance a r : Float) : Prop := (a - r).abs ≤ tolerance

/-- **The entries in the marked places**, counted from zero. -/
def marked (kept : Nat → Bool) (roots : List Float) : List Float :=
  (roots.zipIdx.filter fun (_, i) => kept i).map (·.1)

/-- **The places of roots that are kept one after the other**: whatever is left out is near to
something that is kept before it, and what is kept is near to nothing that is kept before it. -/
structure KeepsGreedily (tolerance : Float) (roots : List Float) (kept : Nat → Bool) : Prop where
  covered : ∀ j (hj : j < roots.length), kept j = false →
    ∃ i, ∃ hi : i < j, kept i = true ∧ IsWithin tolerance roots[i] roots[j]
  apart : ∀ i j (hij : i < j) (hj : j < roots.length), kept i = true → kept j = true →
    ¬ IsWithin tolerance roots[i] roots[j]

section Marked

variable {kept kept' : Nat → Bool} {roots : List Float} {r : Float}

theorem marked_sublist (kept : Nat → Bool) (roots : List Float) :
    (marked kept roots).Sublist roots := by
  have h := (List.filter_sublist (l := roots.zipIdx) (p := fun (_, i) => kept i)).map Prod.fst
  rwa [List.zipIdx_map_fst] at h

theorem marked_concat : marked kept (roots ++ [r]) =
    marked kept roots ++ if kept roots.length then [r] else [] := by
  simp only [marked, List.zipIdx_append, List.filter_append, List.map_append, Nat.zero_add]
  congr 1
  cases h : kept roots.length <;> simp [h]

theorem marked_congr (h : ∀ i < roots.length, kept i = kept' i) :
    marked kept roots = marked kept' roots := by
  unfold marked
  congr 1
  refine List.filter_congr fun ⟨a, i⟩ ha => ?_
  exact h i (by simpa using (List.mem_zipIdx ha).2.1)

theorem mem_marked : r ∈ marked kept roots ↔
    ∃ i, ∃ hi : i < roots.length, kept i = true ∧ roots[i] = r := by
  simp only [marked, List.mem_map, List.mem_filter, Prod.exists, List.mk_mem_zipIdx_iff_getElem?,
    List.getElem?_eq_some_iff]
  constructor
  · rintro ⟨a, i, ⟨⟨hi, rfl⟩, hkept⟩, rfl⟩
    exact ⟨i, hi, hkept, rfl⟩
  · rintro ⟨i, hi, hkept, rfl⟩
    exact ⟨_, i, ⟨⟨hi, rfl⟩, hkept⟩, rfl⟩

end Marked

/-! ## One root after the other -/

section Greedy

variable {tolerance r : Float} {kept : Nat → Bool} {roots : List Float}

/-- A further root is kept if nothing that has been kept is near to it. -/
theorem keepApart_concat (tolerance : Float) (first roots : List Float) (r : Float) :
    keepApart tolerance first (roots ++ [r]) =
      if (keepApart tolerance first roots).any fun a => (a - r).abs ≤ tolerance then
        keepApart tolerance first roots
      else keepApart tolerance first roots ++ [r] := by
  induction roots generalizing first with
  | nil => rfl
  | cons x roots ih =>
    simp only [List.cons_append, keepApart]
    split
    · exact ih first
    · exact ih (first ++ [x])

theorem KeepsGreedily.concat (h : KeepsGreedily tolerance roots kept) {last : Bool}
    (hlast : last = true ↔ ∀ a ∈ marked kept roots, ¬ IsWithin tolerance a r) :
    KeepsGreedily tolerance (roots ++ [r]) (Function.update kept roots.length last) := by
  have hold : ∀ {i}, i < roots.length → Function.update kept roots.length last i = kept i :=
    fun hi => Function.update_of_ne (Nat.ne_of_lt hi) _ _
  have hnew : Function.update kept roots.length last roots.length = last :=
    Function.update_self _ _ _
  refine ⟨fun j hj hkept => ?_, fun i j hij hj hi hkept => ?_⟩
  · rcases Nat.lt_or_ge j roots.length with hlt | hge
    · rw [hold hlt] at hkept
      obtain ⟨i, hij, hi, hnear⟩ := h.covered j hlt hkept
      refine ⟨i, hij, (hold (Nat.lt_trans hij hlt)).trans hi, ?_⟩
      rwa [List.getElem_append_left, List.getElem_append_left]
    · obtain rfl : j = roots.length := by
        simp only [List.length_append, List.length_singleton] at hj
        omega
      rw [hnew] at hkept
      obtain ⟨a, ha, hnear⟩ : ∃ a ∈ marked kept roots, IsWithin tolerance a r := by
        simpa [hkept] using hlast
      obtain ⟨i, hi, hmark, rfl⟩ := mem_marked.mp ha
      refine ⟨i, hi, (hold hi).trans hmark, ?_⟩
      rwa [List.getElem_append_left hi, List.getElem_concat_length rfl]
  · have hilt : i < roots.length := by
      simp only [List.length_append, List.length_singleton] at hj
      omega
    rw [hold hilt] at hi
    rw [List.getElem_append_left hilt]
    rcases Nat.lt_or_ge j roots.length with hlt | hge
    · rw [hold hlt] at hkept
      rw [List.getElem_append_left hlt]
      exact h.apart i j hij hlt hi hkept
    · obtain rfl : j = roots.length := by
        simp only [List.length_append, List.length_singleton] at hj
        omega
      rw [hnew] at hkept
      rw [List.getElem_concat_length rfl]
      exact hlast.mp hkept _ (mem_marked.mpr ⟨i, hilt, hi, rfl⟩)

/-- **All roots**, by induction on them from the end: what is decided of a root depends on the roots
before it alone. -/
theorem exists_keepsGreedily (tolerance : Float) (roots : List Float) :
    ∃ kept, KeepsGreedily tolerance roots kept ∧
      keepApart tolerance [] roots = marked kept roots := by
  induction roots using List.reverseRecOn with
  | nil => exact ⟨fun _ => false, ⟨by simp, by simp⟩, rfl⟩
  | append_singleton roots r ih =>
    obtain ⟨kept, hkept, heq⟩ := ih
    obtain ⟨near, hnear⟩ :
        ∃ near, (marked kept roots).any (fun a => (a - r).abs ≤ tolerance) = near := ⟨_, rfl⟩
    have hlast : (!near) = true ↔ ∀ a ∈ marked kept roots, ¬ IsWithin tolerance a r := by
      simp [← hnear, IsWithin]
    refine ⟨Function.update kept roots.length !near, hkept.concat hlast, ?_⟩
    have hmarked : marked (Function.update kept roots.length !near) roots = marked kept roots :=
      marked_congr fun i hi => Function.update_of_ne (Nat.ne_of_lt hi) _ _
    rw [keepApart_concat, heq, hnear, marked_concat, hmarked, Function.update_self]
    cases near with
    | false => rfl
    | true => exact (List.append_nil _).symm

theorem KeepsGreedily.first (h : KeepsGreedily tolerance roots kept) (hne : roots ≠ []) :
    kept 0 = true := by
  by_contra hnot
  obtain ⟨i, hi, -⟩ := h.covered 0 (List.length_pos_iff.mpr hne) (by simpa using hnot)
  exact Nat.not_lt_zero i hi

end Greedy

/-! ## Distinct roots -/

theorem distinctRoots_perm (tolerance : Float) (places : Nat) (roots : List Float) :
    (distinctRoots tolerance places roots).Perm
      (keepApart tolerance [] (roots.map (roundTo places))) :=
  List.mergeSort_perm _ _

theorem distinctRoots_ascending (tolerance : Float) (places : Nat) (roots : List Float) :
    (distinctRoots tolerance places roots).Pairwise InTotalOrder := by
  have htrans : ∀ x y z : Float, decide (totalKey x ≤ totalKey y) = true →
      decide (totalKey y ≤ totalKey z) = true → decide (totalKey x ≤ totalKey z) = true := by
    intro x y z hxy hyz
    simp only [decide_eq_true_eq] at *
    omega
  have htotal : ∀ x y : Float,
      (decide (totalKey x ≤ totalKey y) || decide (totalKey y ≤ totalKey x)) = true := by
    intro x y
    simp only [Bool.or_eq_true, decide_eq_true_eq]
    omega
  have hsorted := List.pairwise_mergeSort htrans htotal
    (keepApart tolerance [] (roots.map (roundTo places)))
  exact hsorted.imp fun h => totalKey_le_iff.mp (of_decide_eq_true h)

section Members

variable {tolerance : Float} {places : Nat} {roots : List Float} {r v : Float}

theorem exists_of_mem_distinctRoots (h : v ∈ distinctRoots tolerance places roots) :
    ∃ r ∈ roots, v = roundTo places r := by
  obtain ⟨kept, -, heq⟩ := exists_keepsGreedily tolerance (roots.map (roundTo places))
  rw [(distinctRoots_perm tolerance places roots).mem_iff, heq] at h
  obtain ⟨r, hr, rfl⟩ := List.mem_map.mp ((marked_sublist _ _).subset h)
  exact ⟨r, hr, rfl⟩

/-- A root is among the distinct ones, or something near to it is. -/
theorem exists_mem_distinctRoots (hr : r ∈ roots) : ∃ v ∈ distinctRoots tolerance places roots,
    v = roundTo places r ∨ IsWithin tolerance v (roundTo places r) := by
  obtain ⟨kept, hkept, heq⟩ := exists_keepsGreedily tolerance (roots.map (roundTo places))
  obtain ⟨j, hj, hget⟩ := List.getElem_of_mem (List.mem_map_of_mem (f := roundTo places) hr)
  simp only [(distinctRoots_perm tolerance places roots).mem_iff, heq]
  cases hmark : kept j with
  | true => exact ⟨_, mem_marked.mpr ⟨j, hj, hmark, hget⟩, .inl rfl⟩
  | false =>
    obtain ⟨i, hi, hmark', hnear⟩ := hkept.covered j hj hmark
    exact ⟨_, mem_marked.mpr ⟨i, Nat.lt_trans hi hj, hmark', rfl⟩, .inr (hget ▸ hnear)⟩

theorem roundTo_mem_distinctRoots (tolerance : Float) (places : Nat) (r : Float)
    (roots : List Float) : roundTo places r ∈ distinctRoots tolerance places (r :: roots) := by
  obtain ⟨kept, hkept, heq⟩ := exists_keepsGreedily tolerance ((r :: roots).map (roundTo places))
  rw [(distinctRoots_perm tolerance places (r :: roots)).mem_iff, heq]
  exact mem_marked.mpr ⟨0, by simp, hkept.first (by simp), rfl⟩

theorem distinctRoots_nil (tolerance : Float) (places : Nat) :
    distinctRoots tolerance places [] = [] := by
  simp [distinctRoots, keepApart]

theorem distinctRoots_singleton (tolerance : Float) (places : Nat) (r : Float) :
    distinctRoots tolerance places [r] = [roundTo places r] := by
  simp [distinctRoots, keepApart]

end Members

/-- **The distinct roots are the rounded roots that are kept one after the other**, in ascending
order, and the first one is always kept. -/
theorem distinctRoots_greedy (tolerance : Float) (places : Nat) (roots : List Float) :
    ∃ kept : Nat → Bool, KeepsGreedily tolerance (roots.map (roundTo places)) kept ∧
      (marked kept (roots.map (roundTo places))).Sublist (roots.map (roundTo places)) ∧
      (distinctRoots tolerance places roots).Perm (marked kept (roots.map (roundTo places))) ∧
      (distinctRoots tolerance places roots).Pairwise InTotalOrder ∧
      (roots ≠ [] → kept 0 = true) := by
  obtain ⟨kept, hkept, heq⟩ := exists_keepsGreedily tolerance (roots.map (roundTo places))
  refine ⟨kept, hkept, marked_sublist _ _, ?_, distinctRoots_ascending _ _ _, fun hne => ?_⟩
  · rw [← heq]
    exact distinctRoots_perm tolerance places roots
  · exact hkept.first (by simpa using hne)

end OneUnknown
