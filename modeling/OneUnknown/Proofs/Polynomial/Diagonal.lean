import Mathlib.Data.List.NatAntidiagonal
import OneUnknown.Polynomial.Dense
import OneUnknown.Proofs.Polynomial.Degree

/-!
# The diagonals of a product

At every power the coefficient of a product is a sum along a diagonal: of the products of those
coefficients whose powers add up to it. Two nested loops that add in place pass through all
diagonals at once. Still each sum takes its products one at a time, by ascending power of the
first factor.

* **`diagonal`**, `mem_diagonal`, `pairwise_diagonal`: the pairs of powers on a diagonal;
* `diagonalTerms`, **`getD_convolve`**: the sums, one coefficient of the first factor at a time;
* `addRow_window`, `foldl_addRow`, **`products_append_zero`**: the loops change a window of the
  vector, which moves on by one entry at a time;
* **`getD_products`**: what the loops leave at every index.
-/

namespace OneUnknown.Dense

open OneUnknown.Polynomial (convolve exists_convolve_step)

variable {K : Type}

/-! ## Diagonals -/

section Diagonal

variable {m n k i j : Nat}

/-- **The pairs of powers that add up to `k`**, by ascending power of the first factor, for
factors with `m` and `n` coefficients. -/
def diagonal (m n k : Nat) : List (Nat × Nat) :=
  (List.Nat.antidiagonal k).filter fun t => t.1 < m && t.2 < n

theorem mem_diagonal : (i, j) ∈ diagonal m n k ↔ i < m ∧ j < n ∧ i + j = k := by
  simp only [diagonal, List.mem_filter, List.Nat.mem_antidiagonal, Bool.and_eq_true,
    decide_eq_true_eq]
  tauto

theorem pairwise_diagonal (m n k : Nat) : (diagonal m n k).Pairwise (·.1 < ·.1) := by
  refine List.Pairwise.filter _ ?_
  rw [List.Nat.antidiagonal, List.pairwise_map]
  exact List.pairwise_lt_range

theorem diagonal_zero (m : Nat) (hn : 0 < n) : diagonal (m + 1) n 0 = [(0, 0)] := by
  simp [diagonal, hn]

theorem diagonal_succ (m n k : Nat) : diagonal (m + 1) n (k + 1) =
    (if k + 1 < n then [(0, k + 1)] else []) ++
      (diagonal m n k).map (Prod.map Nat.succ id) := by
  rw [diagonal, List.Nat.antidiagonal_succ, List.filter_cons, List.filter_map]
  have hrest : ((fun t : Nat × Nat => decide (t.1 < m + 1) && decide (t.2 < n)) ∘
      Prod.map Nat.succ id) = fun t => decide (t.1 < m) && decide (t.2 < n) := by
    funext t
    simp
  rw [hrest, ← diagonal]
  by_cases hk : k + 1 < n <;> simp [hk]

end Diagonal

/-! ## Sums along the diagonals -/

section Terms

variable [Zero K] [Mul K]

/-- The products on a diagonal. -/
def diagonalTerms (cs ds : List K) (k : Nat) : List K :=
  (diagonal cs.length ds.length k).map fun t => cs.getD t.1 0 * ds.getD t.2 0

theorem diagonalTerms_zero (c : K) (cs : List K) {ds : List K} (hds : 0 < ds.length) :
    diagonalTerms (c :: cs) ds 0 = [c * ds.getD 0 0] := by
  rw [diagonalTerms, List.length_cons, diagonal_zero _ hds]
  rfl

theorem diagonalTerms_succ (c : K) (cs ds : List K) (k : Nat) : diagonalTerms (c :: cs) ds (k + 1) =
    (if k + 1 < ds.length then [c * ds.getD (k + 1) 0] else []) ++ diagonalTerms cs ds k := by
  rw [diagonalTerms, List.length_cons, diagonal_succ, List.map_append, List.map_map, diagonalTerms]
  congr 1
  split <;> rfl

theorem diagonalTerms_eq_nil {cs ds : List K} (h : cs = [] ∨ ds = []) (k : Nat) :
    diagonalTerms cs ds k = [] := by
  rcases h with rfl | rfl <;> simp [diagonalTerms, diagonal]

omit [Mul K] in
theorem getD_append_zero (cs : List K) (k : Nat) : (cs ++ [0]).getD k 0 = cs.getD k 0 := by
  rcases Nat.lt_or_ge k cs.length with h | h
  · exact List.getD_append _ _ _ _ h
  · rw [List.getD_append_right _ _ _ _ h, List.getD_eq_default cs _ h]
    rcases k - cs.length with _ | _ <;> rfl

/-- **Convolution sums along the diagonals**, starting from the sums at hand. -/
theorem getD_convolve [Add K] {sums ds : List K} (hsums : sums.length = ds.length)
    (hds : 0 < ds.length) (cs : List K) (k : Nat) : (convolve ds sums cs).getD k 0 =
      (diagonalTerms cs ds k).foldl (· + ·) (sums.getD k 0) := by
  induction cs generalizing sums k with
  | nil => simp [convolve, diagonalTerms, diagonal]
  | cons c cs ih =>
    obtain ⟨sum, later, hzip, hstored, hlength⟩ := exists_convolve_step hsums hds c cs
    -- The present coefficient adds one product to every sum that has room for it.
    have hstep (i : Nat) : (sum :: later).getD i 0 =
        if i < ds.length then sums.getD i 0 + c * ds.getD i 0 else 0 := by
      rw [← hzip]
      split
      · rename_i hi
        simp [List.getD_eq_getElem?_getD, hsums, hi]
      · rename_i hi
        exact List.getD_eq_default _ _ (by simpa [hsums] using hi)
    rw [hstored]
    cases k with
    | zero =>
      rw [diagonalTerms_zero c cs hds]
      exact (hstep 0).trans (if_pos hds)
    | succ k =>
      have hshift : (later ++ [0]).getD k 0 = (sum :: later).getD (k + 1) 0 := by
        rw [getD_append_zero, List.getD_cons_succ]
      rw [List.getD_cons_succ, ih (by simpa using hlength), hshift, hstep, diagonalTerms_succ,
        List.foldl_append]
      split
      · rfl
      · rename_i hk
        rw [List.getD_eq_default sums _ (by omega)]
        rfl

end Terms

/-! ## The loops -/

section Window

theorem modify_length_append (f : K → K) (front : List K) (sum : K) (rest : List K) :
    (front ++ sum :: rest).modify front.length f = front ++ f sum :: rest := by
  induction front with
  | nil => rfl
  | cons c front ih => rw [List.cons_append, List.length_cons, List.modify_succ_cons, ih,
      List.cons_append]

variable [Add K] [Mul K] (a : K)

/-- A row of products goes into a window of the vector, which begins where the inner loop does. -/
theorem foldl_modify_window (i j : Nat) {front window back ds : List K}
    (hfront : front.length = i + j) (hwindow : window.length = ds.length) :
    (ds.zipIdx j).foldl (fun sums (d, j) => sums.modify (i + j) (· + a * d))
        (front ++ window ++ back) =
      front ++ List.zipWith (fun sum d => sum + a * d) window ds ++ back := by
  induction ds generalizing j front window with
  | nil =>
    obtain rfl := List.eq_nil_of_length_eq_zero hwindow
    simp
  | cons d ds ih =>
    obtain ⟨sum, window, rfl⟩ := List.exists_cons_of_length_eq_add_one hwindow
    have hmodify : (front ++ (sum :: window) ++ back).modify (i + j) (· + a * d) =
        (front ++ [sum + a * d]) ++ window ++ back := by
      rw [← hfront, List.append_assoc, List.cons_append, modify_length_append]
      simp
    rw [List.zipIdx_cons, List.foldl_cons]
    dsimp only
    rw [hmodify, ih (j + 1) (by simp [hfront]; omega) (by simpa using hwindow)]
    simp

theorem addRow_window {front window back ds : List K} (h : window.length = ds.length) :
    addRow ds (front ++ window ++ back) a front.length =
      front ++ List.zipWith (fun sum d => sum + a * d) window ds ++ back :=
  foldl_modify_window a front.length 0 rfl h

theorem length_addRow (ds sums : List K) (i : Nat) :
    (addRow ds sums a i).length = sums.length :=
  List.foldlRecOn (motive := fun row : List K => row.length = sums.length) _ _ rfl
    fun _ hrow _ _ => (List.length_modify _ _ _).trans hrow

end Window

section Products

variable [Zero K] [Add K] [Mul K]

/-- **The window moves on by one entry at a time.** What it leaves behind is a coefficient of the
product, and what it comes to is zero. -/
theorem foldl_addRow {front sums ds : List K} (hsums : sums.length = ds.length)
    (hds : 0 < ds.length) (c : K) (cs : List K) :
    ((c :: cs).zipIdx front.length).foldl (fun sums (a, i) => addRow ds sums a i)
        (front ++ sums ++ List.replicate cs.length 0) ++ [0] =
      front ++ convolve ds sums (c :: cs) := by
  induction cs generalizing front sums c with
  | nil =>
    obtain ⟨sum, later, hzip, hstep, -⟩ := exists_convolve_step hsums hds c []
    rw [List.zipIdx_cons, List.zipIdx_nil, List.foldl_cons, List.foldl_nil]
    dsimp only
    rw [addRow_window c hsums, hzip, hstep, convolve]
    simp
  | cons b cs ih =>
    obtain ⟨sum, later, hzip, hstep, hlater⟩ := exists_convolve_step hsums hds c (b :: cs)
    have hmoved : front ++ sum :: later ++ List.replicate (b :: cs).length 0 =
        (front ++ [sum]) ++ (later ++ [0]) ++ List.replicate cs.length 0 := by
      simp [List.replicate_succ]
    have hfront : front.length + 1 = (front ++ [sum]).length := by simp
    rw [List.zipIdx_cons, List.foldl_cons]
    dsimp only
    rw [addRow_window c hsums, hzip, hmoved, hfront, ih (by simpa using hlater) b, hstep]
    simp

/-- **The loops and the convolution agree**, which yields a zero beyond the last sum. -/
theorem products_append_zero {cs ds : List K} (hcs : 0 < cs.length) (hds : 0 < ds.length) :
    products cs ds ++ [0] = convolve ds (List.replicate ds.length 0) cs := by
  obtain ⟨c, cs, rfl⟩ := List.exists_cons_of_length_pos hcs
  have hsums := List.length_replicate (n := ds.length) (a := (0 : K))
  have hsplit : List.replicate ((c :: cs).length + ds.length - 1) (0 : K) =
      [] ++ List.replicate ds.length 0 ++ List.replicate cs.length 0 := by
    rw [List.nil_append, List.replicate_append_replicate]
    congr 1
    rw [List.length_cons]
    omega
  rw [products, hsplit]
  exact foldl_addRow hsums hds c cs

theorem length_products (cs ds : List K) :
    (products cs ds).length = cs.length + ds.length - 1 :=
  List.foldlRecOn (motive := fun sums : List K => sums.length = cs.length + ds.length - 1) _ _
    List.length_replicate fun _ hsums _ _ => (length_addRow _ _ _ _).trans hsums

theorem products_eq_replicate {cs ds : List K} (h : cs = [] ∨ ds = []) :
    products cs ds = List.replicate (cs.length + ds.length - 1) 0 := by
  rcases h with rfl | rfl
  · rfl
  · exact List.foldlRecOn (motive := (· = _)) _ _ rfl fun _ hsums _ _ => hsums

/-- **What the loops leave at every index**: a sum that starts from zero and takes the products on
the diagonal one after another. -/
theorem getD_products (cs ds : List K) (k : Nat) :
    (products cs ds).getD k 0 = (diagonalTerms cs ds k).foldl (· + ·) 0 := by
  have hzero (n : Nat) : (List.replicate n (0 : K)).getD k 0 = 0 := by
    rw [List.getD_eq_getElem?_getD, List.getElem?_replicate]
    split <;> rfl
  by_cases hempty : cs = [] ∨ ds = []
  · rw [products_eq_replicate hempty, hzero, diagonalTerms_eq_nil hempty]
    rfl
  · rw [not_or] at hempty
    have hcs := List.length_pos_iff.mpr hempty.1
    have hds := List.length_pos_iff.mpr hempty.2
    rw [← getD_append_zero, products_append_zero hcs hds, getD_convolve List.length_replicate hds,
      hzero]

end Products

end OneUnknown.Dense
