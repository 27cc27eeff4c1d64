import OneUnknown.Polynomial

/-!
# Polynomials in place

The arithmetic of polynomials may also be done on plain vectors of coefficients, which no type
keeps trimmed. An operation sets up a vector long enough for its result, changes the entries one
at a time, and pops the zeros off the end of the vector. Nothing but this keeps a vector trimmed.

* `popZeros`: the loop that trims a vector;
* `constant`, `monomial`, `combine`, `add`, `sub`, `scale`, `neg`: vectors with an entry for every
  power;
* `addRow`, `products`, **`mul`**: products by two nested loops;
* `powLoop`, **`pow`**: powers by repeated squaring;
* `splitZeroRoots`: the power of the unknown that divides a polynomial;
* `evaluate`, `evaluateDerivative`: folds over the reversed vector.
-/

namespace OneUnknown.Dense

variable {K : Type} [Zero K] [BEq K]

/-! ## Trimming -/

/-- The last entry is popped as long as it tests as zero. -/
def popZeros (cs : List K) : List K :=
  if cs.getLast?.any (· == 0) then popZeros cs.dropLast else cs
termination_by cs.length
decreasing_by
  rename_i h
  have : cs ≠ [] := by
    rintro rfl
    simp at h
  have := List.length_pos_iff.mpr this
  rw [List.length_dropLast]
  omega

/-! ## One entry for every power -/

/-- A constant polynomial. -/
def constant (c : K) : List K := popZeros [c]

/-- `c · x ^ degree`. -/
def monomial (c : K) (degree : Nat) : List K :=
  popZeros ((List.replicate (degree + 1) 0).set degree c)

/-- An operation at every index of either vector. -/
def combine (op : K → K → K) (cs ds : List K) : List K :=
  popZeros ((List.range (max cs.length ds.length)).map fun i => op (cs.getD i 0) (ds.getD i 0))

/-- The sum. -/
def add [Add K] (cs ds : List K) : List K := combine (· + ·) cs ds

/-- The difference. -/
def sub [Sub K] (cs ds : List K) : List K := combine (· - ·) cs ds

/-- Every entry times a number. -/
def scale [Mul K] (cs : List K) (k : K) : List K := popZeros (cs.map (· * k))

/-- The negative, as the product with minus one. -/
def neg [One K] [Neg K] [Mul K] (cs : List K) : List K := scale cs (-1)

/-- The greatest power of the unknown that divides the polynomial, and the other factor. A vector
that is not cut is left as it is. -/
def splitZeroRoots (cs : List K) : Nat × List K :=
  let k := (cs.takeWhile (· == 0)).length
  if k == 0 || cs.isEmpty then (0, cs) else (k, popZeros (cs.drop k))

/-! ## Products and powers -/

section Product

variable [Add K] [Mul K]

/-- **The inner loop.** The products of `a`, the entry at `i` of one factor, with all entries of
the other: each is added in place, at the sum of the two indices. -/
def addRow (ds sums : List K) (a : K) (i : Nat) : List K :=
  ds.zipIdx.foldl (fun sums (b, j) => sums.modify (i + j) (· + a * b)) sums

/-- **The outer loop**, which starts from zeros. -/
def products (cs ds : List K) : List K :=
  cs.zipIdx.foldl (fun sums (a, i) => addRow ds sums a i)
    (List.replicate (cs.length + ds.length - 1) 0)

/-- **The product.** -/
def mul (cs ds : List K) : List K :=
  if cs.isEmpty || ds.isEmpty then [] else popZeros (products cs ds)

/-- The digits of the exponent from the lowest on. The base is not squared after the last one. -/
def powLoop (result base : List K) (exponent : Nat) : List K :=
  if exponent = 0 then result
  else
    let result := if exponent % 2 = 1 then mul result base else result
    let base := if exponent / 2 = 0 then base else mul base base
    powLoop result base (exponent / 2)
termination_by exponent
decreasing_by omega

/-- **The power**, by repeated squaring. -/
def pow [One K] (cs : List K) (exponent : Nat) : List K := powLoop (constant 1) cs exponent

end Product

/-! ## Values -/

section Values

variable [Add K] [Mul K]

omit [BEq K]

/-- The value at `x`: Horner's scheme from the last entry on. -/
def evaluate (cs : List K) (x : K) : K := cs.reverse.foldl (fun value c => value * x + c) 0

/-- **The value of the derivative at `x`.** Every entry is multiplied by its index as it is met,
and the first one is left out. -/
def evaluateDerivative [NatCast K] (cs : List K) (x : K) : K :=
  (cs.zipIdx.drop 1).reverse.foldl (fun value (c, i) => value * x + c * (i : K)) 0

end Values

end OneUnknown.Dense
