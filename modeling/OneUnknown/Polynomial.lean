import OneUnknown.Number.Scalar

/-!
# Polynomials in one unknown

A polynomial is the list of its coefficients by ascending power. The last one never tests as
zero, so the length tells the degree and the zero polynomial has no coefficients. The order in
which numbers are added and multiplied is fixed, since floating-point sums depend on it.

* `trimZeros`: a list without the zeros at its end;
* **`Polynomial`**, `Polynomial.ofList`: coefficients and their trimming;
* `coeff`, `degree`, `asConstant?`: what a polynomial is made of;
* `add`, `sub`, `mul`, `scale`, `neg`, `pow`: arithmetic;
* `evaluate`, `evaluateDerivative`: values by Horner's scheme;
* `splitZeroRoots`: the power of the unknown that divides a polynomial.
-/

namespace OneUnknown

/-! ## Trimming -/

section Trim

variable {K : Type} [Zero K] [BEq K]

/-- The list without the entries at its end that test as zero. -/
def trimZeros : List K → List K
  | [] => []
  | c :: rest =>
    match trimZeros rest with
    | [] => if c == 0 then [] else [c]
    | d :: kept => c :: d :: kept

/-- The last entry, if there is one, does not test as zero. -/
def Trimmed (cs : List K) : Prop := ∀ c, cs.getLast? = some c → (c == 0) = false

theorem trimmed_trimZeros (cs : List K) : Trimmed (trimZeros cs) := by
  induction cs with
  | nil => simp [Trimmed, trimZeros]
  | cons c rest ih =>
    intro last h
    unfold trimZeros at h
    split at h
    · split at h <;> simp_all
    · rename_i d kept heq
      exact ih last (by rw [heq]; simpa [List.getLast?_cons_cons] using h)

theorem trimZeros_of_trimmed {cs : List K} (h : Trimmed cs) : trimZeros cs = cs := by
  induction cs with
  | nil => rfl
  | cons c rest ih =>
    cases rest with
    | nil => simp [trimZeros, h c rfl]
    | cons d rest =>
      have hrest := ih fun last hl => h last (by simpa [List.getLast?_cons_cons] using hl)
      simp [trimZeros.eq_2 c, hrest]

theorem length_trimZeros_le (cs : List K) : (trimZeros cs).length ≤ cs.length := by
  induction cs with
  | nil => simp [trimZeros]
  | cons c rest ih =>
    unfold trimZeros
    split
    · split <;> simp
    · rename_i d kept heq
      rw [heq] at ih
      simpa using ih

end Trim

/-! ## The type -/

/-- **A polynomial**: its coefficients by ascending power, the last of which is not zero. -/
structure Polynomial (K : Type) [Zero K] [BEq K] where
  coeffs : List K
  trimmed : Trimmed coeffs

namespace Polynomial

section Structure

variable {K : Type} [Zero K] [BEq K]

/-- **The polynomial with given coefficients** by ascending power. -/
def ofList (cs : List K) : Polynomial K := ⟨trimZeros cs, trimmed_trimZeros cs⟩

/-- The zero polynomial. -/
def zero : Polynomial K := ⟨[], by simp [Trimmed]⟩

/-- A constant polynomial. -/
def constant (c : K) : Polynomial K := ofList [c]

/-- `c · x ^ degree`. -/
def monomial (c : K) (degree : Nat) : Polynomial K := ofList (List.replicate degree 0 ++ [c])

/-- The coefficient of a power, zero where none is stored. -/
def coeff (p : Polynomial K) (power : Nat) : K := p.coeffs.getD power 0

/-- The degree; the zero polynomial has none. -/
def degree? (p : Polynomial K) : Option Nat :=
  if p.coeffs.length = 0 then none else some (p.coeffs.length - 1)

/-- The degree, counting that of the zero polynomial as zero. -/
def degree (p : Polynomial K) : Nat := p.coeffs.length - 1

/-- The polynomial is zero. -/
def isZero (p : Polynomial K) : Bool := p.coeffs.isEmpty

/-- The value of a polynomial that does not contain the unknown. -/
def asConstant? (p : Polynomial K) : Option K :=
  match p.coeffs with
  | [] => some 0
  | [c] => some c
  | _ => none

/-- Equality of the coefficients by the test `==`. -/
def same (p q : Polynomial K) : Bool := p.coeffs == q.coeffs

@[ext] theorem ext {p q : Polynomial K} (h : p.coeffs = q.coeffs) : p = q := by
  cases p; cases q; simp_all

theorem coeffs_ofList (cs : List K) : (ofList cs).coeffs = trimZeros cs := rfl

theorem ofList_coeffs (p : Polynomial K) : ofList p.coeffs = p :=
  ext (trimZeros_of_trimmed p.trimmed)

theorem isZero_iff_degree? (p : Polynomial K) : p.isZero = true ↔ p.degree? = none := by
  simp [isZero, degree?]

/-- Factors out the greatest power of the unknown: the exponent and the other factor. -/
def splitZeroRoots (p : Polynomial K) : Nat × Polynomial K :=
  let zeros := p.coeffs.takeWhile (· == 0)
  (zeros.length, ofList (p.coeffs.drop zeros.length))

end Structure

/-! ## Arithmetic -/

section Arithmetic

variable {K : Type} [Zero K] [BEq K]

/-- Applies an operation to the coefficients of every power that either polynomial has. -/
def combine (op : K → K → K) (p q : Polynomial K) : Polynomial K :=
  ofList ((List.range (max p.coeffs.length q.coeffs.length)).map fun power =>
    op (p.coeff power) (q.coeff power))

/-- **The sum.** -/
def add [Add K] (p q : Polynomial K) : Polynomial K := combine (· + ·) p q

/-- **The difference.** -/
def sub [Sub K] (p q : Polynomial K) : Polynomial K := combine (· - ·) p q

/-- Every coefficient times a number. -/
def scale [Mul K] (p : Polynomial K) (k : K) : Polynomial K := ofList (p.coeffs.map (· * k))

/-- The negative, as the product with minus one. -/
def neg [One K] [Neg K] [Mul K] (p : Polynomial K) : Polynomial K := p.scale (-1)

/-- **Products summed along the diagonals.** The list `sums` holds what the coefficients of `p`
already passed contribute to the present power and the ones above it, as many as `q` has. Each
further coefficient adds its multiple of `q` to it and then yields the first sum. -/
def convolve [Add K] [Mul K] (q : List K) : List K → List K → List K
  | sums, [] => sums
  | sums, a :: p =>
    match List.zipWith (fun sum b => sum + a * b) sums q with
    | [] => []
    | sum :: later => sum :: convolve q (later ++ [0]) p

/-- **The product.** Every coefficient is a sum that starts at zero and takes the products of the
coefficients in the order of the first factor. -/
def mul [Add K] [Mul K] (p q : Polynomial K) : Polynomial K :=
  if p.isZero || q.isZero then zero
  else ofList (convolve q.coeffs (List.replicate q.coeffs.length 0) p.coeffs)

/-- `result · base ^ exponent`, the exponent taken apart into binary digits, the lowest first. -/
def powFrom [Add K] [Mul K] (result base : Polynomial K) (exponent : Nat) : Polynomial K :=
  if exponent = 0 then result
  else
    let result := if exponent % 2 = 1 then result.mul base else result
    let half := exponent / 2
    if half = 0 then result else powFrom result (base.mul base) half
termination_by exponent
decreasing_by omega

/-- **The power** with a natural exponent, by repeated squaring. -/
def pow [One K] [Add K] [Mul K] (p : Polynomial K) (exponent : Nat) : Polynomial K :=
  powFrom (constant 1) p exponent

end Arithmetic

/-! ## Values -/

section Values

variable {K : Type} [Zero K] [BEq K] [Add K] [Mul K]

/-- Horner's scheme: the value at `x` of coefficients by ascending power. -/
def horner (x : K) (cs : List K) : K := cs.foldr (fun c value => value * x + c) 0

/-- **The value at `x`.** -/
def evaluate (p : Polynomial K) (x : K) : K := horner x p.coeffs

/-- The coefficients of the derivative: each one times its power, the constant left out. -/
def derivativeCoeffs [NatCast K] (p : Polynomial K) : List K :=
  (p.coeffs.zipIdx.drop 1).map fun (c, power) => c * (power : K)

/-- **The value of the derivative at `x`.** -/
def evaluateDerivative [NatCast K] (p : Polynomial K) (x : K) : K := horner x p.derivativeCoeffs

end Values

end Polynomial

end OneUnknown
