import Mathlib.LinearAlgebra.Lagrange

/-!
# Secrets shared by a polynomial

A polynomial whose coefficients lie in a module over a field is shared by its
values at distinct points.  As many values as there are coefficients determine
the value at zero, and linear maps carry shares to shares.
-/

namespace Threshold

variable {F M : Type} [Field F] [AddCommGroup M] [Module F M]

/-- The value at `x` of the polynomial with coefficients `c 0, …, c t`. -/
def eval (t : ℕ) (c : ℕ → M) (x : F) : M :=
  ∑ j ∈ Finset.range (t + 1), x ^ j • c j

@[simp] theorem eval_zero (t : ℕ) (c : ℕ → M) : eval t c (0 : F) = c 0 := by
  rw [eval, Finset.sum_range_succ']
  simp

/-! ## Interpolation at zero -/

/-- The weight of the sample at place `k`. -/
def weight (samples : List (F × M)) (k : Fin samples.length) : F :=
  ∏ j ∈ Finset.univ.erase k,
    samples[j].1 / (samples[j].1 - samples[k].1)

/-- The value at zero that is interpolated from samples. -/
def atZero (samples : List (F × M)) : M :=
  ∑ k : Fin samples.length, weight samples k • samples[k].2

omit [AddCommGroup M] [Module F M] in
theorem weight_eq_basis (samples : List (F × M)) (k : Fin samples.length) :
    weight samples k =
      (Lagrange.basis Finset.univ (fun j : Fin samples.length =>
        samples[j].1) k).eval 0 := by
  rw [Lagrange.basis, Polynomial.eval_prod, weight]
  refine Finset.prod_congr rfl fun j _ => ?_
  have hsub : samples[k].1 - samples[j].1 =
      -(samples[j].1 - samples[k].1) := by ring
  simp only [Lagrange.basisDivisor, Polynomial.eval_mul, Polynomial.eval_C,
    Polynomial.eval_sub, Polynomial.eval_X, zero_sub]
  rw [hsub, inv_neg, neg_mul_neg, mul_comm, div_eq_mul_inv]

omit [AddCommGroup M] [Module F M] in
/-- The weights reproduce the powers below the number of samples. -/
theorem sum_weight_mul_pow {samples : List (F × M)}
    (hnodup : (samples.map Prod.fst).Nodup) {j : ℕ}
    (hj : j < samples.length) :
    ∑ k : Fin samples.length, weight samples k * samples[k].1 ^ j =
      0 ^ j := by
  have hinj : Set.InjOn (fun k : Fin samples.length => samples[k].1)
      (Finset.univ : Finset (Fin samples.length)) := by
    intro a _ b _ hab
    have ha : a.1 < (samples.map Prod.fst).length := by simp
    have hb : b.1 < (samples.map Prod.fst).length := by simp
    have hget : (samples.map Prod.fst)[a.1] =
        (samples.map Prod.fst)[b.1] := by
      simpa using hab
    exact Fin.ext (hnodup.getElem_inj_iff.mp hget)
  have hdegree : (Polynomial.X ^ j : Polynomial F).degree <
      (Finset.univ : Finset (Fin samples.length)).card := by
    rw [Polynomial.degree_X_pow, Finset.card_univ, Fintype.card_fin]
    exact_mod_cast hj
  have hinterpolate := Lagrange.eq_interpolate hinj hdegree
  calc ∑ k : Fin samples.length, weight samples k * samples[k].1 ^ j
      = (Lagrange.interpolate Finset.univ
          (fun k : Fin samples.length => samples[k].1)
          fun k => (Polynomial.X ^ j).eval samples[k].1).eval 0 := by
        rw [Lagrange.interpolate_apply, Polynomial.eval_finsetSum]
        refine Finset.sum_congr rfl fun k _ => ?_
        rw [weight_eq_basis, Polynomial.eval_mul, Polynomial.eval_C,
          Polynomial.eval_pow, Polynomial.eval_X, mul_comm]
    _ = 0 ^ j := by
        rw [← hinterpolate, Polynomial.eval_pow, Polynomial.eval_X]

/-! ## Linear maps -/

variable {N : Type} [AddCommGroup N] [Module F N]

/-- A linear map carries the shares of a polynomial to the shares of its
image. -/
theorem map_eval (f : M →ₗ[F] N) (t : ℕ) (c : ℕ → M) (x : F) :
    f (eval t c x) = eval t (fun j => f (c j)) x := by
  simp only [eval, map_sum, map_smul]

/-- When a linear map takes as many samples as there are coefficients to values
of a polynomial, it takes what they interpolate to its value at zero. -/
theorem map_atZero {f : M →ₗ[F] N} {t : ℕ} {c : ℕ → N}
    {samples : List (F × M)} (hlength : samples.length = t + 1)
    (hnodup : (samples.map Prod.fst).Nodup)
    (hvalue : ∀ s ∈ samples, f s.2 = eval t c s.1) :
    f (atZero samples) = c 0 := by
  calc f (atZero samples)
      = ∑ k : Fin samples.length, weight samples k • f samples[k].2 := by
        simp only [atZero, map_sum, map_smul]
    _ = ∑ k : Fin samples.length, ∑ j ∈ Finset.range (t + 1),
          (weight samples k * samples[k].1 ^ j) • c j := by
        refine Finset.sum_congr rfl fun k _ => ?_
        rw [hvalue samples[k] (List.getElem_mem _), eval, Finset.smul_sum]
        simp only [smul_smul]
    _ = ∑ j ∈ Finset.range (t + 1), (0 : F) ^ j • c j := by
        rw [Finset.sum_comm]
        refine Finset.sum_congr rfl fun j hj => ?_
        rw [← Finset.sum_smul, sum_weight_mul_pow hnodup
          (by rw [hlength]; exact Finset.mem_range.mp hj)]
    _ = c 0 := eval_zero t c

/-! ## Values taken at other points -/

/-- Weights do not depend on the values. -/
theorem atZero_map {α : Type} (l : List (F × α)) (g : α → M) :
    atZero (l.map fun s => (s.1, g s.2)) =
      ∑ k : Fin l.length, weight l k • g l[k].2 := by
  have hlength : (l.map fun s => (s.1, g s.2)).length = l.length :=
    List.length_map _
  refine Fintype.sum_equiv (finCongr hlength) _ _ fun k => ?_
  have hweight : weight (l.map fun s => (s.1, g s.2)) k =
      weight l (finCongr hlength k) := by
    refine Finset.prod_equiv (finCongr hlength) (by simp) ?_
    intro j _
    simp
  rw [hweight]
  simp

/-- What interpolation at zero makes of the `j`-th power, when each value is
taken at the second point of a pair and read as the value at the first. -/
def moment (points : List (F × F)) (j : ℕ) : F :=
  ∑ k : Fin points.length, weight points k * points[k].2 ^ j

theorem moment_zero {points : List (F × F)}
    (hnodup : (points.map Prod.fst).Nodup) (hpos : 0 < points.length) :
    moment points 0 = 1 := by
  simpa [moment] using sum_weight_mul_pow hnodup hpos

/-- Values that are taken where they are read contribute nothing above degree
zero. -/
theorem moment_eq_zero {points : List (F × F)}
    (hnodup : (points.map Prod.fst).Nodup)
    (hsame : ∀ p ∈ points, p.2 = p.1) {j : ℕ} (hpos : 0 < j)
    (hj : j < points.length) : moment points j = 0 := by
  have hsum := sum_weight_mul_pow hnodup hj
  rw [zero_pow hpos.ne'] at hsum
  rw [← hsum, moment]
  refine Finset.sum_congr rfl fun k _ => ?_
  rw [hsame points[k] (List.getElem_mem _)]

/-- Interpolating values of a polynomial that are read at other points than
they were taken at adds every coefficient above the lowest with its moment. -/
theorem atZero_misplaced {t : ℕ} {c : ℕ → M} {points : List (F × F)}
    (hlength : points.length = t + 1)
    (hnodup : (points.map Prod.fst).Nodup) :
    atZero (points.map fun p => (p.1, eval t c p.2)) =
      c 0 + ∑ j ∈ Finset.range t, moment points (j + 1) • c (j + 1) := by
  have hmoments : atZero (points.map fun p => (p.1, eval t c p.2)) =
      ∑ j ∈ Finset.range (t + 1), moment points j • c j := by
    calc atZero (points.map fun p => (p.1, eval t c p.2))
        = ∑ k : Fin points.length,
            weight points k • eval t c points[k].2 :=
          atZero_map points (eval t c)
      _ = ∑ k : Fin points.length, ∑ j ∈ Finset.range (t + 1),
            (weight points k * points[k].2 ^ j) • c j := by
          simp only [eval, Finset.smul_sum, smul_smul]
      _ = ∑ j ∈ Finset.range (t + 1), moment points j • c j := by
          rw [Finset.sum_comm]
          simp only [moment, Finset.sum_smul]
  rw [hmoments, Finset.sum_range_succ', moment_zero hnodup (by omega),
    one_smul, add_comm]

end Threshold
