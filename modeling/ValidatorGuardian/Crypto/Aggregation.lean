import ValidatorGuardian.Crates.Exponent
import ValidatorGuardian.Crypto.BlsKeys
import Mathlib.Data.Finset.Sort

/-!
# Signing by a subset of the guardians

Any subset of the guardians that is larger than the threshold ought to be able
to sign for the validator.  The aggregation numbers the signature shares by
their places in the list, so it interpolates at the points of the first
guardians whoever has signed.
-/

namespace ValidatorGuardian

open Blsttc

section Signers

variable [Blsttc]

@[simp] theorem length_distributeKeyShares (skSet : SecretKeySet) (n : ℕ) :
    (distributeKeyShares skSet n).length = n := by
  simp [distributeKeyShares]

/-- The signature shares of the signers, in increasing order of the
guardians. -/
def signatureShares (skSet : SecretKeySet) (n : UInt64)
    (signers : Finset (Fin n.toNat)) (msg : List UInt8) :
    List SignatureShare :=
  signers.sort.map fun i =>
    sign ((distributeKeyShares skSet n.toNat).get
      (i.cast (length_distributeKeyShares skSet n.toNat).symm)).1 msg

/-- The signers by number, in increasing order. -/
def indices {n : ℕ} (signers : Finset (Fin n)) : List ℕ :=
  signers.sort.map Fin.val

theorem signatureShares_eq (skSet : SecretKeySet) (n : UInt64)
    (signers : Finset (Fin n.toNat)) (msg : List UInt8) :
    signatureShares skSet n signers msg =
      (indices signers).map fun i => sign (secretKeyShare skSet i) msg := by
  rw [indices, List.map_map]
  refine List.map_congr_left fun i _ => ?_
  have hshare : ∀ k (hk : k < (distributeKeyShares skSet n.toNat).length),
      (distributeKeyShares skSet n.toNat)[k].1 = secretKeyShare skSet k := by
    intro k hk
    simp [distributeKeyShares]
  exact congrArg (sign · msg) (hshare i.1 _)

/-- The signers make the signature of the validator key if there are more of
them than the threshold, and an error otherwise. -/
def SignersSuffice (skSet : SecretKeySet) (n : UInt64)
    (signers : Finset (Fin n.toNat)) (msg : List UInt8) : Prop :=
  ((secretThreshold skSet).toNat + 1 ≤ signers.card →
      aggregateSignatureShares (publicKeys skSet)
        (signatureShares skSet n signers msg) =
          .ok (sign (secretKey skSet) msg)) ∧
    (signers.card ≤ (secretThreshold skSet).toNat →
      ∃ e, aggregateSignatureShares (publicKeys skSet)
        (signatureShares skSet n signers msg) = .error (.err e))

end Signers

/-! ## Points of the signers -/

/-- The points at which the first `t + 1` shares are read, each with the point
at which the share was evaluated. -/
def readPoints {F : Type} [Field F] (signers : List ℕ) (t : ℕ) :
    List (F × F) :=
  (signers.zipIdx.take (t + 1)).map fun s => (sharePoint s.2, sharePoint s.1)

@[simp] theorem length_indices {n : ℕ} (signers : Finset (Fin n)) :
    (indices signers).length = signers.card := by
  simp [indices]

theorem indices_pairwise {n : ℕ} (signers : Finset (Fin n)) :
    (indices signers).Pairwise (· < ·) :=
  List.pairwise_map.mpr (Finset.sortedLT_sort signers).pairwise

/-- In an increasing list that holds the first numbers these come first. -/
theorem getElem_of_first {l : List ℕ} (hsorted : l.Pairwise (· < ·)) {t : ℕ}
    (hfirst : ∀ i ≤ t, i ∈ l) {k : ℕ} (hk : k < l.length) (hkt : k ≤ t) :
    l[k] = k := by
  rw [List.pairwise_iff_getElem] at hsorted
  induction k using Nat.strong_induction_on with
  | _ k ih =>
    obtain ⟨j, hj, hjk⟩ := List.mem_iff_getElem.mp (hfirst k hkt)
    rcases lt_trichotomy j k with hlt | rfl | hgt
    · have hsame := ih j hlt hj (by omega)
      omega
    · exact hjk
    · -- the entry at `k` is below `k`, so it is at a place below `k` too
      have hbelow := hsorted k j hk hj hgt
      have hentry : l[k] < k := by omega
      have hsame := ih l[k] hentry (by omega) (by omega)
      have hplace := hsorted l[k] k (by omega) hk hentry
      omega

section Aggregation

variable [Blsttc] {F G₁ G₂ GT : Type} [Field F] [AddCommGroup G₁] [Module F G₁]
  [AddCommGroup G₂] [Module F G₂] [AddCommGroup GT] [Module F GT]
  (L : Blsttc.Dealing F G₁ G₂ GT)

namespace Blsttc.Dealing

variable {skSet : SecretKeySet} {signers : List ℕ}

include L in
theorem nodup_readPoints (signers : List ℕ) {t : ℕ} (ht : t + 1 ≤ 2 ^ 64) :
    ((readPoints signers t : List (F × F)).map Prod.fst).Nodup := by
  rw [readPoints, List.map_map]
  exact L.nodup_places signers ht

omit [Blsttc] in
theorem length_readPoints {t : ℕ} (hmany : t < signers.length) :
    (readPoints signers t : List (F × F)).length = t + 1 := by
  simp only [readPoints, List.length_map, List.length_take,
    List.length_zipIdx]
  omega

/-- What reading the shares at the first points adds to the secret: the higher
coefficients, each with its moment. -/
def misplacement (skSet : SecretKeySet) (signers : List ℕ) : F :=
  ∑ j ∈ Finset.range (secretThreshold skSet).toNat,
    Threshold.moment
      (readPoints signers (secretThreshold skSet).toNat) (j + 1) *
        L.secretCoefficient skSet (j + 1)

/-- Nothing is misplaced when the first guardians come first. -/
theorem misplacement_of_first
    (hmany : (secretThreshold skSet).toNat < signers.length)
    (hsorted : signers.Pairwise (· < ·))
    (hfirst : ∀ i ≤ (secretThreshold skSet).toNat, i ∈ signers) :
    L.misplacement skSet signers = 0 := by
  have hbound := (secretThreshold skSet).toNat_lt
  have hsame : ∀ p ∈ (readPoints signers (secretThreshold skSet).toNat :
      List (F × F)), p.2 = p.1 := by
    intro p hp
    obtain ⟨_, hmem, rfl⟩ := List.mem_map.mp hp
    obtain ⟨k, hk, rfl⟩ := List.mem_take_iff_getElem.mp hmem
    rw [lt_min_iff, List.length_zipIdx] at hk
    have hplace := getElem_of_first hsorted hfirst hk.2 (by omega)
    simp only [List.getElem_zipIdx, zero_add, hplace]
  refine Finset.sum_eq_zero fun j hj => ?_
  rw [Finset.mem_range] at hj
  rw [Threshold.moment_eq_zero (L.nodup_readPoints signers (by omega)) hsame
    (by omega) (by rw [length_readPoints hmany]; omega), zero_mul]

/-- A share of a signature, as a value of the polynomial that the message makes
of the coefficients. -/
theorem signaturePoint_share (skSet : SecretKeySet) (i : ℕ)
    (msg : List UInt8) :
    L.signaturePoint (sign (Blsttc.secretKeyShare skSet i) msg) =
      Threshold.eval (secretThreshold skSet).toNat
        (fun j => L.secretCoefficient skSet j • L.hashToCurve msg)
        (sharePoint i : F) := by
  rw [L.sign, L.secretKeyShare]
  exact Threshold.map_eval (LinearMap.toSpanSingleton F G₂ _) _ _ _

/-- More signature shares than the threshold aggregate to the signature of the
secret with what is misplaced. -/
theorem aggregate_signers
    (hmany : (secretThreshold skSet).toNat < signers.length)
    (msg : List UInt8) :
    ∃ sig, aggregateSignatureShares (publicKeys skSet)
        (signers.map fun i => sign (Blsttc.secretKeyShare skSet i) msg) =
          .ok sig ∧
      L.signaturePoint sig =
        (L.secretCoefficient skSet 0 + L.misplacement skSet signers) •
          L.hashToCurve msg := by
  have hbound := (secretThreshold skSet).toNat_lt
  have henough : (threshold (publicKeys skSet)).toNat <
      (signers.map fun i =>
        sign (Blsttc.secretKeyShare skSet i) msg).length := by
    rw [L.threshold_publicKeys, List.length_map]
    exact hmany
  obtain ⟨sig, hcombine, hpoint⟩ := L.exists_combined henough
  refine ⟨sig, aggregateSignatureShares_eq_ok.mpr hcombine, ?_⟩
  have hsamples : ((signers.map fun i =>
        sign (Blsttc.secretKeyShare skSet i) msg).zipIdx.take
          ((secretThreshold skSet).toNat + 1)).map
            (fun s => ((sharePoint s.2 : F), L.signaturePoint s.1)) =
      (readPoints signers (secretThreshold skSet).toNat).map fun p =>
        (p.1, Threshold.eval (secretThreshold skSet).toNat
          (fun j => L.secretCoefficient skSet j • L.hashToCurve msg)
          p.2) := by
    rw [readPoints, List.zipIdx_map, ← List.map_take, List.map_map,
      List.map_map]
    refine List.map_congr_left fun s _ => ?_
    exact Prod.ext rfl (L.signaturePoint_share skSet s.1 msg)
  rw [hpoint, L.threshold_publicKeys, hsamples,
    Threshold.atZero_misplaced (length_readPoints hmany)
      (L.nodup_readPoints signers (by omega)),
    misplacement, add_smul, Finset.sum_smul]
  simp only [mul_smul]

/-- More signature shares than the threshold aggregate to the signature of the
validator key exactly when what is misplaced vanishes, or the message hashes to
zero. -/
theorem aggregates_signature_iff
    (hmany : (secretThreshold skSet).toNat < signers.length)
    (msg : List UInt8) :
    aggregateSignatureShares (publicKeys skSet)
        (signers.map fun i => sign (Blsttc.secretKeyShare skSet i) msg) =
          .ok (sign (Blsttc.secretKey skSet) msg) ↔
      L.misplacement skSet signers = 0 ∨ L.hashToCurve msg = 0 := by
  obtain ⟨sig, hsig, hpoint⟩ := L.aggregate_signers hmany msg
  have hsecret : L.signaturePoint (sign (Blsttc.secretKey skSet) msg) =
      L.secretCoefficient skSet 0 • L.hashToCurve msg := by
    rw [L.sign, L.secretKey]
  rw [hsig, Except.ok.injEq, ← L.signaturePoint_injective.eq_iff, hpoint,
    hsecret, add_smul, add_eq_left, smul_eq_zero]

include L in
/-- As many signature shares as the threshold are not aggregated. -/
theorem aggregate_few
    (hfew : signers.length ≤ (secretThreshold skSet).toNat)
    (msg : List UInt8) :
    ∃ e, aggregateSignatureShares (publicKeys skSet)
      (signers.map fun i => sign (Blsttc.secretKeyShare skSet i) msg) =
        .error (.err e) := by
  have hnone : combineSignatures (publicKeys skSet)
      ((signers.map fun i =>
        sign (Blsttc.secretKeyShare skSet i) msg).zipIdx.map
          fun s => (s.2, s.1)) = none := by
    apply L.combine_few
    rw [List.length_map, List.length_zipIdx, List.length_map,
      L.threshold_publicKeys]
    exact hfew
  rw [aggregateSignatureShares, hnone]
  exact ⟨_, rfl⟩

include L in
/-- The shares of the first `n` guardians aggregate to the signature of the
validator key exactly when there are more of them than the threshold. -/
theorem aggregates_range_iff (skSet : SecretKeySet) (n : ℕ)
    (msg : List UInt8) :
    aggregateSignatureShares (publicKeys skSet)
        ((List.range n).map fun i => sign (Blsttc.secretKeyShare skSet i) msg)
          = .ok (sign (Blsttc.secretKey skSet) msg) ↔
      (secretThreshold skSet).toNat < n := by
  constructor
  · intro h
    by_contra hfew
    have hlength : (List.range n).length ≤ (secretThreshold skSet).toNat := by
      rw [List.length_range]
      omega
    obtain ⟨e, he⟩ := L.aggregate_few hlength msg
    rw [he] at h
    cases h
  · intro hmany
    have hlength : (secretThreshold skSet).toNat < (List.range n).length := by
      rw [List.length_range]
      exact hmany
    apply (L.aggregates_signature_iff hlength msg).mpr
    refine .inl (L.misplacement_of_first hlength List.pairwise_lt_range ?_)
    intro i hi
    exact List.mem_range.mpr (by omega)

include L in
/-- When the first guardians are among them, the signers suffice. -/
theorem signersSuffice_of_first {n : UInt64} {signers : Finset (Fin n.toNat)}
    (hfirst : ∀ i ≤ (secretThreshold skSet).toNat, i ∈ indices signers)
    (msg : List UInt8) : SignersSuffice skSet n signers msg := by
  rw [SignersSuffice, signatureShares_eq]
  constructor
  · intro hmany
    rw [← length_indices] at hmany
    apply (L.aggregates_signature_iff hmany msg).mpr
    exact .inl
      (L.misplacement_of_first hmany (indices_pairwise signers) hfirst)
  · intro hfew
    rw [← length_indices] at hfew
    exact L.aggregate_few hfew msg

/-- The signers suffice exactly when there are too few of them to sign, or what
is misplaced vanishes, or the message hashes to zero. -/
theorem signersSuffice_iff (skSet : SecretKeySet) (n : UInt64)
    (signers : Finset (Fin n.toNat)) (msg : List UInt8) :
    SignersSuffice skSet n signers msg ↔
      signers.card ≤ (secretThreshold skSet).toNat ∨
        L.misplacement skSet (indices signers) = 0 ∨
          L.hashToCurve msg = 0 := by
  rw [SignersSuffice, signatureShares_eq, ← length_indices]
  by_cases hmany : (secretThreshold skSet).toNat < (indices signers).length
  · have hfew : ¬ (indices signers).length ≤ (secretThreshold skSet).toNat :=
      by omega
    rw [L.aggregates_signature_iff hmany msg]
    simp only [hfew, false_or, false_implies, and_true]
    exact ⟨fun h => h hmany, fun h _ => h⟩
  · have hfew : (indices signers).length ≤ (secretThreshold skSet).toNat := by
      omega
    refine iff_of_true ⟨fun h => absurd h hmany, fun _ => ?_⟩ (.inl hfew)
    exact L.aggregate_few hfew msg

end Blsttc.Dealing

end Aggregation

section SampleSigners

open Exponent

/-- The last two of three guardians. -/
def lastTwo : Finset (Fin (3 : UInt64).toNat) :=
  [⟨1, by decide⟩, ⟨2, by decide⟩].toFinset

/-- Each share is taken one point after the point it is read at. -/
def shiftedPoints : List (Scalar × Scalar) := [(1, 2), (2, 3)]

theorem indices_lastTwo : indices lastTwo = [1, 2] := by
  have hsort : lastTwo.sort = [⟨1, by decide⟩, ⟨2, by decide⟩] :=
    (List.toFinset_sort (· ≤ ·) (by decide)).mpr (by decide)
  rw [indices, hsort]
  rfl

theorem readPoints_lastTwo : readPoints [1, 2] 1 = shiftedPoints := by
  decide

theorem moment_shiftedPoints : Threshold.moment shiftedPoints 1 = 1 := by
  have hshift : ∀ k : Fin shiftedPoints.length, shiftedPoints[k].2 ^ 1 =
      shiftedPoints[k].1 ^ 1 + shiftedPoints[k].1 ^ 0 := by decide
  have hnodup : (shiftedPoints.map Prod.fst).Nodup := by decide
  calc Threshold.moment shiftedPoints 1
      = 0 ^ 1 + 0 ^ 0 := by
        rw [← Threshold.sum_weight_mul_pow hnodup (j := 1) (by decide),
          ← Threshold.sum_weight_mul_pow hnodup (j := 0) (by decide),
          ← Finset.sum_add_distrib]
        refine Finset.sum_congr rfl fun k _ => ?_
        rw [hshift k, mul_add]
    _ = 1 := by decide

theorem misplacement_lastTwo :
    dealing.misplacement (line 3 5) (indices lastTwo) = 5 := by
  have hthreshold : (Blsttc.secretThreshold (line 3 5)).toNat = 1 := rfl
  rw [indices_lastTwo, Blsttc.Dealing.misplacement, hthreshold,
    Finset.sum_range_one, readPoints_lastTwo, moment_shiftedPoints, one_mul]
  rfl

theorem signersSuffice_iff_lastTwo :
    SignersSuffice (line 3 5) 3 lastTwo [1] ↔
      lastTwo.card ≤ (Blsttc.secretThreshold (line 3 5)).toNat ∨
        dealing.misplacement (line 3 5) (indices lastTwo) = 0 ∨
          hashToCurve [1] = 0 :=
  dealing.signersSuffice_iff (line 3 5) 3 lastTwo [1]

/-- The second and the third of three guardians cannot sign for a key of
threshold one. -/
theorem not_signersSuffice_lastTwo :
    (Blsttc.secretThreshold (line 3 5)).toNat < (3 : UInt64).toNat ∧
      ¬ SignersSuffice (line 3 5) 3 lastTwo [1] := by
  refine ⟨by decide, fun h => ?_⟩
  have hmany : (Blsttc.secretThreshold (line 3 5)).toNat <
      (indices lastTwo).length := by
    rw [length_indices]
    decide
  have hsigned := h.1 (by decide)
  rw [signatureShares_eq] at hsigned
  rcases (dealing.aggregates_signature_iff hmany [1]).mp hsigned with
    hzero | hzero
  · rw [misplacement_lastTwo] at hzero
    revert hzero
    decide
  · revert hzero
    decide

end SampleSigners

end ValidatorGuardian
