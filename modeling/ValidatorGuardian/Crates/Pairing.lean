import ValidatorGuardian.Crates.Blsttc
import ValidatorGuardian.Support.Threshold

/-!
# The groups behind the BLS threshold library

Public keys and signatures are points of two groups with a bilinear pairing.
The public keys of a key set are the values of a polynomial whose coefficients
are points, and signature shares are combined by interpolation at zero.
-/

namespace ValidatorGuardian

open Blsttc

/-- The field element at which the share of index `i` is evaluated. -/
def sharePoint {F : Type} [Field F] (i : ℕ) : F := i + 1

/-- The scalars, points and pairing that `blsttc` computes with. -/
structure Blsttc.Groups [Blsttc] (F G₁ G₂ GT : Type) [Field F]
    [AddCommGroup G₁] [Module F G₁] [AddCommGroup G₂] [Module F G₂]
    [AddCommGroup GT] [Module F GT] where
  scalar : SecretKey → F
  generator : G₁
  hashToCurve : List UInt8 → G₂
  publicPoint : PublicKey → G₁
  signaturePoint : Signature → G₂
  coefficient : PublicKeySet → ℕ → G₁
  pairing : G₁ →ₗ[F] G₂ →ₗ[F] GT
  derivePublicKey : ∀ s : SecretKey,
    publicPoint (Blsttc.derivePublicKey s) = scalar s • generator
  sign : ∀ (s : SecretKey) (m : List UInt8),
    signaturePoint (Blsttc.sign s m) = scalar s • hashToCurve m
  verify : ∀ (pk : PublicKey) (sig : Signature) (m : List UInt8),
    Blsttc.verify pk sig m = true ↔
      pairing (publicPoint pk) (hashToCurve m) =
        pairing generator (signaturePoint sig)
  publicKey : ∀ set : PublicKeySet,
    publicPoint (Blsttc.publicKey set) = coefficient set 0
  publicKeyShare : ∀ (set : PublicKeySet) (i : ℕ),
    publicPoint (Blsttc.publicKeyShare set i) =
      Threshold.eval (threshold set).toNat (coefficient set)
        (sharePoint i : F)
  sharePoint_injective : ∀ i j : ℕ, i < 2 ^ 64 → j < 2 ^ 64 →
    (sharePoint i : F) = sharePoint j → i = j
  combine_few : ∀ (set : PublicKeySet) (shares : List (ℕ × Signature)),
    shares.length ≤ (threshold set).toNat →
      combineSignatures set shares = none
  combine : ∀ (set : PublicKeySet) (shares : List (ℕ × Signature)),
    (threshold set).toNat < shares.length →
    ((shares.take ((threshold set).toNat + 1)).map
      fun s => (sharePoint s.1 : F)).Nodup →
    ∃ sig, combineSignatures set shares = some sig ∧
      signaturePoint sig = Threshold.atZero
        ((shares.take ((threshold set).toNat + 1)).map
          fun s => ((sharePoint s.1 : F), signaturePoint s.2))

namespace Blsttc.Groups

variable [Blsttc] {F G₁ G₂ GT : Type} [Field F]
  [AddCommGroup G₁] [Module F G₁] [AddCommGroup G₂] [Module F G₂]
  [AddCommGroup GT] [Module F GT] (G : Blsttc.Groups F G₁ G₂ GT)

include G in
theorem signVerifies : SignVerifies := by
  intro s m
  rw [G.verify, G.derivePublicKey, G.sign]
  simp only [map_smul, LinearMap.smul_apply]

/-- A share that verifies is a share of the polynomial that the pairing makes
of the coefficients. -/
theorem pairing_signaturePoint {set : PublicKeySet} {i : ℕ}
    {sig : SignatureShare} {m : List UInt8}
    (h : Blsttc.verify (Blsttc.publicKeyShare set i) sig m = true) :
    G.pairing G.generator (G.signaturePoint sig) =
      Threshold.eval (threshold set).toNat
        (fun j => G.pairing (G.coefficient set j) (G.hashToCurve m))
        (sharePoint i : F) := by
  rw [← (G.verify _ _ _).mp h, G.publicKeyShare]
  exact Threshold.map_eval (G.pairing.flip (G.hashToCurve m)) _ _ _

include G in
/-- The first `k` places of a list are distinct points. -/
theorem nodup_places {α : Type} (l : List α) {k : ℕ} (hk : k ≤ 2 ^ 64) :
    ((l.zipIdx.take k).map fun s => (sharePoint s.2 : F)).Nodup := by
  have hindex : l.zipIdx.map Prod.snd = List.range l.length := by
    rw [List.range_eq_range', ← List.zipIdx_map_snd]
  have htake : (l.zipIdx.take k).map Prod.snd =
      List.range (min k l.length) := by
    rw [List.map_take, hindex, List.take_range]
  have hsplit : (fun s : α × ℕ => (sharePoint s.2 : F)) =
      sharePoint ∘ Prod.snd := rfl
  rw [hsplit, ← List.map_map, htake]
  refine List.Nodup.map_on ?_ List.nodup_range
  intro i hi j hj hij
  rw [List.mem_range] at hi hj
  exact G.sharePoint_injective i j (by omega) (by omega) hij

/-- More signature shares than the threshold are combined by interpolation, the
first of them, each read at its place. -/
theorem exists_combined {set : PublicKeySet} {sigs : List SignatureShare}
    (hmany : (threshold set).toNat < sigs.length) :
    ∃ sig, combineSignatures set (sigs.zipIdx.map fun s => (s.2, s.1)) =
        some sig ∧
      G.signaturePoint sig = Threshold.atZero
        ((sigs.zipIdx.take ((threshold set).toNat + 1)).map
          fun s => ((sharePoint s.2 : F), G.signaturePoint s.1)) := by
  have hbound := (threshold set).toNat_lt
  have hlength : (sigs.zipIdx.map fun s => (s.2, s.1)).length =
      sigs.length := by simp
  have hnodup : (((sigs.zipIdx.map fun s => (s.2, s.1)).take
      ((threshold set).toNat + 1)).map
        fun s => (sharePoint s.1 : F)).Nodup := by
    rw [← List.map_take, List.map_map]
    exact G.nodup_places sigs (by omega)
  obtain ⟨sig, hcombine, hpoint⟩ := G.combine set _ (by omega) hnodup
  refine ⟨sig, hcombine, ?_⟩
  rw [hpoint, ← List.map_take, List.map_map]
  rfl

include G in
/-- Signature shares that verify are combined to a signature that verifies
exactly when there are more of them than the threshold. -/
theorem verify_combined {set : PublicKeySet} {sigs : List SignatureShare}
    {m : List UInt8}
    (hsigs : ∀ i (hi : i < sigs.length),
      Blsttc.verify (Blsttc.publicKeyShare set i) sigs[i] m = true) :
    (∃ sig, combineSignatures set
        (sigs.zipIdx.map fun s => (s.2, s.1)) = some sig ∧
      Blsttc.verify (Blsttc.publicKey set) sig m = true) ↔
    (threshold set).toNat < sigs.length := by
  have hbound := (threshold set).toNat_lt
  constructor
  · rintro ⟨sig, hcombine, -⟩
    by_contra hfew
    rw [G.combine_few _ _ (by simp; omega)] at hcombine
    cases hcombine
  · intro hmany
    obtain ⟨sig, hcombine, hpoint⟩ := G.exists_combined hmany
    refine ⟨sig, hcombine, ?_⟩
    rw [G.verify, hpoint, G.publicKey]
    refine (Threshold.map_atZero (t := (threshold set).toNat)
      (c := fun j => G.pairing (G.coefficient set j) (G.hashToCurve m))
      ?_ ?_ ?_).symm
    · rw [List.length_map, List.length_take, List.length_zipIdx]
      omega
    · rw [List.map_map]
      exact G.nodup_places sigs (by omega)
    · intro s hs
      obtain ⟨⟨share, i⟩, hmem, rfl⟩ := List.mem_map.mp hs
      obtain ⟨-, hi, hshare⟩ := List.mem_zipIdx (List.mem_of_mem_take hmem)
      refine G.pairing_signaturePoint ?_
      simpa [hshare] using hsigs i (by simpa using hi)

end Blsttc.Groups

/-- The polynomials behind secret key sets.  A signature is its point. -/
structure Blsttc.Dealing [Blsttc] (F G₁ G₂ GT : Type) [Field F]
    [AddCommGroup G₁] [Module F G₁] [AddCommGroup G₂] [Module F G₂]
    [AddCommGroup GT] [Module F GT] extends Blsttc.Groups F G₁ G₂ GT where
  secretCoefficient : SecretKeySet → ℕ → F
  secretKey : ∀ set : SecretKeySet,
    scalar (Blsttc.secretKey set) = secretCoefficient set 0
  secretKeyShare : ∀ (set : SecretKeySet) (i : ℕ),
    scalar (Blsttc.secretKeyShare set i) =
      Threshold.eval (secretThreshold set).toNat (secretCoefficient set)
        (sharePoint i : F)
  threshold_publicKeys : ∀ set : SecretKeySet,
    threshold (publicKeys set) = secretThreshold set
  signaturePoint_injective : Function.Injective signaturePoint

end ValidatorGuardian
