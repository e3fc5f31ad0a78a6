import ValidatorGuardian.Crypto.Aggregation
import ValidatorGuardian.Custody.HonestFlow
import ValidatorGuardian.Custody.Malformed

/-!
# The shares of a generated key

A key generation asks for a threshold and for guardians, and does not compare
them.  It issues one share to each guardian whatever the threshold, and the
shares are enough to sign for the validator only if there are as many guardians
as the threshold asks for.
-/

namespace ValidatorGuardian

theorem AttestationEvidence.new_ne_panic (agent : CvmAgent)
    (data : List UInt8) :
    AttestationEvidence.new agent data ≠ .error .panic := by
  unfold AttestationEvidence.new
  split
  · simp [pure, Except.pure]
  · exact Outcome.bind_ne_panic Outcome.okOr_ne_panic fun _ _ h => by cases h

section Issued

variable [Blsttc]

/-- The shares, in order, sign every message like the validator key. -/
def Reconstructs (skSet : Blsttc.SecretKeySet)
    (shares : List Blsttc.SecretKeyShare) : Prop :=
  ∀ msg, aggregateSignatureShares (Blsttc.publicKeys skSet)
      (shares.map fun share => Blsttc.sign share msg) =
    .ok (Blsttc.sign (Blsttc.secretKey skSet) msg)

/-- The shares that are handed out. -/
def issuedShares (skSet : Blsttc.SecretKeySet) (n : ℕ) :
    List Blsttc.SecretKeyShare :=
  (distributeKeyShares skSet n).map Prod.fst

theorem issuedShares_eq (skSet : Blsttc.SecretKeySet) (n : ℕ) :
    issuedShares skSet n =
      (List.range n).map (Blsttc.secretKeyShare skSet) := by
  rw [issuedShares, distributeKeyShares, List.map_map]
  rfl

@[simp] theorem length_issuedShares (skSet : Blsttc.SecretKeySet) (n : ℕ) :
    (issuedShares skSet n).length = n := by
  simp [issuedShares]

theorem issuedShares_getElem (skSet : Blsttc.SecretKeySet) {n i : ℕ}
    (hi : i < (issuedShares skSet n).length) :
    (issuedShares skSet n)[i] = Blsttc.secretKeyShare skSet i := by
  simp [issuedShares_eq]

section Threshold

variable {F G₁ G₂ GT : Type} [Field F] [AddCommGroup G₁] [Module F G₁]
  [AddCommGroup G₂] [Module F G₂] [AddCommGroup GT] [Module F GT]

/-- All shares together reconstruct the key exactly when there are more of them
than the threshold of the key set. -/
theorem reconstructs_issuedShares_iff (L : Blsttc.Dealing F G₁ G₂ GT)
    (skSet : Blsttc.SecretKeySet) (n : ℕ) :
    Reconstructs skSet (issuedShares skSet n) ↔
      (Blsttc.secretThreshold skSet).toNat < n := by
  have hshares : ∀ msg, ((issuedShares skSet n).map fun share =>
      Blsttc.sign share msg) = (List.range n).map fun i =>
        Blsttc.sign (Blsttc.secretKeyShare skSet i) msg := by
    intro msg
    rw [issuedShares_eq, List.map_map]
    rfl
  constructor
  · intro h
    have hsigned := h []
    rw [hshares] at hsigned
    exact (L.aggregates_range_iff skSet n []).mp hsigned
  · intro hmany msg
    rw [hshares]
    exact (L.aggregates_range_iff skSet n msg).mpr hmany

end Threshold

variable [Secp256k1]

/-- The payload holds the key set, of the threshold that was asked for, and the
shares, one for each guardian in the order of the guardians. -/
structure IssuesShares (skSet : Blsttc.SecretKeySet)
    (guardianPks : List EthPublicKey) (threshold : UInt64)
    (p : BlsKeygenPayload) (shares : List Blsttc.SecretKeyShare) : Prop where
  publicKeySet : p.publicKeySet = .ok (Blsttc.publicKeys skSet)
  threshold : (Blsttc.threshold (Blsttc.publicKeys skSet)).toNat + 1 =
    threshold.toNat
  guardians : p.guardianEthPubKeys = guardianPks.map ethPkToHexUncompressed
  encrypted : p.blsEncPrivKeyShares.length = guardianPks.length
  length_eq : shares.length = guardianPks.length
  opens : ∀ i (hi : i < guardianPks.length) (hi' : i < shares.length)
      (sk : EthSecretKey),
    Secp256k1.publicKeyFromSecretKey sk = guardianPks[i] →
      p.decryptSkShare i sk = .ok shares[i]

theorem encryptShares_ne_panic (seeds : ℕ → Secp256k1.Seed)
    (guardianPks : List EthPublicKey)
    (keyShares : List (Blsttc.SecretKeyShare × Blsttc.PublicKeyShare)) :
    encryptShares seeds guardianPks keyShares ≠ .error .panic := by
  refine Outcome.mapM_ne_panic fun k _ => ?_
  exact Outcome.bind_ne_panic
    (Outcome.withContext_ne_panic Outcome.okOr_ne_panic)
    fun _ _ h => by cases h

variable [Hashing] [Eth2TreeHash]

/-! ## The key generation -/

section Runs

variable {random : Blsttc.SecretKeySet} {seeds : ℕ → Secp256k1.Seed}
  {agent : CvmAgent} {wc : Bytes 32} {guardianPks : List EthPublicKey}
  {threshold : UInt64} {forkVersion : Version} {attest : Bool}

omit [Hashing] [Eth2TreeHash] in
theorem freshKeys_ne_panic (hdrawn : Drawn random threshold) :
    freshKeys random seeds guardianPks threshold ≠ .error .panic := by
  obtain ⟨hpred, hnew⟩ := hdrawn.newBlsKey_eq
  rw [freshKeys, hpred, Outcome.ok_bind, hnew, Outcome.ok_bind]
  exact encryptShares_ne_panic _ _ _

theorem finishFresh_ne_panic {set : Blsttc.SecretKeySet}
    (hkey : Blsttc.HasPublicKey (Blsttc.publicKeys set))
    {keys : List EncryptedRecipientKeys} :
    finishFresh set keys wc forkVersion agent attest ≠ .error .panic := by
  refine Outcome.bind_ne_panic (fun hpanic => absurd hkey
    (buildValidatorRemoteAttestationPayload_eq_panic.mp hpanic)) ?_
  intro message _
  refine Outcome.bind_ne_panic ?_ fun _ _ h => by cases h
  cases attest with
  | true => exact AttestationEvidence.new_ne_panic agent message
  | false => exact fun h => by cases h

theorem attestFreshBlsKey_ne_panic (hdrawn : Drawn random threshold) :
    Triple (fun _ => True) (fun _ => True)
      (attestFreshBlsKey random seeds agent wc guardianPks threshold
        forkVersion attest)
      fun r _ => r ≠ .error .panic := by
  rw [attestFreshBlsKey_eq]
  refine Triple.bindLift_ne_panic (freshKeys_ne_panic hdrawn) ?_
  intro keys _
  rw [saveBlsKey_eq hdrawn.hasPublicKey]
  refine Triple.bind_ne_panic (Triple.withContext_ne_panic
    (Triple.writeFileIn_ne_panic trivial)) ?_
  intro _
  refine Triple.bindLift_ne_panic (SlashingProtectionData.fromPkHex_ne_panic _)
    ?_
  intro db _
  refine Triple.bind_ne_panic (Triple.writeFileIn_ne_panic trivial) ?_
  intro _
  exact Triple.lift fun _ _ => finishFresh_ne_panic hdrawn.hasPublicKey

/-- Whatever fails, a payload that is returned issues the shares. -/
theorem issuesShares_of_attestFreshBlsKey (hbls : Blsttc.Encodings)
    (hecies : Secp256k1.Ecies)
    (hthreshold : Blsttc.threshold (Blsttc.publicKeys random) =
      Blsttc.secretThreshold random)
    (hdrawn : Drawn random threshold) {faults : List Fault} {V : Disk}
    {p : BlsKeygenPayload}
    (h : (exec (attestFreshBlsKey random seeds agent wc guardianPks threshold
      forkVersion attest) (faults, V)).1 = .ok p) :
    IssuesShares random guardianPks threshold p
      (issuedShares random guardianPks.length) := by
  obtain ⟨keys, hkeys, hfresh⟩ := fresh_of_attestFreshBlsKey h
  have hshares : p.blsEncPrivKeyShares =
      keys.map EncryptedRecipientKeys.encryptedSecretKeyShareHex :=
    congrArg BlsKeygenPayload.blsEncPrivKeyShares hfresh
  have hguardians : p.guardianEthPubKeys =
      keys.map fun k => ethPkToHexUncompressed k.guardianPublicKey :=
    congrArg BlsKeygenPayload.guardianEthPubKeys hfresh
  constructor
  · exact (decodes_of_fresh hbls hdrawn.hasPublicKey hfresh).publicKeySet_eq
  · rw [hthreshold]
    exact hdrawn.toNat_eq
  · rw [hguardians, ← hkeys.guardians_eq, List.map_map]
    rfl
  · rw [hshares, List.length_map, hkeys.length_eq]
  · exact length_issuedShares random guardianPks.length
  · intro i hi hi' sk hsk
    rw [issuedShares_getElem]
    exact p.decryptSkShare_eq_ok.mpr
      (opensTo_own hbls hecies hkeys hshares hi hsk)

variable {F G₁ G₂ GT : Type} [Field F] [AddCommGroup G₁] [Module F G₁]
  [AddCommGroup G₂] [Module F G₂] [AddCommGroup GT] [Module F GT]

/-- Only usable keys are generated: nothing panics, and a key set that is
returned has the threshold that was asked for, no higher than the number of
guardians, with shares for the guardians that reconstruct the key. -/
def OnlyUsable (random : Blsttc.SecretKeySet) (seeds : ℕ → Secp256k1.Seed)
    (agent : CvmAgent) (wc : Bytes 32) (guardianPks : List EthPublicKey)
    (threshold : UInt64) (forkVersion : Version) (attest : Bool)
    (faults : List Fault) (V : Disk) : Prop :=
  (exec (attestFreshBlsKey random seeds agent wc guardianPks threshold
      forkVersion attest) (faults, V)).1 ≠ .error .panic ∧
    ∀ p, (exec (attestFreshBlsKey random seeds agent wc guardianPks threshold
        forkVersion attest) (faults, V)).1 = .ok p →
      ∃ shares, IssuesShares random guardianPks threshold p shares ∧
        1 ≤ threshold.toNat ∧ threshold.toNat ≤ guardianPks.length ∧
        Reconstructs random shares

/-- Whatever fails, the key generation with a threshold of at least one does
not panic, and a key set that it returns has the threshold that was asked for,
with shares for the guardians that reconstruct the key exactly when the
threshold is no higher than the number of guardians. -/
theorem keygen_issues_shares (L : Blsttc.Dealing F G₁ G₂ GT)
    (hbls : Blsttc.Encodings) (hecies : Secp256k1.Ecies)
    (hdrawn : Drawn random threshold) (agent : CvmAgent) (wc : Bytes 32)
    (guardianPks : List EthPublicKey) (seeds : ℕ → Secp256k1.Seed)
    (forkVersion : Version) (attest : Bool) (faults : List Fault) (V : Disk) :
    (exec (attestFreshBlsKey random seeds agent wc guardianPks threshold
        forkVersion attest) (faults, V)).1 ≠ .error .panic ∧
      ∀ p, (exec (attestFreshBlsKey random seeds agent wc guardianPks
          threshold forkVersion attest) (faults, V)).1 = .ok p →
        ∃ shares, IssuesShares random guardianPks threshold p shares ∧
          (Reconstructs random shares ↔
            threshold.toNat ≤ guardianPks.length) := by
  constructor
  · exact (attestFreshBlsKey_ne_panic hdrawn).exec_spec (fun _ _ => trivial)
      trivial
  · intro p hp
    have hissued := issuesShares_of_attestFreshBlsKey hbls hecies
      (L.threshold_publicKeys random) hdrawn hp
    refine ⟨_, hissued, ?_⟩
    rw [reconstructs_issuedShares_iff L, ← hdrawn.toNat_eq]
    exact Nat.succ_le_iff.symm

end Runs

end Issued

section SampleIssued

open Exponent

/-- Two shares are asked for, and there is one guardian. -/
def twoOfOne : Enclave BlsKeygenPayload :=
  attestFreshBlsKey (line 3 5) (fun _ => ()) ⟨true, fun _ => none⟩
    (List.Vector.replicate 32 0) [guardianKey 1] 2 GENESIS_FORK_VERSION false

theorem keygen_issues_shares_twoOfOne :
    (exec twoOfOne ([], Disk.empty)).1 ≠ .error .panic ∧
      ∀ p, (exec twoOfOne ([], Disk.empty)).1 = .ok p →
        ∃ shares, IssuesShares (line 3 5) [guardianKey 1] 2 p shares ∧
          (Reconstructs (line 3 5) shares ↔ 2 ≤ 1) :=
  keygen_issues_shares dealing encodings ecies
    ⟨by decide, by decide, by decide⟩ _ _ _ _ _ _ _ _

/-- A key is returned that the only guardian cannot reconstruct. -/
theorem not_onlyUsable_twoOfOne :
    ¬ OnlyUsable (line 3 5) (fun _ => ()) ⟨true, fun _ => none⟩
      (List.Vector.replicate 32 0) [guardianKey 1] 2 GENESIS_FORK_VERSION false
      [] Disk.empty := by
  rintro ⟨-, husable⟩
  obtain ⟨p, hp⟩ : Returns twoOfOne ([], Disk.empty) :=
    attestFreshBlsKey_returns hexOfBytes ecies
      ⟨by decide, by decide, by decide⟩ (by simp) Disk.empty
  obtain ⟨shares, -, -, hfew, -⟩ := husable p hp
  exact absurd hfew (by decide)

end SampleIssued

end ValidatorGuardian
