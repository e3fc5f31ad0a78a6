import ValidatorGuardian.Custody.Exit
import ValidatorGuardian.Custody.Keygen

/-!
# Key generation, custody and exit together

A payload that the enclave generates is accepted by every guardian that it is
for.  Each stores its own share, and afterwards they exit together.
-/

namespace ValidatorGuardian

section HonestFlow

variable [Blsttc] [Secp256k1]

/-! ## The assumptions -/

/-- Under the key of anyone else, the ciphertext of a share opens to nothing,
or to nothing that belongs to the place of the share. -/
def SealedShares (set : Blsttc.SecretKeySet) (seeds : ℕ → Secp256k1.Seed)
    (guardianPks : List EthPublicKey) : Prop :=
  ∀ j (hj : j < guardianPks.length) (sk : EthSecretKey)
      (ciphertext : List UInt8),
    Secp256k1.publicKeyFromSecretKey sk ≠ guardianPks[j] →
    Secp256k1.eciesEncrypt (seeds j)
        (Secp256k1.publicKeySerialize guardianPks[j])
        (Blsttc.secretKeyToBytes (Blsttc.secretKeyShare set j)).toList =
      some ciphertext →
    ∀ (bytes : Bytes 32) (s : Blsttc.SecretKeyShare),
      Secp256k1.eciesDecrypt (Secp256k1.secretKeySerialize sk) ciphertext =
        some bytes.toList →
      Blsttc.secretKeyFromBytes bytes = some s →
      Blsttc.derivePublicKey s ≠
        Blsttc.publicKeyShare (Blsttc.publicKeys set) j

/-- The guardian at place `i` has stored the secret key of its public key. -/
def GuardiansReady (guardianPks : List EthPublicKey) (stores : ℕ → Disk)
    (sks : ℕ → EthSecretKey) : Prop :=
  ∀ i (hi : i < guardianPks.length),
    Secp256k1.publicKeyFromSecretKey (sks i) = guardianPks[i] ∧
      savedEthKey (stores i) (ethPkToHex guardianPks[i]) = some (sks i)

/-! ## Shares of a generated payload -/

section Shares

variable {set : Blsttc.SecretKeySet} {seeds : ℕ → Secp256k1.Seed}
  {guardianPks : List EthPublicKey} {keys : List EncryptedRecipientKeys}
  {p : BlsKeygenPayload} {sk : EthSecretKey}

/-- What opens at a place is what its ciphertext decrypts to. -/
theorem OpensTo.decrypts (hkeys : Encrypted set seeds guardianPks keys)
    (hp : p.blsEncPrivKeyShares =
      keys.map EncryptedRecipientKeys.encryptedSecretKeyShareHex)
    {j : ℕ} {s : Blsttc.SecretKeyShare} (h : OpensTo p sk j s) :
    ∃ hj : j < guardianPks.length, ∃ ciphertext, ∃ bytes : Bytes 32,
      Secp256k1.eciesEncrypt (seeds j)
          (Secp256k1.publicKeySerialize guardianPks[j])
          (Blsttc.secretKeyToBytes (Blsttc.secretKeyShare set j)).toList =
        some ciphertext ∧
      Secp256k1.eciesDecrypt (Secp256k1.secretKeySerialize sk) ciphertext =
        some bytes.toList ∧
      Blsttc.secretKeyFromBytes bytes = some s := by
  obtain ⟨enc, ciphertext, bytes, henc, hhex, hdecrypt, hs⟩ := h
  rw [hp, List.getElem?_map] at henc
  obtain ⟨key, hkey, rfl⟩ := Option.map_eq_some_iff.mp henc
  have hj : j < guardianPks.length := by
    rw [← hkeys.length_eq]
    exact (List.getElem?_eq_some_iff.mp hkey).1
  obtain ⟨ciphertext', hencrypt, hkey'⟩ := hkeys.get hj
  rw [hkey] at hkey'
  obtain rfl := Option.some.inj hkey'
  rw [strip0xPrefix_encode, Hex.decode_encode] at hhex
  obtain rfl := Option.some.inj hhex
  exact ⟨hj, ciphertext', bytes, hencrypt, hdecrypt, hs⟩

/-- A guardian's own share opens to it. -/
theorem opensTo_own (hbls : Blsttc.Encodings) (hecies : Secp256k1.Ecies)
    (hkeys : Encrypted set seeds guardianPks keys)
    (hp : p.blsEncPrivKeyShares =
      keys.map EncryptedRecipientKeys.encryptedSecretKeyShareHex)
    {i : ℕ} (hi : i < guardianPks.length)
    (hsk : Secp256k1.publicKeyFromSecretKey sk = guardianPks[i]) :
    OpensTo p sk i (Blsttc.secretKeyShare set i) := by
  obtain ⟨ciphertext, hencrypt, hkey⟩ := hkeys.get hi
  refine ⟨Hex.encode ciphertext, ciphertext, _, ?_, ?_, ?_,
    hbls.secretKeyShare _⟩
  · rw [hp, List.getElem?_map, hkey]
    rfl
  · rw [strip0xPrefix_encode, Hex.decode_encode]
  · rw [← hsk] at hencrypt
    exact hecies.decrypts _ _ _ _ hencrypt

/-- A guardian finds its own share. -/
theorem findShare_own (hbls : Blsttc.Encodings) (hsets : Blsttc.KeySets)
    (hecies : Secp256k1.Ecies) (hnodup : guardianPks.Nodup)
    (hsealed : SealedShares set seeds guardianPks)
    (hkeys : Encrypted set seeds guardianPks keys)
    (hp : p.blsEncPrivKeyShares =
      keys.map EncryptedRecipientKeys.encryptedSecretKeyShareHex)
    (hpkSet : p.publicKeySet = .ok (Blsttc.publicKeys set))
    {i : ℕ} (hi : i < guardianPks.length)
    (hsk : Secp256k1.publicKeyFromSecretKey sk = guardianPks[i]) :
    findShare p sk (List.range p.blsEncPrivKeyShares.length) =
      .ok (Blsttc.secretKeyShare set i) := by
  have hlength : p.blsEncPrivKeyShares.length = guardianPks.length := by
    rw [hp, List.length_map, hkeys.length_eq]
  refine (findShare_eq_ok hbls.publicKeyToBytes_injective hpkSet
    List.pairwise_lt_range).mpr ⟨i, ?_, ⟨?_, ?_⟩, ?_⟩
  · rw [hlength]
    exact List.mem_range.mpr hi
  · exact opensTo_own hbls hecies hkeys hp hi hsk
  · exact (hsets.publicKeyShare set i).symm
  · rintro j - hji s ⟨hopens, hpk⟩
    refine absurd hpk ?_
    obtain ⟨hj, ciphertext, bytes, hencrypt, hdecrypt, hs⟩ :=
      hopens.decrypts hkeys hp
    refine hsealed j hj sk ciphertext ?_ hencrypt bytes s hdecrypt hs
    intro hsame
    rw [hsk] at hsame
    exact hji.ne' (hnodup.getElem_inj_iff.mp hsame)

end Shares

variable [Ethers] [CvmAgentTypes] [Hashing] [Eth2TreeHash]

/-! ## Acceptance -/

omit [CvmAgentTypes] in
/-- A guardian can sign its approval of a payload that decodes. -/
theorem exists_approveCustody (hwallet : Ethers.WalletSigns)
    {p : BlsKeygenPayload} {pkSet : Blsttc.PublicKeySet} {wc : Bytes 32}
    {sigBytes : Bytes 96} {sig : Blsttc.Signature}
    (h : Decodes p pkSet wc sigBytes sig) (sk : EthSecretKey)
    (validatorIndex : ValidatorIndex) :
    ∃ signature, approveCustody p sk validatorIndex = .ok signature := by
  obtain ⟨wallet, ethSig, hparse, hsign, hrecover⟩ := hwallet sk
    (custodyDigest validatorIndex (pubKeyBytes pkSet) wc
      (Blsttc.signatureToBytes sig) (fullDepositDataRoot pkSet wc sig)).toList
  refine ⟨Ethers.signatureToString ethSig, ?_⟩
  unfold approveCustody
  rw [h.publicKeySet_eq, Outcome.ok_bind, h.hasPublicKey.publicKeyOf_eq,
    h.withdrawalCredentials_eq, h.parsedSignature_eq,
    h.computedDepositDataRoot_eq]
  simp only [Outcome.ok_bind, Outcome.bind_eq_ok, Outcome.okOr_eq_ok]
  exact ⟨wallet, hparse, ethSig, hsign, _, hrecover, (),
    Outcome.bailIf_eq_ok.mpr (by simp), rfl⟩

/-- A request that passes every check is accepted, and its share is stored. -/
theorem exec_verifyAndSignCustodyReceived {D : Disk}
    {registry : SessionRegistry} {request : ValidateCustodyRequest}
    {sk : EthSecretKey} {share : Blsttc.SecretKeyShare} {signature : Str}
    (hsk : savedEthKey D (ethPkToHex request.guardianEnclavePublicKey) =
      some sk)
    (hsession : request.verifySession = false)
    (hdeposit : verifyDepositMessage request.keygenPayload = .ok ())
    (hcustody : verifyCustody request.keygenPayload sk = .ok share)
    (happrove : approveCustody request.keygenPayload sk
      request.validatorIndex = .ok signature) :
    exec (verifyAndSignCustodyReceived registry request) ([], D) =
      (.ok {
        enclaveSignature := signature
        blsPubKey := request.keygenPayload.blsPubKey
        withdrawalCredentials := request.keygenPayload.withdrawalCredentials
        depositSignature := request.keygenPayload.signature
        depositDataRoot := request.keygenPayload.depositDataRoot },
        ([], setShare D share)) := by
  have hfetch : exec (attempt (fetchEthKey
      (ethPkToHex request.guardianEnclavePublicKey))) ([], D) =
        (.ok (.ok sk), ([], D)) :=
    (query_fetchEthKey_ethPkToHex _).attempt_returns
      (lookupEthKey_eq_ok.mpr hsk)
  have hwrite : exec (writeBlsKey
      (Hex.encode (Blsttc.publicKeyToBytes
        (Blsttc.derivePublicKey share)).toList)
      (Hex.encode (Blsttc.secretKeyToBytes share).toList)) ([], D) =
        (.ok (), ([], setShare D share)) := by
    simp only [writeBlsKey, strip0xPrefix_encode]
    exact exec_writeFileIn_nil
  rw [verifyAndSignCustodyReceived, exec_bind_of_ok hfetch]
  simp only [hsession, hdeposit, hcustody, happrove, Bool.false_eq_true,
    if_false]
  rw [exec_bind_of_ok (exec_liftM _ _), exec_bind_of_ok (exec_liftM _ _),
    exec_bind_of_ok (exec_liftM _ _), exec_bind_of_ok hwrite,
    exec_bind_of_ok (exec_liftM _ _)]
  rfl

/-- The guardian with files `D` accepts the payload for its key whatever
request it comes in, as long as the request asks for no session check, and is
left with the files `D'`. -/
def AcceptsPayload (p : BlsKeygenPayload) (pk : EthPublicKey)
    (D D' : Disk) : Prop :=
  ∀ (registry : SessionRegistry) (request : ValidateCustodyRequest),
    request.keygenPayload = p → request.guardianEnclavePublicKey = pk →
    request.verifySession = false →
    ∃ response, exec (verifyAndSignCustodyReceived registry request)
      ([], D) = (.ok response, ([], D'))

/-- Each guardian accepts the payload and stores its own share, and then they
exit together. -/
structure CustodyAndExit (random : Blsttc.SecretKeySet)
    (guardianPks : List EthPublicKey) (stores : ℕ → Disk)
    (p : BlsKeygenPayload) : Prop where
  accepted : ∀ i (hi : i < guardianPks.length),
    AcceptsPayload p guardianPks[i] (stores i)
      (setShare (stores i) (Blsttc.secretKeyShare random i))
  exits : ∀ validatorIndex forkInfo,
    ExitsTogether p (Blsttc.publicKeys random)
      (fun i => setShare (stores i) (Blsttc.secretKeyShare random i))
      validatorIndex forkInfo

section Flow

variable {F G₁ G₂ GT : Type} [Field F] [AddCommGroup G₁] [Module F G₁]
  [AddCommGroup G₂] [Module F G₂] [AddCommGroup GT] [Module F GT]

/-- The enclave returns a payload, and whatever payload it returns, the
guardians take custody of it and can exit. -/
theorem honest_custody_and_exit (G : Blsttc.Groups F G₁ G₂ GT)
    (hbls : Blsttc.Encodings) (hhex : Blsttc.HexOfBytes)
    (hshare : Blsttc.ShareAsKeySet) (hsets : Blsttc.KeySets)
    (hecies : Secp256k1.Ecies) (hwallet : Ethers.WalletSigns)
    {random : Blsttc.SecretKeySet} {seeds : ℕ → Secp256k1.Seed}
    {guardianPks : List EthPublicKey} {threshold : UInt64}
    (hdrawn : Drawn random threshold) (hnodup : guardianPks.Nodup)
    (hthreshold : threshold.toNat ≤ guardianPks.length)
    (hlength : guardianPks.length < 2 ^ 64)
    (hsealed : SealedShares random seeds guardianPks)
    {stores : ℕ → Disk} {sks : ℕ → EthSecretKey}
    (hready : GuardiansReady guardianPks stores sks)
    {agent : CvmAgent} {attest : Bool}
    (hagent : attest = true →
      ∀ m, ∃ evidence, AttestationEvidence.new agent m = .ok evidence)
    (wc : Bytes 32) (forkVersion : Version) (V : Disk) :
    Returns (attestFreshBlsKey random seeds agent wc guardianPks threshold
      forkVersion attest) ([], V) ∧
    ∀ faults p,
      (exec (attestFreshBlsKey random seeds agent wc guardianPks threshold
        forkVersion attest) (faults, V)).1 = .ok p →
      CustodyAndExit random guardianPks stores p := by
  refine ⟨attestFreshBlsKey_returns hhex hecies hdrawn hagent V, ?_⟩
  intro faults p hpayload
  obtain ⟨keys, hkeys, hp⟩ := fresh_of_attestFreshBlsKey hpayload
  have hdecodes := decodes_of_fresh hbls hdrawn.hasPublicKey hp
  have hshares := congrArg BlsKeygenPayload.blsEncPrivKeyShares hp
  change p.blsEncPrivKeyShares = _ at hshares
  have hcount : p.blsEncPrivKeyShares.length = guardianPks.length := by
    rw [hshares, freshPayload, List.length_map, hkeys.length_eq]
  have hname := congrArg BlsKeygenPayload.blsPubKey hp
  change p.blsPubKey = _ at hname
  have hpubKey : strip0xPrefix p.blsPubKey =
      Hex.encode (pubKeyBytes (Blsttc.publicKeys random)).toList := by
    rw [hname, freshPayload, hhex, strip0xPrefix_encode, pubKeyBytes]
  have hmatch : MatchesKeySet p (Blsttc.publicKeys random) :=
    ⟨hdecodes.publicKeySet, hdecodes.hasPublicKey,
      by rw [hpubKey, hhex, pubKeyBytes]⟩
  constructor
  · rintro i hi registry request rfl hpk hsession
    obtain ⟨hsk, hsaved⟩ := hready i hi
    rw [← hpk] at hsaved
    have hfind := findShare_own hbls hsets hecies hnodup hsealed hkeys
      hshares hdecodes.publicKeySet_eq hi hsk
    obtain ⟨signature, happrove⟩ := exists_approveCustody hwallet hdecodes
      (sks i) request.validatorIndex
    exact ⟨_, exec_verifyAndSignCustodyReceived hsaved hsession
      (verifyDepositMessage_of_fresh hbls hsets G.signVerifies
        hdrawn.hasPublicKey hp)
      (verifyCustody_eq_ok.mpr ⟨_, hmatch, hfind⟩)
      happrove⟩
  · intro validatorIndex forkInfo
    have hholds : ∀ i < p.blsEncPrivKeyShares.length,
        HoldsShare (setShare (stores i) (Blsttc.secretKeyShare random i))
          (Blsttc.publicKeyShare (Blsttc.publicKeys random) i) :=
      fun i _ => ⟨_, (hsets.publicKeyShare random i).symm, Disk.set_same ..⟩
    refine (exitsTogether_of_holdsShare G hbls hshare
      hdecodes.publicKeySet_eq (by rwa [hcount]) (fun _ => hpubKey) hholds
      validatorIndex forkInfo).mpr ?_
    have hdegree := hdrawn.toNat_eq
    rw [hsets.threshold _ hdrawn.hasPublicKey, hcount]
    omega

end Flow

end HonestFlow

section SampleFlow

open Exponent

theorem sealedShares (P : Poly) (seeds : ℕ → Unit)
    (guardianPks : List (Bytes 32)) :
    SealedShares P seeds guardianPks := by
  intro j hj sk ciphertext hne hencrypt bytes s hdecrypt
  obtain rfl := Option.some.inj hencrypt
  have hnone := (eciesDecrypt_of_ne hne _).symm.trans hdecrypt
  cases hnone

/-- The secret keys of two guardians. -/
def sampleKeys (i : ℕ) : Bytes 32 := guardianKey (UInt8.ofNat i)

theorem guardiansReady_sampleKeys :
    GuardiansReady [sampleKeys 0, sampleKeys 1]
      (fun i => setEthKey Disk.empty (sampleKeys i)) sampleKeys := by
  intro i hi
  have hcases : i = 0 ∨ i = 1 := by
    have hlength : i < 2 := hi
    omega
  have hkey : [sampleKeys 0, sampleKeys 1][i] = sampleKeys i := by
    rcases hcases with rfl | rfl <;> rfl
  refine ⟨hkey.symm, ?_⟩
  rw [hkey]
  exact KeyStore.savedEthKey_setEthKey ethEncodings Disk.empty _

theorem honest_custody_and_exit_sampleKeys :
    ∃ p, (exec (attestFreshBlsKey (line 3 5) (fun _ => ())
        ⟨true, fun _ => none⟩ (List.Vector.replicate 32 0)
        [sampleKeys 0, sampleKeys 1] 2 GENESIS_FORK_VERSION true)
        ([], Disk.empty)).1 = .ok p ∧
      CustodyAndExit (line 3 5) [sampleKeys 0, sampleKeys 1]
        (fun i => setEthKey Disk.empty (sampleKeys i)) p := by
  have hdrawn : Drawn (line 3 5) 2 :=
    ⟨by decide, by decide, by decide⟩
  have hne : sampleKeys 0 ≠ sampleKeys 1 := by decide
  have hagent : true = true → ∀ m, ∃ evidence,
      AttestationEvidence.new ⟨true, fun _ => none⟩ m = .ok evidence :=
    fun _ _ => ⟨AttestationEvidence.empty, rfl⟩
  obtain ⟨⟨p, hp⟩, hflow⟩ := honest_custody_and_exit groups encodings
    hexOfBytes shareAsKeySet keySets ecies walletSigns hdrawn
    (List.nodup_cons.mpr ⟨by simpa using hne, List.nodup_singleton _⟩)
    (by decide) (by decide) (sealedShares _ _ _) guardiansReady_sampleKeys
    hagent (List.Vector.replicate 32 0) GENESIS_FORK_VERSION Disk.empty
  exact ⟨p, hp, hflow [] p hp⟩

end SampleFlow

end ValidatorGuardian
