import ValidatorGuardian.Client.Keygen
import ValidatorGuardian.Custody.Payload

/-!
# The payload of a key generation

Both key generations split the key, encrypt the shares and sign the deposit
alike.  The payload they make decodes to what it was made from, and its deposit
is accepted.
-/

namespace ValidatorGuardian

section Keygen

variable [Blsttc] [Secp256k1]

/-! ## Encrypted shares -/

/-- The ciphertexts are those of the shares, in order, each for the guardian
at its place. -/
def Encrypted (set : Blsttc.SecretKeySet) (seeds : ℕ → Secp256k1.Seed)
    (guardianPks : List EthPublicKey)
    (keys : List EncryptedRecipientKeys) : Prop :=
  encryptShares seeds guardianPks
    (distributeKeyShares set guardianPks.length) = .ok keys

/-- The guardians and the shares, each with its place. -/
theorem mem_recipients (set : Blsttc.SecretKeySet)
    {guardianPks : List EthPublicKey} {i : ℕ} (hi : i < guardianPks.length) :
    ((guardianPks.zip (distributeKeyShares set guardianPks.length)).zipIdx)[i]?
      = some ((guardianPks[i], Blsttc.secretKeyShare set i,
          Blsttc.publicKeyShare (Blsttc.publicKeys set) i), i) := by
  simp [distributeKeyShares, hi]

namespace Encrypted

variable {set : Blsttc.SecretKeySet} {seeds : ℕ → Secp256k1.Seed}
  {guardianPks : List EthPublicKey} {keys : List EncryptedRecipientKeys}

theorem length_eq (h : Encrypted set seeds guardianPks keys) :
    keys.length = guardianPks.length := by
  have hlength := (Outcome.mapM_eq_ok.mp h).length_eq
  simpa [distributeKeyShares] using hlength.symm

/-- The entry at one place. -/
theorem get (h : Encrypted set seeds guardianPks keys) {i : ℕ}
    (hi : i < guardianPks.length) :
    ∃ ciphertext,
      Secp256k1.eciesEncrypt (seeds i)
          (Secp256k1.publicKeySerialize guardianPks[i])
          (Blsttc.secretKeyToBytes (Blsttc.secretKeyShare set i)).toList =
        some ciphertext ∧
      keys[i]? = some {
        guardianPublicKey := guardianPks[i]
        publicKeyShare := Blsttc.publicKeyShare (Blsttc.publicKeys set) i
        encryptedSecretKeyShareHex := Hex.encode ciphertext } := by
  have hkeys : i < keys.length := by rw [h.length_eq]; exact hi
  have hall := Outcome.mapM_eq_ok.mp h
  have hentry := List.getElem?_eq_some_iff.mp (mem_recipients set hi)
  obtain ⟨hrecipient, hvalue⟩ := hentry
  have hget := hall.get hrecipient hkeys
  simp only [List.get_eq_getElem, hvalue,
    RecipientKeys.encryptToRecipient, Outcome.bind_eq_ok,
    envelopeEncrypt_eq_ok] at hget
  obtain ⟨ciphertext, hencrypt, hkey⟩ := hget
  refine ⟨ciphertext, hencrypt, ?_⟩
  rw [List.getElem?_eq_getElem hkeys, ← Except.ok.inj hkey]

theorem guardians_eq (h : Encrypted set seeds guardianPks keys) :
    keys.map EncryptedRecipientKeys.guardianPublicKey = guardianPks := by
  refine List.ext_getElem (by simp [h.length_eq]) ?_
  intro i hi hi'
  obtain ⟨ciphertext, -, hkey⟩ := h.get hi'
  obtain ⟨hlt, hkey⟩ := List.getElem?_eq_some_iff.mp hkey
  rw [List.getElem_map, hkey]

theorem isSome_decode (h : Encrypted set seeds guardianPks keys) {s : Str}
    (hs : s ∈ keys.map EncryptedRecipientKeys.encryptedSecretKeyShareHex) :
    (Hex.decode s).isSome := by
  obtain ⟨key, hkey, rfl⟩ := List.mem_map.mp hs
  obtain ⟨i, hi, rfl⟩ := List.mem_iff_getElem.mp hkey
  obtain ⟨ciphertext, -, hget⟩ := h.get (i := i) (by rwa [← h.length_eq])
  rw [List.getElem?_eq_getElem hi, Option.some.injEq] at hget
  rw [hget, Hex.decode_encode]
  rfl

end Encrypted

theorem exists_encrypted (hecies : Secp256k1.Ecies)
    (set : Blsttc.SecretKeySet) (seeds : ℕ → Secp256k1.Seed)
    (guardianPks : List EthPublicKey) :
    ∃ keys, Encrypted set seeds guardianPks keys := by
  apply Outcome.exists_mapM_eq_ok
  rintro ⟨⟨pk, skShare, pkShare⟩, i⟩ -
  obtain ⟨c, hc⟩ := hecies.encrypts (seeds i) pk
    (Blsttc.secretKeyToBytes skShare).toList
  exact ⟨_, Outcome.bind_eq_ok.mpr ⟨c, envelopeEncrypt_eq_ok.mpr hc, rfl⟩⟩

variable [Hashing] [Eth2TreeHash]

/-! ## The payload -/

/-- The signature over the full deposit of a key set. -/
def depositSignature (set : Blsttc.SecretKeySet) (wc : Bytes 32)
    (forkVersion : Version) : Blsttc.Signature :=
  Blsttc.sign (Blsttc.secretKey set)
    (depositRoot (fullDeposit (pubKeyBytes (Blsttc.publicKeys set)) wc)
      forkVersion).toList

omit [Secp256k1] in
theorem signFullDeposit_eq {set : Blsttc.SecretKeySet}
    (hkey : Blsttc.HasPublicKey (Blsttc.publicKeys set)) (wc : Bytes 32)
    (forkVersion : Version) :
    signFullDeposit set wc forkVersion =
      .ok (Blsttc.signatureToBytes (depositSignature set wc forkVersion),
        fullDepositDataRoot (Blsttc.publicKeys set) wc
          (depositSignature set wc forkVersion)) := by
  simp only [signFullDeposit, hkey.publicKeyOf_eq, Outcome.ok_bind,
    fullDepositMessage_toList, fixedVectorFrom_bytes]
  rfl

omit [Secp256k1] in
/-- The verifier accepts what the signer has signed. -/
theorem verifyDepositMessage_of_carries (hbls : Blsttc.Encodings)
    (hsets : Blsttc.KeySets) (hsign : Blsttc.SignVerifies)
    {p : BlsKeygenPayload} {set : Blsttc.SecretKeySet} {wc : Bytes 32}
    {v : Version} (hkey : Blsttc.HasPublicKey (Blsttc.publicKeys set))
    (h : CarriesDeposit p (Blsttc.publicKeys set) wc v
      (Blsttc.signatureToBytes (depositSignature set wc v))
      (fullDepositDataRoot (Blsttc.publicKeys set) wc
        (depositSignature set wc v))) :
    verifyDepositMessage p = .ok () := by
  rw [(h.decodes hbls hkey).verifyDepositMessage_eq_ok, h.forkVersion]
  constructor
  · rw [hsets.publicKey]
    exact hsign _ _
  · exact h.depositDataRoot.strip0xPrefix_eq

/-- The payload of a generated key, without session evidence. -/
def freshPayload (set : Blsttc.SecretKeySet)
    (keys : List EncryptedRecipientKeys) (wc : Bytes 32)
    (forkVersion : Version) : BlsKeygenPayload where
  blsPubKeySet :=
    Hex.encode (Blsttc.publicKeySetToBytes (Blsttc.publicKeys set))
  blsPubKey := Blsttc.publicKeyToHex (Blsttc.publicKey (Blsttc.publicKeys set))
  signature := Hex.encode
    (Blsttc.signatureToBytes (depositSignature set wc forkVersion)).toList
  depositDataRoot := Hex.encode
    (fullDepositDataRoot (Blsttc.publicKeys set) wc
      (depositSignature set wc forkVersion)).toList
  blsEncPrivKeyShares :=
    keys.map EncryptedRecipientKeys.encryptedSecretKeyShareHex
  sessionId := []
  attestationSignature := []
  sessionPublicKey := []
  guardianEthPubKeys :=
    keys.map fun k => ethPkToHexUncompressed k.guardianPublicKey
  withdrawalCredentials := Hex.encode wc.toList
  forkVersion := forkVersion

/-- A payload without its three session fields. -/
def BlsKeygenPayload.withoutSession (p : BlsKeygenPayload) :
    BlsKeygenPayload :=
  { p with sessionId := [], attestationSignature := [], sessionPublicKey := [] }

section Fresh

variable {set : Blsttc.SecretKeySet} {keys : List EncryptedRecipientKeys}
  {wc : Bytes 32} {forkVersion : Version} {p : BlsKeygenPayload}

/-- A generated payload carries the deposit of its key. -/
theorem carriesDeposit_of_fresh
    (hp : p.withoutSession = freshPayload set keys wc forkVersion) :
    CarriesDeposit p (Blsttc.publicKeys set) wc forkVersion
      (Blsttc.signatureToBytes (depositSignature set wc forkVersion))
      (fullDepositDataRoot (Blsttc.publicKeys set) wc
        (depositSignature set wc forkVersion)) where
  publicKeySet := .inl (congrArg BlsKeygenPayload.blsPubKeySet hp)
  withdrawalCredentials :=
    .inl (congrArg BlsKeygenPayload.withdrawalCredentials hp)
  signature := .inl (congrArg BlsKeygenPayload.signature hp)
  depositDataRoot := .inl (congrArg BlsKeygenPayload.depositDataRoot hp)
  forkVersion := congrArg BlsKeygenPayload.forkVersion hp

/-- A generated payload decodes to what it was made from. -/
theorem decodes_of_fresh (hbls : Blsttc.Encodings)
    (hkey : Blsttc.HasPublicKey (Blsttc.publicKeys set))
    (hp : p.withoutSession = freshPayload set keys wc forkVersion) :
    Decodes p (Blsttc.publicKeys set) wc
      (Blsttc.signatureToBytes (depositSignature set wc forkVersion))
      (depositSignature set wc forkVersion) :=
  (carriesDeposit_of_fresh hp).decodes hbls hkey

/-- The deposit of a generated payload is accepted. -/
theorem verifyDepositMessage_of_fresh (hbls : Blsttc.Encodings)
    (hsets : Blsttc.KeySets) (hsign : Blsttc.SignVerifies)
    (hkey : Blsttc.HasPublicKey (Blsttc.publicKeys set))
    (hp : p.withoutSession = freshPayload set keys wc forkVersion) :
    verifyDepositMessage p = .ok () :=
  verifyDepositMessage_of_carries hbls hsets hsign hkey
    (carriesDeposit_of_fresh hp)

end Fresh

/-! ## Before and after the key is saved -/

section Runs

variable {random : Blsttc.SecretKeySet} {seeds : ℕ → Secp256k1.Seed}
  {wc : Bytes 32} {guardianPks : List EthPublicKey} {threshold : UInt64}
  {forkVersion : Version} {keys : List EncryptedRecipientKeys}

/-- The key set that is drawn has the threshold that is asked for. -/
def Drawn (random : Blsttc.SecretKeySet) (threshold : UInt64) : Prop :=
  threshold ≠ 0 ∧ DrawnAt random (threshold - 1)

omit [Secp256k1] [Hashing] [Eth2TreeHash] in
theorem Drawn.hasPublicKey (h : Drawn random threshold) :
    Blsttc.HasPublicKey (Blsttc.publicKeys random) :=
  h.2.2

omit [Secp256k1] [Hashing] [Eth2TreeHash] in
theorem Drawn.newBlsKey_eq (h : Drawn random threshold) :
    pred threshold = .ok (threshold - 1) ∧
      newBlsKey random (threshold - 1) = .ok random := by
  rw [pred, if_neg h.1, newBlsKey, if_pos h.2]
  exact ⟨rfl, rfl⟩

omit [Secp256k1] [Hashing] [Eth2TreeHash] in
theorem Drawn.toNat_eq (h : Drawn random threshold) :
    (Blsttc.secretThreshold random).toNat + 1 = threshold.toNat := by
  have hpos : threshold.toNat ≠ 0 :=
    fun hzero => h.1 (UInt64.toNat_inj.mp hzero)
  have hone : (1 : UInt64) ≤ threshold :=
    UInt64.le_iff_toNat_le.mpr (Nat.one_le_iff_ne_zero.mpr hpos)
  rw [h.2.1, UInt64.toNat_sub_of_le _ _ hone, UInt64.toNat_one]
  omega

omit [Secp256k1] [Hashing] [Eth2TreeHash] in
theorem drawn_of_newBlsKey {set : Blsttc.SecretKeySet} {t : UInt64}
    (ht : pred threshold = .ok t) (hset : newBlsKey random t = .ok set) :
    Drawn random threshold := by
  unfold pred at ht
  split at ht
  · exact absurd ht Outcome.panic_ne_ok
  · next hpos =>
      obtain rfl := Except.ok.inj ht
      exact ⟨hpos, (newBlsKey_eq_ok.mp hset).2⟩

/-- Before a key is saved it is drawn, and its shares are encrypted. -/
def freshKeys (random : Blsttc.SecretKeySet) (seeds : ℕ → Secp256k1.Seed)
    (guardianPks : List EthPublicKey) (threshold : UInt64) :
    Outcome (List EncryptedRecipientKeys) := do
  let t ← pred threshold
  let set ← newBlsKey random t
  encryptShares seeds guardianPks
    (distributeKeyShares set guardianPks.length)

omit [Hashing] [Eth2TreeHash] in
theorem freshKeys_eq_ok :
    freshKeys random seeds guardianPks threshold = .ok keys ↔
      Drawn random threshold ∧ Encrypted random seeds guardianPks keys := by
  constructor
  · intro h
    obtain ⟨t, ht, h⟩ := Outcome.bind_eq_ok.mp h
    obtain ⟨set, hset, hkeys⟩ := Outcome.bind_eq_ok.mp h
    have hdrawn := drawn_of_newBlsKey ht hset
    obtain ⟨rfl, -⟩ := newBlsKey_eq_ok.mp hset
    exact ⟨hdrawn, hkeys⟩
  · rintro ⟨hdrawn, hkeys⟩
    obtain ⟨ht, hset⟩ := hdrawn.newBlsKey_eq
    exact Outcome.bind_eq_ok.mpr
      ⟨_, ht, Outcome.bind_eq_ok.mpr ⟨_, hset, hkeys⟩⟩

omit [Hashing] [Eth2TreeHash] in
/-- Code that begins with these steps goes on with the key that was drawn. -/
theorem liftM_freshKeys_bind {β : Type}
    (f : Blsttc.SecretKeySet → List EncryptedRecipientKeys → Enclave β) :
    (do
      let t ← liftM (pred threshold)
      let set ← liftM (newBlsKey random t)
      let keys ← liftM (encryptShares seeds guardianPks
        (distributeKeyShares set guardianPks.length))
      f set keys) =
      liftM (freshKeys random seeds guardianPks threshold) >>= f random := by
  rw [freshKeys, Enclave.liftM_bind_bind]
  apply bind_congr
  intro t
  rw [Enclave.liftM_bind_bind]
  cases hset : newBlsKey random t with
  | error e => rfl
  | ok set =>
      obtain ⟨rfl, -⟩ := newBlsKey_eq_ok.mp hset
      rfl

omit [Hashing] [Eth2TreeHash] in
/-- What comes after these steps may rely on the public key. -/
theorem freshKeys_bind_congr {β : Type}
    {f g : List EncryptedRecipientKeys → Enclave β}
    (h : ∀ keys, Blsttc.HasPublicKey (Blsttc.publicKeys random) →
      f keys = g keys) :
    liftM (freshKeys random seeds guardianPks threshold) >>= f =
      liftM (freshKeys random seeds guardianPks threshold) >>= g := by
  cases hfresh : freshKeys random seeds guardianPks threshold with
  | error e => rfl
  | ok keys =>
      rw [Enclave.liftM_ok_bind, Enclave.liftM_ok_bind]
      exact h keys (freshKeys_eq_ok.mp hfresh).1.hasPublicKey

/-- The payload of a generated key with the given session evidence. -/
def freshPayloadWith (set : Blsttc.SecretKeySet)
    (keys : List EncryptedRecipientKeys) (wc : Bytes 32)
    (forkVersion : Version) (evidence : AttestationEvidence) :
    BlsKeygenPayload :=
  { freshPayload set keys wc forkVersion with
    sessionId := evidence.sessionId
    attestationSignature := evidence.signature
    sessionPublicKey := bytesToString evidence.sessionPublicKey.key }

/-- The message that is made for the agent to sign. -/
def freshMessage (set : Blsttc.SecretKeySet)
    (keys : List EncryptedRecipientKeys) (wc : Bytes 32)
    (forkVersion : Version) : Outcome (List UInt8) :=
  buildValidatorRemoteAttestationPayload (Blsttc.publicKeys set)
    (Blsttc.signatureToBytes (depositSignature set wc forkVersion))
    (fullDepositDataRoot (Blsttc.publicKeys set) wc
      (depositSignature set wc forkVersion))
    (keys.map EncryptedRecipientKeys.encryptedSecretKeyShareHex)
    (keys.map EncryptedRecipientKeys.guardianPublicKey)

/-- Once the key is saved, the payload is made with evidence if that is asked
for. -/
def finishFresh (set : Blsttc.SecretKeySet)
    (keys : List EncryptedRecipientKeys) (wc : Bytes 32)
    (forkVersion : Version) (agent : CvmAgent) (attest : Bool) :
    Outcome BlsKeygenPayload := do
  let message ← freshMessage set keys wc forkVersion
  let evidence ← (if attest then AttestationEvidence.new agent message
    else .ok AttestationEvidence.empty)
  return freshPayloadWith set keys wc forkVersion evidence

theorem exists_freshMessage {set : Blsttc.SecretKeySet}
    (hkey : Blsttc.HasPublicKey (Blsttc.publicKeys set))
    (h : Encrypted set seeds guardianPks keys) (wc : Bytes 32)
    (forkVersion : Version) :
    ∃ message, freshMessage set keys wc forkVersion = .ok message :=
  exists_validatorRemoteAttestationPayload hkey _ _ _
    fun _ hs => h.isSome_decode hs

/-- The agent has the last word on an attested payload. -/
theorem finishFresh_of_message {set : Blsttc.SecretKeySet}
    {agent : CvmAgent} {message : List UInt8}
    (h : freshMessage set keys wc forkVersion = .ok message) :
    finishFresh set keys wc forkVersion agent true =
      (AttestationEvidence.new agent message).map
        (freshPayloadWith set keys wc forkVersion) := by
  rw [finishFresh, h, Outcome.ok_bind, if_pos rfl]
  cases AttestationEvidence.new agent message with
  | ok evidence => rfl
  | error e => rfl

theorem fresh_of_finishFresh {set : Blsttc.SecretKeySet} {agent : CvmAgent}
    {attest : Bool} {p : BlsKeygenPayload}
    (h : finishFresh set keys wc forkVersion agent attest = .ok p) :
    p.withoutSession = freshPayload set keys wc forkVersion := by
  obtain ⟨message, -, h⟩ := Outcome.bind_eq_ok.mp h
  obtain ⟨evidence, -, h⟩ := Outcome.bind_eq_ok.mp h
  rw [← Except.ok.inj h]
  rfl

/-! ## The runs -/

/-- The enclave's key generation saves the key between these two parts. -/
theorem attestFreshBlsKey_eq (agent : CvmAgent) (attest : Bool) :
    attestFreshBlsKey random seeds agent wc guardianPks threshold forkVersion
      attest = (do
        let keys ← liftM (freshKeys random seeds guardianPks threshold)
        saveBlsKey random
        let db ← liftM (SlashingProtectionData.fromPkHex
          (Blsttc.publicKeyToHex
            (Blsttc.publicKey (Blsttc.publicKeys random))))
        db.write
        liftM (finishFresh random keys wc forkVersion agent attest)) := by
  refine (liftM_freshKeys_bind _).trans
    (freshKeys_bind_congr fun keys hkey => ?_)
  rw [hkey.publicKeyOf_eq, Enclave.liftM_ok_bind]
  apply bind_congr
  intro _
  apply bind_congr
  intro db
  apply bind_congr
  intro _
  rw [signFullDeposit_eq hkey, Enclave.liftM_ok_bind, finishFresh,
    Enclave.liftM_bind]
  apply bind_congr
  intro message
  cases attest with
  | true => exact (Enclave.liftM_bind _ _).symm
  | false => rfl

/-- The client's key generation saves the key last. -/
theorem generateBlsKeystore_eq [EthKeystore] (rng : EthKeystore.Rng)
    (password : Str) :
    generateBlsKeystore random seeds rng wc guardianPks threshold password
      forkVersion = (do
        let keys ← liftM (freshKeys random seeds guardianPks threshold)
        let _ ← saveBlsKeystore rng random password
        return { freshPayload random keys wc forkVersion with
          forkVersion := GENESIS_FORK_VERSION }) := by
  refine (liftM_freshKeys_bind _).trans
    (freshKeys_bind_congr fun keys hkey => ?_)
  rw [hkey.publicKeyOf_eq, Enclave.liftM_ok_bind]
  apply bind_congr
  intro _
  rw [signFullDeposit_eq hkey]
  rfl

/-- A run that returns a payload has saved the key, and whoever the agent is,
it ends as the payload is finished. -/
theorem attestFreshBlsKey_finishes {agent : CvmAgent} {attest : Bool}
    {faults : List Fault} {V : Disk} {p : BlsKeygenPayload}
    (h : (exec (attestFreshBlsKey random seeds agent wc guardianPks threshold
      forkVersion attest) (faults, V)).1 = .ok p) :
    ∃ keys w, Encrypted random seeds guardianPks keys ∧
      ∀ agent', exec (attestFreshBlsKey random seeds agent' wc guardianPks
          threshold forkVersion attest) (faults, V) =
        (finishFresh random keys wc forkVersion agent' attest, w) := by
  rw [attestFreshBlsKey_eq] at h
  obtain ⟨keys, w₁, hkeys, h⟩ := exec_bind_eq_ok.mp h
  obtain ⟨_, w₂, hsave, h⟩ := exec_bind_eq_ok.mp h
  obtain ⟨db, w₃, hdb, h⟩ := exec_bind_eq_ok.mp h
  obtain ⟨_, w₄, hwrite, -⟩ := exec_bind_eq_ok.mp h
  refine ⟨keys, w₄, (freshKeys_eq_ok.mp (congrArg Prod.fst hkeys)).2, ?_⟩
  intro agent'
  rw [attestFreshBlsKey_eq, exec_bind_of_ok hkeys, exec_bind_of_ok hsave,
    exec_bind_of_ok hdb, exec_bind_of_ok hwrite, exec_liftM]

/-- Whatever fails, a payload that the enclave returns is the fresh payload
with session evidence. -/
theorem fresh_of_attestFreshBlsKey {agent : CvmAgent} {attest : Bool}
    {faults : List Fault} {V : Disk} {p : BlsKeygenPayload}
    (h : (exec (attestFreshBlsKey random seeds agent wc guardianPks threshold
      forkVersion attest) (faults, V)).1 = .ok p) :
    ∃ keys, Encrypted random seeds guardianPks keys ∧
      p.withoutSession = freshPayload random keys wc forkVersion := by
  obtain ⟨keys, w, hkeys, hrun⟩ := attestFreshBlsKey_finishes h
  rw [hrun agent] at h
  exact ⟨keys, hkeys, fresh_of_finishFresh h⟩

/-- Whatever fails, a payload that the client returns is the fresh payload,
with the genesis fork version in it. -/
theorem fresh_of_generateBlsKeystore [EthKeystore] {rng : EthKeystore.Rng}
    {password : Str} {faults : List Fault} {L : Disk} {p : BlsKeygenPayload}
    (h : (exec (generateBlsKeystore random seeds rng wc guardianPks threshold
      password forkVersion) (faults, L)).1 = .ok p) :
    ∃ keys, Encrypted random seeds guardianPks keys ∧
      p = { freshPayload random keys wc forkVersion with
        forkVersion := GENESIS_FORK_VERSION } := by
  rw [generateBlsKeystore_eq] at h
  obtain ⟨keys, w₁, hkeys, h⟩ := exec_bind_eq_ok.mp h
  obtain ⟨_, w₂, -, hpayload⟩ := exec_bind_eq_ok.mp h
  exact ⟨keys, (freshKeys_eq_ok.mp (congrArg Prod.fst hkeys)).2,
    (Except.ok.inj hpayload).symm⟩

/-- Without faults the enclave returns a payload, if the agent answers when it
is asked for an attestation. -/
theorem attestFreshBlsKey_returns (hhex : Blsttc.HexOfBytes)
    (hecies : Secp256k1.Ecies) (hdrawn : Drawn random threshold)
    {agent : CvmAgent} {attest : Bool}
    (hagent : attest = true →
      ∀ m, ∃ evidence, AttestationEvidence.new agent m = .ok evidence)
    (V : Disk) :
    Returns (attestFreshBlsKey random seeds agent wc guardianPks threshold
      forkVersion attest) ([], V) := by
  obtain ⟨keys, hkeys⟩ := exists_encrypted hecies random seeds guardianPks
  obtain ⟨message, hmessage⟩ :=
    exists_freshMessage hdrawn.hasPublicKey hkeys wc forkVersion
  have hevidence : ∃ evidence,
      (if attest then AttestationEvidence.new agent message
        else .ok AttestationEvidence.empty) = .ok evidence := by
    cases attest with
    | true => exact hagent rfl message
    | false => exact ⟨_, rfl⟩
  obtain ⟨evidence, hevidence⟩ := hevidence
  have hfinish : finishFresh random keys wc forkVersion agent attest =
      .ok (freshPayloadWith random keys wc forkVersion evidence) :=
    Outcome.bind_eq_ok.mpr ⟨message, hmessage,
      Outcome.bind_eq_ok.mpr ⟨evidence, hevidence, rfl⟩⟩
  rw [attestFreshBlsKey_eq]
  refine Returns.bindLift (freshKeys_eq_ok.mpr ⟨hdrawn, hkeys⟩) ?_
  rw [saveBlsKey_eq hdrawn.hasPublicKey]
  refine Returns.bind (exec_withContext_eq_ok.mpr exec_writeFileIn_nil) ?_
  refine Returns.bindLift
    (SlashingProtectionData.fromPkHex_publicKeyToHex hhex _) ?_
  refine Returns.bind exec_writeFileIn_nil ?_
  exact Returns.lift hfinish

/-- Without faults the client returns a payload. -/
theorem generateBlsKeystore_returns [EthKeystore] (hecies : Secp256k1.Ecies)
    (hdrawn : Drawn random threshold) {rng : EthKeystore.Rng} {password : Str}
    (hkeystore : ∀ sk, ∃ out, EthKeystore.encryptKey rng sk password =
      some out) (L : Disk) :
    Returns (generateBlsKeystore random seeds rng wc guardianPks threshold
      password forkVersion) ([], L) := by
  obtain ⟨keys, hkeys⟩ := exists_encrypted hecies random seeds guardianPks
  obtain ⟨out, hout⟩ := hkeystore
    (Blsttc.secretKeyToBytes (Blsttc.secretKey random)).toList
  rw [generateBlsKeystore_eq]
  refine Returns.bindLift (freshKeys_eq_ok.mpr ⟨hdrawn, hkeys⟩) ?_
  rw [saveBlsKeystore_eq hdrawn.hasPublicKey]
  exact Returns.bind
    (exec_withContext_eq_ok.mpr (exec_writeBlsKeystore_nil hout L))
    Returns.pure

/-! ## Agreement of the two key generations -/

/-- From the same randomness both key generations return a payload, and
whatever fails, the payloads that they return differ in the session fields at
most, and the deposit of the client's is accepted. -/
def KeygensAgree [EthKeystore] (random : Blsttc.SecretKeySet)
    (seeds : ℕ → Secp256k1.Seed) (agent : CvmAgent) (rng : EthKeystore.Rng)
    (wc : Bytes 32) (guardianPks : List EthPublicKey) (threshold : UInt64)
    (password : Str) (forkVersion : Version) (V L : Disk) : Prop :=
  Returns (attestFreshBlsKey random seeds agent wc guardianPks threshold
      forkVersion false) ([], V) ∧
    Returns (generateBlsKeystore random seeds rng wc guardianPks threshold
      password forkVersion) ([], L) ∧
    ∀ faults faults' enclave client,
      (exec (attestFreshBlsKey random seeds agent wc guardianPks threshold
        forkVersion false) (faults, V)).1 = .ok enclave →
      (exec (generateBlsKeystore random seeds rng wc guardianPks threshold
        password forkVersion) (faults', L)).1 = .ok client →
      client.withoutSession = enclave.withoutSession ∧
        verifyDepositMessage client = .ok ()

theorem forkVersion_of_keygensAgree [EthKeystore] {agent : CvmAgent}
    {rng : EthKeystore.Rng} {password : Str} {V L : Disk}
    (h : KeygensAgree random seeds agent rng wc guardianPks threshold
      password forkVersion V L) : forkVersion = GENESIS_FORK_VERSION := by
  obtain ⟨⟨enclave, henclave⟩, ⟨client, hclient⟩, hagree⟩ := h
  obtain ⟨hsame, -⟩ := hagree [] [] enclave client henclave hclient
  obtain ⟨keys, -, hfresh⟩ := fresh_of_attestFreshBlsKey henclave
  obtain ⟨keys', -, rfl⟩ := fresh_of_generateBlsKeystore hclient
  rw [hfresh] at hsame
  exact (congrArg BlsKeygenPayload.forkVersion hsame).symm

/-- The key generations agree exactly for the genesis fork version, which the
client puts in every payload. -/
theorem keygensAgree_iff [EthKeystore] (hbls : Blsttc.Encodings)
    (hhex : Blsttc.HexOfBytes) (hsets : Blsttc.KeySets)
    (hsign : Blsttc.SignVerifies) (hecies : Secp256k1.Ecies)
    {rng : EthKeystore.Rng} {password : Str}
    (hkeystore : ∀ sk, ∃ out, EthKeystore.encryptKey rng sk password =
      some out) (hdrawn : Drawn random threshold) (agent : CvmAgent)
    (V L : Disk) :
    KeygensAgree random seeds agent rng wc guardianPks threshold password
        forkVersion V L ↔
      forkVersion = GENESIS_FORK_VERSION := by
  constructor
  · exact forkVersion_of_keygensAgree
  · rintro rfl
    refine ⟨attestFreshBlsKey_returns hhex hecies hdrawn (by simp) V,
      generateBlsKeystore_returns hecies hdrawn hkeystore L, ?_⟩
    intro faults faults' enclave client henclave hclient
    obtain ⟨keys, hkeys, hfresh⟩ := fresh_of_attestFreshBlsKey henclave
    obtain ⟨keys', hkeys', hclient⟩ := fresh_of_generateBlsKeystore hclient
    have hkeys : keys = keys' :=
      Except.ok.inj (hkeys.symm.trans hkeys')
    have hlocal : client =
        freshPayload random keys wc GENESIS_FORK_VERSION := by
      rw [hclient, hkeys]
      rfl
    refine ⟨by rw [hfresh, hlocal]; rfl, ?_⟩
    exact verifyDepositMessage_of_fresh hbls hsets hsign hdrawn.hasPublicKey
      (by rw [hlocal]; rfl)

end Runs

end Keygen

section SampleKeygen

open Exponent

/-- Both key generations with the same polynomial, for two guardians. -/
def SampleAgrees (forkVersion : Version) : Prop :=
  KeygensAgree (line 3 5) (fun _ => ()) ⟨true, fun _ => none⟩ ()
    (List.Vector.replicate 32 0) [guardianKey 1, guardianKey 2] 2 []
    forkVersion Disk.empty Disk.empty

theorem keygensAgree_iff_genesis : SampleAgrees GENESIS_FORK_VERSION :=
  (keygensAgree_iff encodings hexOfBytes keySets signVerifies ecies
    (fun _ => ⟨_, rfl⟩) ⟨by decide, by decide, by decide⟩ _ _ _).mpr rfl

/-- A fork version other than the genesis one. -/
def laterForkVersion : Version :=
  0 ::ᵥ 0 ::ᵥ 0 ::ᵥ 1 ::ᵥ List.Vector.nil

/-- The payload of the client for this fork version. -/
def laterClientPayload : Option BlsKeygenPayload :=
  (exec (generateBlsKeystore (line 3 5) (fun _ => ()) ()
    (List.Vector.replicate 32 0) [guardianKey 1, guardianKey 2] 2 []
    laterForkVersion) ([], Disk.empty)).1.toOption

/-- The payloads differ, and the guardian refuses the deposit of the
client's. -/
theorem not_keygensAgree_later :
    ¬ SampleAgrees laterForkVersion ∧
      laterClientPayload.map
        (fun p => (verifyDepositMessage p).toOption.isSome) = some false := by
  constructor
  · intro h
    have hversion := forkVersion_of_keygensAgree h
    revert hversion
    decide
  · decide +kernel

end SampleKeygen

end ValidatorGuardian
