import ValidatorGuardian.Enclave.Shared
import ValidatorGuardian.Io.RemoteAttestation

/-!
# Key generation by a validator

A validator key is split into one share for each guardian.  The shares are sent
encrypted, with a signed deposit and, if asked for, an attestation of it all.
-/

namespace ValidatorGuardian

variable [Blsttc] [Secp256k1]

structure RecipientKeys where
  guardianPublicKey : EthPublicKey
  secretKeyShare : Blsttc.SecretKeyShare
  publicKeyShare : Blsttc.PublicKeyShare

structure EncryptedRecipientKeys where
  guardianPublicKey : EthPublicKey
  publicKeyShare : Blsttc.PublicKeyShare
  encryptedSecretKeyShareHex : Str

/-- ECIES envelope encrypt the BLS secret key share with the recipient ETH
public key. -/
def RecipientKeys.encryptToRecipient (self : RecipientKeys)
    (seed : Secp256k1.Seed) : Outcome EncryptedRecipientKeys := do
  let ctSk ← envelopeEncrypt seed self.guardianPublicKey
    (Blsttc.secretKeyToBytes self.secretKeyShare).toList
  return {
    guardianPublicKey := self.guardianPublicKey
    publicKeyShare := self.publicKeyShare
    encryptedSecretKeyShareHex := Hex.encode ctSk }

/-- The encryption loop; `seeds` is the randomness of each encryption. -/
def encryptShares (seeds : ℕ → Secp256k1.Seed)
    (guardianPublicKeys : List EthPublicKey)
    (keyShares : List (Blsttc.SecretKeyShare × Blsttc.PublicKeyShare)) :
    Outcome (List EncryptedRecipientKeys) :=
  (guardianPublicKeys.zip keyShares).zipIdx.mapM fun k =>
    RecipientKeys.encryptToRecipient
      { guardianPublicKey := k.1.1
        secretKeyShare := k.1.2.1
        publicKeyShare := k.1.2.2 } (seeds k.2)

/-- `threshold - 1`, which overflows at zero. -/
def pred (threshold : UInt64) : Outcome UInt64 :=
  if threshold = 0 then Outcome.panic else .ok (threshold - 1)

variable [Hashing] [Eth2TreeHash]

/-- A threshold of `t + 1` shares is a key set of threshold `t`. -/
def attestFreshBlsKey (random : Blsttc.SecretKeySet)
    (seeds : ℕ → Secp256k1.Seed) (agent : CvmAgent)
    (withdrawalCredentials : Bytes 32)
    (guardianPublicKeys : List EthPublicKey) (threshold : UInt64)
    (forkVersion : Version) (doRemoteAttestation : Bool) :
    Enclave BlsKeygenPayload := do
  let t ← liftM (pred threshold)
  let secretKeySet ← liftM (newBlsKey random t)
  let n := guardianPublicKeys.length
  let keyShares := distributeKeyShares secretKeySet n
  let recipientKeys ← liftM (encryptShares seeds guardianPublicKeys keyShares)
  let validatorPubkey ←
    liftM (Blsttc.publicKeyOf (Blsttc.publicKeys secretKeySet))
  saveBlsKey secretKeySet
  let db ← liftM (SlashingProtectionData.fromPkHex
    (Blsttc.publicKeyToHex validatorPubkey))
  db.write
  let (signature, depositDataRoot) ← liftM
    (signFullDeposit secretKeySet withdrawalCredentials forkVersion)
  let payload ← liftM (buildValidatorRemoteAttestationPayload
    (Blsttc.publicKeys secretKeySet) signature depositDataRoot
    (recipientKeys.map EncryptedRecipientKeys.encryptedSecretKeyShareHex)
    (recipientKeys.map EncryptedRecipientKeys.guardianPublicKey))
  let evidence ←
    if doRemoteAttestation then
      liftM (AttestationEvidence.new agent payload)
    else pure AttestationEvidence.empty
  return {
    blsPubKeySet := Hex.encode
      (Blsttc.publicKeySetToBytes (Blsttc.publicKeys secretKeySet))
    blsPubKey := Blsttc.publicKeyToHex validatorPubkey
    signature := Hex.encode signature.toList
    depositDataRoot := Hex.encode depositDataRoot.toList
    blsEncPrivKeyShares :=
      recipientKeys.map EncryptedRecipientKeys.encryptedSecretKeyShareHex
    sessionId := evidence.sessionId
    attestationSignature := evidence.signature
    sessionPublicKey := bytesToString evidence.sessionPublicKey.key
    guardianEthPubKeys :=
      recipientKeys.map fun k => ethPkToHexUncompressed k.guardianPublicKey
    withdrawalCredentials := Hex.encode withdrawalCredentials.toList
    forkVersion := forkVersion }

end ValidatorGuardian
