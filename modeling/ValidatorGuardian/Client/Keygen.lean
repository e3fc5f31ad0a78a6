import ValidatorGuardian.Enclave.Validator

/-!
# Local key generation

Where no enclave is used, the client generates the key itself and keeps it in
an encrypted keystore.
-/

namespace ValidatorGuardian

variable [Blsttc] [Secp256k1] [EthKeystore] [Hashing] [Eth2TreeHash]

/-- A threshold of `t + 1` shares is a key set of threshold `t`. -/
def generateBlsKeystore (random : Blsttc.SecretKeySet)
    (seeds : ℕ → Secp256k1.Seed) (rng : EthKeystore.Rng)
    (withdrawalCredentials : Bytes 32)
    (guardianPublicKeys : List EthPublicKey) (threshold : UInt64)
    (password : Str) (forkVersion : Version) : Enclave BlsKeygenPayload := do
  let t ← liftM (pred threshold)
  let secretKeySet ← liftM (newBlsKey random t)
  let n := guardianPublicKeys.length
  let keyShares := distributeKeyShares secretKeySet n
  let recipientKeys ← liftM (encryptShares seeds guardianPublicKeys keyShares)
  let validatorPubkey ←
    liftM (Blsttc.publicKeyOf (Blsttc.publicKeys secretKeySet))
  let _ ← saveBlsKeystore rng secretKeySet password
  let (signature, depositDataRoot) ← liftM
    (signFullDeposit secretKeySet withdrawalCredentials forkVersion)
  return {
    blsPubKeySet := Hex.encode
      (Blsttc.publicKeySetToBytes (Blsttc.publicKeys secretKeySet))
    blsPubKey := Blsttc.publicKeyToHex validatorPubkey
    signature := Hex.encode signature.toList
    depositDataRoot := Hex.encode depositDataRoot.toList
    blsEncPrivKeyShares :=
      recipientKeys.map EncryptedRecipientKeys.encryptedSecretKeyShareHex
    sessionId := []
    attestationSignature := []
    sessionPublicKey := []
    guardianEthPubKeys :=
      recipientKeys.map fun k => ethPkToHexUncompressed k.guardianPublicKey
    withdrawalCredentials := Hex.encode withdrawalCredentials.toList
    forkVersion := GENESIS_FORK_VERSION }

def generateBlsKeystoreHandler (random : Blsttc.SecretKeySet)
    (seeds : ℕ → Secp256k1.Seed) (rng : EthKeystore.Rng)
    (keygenPayload : AttestFreshBlsKeyPayload) (keystorePassword : Str) :
    Enclave BlsKeygenPayload :=
  generateBlsKeystore random seeds rng keygenPayload.withdrawalCredentials
    keygenPayload.guardianPubkeys keygenPayload.threshold keystorePassword
    keygenPayload.forkVersion

end ValidatorGuardian
