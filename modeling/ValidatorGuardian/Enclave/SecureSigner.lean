import ValidatorGuardian.Enclave.Shared
import ValidatorGuardian.Io.RemoteAttestation

/-!
# The secure signer

A fresh key is saved before the agent is asked to attest to it, a BLS key
together with an empty slashing database of its own.  A deposit is signed with
the saved key that it is made for.
-/

namespace ValidatorGuardian

def attestNewEthKey [Secp256k1] (random : EthSecretKey) (agent : CvmAgent) :
    Enclave (AttestationEvidence × EthPublicKey) := do
  let pk ← ethKeyGen random
  let proof ← liftM (AttestationEvidence.new agent
    (Secp256k1.publicKeySerializeCompressed pk).toList)
  return (proof, pk)

variable [Blsttc]

def attestNewBlsKey (random : Blsttc.SecretKeySet) (agent : CvmAgent) :
    Enclave (AttestationEvidence × Blsttc.PublicKey) := do
  let sk ← liftM (newBlsKey random 0)
  let pk ← liftM (Blsttc.publicKeyOf (Blsttc.publicKeys sk))
  withContext "Failed to save BLS key" (saveBlsKey sk)
  let db ← liftM (SlashingProtectionData.fromPkHex (Blsttc.publicKeyToHex pk))
  db.write
  let proof ← liftM
    (AttestationEvidence.new agent (Blsttc.publicKeyToBytes pk).toList)
  return (proof, pk)

/-! ## Deposits -/

/-- The body of a response: text, text with an error printed in it, or a signed
deposit. -/
inductive ValidatorDepositBody where
  | text (s : String)
  | format (s : String) (e : Error)
  | json (resp : DepositResponse)
deriving DecidableEq

structure ValidatorDepositResponse where
  status : StatusCode
  body : ValidatorDepositBody
deriving DecidableEq

/-- Signs the deposit message of a request. -/
def validatorDepositHandler [Hashing] [Eth2TreeHash] (req : DepositRequest) :
    Enclave ValidatorDepositResponse := do
  let blsPkHex := Hex.encode req.deposit.pubkey.toList
  match ← attempt (liftM (sanitizeBlsPkHex blsPkHex)) with
  | .error e => return ⟨.BAD_REQUEST, .format "Bad bls_pk_hex, " e⟩
  | .ok blsPkHex =>
  if ← blsKeyExists blsPkHex then
    match ← attempt (getDepositSignature blsPkHex req.deposit
        req.genesisForkVersion) with
    | .ok resp => return ⟨.OK, .json resp⟩
    | .error e =>
        return ⟨.INTERNAL_SERVER_ERROR,
          .format "Deposit signing operation failed: " e⟩
  else
    return ⟨.PRECONDITION_FAILED, .text "This validator key does not exist"⟩

end ValidatorGuardian
