import ValidatorGuardian.Enclave.Shared
import ValidatorGuardian.Io.RemoteAttestation

/-!
# The guardian

A guardian takes custody of its share of a validator key: it checks the keygen
payload, finds the share that is its own, stores it, and signs its approval.
Later it signs a voluntary exit with the stored share.
-/

namespace ValidatorGuardian

variable [Blsttc] [Secp256k1] [Ethers] [CvmAgentTypes] [Hashing]
  [Eth2TreeHash]

/-! ## Session evidence -/

def parseSessionPublicKey (sessionPublicKey : Str) :
    Outcome PublicIdentity :=
  match CvmAgentTypes.publicIdentityFromStr sessionPublicKey with
  | some identity => .ok identity
  | none => do
      let keyHex := strip0xPrefix sessionPublicKey
      let keyBytes ← Outcome.mapErr
        (.format "session_public_key is neither valid JSON nor hex: ")
        (hexDecode keyHex)
      return { typeId := 3, key := keyBytes }

/-- A 32-byte value from hex text; `name` is the field named in the error. -/
def parseB256 (name : String) (field : Str) : Outcome (Bytes 32) := do
  let bytes ← hexDecode (strip0xPrefix field)
  Outcome.bailIf (bytes.length ≠ 32)
    (name ++ " must be 32 bytes, got " ++ toString bytes.length)
  copyFromSlice 32 bytes

/-- The attestation payload that the CVM agent signed, reconstructed from the
keygen payload. -/
def attestedPayload (keygenPayload : BlsKeygenPayload) :
    Outcome (List UInt8) := do
  let pkSetBytes ← hexDecode keygenPayload.blsPubKeySet
  let pkSet ← Outcome.okOr .blsttc (Blsttc.publicKeySetFromBytes pkSetBytes)
  let ddRoot ← copyFromSlice 32 (← hexDecode keygenPayload.depositDataRoot)
  let signature ← hexDecode keygenPayload.signature
  let guardianPks ←
    keygenPayload.guardianEthPubKeys.mapM ethPkFromHexUncompressed
  buildValidatorRemoteAttestationPayload pkSet (fixedVectorFrom 96 signature)
    ddRoot keygenPayload.blsEncPrivKeyShares guardianPks

/-- The workload of the session is the expected one. -/
def verifyWorkload (registry : SessionRegistry) (rpcUrl : Str)
    (registryAddress : Bytes 20) (sessionId : Bytes 32) (workloadId : Str) :
    Outcome Unit := do
  let sessionWorkloadId ← Outcome.okOr .sessionRegistry
    (registry.getSessionWorkloadId rpcUrl registryAddress sessionId)
  let expectedWorkloadId ← parseB256 "workload_id" workloadId
  Outcome.bailIf (sessionWorkloadId ≠ expectedWorkloadId)
    ("Session workload mismatch: session has " ++
      String.ofList (bytesToString sessionWorkloadId.toList) ++
      ", expected " ++
      String.ofList (bytesToString expectedWorkloadId.toList))

/-- Verify CVM session evidence with the session registry. -/
def verifySessionEvidence (registry : SessionRegistry)
    (keygenPayload : BlsKeygenPayload) (workloadId : Str) :
    Outcome Unit := do
  Outcome.bailIf keygenPayload.sessionId.isEmpty
    "Missing session_id in keygen payload"
  Outcome.bailIf keygenPayload.attestationSignature.isEmpty
    "Missing attestation_signature in keygen payload"
  Outcome.bailIf keygenPayload.sessionPublicKey.isEmpty
    "Missing session_public_key in keygen payload"
  let payload ← attestedPayload keygenPayload
  let message := Hashing.keccak256 payload
  let sessionId ← parseB256 "session_id" keygenPayload.sessionId
  let sessionKey ← parseSessionPublicKey keygenPayload.sessionPublicKey
  let signature ← hexDecode (strip0xPrefix keygenPayload.attestationSignature)
  let rpcUrl ← Outcome.okOr
    (.text ("SESSION_REGISTRY_RPC_URL env var is required for session " ++
      "verification"))
    registry.rpcUrl
  let addressStr ← Outcome.okOr
    (.text ("SESSION_REGISTRY_ADDRESS env var is required for session " ++
      "verification"))
    registry.registryAddress
  let registryAddress ← Outcome.okOr
    (.text "SESSION_REGISTRY_ADDRESS is not a valid address")
    (CvmAgentTypes.parseRegistryAddress addressStr)
  let valid ← Outcome.okOr .sessionRegistry
    (registry.verifySessionSignature rpcUrl registryAddress sessionId
      sessionKey message signature)
  Outcome.bailIf (valid = false)
    "SessionRegistry.verifySessionSignature() returned false"
  if workloadId.isEmpty then return ()
  else verifyWorkload registry rpcUrl registryAddress sessionId workloadId

/-! ## Custody -/

def verifyDepositMessage (keygenPayload : BlsKeygenPayload) :
    Outcome Unit := do
  let pkSet ← keygenPayload.publicKeySet
  let pk ← Blsttc.publicKeyOf pkSet
  let signature ← keygenPayload.parsedSignature
  let root ← keygenPayload.depositMessageRoot
  Outcome.bailIf (Blsttc.verify pk signature root.toList = false)
    "DepositMessage signature invalid"
  let depositDataRoot ← keygenPayload.computedDepositDataRoot
  let expected := strip0xPrefix keygenPayload.depositDataRoot
  Outcome.bailIf (expected ≠ Hex.encode depositDataRoot.toList)
    "DepositDataRoot invalid"

/-- Attempt to decrypt the key shares at the given indices until a match is
found. -/
def findShare (keygenPayload : BlsKeygenPayload)
    (guardianEnclaveSk : EthSecretKey) :
    List ℕ → Outcome Blsttc.SecretKeyShare
  | [] =>
      Outcome.bail "verify_custody failed to decrypt using Guardian enclave key"
  | i :: is =>
      match keygenPayload.decryptSkShare i guardianEnclaveSk with
      | .error .panic => Outcome.panic
      | .error (.err _) => findShare keygenPayload guardianEnclaveSk is
      | .ok skShare => do
          let pkSet ← keygenPayload.publicKeySet
          if Hex.encode (Blsttc.publicKeyToBytes
                (Blsttc.publicKeyShare pkSet i)).toList =
              Hex.encode (Blsttc.publicKeyToBytes
                (Blsttc.derivePublicKey skShare)).toList then
            return skShare
          else findShare keygenPayload guardianEnclaveSk is

def verifyCustody (keygenPayload : BlsKeygenPayload)
    (guardianEnclaveSk : EthSecretKey) : Outcome Blsttc.SecretKeyShare := do
  let isMatch ← keygenPayload.verifyPublicKeysMatch
  Outcome.bailIf (isMatch = false)
    "Supplied bls_pub_key cannot be derived from bls_pub_key_set"
  findShare keygenPayload guardianEnclaveSk
    (List.range keygenPayload.blsEncPrivKeyShares.length)

/-- The digest that a guardian signs to approve custody. -/
def custodyDigest (validatorIndex : ValidatorIndex) (pubKey : Bytes 48)
    (withdrawalCredentials : Bytes 32) (signature : Bytes 96)
    (depositDataRoot : Root) : Bytes 32 :=
  Hashing.keccak256 (Ethers.abiEncode [
    .uint validatorIndex.toNat,
    .bytes pubKey.toList,
    .bytes withdrawalCredentials.toList,
    .bytes signature.toList,
    .fixedBytes depositDataRoot.toList])

def approveCustody (keygenPayload : BlsKeygenPayload)
    (guardianEnclaveSk : EthSecretKey) (validatorIndex : ValidatorIndex) :
    Outcome Str := do
  let pkSet ← keygenPayload.publicKeySet
  let pk ← Blsttc.publicKeyOf pkSet
  let withdrawalCredentials ← keygenPayload.withdrawalCredentialsBytes
  let signature ← keygenPayload.parsedSignature
  let depositDataRoot ← keygenPayload.computedDepositDataRoot
  let msgToBeSigned := custodyDigest validatorIndex
    (Blsttc.publicKeyToBytes pk) withdrawalCredentials
    (Blsttc.signatureToBytes signature) depositDataRoot
  let wallet ← Outcome.okOr .ethers (Ethers.walletParse
    (Hex.encode (Secp256k1.secretKeySerialize guardianEnclaveSk).toList))
  let sig ← Outcome.okOr .ethers
    (Ethers.signMessage wallet msgToBeSigned.toList)
  let sigStr := Ethers.signatureToString sig
  let recovered ← Outcome.okOr .ethers
    (Ethers.recover sig msgToBeSigned.toList)
  Outcome.bailIf (recovered ≠ Ethers.walletAddress wallet)
    "Failed to sign correctly"
  return sigStr

def verifyAndSignCustodyReceived (registry : SessionRegistry)
    (request : ValidateCustodyRequest) : Enclave ValidateCustodyResponse := do
  match ← attempt
    (fetchEthKey (ethPkToHex request.guardianEnclavePublicKey)) with
  | .error _ =>
      liftM (Outcome.bail "Could not fetch guardian enclave public key" :
        Outcome ValidateCustodyResponse)
  | .ok guardianEnclaveSk =>
  liftM (if request.verifySession then
      verifySessionEvidence registry request.keygenPayload request.workloadId
    else .ok ())
  liftM (verifyDepositMessage request.keygenPayload)
  let skShare ← liftM (verifyCustody request.keygenPayload guardianEnclaveSk)
  writeBlsKey
    (Hex.encode
      (Blsttc.publicKeyToBytes (Blsttc.derivePublicKey skShare)).toList)
    (Hex.encode (Blsttc.secretKeyToBytes skShare).toList)
  let signature ← liftM (approveCustody request.keygenPayload
    guardianEnclaveSk request.validatorIndex)
  return {
    enclaveSignature := signature
    blsPubKey := request.keygenPayload.blsPubKey
    withdrawalCredentials := request.keygenPayload.withdrawalCredentials
    depositSignature := request.keygenPayload.signature
    depositDataRoot := request.keygenPayload.depositDataRoot }

/-! ## Voluntary exits -/

def signVem (skShare : Blsttc.SecretKey) (epoch : Epoch)
    (validatorIndex : ValidatorIndex) (forkInfo : ForkInfo) :
    Outcome (BLSSignature × Root) := do
  let voluntaryExit : VoluntaryExit := {
    epoch := epoch
    validatorIndex := validatorIndex }
  let vemReq : VoluntaryExitRequest := {
    forkInfo := forkInfo
    signingRoot := none
    voluntaryExit := voluntaryExit }
  let root := (BLSSignMsg.VOLUNTARY_EXIT vemReq).toSigningRoot none
  let sig : BLSSignature := fixedVectorFrom 96
    (Blsttc.signatureToBytes (Blsttc.sign skShare root.toList)).toList
  return (sig, root)

/-- Sign a `VoluntaryExit` at epoch 0 with the stored share. -/
def signVoluntaryExitMessage (req : SignExitRequest) :
    Enclave SignExitResponse := do
  let pkSet ← liftM req.publicKeySet
  let pkHex := Hex.encode (Blsttc.publicKeyToBytes
    (Blsttc.publicKeyShare pkSet req.guardianIndex.toNat)).toList
  let set ← fetchBlsSk pkHex
  let sk := Blsttc.secretKey set
  let (sig, root) ← liftM (signVem sk 0 req.validatorIndex req.forkInfo)
  return {
    signature := Hex.encode sig.toList
    message := Hex.encode root.toList }

/-! ## Keys of the guardian -/

/-- Generate an ETH key and attest to it together with a block number. -/
def attestNewEthKeyWithBlockhash (random : EthSecretKey) (agent : CvmAgent)
    (blockNumber : UInt64) (guardianModuleAddress : Str) (chainId : UInt64) :
    Enclave (AttestationEvidence × EthPublicKey) := do
  let pk ← ethKeyGen random
  let addressStr := strip0xPrefix guardianModuleAddress
  let address ← liftM (Outcome.mapErr
    (.format "Invalid guardian_module_address: ")
    (Outcome.okOr .ethers (Ethers.parseAddress addressStr)))
  let payload := Ethers.abiEncode [
    .string "ROTATE_GUARDIAN_KEY",
    .address address,
    .uint chainId.toNat,
    .uint blockNumber.toNat,
    .bytes (Secp256k1.publicKeySerialize pk).toList]
  let proof ← liftM (AttestationEvidence.new agent payload)
  return (proof, pk)

end ValidatorGuardian
