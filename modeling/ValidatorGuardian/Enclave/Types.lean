import ValidatorGuardian.Crypto.BlsKeys
import ValidatorGuardian.Crypto.EthKeys
import ValidatorGuardian.Eth2.Signing

/-!
# Requests, responses and the keygen payload

The keygen payload is text as it arrives: each accessor strips a `0x`, decodes
the hex, and checks what it needs.
-/

namespace ValidatorGuardian

/-- `pk[0..2]` counts bytes, and panics inside a character or behind the
end. -/
def firstTwoBytes : Str → Outcome Str
  | c :: rest =>
      if c.utf8Size = 2 then .ok [c]
      else match rest with
        | d :: _ =>
            if c.utf8Size = 1 ∧ d.utf8Size = 1 then .ok [c, d]
            else Outcome.panic
        | [] => Outcome.panic
  | [] => Outcome.panic

/-- The `pubkey` of each entry. -/
structure ListKeysResponse where
  data : List Str

/-- Each key is prepended with `0x` if needed. -/
def ListKeysResponse.new (keys : List Str) : Outcome ListKeysResponse := do
  let data ← keys.mapM fun pk => do
    let start ← firstTwoBytes pk
    return if start = ['0', 'x'] then pk else '0' :: 'x' :: pk
  return { data := data }

structure SignatureResponse where
  signature : Str
deriving DecidableEq

def SignatureResponse.new (sig : List UInt8) : SignatureResponse where
  signature := '0' :: 'x' :: Hex.encode sig

structure BlsKeygenPayload where
  blsPubKeySet : Str
  blsPubKey : Str
  signature : Str
  depositDataRoot : Str
  blsEncPrivKeyShares : List Str
  sessionId : Str
  attestationSignature : Str
  sessionPublicKey : Str
  guardianEthPubKeys : List Str
  withdrawalCredentials : Str
  forkVersion : Version

structure ValidateCustodyRequest [Secp256k1] where
  keygenPayload : BlsKeygenPayload
  guardianEnclavePublicKey : EthPublicKey
  workloadId : Str
  verifySession : Bool
  validatorIndex : ValidatorIndex

structure ValidateCustodyResponse where
  enclaveSignature : Str
  blsPubKey : Str
  withdrawalCredentials : Str
  depositSignature : Str
  depositDataRoot : Str

structure SignExitRequest where
  blsPubKeySet : Str
  guardianIndex : UInt64
  validatorIndex : UInt64
  forkInfo : ForkInfo

structure SignExitResponse where
  signature : Str
  message : Str

structure AttestFreshBlsKeyPayload [Secp256k1] where
  guardianPubkeys : List EthPublicKey
  withdrawalCredentials : Bytes 32
  threshold : UInt64
  forkVersion : Version
  doRemoteAttestation : Bool

/-- A public key set from hex text. -/
def parsePublicKeySet [Blsttc] (blsPubKeySet : Str) :
    Outcome Blsttc.PublicKeySet := do
  let sanitized := strip0xPrefix blsPubKeySet
  let bytes ← hexDecode sanitized
  Outcome.okOr .blsttc (Blsttc.publicKeySetFromBytes bytes)

theorem parsePublicKeySet_eq_ok [Blsttc] {field : Str}
    {pkSet : Blsttc.PublicKeySet} :
    parsePublicKeySet field = .ok pkSet ↔
      ∃ bytes, Hex.decode (strip0xPrefix field) = some bytes ∧
        Blsttc.publicKeySetFromBytes bytes = some pkSet := by
  simp [parsePublicKeySet, Outcome.bind_eq_ok, hexDecode]

theorem parsePublicKeySet_ne_panic [Blsttc] (field : Str) :
    (parsePublicKeySet field : Outcome Blsttc.PublicKeySet) ≠
      .error .panic :=
  Outcome.bind_ne_panic Outcome.okOr_ne_panic
    fun _ _ => Outcome.okOr_ne_panic

def SignExitRequest.publicKeySet [Blsttc] (self : SignExitRequest) :
    Outcome Blsttc.PublicKeySet :=
  parsePublicKeySet self.blsPubKeySet

namespace BlsKeygenPayload

section Accessors

variable [Blsttc] (self : BlsKeygenPayload)

def publicKeySet : Outcome Blsttc.PublicKeySet :=
  parsePublicKeySet self.blsPubKeySet

/-- `withdrawal_credentials()`. -/
def withdrawalCredentialsBytes : Outcome (Bytes 32) := do
  let sanitized := strip0xPrefix self.withdrawalCredentials
  let wcBytes ← hexDecode sanitized
  Outcome.bailIf (wcBytes.length ≠ WITHDRAWAL_CREDENTIALS_BYTES)
    "Invalid  withdrawal_credentials"
  copyFromSlice WITHDRAWAL_CREDENTIALS_BYTES wcBytes

omit [Blsttc] in
theorem withdrawalCredentialsBytes_eq_ok {wc : Bytes 32} :
    self.withdrawalCredentialsBytes = .ok wc ↔
      Hex.decode (strip0xPrefix self.withdrawalCredentials) =
        some wc.toList := by
  simp only [withdrawalCredentialsBytes, WITHDRAWAL_CREDENTIALS_BYTES,
    Outcome.bind_eq_ok, hexDecode, Outcome.okOr_eq_ok, copyFromSlice_eq_ok,
    toArray?_eq_some]
  constructor
  · rintro ⟨bytes, hbytes, -, -, rfl⟩
    exact hbytes
  · intro h
    exact ⟨wc.toList, h, (),
      Outcome.bailIf_eq_ok.mpr (not_not.mpr wc.toList_length), rfl⟩

/-- `signature()`: a length other than 96 bytes panics. -/
def parsedSignature : Outcome Blsttc.Signature := do
  let sanitized := strip0xPrefix self.signature
  let sigBytes ← copyFromSlice BLS_SIG_BYTES (← hexDecode sanitized)
  Outcome.okOr .blsttc (Blsttc.signatureFromBytes sigBytes)

theorem parsedSignature_eq_ok {sig : Blsttc.Signature} :
    self.parsedSignature = .ok sig ↔
      ∃ bytes : Bytes 96,
        Hex.decode (strip0xPrefix self.signature) = some bytes.toList ∧
          Blsttc.signatureFromBytes bytes = some sig := by
  simp only [parsedSignature, BLS_SIG_BYTES, Outcome.bind_eq_ok, hexDecode,
    Outcome.okOr_eq_ok, copyFromSlice_eq_ok, toArray?_eq_some]
  constructor
  · rintro ⟨_, hhex, bytes, rfl, hsig⟩
    exact ⟨bytes, hhex, hsig⟩
  · rintro ⟨bytes, hhex, hsig⟩
    exact ⟨_, hhex, bytes, rfl, hsig⟩

/-- `deposit_message_root()`. -/
def depositMessageRoot [Hashing] [Eth2TreeHash] : Outcome Root := do
  let pkSet ← self.publicKeySet
  let withdrawalCredentials ← self.withdrawalCredentialsBytes
  let pk ← Blsttc.publicKeyOf pkSet
  let depositMessage := fullDepositMessage
    (Blsttc.publicKeyToBytes pk).toList withdrawalCredentials
  let domain := computeDomain DOMAIN_DEPOSIT (some self.forkVersion) none
  return computeSigningRoot depositMessage domain

/-- `deposit_data_root()`: the root computed from the other fields. -/
def computedDepositDataRoot [Eth2TreeHash] : Outcome Root := do
  let pkSet ← self.publicKeySet
  let pk ← Blsttc.publicKeyOf pkSet
  let withdrawalCredentials ← self.withdrawalCredentialsBytes
  let signature ← self.parsedSignature
  let depositData : DepositData := {
    pubkey := fixedVectorFrom 48 (Blsttc.publicKeyToBytes pk).toList
    withdrawalCredentials := withdrawalCredentials
    amount := FULL_DEPOSIT_AMOUNT
    signature := fixedVectorFrom 96
      (Blsttc.signatureToBytes signature).toList }
  return TreeHash.treeHashRoot depositData

def verifyPublicKeysMatch : Outcome Bool := do
  let pkSet ← self.publicKeySet
  let expPkHex := strip0xPrefix self.blsPubKey
  let pk ← Blsttc.publicKeyOf pkSet
  return Blsttc.publicKeyToHex pk = expPkHex

def decryptSkShare [Secp256k1] (shareIndex : ℕ)
    (guardianEnclaveSk : EthSecretKey) : Outcome Blsttc.SecretKeyShare := do
  match self.blsEncPrivKeyShares[shareIndex]? with
  | none =>
      Outcome.bail "bad share_index to read from bls_enc_priv_key_shares"
  | some s =>
      let sanitizedEncSkShare := strip0xPrefix s
      let encSkBytes ← hexDecode sanitizedEncSkShare
      let skBytes ← envelopeDecrypt guardianEnclaveSk encSkBytes
      let skArray ← Outcome.okOr .fromSlice (toArray? 32 skBytes)
      Outcome.okOr .blsttc (Blsttc.secretKeyFromBytes skArray)

theorem decryptSkShare_eq_ok [Secp256k1] {i : ℕ} {sk : EthSecretKey}
    {share : Blsttc.SecretKeyShare} :
    self.decryptSkShare i sk = .ok share ↔
      ∃ enc ciphertext, ∃ bytes : Bytes 32,
        self.blsEncPrivKeyShares[i]? = some enc ∧
          Hex.decode (strip0xPrefix enc) = some ciphertext ∧
          Secp256k1.eciesDecrypt (Secp256k1.secretKeySerialize sk)
            ciphertext = some bytes.toList ∧
          Blsttc.secretKeyFromBytes bytes = some share := by
  unfold decryptSkShare
  split
  · next hnone => simp [hnone]
  · next enc henc =>
      simp only [henc, Outcome.bind_eq_ok, hexDecode, Outcome.okOr_eq_ok,
        envelopeDecrypt_eq_ok, toArray?_eq_some]
      constructor
      · rintro ⟨ciphertext, hhex, _, hdecrypt, bytes, rfl, hshare⟩
        exact ⟨enc, ciphertext, bytes, rfl, hhex, hdecrypt, hshare⟩
      · rintro ⟨_, ciphertext, bytes, ⟨⟩, hhex, hdecrypt, hshare⟩
        exact ⟨ciphertext, hhex, _, hdecrypt, bytes, rfl, hshare⟩

theorem decryptSkShare_ne_panic [Secp256k1] (i : ℕ) (sk : EthSecretKey) :
    self.decryptSkShare i sk ≠ .error .panic := by
  unfold decryptSkShare
  split
  · exact Outcome.bail_ne_panic
  · refine Outcome.bind_ne_panic Outcome.okOr_ne_panic fun _ _ => ?_
    refine Outcome.bind_ne_panic
      (Outcome.withContext_ne_panic Outcome.okOr_ne_panic) fun _ _ => ?_
    exact Outcome.bind_ne_panic Outcome.okOr_ne_panic
      fun _ _ => Outcome.okOr_ne_panic

end Accessors

end BlsKeygenPayload

end ValidatorGuardian
