import ValidatorGuardian.Crates.Exponent
import ValidatorGuardian.Enclave.Guardian
import ValidatorGuardian.Eth2.Wire
import ValidatorGuardian.Support.Base64

/-!
# Requests and responses of the enclaves as documents

How a public key of a guardian or an identity of the agent is written is taken
as given; the records around them are written with the keys of the source.
-/

namespace ValidatorGuardian

open Json (Codec Fields)

/-- How `libsecp256k1` writes a public key, which of its encodings it parses,
and how the CVM agent writes an identity. -/
class KeySerde [Secp256k1] where
  publicKey : Codec EthPublicKey
  publicKeyParseSlice : List UInt8 → Option EthPublicKey
  publicIdentity : Codec PublicIdentity

/-- What is written is read back. -/
class KeySerde.Lossless [Secp256k1] [KeySerde] : Prop where
  publicKey : publicKey.Lossless
  publicKeyParseSlice : ∀ pk : EthPublicKey,
    publicKeyParseSlice (Secp256k1.publicKeySerialize pk).toList = some pk
  publicIdentity : publicIdentity.Lossless

attribute [instance] KeySerde.Lossless.publicKey
  KeySerde.Lossless.publicIdentity

namespace TransparentSerde

variable [Secp256k1]

/-- Keys as Base64 text, identities as objects with a number and hex. -/
scoped instance keySerde : KeySerde where
  publicKey :=
    { encode := fun pk =>
        .str (Base64.encode (Secp256k1.publicKeySerialize pk).toList)
      decode := fun v => do
        let bytes ← Base64.decode (← Codec.text v)
        Secp256k1.publicKeyParse (← toArray? 65 bytes) }
  publicKeyParseSlice bytes := do
    Secp256k1.publicKeyParse (← toArray? 65 bytes)
  publicIdentity :=
    (((Fields.one "typeId" .u8).beside <|
      .one "key" (sszHex id some)).iso
    ⟨fun x => ⟨x.1, x.2⟩, fun x => (x.typeId, x.key),
      fun _ => rfl, fun _ => rfl⟩).codec

theorem keySerde_lossless (h : Secp256k1.UncompressedParses) :
    KeySerde.Lossless where
  publicKey := ⟨fun pk => by
    simp [KeySerde.publicKey, Codec.back, Codec.text, h pk]⟩
  publicKeyParseSlice pk := by
    simp [KeySerde.publicKeyParseSlice, h pk]
  publicIdentity := by
    have hkey : (sszHex id some : Codec (List UInt8)).Lossless :=
      ⟨fun key => back_sszHex⟩
    unfold KeySerde.publicIdentity keySerde
    infer_instance

end TransparentSerde

/-! ## Signing -/

abbrev SignatureResponse.codec : Codec SignatureResponse :=
  ((Fields.one "signature" .string).iso
  ⟨fun x => ⟨x⟩, fun x => x.signature, fun _ => rfl, fun _ => rfl⟩).codec

abbrev DepositResponse.codec : Codec DepositResponse :=
  (((Fields.one "pubkey" .string).beside <|
    (Fields.one "withdrawal_credentials" .string).beside <|
    (Fields.one "amount" .u64).beside <|
    (Fields.one "signature" .string).beside <|
    (Fields.one "deposit_message_root" .string).beside <|
    .one "deposit_data_root" .string).iso
  ⟨fun x => ⟨x.1, x.2.1, x.2.2.1, x.2.2.2.1, x.2.2.2.2.1, x.2.2.2.2.2⟩,
    fun x => (x.pubkey, x.withdrawalCredentials, x.amount, x.signature,
      x.depositMessageRoot, x.depositDataRoot),
    fun _ => rfl, fun _ => rfl⟩).codec

/-! ## Custody and exits -/

abbrev BlsKeygenPayload.codec : Codec BlsKeygenPayload :=
  (((Fields.one "bls_pub_key_set" .string).beside <|
    (Fields.one "bls_pub_key" .string).beside <|
    (Fields.one "signature" .string).beside <|
    (Fields.one "deposit_data_root" .string).beside <|
    (Fields.one "bls_enc_priv_key_shares" Codec.string.list).beside <|
    (Fields.one "session_id" .string).beside <|
    (Fields.one "attestation_signature" .string).beside <|
    (Fields.one "session_public_key" .string).beside <|
    (Fields.one "guardian_eth_pub_keys" Codec.string.list).beside <|
    (Fields.one "withdrawal_credentials" .string).beside <|
    .one "fork_version" (.vector 4 .u8)).iso
  ⟨fun x => ⟨x.1, x.2.1, x.2.2.1, x.2.2.2.1, x.2.2.2.2.1, x.2.2.2.2.2.1,
      x.2.2.2.2.2.2.1, x.2.2.2.2.2.2.2.1, x.2.2.2.2.2.2.2.2.1,
      x.2.2.2.2.2.2.2.2.2.1, x.2.2.2.2.2.2.2.2.2.2⟩,
    fun x => (x.blsPubKeySet, x.blsPubKey, x.signature, x.depositDataRoot,
      x.blsEncPrivKeyShares, x.sessionId, x.attestationSignature,
      x.sessionPublicKey, x.guardianEthPubKeys, x.withdrawalCredentials,
      x.forkVersion),
    fun _ => rfl, fun _ => rfl⟩).codec

abbrev ValidateCustodyResponse.codec : Codec ValidateCustodyResponse :=
  (((Fields.one "enclaveSignature" .string).beside <|
    (Fields.one "blsPubKey" .string).beside <|
    (Fields.one "withdrawalCredentials" .string).beside <|
    (Fields.one "depositSignature" .string).beside <|
    .one "depositDataRoot" .string).iso
  ⟨fun x => ⟨x.1, x.2.1, x.2.2.1, x.2.2.2.1, x.2.2.2.2⟩,
    fun x => (x.enclaveSignature, x.blsPubKey, x.withdrawalCredentials,
      x.depositSignature, x.depositDataRoot),
    fun _ => rfl, fun _ => rfl⟩).codec

abbrev SignExitRequest.codec [SerdeHex] : Codec SignExitRequest :=
  (((Fields.one "blsPubKeySet" .string).beside <|
    (Fields.one "guardianIndex" .u64).beside <|
    (Fields.one "validatorIndex" .u64).beside <|
    .one "forkInfo" ForkInfo.codec).iso
  ⟨fun x => ⟨x.1, x.2.1, x.2.2.1, x.2.2.2⟩,
    fun x => (x.blsPubKeySet, x.guardianIndex, x.validatorIndex, x.forkInfo),
    fun _ => rfl, fun _ => rfl⟩).codec

abbrev SignExitResponse.codec : Codec SignExitResponse :=
  (((Fields.one "signature" .string).beside <|
    .one "message" .string).iso
  ⟨fun x => ⟨x.1, x.2⟩, fun x => (x.signature, x.message),
    fun _ => rfl, fun _ => rfl⟩).codec

/-! ## Key generation -/

structure KeygenWithBlockhashRequest where
  blockNumber : UInt64
  guardianModuleAddress : Str
  chainId : UInt64

abbrev KeygenWithBlockhashRequest.codec : Codec KeygenWithBlockhashRequest :=
  (((Fields.one "block_number" .u64).beside <|
    (Fields.one "guardian_module_address" .string).beside <|
    .one "chain_id" .u64).iso
  ⟨fun x => ⟨x.1, x.2.1, x.2.2⟩,
    fun x => (x.blockNumber, x.guardianModuleAddress, x.chainId),
    fun _ => rfl, fun _ => rfl⟩).codec

structure KeyGenResponse where
  pkHex : Str
  evidence : AttestationEvidence

def KeyGenResponse.fromEthKey [Secp256k1] (pk : EthPublicKey)
    (evidence : AttestationEvidence) : KeyGenResponse :=
  let pk := strip0xPrefix (Hex.encode (Secp256k1.publicKeySerialize pk).toList)
  { pkHex := '0' :: 'x' :: pk
    evidence := evidence }

def KeyGenResponse.fromBlsKey [Blsttc] (pk : Blsttc.PublicKey)
    (evidence : AttestationEvidence) : KeyGenResponse where
  pkHex := '0' :: 'x' :: Blsttc.publicKeyToHex pk
  evidence := evidence

/-- `serialize_as_32_bytes_array` and `deserialize_32_bytes_from_hex`. -/
def hex32Bytes : Codec (Bytes 32) where
  encode data := .str (Hex.encode data.toList)
  decode v := do
    let value ← Codec.text v
    let bytes ← Hex.decode value
    toArray? 32 bytes

instance : hex32Bytes.Lossless :=
  ⟨fun data => by simp [hex32Bytes, Codec.back, Codec.text]⟩

section Keys

variable [Secp256k1] [KeySerde]

/-- An element of `serialize_pubkeys_hex` and
`deserialize_pubkeys_from_hex`. -/
def pubkeyHex : Codec EthPublicKey where
  encode pubkey :=
    .str (Hex.encode (Secp256k1.publicKeySerialize pubkey).toList)
  decode v := do
    let hexString ← Codec.text v
    let bytes ← Hex.decode (strip0xPrefix hexString)
    KeySerde.publicKeyParseSlice bytes

instance [KeySerde.Lossless] : pubkeyHex.Lossless :=
  ⟨fun pk => by
    simp [pubkeyHex, Codec.back, Codec.text,
      KeySerde.Lossless.publicKeyParseSlice]⟩

abbrev AttestationEvidence.codec : Codec AttestationEvidence :=
  (((Fields.one "session_id" .string).beside <|
    (Fields.one "signature" .string).beside <|
    (Fields.one "session_public_key" KeySerde.publicIdentity).beside <|
    .one "owner_public_key" KeySerde.publicIdentity).iso
  ⟨fun x => ⟨x.1, x.2.1, x.2.2.1, x.2.2.2⟩,
    fun x => (x.sessionId, x.signature, x.sessionPublicKey, x.ownerPublicKey),
    fun _ => rfl, fun _ => rfl⟩).codec

abbrev KeyGenResponse.codec : Codec KeyGenResponse :=
  (((Fields.one "pk_hex" .string).beside <|
    .one "evidence" AttestationEvidence.codec).iso
  ⟨fun x => ⟨x.1, x.2⟩, fun x => (x.pkHex, x.evidence),
    fun _ => rfl, fun _ => rfl⟩).codec

abbrev ValidateCustodyRequest.codec : Codec ValidateCustodyRequest :=
  (((Fields.one "keygenPayload" BlsKeygenPayload.codec).beside <|
    (Fields.one "guardianEnclavePublicKey" KeySerde.publicKey).beside <|
    (Fields.one "workloadId" .string).beside <|
    (Fields.one "verifySession" .bool).beside <|
    .one "validatorIndex" .u64).iso
  ⟨fun x => ⟨x.1, x.2.1, x.2.2.1, x.2.2.2.1, x.2.2.2.2⟩,
    fun x => (x.keygenPayload, x.guardianEnclavePublicKey, x.workloadId,
      x.verifySession, x.validatorIndex),
    fun _ => rfl, fun _ => rfl⟩).codec

abbrev AttestFreshBlsKeyPayload.codec : Codec AttestFreshBlsKeyPayload :=
  (((Fields.one "guardianPubkeys" pubkeyHex.list).beside <|
    (Fields.one "withdrawalCredentials" hex32Bytes).beside <|
    (Fields.one "threshold" .u64).beside <|
    (Fields.one "forkVersion" (.vector 4 .u8)).beside <|
    .one "doRemoteAttestation" .bool).iso
  ⟨fun x => ⟨x.1, x.2.1, x.2.2.1, x.2.2.2.1, x.2.2.2.2⟩,
    fun x => (x.guardianPubkeys, x.withdrawalCredentials, x.threshold,
      x.forkVersion, x.doRemoteAttestation),
    fun _ => rfl, fun _ => rfl⟩).codec

end Keys

example : BlsKeygenPayload.codec.Lossless := inferInstance

example [Secp256k1] [KeySerde] [KeySerde.Lossless] :
    ValidateCustodyRequest.codec.Lossless := inferInstance

example [Secp256k1] [KeySerde] [KeySerde.Lossless] :
    AttestFreshBlsKeyPayload.codec.Lossless := inferInstance

end ValidatorGuardian
