import ValidatorGuardian.Crates.SszTypes
import ValidatorGuardian.Eth2.Deserializers
import ValidatorGuardian.Eth2.Signing

/-!
# Signing requests as documents

The containers are written with the keys of the source, a signing request as
its fields after the name of its kind.  Every request is read back from what is
written of it, except blocks: their 256-bit integers are refused when they take
fewer than four limbs.
-/

namespace ValidatorGuardian

open Json (Codec Fields)

/-! ## Fields -/

/-- `SerHex::<StrictPfx>`; text on which the reader panics is not read. -/
def serHex [SerdeHex] (N : ℕ) : Codec (Bytes N) where
  encode b := .str ('0' :: 'x' :: Hex.encode b.toList)
  decode v := do
    let s ← borrowedStr v
    (SerdeHex.fromHex N s).toOption

instance [SerdeHex] (N : ℕ) : (serHex N).Lossless where
  back b := by
    simp only [serHex, Codec.back, borrowedStr, Option.bind_eq_bind,
      Option.bind_some, SerdeHex.fromHex_prefixed]
    rfl

/-- `from_hex_to_ssz_type` and `to_hex_from_ssz_type` of
`FixedVector<u8, N>`. -/
def hexSszVector (N : ℕ) : Codec (Bytes N) where
  encode := toHexFromSszVector
  decode v := (fromHexToSszVector N v).toOption

instance (N : ℕ) : (hexSszVector N).Lossless where
  back b := by
    have hok : fromHexToSszVector N (toHexFromSszVector b) = .ok b := by
      rw [fromHexToSszVector_eq_ok]
      exact ⟨_, b.toList, rfl, by simp, fixedVectorFrom_bytes b⟩
    exact Outcome.toOption_eq_some.mpr hok

/-- The hex of bytes, and the bytes of borrowed hex. -/
def sszHex {α : Type} (write : α → List UInt8)
    (read : List UInt8 → Option α) : Codec α where
  encode a := .str ('0' :: 'x' :: Hex.encode (write a))
  decode v := do
    let s ← borrowedStr v
    let bytes ← Hex.decode (strip0xPrefix s)
    read bytes

theorem back_sszHex {α : Type} {write : α → List UInt8}
    {read : List UInt8 → Option α} {a : α} :
    (sszHex write read).back a = read (write a) := by
  simp [sszHex, Codec.back, borrowedStr]

/-- `from_hex_to_ssz_type` and `to_hex_from_ssz_type` of
`VariableList<u8, N>`. -/
def hexSszList (N : ℕ) : Codec (VariableList UInt8 N) :=
  sszHex (·.1) fun bytes => some (variableListFrom N bytes)

instance (N : ℕ) : (hexSszList N).Lossless :=
  ⟨fun l => by rw [hexSszList, back_sszHex, variableListFrom_val]⟩

/-- `from_hex_to_ssz_bits_type` of `BitVector<N>`. -/
def hexSszBitVector (N : ℕ) : Codec (BitVector N) :=
  sszHex BitVector.asSszBytes (BitVector.fromSszBytes N)

instance (N : ℕ) : (hexSszBitVector N).Lossless :=
  ⟨fun bits => back_sszHex.trans bits.fromSszBytes_asSszBytes⟩

/-- `from_hex_to_ssz_bits_type` of `BitList<N>`. -/
def hexSszBitList (N : ℕ) : Codec (BitList N) :=
  sszHex BitList.asSszBytes (BitList.fromSszBytes N)

instance (N : ℕ) : (hexSszBitList N).Lossless :=
  ⟨fun bits => back_sszHex.trans bits.fromSszBytes_asSszBytes⟩

/-- `from_hex_vec_to_ssz_type` and `to_hex_vec_from_ssz_type`. -/
def hexVecSsz (N : ℕ) : Codec (VariableList KZGCommitment N) where
  encode l := toHexVecFromSszType l.1
  decode v := (fromHexVecToSszType N v).toOption.map (variableListFrom N)

instance (N : ℕ) : (hexVecSsz N).Lossless where
  back l := by
    simp only [hexVecSsz, Codec.back]
    rw [fromHexVecToSszType_toHexVecFromSszType l.2]
    exact congrArg some (variableListFrom_val l)

/-- `from_u256_string` and `to_u256_string`. -/
def u256String [NumBigint] : Codec U256 where
  encode := toU256String
  decode v := (fromU256String v).toOption

/-- The numbers that take four limbs. -/
def FourLimbs (u : U256) : Prop :=
  2 ^ 192 ≤ Limbs.value u.toList

instance (u : U256) : Decidable (FourLimbs u) :=
  inferInstanceAs (Decidable (_ ≤ _))

theorem back_u256String [NumBigint] (laws : NumBigint.Laws) (u : U256) :
    u256String.back u = if FourLimbs u then some u else none := by
  by_cases h : FourLimbs u
  · have hback := ((decimalRoundTrip_iff laws _).mpr h).back u rfl
    rw [if_pos h]
    exact Outcome.toOption_eq_some.mpr hback
  · rw [if_neg h]
    change (fromU256String (toU256String u)).toOption = none
    rw [toU256String_eq laws]
    rcases fromU256String_of_isDecimal laws (isDecimal_toDigits
      (Limbs.value u.toList)) with ⟨hlow, -⟩ | ⟨-, hbail⟩
    · exact absurd hlow h
    · rw [hbail]
      rfl

section Containers

variable [SerdeHex]

/-- The field of a signing root, skipped when there is none. -/
def signingRootField : Fields (Option Root) :=
  .skipping "signingRoot" none
    (fun value => value.map fun root => .str (Hex.encode root.toList))
    fun v => (deSigningRoot v).toOption

@[simp] theorem keys_signingRootField :
    signingRootField.keys = ["signingRoot"] := (rfl)

instance : signingRootField.Lossless where
  back root := by
    cases root with
    | none => rfl
    | some root =>
        exact Outcome.toOption_eq_some.mpr (deSigningRoot_encode root)

/-! ## Containers -/

abbrev Fork.codec : Codec Fork :=
  (((Fields.one "previous_version" (serHex 4)).beside <|
    (Fields.one "current_version" (serHex 4)).beside <|
    .one "epoch" .quoted).iso
  ⟨fun x => ⟨x.1, x.2.1, x.2.2⟩,
    fun x => (x.previousVersion, x.currentVersion, x.epoch),
    fun _ => rfl, fun _ => rfl⟩).codec

abbrev ForkInfo.codec : Codec ForkInfo :=
  (((Fields.one "fork" Fork.codec).beside <|
    .one "genesis_validators_root" (serHex 32)).iso
  ⟨fun x => ⟨x.1, x.2⟩,
    fun x => (x.fork, x.genesisValidatorsRoot),
    fun _ => rfl, fun _ => rfl⟩).codec

abbrev Checkpoint.codec : Codec Checkpoint :=
  (((Fields.one "epoch" .quoted).beside <|
    .one "root" (serHex 32)).iso
  ⟨fun x => ⟨x.1, x.2⟩,
    fun x => (x.epoch, x.root),
    fun _ => rfl, fun _ => rfl⟩).codec

abbrev RandaoReveal.codec : Codec RandaoReveal :=
  ((Fields.one "epoch" .quoted).iso
    ⟨.mk, RandaoReveal.epoch, fun _ => rfl, fun _ => rfl⟩).codec

abbrev AttestationData.codec : Codec AttestationData :=
  (((Fields.one "slot" .quoted).beside <|
    (Fields.one "index" .quoted).beside <|
    (Fields.one "beacon_block_root" (serHex 32)).beside <|
    (Fields.one "source" Checkpoint.codec).beside <|
    .one "target" Checkpoint.codec).iso
  ⟨fun x => ⟨x.1, x.2.1, x.2.2.1, x.2.2.2.1, x.2.2.2.2⟩,
    fun x => (x.slot, x.index, x.beaconBlockRoot, x.source, x.target),
    fun _ => rfl, fun _ => rfl⟩).codec

abbrev BeaconBlockHeader.codec : Codec BeaconBlockHeader :=
  (((Fields.one "slot" .quoted).beside <|
    (Fields.one "proposer_index" .quoted).beside <|
    (Fields.one "parent_root" (serHex 32)).beside <|
    (Fields.one "state_root" (serHex 32)).beside <|
    .one "body_root" (serHex 32)).iso
  ⟨fun x => ⟨x.1, x.2.1, x.2.2.1, x.2.2.2.1, x.2.2.2.2⟩,
    fun x => (x.slot, x.proposerIndex, x.parentRoot, x.stateRoot, x.bodyRoot),
    fun _ => rfl, fun _ => rfl⟩).codec

abbrev DepositMessage.codec : Codec DepositMessage :=
  (((Fields.one "pubkey" (hexSszVector 48)).beside <|
    (Fields.one "withdrawal_credentials" (serHex 32)).beside <|
    .one "amount" .quoted).iso
  ⟨fun x => ⟨x.1, x.2.1, x.2.2⟩,
    fun x => (x.pubkey, x.withdrawalCredentials, x.amount),
    fun _ => rfl, fun _ => rfl⟩).codec

abbrev VoluntaryExit.codec : Codec VoluntaryExit :=
  (((Fields.one "epoch" .quoted).beside <|
    .one "validator_index" .quoted).iso
  ⟨fun x => ⟨x.1, x.2⟩,
    fun x => (x.epoch, x.validatorIndex),
    fun _ => rfl, fun _ => rfl⟩).codec

abbrev ValidatorRegistration.codec : Codec ValidatorRegistration :=
  (((Fields.one "fee_recipient" (hexSszVector 20)).beside <|
    (Fields.one "gas_limit" .quoted).beside <|
    (Fields.one "timestamp" .quoted).beside <|
    .one "pubkey" (hexSszVector 48)).iso
  ⟨fun x => ⟨x.1, x.2.1, x.2.2.1, x.2.2.2⟩,
    fun x => (x.feeRecipient, x.gasLimit, x.timestamp, x.pubkey),
    fun _ => rfl, fun _ => rfl⟩).codec

abbrev Attestation.codec : Codec Attestation :=
  (((Fields.one "aggregation_bits" (hexSszBitList 2048)).beside <|
    (Fields.one "data" AttestationData.codec).beside <|
    .one "signature" (hexSszVector 96)).iso
  ⟨fun x => ⟨x.1, x.2.1, x.2.2⟩,
    fun x => (x.aggregationBits, x.data, x.signature),
    fun _ => rfl, fun _ => rfl⟩).codec

abbrev AggregateAndProof.codec : Codec AggregateAndProof :=
  (((Fields.one "aggregator_index" .quoted).beside <|
    (Fields.one "aggregate" Attestation.codec).beside <|
    .one "selection_proof" (hexSszVector 96)).iso
  ⟨fun x => ⟨x.1, x.2.1, x.2.2⟩,
    fun x => (x.aggregatorIndex, x.aggregate, x.selectionProof),
    fun _ => rfl, fun _ => rfl⟩).codec

abbrev SyncCommitteeContribution.codec : Codec SyncCommitteeContribution :=
  (((Fields.one "slot" .quoted).beside <|
    (Fields.one "beacon_block_root" (serHex 32)).beside <|
    (Fields.one "subcommittee_index" .quoted).beside <|
    (Fields.one "aggregation_bits" (hexSszBitVector 128)).beside <|
    .one "signature" (hexSszVector 96)).iso
  ⟨fun x => ⟨x.1, x.2.1, x.2.2.1, x.2.2.2.1, x.2.2.2.2⟩,
    fun x => (x.slot, x.beaconBlockRoot, x.subcommitteeIndex,
      x.aggregationBits, x.signature),
    fun _ => rfl, fun _ => rfl⟩).codec

abbrev ContributionAndProof.codec : Codec ContributionAndProof :=
  (((Fields.one "aggregator_index" .quoted).beside <|
    (Fields.one "contribution" SyncCommitteeContribution.codec).beside <|
    .one "selection_proof" (hexSszVector 96)).iso
  ⟨fun x => ⟨x.1, x.2.1, x.2.2⟩,
    fun x => (x.aggregatorIndex, x.contribution, x.selectionProof),
    fun _ => rfl, fun _ => rfl⟩).codec

abbrev SyncAggregatorSelectionData.codec : Codec SyncAggregatorSelectionData :=
  (((Fields.one "slot" .quoted).beside <|
    .one "subcommittee_index" .quoted).iso
  ⟨fun x => ⟨x.1, x.2⟩,
    fun x => (x.slot, x.subcommitteeIndex),
    fun _ => rfl, fun _ => rfl⟩).codec

abbrev AggregationSlot.codec : Codec AggregationSlot :=
  ((Fields.one "slot" .quoted).iso
    ⟨.mk, AggregationSlot.slot, fun _ => rfl, fun _ => rfl⟩).codec

abbrev SyncCommitteeMessageRequestWrapper.codec :
    Codec SyncCommitteeMessageRequestWrapper :=
  (((Fields.one "slot" .quoted).beside <|
    .one "beacon_block_root" (serHex 32)).iso
  ⟨fun x => ⟨x.1, x.2⟩,
    fun x => (x.slot, x.beaconBlockRoot),
    fun _ => rfl, fun _ => rfl⟩).codec

abbrev BlockV2RequestWrapper.codec : Codec BlockV2RequestWrapper :=
  (((Fields.one "version" .string).beside <|
    .one "block_header" BeaconBlockHeader.codec).iso
  ⟨fun x => ⟨x.1, x.2⟩,
    fun x => (x.version, x.blockHeader),
    fun _ => rfl, fun _ => rfl⟩).codec

/-! ## Blocks -/

section Blocks

variable [SszSerde]

abbrev SignedBeaconBlockHeader.codec : Codec SignedBeaconBlockHeader :=
  (((Fields.one "message" BeaconBlockHeader.codec).beside <|
    .one "signature" (hexSszVector 96)).iso
  ⟨fun x => ⟨x.1, x.2⟩,
    fun x => (x.message, x.signature),
    fun _ => rfl, fun _ => rfl⟩).codec

abbrev ProposerSlashing.codec : Codec ProposerSlashing :=
  (((Fields.one "signed_header_1" SignedBeaconBlockHeader.codec).beside <|
    .one "signed_header_2" SignedBeaconBlockHeader.codec).iso
  ⟨fun x => ⟨x.1, x.2⟩,
    fun x => (x.signedHeader1, x.signedHeader2),
    fun _ => rfl, fun _ => rfl⟩).codec

abbrev IndexedAttestation.codec : Codec IndexedAttestation :=
  (((Fields.one "attesting_indices"
      (SszSerde.variableList 2048 .u64)).beside <|
    (Fields.one "data" AttestationData.codec).beside <|
    .one "signature" (hexSszVector 96)).iso
  ⟨fun x => ⟨x.1, x.2.1, x.2.2⟩,
    fun x => (x.attestingIndices, x.data, x.signature),
    fun _ => rfl, fun _ => rfl⟩).codec

abbrev AttesterSlashing.codec : Codec AttesterSlashing :=
  (((Fields.one "attestation_1" IndexedAttestation.codec).beside <|
    .one "attestation_2" IndexedAttestation.codec).iso
  ⟨fun x => ⟨x.1, x.2⟩,
    fun x => (x.attestation1, x.attestation2),
    fun _ => rfl, fun _ => rfl⟩).codec

abbrev Eth1Data.codec : Codec Eth1Data :=
  (((Fields.one "deposit_root" (serHex 32)).beside <|
    (Fields.one "deposit_count" .quoted).beside <|
    .one "block_hash" (serHex 32)).iso
  ⟨fun x => ⟨x.1, x.2.1, x.2.2⟩,
    fun x => (x.depositRoot, x.depositCount, x.blockHash),
    fun _ => rfl, fun _ => rfl⟩).codec

abbrev DepositData.codec : Codec DepositData :=
  (((Fields.one "pubkey" (hexSszVector 48)).beside <|
    (Fields.one "withdrawal_credentials" (serHex 32)).beside <|
    (Fields.one "amount" .quoted).beside <|
    .one "signature" (hexSszVector 96)).iso
  ⟨fun x => ⟨x.1, x.2.1, x.2.2.1, x.2.2.2⟩,
    fun x => (x.pubkey, x.withdrawalCredentials, x.amount, x.signature),
    fun _ => rfl, fun _ => rfl⟩).codec

abbrev Deposit.codec : Codec Deposit :=
  (((Fields.one "proof" (SszSerde.fixedVector 33 (.vector 32 .u8))).beside <|
    .one "data" DepositData.codec).iso
  ⟨fun x => ⟨x.1, x.2⟩,
    fun x => (x.proof, x.data),
    fun _ => rfl, fun _ => rfl⟩).codec

abbrev SignedVoluntaryExit.codec : Codec SignedVoluntaryExit :=
  (((Fields.one "message" VoluntaryExit.codec).beside <|
    .one "signature" (hexSszVector 96)).iso
  ⟨fun x => ⟨x.1, x.2⟩,
    fun x => (x.message, x.signature),
    fun _ => rfl, fun _ => rfl⟩).codec

abbrev SyncAggregate.codec : Codec SyncAggregate :=
  (((Fields.one "sync_committee_bits" (hexSszBitVector 512)).beside <|
    .one "sync_committee_signature" (hexSszVector 96)).iso
  ⟨fun x => ⟨x.1, x.2⟩,
    fun x => (x.syncCommitteeBits, x.syncCommitteeSignature),
    fun _ => rfl, fun _ => rfl⟩).codec

abbrev Withdrawal.codec : Codec Withdrawal :=
  (((Fields.one "index" .quoted).beside <|
    (Fields.one "validator_index" .quoted).beside <|
    (Fields.one "address" (hexSszVector 20)).beside <|
    .one "amount" .quoted).iso
  ⟨fun x => ⟨x.1, x.2.1, x.2.2.1, x.2.2.2⟩,
    fun x => (x.index, x.validatorIndex, x.address, x.amount),
    fun _ => rfl, fun _ => rfl⟩).codec

abbrev BLSToExecutionChange.codec : Codec BLSToExecutionChange :=
  (((Fields.one "validator_index" .quoted).beside <|
    (Fields.one "from_bls_pubkey" (hexSszVector 48)).beside <|
    .one "to_execution_address" (hexSszVector 20)).iso
  ⟨fun x => ⟨x.1, x.2.1, x.2.2⟩,
    fun x => (x.validatorIndex, x.fromBlsPubkey, x.toExecutionAddress),
    fun _ => rfl, fun _ => rfl⟩).codec

abbrev SignedBLSToExecutionChange.codec : Codec SignedBLSToExecutionChange :=
  (((Fields.one "message" BLSToExecutionChange.codec).beside <|
    .one "signature" (hexSszVector 96)).iso
  ⟨fun x => ⟨x.1, x.2⟩,
    fun x => (x.message, x.signature),
    fun _ => rfl, fun _ => rfl⟩).codec

variable [NumBigint]

def ExecutionPayload.codec : Codec ExecutionPayload :=
  (((Fields.one "parent_hash" (serHex 32)).beside <|
    (Fields.one "fee_recipient" (hexSszVector 20)).beside <|
    (Fields.one "state_root" (serHex 32)).beside <|
    (Fields.one "receipts_root" (serHex 32)).beside <|
    (Fields.one "logs_bloom" (hexSszVector 256)).beside <|
    (Fields.one "prev_randao" (serHex 32)).beside <|
    (Fields.one "block_number" .quoted).beside <|
    (Fields.one "gas_limit" .quoted).beside <|
    (Fields.one "gas_used" .quoted).beside <|
    (Fields.one "timestamp" .quoted).beside <|
    (Fields.one "extra_data" (hexSszList 32)).beside <|
    (Fields.one "base_fee_per_gas" u256String).beside <|
    (Fields.one "block_hash" (serHex 32)).beside <|
    (Fields.one "transactions" (SszSerde.variableList 1048576
      (SszSerde.variableList 1073741824 .u8))).beside <|
    (Fields.one "withdrawals"
      (SszSerde.variableList 16 Withdrawal.codec)).beside <|
    .one "excess_data_gas" u256String).iso
  ⟨fun x => ⟨x.1, x.2.1, x.2.2.1, x.2.2.2.1, x.2.2.2.2.1, x.2.2.2.2.2.1,
      x.2.2.2.2.2.2.1, x.2.2.2.2.2.2.2.1, x.2.2.2.2.2.2.2.2.1,
      x.2.2.2.2.2.2.2.2.2.1, x.2.2.2.2.2.2.2.2.2.2.1,
      x.2.2.2.2.2.2.2.2.2.2.2.1, x.2.2.2.2.2.2.2.2.2.2.2.2.1,
      x.2.2.2.2.2.2.2.2.2.2.2.2.2.1, x.2.2.2.2.2.2.2.2.2.2.2.2.2.2.1,
      x.2.2.2.2.2.2.2.2.2.2.2.2.2.2.2⟩,
    fun x => (x.parentHash, x.feeRecipient, x.stateRoot, x.receiptsRoot,
      x.logsBloom, x.prevRandao, x.blockNumber, x.gasLimit, x.gasUsed,
      x.timestamp, x.extraData, x.baseFeePerGas, x.blockHash, x.transactions,
      x.withdrawals, x.excessDataGas),
    fun _ => rfl, fun _ => rfl⟩).codec

def BeaconBlockBody.codec : Codec BeaconBlockBody :=
  (((Fields.one "randao_reveal" (hexSszVector 96)).beside <|
    (Fields.one "eth1_data" Eth1Data.codec).beside <|
    (Fields.one "graffiti" (serHex 32)).beside <|
    (Fields.one "proposer_slashings"
      (SszSerde.variableList 16 ProposerSlashing.codec)).beside <|
    (Fields.one "attester_slashings"
      (SszSerde.variableList 2 AttesterSlashing.codec)).beside <|
    (Fields.one "attestations"
      (SszSerde.variableList 128 Attestation.codec)).beside <|
    (Fields.one "deposits" (SszSerde.variableList 16 Deposit.codec)).beside <|
    (Fields.one "voluntary_exits"
      (SszSerde.variableList 16 SignedVoluntaryExit.codec)).beside <|
    (Fields.one "sync_aggregate" SyncAggregate.codec).beside <|
    (Fields.one "execution_payload" ExecutionPayload.codec).beside <|
    (Fields.one "bls_to_execution_changes"
      (SszSerde.variableList 16 SignedBLSToExecutionChange.codec)).beside <|
    .one "blob_kzg_commitments" (hexVecSsz 4096)).iso
  ⟨fun x => ⟨x.1, x.2.1, x.2.2.1, x.2.2.2.1, x.2.2.2.2.1, x.2.2.2.2.2.1,
      x.2.2.2.2.2.2.1, x.2.2.2.2.2.2.2.1, x.2.2.2.2.2.2.2.2.1,
      x.2.2.2.2.2.2.2.2.2.1, x.2.2.2.2.2.2.2.2.2.2.1,
      x.2.2.2.2.2.2.2.2.2.2.2⟩,
    fun x => (x.randaoReveal, x.eth1Data, x.graffiti, x.proposerSlashings,
      x.attesterSlashings, x.attestations, x.deposits, x.voluntaryExits,
      x.syncAggregate, x.executionPayload, x.blsToExecutionChanges,
      x.blobKzgCommitments),
    fun _ => rfl, fun _ => rfl⟩).codec

def BeaconBlock.codec : Codec BeaconBlock :=
  (((Fields.one "slot" .quoted).beside <|
    (Fields.one "proposer_index" .quoted).beside <|
    (Fields.one "parent_root" (serHex 32)).beside <|
    (Fields.one "state_root" (serHex 32)).beside <|
    .one "body" BeaconBlockBody.codec).iso
  ⟨fun x => ⟨x.1, x.2.1, x.2.2.1, x.2.2.2.1, x.2.2.2.2⟩,
    fun x => (x.slot, x.proposerIndex, x.parentRoot, x.stateRoot, x.body),
    fun _ => rfl, fun _ => rfl⟩).codec

/-! ### Blocks that can be sent -/

/-- The 256-bit integers of a payload take four limbs. -/
def ExecutionPayload.FeesFit (x : ExecutionPayload) : Prop :=
  FourLimbs x.baseFeePerGas ∧ FourLimbs x.excessDataGas

instance (x : ExecutionPayload) : Decidable x.FeesFit :=
  inferInstanceAs (Decidable (_ ∧ _))

/-- The 256-bit integers of a block take four limbs. -/
def BeaconBlock.FeesFit (b : BeaconBlock) : Prop :=
  b.body.executionPayload.FeesFit

instance (b : BeaconBlock) : Decidable b.FeesFit :=
  inferInstanceAs (Decidable (ExecutionPayload.FeesFit _))

theorem ExecutionPayload.back_codec [SszSerde.Lossless]
    (laws : NumBigint.Laws) (x : ExecutionPayload) :
    codec.back x = if x.FeesFit then some x else none := by
  have hbase := back_u256String laws x.baseFeePerGas
  have hexcess := back_u256String laws x.excessDataGas
  by_cases h : FourLimbs x.baseFeePerGas
  · by_cases h' : FourLimbs x.excessDataGas
    · simp [codec, hbase, hexcess, FeesFit, h, h']
    · simp [codec, hexcess, FeesFit, h']
  · simp [codec, hbase, FeesFit, h]

theorem BeaconBlockBody.back_codec [SszSerde.Lossless]
    (laws : NumBigint.Laws) (x : BeaconBlockBody) :
    codec.back x = if x.executionPayload.FeesFit then some x else none := by
  have hpayload := ExecutionPayload.back_codec laws x.executionPayload
  by_cases h : x.executionPayload.FeesFit
  · simp [codec, hpayload, h]
  · simp [codec, hpayload, h]

theorem BeaconBlock.back_codec [SszSerde.Lossless] (laws : NumBigint.Laws)
    (x : BeaconBlock) :
    codec.back x = if x.FeesFit then some x else none := by
  have hbody := BeaconBlockBody.back_codec laws x.body
  by_cases h : x.body.executionPayload.FeesFit
  · simp [codec, hbody, FeesFit, h]
  · simp [codec, hbody, FeesFit, h]

end Blocks

/-! ## Requests -/

/-- The fields of a request to sign something for a fork. -/
abbrev forkRequest {α : Type} (key : String) (c : Codec α) :
    Fields (ForkInfo × Option Root × α) :=
  (Fields.one "fork_info" ForkInfo.codec).beside <|
    signingRootField.beside <|
    .one key c

abbrev BlockV2Request.fields : Fields BlockV2Request :=
  (forkRequest "beacon_block" BlockV2RequestWrapper.codec).iso
    ⟨fun x => ⟨x.1, x.2.1, x.2.2⟩,
      fun x => (x.forkInfo, x.signingRoot, x.beaconBlock),
      fun _ => rfl, fun _ => rfl⟩

abbrev AttestationRequest.fields : Fields AttestationRequest :=
  (forkRequest "attestation" AttestationData.codec).iso
    ⟨fun x => ⟨x.1, x.2.1, x.2.2⟩,
      fun x => (x.forkInfo, x.signingRoot, x.attestation),
      fun _ => rfl, fun _ => rfl⟩

abbrev RandaoRevealRequest.fields : Fields RandaoRevealRequest :=
  (forkRequest "randao_reveal" RandaoReveal.codec).iso
    ⟨fun x => ⟨x.1, x.2.1, x.2.2⟩,
      fun x => (x.forkInfo, x.signingRoot, x.randaoReveal),
      fun _ => rfl, fun _ => rfl⟩

abbrev AggregateAndProofRequest.fields : Fields AggregateAndProofRequest :=
  (forkRequest "aggregate_and_proof" AggregateAndProof.codec).iso
    ⟨fun x => ⟨x.1, x.2.1, x.2.2⟩,
      fun x => (x.forkInfo, x.signingRoot, x.aggregateAndProof),
      fun _ => rfl, fun _ => rfl⟩

abbrev AggregationSlotRequest.fields : Fields AggregationSlotRequest :=
  (forkRequest "aggregation_slot" AggregationSlot.codec).iso
    ⟨fun x => ⟨x.1, x.2.1, x.2.2⟩,
      fun x => (x.forkInfo, x.signingRoot, x.aggregationSlot),
      fun _ => rfl, fun _ => rfl⟩

abbrev VoluntaryExitRequest.fields : Fields VoluntaryExitRequest :=
  (forkRequest "voluntary_exit" VoluntaryExit.codec).iso
    ⟨fun x => ⟨x.1, x.2.1, x.2.2⟩,
      fun x => (x.forkInfo, x.signingRoot, x.voluntaryExit),
      fun _ => rfl, fun _ => rfl⟩

abbrev SyncCommitteeMessageRequest.fields :
    Fields SyncCommitteeMessageRequest :=
  (forkRequest "sync_committee_message"
    SyncCommitteeMessageRequestWrapper.codec).iso
    ⟨fun x => ⟨x.1, x.2.1, x.2.2⟩,
      fun x => (x.forkInfo, x.signingRoot, x.syncCommitteeMessage),
      fun _ => rfl, fun _ => rfl⟩

abbrev SyncCommitteeSelectionProofRequest.fields :
    Fields SyncCommitteeSelectionProofRequest :=
  (forkRequest "sync_aggregator_selection_data"
    SyncAggregatorSelectionData.codec).iso
    ⟨fun x => ⟨x.1, x.2.1, x.2.2⟩,
      fun x => (x.forkInfo, x.signingRoot, x.syncAggregatorSelectionData),
      fun _ => rfl, fun _ => rfl⟩

abbrev SyncCommitteeContributionAndProofRequest.fields :
    Fields SyncCommitteeContributionAndProofRequest :=
  (forkRequest "contribution_and_proof" ContributionAndProof.codec).iso
    ⟨fun x => ⟨x.1, x.2.1, x.2.2⟩,
      fun x => (x.forkInfo, x.signingRoot, x.contributionAndProof),
      fun _ => rfl, fun _ => rfl⟩

abbrev DepositRequest.fields : Fields DepositRequest :=
  (signingRootField.beside <|
    (Fields.one "deposit" DepositMessage.codec).beside <|
    .one "genesis_fork_version" (serHex 4)).iso
  ⟨fun x => ⟨x.1, x.2.1, x.2.2⟩,
    fun x => (x.signingRoot, x.deposit, x.genesisForkVersion),
    fun _ => rfl, fun _ => rfl⟩

abbrev DepositRequest.codec : Codec DepositRequest :=
  DepositRequest.fields.codec

abbrev ValidatorRegistrationRequest.fields :
    Fields ValidatorRegistrationRequest :=
  (signingRootField.beside <|
    .one "validator_registration" ValidatorRegistration.codec).iso
  ⟨fun x => ⟨x.1, x.2⟩,
    fun x => (x.signingRoot, x.validatorRegistration),
    fun _ => rfl, fun _ => rfl⟩

section Messages

variable [SszSerde] [NumBigint]

abbrev BlockRequest.fields : Fields BlockRequest :=
  (forkRequest "block" BeaconBlock.codec).iso
    ⟨fun x => ⟨x.1, x.2.1, x.2.2⟩,
      fun x => (x.forkInfo, x.signingRoot, x.block),
      fun _ => rfl, fun _ => rfl⟩

theorem BlockRequest.back_fields [SszSerde.Lossless] (laws : NumBigint.Laws)
    (m : BlockRequest) :
    fields.back m = if m.block.FeesFit then some m else none := by
  have hblock := BeaconBlock.back_codec laws m.block
  by_cases h : m.block.FeesFit
  · simp [hblock, h]
  · simp [hblock, h]

namespace BLSSignMsg

/-- A request as its fields after the name of its kind. -/
def toJson : BLSSignMsg → Json.Value
  | BLOCK m => BlockRequest.fields.tagged "type" "BLOCK" m
  | BLOCK_V2 m => BlockV2Request.fields.tagged "type" "BLOCK_V2" m
  | ATTESTATION m => AttestationRequest.fields.tagged "type" "ATTESTATION" m
  | RANDAO_REVEAL m =>
      RandaoRevealRequest.fields.tagged "type"
        "RANDAO_REVEAL" m
  | AGGREGATE_AND_PROOF m =>
      AggregateAndProofRequest.fields.tagged "type"
        "AGGREGATE_AND_PROOF" m
  | AGGREGATION_SLOT m =>
      AggregationSlotRequest.fields.tagged "type"
        "AGGREGATION_SLOT" m
  | DEPOSIT m => DepositRequest.fields.tagged "type" "DEPOSIT" m
  | VOLUNTARY_EXIT m =>
      VoluntaryExitRequest.fields.tagged "type"
        "VOLUNTARY_EXIT" m
  | SYNC_COMMITTEE_MESSAGE m =>
      SyncCommitteeMessageRequest.fields.tagged "type"
        "SYNC_COMMITTEE_MESSAGE" m
  | SYNC_COMMITTEE_SELECTION_PROOF m =>
      SyncCommitteeSelectionProofRequest.fields.tagged "type"
        "SYNC_COMMITTEE_SELECTION_PROOF" m
  | SYNC_COMMITTEE_CONTRIBUTION_AND_PROOF m =>
      SyncCommitteeContributionAndProofRequest.fields.tagged "type"
        "SYNC_COMMITTEE_CONTRIBUTION_AND_PROOF" m
  | VALIDATOR_REGISTRATION m =>
      ValidatorRegistrationRequest.fields.tagged "type"
        "VALIDATOR_REGISTRATION" m
  | block m => BlockRequest.fields.tagged "type" "block" m
  | block_v2 m => BlockV2Request.fields.tagged "type" "block_v2" m
  | attestation m => AttestationRequest.fields.tagged "type" "attestation" m
  | randao_reveal m =>
      RandaoRevealRequest.fields.tagged "type"
        "randao_reveal" m
  | aggregate_and_proof m =>
      AggregateAndProofRequest.fields.tagged "type"
        "aggregate_and_proof" m
  | aggregation_slot m =>
      AggregationSlotRequest.fields.tagged "type"
        "aggregation_slot" m
  | deposit m => DepositRequest.fields.tagged "type" "deposit" m
  | voluntary_exit m =>
      VoluntaryExitRequest.fields.tagged "type"
        "voluntary_exit" m
  | sync_committee_message m =>
      SyncCommitteeMessageRequest.fields.tagged "type"
        "sync_committee_message" m
  | sync_committee_selection_proof m =>
      SyncCommitteeSelectionProofRequest.fields.tagged "type"
        "sync_committee_selection_proof" m
  | sync_committee_contribution_and_proof m =>
      SyncCommitteeContributionAndProofRequest.fields.tagged "type"
        "sync_committee_contribution_and_proof" m
  | validator_registration m =>
      ValidatorRegistrationRequest.fields.tagged "type"
        "validator_registration" m

def ofJson (v : Json.Value) : Option BLSSignMsg := do
  let (name, content) ← Json.untag "type" v
  match name with
  | "BLOCK" => BlockRequest.fields.codec.read BLOCK content
  | "BLOCK_V2" => BlockV2Request.fields.codec.read BLOCK_V2 content
  | "ATTESTATION" => AttestationRequest.fields.codec.read ATTESTATION content
  | "RANDAO_REVEAL" =>
      RandaoRevealRequest.fields.codec.read RANDAO_REVEAL content
  | "AGGREGATE_AND_PROOF" =>
      AggregateAndProofRequest.fields.codec.read AGGREGATE_AND_PROOF content
  | "AGGREGATION_SLOT" =>
      AggregationSlotRequest.fields.codec.read AGGREGATION_SLOT content
  | "DEPOSIT" => DepositRequest.codec.read DEPOSIT content
  | "VOLUNTARY_EXIT" =>
      VoluntaryExitRequest.fields.codec.read VOLUNTARY_EXIT content
  | "SYNC_COMMITTEE_MESSAGE" =>
      SyncCommitteeMessageRequest.fields.codec.read
        SYNC_COMMITTEE_MESSAGE content
  | "SYNC_COMMITTEE_SELECTION_PROOF" =>
      SyncCommitteeSelectionProofRequest.fields.codec.read
        SYNC_COMMITTEE_SELECTION_PROOF content
  | "SYNC_COMMITTEE_CONTRIBUTION_AND_PROOF" =>
      SyncCommitteeContributionAndProofRequest.fields.codec.read
        SYNC_COMMITTEE_CONTRIBUTION_AND_PROOF content
  | "VALIDATOR_REGISTRATION" =>
      ValidatorRegistrationRequest.fields.codec.read
        VALIDATOR_REGISTRATION content
  | "block" => BlockRequest.fields.codec.read block content
  | "block_v2" => BlockV2Request.fields.codec.read block_v2 content
  | "attestation" => AttestationRequest.fields.codec.read attestation content
  | "randao_reveal" =>
      RandaoRevealRequest.fields.codec.read randao_reveal content
  | "aggregate_and_proof" =>
      AggregateAndProofRequest.fields.codec.read aggregate_and_proof content
  | "aggregation_slot" =>
      AggregationSlotRequest.fields.codec.read aggregation_slot content
  | "deposit" => DepositRequest.codec.read deposit content
  | "voluntary_exit" =>
      VoluntaryExitRequest.fields.codec.read voluntary_exit content
  | "sync_committee_message" =>
      SyncCommitteeMessageRequest.fields.codec.read
        sync_committee_message content
  | "sync_committee_selection_proof" =>
      SyncCommitteeSelectionProofRequest.fields.codec.read
        sync_committee_selection_proof content
  | "sync_committee_contribution_and_proof" =>
      SyncCommitteeContributionAndProofRequest.fields.codec.read
        sync_committee_contribution_and_proof content
  | "validator_registration" =>
      ValidatorRegistrationRequest.fields.codec.read
        validator_registration content
  | _ => none

/-- If the request carries a block, the block can be sent. -/
def FeesFit (msg : BLSSignMsg) : Prop :=
  ∀ b ∈ msg.beaconBlock?, b.FeesFit

instance (msg : BLSSignMsg) : Decidable msg.FeesFit :=
  inferInstanceAs (Decidable (∀ b ∈ msg.beaconBlock?, _))

def codec : Codec BLSSignMsg where
  encode := toJson
  decode := ofJson

/-- A request is read back, or it carries a block and is refused. -/
theorem ofJson_toJson [SszSerde.Lossless] (laws : NumBigint.Laws)
    (msg : BLSSignMsg) :
    ofJson msg.toJson = if msg.FeesFit then some msg else none := by
  cases msg with
  | BLOCK m | block m =>
      have hback := BlockRequest.back_fields laws m
      by_cases h : m.block.FeesFit
      · simp [toJson, ofJson, Json.untag_tagged, Json.read_fields,
          -Fields.back_iso, -Fields.back_beside, hback, FeesFit,
          beaconBlock?, h]
      · simp [toJson, ofJson, Json.untag_tagged, Json.read_fields,
          -Fields.back_iso, -Fields.back_beside, hback, FeesFit,
          beaconBlock?, h]
  | _ m =>
      simp [toJson, ofJson, Json.untag_tagged, Json.read_fields, FeesFit,
        beaconBlock?]

end BLSSignMsg

end Messages

end Containers

end ValidatorGuardian
