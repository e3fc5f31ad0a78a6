import ValidatorGuardian.Crates.Hashing
import Mathlib.Data.UInt

/-!
# The consensus data types

The SSZ containers of the requests that the signer accepts, with the fields
of the source.  Slots, epochs and amounts are 64-bit integers.
-/

namespace ValidatorGuardian

abbrev Slot := UInt64
abbrev Epoch := UInt64
abbrev CommitteeIndex := UInt64
abbrev ValidatorIndex := UInt64
abbrev WithdrawalIndex := UInt64
abbrev Gwei := UInt64
abbrev Root := Bytes 32
abbrev Hash32 := Bytes 32
abbrev Domain := Bytes 32
abbrev DomainType := Bytes 4
abbrev Version := Bytes 4
abbrev BLSPubkey := Bytes 48
abbrev BLSSignature := Bytes 96
abbrev KZGCommitment := Bytes 48
abbrev ExecutionAddress := Bytes 20
abbrev U256 := List.Vector UInt64 4

/-- `VariableList<T, N>`: at most `N` elements. -/
abbrev VariableList (α : Type) (N : ℕ) := {l : List α // l.length ≤ N}

/-- `BitList<N>` and `BitVector<N>`. -/
abbrev BitList (N : ℕ) := VariableList Bool N
abbrev BitVector (N : ℕ) := List.Vector Bool N

/-! ## Domains -/

def DOMAIN_BEACON_PROPOSER : DomainType := ⟨[0, 0, 0, 0], rfl⟩
def DOMAIN_BEACON_ATTESTER : DomainType := ⟨[1, 0, 0, 0], rfl⟩
def DOMAIN_RANDAO : DomainType := ⟨[2, 0, 0, 0], rfl⟩
def DOMAIN_DEPOSIT : DomainType := ⟨[3, 0, 0, 0], rfl⟩
def DOMAIN_VOLUNTARY_EXIT : DomainType := ⟨[4, 0, 0, 0], rfl⟩
def DOMAIN_SELECTION_PROOF : DomainType := ⟨[5, 0, 0, 0], rfl⟩
def DOMAIN_AGGREGATE_AND_PROOF : DomainType := ⟨[6, 0, 0, 0], rfl⟩
def DOMAIN_SYNC_COMMITTEE : DomainType := ⟨[7, 0, 0, 0], rfl⟩
def DOMAIN_SYNC_COMMITTEE_SELECTION_PROOF : DomainType := ⟨[8, 0, 0, 0], rfl⟩
def DOMAIN_CONTRIBUTION_AND_PROOF : DomainType := ⟨[9, 0, 0, 0], rfl⟩
def DOMAIN_APPLICATION_BUILDER : DomainType := ⟨[0, 0, 0, 1], rfl⟩

def GENESIS_FORK_VERSION : Version := ⟨[0, 0, 0, 0], rfl⟩
def SLOTS_PER_EPOCH : UInt64 := 32

/-! ## Containers -/

structure SigningData where
  objectRoot : Root
  domain : Domain

structure Fork where
  previousVersion : Version
  currentVersion : Version
  epoch : Epoch

structure ForkData where
  currentVersion : Version
  genesisValidatorsRoot : Root

structure ForkInfo where
  fork : Fork
  genesisValidatorsRoot : Root

structure Checkpoint where
  epoch : Epoch
  root : Root

structure RandaoReveal where
  epoch : Epoch

structure AttestationData where
  slot : Slot
  index : CommitteeIndex
  beaconBlockRoot : Root
  source : Checkpoint
  target : Checkpoint

structure BeaconBlockHeader where
  slot : Slot
  proposerIndex : ValidatorIndex
  parentRoot : Root
  stateRoot : Root
  bodyRoot : Root

structure SignedBeaconBlockHeader where
  message : BeaconBlockHeader
  signature : BLSSignature

structure ProposerSlashing where
  signedHeader1 : SignedBeaconBlockHeader
  signedHeader2 : SignedBeaconBlockHeader

structure IndexedAttestation where
  attestingIndices : VariableList ValidatorIndex 2048
  data : AttestationData
  signature : BLSSignature

structure AttesterSlashing where
  attestation1 : IndexedAttestation
  attestation2 : IndexedAttestation

structure Eth1Data where
  depositRoot : Root
  depositCount : UInt64
  blockHash : Hash32

structure DepositMessage where
  pubkey : BLSPubkey
  withdrawalCredentials : Bytes 32
  amount : Gwei

structure DepositData where
  pubkey : BLSPubkey
  withdrawalCredentials : Bytes 32
  amount : Gwei
  signature : BLSSignature

structure Deposit where
  proof : List.Vector (Bytes 32) 33
  data : DepositData

structure VoluntaryExit where
  epoch : Epoch
  validatorIndex : ValidatorIndex

structure SignedVoluntaryExit where
  message : VoluntaryExit
  signature : BLSSignature

structure ValidatorRegistration where
  feeRecipient : ExecutionAddress
  gasLimit : UInt64
  timestamp : UInt64
  pubkey : BLSPubkey

structure Attestation where
  aggregationBits : BitList 2048
  data : AttestationData
  signature : BLSSignature

structure SyncAggregate where
  syncCommitteeBits : BitVector 512
  syncCommitteeSignature : BLSSignature

structure Withdrawal where
  index : WithdrawalIndex
  validatorIndex : ValidatorIndex
  address : ExecutionAddress
  amount : Gwei

structure ExecutionPayload where
  parentHash : Root
  feeRecipient : ExecutionAddress
  stateRoot : Root
  receiptsRoot : Root
  logsBloom : Bytes 256
  prevRandao : Root
  blockNumber : UInt64
  gasLimit : UInt64
  gasUsed : UInt64
  timestamp : UInt64
  extraData : VariableList UInt8 32
  baseFeePerGas : U256
  blockHash : Root
  transactions : VariableList (VariableList UInt8 1073741824) 1048576
  withdrawals : VariableList Withdrawal 16
  excessDataGas : U256

structure BLSToExecutionChange where
  validatorIndex : ValidatorIndex
  fromBlsPubkey : BLSPubkey
  toExecutionAddress : ExecutionAddress

structure SignedBLSToExecutionChange where
  message : BLSToExecutionChange
  signature : BLSSignature

structure BeaconBlockBody where
  randaoReveal : BLSSignature
  eth1Data : Eth1Data
  graffiti : Bytes 32
  proposerSlashings : VariableList ProposerSlashing 16
  attesterSlashings : VariableList AttesterSlashing 2
  attestations : VariableList Attestation 128
  deposits : VariableList Deposit 16
  voluntaryExits : VariableList SignedVoluntaryExit 16
  syncAggregate : SyncAggregate
  executionPayload : ExecutionPayload
  blsToExecutionChanges : VariableList SignedBLSToExecutionChange 16
  blobKzgCommitments : VariableList KZGCommitment 4096

structure BeaconBlock where
  slot : Slot
  proposerIndex : ValidatorIndex
  parentRoot : Root
  stateRoot : Root
  body : BeaconBlockBody

structure AggregateAndProof where
  aggregatorIndex : ValidatorIndex
  aggregate : Attestation
  selectionProof : BLSSignature

structure SyncCommitteeContribution where
  slot : Slot
  beaconBlockRoot : Root
  subcommitteeIndex : UInt64
  aggregationBits : BitVector 128
  signature : BLSSignature

structure ContributionAndProof where
  aggregatorIndex : ValidatorIndex
  contribution : SyncCommitteeContribution
  selectionProof : BLSSignature

structure SyncAggregatorSelectionData where
  slot : Slot
  subcommitteeIndex : UInt64

structure AggregationSlot where
  slot : Slot

/-! ## Signing requests -/

structure BlockRequest where
  forkInfo : ForkInfo
  signingRoot : Option Root
  block : BeaconBlock

structure BlockV2RequestWrapper where
  version : Str
  blockHeader : BeaconBlockHeader

structure BlockV2Request where
  forkInfo : ForkInfo
  signingRoot : Option Root
  beaconBlock : BlockV2RequestWrapper

structure AttestationRequest where
  forkInfo : ForkInfo
  signingRoot : Option Root
  attestation : AttestationData

structure RandaoRevealRequest where
  forkInfo : ForkInfo
  signingRoot : Option Root
  randaoReveal : RandaoReveal

structure AggregateAndProofRequest where
  forkInfo : ForkInfo
  signingRoot : Option Root
  aggregateAndProof : AggregateAndProof

structure AggregationSlotRequest where
  forkInfo : ForkInfo
  signingRoot : Option Root
  aggregationSlot : AggregationSlot

structure DepositRequest where
  signingRoot : Option Root
  deposit : DepositMessage
  genesisForkVersion : Version

/-- The hex fields have no `0x`, as the deposit launchpad expects. -/
structure DepositResponse where
  pubkey : Str
  withdrawalCredentials : Str
  amount : Gwei
  signature : Str
  depositMessageRoot : Str
  depositDataRoot : Str
deriving DecidableEq

structure VoluntaryExitRequest where
  forkInfo : ForkInfo
  signingRoot : Option Root
  voluntaryExit : VoluntaryExit

structure SyncCommitteeMessageRequestWrapper where
  slot : Slot
  beaconBlockRoot : Root

structure SyncCommitteeMessageRequest where
  forkInfo : ForkInfo
  signingRoot : Option Root
  syncCommitteeMessage : SyncCommitteeMessageRequestWrapper

structure SyncCommitteeSelectionProofRequest where
  forkInfo : ForkInfo
  signingRoot : Option Root
  syncAggregatorSelectionData : SyncAggregatorSelectionData

structure SyncCommitteeContributionAndProofRequest where
  forkInfo : ForkInfo
  signingRoot : Option Root
  contributionAndProof : ContributionAndProof

structure ValidatorRegistrationRequest where
  signingRoot : Option Root
  validatorRegistration : ValidatorRegistration

/-! ## Tree roots -/

/-- The derived tree roots of the types that are signed or hashed. -/
class Eth2TreeHash where
  uint64 : TreeHash UInt64
  root : TreeHash Root
  forkData : TreeHash ForkData
  beaconBlock : TreeHash BeaconBlock
  beaconBlockHeader : TreeHash BeaconBlockHeader
  attestationData : TreeHash AttestationData
  aggregateAndProof : TreeHash AggregateAndProof
  depositMessage : TreeHash DepositMessage
  depositData : TreeHash DepositData
  voluntaryExit : TreeHash VoluntaryExit
  syncAggregatorSelectionData : TreeHash SyncAggregatorSelectionData
  contributionAndProof : TreeHash ContributionAndProof
  validatorRegistration : TreeHash ValidatorRegistration

attribute [reducible, instance] Eth2TreeHash.uint64 Eth2TreeHash.root
  Eth2TreeHash.forkData Eth2TreeHash.beaconBlock
  Eth2TreeHash.beaconBlockHeader Eth2TreeHash.attestationData
  Eth2TreeHash.aggregateAndProof Eth2TreeHash.depositMessage
  Eth2TreeHash.depositData Eth2TreeHash.voluntaryExit
  Eth2TreeHash.syncAggregatorSelectionData Eth2TreeHash.contributionAndProof
  Eth2TreeHash.validatorRegistration

/-- The 64 bytes under the root of a `SigningData`. -/
def SigningData.preimage (d : SigningData) : List UInt8 :=
  d.objectRoot.toList ++ d.domain.toList

/-- A container of two 32-byte leaves hashes their concatenation. -/
instance [Hashing] : TreeHash SigningData where
  treeHashRoot d := Hashing.sha256 d.preimage

end ValidatorGuardian
