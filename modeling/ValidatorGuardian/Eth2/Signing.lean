import ValidatorGuardian.Crypto.BlsKeys
import ValidatorGuardian.Eth2.Types

/-!
# Signing roots

What is signed is the root of a `SigningData`: the root of the message and a
domain, whose first four bytes are the type of the domain.  Every message comes
in two spellings, which are constructors of their own.
-/

namespace ValidatorGuardian

/-! ## Signing data -/

/-- The two halves of a preimage have a fixed length. -/
theorem SigningData.preimage_inj {d d' : SigningData}
    (h : d.preimage = d'.preimage) :
    d.objectRoot = d'.objectRoot ∧ d.domain = d'.domain := by
  have hlen : d.objectRoot.toList.length = d'.objectRoot.toList.length := by
    rw [List.Vector.toList_length, List.Vector.toList_length]
  obtain ⟨hroot, hdomain⟩ := List.append_inj h hlen
  exact ⟨List.Vector.toList_injective hroot,
    List.Vector.toList_injective hdomain⟩

def computeSigningRoot [Hashing] {α : Type} [TreeHash α]
    (sszObject : α) (domain : Domain) : Root :=
  let objectRoot := TreeHash.treeHashRoot sszObject
  TreeHash.treeHashRoot (SigningData.mk objectRoot domain)

/-! ## Domains -/

section Domains

variable [Eth2TreeHash]

def computeForkDataRoot
    (currentVersion : Version) (genesisValidatorsRoot : Root) : Root :=
  TreeHash.treeHashRoot (ForkData.mk currentVersion genesisValidatorsRoot)

def computeEpochAtSlot (slot : Slot) : Epoch :=
  slot / SLOTS_PER_EPOCH

/-- The domain type, followed by the first 28 bytes of the fork data root. -/
def computeDomain (domainType : DomainType) (forkVersion : Option Version)
    (genesisValidatorsRoot : Option Root) : Domain :=
  let fv := forkVersion.getD GENESIS_FORK_VERSION
  let gvr := genesisValidatorsRoot.getD (List.Vector.replicate 32 0)
  let forkDataRoot := computeForkDataRoot fv gvr
  ⟨domainType.toList ++ forkDataRoot.toList.take 28, by simp⟩

def getDomain (forkInfo : ForkInfo) (domainType : DomainType)
    (epoch : Option Epoch) : Domain :=
  let epoch := epoch.getD forkInfo.fork.epoch
  let forkVersion :=
    if epoch < forkInfo.fork.epoch then forkInfo.fork.previousVersion
    else forkInfo.fork.currentVersion
  computeDomain domainType (some forkVersion)
    (some forkInfo.genesisValidatorsRoot)

@[simp] theorem computeDomain_take (t : DomainType) (v : Option Version)
    (g : Option Root) :
    (computeDomain t v g).toList.take 4 = t.toList := by
  simp [computeDomain, List.Vector.toList]

@[simp] theorem getDomain_take (f : ForkInfo) (t : DomainType)
    (e : Option Epoch) :
    (getDomain f t e).toList.take 4 = t.toList :=
  computeDomain_take ..

end Domains

variable [Hashing] [Eth2TreeHash]

/-! ## Deposits -/

/-- The signing root of a deposit. -/
def depositRoot (d : DepositMessage) (v : Version) : Root :=
  computeSigningRoot d (computeDomain DOMAIN_DEPOSIT (some v) none)

/-- The `DepositMessage` of a full deposit. -/
def fullDepositMessage (pubkey : List UInt8)
    (withdrawalCredentials : Bytes 32) : DepositMessage where
  pubkey := fixedVectorFrom 48 pubkey
  withdrawalCredentials := withdrawalCredentials
  amount := FULL_DEPOSIT_AMOUNT

/-- Sign a message with the BLS secret key that is saved under the given
name. -/
def secureSign [Blsttc] {α : Type} [TreeHash α] (pkHex : Str) (msg : α)
    (domain : Domain) : Enclave BLSSignature := do
  let root := computeSigningRoot msg domain
  let sig ← blsAggSignFromSavedSk pkHex root.toList
  return fixedVectorFrom 96 (Blsttc.signatureToBytes sig).toList

def getDepositSignature [Blsttc] (pkHex : Str)
    (depositMessage : DepositMessage) (forkVersion : Version) :
    Enclave DepositResponse := do
  let domain := computeDomain DOMAIN_DEPOSIT (some forkVersion) none
  let sig ← secureSign pkHex depositMessage domain
  let dmRoot := TreeHash.treeHashRoot depositMessage
  let dd : DepositData := {
    pubkey := depositMessage.pubkey
    withdrawalCredentials := depositMessage.withdrawalCredentials
    amount := depositMessage.amount
    signature := sig }
  let ddRoot := TreeHash.treeHashRoot dd
  return {
    pubkey := Hex.encode depositMessage.pubkey.toList
    withdrawalCredentials :=
      Hex.encode depositMessage.withdrawalCredentials.toList
    amount := depositMessage.amount
    signature := Hex.encode sig.toList
    depositMessageRoot := Hex.encode dmRoot.toList
    depositDataRoot := Hex.encode ddRoot.toList }

omit [Eth2TreeHash] in
theorem query_secureSign [Blsttc] {α : Type} [TreeHash α] (pkHex : Str)
    (msg : α) (domain : Domain) :
    Query (secureSign pkHex msg domain) fun D =>
      (lookupSigningKey D pkHex).map fun set => Blsttc.signatureToBytes
        (blsAggSign set (computeSigningRoot msg domain).toList) := by
  have hquery := (query_blsAggSignFromSavedSk pkHex
    (computeSigningRoot msg domain).toList).map Blsttc.signatureToBytes
  simp only [Outcome.map_map] at hquery
  simp only [secureSign, fixedVectorFrom_bytes]
  exact hquery

/-- The deposit data of a deposit message and its signature. -/
def depositData (d : DepositMessage) (sig : BLSSignature) : DepositData where
  pubkey := d.pubkey
  withdrawalCredentials := d.withdrawalCredentials
  amount := d.amount
  signature := sig

/-- The response with the signature of a deposit message. -/
def depositResponse (d : DepositMessage) (sig : BLSSignature) :
    DepositResponse where
  pubkey := Hex.encode d.pubkey.toList
  withdrawalCredentials := Hex.encode d.withdrawalCredentials.toList
  amount := d.amount
  signature := Hex.encode sig.toList
  depositMessageRoot := Hex.encode (TreeHash.treeHashRoot d).toList
  depositDataRoot :=
    Hex.encode (TreeHash.treeHashRoot (depositData d sig)).toList

theorem query_getDepositSignature [Blsttc] (pkHex : Str) (d : DepositMessage)
    (v : Version) :
    Query (getDepositSignature pkHex d v) fun D =>
      (lookupSigningKey D pkHex).map fun set => depositResponse d
        (Blsttc.signatureToBytes
          (blsAggSign set (depositRoot d v).toList)) := by
  have hquery := (query_secureSign pkHex d
    (computeDomain DOMAIN_DEPOSIT (some v) none)).map (depositResponse d)
  simp only [Outcome.map_map] at hquery
  exact hquery

/-- Returns the signature of the deposit message and the root of the deposit
data. -/
def signFullDeposit [Blsttc] (skSet : Blsttc.SecretKeySet)
    (withdrawalCredentials : Bytes 32) (forkVersion : Version) :
    Outcome (BLSSignature × Root) := do
  let pk ← Blsttc.publicKeyOf (Blsttc.publicKeys skSet)
  let depositMessage := fullDepositMessage
    (Blsttc.publicKeyToBytes pk).toList withdrawalCredentials
  let domain := computeDomain DOMAIN_DEPOSIT (some forkVersion) none
  let root := computeSigningRoot depositMessage domain
  let sig : BLSSignature := fixedVectorFrom 96
    (Blsttc.signatureToBytes
      (Blsttc.sign (Blsttc.secretKey skSet) root.toList)).toList
  let dd : DepositData := {
    pubkey := depositMessage.pubkey
    withdrawalCredentials := depositMessage.withdrawalCredentials
    amount := depositMessage.amount
    signature := sig }
  let ddRoot := TreeHash.treeHashRoot dd
  return (sig, ddRoot)

/-! ## Messages to sign -/

inductive BLSSignMsg where
  | BLOCK (m : BlockRequest)
  | BLOCK_V2 (m : BlockV2Request)
  | ATTESTATION (m : AttestationRequest)
  | RANDAO_REVEAL (m : RandaoRevealRequest)
  | AGGREGATE_AND_PROOF (m : AggregateAndProofRequest)
  | AGGREGATION_SLOT (m : AggregationSlotRequest)
  | DEPOSIT (m : DepositRequest)
  | VOLUNTARY_EXIT (m : VoluntaryExitRequest)
  | SYNC_COMMITTEE_MESSAGE (m : SyncCommitteeMessageRequest)
  | SYNC_COMMITTEE_SELECTION_PROOF (m : SyncCommitteeSelectionProofRequest)
  | SYNC_COMMITTEE_CONTRIBUTION_AND_PROOF
      (m : SyncCommitteeContributionAndProofRequest)
  | VALIDATOR_REGISTRATION (m : ValidatorRegistrationRequest)
  | block (m : BlockRequest)
  | block_v2 (m : BlockV2Request)
  | attestation (m : AttestationRequest)
  | randao_reveal (m : RandaoRevealRequest)
  | aggregate_and_proof (m : AggregateAndProofRequest)
  | aggregation_slot (m : AggregationSlotRequest)
  | deposit (m : DepositRequest)
  | voluntary_exit (m : VoluntaryExitRequest)
  | sync_committee_message (m : SyncCommitteeMessageRequest)
  | sync_committee_selection_proof (m : SyncCommitteeSelectionProofRequest)
  | sync_committee_contribution_and_proof
      (m : SyncCommitteeContributionAndProofRequest)
  | validator_registration (m : ValidatorRegistrationRequest)

namespace BLSSignMsg

def canBeSlashed : BLSSignMsg → Bool
  | BLOCK _ | block _ | BLOCK_V2 _ | block_v2 _
  | ATTESTATION _ | attestation _ => true
  | _ => false

/-- The block of a request that carries one. -/
def beaconBlock? : BLSSignMsg → Option BeaconBlock
  | BLOCK m | block m => some m.block
  | _ => none

def toSigningRoot (msg : BLSSignMsg)
    (genesisForkVersion : Option Version) : Root :=
  match msg with
  | BLOCK m | block m =>
      let domain := getDomain m.forkInfo DOMAIN_BEACON_PROPOSER
        (some (computeEpochAtSlot m.block.slot))
      computeSigningRoot m.block domain
  | BLOCK_V2 m | block_v2 m =>
      let domain := getDomain m.forkInfo DOMAIN_BEACON_PROPOSER
        (some (computeEpochAtSlot m.beaconBlock.blockHeader.slot))
      computeSigningRoot m.beaconBlock.blockHeader domain
  | ATTESTATION m | attestation m =>
      let domain := getDomain m.forkInfo DOMAIN_BEACON_ATTESTER
        (some m.attestation.target.epoch)
      computeSigningRoot m.attestation domain
  | RANDAO_REVEAL m | randao_reveal m =>
      let domain := getDomain m.forkInfo DOMAIN_RANDAO
        (some m.randaoReveal.epoch)
      computeSigningRoot m.randaoReveal.epoch domain
  | AGGREGATE_AND_PROOF m | aggregate_and_proof m =>
      let epoch := computeEpochAtSlot m.aggregateAndProof.aggregate.data.slot
      let domain := getDomain m.forkInfo DOMAIN_AGGREGATE_AND_PROOF
        (some epoch)
      computeSigningRoot m.aggregateAndProof domain
  | AGGREGATION_SLOT m | aggregation_slot m =>
      let epoch := computeEpochAtSlot m.aggregationSlot.slot
      let domain := getDomain m.forkInfo DOMAIN_SELECTION_PROOF (some epoch)
      computeSigningRoot m.aggregationSlot.slot domain
  | DEPOSIT m | deposit m =>
      let domain := computeDomain DOMAIN_DEPOSIT
        (some m.genesisForkVersion) none
      computeSigningRoot m.deposit domain
  | VOLUNTARY_EXIT m | voluntary_exit m =>
      let domain := getDomain m.forkInfo DOMAIN_VOLUNTARY_EXIT
        (some m.voluntaryExit.epoch)
      computeSigningRoot m.voluntaryExit domain
  | SYNC_COMMITTEE_MESSAGE m | sync_committee_message m =>
      let epoch := computeEpochAtSlot m.syncCommitteeMessage.slot
      let domain := getDomain m.forkInfo DOMAIN_SYNC_COMMITTEE (some epoch)
      computeSigningRoot m.syncCommitteeMessage.beaconBlockRoot domain
  | SYNC_COMMITTEE_SELECTION_PROOF m | sync_committee_selection_proof m =>
      let epoch := computeEpochAtSlot m.syncAggregatorSelectionData.slot
      let domain := getDomain m.forkInfo
        DOMAIN_SYNC_COMMITTEE_SELECTION_PROOF (some epoch)
      computeSigningRoot m.syncAggregatorSelectionData domain
  | SYNC_COMMITTEE_CONTRIBUTION_AND_PROOF m
  | sync_committee_contribution_and_proof m =>
      let epoch := computeEpochAtSlot m.contributionAndProof.contribution.slot
      let domain := getDomain m.forkInfo DOMAIN_CONTRIBUTION_AND_PROOF
        (some epoch)
      computeSigningRoot m.contributionAndProof domain
  | VALIDATOR_REGISTRATION m | validator_registration m =>
      let domain := computeDomain DOMAIN_APPLICATION_BUILDER
        genesisForkVersion none
      computeSigningRoot m.validatorRegistration domain

end BLSSignMsg

end ValidatorGuardian
