import ValidatorGuardian.Eth2.Signing

/-!
# Signing roots and message kinds

Every kind of message has a domain type of its own, so the signing roots of two
messages of different kinds have different preimages.
-/

namespace ValidatorGuardian

/-- The kinds of messages: the two spellings of a message are of one kind, and
so are a block and its header. -/
inductive MsgKind where
  | block
  | attestation
  | randaoReveal
  | aggregateAndProof
  | aggregationSlot
  | deposit
  | voluntaryExit
  | syncCommitteeMessage
  | syncCommitteeSelectionProof
  | syncCommitteeContributionAndProof
  | validatorRegistration
deriving DecidableEq

def MsgKind.domainType : MsgKind → DomainType
  | .block => DOMAIN_BEACON_PROPOSER
  | .attestation => DOMAIN_BEACON_ATTESTER
  | .randaoReveal => DOMAIN_RANDAO
  | .aggregateAndProof => DOMAIN_AGGREGATE_AND_PROOF
  | .aggregationSlot => DOMAIN_SELECTION_PROOF
  | .deposit => DOMAIN_DEPOSIT
  | .voluntaryExit => DOMAIN_VOLUNTARY_EXIT
  | .syncCommitteeMessage => DOMAIN_SYNC_COMMITTEE
  | .syncCommitteeSelectionProof => DOMAIN_SYNC_COMMITTEE_SELECTION_PROOF
  | .syncCommitteeContributionAndProof => DOMAIN_CONTRIBUTION_AND_PROOF
  | .validatorRegistration => DOMAIN_APPLICATION_BUILDER

theorem MsgKind.domainType_injective :
    Function.Injective MsgKind.domainType := by
  intro a b h
  cases a <;> cases b <;> first | rfl | exact absurd h (by decide)

/-- The first four bytes of the two domains tell two preimages apart. -/
theorem SigningData.preimage_ne {d d' : SigningData} {t t' : DomainType}
    (hd : d.domain.toList.take 4 = t.toList)
    (hd' : d'.domain.toList.take 4 = t'.toList) (ht : t ≠ t') :
    d.preimage ≠ d'.preimage := by
  intro h
  have hdomain := (SigningData.preimage_inj h).2
  rw [hdomain, hd'] at hd
  exact ht (List.Vector.toList_injective hd.symm)

namespace BLSSignMsg

def kind : BLSSignMsg → MsgKind
  | BLOCK _ | block _ | BLOCK_V2 _ | block_v2 _ => .block
  | ATTESTATION _ | attestation _ => .attestation
  | RANDAO_REVEAL _ | randao_reveal _ => .randaoReveal
  | AGGREGATE_AND_PROOF _ | aggregate_and_proof _ => .aggregateAndProof
  | AGGREGATION_SLOT _ | aggregation_slot _ => .aggregationSlot
  | DEPOSIT _ | deposit _ => .deposit
  | VOLUNTARY_EXIT _ | voluntary_exit _ => .voluntaryExit
  | SYNC_COMMITTEE_MESSAGE _ | sync_committee_message _ =>
      .syncCommitteeMessage
  | SYNC_COMMITTEE_SELECTION_PROOF _ | sync_committee_selection_proof _ =>
      .syncCommitteeSelectionProof
  | SYNC_COMMITTEE_CONTRIBUTION_AND_PROOF _
  | sync_committee_contribution_and_proof _ =>
      .syncCommitteeContributionAndProof
  | VALIDATOR_REGISTRATION _ | validator_registration _ =>
      .validatorRegistration

/-- A message can be slashed exactly when it is a block or an attestation. -/
theorem canBeSlashed_iff (m : BLSSignMsg) :
    m.canBeSlashed = true ↔ m.kind = .block ∨ m.kind = .attestation := by
  cases m <;> simp [canBeSlashed, kind]

section Preimages

variable [Eth2TreeHash]

/-- The domain of a message. -/
def domain (m : BLSSignMsg) (genesisForkVersion : Option Version) : Domain :=
  match m with
  | BLOCK m | block m =>
      getDomain m.forkInfo DOMAIN_BEACON_PROPOSER
        (some (computeEpochAtSlot m.block.slot))
  | BLOCK_V2 m | block_v2 m =>
      getDomain m.forkInfo DOMAIN_BEACON_PROPOSER
        (some (computeEpochAtSlot m.beaconBlock.blockHeader.slot))
  | ATTESTATION m | attestation m =>
      getDomain m.forkInfo DOMAIN_BEACON_ATTESTER
        (some m.attestation.target.epoch)
  | RANDAO_REVEAL m | randao_reveal m =>
      getDomain m.forkInfo DOMAIN_RANDAO (some m.randaoReveal.epoch)
  | AGGREGATE_AND_PROOF m | aggregate_and_proof m =>
      getDomain m.forkInfo DOMAIN_AGGREGATE_AND_PROOF
        (some (computeEpochAtSlot m.aggregateAndProof.aggregate.data.slot))
  | AGGREGATION_SLOT m | aggregation_slot m =>
      getDomain m.forkInfo DOMAIN_SELECTION_PROOF
        (some (computeEpochAtSlot m.aggregationSlot.slot))
  | DEPOSIT m | deposit m =>
      computeDomain DOMAIN_DEPOSIT (some m.genesisForkVersion) none
  | VOLUNTARY_EXIT m | voluntary_exit m =>
      getDomain m.forkInfo DOMAIN_VOLUNTARY_EXIT (some m.voluntaryExit.epoch)
  | SYNC_COMMITTEE_MESSAGE m | sync_committee_message m =>
      getDomain m.forkInfo DOMAIN_SYNC_COMMITTEE
        (some (computeEpochAtSlot m.syncCommitteeMessage.slot))
  | SYNC_COMMITTEE_SELECTION_PROOF m | sync_committee_selection_proof m =>
      getDomain m.forkInfo DOMAIN_SYNC_COMMITTEE_SELECTION_PROOF
        (some (computeEpochAtSlot m.syncAggregatorSelectionData.slot))
  | SYNC_COMMITTEE_CONTRIBUTION_AND_PROOF m
  | sync_committee_contribution_and_proof m =>
      getDomain m.forkInfo DOMAIN_CONTRIBUTION_AND_PROOF
        (some (computeEpochAtSlot m.contributionAndProof.contribution.slot))
  | VALIDATOR_REGISTRATION _ | validator_registration _ =>
      computeDomain DOMAIN_APPLICATION_BUILDER genesisForkVersion none

/-- The tree root of the object that a message carries. -/
def objectRoot : BLSSignMsg → Root
  | BLOCK m | block m => TreeHash.treeHashRoot m.block
  | BLOCK_V2 m | block_v2 m => TreeHash.treeHashRoot m.beaconBlock.blockHeader
  | ATTESTATION m | attestation m => TreeHash.treeHashRoot m.attestation
  | RANDAO_REVEAL m | randao_reveal m =>
      TreeHash.treeHashRoot m.randaoReveal.epoch
  | AGGREGATE_AND_PROOF m | aggregate_and_proof m =>
      TreeHash.treeHashRoot m.aggregateAndProof
  | AGGREGATION_SLOT m | aggregation_slot m =>
      TreeHash.treeHashRoot m.aggregationSlot.slot
  | DEPOSIT m | deposit m => TreeHash.treeHashRoot m.deposit
  | VOLUNTARY_EXIT m | voluntary_exit m =>
      TreeHash.treeHashRoot m.voluntaryExit
  | SYNC_COMMITTEE_MESSAGE m | sync_committee_message m =>
      TreeHash.treeHashRoot m.syncCommitteeMessage.beaconBlockRoot
  | SYNC_COMMITTEE_SELECTION_PROOF m | sync_committee_selection_proof m =>
      TreeHash.treeHashRoot m.syncAggregatorSelectionData
  | SYNC_COMMITTEE_CONTRIBUTION_AND_PROOF m
  | sync_committee_contribution_and_proof m =>
      TreeHash.treeHashRoot m.contributionAndProof
  | VALIDATOR_REGISTRATION m | validator_registration m =>
      TreeHash.treeHashRoot m.validatorRegistration

/-- What a signing root is the root of. -/
def signingData (m : BLSSignMsg) (genesisForkVersion : Option Version) :
    SigningData where
  objectRoot := m.objectRoot
  domain := m.domain genesisForkVersion

theorem signingData_domain_take (m : BLSSignMsg) (v : Option Version) :
    (m.signingData v).domain.toList.take 4 = m.kind.domainType.toList := by
  cases m <;> simp [signingData, domain, kind, MsgKind.domainType]

variable [Hashing]

theorem toSigningRoot_eq (m : BLSSignMsg) (v : Option Version) :
    m.toSigningRoot v = Hashing.sha256 (m.signingData v).preimage := by
  cases m <;> rfl

/-- Two messages of different kinds have different roots, or their preimages
collide. -/
theorem root_ne_or_collision (m₁ m₂ : BLSSignMsg) (v₁ v₂ : Option Version)
    (hkind : m₁.kind ≠ m₂.kind) :
    m₁.toSigningRoot v₁ ≠ m₂.toSigningRoot v₂ ∨
      Collision Hashing.sha256 (m₁.signingData v₁).preimage
        (m₂.signingData v₂).preimage := by
  have hne : (m₁.signingData v₁).preimage ≠ (m₂.signingData v₂).preimage :=
    SigningData.preimage_ne (signingData_domain_take m₁ v₁)
      (signingData_domain_take m₂ v₂)
      (fun h => hkind (MsgKind.domainType_injective h))
  rw [toSigningRoot_eq, toSigningRoot_eq]
  by_cases hroot : Hashing.sha256 (m₁.signingData v₁).preimage =
      Hashing.sha256 (m₂.signingData v₂).preimage
  · exact .inr ⟨hne, hroot⟩
  · exact .inl hroot

end Preimages

end BLSSignMsg

end ValidatorGuardian
