import ValidatorGuardian.Eth2.Merkle
import ValidatorGuardian.Signing.Endpoint
import ValidatorGuardian.Signing.Session

/-!
# What a signing root binds

A signing root is computed from the object of a message and from a domain, in
which a fork version and the validators root of a chain are hashed and cut to
28 bytes.  Two messages have the same signing root only if they are of one
kind and agree in the object, the fork version and the chain, or else computing
the two roots exhibits a collision under the hash, or the fork data differ and
agree in the 28 bytes.  The object of a block is its header, in which the body
has a root of its own.  So a signature cannot be replayed for another message,
for another slot or epoch, under another fork version or on another chain.
-/

namespace ValidatorGuardian

open HashTree

/-! ## Commitments -/

/-- The objects of a kind of messages; that of a block is its header. -/
def MsgKind.Object : MsgKind → Type
  | .block => BeaconBlockHeader
  | .attestation => AttestationData
  | .randaoReveal => Epoch
  | .aggregateAndProof => AggregateAndProof
  | .aggregationSlot => Slot
  | .deposit => DepositMessage
  | .voluntaryExit => VoluntaryExit
  | .syncCommitteeMessage => Root
  | .syncCommitteeSelectionProof => SyncAggregatorSelectionData
  | .syncCommitteeContributionAndProof => ContributionAndProof
  | .validatorRegistration => ValidatorRegistration

def MsgKind.layout : (k : MsgKind) → Layout Root k.Object
  | .block => Ssz.beaconBlockHeader
  | .attestation => Ssz.attestationData
  | .randaoReveal => Ssz.uint64
  | .aggregateAndProof => Ssz.aggregateAndProof
  | .aggregationSlot => Ssz.uint64
  | .deposit => Ssz.depositMessage
  | .voluntaryExit => Ssz.voluntaryExit
  | .syncCommitteeMessage => Ssz.root
  | .syncCommitteeSelectionProof => Ssz.syncAggregatorSelectionData
  | .syncCommitteeContributionAndProof => Ssz.contributionAndProof
  | .validatorRegistration => Ssz.validatorRegistration

/-- What a signature is about: an object, under a fork version and on a
chain. -/
structure Commitment where
  kind : MsgKind
  object : kind.Object
  fork : ForkData

namespace Commitment

variable [Hashing]

/-- The domain type and the first 28 bytes of the fork data root. -/
def domain (c : Commitment) : Domain :=
  ⟨c.kind.domainType.toList ++
    (Ssz.forkData.root Ssz.hash c.fork).toList.take 28, by simp⟩

def signingData (c : Commitment) : SigningData where
  objectRoot := c.kind.layout.root Ssz.hash c.object
  domain := c.domain

def root (c : Commitment) : Root :=
  Hashing.sha256 c.signingData.preimage

/-- The pairs of chunks that are hashed for the root, those behind the domain
aside. -/
def inputs (c : Commitment) : List (Root × Root) :=
  (c.signingData.objectRoot, c.signingData.domain) ::
    (c.kind.layout.tree c.object).inputs Ssz.hash

/-- Two different pairs, one hashed for each root, have the same digest. -/
def Collides (c c' : Commitment) : Prop :=
  ∃ p ∈ c.inputs, ∃ q ∈ c'.inputs, p ≠ q ∧ Ssz.hash p = Ssz.hash q

/-- Different fork data have roots that agree in the 28 bytes that a domain
holds of them. -/
def ForksClash (d d' : ForkData) : Prop :=
  d ≠ d' ∧ (Ssz.forkData.root Ssz.hash d).toList.take 28 =
    (Ssz.forkData.root Ssz.hash d').toList.take 28

def Clash (c c' : Commitment) : Prop :=
  Collides c c' ∨ ForksClash c.fork c'.fork

/-- Equal domains are of one kind, and of one fork. -/
theorem kind_and_fork {c c' : Commitment} (h : c.domain = c'.domain) :
    c.kind = c'.kind ∧ (c.fork = c'.fork ∨ ForksClash c.fork c'.fork) := by
  have hlist := congrArg List.Vector.toList h
  change c.kind.domainType.toList ++ _ = c'.kind.domainType.toList ++ _
    at hlist
  have hlength : c.kind.domainType.toList.length =
      c'.kind.domainType.toList.length := by simp
  obtain ⟨htype, hfork⟩ := List.append_inj hlist hlength
  refine ⟨MsgKind.domainType_injective (List.Vector.toList_injective htype),
    ?_⟩
  by_cases hsame : c.fork = c'.fork
  · exact .inl hsame
  · exact .inr ⟨hsame, hfork⟩

theorem object_eq_or_collides {k : MsgKind} {o o' : k.Object} {f f' : ForkData}
    (h : k.layout.root Ssz.hash o = k.layout.root Ssz.hash o') :
    o = o' ∨ Collides ⟨k, o, f⟩ ⟨k, o', f'⟩ := by
  refine (k.layout.eq_or_clash h).imp_right ?_
  rintro ⟨p, hp, q, hq, hne, hhash⟩
  exact ⟨p, List.mem_cons_of_mem _ hp, q, List.mem_cons_of_mem _ hq, hne,
    hhash⟩

/-- The root binds the commitment. -/
theorem eq_or_clash {c c' : Commitment} (h : c.root = c'.root) :
    c = c' ∨ Clash c c' := by
  by_cases hpair : (c.signingData.objectRoot, c.signingData.domain) =
      (c'.signingData.objectRoot, c'.signingData.domain)
  · obtain ⟨hobject, hdomain⟩ := Prod.mk.inj hpair
    obtain ⟨k, o, f⟩ := c
    obtain ⟨k', o', f'⟩ := c'
    obtain ⟨hkind, hfork⟩ := kind_and_fork hdomain
    obtain rfl : k = k' := hkind
    rcases hfork with hfork | hclash
    · obtain rfl : f = f' := hfork
      rcases object_eq_or_collides hobject with rfl | hcollides
      · exact .inl rfl
      · exact .inr (.inl hcollides)
    · exact .inr (.inr hclash)
  · exact .inr (.inl ⟨_, List.mem_cons_self .., _, List.mem_cons_self ..,
      hpair, h⟩)

end Commitment

/-- The duty that a commitment is about. -/
def Commitment.duty : Commitment → Option (Slashing.Duty ℕ)
  | ⟨.block, header, _⟩ => some (.block header.slot.toNat)
  | ⟨.attestation, a, _⟩ =>
      some (.vote a.source.epoch.toNat a.target.epoch.toNat)
  | _ => none

/-! ## Commitments of messages -/

/-- The fork version in force at an epoch, on the chain of the fork info. -/
def ForkInfo.at (forkInfo : ForkInfo) (epoch : Epoch) : ForkData where
  currentVersion :=
    if epoch < forkInfo.fork.epoch then forkInfo.fork.previousVersion
    else forkInfo.fork.currentVersion
  genesisValidatorsRoot := forkInfo.genesisValidatorsRoot

/-- A fork version on no chain in particular. -/
def noChain (forkVersion : Version) : ForkData where
  currentVersion := forkVersion
  genesisValidatorsRoot := List.Vector.replicate 32 0

namespace BLSSignMsg

/-- The object that a message carries; of a block, the header. -/
def object (bodyRoot : BeaconBlockBody → Root) :
    (m : BLSSignMsg) → m.kind.Object
  | BLOCK m | block m => Ssz.headerOf bodyRoot m.block
  | BLOCK_V2 m | block_v2 m => m.beaconBlock.blockHeader
  | ATTESTATION m | attestation m => m.attestation
  | RANDAO_REVEAL m | randao_reveal m => m.randaoReveal.epoch
  | AGGREGATE_AND_PROOF m | aggregate_and_proof m => m.aggregateAndProof
  | AGGREGATION_SLOT m | aggregation_slot m => m.aggregationSlot.slot
  | DEPOSIT m | deposit m => m.deposit
  | VOLUNTARY_EXIT m | voluntary_exit m => m.voluntaryExit
  | SYNC_COMMITTEE_MESSAGE m | sync_committee_message m =>
      m.syncCommitteeMessage.beaconBlockRoot
  | SYNC_COMMITTEE_SELECTION_PROOF m | sync_committee_selection_proof m =>
      m.syncAggregatorSelectionData
  | SYNC_COMMITTEE_CONTRIBUTION_AND_PROOF m
  | sync_committee_contribution_and_proof m => m.contributionAndProof
  | VALIDATOR_REGISTRATION m | validator_registration m =>
      m.validatorRegistration

/-- The fork version and the chain that a message is signed for.  A deposit
and a registration are signed for no chain in particular. -/
def forkData (genesisForkVersion : Option Version) : BLSSignMsg → ForkData
  | BLOCK m | block m => m.forkInfo.at (computeEpochAtSlot m.block.slot)
  | BLOCK_V2 m | block_v2 m =>
      m.forkInfo.at (computeEpochAtSlot m.beaconBlock.blockHeader.slot)
  | ATTESTATION m | attestation m =>
      m.forkInfo.at m.attestation.target.epoch
  | RANDAO_REVEAL m | randao_reveal m => m.forkInfo.at m.randaoReveal.epoch
  | AGGREGATE_AND_PROOF m | aggregate_and_proof m =>
      m.forkInfo.at
        (computeEpochAtSlot m.aggregateAndProof.aggregate.data.slot)
  | AGGREGATION_SLOT m | aggregation_slot m =>
      m.forkInfo.at (computeEpochAtSlot m.aggregationSlot.slot)
  | DEPOSIT m | deposit m => noChain m.genesisForkVersion
  | VOLUNTARY_EXIT m | voluntary_exit m =>
      m.forkInfo.at m.voluntaryExit.epoch
  | SYNC_COMMITTEE_MESSAGE m | sync_committee_message m =>
      m.forkInfo.at (computeEpochAtSlot m.syncCommitteeMessage.slot)
  | SYNC_COMMITTEE_SELECTION_PROOF m | sync_committee_selection_proof m =>
      m.forkInfo.at (computeEpochAtSlot m.syncAggregatorSelectionData.slot)
  | SYNC_COMMITTEE_CONTRIBUTION_AND_PROOF m
  | sync_committee_contribution_and_proof m =>
      m.forkInfo.at
        (computeEpochAtSlot m.contributionAndProof.contribution.slot)
  | VALIDATOR_REGISTRATION _ | validator_registration _ =>
      noChain (genesisForkVersion.getD GENESIS_FORK_VERSION)

/-- What a signature of a message is about. -/
def commitment (bodyRoot : BeaconBlockBody → Root) (m : BLSSignMsg)
    (genesisForkVersion : Option Version) : Commitment where
  kind := m.kind
  object := m.object bodyRoot
  fork := m.forkData genesisForkVersion

theorem duty_commitment (bodyRoot : BeaconBlockBody → Root) (m : BLSSignMsg)
    (v : Option Version) : (m.commitment bodyRoot v).duty = m.duty := by
  cases m <;> rfl

/-- Blocks of one commitment have one header. -/
theorem headerOf_eq_of_commitment {bodyRoot : BeaconBlockBody → Root}
    {m m' : BLSSignMsg} {v v' : Option Version} {b b' : BeaconBlock}
    (hb : m.beaconBlock? = some b) (hb' : m'.beaconBlock? = some b')
    (h : m.commitment bodyRoot v = m'.commitment bodyRoot v') :
    Ssz.headerOf bodyRoot b = Ssz.headerOf bodyRoot b' := by
  cases m <;> cases hb <;> cases m' <;> cases hb' <;>
    exact eq_of_heq (Commitment.mk.inj h).2.1

variable [Hashing] [Eth2TreeHash] {bodyRoot : BeaconBlockBody → Root}

theorem objectRoot_eq (h : Ssz.Roots bodyRoot) (m : BLSSignMsg) :
    m.objectRoot = m.kind.layout.root Ssz.hash (m.object bodyRoot) := by
  cases m with
  | BLOCK m | block m => exact h.beaconBlock _
  | BLOCK_V2 m | block_v2 m => exact h.beaconBlockHeader _
  | ATTESTATION m | attestation m => exact h.attestationData _
  | RANDAO_REVEAL m | randao_reveal m => exact h.uint64 _
  | AGGREGATE_AND_PROOF m | aggregate_and_proof m =>
      exact h.aggregateAndProof _
  | AGGREGATION_SLOT m | aggregation_slot m => exact h.uint64 _
  | DEPOSIT m | deposit m => exact h.depositMessage _
  | VOLUNTARY_EXIT m | voluntary_exit m => exact h.voluntaryExit _
  | SYNC_COMMITTEE_MESSAGE m | sync_committee_message m => exact h.root _
  | SYNC_COMMITTEE_SELECTION_PROOF m | sync_committee_selection_proof m =>
      exact h.syncAggregatorSelectionData _
  | SYNC_COMMITTEE_CONTRIBUTION_AND_PROOF m
  | sync_committee_contribution_and_proof m =>
      exact h.contributionAndProof _
  | VALIDATOR_REGISTRATION m | validator_registration m =>
      exact h.validatorRegistration _

omit [Hashing] in
theorem domain_eq_computeDomain (m : BLSSignMsg) (v : Option Version) :
    m.domain v = computeDomain m.kind.domainType
      (some (m.forkData v).currentVersion)
      (some (m.forkData v).genesisValidatorsRoot) := by
  cases m <;> rfl

theorem domain_eq (h : Ssz.Roots bodyRoot) (m : BLSSignMsg)
    (v : Option Version) : m.domain v = (m.commitment bodyRoot v).domain := by
  rw [m.domain_eq_computeDomain v]
  apply List.Vector.toList_injective
  change m.kind.domainType.toList ++
    (TreeHash.treeHashRoot (m.forkData v)).toList.take 28 = _
  rw [h.forkData]
  rfl

/-- A signing root is the root of the commitment. -/
theorem toSigningRoot_eq_root (h : Ssz.Roots bodyRoot) (m : BLSSignMsg)
    (v : Option Version) :
    m.toSigningRoot v = (m.commitment bodyRoot v).root := by
  rw [toSigningRoot_eq, Commitment.root, signingData, Commitment.signingData,
    m.objectRoot_eq h, m.domain_eq h]
  rfl

end BLSSignMsg

/-! ## The endpoint -/

section Endpoint

variable [Blsttc] [SerdeHex] [Hashing] [Eth2TreeHash]

/-- A signing root binds what the message is about, so a signature that the
endpoint releases is for nothing else, and for no other duty.  With the header
of a block it binds the body, as far as the root of a body does. -/
structure BindsMessages (bodyRoot : BeaconBlockBody → Root) : Prop where
  same : ∀ (m m' : BLSSignMsg) (v v' : Option Version),
    m.commitment bodyRoot v = m'.commitment bodyRoot v' →
      m.toSigningRoot v = m'.toSigningRoot v'
  binds : ∀ (m m' : BLSSignMsg) (v v' : Option Version),
    m.toSigningRoot v = m'.toSigningRoot v' →
      m.commitment bodyRoot v = m'.commitment bodyRoot v' ∨
        Commitment.Clash (m.commitment bodyRoot v)
          (m'.commitment bodyRoot v')
  blocks : ∀ (m m' : BLSSignMsg) (v v' : Option Version)
    (b b' : BeaconBlock), m.beaconBlock? = some b →
    m'.beaconBlock? = some b' → m.toSigningRoot v = m'.toSigningRoot v' →
      b = b' ∨ (b.body ≠ b'.body ∧ bodyRoot b.body = bodyRoot b'.body) ∨
        Commitment.Clash (m.commitment bodyRoot v)
          (m'.commitment bodyRoot v')
  duties : ∀ (m m' : BLSSignMsg) (v v' : Option Version), m.duty ≠ m'.duty →
    m.toSigningRoot v ≠ m'.toSigningRoot v' ∨
      Commitment.Clash (m.commitment bodyRoot v) (m'.commitment bodyRoot v')
  released : ∀ (D : Disk) (faults : List Fault) (path : Str) (v : Version)
    (req : BLSSignMsg) (response : Response),
    (exec (signValidatorMessage path v req) (faults, D)).1 = .ok response →
    response.status = .OK →
      SignsRoot response (req.commitment bodyRoot (some v)).root ∧
        ∀ (m : BLSSignMsg) (v' : Option Version),
          req.commitment bodyRoot (some v) ≠ m.commitment bodyRoot v' →
            req.toSigningRoot (some v) ≠ m.toSigningRoot v' ∨
              Commitment.Clash (req.commitment bodyRoot (some v))
                (m.commitment bodyRoot v')

theorem signing_root_binding {bodyRoot : BeaconBlockBody → Root}
    (h : Ssz.Roots bodyRoot) : BindsMessages bodyRoot := by
  have hbinds : ∀ (m m' : BLSSignMsg) (v v' : Option Version),
      m.toSigningRoot v = m'.toSigningRoot v' →
        m.commitment bodyRoot v = m'.commitment bodyRoot v' ∨
          Commitment.Clash (m.commitment bodyRoot v)
            (m'.commitment bodyRoot v') := by
    intro m m' v v' hroot
    apply Commitment.eq_or_clash
    rw [← m.toSigningRoot_eq_root h, ← m'.toSigningRoot_eq_root h, hroot]
  have hdiffer : ∀ (m m' : BLSSignMsg) (v v' : Option Version),
      m.commitment bodyRoot v ≠ m'.commitment bodyRoot v' →
        m.toSigningRoot v ≠ m'.toSigningRoot v' ∨
          Commitment.Clash (m.commitment bodyRoot v)
            (m'.commitment bodyRoot v') := by
    intro m m' v v' hne
    by_cases hroot : m.toSigningRoot v = m'.toSigningRoot v'
    · exact .inr ((hbinds m m' v v' hroot).resolve_left hne)
    · exact .inl hroot
  refine ⟨?_, hbinds, ?_, ?_, ?_⟩
  · intro m m' v v' hsame
    rw [m.toSigningRoot_eq_root h, m'.toSigningRoot_eq_root h, hsame]
  · intro m m' v v' b b' hb hb' hroot
    rcases hbinds m m' v v' hroot with hsame | hclash
    · exact (Ssz.eq_or_body_of_headerOf
        (BLSSignMsg.headerOf_eq_of_commitment hb hb' hsame)).imp_right .inl
    · exact .inr (.inr hclash)
  · intro m m' v v' hduty
    apply hdiffer
    intro hsame
    apply hduty
    rw [← m.duty_commitment bodyRoot v, hsame, m'.duty_commitment]
  · intro D faults path v req response hresponse hstatus
    refine ⟨?_, fun m v' => hdiffer req m (some v) v'⟩
    rw [← req.toSigningRoot_eq_root h]
    exact signsRoot_of_released hresponse hstatus

end Endpoint

section SampleBinding

open Exponent

/-- A root of a few fields of a body. -/
def sampleBodyRoot (body : BeaconBlockBody) : Root :=
  Hashing.sha256 (body.randaoReveal.toList ++ body.graffiti.toList)

/-- The tree roots of the layouts with these roots of bodies. -/
@[reducible] def sampleRoots : Eth2TreeHash :=
  Ssz.treeHash sampleBodyRoot

/-- With these roots two headers that differ in their slots differ in their
signing roots. -/
theorem signing_root_binding_sampleRoots :
    @BLSSignMsg.toSigningRoot _ sampleRoots (blockAt 8) none ≠
        @BLSSignMsg.toSigningRoot _ sampleRoots (blockAt 9) none ∧
      @BindsMessages _ _ _ sampleRoots sampleBodyRoot :=
  ⟨by decide +kernel,
    @signing_root_binding _ _ _ sampleRoots _ (Ssz.roots_treeHash _)⟩

end SampleBinding

end ValidatorGuardian
