import ValidatorGuardian.Eth2.Types
import ValidatorGuardian.Support.Bits
import ValidatorGuardian.Support.HashTree

/-!
# The layouts under tree roots

Integers are little-endian in a leaf of 32 bytes, byte vectors are cut into
such leaves and filled up with zeros, and the fields of a container are the
leaves of a tree that is filled up to a power of two.  A list of bits is laid
out beside its length.  A block is laid out like its header, with the root of
its body in the place of the body.
-/

namespace ValidatorGuardian

open HashTree

namespace Ssz

/-- Two chunks are hashed together. -/
def hash [Hashing] (p : Root × Root) : Root :=
  Hashing.sha256 (p.1.toList ++ p.2.toList)

/-! ## Basic types -/

/-- The lowest `k` bytes of `n`, the least significant first. -/
def littleEndian (k n : ℕ) : Bytes k :=
  ⟨(BigEndian.encode k n).reverse, by simp⟩

theorem littleEndian_inj {k n m : ℕ} (hn : n < 256 ^ k) (hm : m < 256 ^ k)
    (h : littleEndian k n = littleEndian k m) : n = m := by
  have hreverse := congrArg List.Vector.toList h
  exact (BigEndian.encode_inj hn hm).mp (List.reverse_injective hreverse)

theorem fixedVectorFrom_inj {n m : ℕ} (hnm : n ≤ m) {b b' : Bytes n}
    (h : fixedVectorFrom m b.toList = fixedVectorFrom m b'.toList) :
    b = b' := by
  have hprefix : ∀ b : Bytes n,
      (fixedVectorFrom m b.toList).toList.take n = b.toList := by
    intro b
    have hlength := b.toList_length
    have htake : b.toList.take m = b.toList :=
      List.take_of_length_le (by omega)
    change (b.toList.take m ++ _).take n = _
    rw [htake, List.take_append_of_le_length (by omega),
      List.take_of_length_le (by omega)]
  apply List.Vector.toList_injective
  rw [← hprefix b, h, hprefix b']

/-- A vector of bytes, in `2 ^ d` chunks. -/
def bytes (n d : ℕ) (h : n ≤ Layout.blockSize 32 d) :
    Layout Root (Bytes n) :=
  (Layout.blocks 32 d).comap (fun b => fixedVectorFrom _ b.toList)
    fun _ _ => fixedVectorFrom_inj h

def root : Layout Root Root := .leaf

def zeroChunk : Root := List.Vector.replicate 32 0

def uint64 : Layout Root UInt64 :=
  (bytes 8 0 (by decide)).comap (fun n => littleEndian 8 n.toNat)
    fun n m h => UInt64.toNat_inj.mp
      (littleEndian_inj n.toNat_lt m.toNat_lt h)

def version : Layout Root Version := bytes 4 0 (by decide)

def executionAddress : Layout Root ExecutionAddress := bytes 20 0 (by decide)

def blsPubkey : Layout Root BLSPubkey := bytes 48 1 (by decide)

def blsSignature : Layout Root BLSSignature := bytes 96 2 (by decide)

/-! ### Bits -/

/-- Eight bits to a byte, the lowest first. -/
def packBits (k : ℕ) (bits : List Bool) : Bytes k :=
  littleEndian k (Bits.value bits)

theorem packBits_inj {k : ℕ} {bits bits' : List Bool}
    (hlength : bits.length = bits'.length) (hfits : bits.length ≤ 8 * k)
    (h : packBits k bits = packBits k bits') : bits = bits' := by
  exact Bits.value_inj hlength (littleEndian_inj (Bits.value_lt_bytes hfits)
    (Bits.value_lt_bytes (hlength ▸ hfits)) h)

def bitVector128 : Layout Root (BitVector 128) :=
  (bytes 16 0 (by decide)).comap (fun bits => packBits 16 bits.toList) <| by
    intro bits bits' h
    have hlength := bits.toList_length
    have hlength' := bits'.toList_length
    exact List.Vector.toList_injective
      (packBits_inj (by omega) (by omega) h)

/-- The bits, filled up with zeros, beside their length. -/
def bitList2048 : Layout Root (BitList 2048) :=
  ((bytes 256 3 (by decide)).pair (bytes 8 0 (by decide))).comap
    (fun bits => (packBits 256 (bits.1 ++
      List.replicate (2048 - bits.1.length) false),
        littleEndian 8 bits.1.length)) <| by
    intro bits bits' h
    obtain ⟨hbits, hlength⟩ := Prod.mk.inj h
    have hle := bits.2
    have hle' := bits'.2
    have hsame : bits.1.length = bits'.1.length :=
      littleEndian_inj (by omega) (by omega) hlength
    have hall := packBits_inj (by simp; omega) (by simp; omega) hbits
    exact Subtype.ext (List.append_inj hall hsame).1

/-! ## Containers -/

def forkData : Layout Root ForkData :=
  (version.pair root).comap
    (fun d => (d.currentVersion, d.genesisValidatorsRoot)) <| by
    rintro ⟨⟩ ⟨⟩ ⟨⟩
    rfl

def checkpoint : Layout Root Checkpoint :=
  (uint64.pair root).comap (fun c => (c.epoch, c.root)) <| by
    rintro ⟨⟩ ⟨⟩ ⟨⟩
    rfl

def attestationData : Layout Root AttestationData :=
  (Layout.five zeroChunk uint64 uint64 root checkpoint checkpoint).comap
    (fun a => (a.slot, a.index, a.beaconBlockRoot, a.source, a.target)) <| by
    rintro ⟨⟩ ⟨⟩ ⟨⟩
    rfl

def beaconBlockHeader : Layout Root BeaconBlockHeader :=
  (Layout.five zeroChunk uint64 uint64 root root root).comap
    (fun b => (b.slot, b.proposerIndex, b.parentRoot, b.stateRoot,
      b.bodyRoot)) <| by
    rintro ⟨⟩ ⟨⟩ ⟨⟩
    rfl

def depositMessage : Layout Root DepositMessage :=
  (Layout.three zeroChunk blsPubkey root uint64).comap
    (fun d => (d.pubkey, d.withdrawalCredentials, d.amount)) <| by
    rintro ⟨⟩ ⟨⟩ ⟨⟩
    rfl

def depositData : Layout Root DepositData :=
  (Layout.four blsPubkey root uint64 blsSignature).comap
    (fun d => (d.pubkey, d.withdrawalCredentials, d.amount, d.signature)) <| by
    rintro ⟨⟩ ⟨⟩ ⟨⟩
    rfl

def voluntaryExit : Layout Root VoluntaryExit :=
  (uint64.pair uint64).comap (fun v => (v.epoch, v.validatorIndex)) <| by
    rintro ⟨⟩ ⟨⟩ ⟨⟩
    rfl

def validatorRegistration : Layout Root ValidatorRegistration :=
  (Layout.four executionAddress uint64 uint64 blsPubkey).comap
    (fun r => (r.feeRecipient, r.gasLimit, r.timestamp, r.pubkey)) <| by
    rintro ⟨⟩ ⟨⟩ ⟨⟩
    rfl

def attestation : Layout Root Attestation :=
  (Layout.three zeroChunk bitList2048 attestationData blsSignature).comap
    (fun a => (a.aggregationBits, a.data, a.signature)) <| by
    rintro ⟨⟩ ⟨⟩ ⟨⟩
    rfl

def aggregateAndProof : Layout Root AggregateAndProof :=
  (Layout.three zeroChunk uint64 attestation blsSignature).comap
    (fun a => (a.aggregatorIndex, a.aggregate, a.selectionProof)) <| by
    rintro ⟨⟩ ⟨⟩ ⟨⟩
    rfl

def syncCommitteeContribution : Layout Root SyncCommitteeContribution :=
  (Layout.five zeroChunk uint64 root uint64 bitVector128 blsSignature).comap
    (fun c => (c.slot, c.beaconBlockRoot, c.subcommitteeIndex,
      c.aggregationBits, c.signature)) <| by
    rintro ⟨⟩ ⟨⟩ ⟨⟩
    rfl

def contributionAndProof : Layout Root ContributionAndProof :=
  (Layout.three zeroChunk uint64 syncCommitteeContribution
    blsSignature).comap
    (fun c => (c.aggregatorIndex, c.contribution, c.selectionProof)) <| by
    rintro ⟨⟩ ⟨⟩ ⟨⟩
    rfl

def syncAggregatorSelectionData :
    Layout Root SyncAggregatorSelectionData :=
  (uint64.pair uint64).comap (fun d => (d.slot, d.subcommitteeIndex)) <| by
    rintro ⟨⟩ ⟨⟩ ⟨⟩
    rfl

/-- The header of a block, given the roots of bodies. -/
def headerOf (bodyRoot : BeaconBlockBody → Root) (b : BeaconBlock) :
    BeaconBlockHeader where
  slot := b.slot
  proposerIndex := b.proposerIndex
  parentRoot := b.parentRoot
  stateRoot := b.stateRoot
  bodyRoot := bodyRoot b.body

/-- Blocks with one header are the same, or their bodies have one root. -/
theorem eq_or_body_of_headerOf {bodyRoot : BeaconBlockBody → Root}
    {b b' : BeaconBlock} (h : headerOf bodyRoot b = headerOf bodyRoot b') :
    b = b' ∨ b.body ≠ b'.body ∧ bodyRoot b.body = bodyRoot b'.body := by
  obtain ⟨hslot, hproposer, hparent, hstate, hbody⟩ :=
    BeaconBlockHeader.mk.inj h
  by_cases hsame : b.body = b'.body
  · left
    cases b
    cases b'
    simp only at hslot hproposer hparent hstate hsame
    rw [hslot, hproposer, hparent, hstate, hsame]
  · exact .inr ⟨hsame, hbody⟩

/-! ## Roots -/

variable [Hashing]

/-- Tree roots are the roots of the layouts, a block being laid out like its
header. -/
structure Roots [Eth2TreeHash] (bodyRoot : BeaconBlockBody → Root) : Prop where
  uint64 : ∀ n : UInt64,
    TreeHash.treeHashRoot n = uint64.root hash n
  root : ∀ r : Root, TreeHash.treeHashRoot r = root.root hash r
  forkData : ∀ d : ForkData,
    TreeHash.treeHashRoot d = forkData.root hash d
  beaconBlock : ∀ b : BeaconBlock,
    TreeHash.treeHashRoot b = beaconBlockHeader.root hash (headerOf bodyRoot b)
  beaconBlockHeader : ∀ b : BeaconBlockHeader,
    TreeHash.treeHashRoot b = beaconBlockHeader.root hash b
  attestationData : ∀ a : AttestationData,
    TreeHash.treeHashRoot a = attestationData.root hash a
  aggregateAndProof : ∀ a : AggregateAndProof,
    TreeHash.treeHashRoot a = aggregateAndProof.root hash a
  depositMessage : ∀ d : DepositMessage,
    TreeHash.treeHashRoot d = depositMessage.root hash d
  depositData : ∀ d : DepositData,
    TreeHash.treeHashRoot d = depositData.root hash d
  voluntaryExit : ∀ v : VoluntaryExit,
    TreeHash.treeHashRoot v = voluntaryExit.root hash v
  syncAggregatorSelectionData : ∀ d : SyncAggregatorSelectionData,
    TreeHash.treeHashRoot d = syncAggregatorSelectionData.root hash d
  contributionAndProof : ∀ c : ContributionAndProof,
    TreeHash.treeHashRoot c = contributionAndProof.root hash c
  validatorRegistration : ∀ r : ValidatorRegistration,
    TreeHash.treeHashRoot r = validatorRegistration.root hash r

/-- The tree roots of the layouts. -/
@[reducible] def treeHash (bodyRoot : BeaconBlockBody → Root) :
    Eth2TreeHash where
  uint64 := ⟨uint64.root hash⟩
  root := ⟨root.root hash⟩
  forkData := ⟨forkData.root hash⟩
  beaconBlock := ⟨fun b => beaconBlockHeader.root hash (headerOf bodyRoot b)⟩
  beaconBlockHeader := ⟨beaconBlockHeader.root hash⟩
  attestationData := ⟨attestationData.root hash⟩
  aggregateAndProof := ⟨aggregateAndProof.root hash⟩
  depositMessage := ⟨depositMessage.root hash⟩
  depositData := ⟨depositData.root hash⟩
  voluntaryExit := ⟨voluntaryExit.root hash⟩
  syncAggregatorSelectionData := ⟨syncAggregatorSelectionData.root hash⟩
  contributionAndProof := ⟨contributionAndProof.root hash⟩
  validatorRegistration := ⟨validatorRegistration.root hash⟩

theorem roots_treeHash (bodyRoot : BeaconBlockBody → Root) :
    @Roots _ (treeHash bodyRoot) bodyRoot :=
  let _ := treeHash bodyRoot
  { uint64 := fun _ => rfl
    root := fun _ => rfl
    forkData := fun _ => rfl
    beaconBlock := fun _ => rfl
    beaconBlockHeader := fun _ => rfl
    attestationData := fun _ => rfl
    aggregateAndProof := fun _ => rfl
    depositMessage := fun _ => rfl
    depositData := fun _ => rfl
    voluntaryExit := fun _ => rfl
    syncAggregatorSelectionData := fun _ => rfl
    contributionAndProof := fun _ => rfl
    validatorRegistration := fun _ => rfl }

end Ssz

end ValidatorGuardian
