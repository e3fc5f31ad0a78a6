import ValidatorGuardian.Enclave.Types
import ValidatorGuardian.Eth2.SlashProtection
import ValidatorGuardian.Support.BigEndian
import ValidatorGuardian.Support.Records

/-!
# Signing for a validator

The request names a key by its hex and carries a message.  Blocks and
attestations are checked against the slashing database of the key and recorded
there before anything is signed.
-/

namespace ValidatorGuardian

open Slashing

/-! ## The listing of keys -/

/-- The responses of the `list_eth_keys` handler. -/
def listEthKeysHandler (D : Disk) (resp : Outcome ListKeysResponse) : Prop :=
  ∃ names, ListEthKeys D names ∧ ListKeysResponse.new names = resp

/-- The responses of the `list_bls_keys` handler. -/
def listBlsKeysHandler (D : Disk) (resp : Outcome ListKeysResponse) : Prop :=
  ∃ names, ListBlsKeys D names ∧ ListKeysResponse.new names = resp

/-- The responses of the `list_bls_keys_for_vc` handler, which safely prepends
the keys with `0x`. -/
def listBlsKeysForVcHandler (D : Disk) (resp : List Str) : Prop :=
  ∃ names, ListBlsKeys D names ∧
    (names.map fun x => '0' :: 'x' :: strip0xPrefix x) = resp

/-! ## Responses of the signing handlers -/

inductive StatusCode where
  | OK
  | BAD_REQUEST
  | PRECONDITION_FAILED
  | INTERNAL_SERVER_ERROR
deriving DecidableEq

/-- The body of a response: text, text with an error printed in it, or a
signature. -/
inductive Body where
  | text (s : String)
  | format (s : String) (e : Error)
  | json (response : SignatureResponse)
deriving DecidableEq

structure Response where
  status : StatusCode
  body : Body
deriving DecidableEq

variable [Hashing] [Eth2TreeHash]

/-! ## Slashing protection -/

section Signing

variable [SerdeHex]

def isSlashable (blsPkHex : Str) (signingData : BLSSignMsg) :
    Enclave Bool := do
  let db ← SlashingProtectionData.read blsPkHex
  match signingData with
  | .BLOCK m | .block m => return db.isSlashableBlockSlot m.block.slot
  | .BLOCK_V2 m | .block_v2 m =>
      return db.isSlashableBlockSlot m.beaconBlock.blockHeader.slot
  | .ATTESTATION m | .attestation m =>
      return db.isSlashableAttestationEpochs
        m.attestation.source.epoch m.attestation.target.epoch
  | _ => return false

/-- The database with the entry for a block or an attestation. -/
def newEntry (db : SlashingProtectionData) (signingData : BLSSignMsg)
    (signingRoot : Root) : Outcome SlashingProtectionData :=
  match signingData with
  | .BLOCK m | .block m =>
      Outcome.after (db.newBlock ⟨m.block.slot, some signingRoot⟩
        ALLOW_GROWABLE_SLASH_PROTECTION_DB)
  | .BLOCK_V2 m | .block_v2 m =>
      Outcome.after (db.newBlock
        ⟨m.beaconBlock.blockHeader.slot, some signingRoot⟩
        ALLOW_GROWABLE_SLASH_PROTECTION_DB)
  | .ATTESTATION m | .attestation m =>
      Outcome.after (db.newAttestation
        ⟨m.attestation.source.epoch, m.attestation.target.epoch,
          some signingRoot⟩
        ALLOW_GROWABLE_SLASH_PROTECTION_DB)
  | _ => Outcome.bail
      "Should not update slash protection db for non blocks/attestations"

def updateSlashProtectionDb (blsPkHex : Str) (signingData : BLSSignMsg) :
    Enclave Unit := do
  let db ← SlashingProtectionData.read blsPkHex
  let signingRoot := signingData.toSigningRoot none
  let db ← liftM (newEntry db signingData signingRoot)
  db.write

/-! ## The signing request -/

variable [Blsttc]

/-- The last part of `sign_validator_message`. -/
def signMessage (blsPkHex : Str) (signingRoot : Root) : Enclave Response := do
  match ← attempt (blsAggSignFromSavedSk blsPkHex signingRoot.toList) with
  | .ok sig =>
      let response :=
        SignatureResponse.new (Blsttc.signatureToBytes sig).toList
      return ⟨.OK, .json response⟩
  | .error e =>
      return ⟨.INTERNAL_SERVER_ERROR, .format "Signing operation failed: " e⟩

/-- `sign_validator_message` for every message but an upper-case deposit. -/
def signSanitized (blsPkHex : Str) (genesisForkVersion : Version)
    (req : BLSSignMsg) : Enclave Response := do
  match ← attempt (liftM (sanitizeBlsPkHex blsPkHex)) with
  | .error e => return ⟨.BAD_REQUEST, .format "Bad bls_pk_hex, " e⟩
  | .ok blsPkHex =>
  match ← attempt (isSlashable blsPkHex req) with
  | .error e =>
      return ⟨.INTERNAL_SERVER_ERROR, .format "Signing operation failed: " e⟩
  | .ok true =>
      return ⟨.PRECONDITION_FAILED,
        .text "Signing operation failed due to slashing protection rules"⟩
  | .ok false =>
  let signingRoot := req.toSigningRoot (some genesisForkVersion)
  if req.canBeSlashed then
    match ← attempt (updateSlashProtectionDb blsPkHex req) with
    | .error e =>
        return ⟨.INTERNAL_SERVER_ERROR,
          .format "Signing operation failed: " e⟩
    | .ok () => signMessage blsPkHex signingRoot
  else
    signMessage blsPkHex signingRoot

def signValidatorMessage (blsPkHex : Str) (genesisForkVersion : Version)
    (req : BLSSignMsg) : Enclave Response :=
  match req with
  | .DEPOSIT _ =>
      return ⟨.BAD_REQUEST, .text "Signing deposit message not allowed"⟩
  | _ => signSanitized blsPkHex genesisForkVersion req

end Signing

/-! ## The attestation payload -/

variable [Blsttc]

/-- The bytes hashed for each encrypted share and its guardian. -/
def sharePreimages [Secp256k1] (validatorPkSet : Blsttc.PublicKeySet) :
    ℕ → List (Str × EthPublicKey) → Outcome (List UInt8)
  | _, [] => .ok []
  | i, (skShare, gPk) :: rest => do
      let share ← hexDecode skShare
      let tail ← sharePreimages validatorPkSet (i + 1) rest
      return share ++
        (Blsttc.publicKeyToBytes
          (Blsttc.publicKeyShare validatorPkSet i)).toList ++
        (Secp256k1.publicKeySerialize gPk).toList ++ tail

/-- What is hashed after the share of a guardian. -/
def shareTrailer [Secp256k1] (validatorPkSet : Blsttc.PublicKeySet) (i : ℕ)
    (gPk : EthPublicKey) : List UInt8 :=
  (Blsttc.publicKeyToBytes
    (Blsttc.publicKeyShare validatorPkSet i)).toList ++
    (Secp256k1.publicKeySerialize gPk).toList

/-- A share, decoded, and the guardian that it is paired with. -/
def decodedShare [Secp256k1] (x : Str × EthPublicKey) :
    List UInt8 × EthPublicKey :=
  ((Hex.decode x.1).getD [], x.2)

omit [Hashing] [Eth2TreeHash] in
theorem sharePreimages_eq_ok [Secp256k1]
    {validatorPkSet : Blsttc.PublicKeySet} {i : ℕ}
    {l : List (Str × EthPublicKey)} {bytes : List UInt8} :
    sharePreimages validatorPkSet i l = .ok bytes ↔
      (∀ x ∈ l, (Hex.decode x.1).isSome) ∧
        Records.text (shareTrailer validatorPkSet) i (l.map decodedShare) =
          bytes := by
  induction l generalizing i bytes with
  | nil => simp [sharePreimages, Records.text]
  | cons x l ih =>
      obtain ⟨skShare, gPk⟩ := x
      simp only [sharePreimages, Outcome.bind_eq_ok, hexDecode,
        Outcome.okOr_eq_ok, ih, List.map_cons, decodedShare, Records.text,
        shareTrailer, List.forall_mem_cons, List.append_assoc]
      constructor
      · rintro ⟨share, hshare, tail, ⟨hall, rfl⟩, hbytes⟩
        simp only [hshare, Option.isSome_some, Option.getD_some, true_and]
        exact ⟨hall, Except.ok.inj hbytes⟩
      · rintro ⟨⟨hsome, hall⟩, rfl⟩
        obtain ⟨share, hshare⟩ := Option.isSome_iff_exists.mp hsome
        exact ⟨share, hshare, _, ⟨hall, rfl⟩, by rw [hshare]; rfl⟩

omit [Hashing] [Eth2TreeHash] in
theorem trailers_shareTrailer [Secp256k1]
    (heth : Secp256k1.UncompressedDeterminesKey)
    (validatorPkSet : Blsttc.PublicKeySet) :
    Records.Trailers (shareTrailer validatorPkSet) where
  length_eq i gPk gPk' := by simp [shareTrailer]
  injective i gPk gPk' h :=
    heth (List.Vector.toList_injective (List.append_cancel_left h))
  ne_nil i gPk h := by
    have hlength := congrArg List.length h
    simp [shareTrailer] at hlength

/-- `u64::to_be_bytes`. -/
def toBeBytes (n : UInt64) : List UInt8 :=
  BigEndian.encode 8 n.toNat

/-- The bytes fed to the hasher. -/
def validatorRemoteAttestationPreimage [Secp256k1]
    (validatorPkSet : Blsttc.PublicKeySet) (signature : BLSSignature)
    (depositDataRoot : Root) (encSkShares : List Str)
    (guardianPks : List EthPublicKey) : Outcome (List UInt8) := do
  let validatorPk ← Blsttc.publicKeyOf validatorPkSet
  let shares ← sharePreimages validatorPkSet 0 (encSkShares.zip guardianPks)
  return Blsttc.publicKeySetToBytes validatorPkSet ++
    (Blsttc.publicKeyToBytes validatorPk).toList ++
    signature.toList ++ depositDataRoot.toList ++ shares ++
    toBeBytes (Blsttc.threshold validatorPkSet)

def buildValidatorRemoteAttestationPayload [Secp256k1]
    (validatorPkSet : Blsttc.PublicKeySet) (signature : BLSSignature)
    (depositDataRoot : Root) (encSkShares : List Str)
    (guardianPks : List EthPublicKey) : Outcome (List UInt8) := do
  let preimage ← validatorRemoteAttestationPreimage validatorPkSet signature
    depositDataRoot encSkShares guardianPks
  let digest := Hashing.keccak256 preimage
  return digest.toList ++ List.replicate 32 0

omit [Eth2TreeHash] in
/-- The payload exists when the key set has a public key and the shares are
hex text. -/
theorem exists_validatorRemoteAttestationPayload [Secp256k1]
    {validatorPkSet : Blsttc.PublicKeySet}
    (hkey : Blsttc.HasPublicKey validatorPkSet) (signature : BLSSignature)
    (depositDataRoot : Root) {encSkShares : List Str}
    (guardianPks : List EthPublicKey)
    (hhex : ∀ s ∈ encSkShares, (Hex.decode s).isSome) :
    ∃ payload, buildValidatorRemoteAttestationPayload validatorPkSet signature
      depositDataRoot encSkShares guardianPks = .ok payload := by
  have hrecords : sharePreimages validatorPkSet 0
      (encSkShares.zip guardianPks) = .ok _ :=
    sharePreimages_eq_ok.mpr
      ⟨fun x hx => hhex x.1 (List.of_mem_zip hx).1, rfl⟩
  rw [buildValidatorRemoteAttestationPayload,
    validatorRemoteAttestationPreimage, hkey.publicKeyOf_eq, hrecords]
  exact ⟨_, rfl⟩

end ValidatorGuardian
