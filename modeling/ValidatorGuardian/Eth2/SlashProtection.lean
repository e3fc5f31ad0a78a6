import ValidatorGuardian.Crates.Blsttc
import ValidatorGuardian.Crates.SerdeHex
import ValidatorGuardian.Eth2.Types
import ValidatorGuardian.Io.Files
import ValidatorGuardian.Support.Watermark

/-!
# The slashing protection database

One file for each validator key, named by the hex of the key, lists the slots
and epochs signed with it.  The database is not growable: a new entry replaces
the first one of its list, and the highest slot and epochs recorded are what
decides.  They are the watermark of the database, and adding an entry to the
database is recording a duty in the watermark.
-/

namespace ValidatorGuardian

open Slashing

structure SignedAttestationEpochs where
  sourceEpoch : Epoch
  targetEpoch : Epoch
  signingRoot : Option Root
deriving DecidableEq

structure SignedBlockSlot where
  slot : Slot
  signingRoot : Option Root
deriving DecidableEq

structure SlashingProtectionData where
  pubkey : BLSPubkey
  signedBlocks : List SignedBlockSlot
  signedAttestations : List SignedAttestationEpochs
deriving DecidableEq

/-- `max_by_key`: the last of the elements with the largest key. -/
def maxByKey {α : Type} (key : α → UInt64) : List α → Option α
  | [] => none
  | a :: as =>
      match maxByKey key as with
      | none => some a
      | some m => if key a ≤ key m then some m else some a

/-- The largest key in a list, or zero. -/
def latestBy {α : Type} (key : α → UInt64) (l : List α) : UInt64 :=
  match maxByKey key l with
  | none => 0
  | some s => key s

/-- Append an entry if the database is growable, otherwise overwrite the 0th
element. -/
def saveEntry {α : Type} (growable : Bool) (l : List α) (entry : α) : List α :=
  if growable || l.isEmpty then l ++ [entry] else l.set 0 entry

namespace SlashingProtectionData

def new (pubkey : BLSPubkey) : SlashingProtectionData where
  pubkey := pubkey
  signedBlocks := []
  signedAttestations := []

def fromPkHex (pkHex : Str) : Outcome SlashingProtectionData := do
  let pkHex := strip0xPrefix pkHex
  let pkBytes ← hexDecode pkHex
  return new (fixedVectorFrom 48 pkBytes)

theorem fromPkHex_encode (pk : BLSPubkey) :
    fromPkHex (Hex.encode pk.toList) = .ok (new pk) := by
  simp [fromPkHex, hexDecode, Outcome.okOr]

theorem fromPkHex_ne_panic (pkHex : Str) :
    fromPkHex pkHex ≠ .error .panic :=
  Outcome.bind_ne_panic Outcome.okOr_ne_panic fun _ _ h => by cases h

theorem fromPkHex_publicKeyToHex [Blsttc] (hhex : Blsttc.HexOfBytes)
    (pk : Blsttc.PublicKey) :
    fromPkHex (Blsttc.publicKeyToHex pk) =
      .ok (new (Blsttc.publicKeyToBytes pk)) := by
  rw [hhex, fromPkHex_encode]

def getLatestSignedBlockSlot (db : SlashingProtectionData) : Slot :=
  latestBy SignedBlockSlot.slot db.signedBlocks

def isSlashableBlockSlot (db : SlashingProtectionData) (slot : Slot) : Bool :=
  slot ≤ db.getLatestSignedBlockSlot

/-- The result of the call, and the database after it. -/
def newBlock (db : SlashingProtectionData) (block : SignedBlockSlot)
    (growable : Bool) : Outcome Unit × SlashingProtectionData :=
  if block.slot ≤ db.getLatestSignedBlockSlot then
    (Outcome.bail "Will not save this slashable Block!", db)
  else
    (.ok (), { db with
      signedBlocks := saveEntry growable db.signedBlocks block })

def getLatestSignedAttestationEpochs
    (db : SlashingProtectionData) : Epoch × Epoch :=
  let latestSrc :=
    latestBy SignedAttestationEpochs.sourceEpoch db.signedAttestations
  let latestTgt :=
    latestBy SignedAttestationEpochs.targetEpoch db.signedAttestations
  (latestSrc, latestTgt)

def isSlashableAttestationEpochs
    (db : SlashingProtectionData) (src tgt : Epoch) : Bool :=
  let last := db.getLatestSignedAttestationEpochs
  src < last.1 || tgt ≤ last.2

/-- The result of the call, and the database after it. -/
def newAttestation (db : SlashingProtectionData)
    (attest : SignedAttestationEpochs) (growable : Bool) :
    Outcome Unit × SlashingProtectionData :=
  let prev := db.getLatestSignedAttestationEpochs
  if attest.sourceEpoch < prev.1 then
    (Outcome.bail "Will not save this slashable Attestation!", db)
  else if attest.targetEpoch ≤ prev.2 then
    (Outcome.bail "Will not save this slashable Attestation!", db)
  else
    (.ok (), { db with
      signedAttestations := saveEntry growable db.signedAttestations attest })

end SlashingProtectionData

/-! ## The watermark of a database -/

section Latest

variable {α : Type} {key : α → UInt64} {l : List α} {a : α}

theorem maxByKey_eq_none : maxByKey key l = none ↔ l = [] := by
  cases l with
  | nil => simp [maxByKey]
  | cons a as =>
      simp only [maxByKey]
      split <;> simp
      split <;> simp

theorem mem_of_maxByKey {m : α} (h : maxByKey key l = some m) :
    m ∈ l ∧ ∀ a ∈ l, (key a).toNat ≤ (key m).toNat := by
  induction l generalizing m with
  | nil => cases h
  | cons a as ih =>
      simp only [maxByKey] at h
      split at h
      · next hnone =>
          obtain rfl := maxByKey_eq_none.mp hnone
          obtain rfl := Option.some.inj h
          simp
      · next m' hsome =>
          obtain ⟨hmem, hmax⟩ := ih hsome
          by_cases hle : key a ≤ key m'
          · rw [if_pos hle] at h
            obtain rfl := Option.some.inj h
            refine ⟨List.mem_cons_of_mem _ hmem, ?_⟩
            intro b hb
            rcases List.mem_cons.mp hb with rfl | hb
            · exact UInt64.le_iff_toNat_le.mp hle
            · exact hmax b hb
          · rw [if_neg hle] at h
            obtain rfl := Option.some.inj h
            refine ⟨List.mem_cons_self .., ?_⟩
            intro b hb
            rcases List.mem_cons.mp hb with rfl | hb
            · exact le_rfl
            · have hlt : (key m').toNat < (key a).toNat := by
                rw [UInt64.le_iff_toNat_le] at hle
                omega
              exact (hmax b hb).trans hlt.le

theorem le_latestBy (ha : a ∈ l) :
    (key a).toNat ≤ (latestBy key l).toNat := by
  unfold latestBy
  split
  · next hnone =>
      rw [maxByKey_eq_none.mp hnone] at ha
      cases ha
  · next m hsome => exact (mem_of_maxByKey hsome).2 a ha

/-- The largest key is that of some entry, if there are any. -/
theorem latestBy_cases (key : α → UInt64) (l : List α) :
    (l = [] ∧ latestBy key l = 0) ∨ ∃ a ∈ l, latestBy key l = key a := by
  unfold latestBy
  split
  · next hnone => exact .inl ⟨maxByKey_eq_none.mp hnone, rfl⟩
  · next m hsome => exact .inr ⟨m, (mem_of_maxByKey hsome).1, rfl⟩

theorem latestBy_le_iff {x : UInt64} :
    latestBy key l ≤ x ↔ ∀ a ∈ l, key a ≤ x := by
  constructor
  · intro h a ha
    exact UInt64.le_trans (UInt64.le_iff_toNat_le.mpr (le_latestBy ha)) h
  · intro h
    rcases latestBy_cases key l with ⟨-, hzero⟩ | ⟨a, ha, hkey⟩
    · rw [hzero]
      exact UInt64.zero_le
    · rw [hkey]
      exact h a ha

theorem latestBy_lt_iff {x : UInt64} :
    latestBy key l < x ↔ 0 < x ∧ ∀ a ∈ l, key a < x := by
  constructor
  · intro h
    refine ⟨UInt64.lt_of_le_of_lt UInt64.zero_le h, ?_⟩
    intro a ha
    exact UInt64.lt_of_le_of_lt
      (UInt64.le_iff_toNat_le.mpr (le_latestBy ha)) h
  · rintro ⟨hpos, hall⟩
    rcases latestBy_cases key l with ⟨-, hzero⟩ | ⟨a, ha, hkey⟩
    · rw [hzero]
      exact hpos
    · rw [hkey]
      exact hall a ha

/-- An entry that no other exceeds has the largest key. -/
theorem latestBy_eq_key (ha : a ∈ l)
    (hmax : ∀ b ∈ l, (key b).toNat ≤ (key a).toNat) :
    latestBy key l = key a := by
  unfold latestBy
  split
  · next hnone =>
      rw [maxByKey_eq_none.mp hnone] at ha
      cases ha
  · next m hsome =>
      obtain ⟨hmem, hle⟩ := mem_of_maxByKey hsome
      exact UInt64.toNat_inj.mp (le_antisymm (hmax m hmem) (hle a ha))

theorem mem_saveEntry_self (growable : Bool) :
    a ∈ saveEntry growable l a := by
  unfold saveEntry
  split
  · simp
  · cases l with
    | nil => simp at *
    | cons b bs => simp

theorem eq_or_mem_of_mem_saveEntry {growable : Bool} {b : α}
    (hb : b ∈ saveEntry growable l a) : b = a ∨ b ∈ l := by
  unfold saveEntry at hb
  split at hb
  · rcases List.mem_append.mp hb with hold | hnew
    · exact .inr hold
    · exact .inl (List.mem_singleton.mp hnew)
  · exact (List.mem_or_eq_of_mem_set hb).symm

/-- A list that does not grow has at most one entry more than none. -/
theorem length_saveEntry_compact :
    (saveEntry false l a).length = max 1 l.length := by
  cases l with
  | nil => rfl
  | cons b bs => simp [saveEntry]

/-- Overwriting the first entry loses no height when the new one is as high
as all of them. -/
theorem latestBy_saveEntry {growable : Bool}
    (ha : (latestBy key l).toNat ≤ (key a).toNat) :
    latestBy key (saveEntry growable l a) = key a := by
  apply latestBy_eq_key (mem_saveEntry_self growable)
  intro b hb
  rcases eq_or_mem_of_mem_saveEntry hb with rfl | hold
  · exact le_rfl
  · exact (le_latestBy hold).trans ha

end Latest

namespace SlashingProtectionData

/-- The highest slot, source and target recorded. -/
def watermark (db : SlashingProtectionData) : Watermark ℕ where
  slot := db.getLatestSignedBlockSlot.toNat
  source := db.getLatestSignedAttestationEpochs.1.toNat
  target := db.getLatestSignedAttestationEpochs.2.toNat

/-- The duties listed in a database. -/
def duties (db : SlashingProtectionData) : List (Duty ℕ) :=
  db.signedBlocks.map (fun b => .block b.slot.toNat) ++
    db.signedAttestations.map
      (fun a => .vote a.sourceEpoch.toNat a.targetEpoch.toNat)

theorem watermark_covers_duties {db : SlashingProtectionData}
    {d : Duty ℕ} (hd : d ∈ db.duties) : db.watermark.Covers d := by
  rcases List.mem_append.mp hd with hblock | hvote
  · obtain ⟨b, hb, rfl⟩ := List.mem_map.mp hblock
    exact le_latestBy hb
  · obtain ⟨a, ha, rfl⟩ := List.mem_map.mp hvote
    exact ⟨le_latestBy ha, le_latestBy ha⟩

theorem isSlashableBlockSlot_eq_false
    {db : SlashingProtectionData} {slot : Slot} :
    db.isSlashableBlockSlot slot = false ↔
      db.watermark.Accepts (.block slot.toNat) := by
  simp [isSlashableBlockSlot, watermark, Watermark.Accepts,
    UInt64.lt_iff_toNat_lt]

theorem isSlashableAttestationEpochs_eq_false
    {db : SlashingProtectionData} {src tgt : Epoch} :
    db.isSlashableAttestationEpochs src tgt = false ↔
      db.watermark.Accepts (.vote src.toNat tgt.toNat) := by
  simp [isSlashableAttestationEpochs, watermark, Watermark.Accepts,
    UInt64.lt_iff_toNat_lt, UInt64.le_iff_toNat_le]

/-- A block is saved when the watermark accepts it, and is then recorded. -/
theorem newBlock_eq_ok {db db' : SlashingProtectionData}
    {b : SignedBlockSlot} {growable : Bool}
    (h : db.newBlock b growable = (.ok (), db')) :
    db.watermark.Accepts (.block b.slot.toNat) ∧
      db'.watermark = db.watermark.record (.block b.slot.toNat) ∧
      db'.pubkey = db.pubkey := by
  unfold newBlock at h
  split at h
  · exact absurd (congrArg Prod.fst h) Outcome.bail_ne_ok
  · next hnot =>
      have hlt : db.getLatestSignedBlockSlot.toNat < b.slot.toNat := by
        rw [UInt64.le_iff_toNat_le] at hnot
        omega
      obtain rfl := congrArg Prod.snd h
      refine ⟨hlt, ?_, rfl⟩
      have hlatest : getLatestSignedBlockSlot { db with
          signedBlocks := saveEntry growable db.signedBlocks b } = b.slot :=
        latestBy_saveEntry hlt.le
      simp only [watermark, Watermark.record, hlatest]
      rfl

/-- An attestation is saved when the watermark accepts it, and is then
recorded. -/
theorem newAttestation_eq_ok {db db' : SlashingProtectionData}
    {a : SignedAttestationEpochs} {growable : Bool}
    (h : db.newAttestation a growable = (.ok (), db')) :
    db.watermark.Accepts (.vote a.sourceEpoch.toNat a.targetEpoch.toNat) ∧
      db'.watermark = db.watermark.record
        (.vote a.sourceEpoch.toNat a.targetEpoch.toNat) ∧
      db'.pubkey = db.pubkey := by
  unfold newAttestation at h
  simp only at h
  split at h
  · exact absurd (congrArg Prod.fst h) Outcome.bail_ne_ok
  next hsrc =>
  split at h
  · exact absurd (congrArg Prod.fst h) Outcome.bail_ne_ok
  next htgt =>
  have hle : db.getLatestSignedAttestationEpochs.1.toNat ≤
      a.sourceEpoch.toNat := by
    rw [UInt64.lt_iff_toNat_lt] at hsrc
    omega
  have hlt : db.getLatestSignedAttestationEpochs.2.toNat <
      a.targetEpoch.toNat := by
    rw [UInt64.le_iff_toNat_le] at htgt
    omega
  obtain rfl := congrArg Prod.snd h
  refine ⟨⟨hle, hlt⟩, ?_, rfl⟩
  have hlatest : getLatestSignedAttestationEpochs { db with
      signedAttestations := saveEntry growable db.signedAttestations a } =
        (a.sourceEpoch, a.targetEpoch) :=
    Prod.ext (latestBy_saveEntry hle) (latestBy_saveEntry hlt.le)
  simp only [watermark, Watermark.record, hlatest]
  rfl

/-- A block that the watermark accepts is saved as an entry. -/
theorem newBlock_of_accepts {db : SlashingProtectionData}
    {b : SignedBlockSlot} (h : db.watermark.Accepts (.block b.slot.toNat))
    (growable : Bool) :
    db.newBlock b growable =
      (.ok (), { db with
        signedBlocks := saveEntry growable db.signedBlocks b }) := by
  refine if_neg ?_
  rw [UInt64.le_iff_toNat_le]
  exact not_le.mpr h

/-- A block that the watermark does not accept changes nothing. -/
theorem newBlock_of_not_accepts {db : SlashingProtectionData}
    {b : SignedBlockSlot} (h : ¬ db.watermark.Accepts (.block b.slot.toNat))
    (growable : Bool) :
    db.newBlock b growable =
      (Outcome.bail "Will not save this slashable Block!", db) := by
  refine if_pos ?_
  rw [UInt64.le_iff_toNat_le]
  exact not_lt.mp h

/-- An attestation that the watermark accepts is saved as an entry. -/
theorem newAttestation_of_accepts {db : SlashingProtectionData}
    {a : SignedAttestationEpochs}
    (h : db.watermark.Accepts
      (.vote a.sourceEpoch.toNat a.targetEpoch.toNat)) (growable : Bool) :
    db.newAttestation a growable =
      (.ok (), { db with
        signedAttestations :=
          saveEntry growable db.signedAttestations a }) := by
  have hsrc : ¬ a.sourceEpoch.toNat <
      db.getLatestSignedAttestationEpochs.1.toNat := not_lt.mpr h.1
  have htgt : ¬ a.targetEpoch.toNat ≤
      db.getLatestSignedAttestationEpochs.2.toNat := not_le.mpr h.2
  unfold newAttestation
  simp only [UInt64.lt_iff_toNat_lt, UInt64.le_iff_toNat_le]
  rw [if_neg hsrc, if_neg htgt]

/-- An attestation that the watermark does not accept changes nothing. -/
theorem newAttestation_of_not_accepts {db : SlashingProtectionData}
    {a : SignedAttestationEpochs}
    (h : ¬ db.watermark.Accepts
      (.vote a.sourceEpoch.toNat a.targetEpoch.toNat)) (growable : Bool) :
    db.newAttestation a growable =
      (Outcome.bail "Will not save this slashable Attestation!", db) := by
  unfold newAttestation
  simp only [UInt64.lt_iff_toNat_lt, UInt64.le_iff_toNat_le]
  by_cases hsrc : a.sourceEpoch.toNat <
      db.getLatestSignedAttestationEpochs.1.toNat
  · rw [if_pos hsrc]
  · have htgt : a.targetEpoch.toNat ≤
        db.getLatestSignedAttestationEpochs.2.toNat := by
      by_contra hlt
      exact h ⟨not_lt.mp hsrc, not_le.mp hlt⟩
    rw [if_neg hsrc, if_pos htgt]

/-- A new database accepts every duty above zero. -/
theorem watermark_new (pubkey : BLSPubkey) :
    (new pubkey).watermark = ⟨0, 0, 0⟩ := rfl

end SlashingProtectionData

/-! ## JSON -/

/-- A string that is borrowed from the text of the document. -/
def borrowedStr : Json.Value → Option Str
  | .str s => some s
  | _ => none

/-- `from_hex_to_ssz_type` into `FixedVector<u8, N>`; the text is borrowed, so
it has to be written without escapes. -/
def fromHexToSszVector (N : ℕ) (v : Json.Value) : Outcome (Bytes N) := do
  let hexStr ← Outcome.okOr .serdeJson (borrowedStr v)
  let hexStr := strip0xPrefix hexStr
  let bytes ← Outcome.mapErr (.format "Not valid hex: ") (hexDecode hexStr)
  return fixedVectorFrom N bytes

/-- `to_hex_from_ssz_type` of `FixedVector<u8, N>`. -/
def toHexFromSszVector {N : ℕ} (data : Bytes N) : Json.Value :=
  .str ('0' :: 'x' :: Hex.encode data.toList)

@[simp] theorem fromHexToSszVector_toHexFromSszVector {N : ℕ}
    (data : Bytes N) :
    fromHexToSszVector N (toHexFromSszVector data) = .ok data := by
  simp [fromHexToSszVector, toHexFromSszVector, borrowedStr, hexDecode,
    Outcome.okOr]

/-- What a document of another shape is answered with. -/
def badJson : Failure := .err .serdeJson

/-- `quoted_u64`. -/
def readQuotedU64 (v : Json.Value) : Outcome UInt64 :=
  Outcome.okOr .serdeJson (Json.quotedU64 v)

@[simp] theorem readQuotedU64_decimal (n : UInt64) :
    readQuotedU64 (.str (Json.decimal n)) = .ok n := by
  simp [readQuotedU64, Json.quotedU64]

/-- The field of a signing root, skipped when there is none. -/
def seSigningRoot : Option Root → List (String × Json.Value)
  | none => []
  | some root => [("signing_root", .str (Hex.encode root.toList))]

def SignedBlockSlot.toJson (b : SignedBlockSlot) : Json.Value :=
  .obj (("slot", .str (Json.decimal b.slot)) :: seSigningRoot b.signingRoot)

def SignedAttestationEpochs.toJson (a : SignedAttestationEpochs) :
    Json.Value :=
  .obj (("source_epoch", .str (Json.decimal a.sourceEpoch)) ::
    ("target_epoch", .str (Json.decimal a.targetEpoch)) ::
    seSigningRoot a.signingRoot)

def SlashingProtectionData.toJson (db : SlashingProtectionData) :
    Json.Value :=
  .obj [("pubkey", toHexFromSszVector db.pubkey),
    ("signed_blocks", .arr (db.signedBlocks.map SignedBlockSlot.toJson)),
    ("signed_attestations",
      .arr (db.signedAttestations.map SignedAttestationEpochs.toJson))]

def SlashingProtectionData.write (db : SlashingProtectionData) : Enclave Unit :=
  let fname := Hex.encode db.pubkey.toList
  writeFileIn "Failed to create slashing dir"
    "failed to write protection data" .slashing fname (.json db.toJson)

section Reading

variable [SerdeHex]

def deSigningRoot (v : Json.Value) : Outcome (Option Root) := do
  let hexString ← Outcome.okOr .serdeJson (borrowedStr v)
  if hexString.isEmpty then return none
  let root ← Outcome.mapErr (.format "Not valid hex: ")
    (SerdeHex.fromHex 32 hexString)
  return some root

@[simp] theorem deSigningRoot_encode (root : Root) :
    deSigningRoot (.str (Hex.encode root.toList)) = .ok (some root) := by
  have hne : Hex.encode root.toList ≠ [] := by
    intro hnil
    have hlen := Hex.encode_length root.toList
    rw [hnil, root.toList_length] at hlen
    cases hlen
  simp [deSigningRoot, borrowedStr, Outcome.okOr, hne]

/-- The fields of a block that have been read. -/
structure SignedBlockSlot.Fields where
  slot : Option Slot
  signingRoot : Option (Option Root)

def SignedBlockSlot.deserialize : Json.Value → Outcome SignedBlockSlot :=
  Json.visit badJson ["slot", "signing_root"]
    (fun (fields : Fields) (key, v) =>
      if key = "slot" then do
        return { fields with
          slot := ← Json.once badJson readQuotedU64 fields.slot v }
      else if key = "signing_root" then do
        return { fields with
          signingRoot :=
            ← Json.once badJson deSigningRoot fields.signingRoot v }
      else return fields)
    ⟨none, none⟩
    fun fields => do
      return { slot := ← Json.present badJson fields.slot
               signingRoot := fields.signingRoot.getD none }

/-- The fields of an attestation that have been read. -/
structure SignedAttestationEpochs.Fields where
  sourceEpoch : Option Epoch
  targetEpoch : Option Epoch
  signingRoot : Option (Option Root)

def SignedAttestationEpochs.deserialize :
    Json.Value → Outcome SignedAttestationEpochs :=
  Json.visit badJson ["source_epoch", "target_epoch", "signing_root"]
    (fun (fields : Fields) (key, v) =>
      if key = "source_epoch" then do
        return { fields with
          sourceEpoch :=
            ← Json.once badJson readQuotedU64 fields.sourceEpoch v }
      else if key = "target_epoch" then do
        return { fields with
          targetEpoch :=
            ← Json.once badJson readQuotedU64 fields.targetEpoch v }
      else if key = "signing_root" then do
        return { fields with
          signingRoot :=
            ← Json.once badJson deSigningRoot fields.signingRoot v }
      else return fields)
    ⟨none, none, none⟩
    fun fields => do
      return { sourceEpoch := ← Json.present badJson fields.sourceEpoch
               targetEpoch := ← Json.present badJson fields.targetEpoch
               signingRoot := fields.signingRoot.getD none }

namespace SlashingProtectionData

/-- The fields of a database that have been read. -/
structure Fields where
  pubkey : Option BLSPubkey
  signedBlocks : Option (List SignedBlockSlot)
  signedAttestations : Option (List SignedAttestationEpochs)

def deserialize : Json.Value → Outcome SlashingProtectionData :=
  Json.visit badJson ["pubkey", "signed_blocks", "signed_attestations"]
    (fun (fields : Fields) (key, v) =>
      if key = "pubkey" then do
        return { fields with
          pubkey :=
            ← Json.once badJson (fromHexToSszVector 48) fields.pubkey v }
      else if key = "signed_blocks" then do
        return { fields with
          signedBlocks := ← Json.once badJson
            (Json.items badJson SignedBlockSlot.deserialize)
            fields.signedBlocks v }
      else if key = "signed_attestations" then do
        return { fields with
          signedAttestations := ← Json.once badJson
            (Json.items badJson SignedAttestationEpochs.deserialize)
            fields.signedAttestations v }
      else return fields)
    ⟨none, none, none⟩
    fun fields => do
      return {
        pubkey := ← Json.present badJson fields.pubkey
        signedBlocks := ← Json.present badJson fields.signedBlocks
        signedAttestations :=
          ← Json.present badJson fields.signedAttestations }

/-- `serde_json::from_slice`.  Where the text goes wrong after some part of a
document, that part has been read before. -/
def fromSlice : Contents → Outcome SlashingProtectionData
  | .json doc => Outcome.mapErr (fun _ => .serdeJson) (deserialize doc)
  | .malformed doc =>
      match deserialize doc with
      | .error .panic => Outcome.panic
      | _ => .error badJson
  | _ => .error badJson

/-- A file that holds a database. -/
def ofContents (c : Contents) : Option SlashingProtectionData :=
  (fromSlice c).toOption

end SlashingProtectionData

/-- What is written is read back. -/
@[simp] theorem SignedBlockSlot.deserialize_toJson (b : SignedBlockSlot) :
    deserialize b.toJson = .ok b := by
  obtain ⟨slot, root⟩ := b
  cases root with
  | none =>
      simp [deserialize, toJson, seSigningRoot, Json.visit, Json.once_none]
  | some r =>
      simp [deserialize, toJson, seSigningRoot, Json.visit, Json.once_none]

@[simp] theorem SignedAttestationEpochs.deserialize_toJson
    (a : SignedAttestationEpochs) : deserialize a.toJson = .ok a := by
  obtain ⟨src, tgt, root⟩ := a
  cases root with
  | none =>
      simp [deserialize, toJson, seSigningRoot, Json.visit, Json.once_none]
  | some r =>
      simp [deserialize, toJson, seSigningRoot, Json.visit, Json.once_none]

namespace SlashingProtectionData

@[simp] theorem deserialize_toJson (db : SlashingProtectionData) :
    deserialize db.toJson = .ok db := by
  have hblocks := Json.items_map badJson
    SignedBlockSlot.deserialize_toJson db.signedBlocks
  have hattestations := Json.items_map badJson
    SignedAttestationEpochs.deserialize_toJson db.signedAttestations
  simp [deserialize, toJson, Json.visit, Json.once_none, hblocks,
    hattestations]

@[simp] theorem ofContents_toJson (db : SlashingProtectionData) :
    ofContents (.json db.toJson) = some db := by
  simp [ofContents, fromSlice]

@[simp] theorem ofContents_garbage :
    ofContents .garbage = none := rfl

/-- What is left of a file by a torn write is no database. -/
theorem ofContents_tornAt (n : ℕ) (c : Contents) :
    ofContents (c.tornAt n) = none := by
  cases c <;> rfl

def read (pkHex : Str) : Enclave SlashingProtectionData := do
  let pkHex := strip0xPrefix pkHex
  let contents ← readFile .slashing pkHex
  liftM (Outcome.withContext "failed to read protection data"
    (fromSlice contents))

end SlashingProtectionData

/-- The database that a file holds. -/
def savedDb (D : Disk) (fname : Str) : Option SlashingProtectionData :=
  (D .slashing fname).bind SlashingProtectionData.ofContents

/-- What the reader of a database finds. -/
def lookupDb (D : Disk) (fname : Str) : Outcome SlashingProtectionData := do
  let contents ← Outcome.okOr .io (D .slashing fname)
  Outcome.withContext "failed to read protection data"
    (SlashingProtectionData.fromSlice contents)

theorem lookupDb_eq_ok {D : Disk} {fname : Str}
    {db : SlashingProtectionData} :
    lookupDb D fname = .ok db ↔ savedDb D fname = some db := by
  simp only [lookupDb, savedDb, SlashingProtectionData.ofContents,
    Outcome.bind_eq_ok, Outcome.okOr_eq_ok, Outcome.withContext_eq_ok,
    Option.bind_eq_some_iff, Outcome.toOption_eq_some]

theorem query_readDb (pkHex : Str) :
    Query (SlashingProtectionData.read pkHex) fun D =>
      lookupDb D (strip0xPrefix pkHex) :=
  (Query.readFile .slashing _).bind fun _ => Query.lift _

@[simp] theorem savedDb_set_same (D : Disk) (fname : Str)
    (db : SlashingProtectionData) :
    savedDb (D.set .slashing fname (.json db.toJson)) fname = some db := by
  simp [savedDb]

@[simp] theorem savedDb_set_garbage (D : Disk) (fname : Str) :
    savedDb (D.set .slashing fname .garbage) fname = none := by
  simp [savedDb]

theorem savedDb_set_of_ne {D : Disk} {fname n : Str} {c : Contents}
    (h : n ≠ fname) :
    savedDb (D.set .slashing fname c) n = savedDb D n := by
  rw [savedDb, Disk.set_of_ne (by simp [h]), savedDb]

end Reading

end ValidatorGuardian
