import ValidatorGuardian.Signing.Sequential

/-!
# The slashing guard and the recorder

Before anything is signed, the guard compares a message with the slashing
database; later the recorder compares it again and adds it.  The two are coded
apart, over the spellings of the messages one by one.  They agree on every
database, and what they decide is said by the entries alone.
-/

namespace ValidatorGuardian

open Effect Slashing

namespace BLSSignMsg

/-! ## Messages -/

/-- A message is a block, an attestation, or something that cannot be
slashed. -/
theorem slashable_cases (m : BLSSignMsg) :
    (∃ slot, m.blockSlot = some slot ∧ m.epochs = none ∧
        m.canBeSlashed = true) ∨
      (∃ src tgt, m.blockSlot = none ∧ m.epochs = some (src, tgt) ∧
        m.canBeSlashed = true) ∨
      (m.blockSlot = none ∧ m.epochs = none ∧ m.canBeSlashed = false) := by
  cases m with
  | BLOCK m | block m | BLOCK_V2 m | block_v2 m =>
      exact .inl ⟨_, rfl, rfl, rfl⟩
  | ATTESTATION m | attestation m => exact .inr (.inl ⟨_, _, rfl, rfl, rfl⟩)
  | _ => exact .inr (.inr ⟨rfl, rfl, rfl⟩)

/-- A message with a duty is one that can be slashed. -/
theorem canBeSlashed_of_duty {m : BLSSignMsg} {d : Duty ℕ}
    (h : m.duty = some d) : m.canBeSlashed = true := by
  rw [canBeSlashed_eq, h]
  rfl

/-- An attestation is not a block. -/
theorem blockSlot_of_epochs {m : BLSSignMsg} {e : Epoch × Epoch}
    (h : m.epochs = some e) : m.blockSlot = none := by
  rcases m.slashable_cases with ⟨_, -, hnone, -⟩ | ⟨_, _, hnone, -⟩ |
    ⟨hnone, -⟩
  · rw [h] at hnone
    cases hnone
  · exact hnone
  · exact hnone

theorem canBeSlashed_of_other {m : BLSSignMsg} (hblock : m.blockSlot = none)
    (hepochs : m.epochs = none) : m.canBeSlashed = false := by
  rcases m.slashable_cases with ⟨_, hsome, -⟩ | ⟨_, _, -, hsome, -⟩ |
    ⟨-, -, hother⟩
  · rw [hblock] at hsome
    cases hsome
  · rw [hepochs] at hsome
    cases hsome
  · exact hother

/-- A block or an attestation has one signing root, whatever the genesis
version. -/
theorem toSigningRoot_of_canBeSlashed [Hashing] [Eth2TreeHash] {m : BLSSignMsg}
    (h : m.canBeSlashed = true) (v : Version) :
    m.toSigningRoot none = m.toSigningRoot (some v) := by
  cases m <;> first | rfl | cases h

/-- What the guard says of a message in view of a database. -/
def slashableIn (m : BLSSignMsg) (db : SlashingProtectionData) : Bool :=
  match m.blockSlot, m.epochs with
  | some slot, _ => db.isSlashableBlockSlot slot
  | none, some e => db.isSlashableAttestationEpochs e.1 e.2
  | none, none => false

variable {m : BLSSignMsg} {db db' : SlashingProtectionData} {slot : Slot}
  {src tgt : Epoch}

theorem slashableIn_block (h : m.blockSlot = some slot) :
    m.slashableIn db = db.isSlashableBlockSlot slot := by
  rw [slashableIn, h]

theorem slashableIn_attestation (hblock : m.blockSlot = none)
    (h : m.epochs = some (src, tgt)) :
    m.slashableIn db = db.isSlashableAttestationEpochs src tgt := by
  rw [slashableIn, hblock, h]

theorem slashableIn_other (hblock : m.blockSlot = none)
    (h : m.epochs = none) : m.slashableIn db = false := by
  rw [slashableIn, hblock, h]

end BLSSignMsg

section Decisions

variable {m : BLSSignMsg} {db db' : SlashingProtectionData} {slot : Slot}
  {src tgt : Epoch} {root : Root}

theorem newEntry_block (h : m.blockSlot = some slot) :
    newEntry db m root = Outcome.after (db.newBlock ⟨slot, some root⟩
      ALLOW_GROWABLE_SLASH_PROTECTION_DB) := by
  cases m <;> cases h <;> rfl

theorem newEntry_attestation (h : m.epochs = some (src, tgt)) :
    newEntry db m root = Outcome.after (db.newAttestation
      ⟨src, tgt, some root⟩ ALLOW_GROWABLE_SLASH_PROTECTION_DB) := by
  cases m <;> cases h <;> rfl

/-! ## Decisions -/

theorem isSlashableBlockSlot_iff :
    db.isSlashableBlockSlot slot = false ↔
      0 < slot ∧ ∀ b ∈ db.signedBlocks, b.slot < slot := by
  rw [SlashingProtectionData.isSlashableBlockSlot, decide_eq_false_iff_not,
    UInt64.not_le]
  exact latestBy_lt_iff

theorem isSlashableAttestationEpochs_iff :
    db.isSlashableAttestationEpochs src tgt = false ↔
      0 < tgt ∧ ∀ a ∈ db.signedAttestations,
        a.sourceEpoch ≤ src ∧ a.targetEpoch < tgt := by
  rw [SlashingProtectionData.isSlashableAttestationEpochs,
    Bool.or_eq_false_iff, decide_eq_false_iff_not, decide_eq_false_iff_not,
    UInt64.not_lt, UInt64.not_le]
  simp only [SlashingProtectionData.getLatestSignedAttestationEpochs,
    latestBy_le_iff, latestBy_lt_iff]
  constructor
  · rintro ⟨hsrc, hpos, htgt⟩
    exact ⟨hpos, fun a ha => ⟨hsrc a ha, htgt a ha⟩⟩
  · rintro ⟨hpos, hall⟩
    exact ⟨fun a ha => (hall a ha).1, hpos, fun a ha => (hall a ha).2⟩

/-- The latest values of a database are those of the message, and its entry is
there with a signing root. -/
structure LatestIs (m : BLSSignMsg) (root : Root)
    (db : SlashingProtectionData) : Prop where
  block : ∀ slot, m.blockSlot = some slot →
    db.getLatestSignedBlockSlot = slot ∧
      ⟨slot, some root⟩ ∈ db.signedBlocks
  attestation : ∀ src tgt, m.epochs = some (src, tgt) →
    db.getLatestSignedAttestationEpochs = (src, tgt) ∧
      ⟨src, tgt, some root⟩ ∈ db.signedAttestations

/-- What the guard lets pass, the recorder adds. -/
theorem exists_newEntry (h : m.canBeSlashed = true)
    (hpass : m.slashableIn db = false) (root : Root) :
    ∃ db', newEntry db m root = .ok db' ∧ LatestIs m root db' ∧
      db'.pubkey = db.pubkey := by
  rcases m.slashable_cases with ⟨slot, hblock, hepochs, -⟩ |
    ⟨src, tgt, hblock, hepochs, -⟩ | ⟨-, -, hother⟩
  · rw [BLSSignMsg.slashableIn_block hblock] at hpass
    have haccepts := SlashingProtectionData.isSlashableBlockSlot_eq_false.mp
      hpass
    have hok := SlashingProtectionData.newBlock_of_accepts
      (b := ⟨slot, some root⟩) haccepts ALLOW_GROWABLE_SLASH_PROTECTION_DB
    refine ⟨_, (newEntry_block hblock).trans (Outcome.after_eq_ok.mpr hok),
      ⟨?_, ?_⟩, rfl⟩
    · intro slot' hslot'
      obtain rfl := Option.some.inj (hblock.symm.trans hslot')
      exact ⟨latestBy_saveEntry (UInt64.le_iff_toNat_le.mp haccepts.le),
        mem_saveEntry_self _⟩
    · intro src tgt h
      rw [hepochs] at h
      cases h
  · rw [BLSSignMsg.slashableIn_attestation hblock hepochs] at hpass
    have haccepts :=
      SlashingProtectionData.isSlashableAttestationEpochs_eq_false.mp hpass
    have hok := SlashingProtectionData.newAttestation_of_accepts
      (a := ⟨src, tgt, some root⟩) haccepts
      ALLOW_GROWABLE_SLASH_PROTECTION_DB
    refine ⟨_, (newEntry_attestation hepochs).trans
      (Outcome.after_eq_ok.mpr hok), ⟨?_, ?_⟩, rfl⟩
    · intro slot h
      rw [hblock] at h
      cases h
    · intro src' tgt' h
      obtain ⟨rfl, rfl⟩ := Prod.mk.inj (Option.some.inj (hepochs.symm.trans h))
      exact ⟨Prod.ext (latestBy_saveEntry haccepts.1)
        (latestBy_saveEntry haccepts.2.le), mem_saveEntry_self _⟩
  · rw [hother] at h
    cases h

/-- What the guard stops, the recorder refuses. -/
theorem newEntry_of_slashable (hstop : m.slashableIn db = true)
    (root : Root) : ∃ s, newEntry db m root = Outcome.bail s := by
  rcases m.slashable_cases with ⟨slot, hblock, hepochs, -⟩ |
    ⟨src, tgt, hblock, hepochs, -⟩ | ⟨hblock, hepochs, -⟩
  · rw [BLSSignMsg.slashableIn_block hblock] at hstop
    have hnot : ¬ db.watermark.Accepts (.block slot.toNat) := by
      rw [← SlashingProtectionData.isSlashableBlockSlot_eq_false, hstop]
      simp
    rw [newEntry_block hblock,
      SlashingProtectionData.newBlock_of_not_accepts hnot]
    exact ⟨_, rfl⟩
  · rw [BLSSignMsg.slashableIn_attestation hblock hepochs] at hstop
    have hnot : ¬ db.watermark.Accepts (.vote src.toNat tgt.toNat) := by
      rw [← SlashingProtectionData.isSlashableAttestationEpochs_eq_false,
        hstop]
      simp
    rw [newEntry_attestation hepochs,
      SlashingProtectionData.newAttestation_of_not_accepts hnot]
    exact ⟨_, rfl⟩
  · rw [BLSSignMsg.slashableIn_other hblock hepochs] at hstop
    cases hstop

/-- What the recorder adds, the guard has let pass. -/
theorem slashableIn_of_newEntry {root : Root}
    (hok : newEntry db m root = .ok db') : m.slashableIn db = false := by
  by_contra hstop
  rw [Bool.not_eq_false] at hstop
  obtain ⟨s, hbail⟩ := newEntry_of_slashable hstop root
  rw [hok] at hbail
  cases hbail

end Decisions

/-! ## The functions that read the database -/

theorem query_isSlashable [SerdeHex] (pkHex : Str) (m : BLSSignMsg) :
    Query (isSlashable pkHex m) fun D =>
      (lookupDb D (strip0xPrefix pkHex)).map m.slashableIn := by
  have hquery := (query_readDb pkHex).map m.slashableIn
  refine (congrArg (Query · _) ?_).mp hquery
  unfold isSlashable
  congr 1
  funext db
  cases m <;> rfl

section Recorder

variable [SerdeHex] [Hashing] [Eth2TreeHash] {m : BLSSignMsg} {pkHex : Str}
  {D : Disk} {db db' : SlashingProtectionData}

theorem exec_updateSlashProtectionDb
    (hdb : savedDb D (strip0xPrefix pkHex) = some db)
    (hentry : newEntry db m (m.toSigningRoot none) = .ok db') :
    exec (updateSlashProtectionDb pkHex m) ([], D) =
      (.ok (), ([], D.set .slashing (Hex.encode db'.pubkey.toList)
        (.json db'.toJson))) := by
  have hsave : exec
      (liftM (newEntry db m (m.toSigningRoot none)) >>= fun db => db.write)
      ([], D) = (.ok (), ([], D.set .slashing
        (Hex.encode db'.pubkey.toList) (.json db'.toJson))) := by
    rw [hentry, exec_bind_of_ok (exec_liftM _ _)]
    exact exec_writeFileIn_nil
  rw [updateSlashProtectionDb,
    exec_bind_of_ok ((query_readDb pkHex).returns (lookupDb_eq_ok.mpr hdb))]
  exact hsave

/-- A refused entry changes no file. -/
theorem triple_updateSlashProtectionDb_refused
    (hdb : savedDb D (strip0xPrefix pkHex) = some db) {s : String}
    (hentry : newEntry db m (m.toSigningRoot none) = Outcome.bail s) :
    Triple (fun _ => True) (· = D) (updateSlashProtectionDb pkHex m)
      fun r D' => (∃ e, r = .error (.err e)) ∧ D' = D := by
  have hsave : Triple (fun _ => True) (· = D)
      (liftM (newEntry db m (m.toSigningRoot none)) >>= fun db => db.write)
      fun r D' => (∃ e, r = .error (.err e)) ∧ D' = D := by
    refine Triple.bindLift ?_ ?_
    · intro db' hok
      rw [hentry] at hok
      cases hok
    · intro f D' hf hD'
      rw [hentry] at hf
      cases hf
      exact ⟨⟨_, rfl⟩, hD'⟩
  have hfound := lookupDb_eq_ok.mpr hdb
  refine (query_readDb pkHex).tripleBind ?_
    (fun e D' hD' => ⟨⟨e, rfl⟩, hD'⟩) ?_
  · rintro db₁ faults D' hfaults ⟨rfl, hdb₁⟩
    obtain rfl := Except.ok.inj (hfound.symm.trans hdb₁)
    exact hsave faults D' hfaults rfl
  · rintro D' rfl hpanic
    rw [hfound] at hpanic
    cases hpanic

/-- A request that cannot be slashed changes no file. -/
theorem exec_signValidatorMessage_other [Blsttc] (faults : List Fault)
    {path : Str} {v : Version} (h : m.canBeSlashed = false) :
    (exec (signValidatorMessage path v m) (faults, D)).2.2 = D := by
  have hduty : m.duty = none := by
    rw [← Option.not_isSome_iff_eq_none, ← BLSSignMsg.canBeSlashed_eq, h]
    simp
  have hstep : ∀ (l : Session) (D' : Disk) (op : FsOp) (f : Fault),
      (signingProtocol (slashingName path) m.duty).may l op → D' = D →
      (fsHandler f D' op).2 = D := by
    rintro l D' op f hmay rfl
    cases op with
    | read dir n => cases f <;> rfl
    | createDir dir => cases f <;> rfl
    | write dir n c =>
        cases l with
        | reading seen =>
            obtain ⟨d, db, db', hd, -⟩ := hmay
            rw [hduty] at hd
            cases hd
        | wrote ok => exact absurd hmay id
  have hprotocol : Conforms (signingProtocol (slashingName path) m.duty)
      (fun _ _ => True) (.reading none) (signValidatorMessage path v m) :=
    conforms_signValidatorMessage.weaken fun _ _ _ => trivial
  have hrun : ∃ l : Session,
      (exec (signValidatorMessage path v m) (faults, D)).2.2 = D ∧ True :=
    Program.Conforms.run (J := fun _ D' => D' = D) hprotocol hstep rfl
  obtain ⟨-, hD, -⟩ := hrun
  exact hD

end Recorder

/-! ## Agreement -/

/-- For a message whose guard has answered `b` in view of `db`: what `b` says
of the entries, that the recorder goes by it and records the root that is
signed, and that nothing is written for any other message. -/
structure GuardExact [Blsttc] [SerdeHex] [Hashing] [Eth2TreeHash] (pkHex : Str)
    (D : Disk) (db : SlashingProtectionData) (m : BLSSignMsg) (b : Bool) :
    Prop where
  block : ∀ slot, m.blockSlot = some slot →
    m.canBeSlashed = true ∧
    (b = false ↔ 0 < slot ∧ ∀ e ∈ db.signedBlocks, e.slot < slot)
  attestation : ∀ src tgt, m.epochs = some (src, tgt) →
    m.canBeSlashed = true ∧
    (b = false ↔ 0 < tgt ∧ ∀ a ∈ db.signedAttestations,
      a.sourceEpoch ≤ src ∧ a.targetEpoch < tgt)
  recorder : m.canBeSlashed = true →
    (b = false ↔ ∃ db', newEntry db m (m.toSigningRoot none) = .ok db')
  records : ∀ db', newEntry db m (m.toSigningRoot none) = .ok db' →
    (∀ v, LatestIs m (m.toSigningRoot (some v)) db') ∧
    exec (updateSlashProtectionDb pkHex m) ([], D) =
      (.ok (), ([], D.set .slashing (Hex.encode db.pubkey.toList)
        (.json db'.toJson)))
  signs : m.canBeSlashed = true → ∀ faults E path v response,
    (exec (signValidatorMessage path v m) (faults, E)).1 = .ok response →
      response.status = .OK → SignsRoot response (m.toSigningRoot none)
  refuses : b = true → ∀ faults,
    (∃ e, (exec (updateSlashProtectionDb pkHex m) (faults, D)).1 =
      .error (.err e)) ∧
    (exec (updateSlashProtectionDb pkHex m) (faults, D)).2.2 = D
  other : m.blockSlot = none → m.epochs = none →
    b = false ∧ m.canBeSlashed = false ∧ ∀ faults path v,
      (exec (signValidatorMessage path v m) (faults, D)).2.2 = D

/-- The guard answers for every database and every message, and its answer is
exact. -/
theorem guard_exact [Blsttc] [SerdeHex] [Hashing] [Eth2TreeHash]
    {pkHex : Str} {D : Disk} {db : SlashingProtectionData}
    (hdb : savedDb D (strip0xPrefix pkHex) = some db) (m : BLSSignMsg) :
    ∃ b, exec (isSlashable pkHex m) ([], D) = (.ok b, ([], D)) ∧
      GuardExact pkHex D db m b := by
  refine ⟨m.slashableIn db, ?_, ?_, ?_, ?_, ?_, ?_, ?_, ?_⟩
  · apply (query_isSlashable pkHex m).returns
    rw [lookupDb_eq_ok.mpr hdb]
    rfl
  · intro slot hslot
    rw [BLSSignMsg.slashableIn_block hslot]
    exact ⟨BLSSignMsg.canBeSlashed_of_duty (BLSSignMsg.duty_of_blockSlot hslot),
      isSlashableBlockSlot_iff⟩
  · intro src tgt hepochs
    have hblock := BLSSignMsg.blockSlot_of_epochs hepochs
    rw [BLSSignMsg.slashableIn_attestation hblock hepochs]
    exact ⟨BLSSignMsg.canBeSlashed_of_duty (BLSSignMsg.duty_of_epochs hepochs),
      isSlashableAttestationEpochs_iff⟩
  · intro hslash
    constructor
    · intro hpass
      obtain ⟨db', hok, -⟩ := exists_newEntry hslash hpass
        (m.toSigningRoot none)
      exact ⟨db', hok⟩
    · rintro ⟨db', hok⟩
      exact slashableIn_of_newEntry hok
  · intro db' hok
    obtain ⟨d, hduty, -⟩ := records_of_newEntry hok
    have hslash := BLSSignMsg.canBeSlashed_of_duty hduty
    obtain ⟨db₁, hok₁, hlatest, hpubkey⟩ := exists_newEntry hslash
      (slashableIn_of_newEntry hok) (m.toSigningRoot none)
    obtain rfl := Except.ok.inj (hok.symm.trans hok₁)
    constructor
    · intro v
      rw [← BLSSignMsg.toSigningRoot_of_canBeSlashed hslash v]
      exact hlatest
    · rw [← hpubkey]
      exact exec_updateSlashProtectionDb hdb hok
  · intro hslash faults E path v response hr hstatus
    rw [BLSSignMsg.toSigningRoot_of_canBeSlashed hslash v]
    exact signsRoot_of_released hr hstatus
  · intro hstop faults
    obtain ⟨s, hbail⟩ := newEntry_of_slashable hstop (m.toSigningRoot none)
    exact (triple_updateSlashProtectionDb_refused hdb hbail).exec_spec
      (fun _ _ => trivial) rfl
  · intro hblock hepochs
    have hslash := BLSSignMsg.canBeSlashed_of_other hblock hepochs
    exact ⟨BLSSignMsg.slashableIn_other hblock hepochs, hslash,
      fun faults path v => exec_signValidatorMessage_other faults hslash⟩

section SampleGuard

open Exponent

theorem guard_exact_blockAt :
    ∃ db b, exec (isSlashable (keyName 3) (blockAt 8)) ([], importedStore) =
        (.ok b, ([], importedStore)) ∧
      GuardExact (keyName 3) importedStore db (blockAt 8) b := by
  have hsaved : (savedDb importedStore
      (strip0xPrefix (keyName 3))).isSome := by decide +kernel
  obtain ⟨db, hdb⟩ := Option.isSome_iff_exists.mp hsaved
  exact ⟨db, guard_exact hdb (blockAt 8)⟩

end SampleGuard

end ValidatorGuardian
