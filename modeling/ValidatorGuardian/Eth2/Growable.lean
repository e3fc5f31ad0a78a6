import ValidatorGuardian.Eth2.SlashProtection

/-!
# Growable and compact databases

A growable database appends the entries that a compact one writes over its
first entry.  Both raise the same watermark, and the watermark is all that
decides, so no sequence of calls tells them apart.
-/

namespace ValidatorGuardian

open Slashing

/-! ## Calls -/

/-- A call of `new_block` or of `new_attestation`. -/
inductive DbCall where
  | newBlock (block : SignedBlockSlot)
  | newAttestation (attest : SignedAttestationEpochs)

namespace DbCall

/-- The result of a call, and the database after it. -/
def perform (db : SlashingProtectionData) (growable : Bool) :
    DbCall → Outcome Unit × SlashingProtectionData
  | newBlock block => db.newBlock block growable
  | newAttestation attest => db.newAttestation attest growable

/-- The duty that a call records. -/
def duty : DbCall → Duty ℕ
  | newBlock block => .block block.slot.toNat
  | newAttestation attest =>
      .vote attest.sourceEpoch.toNat attest.targetEpoch.toNat

/-- The error of a refused call. -/
def refusal : DbCall → Outcome Unit
  | newBlock _ => Outcome.bail "Will not save this slashable Block!"
  | newAttestation _ =>
      Outcome.bail "Will not save this slashable Attestation!"

variable {db : SlashingProtectionData} {call : DbCall}

/-- What an accepted call does. -/
theorem perform_of_accepts (h : db.watermark.Accepts call.duty)
    (growable : Bool) :
    (call.perform db growable).1 = .ok () ∧
      (call.perform db growable).2.watermark =
        db.watermark.record call.duty := by
  cases call with
  | newBlock block =>
      have hok := SlashingProtectionData.newBlock_of_accepts h growable
      obtain ⟨-, hmark, -⟩ := SlashingProtectionData.newBlock_eq_ok hok
      simp only [perform, hok]
      exact ⟨trivial, hmark⟩
  | newAttestation attest =>
      have hok := SlashingProtectionData.newAttestation_of_accepts h growable
      obtain ⟨-, hmark, -⟩ := SlashingProtectionData.newAttestation_eq_ok hok
      simp only [perform, hok]
      exact ⟨trivial, hmark⟩

/-- What a refused call does: nothing. -/
theorem perform_of_not_accepts (h : ¬ db.watermark.Accepts call.duty)
    (growable : Bool) :
    call.perform db growable = (call.refusal, db) := by
  cases call with
  | newBlock block =>
      exact SlashingProtectionData.newBlock_of_not_accepts h growable
  | newAttestation attest =>
      exact SlashingProtectionData.newAttestation_of_not_accepts h growable

/-- A call that is not growable leaves lists of at most one entry, or of the
length they had. -/
theorem length_perform_compact (db : SlashingProtectionData)
    (call : DbCall) :
    (call.perform db false).2.signedBlocks.length ≤
        max 1 db.signedBlocks.length ∧
      (call.perform db false).2.signedAttestations.length ≤
        max 1 db.signedAttestations.length := by
  by_cases h : db.watermark.Accepts call.duty
  · cases call with
    | newBlock block =>
        simp only [perform,
          SlashingProtectionData.newBlock_of_accepts h false]
        exact ⟨length_saveEntry_compact.le, le_max_right ..⟩
    | newAttestation attest =>
        simp only [perform,
          SlashingProtectionData.newAttestation_of_accepts h false]
        exact ⟨le_max_right .., length_saveEntry_compact.le⟩
  · rw [perform_of_not_accepts h]
    exact ⟨le_max_right .., le_max_right ..⟩

end DbCall

/-! ## Runs of calls -/

/-- The result of every call, with the database after it. -/
def runCalls : SlashingProtectionData → List (DbCall × Bool) →
    List (Outcome Unit × SlashingProtectionData)
  | _, [] => []
  | db, (call, growable) :: rest =>
      call.perform db growable ::
        runCalls (call.perform db growable).2 rest

/-- Two databases decide alike. -/
structure DecideAlike (db db' : SlashingProtectionData) : Prop where
  slot : db.getLatestSignedBlockSlot = db'.getLatestSignedBlockSlot
  epochs : db.getLatestSignedAttestationEpochs =
    db'.getLatestSignedAttestationEpochs
  slashableSlot : ∀ slot,
    db.isSlashableBlockSlot slot = db'.isSlashableBlockSlot slot
  slashableEpochs : ∀ src tgt,
    db.isSlashableAttestationEpochs src tgt =
      db'.isSlashableAttestationEpochs src tgt

theorem decideAlike_of_watermark {db db' : SlashingProtectionData}
    (h : db.watermark = db'.watermark) : DecideAlike db db' := by
  have hslot : db.getLatestSignedBlockSlot =
      db'.getLatestSignedBlockSlot :=
    UInt64.toNat_inj.mp (congrArg Watermark.slot h)
  have hepochs : db.getLatestSignedAttestationEpochs =
      db'.getLatestSignedAttestationEpochs :=
    Prod.ext (UInt64.toNat_inj.mp (congrArg Watermark.source h))
      (UInt64.toNat_inj.mp (congrArg Watermark.target h))
  constructor
  · exact hslot
  · exact hepochs
  · intro slot
    rw [SlashingProtectionData.isSlashableBlockSlot,
      SlashingProtectionData.isSlashableBlockSlot, hslot]
  · intro src tgt
    rw [SlashingProtectionData.isSlashableAttestationEpochs,
      SlashingProtectionData.isSlashableAttestationEpochs, hepochs]

/-- One call on two databases with one watermark. -/
theorem perform_alike {db db' : SlashingProtectionData}
    (h : db.watermark = db'.watermark) (call : DbCall) (f g : Bool) :
    (call.perform db f).1 = (call.perform db' g).1 ∧
      (call.perform db f).2.watermark = (call.perform db' g).2.watermark := by
  by_cases hmark : db.watermark.Accepts call.duty
  · obtain ⟨hok, hrec⟩ := DbCall.perform_of_accepts hmark f
    rw [h] at hmark
    obtain ⟨hok', hrec'⟩ := DbCall.perform_of_accepts hmark g
    exact ⟨hok.trans hok'.symm, by rw [hrec, hrec', h]⟩
  · rw [DbCall.perform_of_not_accepts hmark]
    rw [h] at hmark
    rw [DbCall.perform_of_not_accepts hmark]
    exact ⟨rfl, h⟩

/-- A sequence of calls on two databases with one watermark. -/
theorem runCalls_alike {calls : List (DbCall × Bool × Bool)}
    {db db' : SlashingProtectionData} (h : db.watermark = db'.watermark) :
    List.Forall₂ (fun r r' => r.1 = r'.1 ∧ DecideAlike r.2 r'.2)
      (runCalls db (calls.map fun c => (c.1, c.2.1)))
      (runCalls db' (calls.map fun c => (c.1, c.2.2))) := by
  induction calls generalizing db db' with
  | nil => exact .nil
  | cons c rest ih =>
      obtain ⟨call, f, g⟩ := c
      obtain ⟨hresult, hmark⟩ := perform_alike h call f g
      exact .cons ⟨hresult, decideAlike_of_watermark hmark⟩ (ih hmark)

theorem length_runCalls_compact {calls : List DbCall}
    {db : SlashingProtectionData} :
    ∀ r ∈ runCalls db (calls.map fun call => (call, false)),
      r.2.signedBlocks.length ≤ max 1 db.signedBlocks.length ∧
        r.2.signedAttestations.length ≤
          max 1 db.signedAttestations.length := by
  induction calls generalizing db with
  | nil => simp [runCalls]
  | cons call rest ih =>
      intro r hr
      have hfirst := DbCall.length_perform_compact db call
      rcases List.mem_cons.mp hr with rfl | hr
      · exact hfirst
      · have hrest := ih r hr
        omega

/-- Whichever calls are growable, the same calls are accepted, the databases
decide alike after every one of them, a refused call changes nothing, and
without growable calls no list outgrows its first length and one. -/
theorem growable_irrelevant (db : SlashingProtectionData) :
    (∀ calls : List (DbCall × Bool × Bool),
      List.Forall₂ (fun r r' => r.1 = r'.1 ∧ DecideAlike r.2 r'.2)
        (runCalls db (calls.map fun c => (c.1, c.2.1)))
        (runCalls db (calls.map fun c => (c.1, c.2.2)))) ∧
    (∀ (call : DbCall) (growable : Bool) (e : Failure),
      (call.perform db growable).1 = .error e →
      (call.perform db growable).2 = db) ∧
    ∀ calls : List DbCall,
      ∀ r ∈ runCalls db (calls.map fun call => (call, false)),
        r.2.signedBlocks.length ≤ max 1 db.signedBlocks.length ∧
          r.2.signedAttestations.length ≤
            max 1 db.signedAttestations.length := by
  refine ⟨fun calls => runCalls_alike rfl, ?_,
    fun calls => length_runCalls_compact⟩
  intro call growable e herror
  by_cases h : db.watermark.Accepts call.duty
  · rw [(DbCall.perform_of_accepts h growable).1] at herror
    cases herror
  · rw [DbCall.perform_of_not_accepts h]

/-- A database whose blocks are out of order. -/
def unsortedDb : SlashingProtectionData where
  pubkey := List.Vector.replicate 48 7
  signedBlocks := [⟨4, none⟩, ⟨9, none⟩]
  signedAttestations := []

/-- A refused block, and two calls that are accepted. -/
def sampleCalls : List DbCall :=
  [.newBlock ⟨7, none⟩, .newBlock ⟨12, none⟩, .newAttestation ⟨1, 2, none⟩]

theorem growable_irrelevant_unsortedDb :
    (runCalls unsortedDb (sampleCalls.map fun call => (call, false))).map
        Prod.fst =
      [Outcome.bail "Will not save this slashable Block!", .ok (), .ok ()] ∧
    List.Forall₂ (fun r r' => r.1 = r'.1 ∧ DecideAlike r.2 r'.2)
      (runCalls unsortedDb (sampleCalls.map fun call => (call, false)))
      (runCalls unsortedDb (sampleCalls.map fun call => (call, true))) ∧
    ((DbCall.newBlock ⟨7, none⟩).perform unsortedDb true).2 = unsortedDb :=
  ⟨rfl, (growable_irrelevant unsortedDb).1
      (sampleCalls.map fun call => (call, false, true)),
    (growable_irrelevant unsortedDb).2.1 _ true
      (.err (.text "Will not save this slashable Block!")) rfl⟩

end ValidatorGuardian
