import ValidatorGuardian.Enclave.Shared

/-!
# The protocol of a signing request

A signing request reads the slashing database of its key, possibly twice, and
then writes it once.  What it writes is the database it read last with its own
duty recorded, and it answers a block or an attestation with a signature only
after that write succeeded.  This is so whatever the reads and writes answer,
so it holds of a request that is served alone and of one among others.
-/

namespace ValidatorGuardian

open Effect Slashing

/-! ## Duties -/

/-- The slashable duty that a message asks a validator to perform. -/
def BLSSignMsg.duty : BLSSignMsg → Option (Duty ℕ)
  | .BLOCK m | .block m => some (.block m.block.slot.toNat)
  | .BLOCK_V2 m | .block_v2 m =>
      some (.block m.beaconBlock.blockHeader.slot.toNat)
  | .ATTESTATION m | .attestation m =>
      some (.vote m.attestation.source.epoch.toNat
        m.attestation.target.epoch.toNat)
  | _ => none

theorem BLSSignMsg.canBeSlashed_eq (m : BLSSignMsg) :
    m.canBeSlashed = m.duty.isSome := by
  cases m <;> rfl

/-- The slot of a block. -/
def BLSSignMsg.blockSlot : BLSSignMsg → Option Slot
  | .BLOCK m | .block m => some m.block.slot
  | .BLOCK_V2 m | .block_v2 m => some m.beaconBlock.blockHeader.slot
  | _ => none

/-- The source and target epochs of an attestation. -/
def BLSSignMsg.epochs : BLSSignMsg → Option (Epoch × Epoch)
  | .ATTESTATION m | .attestation m =>
      some (m.attestation.source.epoch, m.attestation.target.epoch)
  | _ => none

theorem BLSSignMsg.duty_of_blockSlot {m : BLSSignMsg} {slot : Slot}
    (h : m.blockSlot = some slot) : m.duty = some (.block slot.toNat) := by
  cases m <;> cases h <;> rfl

theorem BLSSignMsg.duty_of_epochs {m : BLSSignMsg} {e : Epoch × Epoch}
    (h : m.epochs = some e) :
    m.duty = some (.vote e.1.toNat e.2.toNat) := by
  cases m <;> cases h <;> rfl

/-- `db'` is `db` with the duty `d` added, which `db` accepts. -/
structure Records (d : Duty ℕ) (db db' : SlashingProtectionData) : Prop where
  accepts : db.watermark.Accepts d
  watermark : db'.watermark = db.watermark.record d
  pubkey : db'.pubkey = db.pubkey

theorem Records.below {d : Duty ℕ} {db db' : SlashingProtectionData}
    (h : Records d db db') : db.watermark.Below db'.watermark := by
  rw [h.watermark]
  exact Watermark.below_record h.accepts

theorem Records.covers {d : Duty ℕ} {db db' : SlashingProtectionData}
    (h : Records d db db') : db'.watermark.Covers d := by
  rw [h.watermark]
  exact Watermark.record_covers _ d

/-- A new entry records the duty of the message. -/
theorem records_of_newEntry {db db' : SlashingProtectionData}
    {m : BLSSignMsg} {root : Root} (h : newEntry db m root = .ok db') :
    ∃ d, m.duty = some d ∧ Records d db db' := by
  have hblock : ∀ slot, Outcome.after (db.newBlock ⟨slot, some root⟩
      ALLOW_GROWABLE_SLASH_PROTECTION_DB) = .ok db' →
      Records (.block slot.toNat) db db' := by
    intro slot h
    obtain ⟨haccepts, hmark, hpubkey⟩ :=
      SlashingProtectionData.newBlock_eq_ok (Outcome.after_eq_ok.mp h)
    exact ⟨haccepts, hmark, hpubkey⟩
  have hvote : ∀ src tgt, Outcome.after (db.newAttestation
      ⟨src, tgt, some root⟩ ALLOW_GROWABLE_SLASH_PROTECTION_DB) = .ok db' →
      Records (.vote src.toNat tgt.toNat) db db' := by
    intro src tgt h
    obtain ⟨haccepts, hmark, hpubkey⟩ :=
      SlashingProtectionData.newAttestation_eq_ok (Outcome.after_eq_ok.mp h)
    exact ⟨haccepts, hmark, hpubkey⟩
  unfold newEntry at h
  split at h
  · exact ⟨_, rfl, hblock _ h⟩
  · exact ⟨_, rfl, hblock _ h⟩
  · exact ⟨_, rfl, hblock _ h⟩
  · exact ⟨_, rfl, hblock _ h⟩
  · exact ⟨_, rfl, hvote _ _ h⟩
  · exact ⟨_, rfl, hvote _ _ h⟩
  · exact absurd h Outcome.bail_ne_ok

/-! ## The protocol -/

/-- Where a request stands: it has not written yet and remembers the database
it read last, or it has tried to write. -/
inductive Session where
  | reading (seen : Option SlashingProtectionData)
  | wrote (ok : Bool)

/-- The name of the slashing database that a path leads to. -/
def slashingName (path : Str) : Str :=
  strip0xPrefix (strip0xPrefix path)

/-- The database is read under one name, and written once, with the duty
recorded in what was read. -/
def signingProtocol [SerdeHex] (name : Str) (duty : Option (Duty ℕ)) :
    Protocol FsOp FsOp.Ans Session where
  may
    | .reading _, .read .slashing n => n = name
    | .wrote _, .read .slashing _ => False
    | .reading seen, .write dir n c =>
        ∃ d db db', duty = some d ∧ seen = some db ∧ Records d db db' ∧
          dir = .slashing ∧ n = Hex.encode db.pubkey.toList ∧
          c = .json db'.toJson
    | .wrote _, .write _ _ _ => False
    | _, _ => True
  next
    | .reading _, .read .slashing _, ans =>
        .reading (Option.bind ans SlashingProtectionData.ofContents)
    | .reading _, .write _ _ _, ok => .wrote ok
    | s, _, _ => s

section Functions

variable {Λ : Type} {N : Protocol FsOp FsOp.Ans Λ} {l : Λ}

/-- Reading a database takes one read. -/
theorem Conforms.readDb [SerdeHex] {pkHex : Str}
    {F : Λ → Outcome SlashingProtectionData → Prop}
    (hmay : N.may l (.read .slashing (strip0xPrefix pkHex)))
    (hok : ∀ c db, SlashingProtectionData.ofContents c = some db →
      F (N.next l (.read .slashing (strip0xPrefix pkHex)) (some c)) (.ok db))
    (herr : ∀ ans e,
      F (N.next l (.read .slashing (strip0xPrefix pkHex)) ans) (.error e)) :
    Conforms N F l (SlashingProtectionData.read pkHex) := by
  refine Conforms.bind (F := fun l' r =>
    match r with
    | .ok c => l' = N.next l (.read .slashing (strip0xPrefix pkHex)) (some c)
    | .error e => F l' (.error e)) (Conforms.readFile hmay ?_) ?_ ?_
  · intro ans
    cases ans with
    | none => exact herr none _
    | some c => rfl
  · rintro l' c rfl
    apply Conforms.lift
    cases hdb : SlashingProtectionData.fromSlice c with
    | error e => cases e <;> exact herr (some c) _
    | ok db => exact hok c db (Outcome.toOption_eq_some.mpr hdb)
  · exact fun l' e h => h

variable [Blsttc]

/-- A key read does not matter to a session. -/
theorem Conforms.blsAggSignFromSavedSk {pkHex : Str} {msg : List UInt8}
    {F : Λ → Outcome Blsttc.Signature → Prop}
    (hmay : N.may l (.read .blsKeys
      (strip0xPrefix (strip0xPrefix pkHex))))
    (hnext : ∀ ans, N.next l (.read .blsKeys
      (strip0xPrefix (strip0xPrefix pkHex))) ans = l)
    (hok : ∀ set,
      pkHex = Blsttc.publicKeyToHex
        (Blsttc.publicKey (Blsttc.publicKeys set)) →
      F l (.ok (blsAggSign set msg)))
    (herr : ∀ e, F l (.error e)) :
    Conforms N F l (ValidatorGuardian.blsAggSignFromSavedSk pkHex msg) := by
  have hread : Conforms N
      (fun l' (_ : Outcome (List UInt8)) => l' = l) l
      (readBlsKey (strip0xPrefix pkHex)) := by
    refine Conforms.bind (F := fun l' _ => l' = l)
      (Conforms.withContext (Conforms.readFile hmay ?_)) ?_ ?_
    · exact hnext
    · rintro l' c rfl
      exact Conforms.lift rfl
    · exact fun l' e h => h
  have hfetch : Conforms N
      (fun l' (_ : Outcome Blsttc.SecretKeySet) => l' = l) l
      (fetchBlsSk pkHex) := by
    refine Conforms.bind hread ?_ ?_
    · rintro l' bs rfl
      exact Conforms.lift rfl
    · exact fun l' e h => h
  refine Conforms.bind hfetch ?_ ?_
  · rintro l' set rfl
    refine Conforms.bindLift (fun pk hpk => ?_) fun e _ => herr e
    obtain ⟨-, rfl⟩ := Blsttc.publicKeyOf_eq_ok.mp hpk
    refine Conforms.bindLift (fun _ hname => ?_) fun e _ => herr e
    exact Conforms.pure
      (hok set (not_not.mp (Outcome.bailIf_eq_ok.mp hname)))
  · rintro l' e rfl
    exact herr e

/-- Signing ends where it began, with a signature by the named key. -/
theorem Conforms.signMessage {pkHex : Str} {root : Root}
    (hmay : N.may l (.read .blsKeys
      (strip0xPrefix (strip0xPrefix pkHex))))
    (hnext : ∀ ans, N.next l (.read .blsKeys
      (strip0xPrefix (strip0xPrefix pkHex))) ans = l) :
    Conforms N (fun l' r => l' = l ∧ ∀ response, r = .ok response →
        response.status = .OK → ∃ set,
          pkHex = Blsttc.publicKeyToHex
            (Blsttc.publicKey (Blsttc.publicKeys set)) ∧
          response.body = .json (SignatureResponse.new
            (Blsttc.signatureToBytes
              (blsAggSign set root.toList)).toList)) l
      (ValidatorGuardian.signMessage pkHex root) := by
  refine Conforms.attemptBind (F := fun l' r => l' = l ∧ ∀ sig, r = .ok sig →
      ∃ set, pkHex = Blsttc.publicKeyToHex
          (Blsttc.publicKey (Blsttc.publicKeys set)) ∧
        sig = blsAggSign set root.toList)
    (Conforms.blsAggSignFromSavedSk hmay hnext ?_ ?_) ?_ ?_ ?_
  · intro set hset
    refine ⟨rfl, ?_⟩
    rintro sig ⟨⟩
    exact ⟨set, hset, rfl⟩
  · simp
  · rintro l' sig ⟨rfl, hsig⟩
    obtain ⟨set, hset, rfl⟩ := hsig sig rfl
    refine Conforms.pure ⟨rfl, ?_⟩
    rintro response ⟨⟩ _
    exact ⟨set, hset, rfl⟩
  · rintro l' e ⟨rfl, -⟩
    refine Conforms.pure ⟨rfl, ?_⟩
    rintro response ⟨⟩ hstatus
    cases hstatus
  · rintro l' ⟨rfl, -⟩
    exact ⟨rfl, by simp⟩

end Functions

/-- An answer with a signature: it is made by a key whose hex is the path
without its prefix, over the signing root, and if the message carries a duty
then the database has been written. -/
structure Released [Blsttc] [Hashing] [Eth2TreeHash] (path : Str)
    (genesisForkVersion : Version) (req : BLSSignMsg) (s : Session)
    (response : Response) : Prop where
  recorded : req.duty.isSome → s = .wrote true
  signed : ∃ set, strip0xPrefix path =
      Blsttc.publicKeyToHex (Blsttc.publicKey (Blsttc.publicKeys set)) ∧
    response.body = .json (SignatureResponse.new
      (Blsttc.signatureToBytes (blsAggSign set
        (req.toSigningRoot (some genesisForkVersion)).toList)).toList)

/-- The response is a signature over `root`. -/
def SignsRoot [Blsttc] (response : Response) (root : Root) : Prop :=
  ∃ set, response.body = .json (SignatureResponse.new
    (Blsttc.signatureToBytes (blsAggSign set root.toList)).toList)

theorem Released.signsRoot [Blsttc] [Hashing] [Eth2TreeHash] {path : Str}
    {v : Version} {req : BLSSignMsg} {s : Session} {response : Response}
    (h : Released path v req s response) :
    SignsRoot response (req.toSigningRoot (some v)) := by
  obtain ⟨set, -, hbody⟩ := h.signed
  exact ⟨set, hbody⟩

/-! ## The parts of a request -/

variable [SerdeHex] {path pkHex : Str} {v : Version} {req : BLSSignMsg}

theorem conforms_isSlashable (seen : Option SlashingProtectionData) :
    Conforms (signingProtocol (strip0xPrefix pkHex) req.duty)
      (fun l _ => ∃ seen', l = .reading seen') (.reading seen)
      (isSlashable pkHex req) := by
  refine Conforms.bind (Conforms.readDb
    (F := fun l _ => ∃ seen', l = .reading seen') rfl ?_ ?_) ?_ ?_
  · exact fun c db _ => ⟨_, rfl⟩
  · exact fun ans e => ⟨_, rfl⟩
  · rintro l' db ⟨seen', rfl⟩
    cases req <;> exact Conforms.pure ⟨seen', rfl⟩
  · exact fun l' e h => h

variable [Hashing] [Eth2TreeHash]

/-- The write comes after a read, and records the duty in what was read. -/
theorem conforms_updateSlashProtectionDb
    (seen : Option SlashingProtectionData) :
    Conforms (signingProtocol (strip0xPrefix pkHex) req.duty)
      (fun l r => ∀ u, r = .ok u → l = .wrote true) (.reading seen)
      (updateSlashProtectionDb pkHex req) := by
  refine Conforms.bind (Conforms.readDb
    (F := fun l r => ∀ db, r = .ok db → l = .reading (some db)) rfl ?_ ?_)
    ?_ ?_
  · rintro c db hdb _ ⟨⟩
    exact congrArg Session.reading hdb
  · simp
  · intro l' db hl'
    obtain rfl := hl' db rfl
    refine Conforms.bind (F := fun l r => l = .reading (some db) ∧
        ∀ db', r = .ok db' → ∃ d, req.duty = some d ∧ Records d db db')
      (Conforms.lift ⟨rfl, fun db' h => records_of_newEntry h⟩) ?_ ?_
    · rintro l'' db' ⟨rfl, hrecords⟩
      obtain ⟨d, hd, hrec⟩ := hrecords db' rfl
      refine Conforms.bind (F := fun l _ => l = .reading (some db))
        (Conforms.withContext (Conforms.createDirAll trivial fun _ => rfl))
        ?_ ?_
      · rintro l _ rfl
        refine Conforms.withContext (Conforms.writeFile ?_ ?_)
        · refine ⟨d, db, db', hd, rfl, hrec, rfl, ?_, rfl⟩
          rw [hrec.pubkey]
        · intro ok
          cases ok with
          | true => exact fun _ _ => rfl
          | false => simp [ioResult, Outcome.withContext, Outcome.mapErr]
      · simp
    · simp
  · simp

/-! ## The whole request -/

variable [Blsttc]

theorem conforms_signSanitized :
    Conforms (signingProtocol (slashingName path) req.duty)
      (fun l r => ∀ response, r = .ok response → response.status = .OK →
        Released path v req l response) (.reading none)
      (signSanitized path v req) := by
  have hnotOk : ∀ (l : Session) (status : StatusCode) (body : Body),
      status ≠ .OK → ∀ response : Response,
      (.ok ⟨status, body⟩ : Outcome Response) = .ok response →
      response.status = .OK → Released path v req l response := by
    rintro l status body hstatus response ⟨⟩ h
    exact absurd h hstatus
  have hsign : ∀ l, (∀ n, (signingProtocol (slashingName path) req.duty).may l
        (.read .blsKeys n)) →
      (∀ n ans, (signingProtocol (slashingName path) req.duty).next l
        (.read .blsKeys n) ans = l) →
      (req.duty.isSome → l = .wrote true) →
      Conforms (signingProtocol (slashingName path) req.duty)
        (fun l r => ∀ response, r = .ok response → response.status = .OK →
          Released path v req l response) l
        (signMessage (strip0xPrefix path)
          (req.toSigningRoot (some v))) := by
    intro l hmay hnext hduty
    refine (Conforms.signMessage (hmay _) (hnext _)).weaken ?_
    rintro l' r ⟨rfl, hsigned⟩ response hr hstatus
    exact ⟨hduty, hsigned response hr hstatus⟩
  refine Conforms.attemptBind (F := fun l r => l = .reading none ∧
      ∀ K, r = .ok K → K = strip0xPrefix path)
    (Conforms.lift ⟨rfl, fun K hK => (sanitizeBlsPkHex_eq_ok.mp hK).2.symm⟩)
    ?_ (fun _ _ _ => Conforms.pure (hnotOk _ _ _ (by simp))) (by simp)
  rintro l K ⟨rfl, hK⟩
  obtain rfl := hK K rfl
  refine Conforms.attemptBind (conforms_isSlashable none) ?_
    (fun _ _ _ => Conforms.pure (hnotOk _ _ _ (by simp))) (by simp)
  rintro l slashable ⟨seen, rfl⟩
  cases slashable with
  | true => exact Conforms.pure (hnotOk _ _ _ (by simp))
  | false =>
  by_cases hslash : req.canBeSlashed = true
  · simp only [hslash, if_true]
    refine Conforms.attemptBind (conforms_updateSlashProtectionDb seen) ?_
      (fun _ _ _ => Conforms.pure (hnotOk _ _ _ (by simp))) (by simp)
    intro l u hu
    obtain rfl := hu u rfl
    exact hsign (.wrote true) (fun n => trivial) (fun n ans => rfl)
      (fun _ => rfl)
  · simp only [hslash]
    apply hsign (.reading seen) (fun n => trivial) (fun n ans => rfl)
    intro hduty
    rw [← BLSSignMsg.canBeSlashed_eq] at hduty
    exact absurd hduty hslash

/-- A signing request keeps to its protocol. -/
theorem conforms_signValidatorMessage :
    Conforms (signingProtocol (slashingName path) req.duty)
      (fun l r => ∀ response, r = .ok response → response.status = .OK →
        Released path v req l response) (.reading none)
      (signValidatorMessage path v req) := by
  unfold signValidatorMessage
  split
  · refine Conforms.pure ?_
    rintro response ⟨⟩ hstatus
    cases hstatus
  · exact conforms_signSanitized

end ValidatorGuardian
