import ValidatorGuardian.Signing.Concurrent
import ValidatorGuardian.Signing.Endpoint
import ValidatorGuardian.Support.Keyring

/-!
# What a signing request is answered

Without faults the endpoint is a keyring, whose reasons for a missing watermark
or secret are the failures of the readers.  The outcome of every request of a
run, and the watermarks after it, are those that the keyring gives; so a
request is signed exactly when its key and database are there and its duty
comes after all that was recorded before, a panic of a reader is the only way
to no response, and a duty is recorded even when no key is found to sign it.
-/

namespace ValidatorGuardian

open Slashing

/-! ## The keyring of a store -/

/-- What a request asks of the keyring. -/
def SigningRequest.ask (r : SigningRequest) : Ask Str ℕ where
  name := r.dbName
  key := strip0xPrefix r.blsPkHex
  duty := r.req.duty

/-- The upper-case deposit, which is never allowed. -/
def BLSSignMsg.isUpperDeposit : BLSSignMsg → Bool
  | .DEPOSIT _ => true
  | _ => false

/-- The request is turned away before any file is read. -/
def SigningRequest.Malformed (r : SigningRequest) : Prop :=
  r.req.isUpperDeposit = true ∨
    Str.len (strip0xPrefix r.blsPkHex) ≠ 2 * BLS_PUB_KEY_BYTES

instance (r : SigningRequest) : Decidable r.Malformed :=
  inferInstanceAs (Decidable (_ ∨ _))

/-- The status that stands for a verdict; a panic leaves none. -/
def statusOf : Verdict Failure → Outcome StatusCode
  | .signed => .ok .OK
  | .conflicting => .ok .PRECONDITION_FAILED
  | .failed (.err _) => .ok .INTERNAL_SERVER_ERROR
  | .failed .panic => .error .panic

theorem statusOf_eq_ok {v : Verdict Failure} :
    statusOf v = .ok .OK ↔ v = .signed := by
  rcases v with _ | _ | (e | _) <;> simp [statusOf]

theorem statusOf_ne_err {v : Verdict Failure} {e : Error} :
    statusOf v ≠ .error (.err e) := by
  rcases v with _ | _ | (e | _) <;> simp [statusOf]

theorem statusOf_eq_panic {v : Verdict Failure} :
    statusOf v = .error .panic ↔ v = .failed .panic := by
  rcases v with _ | _ | (e | _) <;> simp [statusOf]

/-- The decision on a request, and the keyring after it. -/
def SigningRequest.decide (r : SigningRequest) (R : Keyring Str ℕ Failure) :
    Outcome StatusCode × Keyring Str ℕ Failure :=
  if r.Malformed then (.ok .BAD_REQUEST, R)
  else (statusOf (R.answer r.ask).1, (R.answer r.ask).2)

theorem SlashingProtectionData.slashableIn_iff {m : BLSSignMsg}
    {db : SlashingProtectionData} :
    m.slashableIn db = false ↔
      ∀ d, m.duty = some d → db.watermark.Accepts d := by
  rcases m.slashable_cases with ⟨slot, hblock, -, -⟩ |
    ⟨src, tgt, hblock, hepochs, -⟩ | ⟨hblock, hepochs, hother⟩
  · rw [BLSSignMsg.slashableIn_block hblock, isSlashableBlockSlot_eq_false,
      BLSSignMsg.duty_of_blockSlot hblock]
    simp
  · rw [BLSSignMsg.slashableIn_attestation hblock hepochs,
      isSlashableAttestationEpochs_eq_false, BLSSignMsg.duty_of_epochs hepochs]
    simp
  · have hnone : m.duty = none := by
      rw [← Option.not_isSome_iff_eq_none, ← BLSSignMsg.canBeSlashed_eq,
        hother]
      simp
    rw [BLSSignMsg.slashableIn_other hblock hepochs, hnone]
    simp

section Served

variable [Blsttc] [SerdeHex]

/-- The watermarks of the databases, and the keys that can be found. -/
def ringOf (D : Disk) : Keyring Str ℕ Failure where
  mark K := (lookupDb D K).map SlashingProtectionData.watermark
  secret K := (lookupSigningKey D K).map fun _ => ()

theorem mark_ringOf_of_savedDb {D : Disk} {name : Str}
    {db : SlashingProtectionData} (hdb : savedDb D name = some db) :
    (ringOf D).mark name = .ok db.watermark := by
  change (lookupDb D name).map _ = _
  rw [lookupDb_eq_ok.mpr hdb]
  rfl

theorem mark_ringOf_eq_ok {D : Disk} {name : Str} {w : Watermark ℕ} :
    (ringOf D).mark name = .ok w ↔
      ∃ db, savedDb D name = some db ∧ db.watermark = w := by
  simp [ringOf, Outcome.map_eq_ok, lookupDb_eq_ok]

theorem mark_ringOf_eq_error {D : Disk} {name : Str} {e : Failure} :
    (ringOf D).mark name = .error e ↔ lookupDb D name = .error e :=
  Outcome.map_eq_err

theorem secret_ringOf_eq_ok {D : Disk} {K : Str} :
    (ringOf D).secret K = .ok () ↔ (signingKeySet D K).isSome := by
  simp [ringOf, Outcome.map_eq_ok, lookupSigningKey_eq_ok,
    Option.isSome_iff_exists]

theorem secret_ringOf_eq_panic {D : Disk} {K : Str} :
    (ringOf D).secret K = .error .panic ↔ Keyless D K :=
  Outcome.map_eq_err.trans lookupSigningKey_eq_panic

omit [SerdeHex] in
theorem lookupSigningKey_set_slashing (D : Disk) (name K : Str)
    (c : Contents) :
    lookupSigningKey (D.set .slashing name c) K = lookupSigningKey D K := by
  simp [lookupSigningKey, lookupKeySet, lookupKey, Disk.set]

omit [SerdeHex] in
theorem signingKeySet_set_slashing (D : Disk) (name K : Str) (c : Contents) :
    signingKeySet (D.set .slashing name c) K = signingKeySet D K := by
  simp [signingKeySet, savedKeySet, Disk.key, Disk.set]

theorem ringOf_set {D : Disk} {name : Str} {db : SlashingProtectionData} :
    ringOf (D.set .slashing name (.json db.toJson)) =
      (ringOf D).record name db.watermark := by
  ext K : 2
  · by_cases hK : K = name
    · subst hK
      rw [mark_ringOf_of_savedDb (savedDb_set_same D K db)]
      simp [Keyring.record]
    · simp [ringOf, Keyring.record, hK, lookupDb, Disk.set]
  · simp [ringOf, Keyring.record, lookupSigningKey_set_slashing]

variable [Hashing] [Eth2TreeHash]

/-! ## One request -/

/-- The response is a signature by the key that the path names, over the
signing root. -/
def SignedFor (D : Disk) (r : SigningRequest) (response : Response) : Prop :=
  ∃ set, signingKeySet D (strip0xPrefix r.blsPkHex) = some set ∧
    response.body = .json (SignatureResponse.new (Blsttc.signatureToBytes
      (blsAggSign set (r.req.toSigningRoot
        (some r.genesisForkVersion)).toList)).toList)

omit [Hashing] [Eth2TreeHash] in
/-- The last part of a request: it signs if it finds the key. -/
theorem exec_signMessage (D : Disk) (K : Str) (root : Root) :
    ∃ out, exec (signMessage K root) ([], D) = (out, ([], D)) ∧
      out.map Response.status = statusOf ((ringOf D).sign K) ∧
      ∀ response, out = .ok response → response.status = .OK →
        ∃ set, signingKeySet D K = some set ∧
          response.body = .json (SignatureResponse.new
            (Blsttc.signatureToBytes
              (blsAggSign set root.toList)).toList) := by
  have hquery := query_blsAggSignFromSavedSk K root.toList
  have hsecret : (ringOf D).secret K =
      (lookupSigningKey D K).map fun _ => () := rfl
  cases hset : lookupSigningKey D K with
  | ok set =>
      rw [hset] at hsecret
      have hsign := Keyring.sign_eq_signed.mpr hsecret
      have hexec := hquery.attempt_returns (congrArg (Except.map _) hset)
      refine ⟨_, exec_bind_of_ok hexec, by rw [hsign]; rfl, ?_⟩
      rintro _ ⟨⟩ -
      exact ⟨set, lookupSigningKey_eq_ok.mp hset, rfl⟩
  | error e =>
      rw [hset] at hsecret
      have hsign := Keyring.sign_eq_failed.mpr hsecret
      cases e with
      | err e =>
          have hexec := hquery.attempt_err (congrArg (Except.map _) hset)
          refine ⟨_, exec_bind_of_ok hexec, by rw [hsign]; rfl, ?_⟩
          rintro _ ⟨⟩ ⟨⟩
      | panic =>
          have hexec := hquery.attempt_panic (congrArg (Except.map _) hset)
          refine ⟨.error .panic, ?_, by rw [hsign]; rfl, ?_⟩
          · rw [signMessage, exec_bind, hexec]
          · rintro _ ⟨⟩

/-- How a request ends without faults: the status and the keyring are those
that are decided, and a signature is one by the named key. -/
structure AnsweredAs (D : Disk) (r : SigningRequest) (out : Outcome Response)
    (D' : Disk) : Prop where
  status : out.map Response.status = (r.decide (ringOf D)).1
  ring : ringOf D' = (r.decide (ringOf D)).2
  signed : ∀ response, out = .ok response → response.status = .OK →
    SignedFor D r response
  wellNamed : WellNamed D'

/-- What is not signed changes nothing. -/
theorem AnsweredAs.of_unchanged {D : Disk} (hD : WellNamed D)
    {r : SigningRequest} {out : Outcome Response}
    (hstatus : out.map Response.status = (r.decide (ringOf D)).1)
    (hring : (r.decide (ringOf D)).2 = ringOf D)
    (hnot : out.map Response.status ≠ .ok .OK) : AnsweredAs D r out D where
  status := hstatus
  ring := hring.symm
  signed := by
    rintro response rfl hok
    exact absurd (congrArg Except.ok hok) hnot
  wellNamed := hD

/-- A request that is turned away. -/
theorem answeredAs_malformed {D : Disk} (hD : WellNamed D)
    {r : SigningRequest} (h : r.Malformed) :
    ∃ out, exec (signValidatorMessage r.blsPkHex r.genesisForkVersion
        r.req) ([], D) = (out, ([], D)) ∧ AnsweredAs D r out D := by
  have hdecide : r.decide (ringOf D) = (.ok .BAD_REQUEST, ringOf D) :=
    if_pos h
  have hanswered : ∀ body, AnsweredAs D r (.ok ⟨.BAD_REQUEST, body⟩) D := by
    intro body
    apply AnsweredAs.of_unchanged hD
    · rw [hdecide]
      rfl
    · rw [hdecide]
    · rintro ⟨⟩
  unfold signValidatorMessage
  split
  · exact ⟨_, exec_pure _ _, hanswered _⟩
  · next m hnot =>
      have hlength : Str.len (strip0xPrefix r.blsPkHex) ≠
          2 * BLS_PUB_KEY_BYTES := by
        rcases h with hupper | hlength
        · cases hm : r.req with
          | DEPOSIT d => exact absurd hm (hnot d)
          | _ => rw [hm] at hupper; cases hupper
        · exact hlength
      have hquery := Query.lift (sanitizeBlsPkHex r.blsPkHex)
      rcases hK : sanitizeBlsPkHex r.blsPkHex with (e | _) | K
      · have hexec := hquery.attempt_err (D := D) hK
        exact ⟨_, exec_bind_of_ok hexec, hanswered _⟩
      · exact absurd hK (sanitizeBlsPkHex_ne_panic _)
      · exact absurd (sanitizeBlsPkHex_eq_ok.mp hK).1 hlength

/-- A request whose database is there, after the guard has let it pass: the
duty is recorded, and then the key is looked for. -/
theorem answeredAs_accepted {D : Disk} (hD : WellNamed D)
    {r : SigningRequest} {db : SlashingProtectionData}
    (hdb : savedDb D r.dbName = some db)
    (hpass : r.req.slashableIn db = false)
    (hdecide : r.decide (ringOf D) =
      (statusOf ((ringOf D).answer r.ask).1, ((ringOf D).answer r.ask).2)) :
    ∃ out D', exec (do
        let signingRoot := r.req.toSigningRoot (some r.genesisForkVersion)
        if r.req.canBeSlashed then
          match ← attempt (updateSlashProtectionDb
              (strip0xPrefix r.blsPkHex) r.req) with
          | .error e =>
              return ⟨.INTERNAL_SERVER_ERROR,
                .format "Signing operation failed: " e⟩
          | .ok () => signMessage (strip0xPrefix r.blsPkHex) signingRoot
        else
          signMessage (strip0xPrefix r.blsPkHex) signingRoot) ([], D) =
        (out, ([], D')) ∧ AnsweredAs D r out D' := by
  have hmark : (ringOf D).mark r.ask.name = .ok db.watermark :=
    mark_ringOf_of_savedDb hdb
  have haccepts := SlashingProtectionData.slashableIn_iff.mp hpass
  cases hduty : r.req.duty with
  | none =>
      have hslash : r.req.canBeSlashed = false := by
        rw [BLSSignMsg.canBeSlashed_eq, hduty]
        rfl
      rw [Keyring.answer_of_no_duty hmark hduty] at hdecide
      obtain ⟨out, hexec, hstatus, hsigned⟩ := exec_signMessage D
        (strip0xPrefix r.blsPkHex)
        (r.req.toSigningRoot (some r.genesisForkVersion))
      rw [hslash]
      exact ⟨out, D, hexec, by rw [hdecide, hstatus]; rfl,
        by rw [hdecide], hsigned, hD⟩
  | some d =>
      have hslash : r.req.canBeSlashed = true := by
        rw [BLSSignMsg.canBeSlashed_eq, hduty]
        rfl
      rw [Keyring.answer_of_accepts hmark hduty (haccepts d hduty)] at hdecide
      obtain ⟨db', hentry, -, -⟩ := exists_newEntry hslash hpass
        (r.req.toSigningRoot none)
      obtain ⟨d', hd', hrec⟩ := records_of_newEntry hentry
      obtain rfl := Option.some.inj (hduty.symm.trans hd')
      have hname : Hex.encode db'.pubkey.toList = r.dbName := by
        rw [hrec.pubkey]
        exact (hD _ db hdb).symm
      have hupdate := exec_attempt_of_ok
        (exec_updateSlashProtectionDb hdb hentry)
      rw [hname] at hupdate
      obtain ⟨out, hexec, hstatus, hsigned⟩ := exec_signMessage
        (D.set .slashing r.dbName (.json db'.toJson))
        (strip0xPrefix r.blsPkHex)
        (r.req.toSigningRoot (some r.genesisForkVersion))
      rw [ringOf_set] at hstatus
      rw [signingKeySet_set_slashing] at hsigned
      have hring : ringOf (D.set .slashing r.dbName (.json db'.toJson)) =
          (ringOf D).record r.dbName (db.watermark.record d) := by
        rw [ringOf_set, hrec.watermark]
      refine ⟨out, D.set .slashing r.dbName (.json db'.toJson), ?_, ?_, ?_,
        hsigned, ?_⟩
      · rw [hslash, if_pos rfl]
        exact (exec_bind_of_ok hupdate).trans hexec
      · rw [hdecide, hstatus]
        rfl
      · rw [hdecide, hring]
        rfl
      · apply hD.set
        intro db'' hdb''
        simp only [SlashingProtectionData.ofContents_toJson,
          Option.some.injEq] at hdb''
        rw [← hdb'', hname]

/-- A request that passes the first checks is answered as the keyring
answers. -/
theorem answeredAs_wellFormed {D : Disk} (hD : WellNamed D)
    {r : SigningRequest} (h : ¬ r.Malformed) :
    ∃ out D', exec (signValidatorMessage r.blsPkHex r.genesisForkVersion
        r.req) ([], D) = (out, ([], D')) ∧ AnsweredAs D r out D' := by
  obtain ⟨hupper, hlength⟩ := not_or.mp h
  rw [not_not] at hlength
  have hdecide : r.decide (ringOf D) =
      (statusOf ((ringOf D).answer r.ask).1, ((ringOf D).answer r.ask).2) :=
    if_neg h
  have hserve : signValidatorMessage r.blsPkHex r.genesisForkVersion r.req =
      signSanitized r.blsPkHex r.genesisForkVersion r.req := by
    cases hm : r.req with
    | DEPOSIT d => rw [hm] at hupper; exact absurd rfl hupper
    | _ => rfl
  have hsanitize : exec (attempt (liftM (sanitizeBlsPkHex r.blsPkHex)))
      ([], D) = (.ok (.ok (strip0xPrefix r.blsPkHex)), ([], D)) := by
    apply exec_attempt_of_ok
    rw [exec_liftM, sanitizeBlsPkHex_eq_ok.mpr ⟨hlength, rfl⟩]
  have hcheck := query_isSlashable (strip0xPrefix r.blsPkHex) r.req
  rw [hserve, signSanitized, exec_bind_of_ok hsanitize]
  simp only []
  cases hdb : lookupDb D r.dbName with
  | error e =>
      have hmark : (ringOf D).mark r.ask.name = .error e :=
        mark_ringOf_eq_error.mpr hdb
      rw [Keyring.answer_of_error hmark] at hdecide
      cases e with
      | err e =>
          have hexec := hcheck.attempt_err (congrArg (Except.map _) hdb)
          refine ⟨_, D, exec_bind_of_ok hexec, ?_⟩
          apply AnsweredAs.of_unchanged hD
          · rw [hdecide]
            rfl
          · rw [hdecide]
          · rintro ⟨⟩
      | panic =>
          have hexec := hcheck.attempt_panic (congrArg (Except.map _) hdb)
          refine ⟨.error .panic, D, by rw [exec_bind, hexec], ?_⟩
          apply AnsweredAs.of_unchanged hD
          · rw [hdecide]
            rfl
          · rw [hdecide]
          · rintro ⟨⟩
  | ok db =>
      have hsaved := lookupDb_eq_ok.mp hdb
      have hmark : (ringOf D).mark r.ask.name = .ok db.watermark :=
        mark_ringOf_of_savedDb hsaved
      have hexec := hcheck.attempt_returns (congrArg (Except.map _) hdb)
      rw [exec_bind_of_ok hexec]
      by_cases hpass : r.req.slashableIn db = false
      · rw [hpass]
        exact answeredAs_accepted hD hsaved hpass hdecide
      · have hrefused : ∃ d, r.req.duty = some d ∧
            ¬ db.watermark.Accepts d := by
          by_contra hnone
          apply hpass
          apply SlashingProtectionData.slashableIn_iff.mpr
          intro d hd
          by_contra hnot
          exact hnone ⟨d, hd, hnot⟩
        obtain ⟨d, hd, hnot⟩ := hrefused
        rw [Keyring.answer_of_not_accepts hmark hd hnot] at hdecide
        rw [Bool.not_eq_false] at hpass
        rw [hpass]
        refine ⟨_, D, exec_pure _ _, ?_⟩
        apply AnsweredAs.of_unchanged hD
        · rw [hdecide]
          rfl
        · rw [hdecide]
        · rintro ⟨⟩

theorem answeredAs {D : Disk} (hD : WellNamed D) (r : SigningRequest) :
    ∃ out D', exec (signValidatorMessage r.blsPkHex r.genesisForkVersion
        r.req) ([], D) = (out, ([], D')) ∧ AnsweredAs D r out D' := by
  by_cases h : r.Malformed
  · obtain ⟨out, hexec, hanswered⟩ := answeredAs_malformed hD h
    exact ⟨out, D, hexec, hanswered⟩
  · exact answeredAs_wellFormed hD h

/-! ## Runs -/

/-- Serve requests one after another, without faults. -/
def serveAll : List SigningRequest → Disk → List (Outcome Response) × Disk
  | [], D => ([], D)
  | r :: rs, D =>
      let out := exec (signValidatorMessage r.blsPkHex r.genesisForkVersion
        r.req) ([], D)
      let rest := serveAll rs out.2.2
      (out.1 :: rest.1, rest.2)

omit [Blsttc] [SerdeHex] [Hashing] [Eth2TreeHash] in
/-- Decide on requests one after another. -/
def decideAll : List SigningRequest → Keyring Str ℕ Failure →
    List (Outcome StatusCode) × Keyring Str ℕ Failure
  | [], R => ([], R)
  | r :: rs, R =>
      let out := r.decide R
      let rest := decideAll rs out.2
      (out.1 :: rest.1, rest.2)

/-- The requests of a run end with the statuses that are decided, and leave the
keyring that is decided. -/
theorem serveAll_refines {D : Disk} (hD : WellNamed D)
    (rs : List SigningRequest) :
    (serveAll rs D).1.map (Except.map Response.status) =
        (decideAll rs (ringOf D)).1 ∧
      ringOf (serveAll rs D).2 = (decideAll rs (ringOf D)).2 ∧
      WellNamed (serveAll rs D).2 := by
  induction rs generalizing D with
  | nil => exact ⟨rfl, rfl, hD⟩
  | cons r rs ih =>
      obtain ⟨out, D', hexec, hanswered⟩ := answeredAs hD r
      obtain ⟨hstatuses, hring, hnamed⟩ := ih hanswered.wellNamed
      rw [serveAll, hexec]
      rw [hanswered.ring] at hstatuses hring
      refine ⟨?_, hring, hnamed⟩
      rw [List.map_cons, hanswered.status, hstatuses]
      rfl

/-- The requests that are not turned away. -/
def wellFormedAsks (rs : List SigningRequest) : List (Ask Str ℕ) :=
  (rs.filter fun r => ¬ r.Malformed).map SigningRequest.ask

omit [Blsttc] [SerdeHex] [Hashing] [Eth2TreeHash] in
theorem decideAll_ring (rs : List SigningRequest)
    (R : Keyring Str ℕ Failure) :
    (decideAll rs R).2 = (R.answers (wellFormedAsks rs)).2 := by
  induction rs generalizing R with
  | nil => rfl
  | cons r rs ih =>
      change (decideAll rs (r.decide R).2).2 = _
      rw [ih]
      by_cases h : r.Malformed
      · simp [SigningRequest.decide, wellFormedAsks, h]
      · simp [SigningRequest.decide, wellFormedAsks, h, Keyring.answers]

/-- The duties that the well-formed requests of a run put on record in a
database, in order. -/
def recordedDuties (D : Disk) (name : Str) (rs : List SigningRequest) :
    List (Duty ℕ) :=
  Keyring.acceptedAll name (ringOf D) (wellFormedAsks rs)

/-- The database of a request is there, and its duty is accepted by it and
comes after all that a run has recorded. -/
def Recordable (D : Disk) (rs : List SigningRequest) (r : SigningRequest) :
    Prop :=
  ∃ db, savedDb D r.dbName = some db ∧ ∀ d, r.req.duty = some d →
    db.watermark.Accepts d ∧
      ∀ e ∈ recordedDuties D r.dbName rs, e.Precedes d

/-- What a request after a run needs to be signed. -/
structure Signable (D : Disk) (rs : List SigningRequest)
    (r : SigningRequest) : Prop where
  wellFormed : ¬ r.Malformed
  key : (signingKeySet D (strip0xPrefix r.blsPkHex)).isSome
  duty : Recordable D rs r

/-- What makes a request after a run panic: the reader of its database does, or
that of its key, which comes after the database has accepted. -/
structure Panicking (D : Disk) (rs : List SigningRequest)
    (r : SigningRequest) : Prop where
  wellFormed : ¬ r.Malformed
  reader : lookupDb D r.dbName = .error .panic ∨
    Keyless D (strip0xPrefix r.blsPkHex) ∧ Recordable D rs r

omit [Hashing] [Eth2TreeHash] in
theorem admits_iff_recordable {D : Disk} {rs : List SigningRequest}
    {r : SigningRequest} :
    (ringOf D).Admits r.ask (wellFormedAsks rs) ↔ Recordable D rs r := by
  constructor
  · rintro ⟨w, hw, hduty⟩
    obtain ⟨db, hdb, rfl⟩ := mark_ringOf_eq_ok.mp hw
    exact ⟨db, hdb, hduty⟩
  · rintro ⟨db, hdb, hduty⟩
    exact ⟨db.watermark, mark_ringOf_of_savedDb hdb, hduty⟩

omit [Hashing] [Eth2TreeHash] in
theorem decide_of_wellFormed {D : Disk} (rs : List SigningRequest)
    {r : SigningRequest} (h : ¬ r.Malformed) :
    (r.decide (decideAll rs (ringOf D)).2).1 =
      statusOf
        (((ringOf D).answers (wellFormedAsks rs)).2.answer r.ask).1 := by
  rw [SigningRequest.decide, if_neg h, decideAll_ring]

omit [Hashing] [Eth2TreeHash] in
theorem decide_of_malformed {D : Disk} (rs : List SigningRequest)
    {r : SigningRequest} (h : r.Malformed) :
    (r.decide (decideAll rs (ringOf D)).2).1 = .ok .BAD_REQUEST := by
  rw [SigningRequest.decide, if_pos h]

omit [Hashing] [Eth2TreeHash] in
theorem decide_ok_iff {D : Disk} (rs : List SigningRequest)
    (r : SigningRequest) :
    (r.decide (decideAll rs (ringOf D)).2).1 = .ok .OK ↔
      Signable D rs r := by
  by_cases h : r.Malformed
  · rw [decide_of_malformed rs h]
    constructor
    · rintro ⟨⟩
    · exact fun hs => absurd h hs.wellFormed
  · rw [decide_of_wellFormed rs h, statusOf_eq_ok,
      Keyring.answer_answers_signed_iff, admits_iff_recordable]
    constructor
    · rintro ⟨hkey, hduty⟩
      exact ⟨h, secret_ringOf_eq_ok.mp hkey, hduty⟩
    · rintro ⟨-, hkey, hduty⟩
      exact ⟨secret_ringOf_eq_ok.mpr hkey, hduty⟩

omit [Hashing] [Eth2TreeHash] in
theorem decide_panic_iff {D : Disk} (rs : List SigningRequest)
    (r : SigningRequest) :
    (r.decide (decideAll rs (ringOf D)).2).1 = .error .panic ↔
      Panicking D rs r := by
  by_cases h : r.Malformed
  · rw [decide_of_malformed rs h]
    constructor
    · rintro ⟨⟩
    · exact fun hp => absurd h hp.wellFormed
  · rw [decide_of_wellFormed rs h, statusOf_eq_panic,
      Keyring.answer_answers_failed_iff, admits_iff_recordable]
    constructor
    · rintro (hdb | ⟨hkey, hduty⟩)
      · exact ⟨h, .inl (mark_ringOf_eq_error.mp hdb)⟩
      · exact ⟨h, .inr ⟨secret_ringOf_eq_panic.mp hkey, hduty⟩⟩
    · rintro ⟨-, hdb | ⟨hkey, hduty⟩⟩
      · exact .inl (mark_ringOf_eq_error.mpr hdb)
      · exact .inr ⟨secret_ringOf_eq_panic.mpr hkey, hduty⟩

namespace AnsweredAs

variable {D D' : Disk} {r : SigningRequest}

/-- A request is answered unless it panics. -/
theorem exists_response {out : Outcome Response} (h : AnsweredAs D r out D')
    (hnot : ¬ Panicking D [] r) : ∃ response, out = .ok response := by
  have hstatus := h.status
  rcases out with (e | _) | response
  · by_cases hmalformed : r.Malformed
    · rw [SigningRequest.decide, if_pos hmalformed] at hstatus
      cases hstatus
    · rw [SigningRequest.decide, if_neg hmalformed] at hstatus
      exact absurd hstatus.symm statusOf_ne_err
  · exact absurd ((decide_panic_iff [] r).mp hstatus.symm) hnot
  · exact ⟨response, rfl⟩

theorem ok_iff {response : Response} (h : AnsweredAs D r (.ok response) D') :
    response.status = .OK ↔ Signable D [] r := by
  rw [← decide_ok_iff [] r]
  exact ⟨fun hok => h.status.symm.trans (congrArg Except.ok hok),
    fun hok => Except.ok.inj (h.status.trans hok)⟩

end AnsweredAs

/-- How a request ends after a run without faults from a well-named store. -/
structure AnsweredExactly (D : Disk) (rs : List SigningRequest)
    (r : SigningRequest) (out : Outcome Response) : Prop where
  status : out.map Response.status = (r.decide (decideAll rs (ringOf D)).2).1
  ok_iff : (∃ response, out = .ok response ∧ response.status = .OK) ↔
    Signable D rs r
  panic_iff : out = .error .panic ↔ Panicking D rs r
  signed : ∀ response, out = .ok response → response.status = .OK →
    SignedFor (serveAll rs D).2 r response

/-- Without faults and from a well-named store the endpoint refines the keyring
over every run: all requests end with the decided statuses, and a request after
the run is signed exactly when it is signable, by the key that it names and over
its signing root, and panics exactly when one of its readers does. -/
theorem endpoint_refines_keyring {D : Disk} (hD : WellNamed D)
    (rs : List SigningRequest) :
    (serveAll rs D).1.map (Except.map Response.status) =
        (decideAll rs (ringOf D)).1 ∧
      ∀ r, AnsweredExactly D rs r
        (exec (signValidatorMessage r.blsPkHex r.genesisForkVersion r.req)
          ([], (serveAll rs D).2)).1 := by
  obtain ⟨hstatuses, hring, hnamed⟩ := serveAll_refines hD rs
  refine ⟨hstatuses, fun r => ?_⟩
  obtain ⟨out, D', hexec, hanswered⟩ := answeredAs hnamed r
  have hstatus := hanswered.status
  rw [hring] at hstatus
  rw [hexec]
  refine ⟨hstatus, ?_, ?_, hanswered.signed⟩
  · rw [← decide_ok_iff rs r, ← hstatus, Outcome.map_eq_ok]
  · rw [← decide_panic_iff rs r, ← hstatus, Outcome.map_eq_err]

end Served

section SampleDecision

open Exponent

/-- Two blocks of which the second repeats the slot of the first. -/
def sampleRun : List SigningRequest :=
  [⟨keyName 3, GENESIS_FORK_VERSION, blockAt 8⟩,
    ⟨keyName 3, GENESIS_FORK_VERSION, blockAt 8⟩]

theorem endpoint_refines_keyring_sampleRun :
    (decideAll sampleRun (ringOf importedStore)).1 =
        [.ok .OK, .ok .PRECONDITION_FAILED] ∧
      (serveAll sampleRun importedStore).1.map (Except.map Response.status) =
        (decideAll sampleRun (ringOf importedStore)).1 ∧
      ∀ r, AnsweredExactly importedStore sampleRun r
        (exec (signValidatorMessage r.blsPkHex r.genesisForkVersion r.req)
          ([], (serveAll sampleRun importedStore).2)).1 :=
  ⟨by decide +kernel,
    endpoint_refines_keyring wellNamed_importedStore sampleRun⟩

end SampleDecision

end ValidatorGuardian
