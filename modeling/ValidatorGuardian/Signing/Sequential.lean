import ValidatorGuardian.Crates.Exponent
import ValidatorGuardian.Enclave.SecureSigner
import ValidatorGuardian.Enclave.Validator
import ValidatorGuardian.Signing.Session

/-!
# Requests handled one at a time

A run is a list of signing requests and key generations, each handled to its
end, with arbitrary faults.  For every key the run is a run of the abstract
signer: its watermark is the one of the database on disk, the duties it was
told of are those in the database at the start, and the duties it has signed
are those of the released signatures, in order.
-/

namespace ValidatorGuardian

open Effect Slashing

/-! ## Runs -/

section Names

variable [SerdeHex]

theorem savedDb_eq_none {D : Disk} {K : Str} (h : D .slashing K = none) :
    savedDb D K = none := by
  rw [savedDb, h]
  rfl

theorem savedDb_congr {D D' : Disk} (h : D' .slashing = D .slashing)
    (K : Str) : savedDb D' K = savedDb D K := by
  rw [savedDb, savedDb, h]

/-- Every slashing database is named by the hex of its own key. -/
def WellNamed (D : Disk) : Prop :=
  ∀ name db, savedDb D name = some db → name = Hex.encode db.pubkey.toList

theorem WellNamed.congr {D D' : Disk} (hD : WellNamed D)
    (h : D' .slashing = D .slashing) : WellNamed D' :=
  fun K db hdb => hD K db (by rwa [savedDb_congr h] at hdb)

/-- A file keeps the names right when it holds a database of its own name, or
none. -/
theorem WellNamed.set {D : Disk} (hD : WellNamed D) {name : Str}
    {c : Contents}
    (hname : ∀ db, SlashingProtectionData.ofContents c = some db →
      name = Hex.encode db.pubkey.toList) :
    WellNamed (D.set .slashing name c) := by
  intro K db hdb
  by_cases hK : K = name
  · subst hK
    apply hname
    simpa [savedDb] using hdb
  · rw [savedDb_set_of_ne hK] at hdb
    exact hD K db hdb

end Names

/-- A signature that was handed out: the key string of the request, the
message, and the signature itself. -/
structure Release where
  key : Str
  msg : BLSSignMsg
  signature : SignatureResponse

/-- A request to sign or to generate a key, with the faults that happen while
it is handled and the randomness it consumes. -/
inductive Event [Blsttc] [Secp256k1] where
  | signValidatorMessage (faults : List Fault) (blsPkHex : Str)
      (genesisForkVersion : Version) (req : BLSSignMsg)
  | attestNewBlsKey (faults : List Fault) (random : Blsttc.SecretKeySet)
      (agent : CvmAgent)
  | attestFreshBlsKey (faults : List Fault) (random : Blsttc.SecretKeySet)
      (seeds : ℕ → Secp256k1.Seed) (agent : CvmAgent)
      (withdrawalCredentials : Bytes 32)
      (guardianPublicKeys : List EthPublicKey) (threshold : UInt64)
      (forkVersion : Version) (doRemoteAttestation : Bool)

/-- What a response releases. -/
def releaseOf (blsPkHex : Str) (req : BLSSignMsg) :
    Outcome Response → List Release
  | .ok ⟨.OK, .json signature⟩ => [⟨strip0xPrefix blsPkHex, req, signature⟩]
  | _ => []

section Runs

variable [Blsttc] [Secp256k1] [SerdeHex] [Hashing] [Eth2TreeHash]

/-- Handle one event: the files and the releases so far. -/
def Event.handle (s : Disk × List Release) : Event → Disk × List Release
  | .signValidatorMessage faults path v req =>
      let r := exec (ValidatorGuardian.signValidatorMessage path v req)
        (faults, s.1)
      (r.2.2, s.2 ++ releaseOf path req r.1)
  | .attestNewBlsKey faults random agent =>
      ((exec (ValidatorGuardian.attestNewBlsKey random agent)
        (faults, s.1)).2.2, s.2)
  | .attestFreshBlsKey faults random seeds agent wc guardians t fv attest =>
      ((exec (ValidatorGuardian.attestFreshBlsKey random seeds agent wc
        guardians t fv attest) (faults, s.1)).2.2, s.2)

def runEvents (s : Disk × List Release) (events : List Event) :
    Disk × List Release :=
  events.foldl Event.handle s

/-- A generated key has not been seen before: no file is named after it. -/
def Event.Fresh (D : Disk) : Event → Prop
  | .signValidatorMessage .. => True
  | .attestNewBlsKey _ random _
  | .attestFreshBlsKey _ random _ _ _ _ _ _ _ =>
      D .slashing (Blsttc.publicKeyToHex
        (Blsttc.publicKey (Blsttc.publicKeys random))) = none

/-- Every key generation of a run generates a key not seen before. -/
def AllFresh (s : Disk × List Release) : List Event → Prop
  | [] => True
  | e :: es => e.Fresh s.1 ∧ AllFresh (e.handle s) es

end Runs

/-! ## The signer of a key -/

/-- The duties released for a key, in order. -/
def signedDuties (K : Str) (log : List Release) : List (Duty ℕ) :=
  log.filterMap fun r => if r.key = K then r.msg.duty else none

/-- The slots of the blocks released for a key, in order. -/
def releasedSlots (K : Str) (log : List Release) : List Slot :=
  log.filterMap fun r => if r.key = K then r.msg.blockSlot else none

/-- The source and target epochs of the attestations released for a key, in
order. -/
def releasedEpochs (K : Str) (log : List Release) : List (Epoch × Epoch) :=
  log.filterMap fun r => if r.key = K then r.msg.epochs else none

theorem mem_signedDuties_of_slot {K : Str} {log : List Release} {slot : Slot}
    (h : slot ∈ releasedSlots K log) :
    .block slot.toNat ∈ signedDuties K log := by
  obtain ⟨r, hr, hslot⟩ := List.mem_filterMap.mp h
  refine List.mem_filterMap.mpr ⟨r, hr, ?_⟩
  split at hslot
  · next hkey => rw [if_pos hkey, BLSSignMsg.duty_of_blockSlot hslot]
  · cases hslot

theorem mem_signedDuties_of_epochs {K : Str} {log : List Release}
    {e : Epoch × Epoch} (h : e ∈ releasedEpochs K log) :
    .vote e.1.toNat e.2.toNat ∈ signedDuties K log := by
  obtain ⟨r, hr, hepochs⟩ := List.mem_filterMap.mp h
  refine List.mem_filterMap.mpr ⟨r, hr, ?_⟩
  split at hepochs
  · next hkey => rw [if_pos hkey, BLSSignMsg.duty_of_epochs hepochs]
  · cases hepochs

theorem releasedSlots_increasing {K : Str} {log : List Release}
    (h : (signedDuties K log).Pairwise Duty.Precedes) :
    (releasedSlots K log).Pairwise (· < ·) := by
  refine List.pairwise_filterMap.mpr ((List.pairwise_filterMap.mp h).imp ?_)
  intro r r' hr s hs s' hs'
  split at hs
  · next hkey =>
      split at hs'
      · next hkey' =>
          apply UInt64.lt_iff_toNat_lt.mpr
          refine hr (.block s.toNat) ?_ (.block s'.toNat) ?_
          · rw [if_pos hkey, BLSSignMsg.duty_of_blockSlot hs]
          · rw [if_pos hkey', BLSSignMsg.duty_of_blockSlot hs']
      · cases hs'
  · cases hs

theorem releasedEpochs_increasing {K : Str} {log : List Release}
    (h : (signedDuties K log).Pairwise Duty.Precedes) :
    (releasedEpochs K log).Pairwise fun a b => a.1 ≤ b.1 ∧ a.2 < b.2 := by
  refine List.pairwise_filterMap.mpr ((List.pairwise_filterMap.mp h).imp ?_)
  intro r r' hr e he e' he'
  split at he
  · next hkey =>
      split at he'
      · next hkey' =>
          have hprecedes := hr (.vote e.1.toNat e.2.toNat)
            (by rw [if_pos hkey, BLSSignMsg.duty_of_epochs he])
            (.vote e'.1.toNat e'.2.toNat)
            (by rw [if_pos hkey', BLSSignMsg.duty_of_epochs he'])
          exact ⟨UInt64.le_iff_toNat_le.mpr hprecedes.1,
            UInt64.lt_iff_toNat_lt.mpr hprecedes.2⟩
      · cases he'
  · cases he

section Signers

variable [SerdeHex]

/-- The abstract signer of key `K`, when the run started with `D₀`. -/
def signerOf (D₀ : Disk) (s : Disk × List Release) (K : Str) : Signer ℕ where
  mark := (savedDb s.1 K).map SlashingProtectionData.watermark
  imported := ((savedDb D₀ K).map SlashingProtectionData.duties).getD []
  signed := signedDuties K s.2

/-- The invariant of a run: names are right, the signer of every key is safe,
and a key without a file has no history. -/
structure SafeStore (D₀ : Disk) (s : Disk × List Release) : Prop where
  wellNamed : WellNamed s.1
  safe : ∀ K, (signerOf D₀ s K).Safe
  unused : ∀ K, s.1 .slashing K = none →
    savedDb D₀ K = none ∧ signedDuties K s.2 = []

theorem safeStore_start {D₀ : Disk} (hD₀ : WellNamed D₀) :
    SafeStore D₀ (D₀, []) where
  wellNamed := hD₀
  safe K := by
    refine ⟨?_, ?_, ?_, List.Pairwise.nil⟩
    · intro w hw d hd
      cases hdb : savedDb D₀ K with
      | none => simp [signerOf, hdb] at hw
      | some db =>
          simp only [signerOf, hdb, Option.map_some, Option.some.injEq,
            Option.getD_some] at hw hd
          subst hw
          exact SlashingProtectionData.watermark_covers_duties hd
    · intro w hw d hd
      cases hd
    · intro d hd e he
      cases he
  unused K hK := ⟨savedDb_eq_none hK, rfl⟩

namespace SafeStore

variable {D₀ D D' : Disk} {log log' : List Release} {name : Str}

/-- Only the slashing files and the duties released matter. -/
theorem congr (hs : SafeStore D₀ (D, log)) (hD : D' .slashing = D .slashing)
    (hlog : ∀ K, signedDuties K log' = signedDuties K log) :
    SafeStore D₀ (D', log') where
  wellNamed := hs.wellNamed.congr hD
  safe K := by
    have hsigner : signerOf D₀ (D', log') K = signerOf D₀ (D, log) K := by
      simp only [signerOf, savedDb_congr hD, hlog]
    rw [hsigner]
    exact hs.safe K
  unused K hK := by
    change D' .slashing K = none at hK
    rw [hlog]
    exact hs.unused K (by rwa [hD] at hK)

/-- Replacing one slashing file concerns the signer of one key. -/
theorem setFile (hs : SafeStore D₀ (D, log)) {c : Contents}
    (hname : ∀ db, SlashingProtectionData.ofContents c = some db →
      name = Hex.encode db.pubkey.toList)
    (hlog : ∀ K, K ≠ name → signedDuties K log' = signedDuties K log)
    (hsafe : (signerOf D₀ (D.set .slashing name c, log') name).Safe) :
    SafeStore D₀ (D.set .slashing name c, log') where
  wellNamed := hs.wellNamed.set hname
  safe K := by
    by_cases hK : K = name
    · subst hK
      exact hsafe
    · have hsigner : signerOf D₀ (D.set .slashing name c, log') K =
          signerOf D₀ (D, log) K := by
        simp only [signerOf, savedDb_set_of_ne hK, hlog K hK]
      rw [hsigner]
      exact hs.safe K
  unused K hK := by
    have hne : K ≠ name := by
      rintro rfl
      simp at hK
    change D.set .slashing name c .slashing K = none at hK
    rw [hlog K hne]
    rw [Disk.set_of_ne (by simp [hne])] at hK
    exact hs.unused K hK

/-- A file that holds nothing readable leaves its signer without a mark. -/
theorem setGarbage (hs : SafeStore D₀ (D, log)) :
    SafeStore D₀ (D.set .slashing name .garbage, log) := by
  refine hs.setFile (fun db hdb => by cases hdb) (fun _ _ => rfl) ?_
  have hlose := (hs.safe name).lose
  simpa [Signer.lose, signerOf] using hlose

/-- A new database for a key without a file. -/
theorem setNew (hs : SafeStore D₀ (D, log)) {pk : BLSPubkey}
    (hfresh : D .slashing (Hex.encode pk.toList) = none) :
    SafeStore D₀ (D.set .slashing (Hex.encode pk.toList)
      (.json (SlashingProtectionData.new pk).toJson), log) := by
  obtain ⟨himported, hsigned⟩ := hs.unused _ hfresh
  refine hs.setFile ?_ (fun _ _ => rfl) ?_
  · intro db hdb
    rw [SlashingProtectionData.ofContents_toJson,
      Option.some.injEq] at hdb
    subst hdb
    rfl
  · have hstart := Signer.Safe.start
      (S := signerOf D₀ (D, log) (Hex.encode pk.toList))
      (by simp [signerOf, himported]) hsigned ⟨0, 0, 0⟩
    simpa [Signer.setMark, signerOf, SlashingProtectionData.watermark_new]
      using hstart

variable {d : Duty ℕ} {db db' : SlashingProtectionData}

/-- A recorded duty raises the mark of its signer. -/
theorem setRecorded (hs : SafeStore D₀ (D, log))
    (hdb : savedDb D name = some db) (hrec : Records d db db') :
    SafeStore D₀ (D.set .slashing name (.json db'.toJson), log) := by
  refine hs.setFile ?_ (fun _ _ => rfl) ?_
  · intro db'' h
    rw [SlashingProtectionData.ofContents_toJson, Option.some.injEq] at h
    rw [← h, hrec.pubkey]
    exact hs.wellNamed name db hdb
  · have hraise := (hs.safe name).raise (u := db.watermark)
      (by simp [signerOf, hdb]) hrec.below
    simpa [Signer.setMark, signerOf] using hraise

/-- A recorded duty that is then signed. -/
theorem setSigned (hs : SafeStore D₀ (D, log))
    (hdb : savedDb D name = some db) (hrec : Records d db db')
    {r : Release} (hkey : r.key = name) (hduty : r.msg.duty = some d) :
    SafeStore D₀
      (D.set .slashing name (.json db'.toJson), log ++ [r]) := by
  have hsame : signedDuties name (log ++ [r]) =
      signedDuties name log ++ [d] := by
    simp [signedDuties, hkey, hduty]
  have hother : ∀ K, K ≠ name →
      signedDuties K (log ++ [r]) = signedDuties K log := by
    intro K hK
    have hne : r.key ≠ K := by
      rw [hkey]
      exact hK.symm
    simp [signedDuties, hne]
  refine hs.setFile ?_ hother ?_
  · intro db'' h
    rw [SlashingProtectionData.ofContents_toJson, Option.some.injEq] at h
    rw [← h, hrec.pubkey]
    exact hs.wellNamed name db hdb
  · have hsign := (hs.safe name).sign (u := db.watermark)
      (by simp [signerOf, hdb]) hrec.accepts hrec.below hrec.covers
    simpa [Signer.sign, signerOf, hsame] using hsign

end SafeStore

/-! ## A signing request -/

/-- What a session knows of the files when nobody else works on them: before
the write they are as they were, and the database read is the one there is. -/
def SessionFiles (D₀ : Disk) (name : Str) (duty : Option (Duty ℕ)) :
    Session → Disk → Prop
  | .reading seen, D =>
      D = D₀ ∧ ∀ db, seen = some db → savedDb D₀ name = some db
  | .wrote true, D =>
      ∃ d db db', duty = some d ∧ savedDb D₀ name = some db ∧
        Records d db db' ∧
        D = D₀.set .slashing (Hex.encode db.pubkey.toList) (.json db'.toJson)
  | .wrote false, D =>
      D = D₀ ∨ ∃ db, savedDb D₀ name = some db ∧
        D = D₀.set .slashing (Hex.encode db.pubkey.toList) .garbage

theorem sessionFiles_step {D₀ D : Disk} {name : Str}
    {duty : Option (Duty ℕ)} {l : Session} {op : FsOp} (f : Fault)
    (hmay : (signingProtocol name duty).may l op)
    (hl : SessionFiles D₀ name duty l D) :
    SessionFiles D₀ name duty
      ((signingProtocol name duty).next l op (fsHandler f D op).1)
      (fsHandler f D op).2 := by
  cases op with
  | createDir dir => cases f <;> cases l <;> exact hl
  | read dir n =>
      have hdisk : (fsHandler f D (.read dir n)).2 = D := by cases f <;> rfl
      rw [hdisk]
      cases dir with
      | blsKeys => cases l <;> exact hl
      | ethKeys => cases l <;> exact hl
      | slashing =>
          cases l with
          | wrote ok => exact absurd hmay id
          | reading seen =>
              obtain ⟨rfl, -⟩ := hl
              obtain rfl : n = name := hmay
              refine ⟨rfl, fun db hdb => ?_⟩
              cases f with
              | none => exact hdb
              | fails => cases hdb
              | torn n => cases hdb
  | write dir n c =>
      cases l with
      | wrote ok => exact absurd hmay id
      | reading seen =>
          obtain ⟨rfl, hseen⟩ := hl
          obtain ⟨d, db, db', hduty, rfl, hrec, rfl, rfl, rfl⟩ := hmay
          cases f with
          | none => exact ⟨d, db, db', hduty, hseen db rfl, hrec, rfl⟩
          | fails => exact .inl rfl
          | torn n => exact .inr ⟨db, hseen db rfl, rfl⟩

section Requests

variable [Blsttc] [Hashing] [Eth2TreeHash]

/-- A request handled alone ends in a session that matches the files, and a
signature is an answer of that session. -/
theorem exec_signValidatorMessage (faults : List Fault) (D : Disk)
    (path : Str) (v : Version) (req : BLSSignMsg) :
    ∃ l, SessionFiles D (slashingName path) req.duty l
        (exec (signValidatorMessage path v req) (faults, D)).2.2 ∧
      ∀ response,
        (exec (signValidatorMessage path v req) (faults, D)).1 =
          .ok response →
        response.status = .OK → Released path v req l response := by
  exact Program.Conforms.run conforms_signValidatorMessage
    (fun l s op f hmay hl => sessionFiles_step f hmay hl)
    ⟨rfl, by simp⟩

theorem signsRoot_of_released {D : Disk} {v : Version} {path : Str}
    {req : BLSSignMsg} {faults : List Fault} {response : Response}
    (h : (exec (signValidatorMessage path v req) (faults, D)).1 =
      .ok response) (hstatus : response.status = .OK) :
    SignsRoot response (req.toSigningRoot (some v)) := by
  obtain ⟨l, -, hreleased⟩ := exec_signValidatorMessage faults D path v req
  exact (hreleased response h hstatus).signsRoot

omit [SerdeHex] in
/-- A release is under the key string, which is also the name of the file. -/
theorem releaseOf_cases (hhex : Blsttc.HexOfBytes) {path : Str} {v : Version}
    {req : BLSSignMsg} {l : Session} {result : Outcome Response}
    (hreleased : ∀ response, result = .ok response →
      response.status = .OK → Released path v req l response) :
    releaseOf path req result = [] ∨
      ∃ rel, releaseOf path req result = [rel] ∧ rel.msg = req ∧
        rel.key = slashingName path ∧ (req.duty.isSome → l = .wrote true) := by
  unfold releaseOf
  split
  · next signature =>
      have hrel := hreleased _ rfl rfl
      obtain ⟨set, hkey, -⟩ := hrel.signed
      rw [hhex] at hkey
      refine .inr ⟨_, rfl, rfl, ?_, hrel.recorded⟩
      rw [slashingName, hkey, strip0xPrefix_encode]
  · exact .inl rfl

/-- Handling a signing request keeps the invariant. -/
theorem SafeStore.signValidatorMessage (hhex : Blsttc.HexOfBytes)
    {D₀ D : Disk} {log : List Release} (hs : SafeStore D₀ (D, log))
    (faults : List Fault) (path : Str) (v : Version) (req : BLSSignMsg) :
    SafeStore D₀
      ((exec (ValidatorGuardian.signValidatorMessage path v req)
          (faults, D)).2.2,
        log ++ releaseOf path req
          (exec (ValidatorGuardian.signValidatorMessage path v req)
            (faults, D)).1) := by
  obtain ⟨l, hfiles, hreleased⟩ :=
    exec_signValidatorMessage faults D path v req
  generalize exec (ValidatorGuardian.signValidatorMessage path v req)
    (faults, D) = r at hfiles hreleased ⊢
  obtain ⟨result, faults', D'⟩ := r
  simp only at hfiles hreleased ⊢
  have hcases := releaseOf_cases hhex hreleased
  have hsilent : l ≠ .wrote true → ∀ K,
      signedDuties K (log ++ releaseOf path req result) =
        signedDuties K log := by
    intro hl K
    rcases hcases with hnone | ⟨rel, hrel, hmsg, -, hduty⟩
    · rw [hnone, List.append_nil]
    · have hnoduty : rel.msg.duty = none := by
        rw [hmsg, ← Option.not_isSome_iff_eq_none]
        exact fun h => hl (hduty h)
      simp [hrel, signedDuties, hnoduty]
  cases l with
  | reading seen =>
      obtain ⟨rfl, -⟩ := hfiles
      exact hs.congr rfl (hsilent (by simp))
  | wrote ok =>
      cases ok with
      | false =>
          rcases hfiles with rfl | ⟨db, hdb, rfl⟩
          · exact hs.congr rfl (hsilent (by simp))
          · exact hs.setGarbage.congr rfl (hsilent (by simp))
      | true =>
          obtain ⟨d, db, db', hduty, hdb, hrec, rfl⟩ := hfiles
          rw [← hs.wellNamed _ db hdb]
          rcases hcases with hnone | ⟨rel, hrel, hmsg, hkey, -⟩
          · rw [hnone, List.append_nil]
            exact hs.setRecorded hdb hrec
          · rw [hrel]
            exact hs.setSigned hdb hrec hkey (by rw [hmsg, hduty])

end Requests

end Signers

/-! ## Key generation -/

/-- The slashing files are those of `D₀`, or the file of `pk` holds a new
database or nothing readable. -/
def NewDb (D₀ : Disk) (pk : BLSPubkey) (D : Disk) : Prop :=
  D .slashing = D₀ .slashing ∨
    ∃ c, (c = .json (SlashingProtectionData.new pk).toJson ∨ c = .garbage) ∧
      D .slashing = D₀.set .slashing (Hex.encode pk.toList) c .slashing

theorem SafeStore.newDb [SerdeHex] {D₀ D D' : Disk} {log : List Release}
    {pk : BLSPubkey} (hs : SafeStore D₀ (D, log))
    (hfresh : D .slashing (Hex.encode pk.toList) = none)
    (hD' : NewDb D pk D') : SafeStore D₀ (D', log) := by
  rcases hD' with hsame | ⟨c, rfl | rfl, hset⟩
  · exact hs.congr hsame fun _ => rfl
  · exact (hs.setNew hfresh).congr hset fun _ => rfl
  · exact hs.setGarbage.congr hset fun _ => rfl

section KeyGeneration

variable [Blsttc] {D₀ : Disk} {random : Blsttc.SecretKeySet}

/-- The key of a key set, as it stands in a database. -/
def keyBytes (set : Blsttc.SecretKeySet) : BLSPubkey :=
  Blsttc.publicKeyToBytes (Blsttc.publicKey (Blsttc.publicKeys set))

theorem triple_saveKey :
    Triple (fun _ => True) (fun D => D .slashing = D₀ .slashing)
      (saveBlsKey random) fun _ D => D .slashing = D₀ .slashing := by
  refine Triple.saveBlsKey trivial ?_
  intro D name c hD
  rw [← hD]
  funext n
  exact Disk.set_of_ne (by simp)

/-- Both key generations save the key, write a new database, and then leave
the files alone. -/
theorem triple_saveAndWrite {α : Type} (hhex : Blsttc.HexOfBytes)
    {save : Enclave Unit} {rest : Enclave α}
    (hsave : Triple (fun _ => True) (fun D => D .slashing = D₀ .slashing)
      save fun _ D => D .slashing = D₀ .slashing)
    (hrest : ∀ P, Triple (fun _ => True) P rest fun _ D => P D) :
    Triple (fun _ => True) (fun D => D .slashing = D₀ .slashing)
      (do
        save
        let db ← liftM (SlashingProtectionData.fromPkHex
          (Blsttc.publicKeyToHex
            (Blsttc.publicKey (Blsttc.publicKeys random))))
        db.write
        rest)
      fun _ D => NewDb D₀ (keyBytes random) D := by
  refine Triple.bind hsave ?_ (fun _ D hD => .inl hD)
  intro _
  rw [SlashingProtectionData.fromPkHex_publicKeyToHex hhex]
  refine Triple.bindLift ?_ (fun _ D _ hD => .inl hD)
  rintro db ⟨⟩
  refine Triple.bind (Q := fun _ D => NewDb D₀ (keyBytes random) D)
    (Triple.writeFileIn trivial ?_ (fun _ D hD => .inl hD) ?_)
    (fun _ => hrest _) (fun _ _ hD => hD)
  · intro D hD
    refine .inr ⟨_, .inl rfl, ?_⟩
    funext n
    simp only [Disk.set, hD]
    rfl
  · intro _ _ _ D hD
    refine .inr ⟨_, .inr rfl, ?_⟩
    funext n
    simp only [Disk.set, hD]
    rfl

theorem triple_attestNewBlsKey (hhex : Blsttc.HexOfBytes)
    (agent : CvmAgent) :
    Triple (fun _ => True) (fun D => D .slashing = D₀ .slashing)
      (attestNewBlsKey random agent)
      fun _ D => NewDb D₀ (keyBytes random) D := by
  refine Triple.bindLift ?_ (fun _ D _ hD => .inl hD)
  intro set hset
  obtain ⟨rfl, -⟩ := newBlsKey_eq_ok.mp hset
  refine Triple.bindLift ?_ (fun _ D _ hD => .inl hD)
  intro pk hpk
  obtain ⟨-, rfl⟩ := Blsttc.publicKeyOf_eq_ok.mp hpk
  refine triple_saveAndWrite hhex
    (Triple.withContext triple_saveKey fun _ _ hD => hD) ?_
  intro P
  exact Triple.bindLift (fun _ _ => Triple.pure fun _ hD => hD)
    (fun _ _ _ hD => hD)

theorem triple_attestFreshBlsKey [Secp256k1] [Hashing] [Eth2TreeHash]
    (hhex : Blsttc.HexOfBytes) (seeds : ℕ → Secp256k1.Seed)
    (agent : CvmAgent) (wc : Bytes 32) (guardians : List EthPublicKey)
    (threshold : UInt64) (forkVersion : Version) (attest : Bool) :
    Triple (fun _ => True) (fun D => D .slashing = D₀ .slashing)
      (attestFreshBlsKey random seeds agent wc guardians threshold
        forkVersion attest)
      fun _ D => NewDb D₀ (keyBytes random) D := by
  refine Triple.bindLift ?_ (fun _ D _ hD => .inl hD)
  intro t _
  refine Triple.bindLift ?_ (fun _ D _ hD => .inl hD)
  intro set hset
  obtain ⟨rfl, -⟩ := newBlsKey_eq_ok.mp hset
  refine Triple.bindLift ?_ (fun _ D _ hD => .inl hD)
  intro recipientKeys _
  refine Triple.bindLift ?_ (fun _ D _ hD => .inl hD)
  intro pk hpk
  obtain ⟨-, rfl⟩ := Blsttc.publicKeyOf_eq_ok.mp hpk
  refine triple_saveAndWrite hhex triple_saveKey ?_
  intro P
  refine Triple.bindLift ?_ (fun _ _ _ hD => hD)
  rintro ⟨signature, depositDataRoot⟩ _
  refine Triple.bindLift ?_ (fun _ _ _ hD => hD)
  intro payload _
  cases attest with
  | true =>
      exact Triple.bindLift (fun _ _ => Triple.pure fun _ hD => hD)
        (fun _ _ _ hD => hD)
  | false => exact Triple.pure fun _ hD => hD

end KeyGeneration

/-! ## Runs keep the invariant -/

section Safety

variable [Blsttc] [Secp256k1] [SerdeHex] [Hashing] [Eth2TreeHash]
  {D₀ : Disk}

/-- One event keeps the invariant. -/
theorem SafeStore.handle (hhex : Blsttc.HexOfBytes)
    {s : Disk × List Release} (hs : SafeStore D₀ s) {e : Event}
    (hfresh : e.Fresh s.1) : SafeStore D₀ (e.handle s) := by
  obtain ⟨D, log⟩ := s
  have hkey : ∀ random : Blsttc.SecretKeySet,
      D .slashing (Blsttc.publicKeyToHex
        (Blsttc.publicKey (Blsttc.publicKeys random))) = none →
      D .slashing (Hex.encode (keyBytes random).toList) = none := by
    intro random h
    rwa [hhex] at h
  cases e with
  | signValidatorMessage faults path v req =>
      exact hs.signValidatorMessage hhex faults path v req
  | attestNewBlsKey faults random agent =>
      have hnew : NewDb D (keyBytes random)
          (exec (attestNewBlsKey random agent) (faults, D)).2.2 :=
        (triple_attestNewBlsKey hhex agent).exec_spec
          (fun _ _ => trivial) rfl
      exact hs.newDb (hkey random hfresh) hnew
  | attestFreshBlsKey faults random seeds agent wc guardians t fv attest =>
      have hnew : NewDb D (keyBytes random)
          (exec (attestFreshBlsKey random seeds agent wc guardians t fv
            attest) (faults, D)).2.2 :=
        (triple_attestFreshBlsKey hhex seeds agent wc guardians t fv
          attest).exec_spec (fun _ _ => trivial) rfl
      exact hs.newDb (hkey random hfresh) hnew

/-- A whole run keeps it. -/
theorem safeStore_runEvents (hhex : Blsttc.HexOfBytes) {events : List Event}
    {s : Disk × List Release} (hs : SafeStore D₀ s)
    (hfresh : AllFresh s events) : SafeStore D₀ (runEvents s events) := by
  induction events generalizing s with
  | nil => exact hs
  | cons e es ih => exact ih (hs.handle hhex hfresh.1) hfresh.2

/-- The blocks and attestations released for a key never conflict, neither with
each other nor with what the database of the key held at the start. -/
structure ReleasesSafe (D₀ : Disk) (K : Str) (log : List Release) :
    Prop where
  slots : (releasedSlots K log).Pairwise (· < ·)
  slots_imported : ∀ db, savedDb D₀ K = some db → ∀ b ∈ db.signedBlocks,
    ∀ slot ∈ releasedSlots K log, b.slot < slot
  epochs : (releasedEpochs K log).Pairwise fun a b => a.1 ≤ b.1 ∧ a.2 < b.2
  epochs_imported : ∀ db, savedDb D₀ K = some db →
    ∀ a ∈ db.signedAttestations, ∀ e ∈ releasedEpochs K log,
      a.sourceEpoch ≤ e.1 ∧ a.targetEpoch < e.2
  duties : (signedDuties K log).Pairwise fun a b => ¬ a.Conflicts b
  duties_imported : ∀ db, savedDb D₀ K = some db → ∀ a ∈ db.duties,
    ∀ b ∈ signedDuties K log, ¬ a.Conflicts b

/-- Over a whole run, whatever is requested and whatever fails, what is
released is safe. -/
theorem sequential_slashing_safety (hhex : Blsttc.HexOfBytes)
    (hD₀ : WellNamed D₀) {events : List Event}
    (hfresh : AllFresh (D₀, []) events) (K : Str) :
    ReleasesSafe D₀ K (runEvents (D₀, []) events).2 := by
  have hsafe : (signerOf D₀ (runEvents (D₀, []) events) K).Safe :=
    (safeStore_runEvents hhex (safeStore_start hD₀) hfresh).safe K
  have himported : ∀ db, savedDb D₀ K = some db →
      (signerOf D₀ (runEvents (D₀, []) events) K).imported = db.duties := by
    intro db hdb
    simp [signerOf, hdb]
  have hafter : ∀ db, savedDb D₀ K = some db → ∀ a ∈ db.duties,
      ∀ b ∈ signedDuties K (runEvents (D₀, []) events).2,
        a.Precedes b := by
    intro db hdb a ha b hb
    exact hsafe.after_imported a (by rwa [himported db hdb]) b hb
  constructor
  · exact releasedSlots_increasing hsafe.ordered
  · intro db hdb b hb slot hslot
    have hduty : .block b.slot.toNat ∈ db.duties :=
      List.mem_append_left _ (List.mem_map_of_mem hb)
    exact UInt64.lt_iff_toNat_lt.mpr
      (hafter db hdb _ hduty _ (mem_signedDuties_of_slot hslot))
  · exact releasedEpochs_increasing hsafe.ordered
  · intro db hdb a ha e he
    have hduty : .vote a.sourceEpoch.toNat a.targetEpoch.toNat ∈ db.duties :=
      List.mem_append_right _ (List.mem_map.mpr ⟨a, ha, rfl⟩)
    have hprecedes := hafter db hdb _ hduty _ (mem_signedDuties_of_epochs he)
    exact ⟨UInt64.le_iff_toNat_le.mpr hprecedes.1,
      UInt64.lt_iff_toNat_lt.mpr hprecedes.2⟩
  · exact hsafe.no_conflict.1
  · intro db hdb a ha b hb
    exact (hafter db hdb a ha b hb).not_conflicts

end Safety

/-! ## A run -/

section SampleRun

open Exponent

/-- A store with one key and a database with two imported blocks. -/
def importedStore : Disk :=
  (Disk.empty.set .blsKeys (keyName 3)
    (.text (Hex.encode (Poly.toBytes 32 (constant 3))))).set .slashing
      (keyName 3) (.json (SlashingProtectionData.toJson {
        pubkey := toBytes 48 3
        signedBlocks := [⟨7, none⟩, ⟨4, none⟩]
        signedAttestations := [] }))

theorem wellNamed_importedStore : WellNamed importedStore := by
  intro name db hdb
  by_cases hname : name = keyName 3
  · subst hname
    rw [importedStore, savedDb_set_same] at hdb
    rw [← Option.some.inj hdb]
    rfl
  · rw [importedStore, savedDb_set_of_ne hname] at hdb
    cases hdb

/-- A block request for the stored key. -/
def blockAt (slot : Slot) : BLSSignMsg :=
  .BLOCK_V2 {
    forkInfo := genesisForkInfo
    signingRoot := none
    beaconBlock := { version := [], blockHeader := emptyHeader slot } }

/-- A key generation, and three block requests of which the second is refused
and the third follows a failed write. -/
def sampleEvents : List Event :=
  [.attestNewBlsKey [] (constant 5) ⟨true, fun _ => none⟩,
    .signValidatorMessage [] (keyName 3) GENESIS_FORK_VERSION (blockAt 8),
    .signValidatorMessage [] ('0' :: 'x' :: keyName 3) GENESIS_FORK_VERSION
      (blockAt 8),
    .signValidatorMessage [.none, .none, .none, .fails] (keyName 3)
      GENESIS_FORK_VERSION (blockAt 9),
    .signValidatorMessage [] (keyName 3) GENESIS_FORK_VERSION (blockAt 10)]

theorem allFresh_sampleEvents :
    AllFresh (importedStore, []) sampleEvents := by
  refine ⟨?_, trivial, trivial, trivial, trivial, trivial⟩
  exact Option.isNone_iff_eq_none.mp (by decide +kernel)

theorem sequential_slashing_safety_sampleEvents :
    releasedSlots (keyName 3)
        (runEvents (importedStore, []) sampleEvents).2 = [8, 10] ∧
      ReleasesSafe importedStore (keyName 3)
        (runEvents (importedStore, []) sampleEvents).2 :=
  ⟨by decide +kernel,
    sequential_slashing_safety hexOfBytes wellNamed_importedStore
      allFresh_sampleEvents _⟩

end SampleRun

end ValidatorGuardian
