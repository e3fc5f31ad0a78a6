import ValidatorGuardian.Custody.Concurrent
import ValidatorGuardian.Custody.DepositPaths
import ValidatorGuardian.Custody.KeygenTrace
import ValidatorGuardian.Signing.Decision

/-!
# A signer that generates keys while it signs

Key generations, signing requests and deposits run at once, one file operation
being one step.  Key files are named by their public key, and databases by the
key that they are about.  A generation that has returned its key leaves both
files behind, and although others may write them again, the name keeps its
secret; so from then on the key signs whatever cannot be slashed.
-/

namespace ValidatorGuardian

open Effect

section Signer

variable [Blsttc] [SerdeHex] [Secp256k1]

/-! ## Files by name -/

/-- The key file of a key set with a public key, under the hex of it. -/
def KeySetFile (name : Str) (c : Contents) : Prop :=
  ∃ set : Blsttc.SecretKeySet,
    Blsttc.HasPublicKey (Blsttc.publicKeys set) ∧ name = blsKeyName set ∧
      c = .text (Hex.encode (Blsttc.secretKeySetToBytes set))

/-- A readable database, under the hex of its own key. -/
def DbFile (name : Str) (c : Contents) : Prop :=
  ∃ db, SlashingProtectionData.ofContents c = some db ∧
    name = Hex.encode db.pubkey.toList

omit [Blsttc] [Secp256k1] in
theorem dbFile_toJson (db : SlashingProtectionData) :
    DbFile (Hex.encode db.pubkey.toList) (.json db.toJson) :=
  ⟨db, SlashingProtectionData.ofContents_toJson db, rfl⟩

/-- What belongs in the files of a signer, or is left of it by torn writes. -/
def SignerBelongs (torn : Prop) : FileKey → Contents → Prop
  | (.blsKeys, name), c => OrTorn torn (KeySetFile name) c
  | (.ethKeys, name), c => OrTorn torn (EthKeyFile name) c
  | (.slashing, name), c => OrTorn torn (DbFile name) c

/-- The files of a signer. -/
def SignerStore (torn : Prop) (D : Disk) : Prop :=
  Filed (SignerBelongs torn) D.at

theorem SignerStore.wellNamed {torn : Prop} {D : Disk}
    (h : SignerStore torn D) : WellNamed D := by
  intro name db hdb
  obtain ⟨c, hc, hdb⟩ := Option.bind_eq_some_iff.mp hdb
  rcases h (.slashing, name) c hc with
    ⟨db', hdb', hname⟩ | ⟨-, c', n, -, rfl⟩
  · rw [hdb] at hdb'
    obtain rfl := Option.some.inj hdb'
    exact hname
  · rw [SlashingProtectionData.ofContents_tornAt] at hdb
    cases hdb

/-! ## Requests -/

variable [Hashing] [Eth2TreeHash]

/-- A request to a signer, with the randomness and the agent that it meets. -/
inductive SignerRequest where
  | signValidatorMessage (r : SigningRequest)
  | validatorDeposit (req : DepositRequest)
  | attestNewBlsKey (random : Blsttc.SecretKeySet) (agent : CvmAgent)
  | attestFreshBlsKey (random : Blsttc.SecretKeySet)
      (seeds : ℕ → Secp256k1.Seed) (agent : CvmAgent)
      (withdrawalCredentials : Bytes 32)
      (guardianPublicKeys : List EthPublicKey) (threshold : UInt64)
      (forkVersion : Version) (doRemoteAttestation : Bool)
  | attestNewEthKey (random : EthSecretKey) (agent : CvmAgent)

/-- What a signer answers. -/
inductive SignerReply where
  | response (response : Response)
  | deposit (response : ValidatorDepositResponse)
  | blsKey (evidence : AttestationEvidence) (pk : Blsttc.PublicKey)
  | payload (p : BlsKeygenPayload)
  | ethKey (evidence : AttestationEvidence) (pk : EthPublicKey)

namespace SignerRequest

/-- The code that serves a request. -/
def serve : SignerRequest → Enclave SignerReply
  | signValidatorMessage r => do
      let response ← ValidatorGuardian.signValidatorMessage r.blsPkHex
        r.genesisForkVersion r.req
      return .response response
  | validatorDeposit req => do
      let response ← validatorDepositHandler req
      return .deposit response
  | attestNewBlsKey random agent => do
      let out ← ValidatorGuardian.attestNewBlsKey random agent
      return .blsKey out.1 out.2
  | attestFreshBlsKey random seeds agent wc guardianPks threshold forkVersion
      attest => do
      let p ← ValidatorGuardian.attestFreshBlsKey random seeds agent wc
        guardianPks threshold forkVersion attest
      return .payload p
  | attestNewEthKey random agent => do
      let out ← ValidatorGuardian.attestNewEthKey random agent
      return .ethKey out.1 out.2

omit [Hashing] [Eth2TreeHash] in
/-- The BLS key that a request generates. -/
def generates : SignerRequest → Option Blsttc.SecretKeySet
  | attestNewBlsKey random _ | attestFreshBlsKey random _ _ _ _ _ _ _ =>
      some random
  | _ => none

end SignerRequest

/-! ## What a request writes and has seen -/

section Seen

variable {torn : Prop} {seen : FileKey → Contents → Prop}
  {random : Blsttc.SecretKeySet}

/-- The key file and the database of a key set have been seen. -/
def KeySeen (seen : FileKey → Contents → Prop)
    (set : Blsttc.SecretKeySet) : Prop :=
  seen (.blsKeys, blsKeyName set) (blsKeyFile set).contents ∧
    seen (.slashing, blsKeyName set) (freshDbFile set).contents

omit [Hashing] [Eth2TreeHash] in
theorem conforms_saveBlsKey (hhex : Blsttc.HexOfBytes)
    (set : Blsttc.SecretKeySet) :
    Conforms ((files torn).filing (SignerBelongs torn))
      (fun seen' r => r = .ok () →
        seen' (.blsKeys, blsKeyName set) (blsKeyFile set).contents)
      seen (saveBlsKey set) := by
  refine Conforms.bindLift ?_ (fun _ _ h => absurd h Outcome.error_ne_ok)
  intro pk hpk
  obtain ⟨hkey, rfl⟩ := Blsttc.publicKeyOf_eq_ok.mp hpk
  apply Conforms.withContext
  have hwrite : Conforms ((files torn).filing (SignerBelongs torn))
      (fun seen' r => r = .ok () →
        seen' (.blsKeys, blsKeyName set) (blsKeyFile set).contents) seen
      (writeFileIn "Failed to create keys dir" "failed to write sk" .blsKeys
        (blsKeyName set) (blsKeyFile set).contents) :=
    Conforms.writeFileIn (.inl ⟨set, hkey, rfl, rfl⟩)
      fun ht n => .tornAt ht ⟨set, hkey, rfl, rfl⟩ n
  rw [writeBlsKey, hhex, strip0xPrefix_encode, strip0xPrefix_encode]
  exact hwrite.weaken fun _ _ h hr => h (Outcome.withContext_eq_ok.mp hr)

omit [Hashing] [Eth2TreeHash] in
/-- Both generations of a BLS key save the key, write a new database, and then
leave the files alone. -/
theorem conforms_saveAndWrite {α : Type} (hhex : Blsttc.HexOfBytes)
    {save : Enclave Unit} {rest : Enclave α}
    {G : (FileKey → Contents → Prop) → Outcome α → Prop}
    (hsave : Conforms ((files torn).filing (SignerBelongs torn))
      (fun seen' r => r = .ok () →
        seen' (.blsKeys, blsKeyName random) (blsKeyFile random).contents)
      seen save)
    (hrest : ∀ seen', KeySeen seen' random →
      Conforms ((files torn).filing (SignerBelongs torn)) G seen' rest)
    (herr : ∀ seen' e, G seen' (.error e)) :
    Conforms ((files torn).filing (SignerBelongs torn)) G seen
      (do
        save
        let db ← liftM (SlashingProtectionData.fromPkHex
          (Blsttc.publicKeyToHex
            (Blsttc.publicKey (Blsttc.publicKeys random))))
        db.write
        rest) := by
  refine Conforms.bind hsave ?_ (fun _ _ _ => herr _ _)
  intro seen₁ _ hkey
  rw [SlashingProtectionData.fromPkHex_publicKeyToHex hhex]
  refine Conforms.bindLift ?_ (fun _ _ => herr _ _)
  rintro db ⟨⟩
  have hwrite : Conforms ((files torn).filing (SignerBelongs torn))
      (fun seen' r => r = .ok () →
        seen' (.slashing, blsKeyName random) (freshDbFile random).contents)
      seen₁ (SlashingProtectionData.new
        (pubKeyBytes (Blsttc.publicKeys random))).write :=
    Conforms.writeFileIn (.inl (dbFile_toJson _))
      fun ht n => .tornAt ht (dbFile_toJson _) n
  refine Conforms.bind hwrite.remembers ?_ (fun _ _ _ => herr _ _)
  rintro seen₂ _ ⟨hold, hnew⟩
  exact hrest seen₂ ⟨hold _ _ (hkey rfl), hnew rfl⟩

omit [Hashing] [Eth2TreeHash] in
theorem conforms_attestNewBlsKey (hhex : Blsttc.HexOfBytes)
    (agent : CvmAgent) :
    Conforms ((files torn).filing (SignerBelongs torn))
      (fun seen' r => ∀ out, r = .ok out →
        out.2 = Blsttc.publicKey (Blsttc.publicKeys random) ∧
          KeySeen seen' random) seen
      (attestNewBlsKey random agent) := by
  refine Conforms.bindLiftResult ?_
  intro set hset
  obtain ⟨rfl, hdrawn⟩ := newBlsKey_eq_ok.mp hset
  refine Conforms.bindLiftResult fun pk hpk => ?_
  obtain ⟨-, rfl⟩ := Blsttc.publicKeyOf_eq_ok.mp hpk
  refine conforms_saveAndWrite hhex (Conforms.withContext
    ((conforms_saveBlsKey hhex set).weaken fun _ _ h hr =>
      h (Outcome.withContext_eq_ok.mp hr))) ?_
    (fun _ _ => Outcome.forall_error)
  intro seen' hseen'
  refine Conforms.bindLiftResult fun _ _ => ?_
  apply Conforms.pure
  rintro _ ⟨⟩
  exact ⟨rfl, hseen'⟩

/-- A payload that is issued for what has been drawn, with the shares
encrypted for the guardians. -/
def FreshlyIssued (random : Blsttc.SecretKeySet)
    (seeds : ℕ → Secp256k1.Seed) (wc : Bytes 32)
    (guardianPks : List EthPublicKey) (threshold : UInt64)
    (forkVersion : Version) (p : BlsKeygenPayload) : Prop :=
  Drawn random threshold ∧ ∃ keys,
    Encrypted random seeds guardianPks keys ∧
      p.withoutSession = freshPayload random keys wc forkVersion

theorem conforms_attestFreshBlsKey (hhex : Blsttc.HexOfBytes)
    (seeds : ℕ → Secp256k1.Seed) (agent : CvmAgent) (wc : Bytes 32)
    (guardianPks : List EthPublicKey) (threshold : UInt64)
    (forkVersion : Version) (attest : Bool) :
    Conforms ((files torn).filing (SignerBelongs torn))
      (fun seen' r => ∀ p, r = .ok p →
        FreshlyIssued random seeds wc guardianPks threshold forkVersion p ∧
          KeySeen seen' random) seen
      (attestFreshBlsKey random seeds agent wc guardianPks threshold
        forkVersion attest) := by
  rw [attestFreshBlsKey_eq]
  refine Conforms.bindLiftResult ?_
  intro keys hkeys
  obtain ⟨hdrawn, hencrypted⟩ := freshKeys_eq_ok.mp hkeys
  refine conforms_saveAndWrite hhex (conforms_saveBlsKey hhex random) ?_
    (fun _ _ => Outcome.forall_error)
  intro seen' hseen'
  apply Conforms.lift
  intro p hp
  exact ⟨⟨hdrawn, keys, hencrypted, fresh_of_finishFresh hp⟩, hseen'⟩

omit [Hashing] [Eth2TreeHash] in
theorem conforms_attestNewEthKey (random : EthSecretKey) (agent : CvmAgent) :
    Conforms ((files torn).filing (SignerBelongs torn))
      (fun seen' r => ∀ out, r = .ok out →
        out.2 = Secp256k1.publicKeyFromSecretKey random ∧
          seen' (.ethKeys, ethKeyName random)
            (.text (Hex.encode (Secp256k1.secretKeySerialize random).toList)))
      seen (attestNewEthKey random agent) := by
  refine Conforms.bindResult (Conforms.ethKeyGen rfl rfl
    (.inl ⟨random, rfl, rfl⟩)
    fun ht n => .tornAt ht ⟨random, rfl, rfl⟩ n) ?_
  intro seen' pk hpk
  refine Conforms.bindLiftResult fun _ _ => ?_
  apply Conforms.pure
  rintro _ ⟨⟩
  exact hpk pk rfl

omit [Hashing] [Eth2TreeHash] in
/-- What the protocol of a signing session writes belongs. -/
theorem signingProtocol_may {name : Str}
    {duty : Option (Slashing.Duty ℕ)} (l : Session)
    (seen : FileKey → Contents → Prop) (op : FsOp)
    (h : (signingProtocol name duty).may l op) :
    ((files torn).filing (SignerBelongs torn)).may seen op := by
  rintro - k c hwrites
  cases op with
  | read dir n => exact hwrites.elim
  | createDir dir => exact hwrites.elim
  | write dir n c' =>
      obtain ⟨rfl, hc⟩ := hwrites
      cases l with
      | wrote ok => exact absurd h id
      | reading last =>
          obtain ⟨d, db, db', -, -, hrec, rfl, rfl, rfl⟩ := h
          have hfile : DbFile (Hex.encode db.pubkey.toList)
              (.json db'.toJson) := by
            rw [← hrec.pubkey]
            exact dbFile_toJson db'
          rcases hc with rfl | ⟨ht, n, rfl⟩
          · exact .inl hfile
          · exact .tornAt ht hfile n

omit [Hashing] [Eth2TreeHash] in
/-- What keeps to the protocol of a session writes only what belongs. -/
theorem conforms_of_session {α : Type} {name : Str}
    {duty : Option (Slashing.Duty ℕ)} {l : Session} {x : Enclave α}
    {F : Session → Outcome α → Prop}
    (hx : Conforms (signingProtocol name duty) F l x) :
    Conforms ((files torn).filing (SignerBelongs torn))
      (fun _ r => ∃ l, F l r) seen x :=
  Program.Conforms.allow hx signingProtocol_may

/-- A signed deposit is only released as a success, and it is made with a key
of the public key in the message. -/
def DepositSigned (req : DepositRequest)
    (response : ValidatorDepositResponse) : Prop :=
  ∀ resp, response.body = .json resp → response.status = .OK ∧
    ∃ set, pubKeyBytes (Blsttc.publicKeys set) = req.deposit.pubkey ∧
      resp = depositResponse req.deposit (Blsttc.signatureToBytes
        (blsAggSign set
          (depositRoot req.deposit req.genesisForkVersion).toList))

omit [Secp256k1] in
/-- The signature of a deposit comes from a key whose hex is the name. -/
theorem conforms_getDepositSignature (pkHex : Str) (d : DepositMessage)
    (v : Version) :
    Conforms (signingProtocol [] none)
      (fun _ r => ∀ resp, r = .ok resp → ∃ set, pkHex = pkHexOf set ∧
        resp = depositResponse d (Blsttc.signatureToBytes
          (blsAggSign set (depositRoot d v).toList))) (.reading none)
      (getDepositSignature pkHex d v) := by
  have hsign : Conforms (signingProtocol [] none)
      (fun _ r => ∀ sig, r = .ok sig → ∃ set, pkHex = pkHexOf set ∧
        sig = blsAggSign set (depositRoot d v).toList) (.reading none)
      (blsAggSignFromSavedSk pkHex (depositRoot d v).toList) := by
    refine Conforms.blsAggSignFromSavedSk trivial (fun _ => rfl) ?_ (by simp)
    rintro set hset sig ⟨⟩
    exact ⟨set, hset, rfl⟩
  simp only [getDepositSignature, secureSign, fixedVectorFrom_bytes]
  refine Conforms.bind (F := fun _ r => ∀ sig, r = .ok sig →
      ∃ set, pkHex = pkHexOf set ∧ sig = Blsttc.signatureToBytes
        (blsAggSign set (depositRoot d v).toList))
    (Conforms.bind hsign ?_ (by simp)) ?_ (by simp)
  · intro l sig hsig
    obtain ⟨set, hset, rfl⟩ := hsig sig rfl
    apply Conforms.pure
    rintro _ ⟨⟩
    exact ⟨set, hset, rfl⟩
  · intro l sig hsig
    obtain ⟨set, hset, rfl⟩ := hsig sig rfl
    apply Conforms.pure
    rintro _ ⟨⟩
    exact ⟨set, hset, rfl⟩

omit [Hashing] [Eth2TreeHash] [Secp256k1] [Blsttc] in
theorem conforms_blsKeyExists (pkHex : Str) :
    Conforms (signingProtocol [] none) (fun l _ => l = .reading none)
      (.reading none) (blsKeyExists pkHex) := by
  refine Conforms.attemptBind (F := fun l _ => l = .reading none)
    (Conforms.readFile trivial fun _ => rfl) ?_ ?_ (fun _ h => h)
  · exact fun _ _ h => Conforms.pure h
  · exact fun _ _ h => Conforms.pure h

omit [Secp256k1] in
/-- A deposit request keeps to the protocol of a session that never writes. -/
theorem conforms_validatorDepositHandler (hhex : Blsttc.HexOfBytes)
    (req : DepositRequest) :
    Conforms (signingProtocol [] none)
      (fun _ r => ∀ response, r = .ok response → DepositSigned req response)
      (.reading none) (validatorDepositHandler req) := by
  have hrefused : ∀ (l : Session) (status : StatusCode)
      (body : ValidatorDepositBody), (∀ resp, body ≠ .json resp) →
      Conforms (signingProtocol [] none)
        (fun _ r => ∀ response, r = .ok response → DepositSigned req response)
        l (pure ⟨status, body⟩) := by
    rintro l status body hbody _ ⟨⟩ resp h
    exact absurd h (hbody resp)
  refine Conforms.attemptBind (F := fun l r => l = .reading none ∧
      ∀ K, r = .ok K → K = Hex.encode req.deposit.pubkey.toList)
    (Conforms.lift ⟨rfl, ?_⟩) ?_ ?_ (by simp)
  · intro K hK
    rw [← (sanitizeBlsPkHex_eq_ok.mp hK).2, strip0xPrefix_encode]
  · rintro l K ⟨rfl, hK⟩
    obtain rfl := hK K rfl
    refine Conforms.bind (conforms_blsKeyExists _) ?_ (by simp)
    rintro l found rfl
    cases found with
    | false => exact hrefused _ _ _ (by simp)
    | true =>
        refine Conforms.attemptBind (conforms_getDepositSignature _ _ _)
          ?_ (fun _ _ _ => hrefused _ _ _ (by simp)) (by simp)
        intro l resp hresp
        obtain ⟨set, hset, rfl⟩ := hresp resp rfl
        apply Conforms.pure
        rintro _ ⟨⟩ resp ⟨⟩
        refine ⟨rfl, set, ?_, rfl⟩
        rw [pkHexOf, hhex] at hset
        exact (List.Vector.toList_injective (Hex.encode_injective hset)).symm
  · exact fun _ _ _ => hrefused _ _ _ (by simp)

/-- The response to a signing request is a signature by a key whose hex is the
path without its prefix, over the signing root. -/
def SignedByName (r : SigningRequest) (response : Response) : Prop :=
  response.status = .OK → ∃ set, strip0xPrefix r.blsPkHex = pkHexOf set ∧
    response.body = .json (SignatureResponse.new (Blsttc.signatureToBytes
      (blsAggSign set
        (r.req.toSigningRoot (some r.genesisForkVersion)).toList)).toList)

/-- What stands behind a reply. -/
def SignerBacked (seen : FileKey → Contents → Prop) :
    SignerRequest → SignerReply → Prop
  | .signValidatorMessage r, .response response => SignedByName r response
  | .validatorDeposit req, .deposit response => DepositSigned req response
  | .attestNewBlsKey random _, .blsKey _ pk =>
      pk = Blsttc.publicKey (Blsttc.publicKeys random) ∧ KeySeen seen random
  | .attestFreshBlsKey random seeds _ wc guardianPks threshold forkVersion _,
      .payload p =>
      FreshlyIssued random seeds wc guardianPks threshold forkVersion p ∧
        KeySeen seen random
  | .attestNewEthKey random _, .ethKey _ pk =>
      pk = Secp256k1.publicKeyFromSecretKey random ∧
        seen (.ethKeys, ethKeyName random)
          (.text (Hex.encode (Secp256k1.secretKeySerialize random).toList))
  | _, _ => False

theorem conforms_signerServe (hhex : Blsttc.HexOfBytes)
    (request : SignerRequest) :
    Conforms ((files torn).filing (SignerBelongs torn))
      (fun seen' r => ∀ reply, r = .ok reply →
        SignerBacked seen' request reply) seen request.serve := by
  cases request with
  | signValidatorMessage r =>
      refine Conforms.bindResult (conforms_of_session
        (conforms_signValidatorMessage (v := r.genesisForkVersion))) ?_
      rintro seen' response ⟨l, hl⟩
      apply Conforms.pure
      rintro _ ⟨⟩ hstatus
      exact (hl response rfl hstatus).signed
  | validatorDeposit req =>
      refine Conforms.bindResult (conforms_of_session
        (conforms_validatorDepositHandler hhex req)) ?_
      rintro seen' response ⟨l, hl⟩
      apply Conforms.pure
      rintro _ ⟨⟩
      exact hl response rfl
  | attestNewBlsKey random agent =>
      exact Conforms.mapResult (conforms_attestNewBlsKey hhex agent)
        fun _ _ hout => hout
  | attestFreshBlsKey random seeds agent wc guardianPks threshold forkVersion
      attest =>
      exact Conforms.mapResult (conforms_attestFreshBlsKey hhex seeds agent wc
        guardianPks threshold forkVersion attest) fun _ _ hp => hp
  | attestNewEthKey random agent =>
      exact Conforms.mapResult (conforms_attestNewEthKey random agent)
        fun _ _ hout => hout

end Seen

/-! ## Usable keys -/

/-- A key set under whose name the files let it sign: every request for it but
an upper-case deposit is answered, with a signature by its secret exactly when
the database accepts the duty, and every full deposit of it is signed. -/
structure KeyUsable (D : Disk) (set : Blsttc.SecretKeySet) : Prop where
  signs : ∀ r : SigningRequest, strip0xPrefix r.blsPkHex = pkHexOf set →
    r.req.isUpperDeposit = false → ∃ db response,
      savedDb D r.dbName = some db ∧
        (exec (signValidatorMessage r.blsPkHex r.genesisForkVersion r.req)
          ([], D)).1 = .ok response ∧
        (response.status = .OK ↔
          ∀ d, r.req.duty = some d → db.watermark.Accepts d) ∧
        (response.status = .OK → response.body =
          .json (SignatureResponse.new (Blsttc.signatureToBytes
            (blsAggSign set (r.req.toSigningRoot
              (some r.genesisForkVersion)).toList)).toList))
  deposits : ∀ signingRoot wc v,
    exec (validatorDepositHandler ⟨signingRoot, keyDeposit set wc, v⟩)
      ([], D) = (.ok ⟨.OK, .json (keyDepositResponse set wc v)⟩, ([], D))

/-- What the code relies on for BLS keys. -/
structure BlsLaws : Prop where
  bls : Blsttc.Encodings
  hex : Blsttc.HexOfBytes
  secretSets : Blsttc.SecretSets
  keySets : Blsttc.KeySets
  secret : Blsttc.PublicDeterminesSecret

omit [SerdeHex] [Secp256k1] [Hashing] [Eth2TreeHash] in
theorem pkHexOf_eq (hhex : Blsttc.HexOfBytes) (set : Blsttc.SecretKeySet) :
    pkHexOf set = blsKeyName set :=
  hhex _

omit [SerdeHex] [Secp256k1] [Hashing] [Eth2TreeHash] in
/-- Key sets of one name have one secret. -/
theorem secretKey_of_blsKeyName (laws : BlsLaws)
    {set set' : Blsttc.SecretKeySet}
    (h : blsKeyName set = blsKeyName set') :
    Blsttc.publicKey (Blsttc.publicKeys set) =
        Blsttc.publicKey (Blsttc.publicKeys set') ∧
      Blsttc.secretKey set = Blsttc.secretKey set' := by
  have hpk := laws.bls.publicKeyToBytes_injective
    (List.Vector.toList_injective (Hex.encode_injective h))
  refine ⟨hpk, laws.secret ?_⟩
  rw [← laws.keySets.publicKey, ← laws.keySets.publicKey, hpk]

omit [Hashing] [Eth2TreeHash] in
/-- A key whose two files are there is found, or another key set of the same
secret is. -/
theorem exists_holdsKey (laws : BlsLaws) {D : Disk}
    (hD : SignerStore False D) {set : Blsttc.SecretKeySet}
    (hfile : ∃ c, D .blsKeys (blsKeyName set) = some c) :
    ∃ set', HoldsKey D set' ∧ pkHexOf set' = pkHexOf set ∧
      Blsttc.publicKey (Blsttc.publicKeys set') =
        Blsttc.publicKey (Blsttc.publicKeys set) ∧
      Blsttc.secretKey set' = Blsttc.secretKey set := by
  obtain ⟨c, hc⟩ := hfile
  obtain ⟨set', hkey', hname, rfl⟩ :=
    OrTorn.of_not (hD (.blsKeys, blsKeyName set) c hc) id
  obtain ⟨hpk, hsecret⟩ := secretKey_of_blsKeyName laws hname
  refine ⟨set', ?_, ?_, hpk.symm, hsecret.symm⟩
  · have hsaved : savedKeySet D (blsKeyName set') = some set' := by
      rw [savedKeySet, Disk.key, ← hname, hc, Option.bind_some, Contents.key,
        Hex.decode_encode]
      exact laws.secretSets set'
    rw [HoldsKey, signingKeySet_eq_some, pkHexOf_eq laws.hex, blsKeyName,
      strip0xPrefix_encode, strip0xPrefix_encode]
    exact ⟨hsaved, hkey', (laws.hex _).symm⟩
  · rw [pkHexOf_eq laws.hex, pkHexOf_eq laws.hex, hname]

omit [Secp256k1] [Hashing] [Eth2TreeHash] in
theorem exists_savedDb [Secp256k1] {D : Disk} (hD : SignerStore False D)
    {name : Str} (hfile : ∃ c, D .slashing name = some c) :
    ∃ db, savedDb D name = some db := by
  obtain ⟨c, hc⟩ := hfile
  obtain ⟨db, hdb, -⟩ := OrTorn.of_not (hD (.slashing, name) c hc) id
  exact ⟨db, Option.bind_eq_some_iff.mpr ⟨c, hc, hdb⟩⟩

theorem keyUsable_of_files (laws : BlsLaws) {D : Disk}
    (hD : SignerStore False D) {set : Blsttc.SecretKeySet}
    (hkey : ∃ c, D .blsKeys (blsKeyName set) = some c)
    (hdb : ∃ c, D .slashing (blsKeyName set) = some c) :
    KeyUsable D set := by
  obtain ⟨set', hholds, hhexOf, hpk, hsecret⟩ := exists_holdsKey laws hD hkey
  have hsign : ∀ m, blsAggSign set' m = blsAggSign set m := by
    intro m
    rw [blsAggSign, blsAggSign, hsecret]
  constructor
  · intro r hname hupper
    have hdbName : r.dbName = blsKeyName set := by
      rw [SigningRequest.dbName, slashingName, hname, pkHexOf_eq laws.hex,
        blsKeyName, strip0xPrefix_encode]
    obtain ⟨db, hsaved⟩ := exists_savedDb hD hdb
    rw [← hdbName] at hsaved
    have hwell : ¬ r.Malformed := by
      rintro (h | h)
      · rw [hupper] at h
        cases h
      · apply h
        rw [hname, pkHexOf_eq laws.hex, blsKeyName, Str.len_encode,
          List.Vector.toList_length]
        rfl
    have hfound : signingKeySet D (strip0xPrefix r.blsPkHex) = some set' := by
      rw [hname, ← hhexOf]
      exact hholds
    obtain ⟨out, D', hexec, hanswered⟩ := answeredAs hD.wellNamed r
    -- both readers find what they read, so none of them panics
    have hnopanic : ¬ Panicking D [] r := by
      rintro ⟨-, hpanic | ⟨hpanic, -⟩⟩
      · rw [lookupDb_eq_ok.mpr hsaved] at hpanic
        cases hpanic
      · rw [← lookupSigningKey_eq_panic,
          lookupSigningKey_eq_ok.mpr hfound] at hpanic
        cases hpanic
    obtain ⟨response, rfl⟩ := hanswered.exists_response hnopanic
    refine ⟨db, response, hsaved, congrArg Prod.fst hexec, ?_, ?_⟩
    · refine hanswered.ok_iff.trans ⟨?_, ?_⟩
      · rintro ⟨-, -, db', hdb', hduty⟩ d hd
        rw [hsaved] at hdb'
        obtain rfl := Option.some.inj hdb'
        exact (hduty d hd).1
      · intro haccepts
        refine ⟨hwell, Option.isSome_iff_exists.mpr ⟨set', hfound⟩, db, hsaved,
          fun d hd => ⟨haccepts d hd, ?_⟩⟩
        simp [recordedDuties, wellFormedAsks, Slashing.Keyring.acceptedAll]
    · intro hstatus
      obtain ⟨set'', hset'', hbody⟩ := hanswered.signed _ rfl hstatus
      rw [hfound] at hset''
      obtain rfl := Option.some.inj hset''
      rw [hbody, hsign]
  · intro signingRoot wc v
    have hdeposit : keyDeposit set' wc = keyDeposit set wc := by
      rw [keyDeposit, keyDeposit, pubKeyBytes, pubKeyBytes, hpk]
    have hresponse : keyDepositResponse set' wc v =
        keyDepositResponse set wc v := by
      have hsig : depositSignature set' wc v = depositSignature set wc v := by
        rw [depositSignature, depositSignature, hsecret, pubKeyBytes,
          pubKeyBytes, hpk]
      rw [keyDepositResponse, keyDepositResponse, hdeposit, hsig]
    rw [← hdeposit, ← hresponse]
    exact exec_validatorDepositHandler_nil laws.hex hholds signingRoot wc v

/-! ## Pools of requests -/

variable {ι : Type} [DecidableEq ι]

/-- A signer that serves requests, one task for each. -/
abbrev SignerPool (ι : Type) :=
  Pool FsOp FsOp.Ans (Outcome SignerReply) Disk ι

/-- All requests have arrived and none has started. -/
def signerArrived (reqs : ι → SignerRequest) (D : Disk) : SignerPool ι where
  state := D
  task i := (reqs i).serve.run

/-- `Q` is reached from `P` when the tasks take turns in some order, with
faults that tear a write only if `torn`. -/
def SignerServes (torn : Prop) (P Q : SignerPool ι) : Prop :=
  Pool.Reaches (fun _ => fsHandler) (fun _ _ f => TearsOnly torn f) P Q

/-- Task `i` has answered with `reply`. -/
def SignerAnswered (P : SignerPool ι) (i : ι) (reply : SignerReply) : Prop :=
  P.task i = .ret (.ok reply)

/-- The state of a signer in the middle of any interleaving of requests: its
files are well named, what it signs is signed by the key that is asked for,
and if writes are atomic then a key that a generation has answered with is
usable, now and from now on. -/
structure SignerPoolSafe (torn : Prop) (reqs : ι → SignerRequest)
    (P : SignerPool ι) : Prop where
  store : SignerStore torn P.state
  signed : ∀ i r response, reqs i = .signValidatorMessage r →
    SignerAnswered P i (.response response) → SignedByName r response
  deposits : ∀ i req response, reqs i = .validatorDeposit req →
    SignerAnswered P i (.deposit response) → DepositSigned req response
  usable : ¬ torn → ∀ i random reply, (reqs i).generates = some random →
    SignerAnswered P i reply → ∀ Q, SignerServes torn P Q →
      KeyUsable Q.state random

/-- The tasks file what belongs, and answer with what is backed by what they
have seen. -/
def SignerFiled (torn : Prop) (reqs : ι → SignerRequest) (P : SignerPool ι) :
    Prop :=
  (files torn).FiledPool (SignerBelongs torn)
    (fun i seen r => ∀ reply, r = .ok reply →
      SignerBacked seen (reqs i) reply) P

theorem signerFiled_of_serves (hhex : Blsttc.HexOfBytes) {torn : Prop}
    {D : Disk} (hD : SignerStore torn D) {reqs : ι → SignerRequest}
    {P : SignerPool ι}
    (hrun : SignerServes torn (signerArrived reqs D) P) :
    SignerFiled torn reqs P := by
  have hstart : SignerFiled torn reqs (signerArrived reqs D) :=
    .start hD fun i => conforms_signerServe hhex (reqs i)
  exact (hstart.reaches hrun).1

namespace SignerFiled

variable {torn : Prop} {reqs : ι → SignerRequest} {P : SignerPool ι} {i : ι}

omit [SerdeHex] [DecidableEq ι] in
/-- A generation that has answered has seen the two files of its key. -/
theorem keySeen {seen : FileKey → Contents → Prop} {request : SignerRequest}
    {random : Blsttc.SecretKeySet} {reply : SignerReply}
    (hgenerates : request.generates = some random)
    (hbacked : SignerBacked seen request reply) : KeySeen seen random := by
  cases request with
  | attestNewBlsKey set agent =>
      obtain rfl := Option.some.inj hgenerates
      cases reply with
      | blsKey evidence pk => exact hbacked.2
      | _ => exact hbacked.elim
  | attestFreshBlsKey set seeds agent wc pks threshold v attest =>
      obtain rfl := Option.some.inj hgenerates
      cases reply with
      | payload p => exact hbacked.2
      | _ => exact hbacked.elim
  | _ => cases hgenerates

/-- A key that a generation has answered with stays usable. -/
theorem usable (h : SignerFiled False reqs P) (laws : BlsLaws)
    {random : Blsttc.SecretKeySet} {reply : SignerReply}
    (hgenerates : (reqs i).generates = some random)
    (hreply : SignerAnswered P i reply) {Q : SignerPool ι}
    (hQ : SignerServes False P Q) : KeyUsable Q.state random := by
  obtain ⟨seen, hseen, hF⟩ := h.returned hreply
  obtain ⟨hkey, hdb⟩ := keySeen hgenerates (hF reply rfl)
  obtain ⟨hfiled, hpersists⟩ := h.reaches hQ
  obtain ⟨c, hc⟩ := hseen.present _ _ hkey
  obtain ⟨c', hc'⟩ := hseen.present _ _ hdb
  exact keyUsable_of_files laws hfiled.store (hpersists _ c hc)
    (hpersists _ c' hc')

end SignerFiled

/-- Whatever requests a signer serves, in whatever interleaving of their file
operations and with whatever faults, it is safe at every moment. -/
theorem signer_pool_safe (laws : BlsLaws) {torn : Prop} {D : Disk}
    (hD : SignerStore torn D) (reqs : ι → SignerRequest) {P : SignerPool ι}
    (hrun : SignerServes torn (signerArrived reqs D) P) :
    SignerPoolSafe torn reqs P := by
  have hfiled := signerFiled_of_serves laws.hex hD hrun
  constructor
  · exact hfiled.store
  · intro i r response hreq hreply
    obtain ⟨seen, -, hF⟩ := hfiled.returned hreply
    have hbacked := hF _ rfl
    rwa [hreq] at hbacked
  · intro i req response hreq hreply
    obtain ⟨seen, -, hF⟩ := hfiled.returned hreply
    have hbacked := hF _ rfl
    rwa [hreq] at hbacked
  · intro ht i random reply hgenerates hreply Q hQ
    rw [eq_false ht] at hfiled hQ
    exact hfiled.usable laws hgenerates hreply hQ

end Signer

section SampleSigner

open Exponent

theorem blsLaws : BlsLaws :=
  ⟨encodings, hexOfBytes, secretSets, keySets, publicDeterminesSecret⟩

/-- A generation of a key, a request that signs with it, and a deposit. -/
def sampleSignerRequests : ℕ → SignerRequest
  | 0 => .attestFreshBlsKey (line 3 5) (fun _ => ()) ⟨true, fun _ => none⟩
      (List.Vector.replicate 32 0) [guardianKey 1, guardianKey 2] 2
      GENESIS_FORK_VERSION false
  | 1 => .signValidatorMessage ⟨keyName 3, GENESIS_FORK_VERSION, blockAt 8⟩
  | _ => .validatorDeposit ⟨none, keyDeposit (line 3 5)
      (List.Vector.replicate 32 0), GENESIS_FORK_VERSION⟩

/-- The deposit is signed as soon as the key file is there, and the block after
the database is. -/
def sampleSignerTurns : List (ℕ × Fault) :=
  [(0, .none), (0, .none), (2, .none), (0, .none), (2, .none), (0, .none),
    (1, .none), (1, .none), (1, .none), (1, .none), (1, .none)]

def sampleSignerPool : SignerPool ℕ :=
  (signerArrived sampleSignerRequests Disk.empty).runSchedule
    (fun _ => fsHandler) sampleSignerTurns

theorem serves_sampleSignerTurns : SignerServes False
    (signerArrived sampleSignerRequests Disk.empty) sampleSignerPool := by
  have hatomic : ∀ e ∈ sampleSignerTurns, e.2.tears = false := by decide
  exact Pool.reaches_runSchedule
    (fun e he _ => tearsOnly_false.mpr (hatomic e he)) _

theorem signer_pool_safe_sampleSignerPool :
    (∀ i < 3, ((sampleSignerPool.task i).result?.bind
        Except.toOption).isSome = true) ∧
      SignerPoolSafe False sampleSignerRequests sampleSignerPool := by
  refine ⟨by decide +kernel, signer_pool_safe blsLaws ?_ sampleSignerRequests
    serves_sampleSignerTurns⟩
  intro k c hc
  cases hc

end SampleSigner

end ValidatorGuardian
