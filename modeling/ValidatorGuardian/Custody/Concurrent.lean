import ValidatorGuardian.Custody.HonestFlow
import ValidatorGuardian.Io.Filed

/-!
# A guardian that serves requests concurrently

Key rotations, custody requests and exit requests run at once, one file
operation being one step.  Each of them writes only key files that are named by
their public key, and such a name has one key file.  So no interleaving loses a
key, an approval stays backed by the files, and guardians that have taken
custody at some time can exit together at every later time.
-/

namespace ValidatorGuardian

open Effect

/-! ## Key files as a store -/

section Store

variable [Blsttc] [Secp256k1] {D₀ D D' : Disk} {torn : Prop}

/-- What belongs in the files of a guardian: its key files are named by their
public keys, or left of such files by torn writes, and the slashing databases
are those of `D₀`. -/
def KeyBelongs (D₀ : Disk) (torn : Prop) : FileKey → Contents → Prop
  | (.blsKeys, name), c => OrTorn torn (BlsKeyFile name) c
  | (.ethKeys, name), c => OrTorn torn (EthKeyFile name) c
  | (.slashing, name), c => D₀ .slashing name = some c

theorem filed_of_keyStore (h : KeyStore torn D) :
    Filed (KeyBelongs D torn) D.at := by
  rintro ⟨dir, name⟩ c hc
  cases dir with
  | blsKeys => exact h.bls name c hc
  | ethKeys => exact h.eth name c hc
  | slashing => exact hc

theorem keyStore_of_filed (h : Filed (KeyBelongs D₀ torn) D.at) :
    KeyStore torn D :=
  ⟨fun name c hc => h (.blsKeys, name) c hc,
    fun name c hc => h (.ethKeys, name) c hc⟩

omit [Blsttc] [Secp256k1] in
theorem keysKept_of_grows (h : Grows D.at D'.at) : KeysKept D D' :=
  fun name c => ⟨h (.blsKeys, name) c, h (.ethKeys, name) c⟩

/-- Where writes are atomic, a name has one key file. -/
theorem determines_keyBelongs (laws : KeyLaws) (D₀ : Disk) :
    Determines (KeyBelongs D₀ False) := by
  rintro ⟨dir, name⟩ c c' hc hc'
  cases dir with
  | blsKeys =>
      obtain ⟨s, hname, rfl⟩ := OrTorn.of_not hc id
      obtain ⟨s', hname', rfl⟩ := OrTorn.of_not hc' id
      rw [hname] at hname'
      have hpk := Hex.encode_injective hname'
      have hsecret : s = s' := laws.blsSecret
        (laws.bls.publicKeyToBytes_injective
          (List.Vector.toList_injective hpk))
      rw [hsecret]
  | ethKeys =>
      obtain ⟨sk, hname, rfl⟩ := OrTorn.of_not hc id
      obtain ⟨sk', hname', rfl⟩ := OrTorn.of_not hc' id
      rw [hname] at hname'
      have hpk := Hex.encode_injective hname'
      have hsecret : sk = sk' := laws.ethSecret
        (laws.eth.compressed_injective (List.Vector.toList_injective hpk))
      rw [hsecret]
  | slashing =>
      have hsame : some c = some c' := hc.symm.trans hc'
      exact Option.some.inj hsame

end Store

section Guardian

variable [Blsttc] [Secp256k1] [Ethers] [CvmAgentTypes] [Hashing]
  [Eth2TreeHash]

/-! ## Requests -/

/-- A request to the guardian, with the environment that it meets. -/
inductive GuardianRequest where
  | attestNewEthKeyWithBlockhash (random : EthSecretKey) (agent : CvmAgent)
      (blockNumber : UInt64) (guardianModuleAddress : Str) (chainId : UInt64)
  | verifyAndSignCustodyReceived (registry : SessionRegistry)
      (request : ValidateCustodyRequest)
  | signVoluntaryExitMessage (req : SignExitRequest)

/-- What the guardian answers when a request succeeds. -/
inductive GuardianReply where
  | ethKey (evidence : AttestationEvidence) (pk : EthPublicKey)
  | custody (response : ValidateCustodyResponse)
  | exit (response : SignExitResponse)

/-- The code that serves a request. -/
def GuardianRequest.serve : GuardianRequest → Enclave GuardianReply
  | .attestNewEthKeyWithBlockhash random agent block address chain => do
      let out ← ValidatorGuardian.attestNewEthKeyWithBlockhash random agent
        block address chain
      return .ethKey out.1 out.2
  | .verifyAndSignCustodyReceived registry request => do
      let response ← ValidatorGuardian.verifyAndSignCustodyReceived registry
        request
      return .custody response
  | .signVoluntaryExitMessage req => do
      let response ← ValidatorGuardian.signVoluntaryExitMessage req
      return .exit response

/-! ## What a request writes and has seen -/

section Seen

variable {D₀ : Disk} {torn : Prop} {seen : FileKey → Contents → Prop}

omit [CvmAgentTypes] [Hashing] [Eth2TreeHash] in
theorem conforms_attestNewEthKeyWithBlockhash (random : EthSecretKey)
    (agent : CvmAgent) (blockNumber : UInt64) (address : Str)
    (chainId : UInt64) :
    Conforms ((files torn).filing (KeyBelongs D₀ torn))
      (fun seen' r => ∀ out, r = .ok out →
        out.2 = Secp256k1.publicKeyFromSecretKey random ∧
          seen' (.ethKeys, ethKeyName random)
            (.text (Hex.encode (Secp256k1.secretKeySerialize random).toList)))
      seen (attestNewEthKeyWithBlockhash random agent blockNumber address
        chainId) := by
  refine Conforms.bindResult (Conforms.ethKeyGen rfl rfl
    (.inl ⟨random, rfl, rfl⟩)
    fun ht n => .tornAt ht ⟨random, rfl, rfl⟩ n) ?_
  intro seen' pk hpk
  refine Conforms.bindLiftResult fun _ _ => ?_
  refine Conforms.bindLiftResult fun _ _ => ?_
  apply Conforms.pure
  rintro out ⟨⟩
  exact hpk pk rfl

omit [Ethers] [CvmAgentTypes] [Hashing] [Eth2TreeHash] [Secp256k1] in
theorem conforms_fetchBlsSk {Belongs : FileKey → Contents → Prop}
    (pkHex : Str) :
    Conforms ((files torn).filing Belongs)
      (Found (.blsKeys, strip0xPrefix (strip0xPrefix pkHex)) fun c =>
        c.key.bind Blsttc.secretKeySetFromBytes) seen (fetchBlsSk pkHex) :=
  Conforms.foundBind (Conforms.foundKey _ _) fun bs set h => by
    simpa using h

omit [Blsttc] [Ethers] [CvmAgentTypes] [Hashing] [Eth2TreeHash] in
theorem conforms_fetchEthKey {Belongs : FileKey → Contents → Prop}
    (pk : EthPublicKey) :
    Conforms ((files torn).filing Belongs)
      (Found (.ethKeys, ethPkToHex pk) fun c =>
        c.key.bind Secp256k1.secretKeyParseSlice) seen
      (fetchEthKey (ethPkToHex pk)) := by
  rw [fetchEthKey, readEthKey, strip0xPrefix_ethPkToHex,
    strip0xPrefix_ethPkToHex]
  exact Conforms.foundBind (Conforms.foundKey _ _) fun bs sk h => by
    simpa [ethSkFromBytes] using h

/-- Files in which everything that has been seen is stored. -/
def StoredIn (seen : FileKey → Contents → Prop) (D : Disk) : Prop :=
  ∀ k c, seen k c → D.at k = some c

/-- In such files an accepted request has the key and the share that it
needs. -/
def CustodyBacked (registry : SessionRegistry)
    (request : ValidateCustodyRequest) (response : ValidateCustodyResponse)
    (D : Disk) : Prop :=
  ∃ s, Accepted registry request D s response ∧
    D .blsKeys (shareName s) =
      some (.text (Hex.encode (Blsttc.secretKeyToBytes s).toList))

omit [Ethers] [CvmAgentTypes] [Hashing] [Eth2TreeHash] in
theorem conforms_writeShare (s : Blsttc.SecretKeyShare) :
    Conforms ((files torn).filing (KeyBelongs D₀ torn))
      (fun seen' r => r = .ok () → seen' (.blsKeys, shareName s)
        (.text (Hex.encode (Blsttc.secretKeyToBytes s).toList))) seen
      (writeBlsKey
        (Hex.encode
          (Blsttc.publicKeyToBytes (Blsttc.derivePublicKey s)).toList)
        (Hex.encode (Blsttc.secretKeyToBytes s).toList)) := by
  rw [writeBlsKey, strip0xPrefix_encode, strip0xPrefix_encode]
  exact Conforms.writeFileIn (.inl ⟨s, rfl, rfl⟩)
    fun ht n => .tornAt ht ⟨s, rfl, rfl⟩ n

theorem conforms_verifyAndSignCustodyReceived (registry : SessionRegistry)
    (request : ValidateCustodyRequest) :
    Conforms ((files torn).filing (KeyBelongs D₀ torn))
      (fun seen' r => ∀ response, r = .ok response → ∀ D, StoredIn seen' D →
        CustodyBacked registry request response D) seen
      (verifyAndSignCustodyReceived registry request) := by
  refine Conforms.attemptBind (conforms_fetchEthKey _) ?_ ?_ ?_
  · intro seen₁ sk hsk
    refine Conforms.bindLiftResult ?_
    intro _ hsession
    refine Conforms.bindLiftResult ?_
    intro _ hdeposit
    refine Conforms.bindLiftResult ?_
    intro s hcustody
    refine Conforms.bindResult (conforms_writeShare s).remembers ?_
    rintro seen₂ _ ⟨hold, hnew⟩
    refine Conforms.bindLiftResult ?_
    intro signature hsignature
    apply Conforms.pure
    rintro response ⟨⟩ D hD
    obtain ⟨c, hc, hkey⟩ := hsk sk rfl
    have hsaved : savedEthKey D
        (ethPkToHex request.guardianEnclavePublicKey) = some sk := by
      have hfile : D .ethKeys
          (ethPkToHex request.guardianEnclavePublicKey) = some c :=
        hD _ _ (hold _ _ hc)
      rw [savedEthKey, Disk.key, hfile]
      exact hkey
    have hchecked : Checked registry request D sk s :=
      ⟨hsaved, hsession, hdeposit, hcustody⟩
    exact ⟨s, hchecked.accepted hsignature, hD _ _ (hnew rfl)⟩
  · exact fun _ _ _ => Conforms.lift fun _ h =>
      absurd h Outcome.bail_ne_ok
  · exact fun _ _ => Outcome.forall_error

/-- The response is made with what has been found under the name of the public
key share. -/
def ExitSeen (seen : FileKey → Contents → Prop) (req : SignExitRequest)
    (response : SignExitResponse) : Prop :=
  ∃ pkSet c set, req.publicKeySet = .ok pkSet ∧
    seen (.blsKeys, Hex.encode (Blsttc.publicKeyToBytes
      (Blsttc.publicKeyShare pkSet req.guardianIndex.toNat)).toList) c ∧
    c.key.bind Blsttc.secretKeySetFromBytes = some set ∧
    response = exitResponse req set

omit [Ethers] [CvmAgentTypes] [Secp256k1] in
theorem conforms_signVoluntaryExitMessage
    {Belongs : FileKey → Contents → Prop} (req : SignExitRequest) :
    Conforms ((files torn).filing Belongs)
      (fun seen' r => ∀ response, r = .ok response →
        ExitSeen seen' req response) seen
      (signVoluntaryExitMessage req) := by
  simp only [signVoluntaryExitMessage, signVem, fixedVectorFrom_bytes]
  refine Conforms.bindLiftResult ?_
  intro pkSet hpkSet
  refine Conforms.bindResult (conforms_fetchBlsSk _) ?_
  intro seen' set hset
  obtain ⟨c, hc, hkey⟩ := hset set rfl
  rw [strip0xPrefix_encode, strip0xPrefix_encode] at hc
  apply Conforms.pure
  rintro response ⟨⟩
  exact ⟨pkSet, c, set, hpkSet, hc, hkey, rfl⟩

/-- What stands behind a reply. -/
def Backed (seen : FileKey → Contents → Prop) :
    GuardianRequest → GuardianReply → Prop
  | .attestNewEthKeyWithBlockhash random _ _ _ _, .ethKey _ pk =>
      pk = Secp256k1.publicKeyFromSecretKey random ∧
        seen (.ethKeys, ethKeyName random)
          (.text (Hex.encode (Secp256k1.secretKeySerialize random).toList))
  | .verifyAndSignCustodyReceived registry request, .custody response =>
      ∀ D, StoredIn seen D → CustodyBacked registry request response D
  | .signVoluntaryExitMessage req, .exit response => ExitSeen seen req response
  | _, _ => False

theorem conforms_serve (request : GuardianRequest) :
    Conforms ((files torn).filing (KeyBelongs D₀ torn))
      (fun seen' r => ∀ reply, r = .ok reply → Backed seen' request reply)
      seen request.serve := by
  cases request with
  | attestNewEthKeyWithBlockhash random agent block address chain =>
      exact Conforms.mapResult (conforms_attestNewEthKeyWithBlockhash random
        agent block address chain) fun _ _ hout => hout
  | verifyAndSignCustodyReceived registry request =>
      exact Conforms.mapResult (conforms_verifyAndSignCustodyReceived registry
        request) fun _ _ hresponse => hresponse
  | signVoluntaryExitMessage req =>
      exact Conforms.mapResult (conforms_signVoluntaryExitMessage req)
        fun _ _ hresponse => hresponse

end Seen

/-! ## Pools of requests -/

variable {ι : Type} [DecidableEq ι]

/-- A guardian that serves requests, one task for each. -/
abbrev GuardianPool (ι : Type) :=
  Pool FsOp FsOp.Ans (Outcome GuardianReply) Disk ι

/-- All requests have arrived and none has started. -/
def guardianArrived (reqs : ι → GuardianRequest) (D : Disk) :
    GuardianPool ι where
  state := D
  task i := (reqs i).serve.run

/-- `Q` is reached from `P` when the tasks take turns in some order, with
faults that tear a write only if `torn`. -/
def Serves (torn : Prop) (P Q : GuardianPool ι) : Prop :=
  Pool.Reaches (fun _ => fsHandler) (fun _ _ f => TearsOnly torn f) P Q

/-- Task `i` has answered with `reply`. -/
def Answered (P : GuardianPool ι) (i : ι) (reply : GuardianReply) : Prop :=
  P.task i = .ret (.ok reply)

/-- The state of a guardian in the middle of any interleaving of requests:
its key files are well named or left of torn writes, and if writes are atomic
then its exit signatures verify, its approvals are backed by its files, its
keys are stored, and no key file is lost from now on. -/
structure GuardianPoolSafe (torn : Prop) (reqs : ι → GuardianRequest)
    (P : GuardianPool ι) : Prop where
  store : KeyStore torn P.state
  exits : ¬ torn → ∀ i req response,
    reqs i = .signVoluntaryExitMessage req →
    Answered P i (.exit response) → ExitVerifies req response
  custody : ¬ torn → ∀ i registry request response,
    reqs i = .verifyAndSignCustodyReceived registry request →
    Answered P i (.custody response) →
      CustodyBacked registry request response P.state
  keys : ¬ torn → ∀ i random agent block address chain evidence pk,
    reqs i = .attestNewEthKeyWithBlockhash random agent block address chain →
    Answered P i (.ethKey evidence pk) →
      pk = Secp256k1.publicKeyFromSecretKey random ∧
        savedEthKey P.state (ethPkToHex pk) = some random
  kept : ¬ torn → ∀ Q, Serves torn P Q → KeysKept P.state Q.state

omit [Ethers] [CvmAgentTypes] in
/-- What is found in a well-named file signs for its name. -/
theorem exitVerifies_of_exitSeen {D₀ : Disk}
    {seen : FileKey → Contents → Prop} (hlaw : Blsttc.Encodings)
    (hshare : Blsttc.ShareAsKeySet) (hsign : Blsttc.SignVerifies)
    (hbelongs : ∀ k c, seen k c → KeyBelongs D₀ False k c)
    {req : SignExitRequest} {response : SignExitResponse}
    (h : ExitSeen seen req response) : ExitVerifies req response := by
  obtain ⟨pkSet, c, set, hpkSet, hc, hset, rfl⟩ := h
  apply exitVerifies_of_share hlaw hsign hpkSet
  -- the file alone makes a well-named store
  have hstore : KeyStore False (Disk.empty.set .blsKeys (Hex.encode
      (Blsttc.publicKeyToBytes (Blsttc.publicKeyShare pkSet
        req.guardianIndex.toNat)).toList) c) :=
    (keyStore_of_noKeys fun _ => ⟨rfl, rfl⟩).setBls (hbelongs _ _ hc)
  apply hstore.name_of_savedKeySet hshare
  rw [savedKeySet, Disk.key, Disk.set_same]
  exact hset

/-- The tasks file what belongs in the key files that there were in `D`, and
answer with what is backed by what they have seen. -/
def GuardianFiled (D : Disk) (torn : Prop) (reqs : ι → GuardianRequest)
    (P : GuardianPool ι) : Prop :=
  (files torn).FiledPool (KeyBelongs D torn)
    (fun i seen r => ∀ reply, r = .ok reply → Backed seen (reqs i) reply) P

theorem guardianFiled_of_serves {torn : Prop} {D : Disk}
    (hD : KeyStore torn D) {reqs : ι → GuardianRequest} {P : GuardianPool ι}
    (hrun : Serves torn (guardianArrived reqs D) P) :
    GuardianFiled D torn reqs P := by
  have hstart : GuardianFiled D torn reqs (guardianArrived reqs D) :=
    .start (filed_of_keyStore hD) fun i => conforms_serve (reqs i)
  exact (hstart.reaches hrun).1

namespace GuardianFiled

variable {torn : Prop} {D : Disk} {reqs : ι → GuardianRequest}
  {P : GuardianPool ι} {i : ι} {reply : GuardianReply}

omit [DecidableEq ι] in
/-- With atomic writes, what stands behind an answer is stored. -/
theorem backed (h : GuardianFiled D False reqs P) (laws : KeyLaws)
    (hreply : Answered P i reply) :
    ∃ seen, StoredIn seen P.state ∧ Backed seen (reqs i) reply := by
  obtain ⟨seen, hseen, hF⟩ := h.returned hreply
  exact ⟨seen, hseen.stored h.store (determines_keyBelongs laws D),
    hF reply rfl⟩

omit [DecidableEq ι] in
theorem exitVerifies (h : GuardianFiled D False reqs P)
    (hlaw : Blsttc.Encodings) (hshare : Blsttc.ShareAsKeySet)
    (hsign : Blsttc.SignVerifies) {req : SignExitRequest}
    {response : SignExitResponse}
    (hreq : reqs i = .signVoluntaryExitMessage req)
    (hreply : Answered P i (.exit response)) : ExitVerifies req response := by
  obtain ⟨seen, hseen, hF⟩ := h.returned hreply
  have hbacked := hF _ rfl
  rw [hreq] at hbacked
  exact exitVerifies_of_exitSeen hlaw hshare hsign hseen.belongs hbacked

omit [DecidableEq ι] in
theorem custodyBacked (h : GuardianFiled D False reqs P) (laws : KeyLaws)
    {registry : SessionRegistry} {request : ValidateCustodyRequest}
    {response : ValidateCustodyResponse}
    (hreq : reqs i = .verifyAndSignCustodyReceived registry request)
    (hreply : Answered P i (.custody response)) :
    CustodyBacked registry request response P.state := by
  obtain ⟨seen, hstored, hbacked⟩ := h.backed laws hreply
  rw [hreq] at hbacked
  exact hbacked _ hstored

omit [DecidableEq ι] in
theorem savedEthKey_eq (h : GuardianFiled D False reqs P) (laws : KeyLaws)
    {random : EthSecretKey} {agent : CvmAgent} {block chain : UInt64}
    {address : Str} {evidence : AttestationEvidence} {pk : EthPublicKey}
    (hreq : reqs i = .attestNewEthKeyWithBlockhash random agent block address
      chain)
    (hreply : Answered P i (.ethKey evidence pk)) :
    pk = Secp256k1.publicKeyFromSecretKey random ∧
      savedEthKey P.state (ethPkToHex pk) = some random := by
  obtain ⟨seen, hstored, hbacked⟩ := h.backed laws hreply
  rw [hreq] at hbacked
  obtain ⟨rfl, hfile⟩ := hbacked
  refine ⟨rfl, ?_⟩
  have hdisk : P.state .ethKeys (ethKeyName random) = _ := hstored _ _ hfile
  rw [savedEthKey, ethPkToHex_eq, Disk.key]
  change ((P.state .ethKeys (ethKeyName random)).bind _).bind _ = _
  rw [hdisk, Option.bind_some, Contents.key, Hex.decode_encode]
  exact laws.eth.parseSlice random

theorem kept (h : GuardianFiled D False reqs P) (laws : KeyLaws)
    {Q : GuardianPool ι} (hQ : Serves False P Q) : KeysKept P.state Q.state :=
  keysKept_of_grows (h.grows (determines_keyBelongs laws D) hQ)

end GuardianFiled

/-- Whatever requests a guardian serves, in whatever interleaving of their
file operations and with whatever faults, it is safe at every moment. -/
theorem guardian_pool_safe (laws : KeyLaws) (hshare : Blsttc.ShareAsKeySet)
    (hsign : Blsttc.SignVerifies) {torn : Prop} {D : Disk}
    (hD : KeyStore torn D) (reqs : ι → GuardianRequest) {P : GuardianPool ι}
    (hrun : Serves torn (guardianArrived reqs D) P) :
    GuardianPoolSafe torn reqs P := by
  have hfiled := guardianFiled_of_serves hD hrun
  have hatomic : ¬ torn → torn = False := eq_false
  constructor
  · exact keyStore_of_filed hfiled.store
  · intro ht i req response hreq hreply
    rw [hatomic ht] at hfiled
    exact hfiled.exitVerifies laws.bls hshare hsign hreq hreply
  · intro ht i registry request response hreq hreply
    rw [hatomic ht] at hfiled
    exact hfiled.custodyBacked laws hreq hreply
  · intro ht i random agent block address chain evidence pk hreq hreply
    rw [hatomic ht] at hfiled
    exact hfiled.savedEthKey_eq laws hreq hreply
  · intro ht Q hQ
    rw [hatomic ht] at hfiled hQ
    exact hfiled.kept laws hQ

/-! ## Exits of a generated validator -/

/-- Guardian `i` has, at some moment of a run, answered that it takes custody
of the payload for the key `pk`. -/
def HasTakenCustody (p : BlsKeygenPayload) (pk : EthPublicKey)
    (reqs : ι → GuardianRequest) (P : GuardianPool ι) : Prop :=
  ∃ t registry request response,
    reqs t = .verifyAndSignCustodyReceived registry request ∧
      request.keygenPayload = p ∧ request.guardianEnclavePublicKey = pk ∧
      Answered P t (.custody response)

/-- Who has taken custody of a fresh payload holds the share at its place, at
every later moment. -/
theorem holdsShare_of_hasTakenCustody (laws : KeyLaws)
    (hsets : Blsttc.KeySets) (hecies : Secp256k1.Ecies)
    {random : Blsttc.SecretKeySet}
    (hkey : Blsttc.HasPublicKey (Blsttc.publicKeys random))
    {seeds : ℕ → Secp256k1.Seed}
    {guardianPks : List EthPublicKey} (hnodup : guardianPks.Nodup)
    (hsealed : SealedShares random seeds guardianPks)
    {keys : List EncryptedRecipientKeys}
    (hkeys : Encrypted random seeds guardianPks keys)
    {p : BlsKeygenPayload} {wc : Bytes 32} {forkVersion : Version}
    (hp : p.withoutSession = freshPayload random keys wc forkVersion)
    {i : ℕ} (hi : i < guardianPks.length) {D : Disk}
    (hD : KeyStore False D) {reqs : ι → GuardianRequest}
    {P Q : GuardianPool ι} (hrun : Serves False (guardianArrived reqs D) P)
    (hcustody : HasTakenCustody p guardianPks[i] reqs P)
    (hlater : Serves False P Q) :
    HoldsShare Q.state
      (Blsttc.publicKeyShare (Blsttc.publicKeys random) i) := by
  have hdecodes := decodes_of_fresh laws.bls hkey hp
  have hshares := congrArg BlsKeygenPayload.blsEncPrivKeyShares hp
  change p.blsEncPrivKeyShares = _ at hshares
  have hfiled := guardianFiled_of_serves hD hrun
  obtain ⟨t, registry, request, response, hreq, rfl, hpk, hanswer⟩ := hcustody
  obtain ⟨s, haccepted, hfile⟩ := hfiled.custodyBacked laws hreq hanswer
  obtain ⟨sk, hsaved, hverify, -⟩ := haccepted.custody
  -- the key under which it was accepted opens the share at place `i`
  have hsk : Secp256k1.publicKeyFromSecretKey sk = guardianPks[i] := by
    rw [← hpk]
    exact publicKey_of_savedEthKey (keyStore_of_filed hfiled.store) laws.eth
      hsaved
  have hfind := findShare_own laws.bls hsets hecies hnodup hsealed hkeys
    hshares hdecodes.publicKeySet_eq hi hsk
  obtain ⟨pkSet, -, hfound⟩ := verifyCustody_eq_ok.mp hverify
  rw [hfind] at hfound
  obtain rfl := Except.ok.inj hfound
  have hholds : HoldsShare P.state
      (Blsttc.publicKeyShare (Blsttc.publicKeys random) i) :=
    ⟨_, (hsets.publicKeyShare random i).symm, hfile⟩
  exact hholds.of_kept (hfiled.kept laws hlater)

section Exits

variable {F G₁ G₂ GT : Type} [Field F] [AddCommGroup G₁] [Module F G₁]
  [AddCommGroup G₂] [Module F G₂] [AddCommGroup GT] [Module F GT]

/-- A validator key is generated for guardians with different keys, with no
more needed shares than guardians.  Each guardian starts with well-named key
files and serves any requests in any interleaving whose writes are atomic, and
at some moment it has taken custody.  Then at every later moment of every
guardian they can exit the validator together. -/
theorem concurrent_guardians_exit (G : Blsttc.Groups F G₁ G₂ GT)
    (laws : KeyLaws) (hhex : Blsttc.HexOfBytes)
    (hshare : Blsttc.ShareAsKeySet) (hsets : Blsttc.KeySets)
    (hecies : Secp256k1.Ecies)
    {random : Blsttc.SecretKeySet} {seeds : ℕ → Secp256k1.Seed}
    {guardianPks : List EthPublicKey} {threshold : UInt64}
    (hdrawn : Drawn random threshold) (hnodup : guardianPks.Nodup)
    (hthreshold : threshold.toNat ≤ guardianPks.length)
    (hlength : guardianPks.length < 2 ^ 64)
    (hsealed : SealedShares random seeds guardianPks)
    {agent : CvmAgent} {attest : Bool} {wc : Bytes 32} {forkVersion : Version}
    {faults : List Fault} {V : Disk} {p : BlsKeygenPayload}
    (hpayload : (exec (attestFreshBlsKey random seeds agent wc guardianPks
      threshold forkVersion attest) (faults, V)).1 = .ok p)
    {D : ℕ → Disk} (hD : ∀ i, KeyStore False (D i))
    {reqs : ℕ → ι → GuardianRequest} {P Q : ℕ → GuardianPool ι}
    (hrun : ∀ i, Serves False (guardianArrived (reqs i) (D i)) (P i))
    (hcustody : ∀ i (hi : i < guardianPks.length),
      HasTakenCustody p guardianPks[i] (reqs i) (P i))
    (hlater : ∀ i, Serves False (P i) (Q i))
    (validatorIndex : ValidatorIndex) (forkInfo : ForkInfo) :
    ExitsTogether p (Blsttc.publicKeys random) (fun i => (Q i).state)
      validatorIndex forkInfo := by
  obtain ⟨keys, hkeys, hp⟩ := fresh_of_attestFreshBlsKey hpayload
  have hdecodes := decodes_of_fresh laws.bls hdrawn.hasPublicKey hp
  have hshares := congrArg BlsKeygenPayload.blsEncPrivKeyShares hp
  change p.blsEncPrivKeyShares = _ at hshares
  have hcount : p.blsEncPrivKeyShares.length = guardianPks.length := by
    rw [hshares, freshPayload, List.length_map, hkeys.length_eq]
  have hname := congrArg BlsKeygenPayload.blsPubKey hp
  change p.blsPubKey = _ at hname
  have hpubKey : strip0xPrefix p.blsPubKey =
      Hex.encode (pubKeyBytes (Blsttc.publicKeys random)).toList := by
    rw [hname, freshPayload, hhex, strip0xPrefix_encode, pubKeyBytes]
  have hholds : ∀ i < p.blsEncPrivKeyShares.length,
      HoldsShare (Q i).state
        (Blsttc.publicKeyShare (Blsttc.publicKeys random) i) := by
    intro i hi
    rw [hcount] at hi
    exact holdsShare_of_hasTakenCustody laws hsets hecies hdrawn.hasPublicKey
      hnodup hsealed hkeys hp hi (hD i) (hrun i) (hcustody i hi) (hlater i)
  refine (exitsTogether_of_holdsShare G laws.bls hshare
    hdecodes.publicKeySet_eq (by rwa [hcount]) (fun _ => hpubKey) hholds
    validatorIndex forkInfo).mpr ?_
  have hdegree := hdrawn.toNat_eq
  rw [hsets.threshold _ hdrawn.hasPublicKey, hcount]
  omega

end Exits

end Guardian

section SamplePool

open Exponent

/-- A new ETH key, a custody request for it and an exit request. -/
def sampleRequests : Fin 3 → GuardianRequest
  | 0 => .attestNewEthKeyWithBlockhash (guardianKey 1) ⟨true, fun _ => none⟩ 0
      [] 0
  | 1 => .verifyAndSignCustodyReceived noRegistry
      (custodyRequest (payloadFor (line 3 5) [guardianKey 1]) (guardianKey 1))
  | 2 => .signVoluntaryExitMessage sampleExit

/-- The custody request reads the key before the key generation returns, and
the exit is signed before the custody request returns. -/
def sampleTurns : List (Fin 3 × Fault) :=
  [(0, .none), (0, .none), (1, .none), (1, .none), (1, .none), (2, .none)]

def samplePool : GuardianPool (Fin 3) :=
  (guardianArrived sampleRequests Disk.empty).runSchedule
    (fun _ => fsHandler) sampleTurns

/-- A schedule without torn writes. -/
theorem serves_runSchedule {ι : Type} [DecidableEq ι]
    {schedule : List (ι × Fault)} (h : ∀ e ∈ schedule, e.2.tears = false)
    (P : GuardianPool ι) :
    Serves False P (P.runSchedule (fun _ => fsHandler) schedule) :=
  Pool.reaches_runSchedule
    (fun e he _ => tearsOnly_false.mpr (h e he)) P

theorem guardian_pool_safe_samplePool :
    ((samplePool.task 2).result?.bind Except.toOption).isSome = true ∧
      GuardianPoolSafe False sampleRequests samplePool :=
  ⟨by decide +kernel,
    guardian_pool_safe keyLaws shareAsKeySet signVerifies
      (keyStore_of_noKeys noKeys_empty) sampleRequests
      (serves_runSchedule (by decide) _)⟩

/-- A payload for two guardians. -/
def issuedPayload : Option BlsKeygenPayload :=
  (exec (attestFreshBlsKey (line 3 5) (fun _ => ()) ⟨true, fun _ => none⟩
    (List.Vector.replicate 32 0) [sampleKeys 0, sampleKeys 1] 2
    GENESIS_FORK_VERSION false) ([], Disk.empty)).1.toOption

theorem isSome_issuedPayload : issuedPayload.isSome = true := by
  decide +kernel

/-- The requests of each guardian: a key rotation and a custody request. -/
def rotatesAndTakes (p : BlsKeygenPayload) (i : ℕ) : Bool → GuardianRequest
  | false => .attestNewEthKeyWithBlockhash (sampleKeys (i + 2))
      ⟨true, fun _ => none⟩ 0 [] 0
  | true => .verifyAndSignCustodyReceived noRegistry
      (custodyRequest p (sampleKeys i))

/-- Each guardian has taken custody in the middle of the key rotation. -/
def servedCustody (p : BlsKeygenPayload) (i : ℕ) : GuardianPool Bool :=
  (guardianArrived (rotatesAndTakes p i)
      (setEthKey Disk.empty (sampleKeys i))).runSchedule (fun _ => fsHandler)
    [(true, .none), (false, .none), (true, .none), (true, .none)]

/-- And then it has rotated its key. -/
def rotatedKey (p : BlsKeygenPayload) (i : ℕ) : GuardianPool Bool :=
  (servedCustody p i).runSchedule (fun _ => fsHandler) [(false, .none)]

/-- The response to a custody request that has been served. -/
def custodyResponse? (P : GuardianPool Bool) :
    Option ValidateCustodyResponse :=
  ((P.task true).result?.bind Except.toOption).bind fun
    | .custody response => some response
    | _ => none

theorem hasTakenCustody_of_response {p : BlsKeygenPayload} {i : ℕ}
    {P : GuardianPool Bool} (h : (custodyResponse? P).isSome = true) :
    HasTakenCustody p (sampleKeys i) (rotatesAndTakes p i) P := by
  obtain ⟨response, hsome⟩ := Option.isSome_iff_exists.mp h
  obtain ⟨reply, hreply, hcustody⟩ := Option.bind_eq_some_iff.mp hsome
  obtain ⟨r, hr, hok⟩ := Option.bind_eq_some_iff.mp hreply
  refine ⟨true, noRegistry, custodyRequest p (sampleKeys i), response, rfl,
    rfl, rfl, ?_⟩
  rw [Answered, Program.eq_ret_of_result? hr, Outcome.toOption_eq_some.mp hok]
  cases reply with
  | custody response' =>
      obtain rfl := Option.some.inj hcustody
      rfl
  | ethKey evidence pk => cases hcustody
  | exit response' => cases hcustody

theorem responds_servedCustody : ∀ i < 2, (custodyResponse? (servedCustody
    (issuedPayload.get isSome_issuedPayload) i)).isSome = true := by
  decide +kernel

theorem concurrent_guardians_exit_issued :
    ExitsTogether (issuedPayload.get isSome_issuedPayload) (line 3 5)
      (fun i => (rotatedKey (issuedPayload.get isSome_issuedPayload)
        i).state) 7 genesisForkInfo := by
  have hpayload := Outcome.toOption_eq_some.mp
    (Option.some_get isSome_issuedPayload).symm
  have hdrawn : Drawn (line 3 5) 2 :=
    ⟨by decide, by decide, by decide⟩
  have hne : sampleKeys 0 ≠ sampleKeys 1 := by decide
  refine concurrent_guardians_exit groups keyLaws hexOfBytes shareAsKeySet
    keySets ecies hdrawn
    (List.nodup_cons.mpr ⟨by simpa using hne, List.nodup_singleton _⟩)
    (by decide) (by decide) (sealedShares _ _ _) hpayload
    (fun i => (keyStore_of_noKeys noKeys_empty).setEth
      (.inl ⟨sampleKeys i, rfl, rfl⟩))
    (fun i => serves_runSchedule (by decide) _) ?_
    (fun i => serves_runSchedule (by decide) _) 7 genesisForkInfo
  intro i hi
  have hlength : i < 2 := hi
  have hkey : [sampleKeys 0, sampleKeys 1][i] = sampleKeys i := by
    have hcases : i = 0 ∨ i = 1 := by omega
    rcases hcases with rfl | rfl <;> rfl
  rw [hkey]
  exact hasTakenCustody_of_response (responds_servedCustody i hlength)

end SamplePool

end ValidatorGuardian
