import ValidatorGuardian.Custody.Payload

/-!
# The key store of a guardian

Every key file is named by the hex of the public key of the secret it holds.
Each operation of the guardian keeps this invariant, for any payload, and keeps
the files there are.  So a share that is found under the hex of a public key
share signs for that share.
-/

namespace ValidatorGuardian

/-! ## The invariant -/

/-- Both key directories are empty. -/
def NoKeys (D : Disk) : Prop :=
  ∀ name, D .blsKeys name = none ∧ D .ethKeys name = none

/-- No key file of `D` is removed or changed. -/
def KeysKept (D D' : Disk) : Prop :=
  ∀ name c, (D .blsKeys name = some c → D' .blsKeys name = some c) ∧
    (D .ethKeys name = some c → D' .ethKeys name = some c)

theorem KeysKept.refl (D : Disk) : KeysKept D D :=
  fun _ _ => ⟨id, id⟩

theorem KeysKept.trans {D D' D'' : Disk} (h : KeysKept D D')
    (h' : KeysKept D' D'') : KeysKept D D'' :=
  fun name c => ⟨fun hc => (h' name c).1 ((h name c).1 hc),
    fun hc => (h' name c).2 ((h name c).2 hc)⟩

section Invariant

variable [Blsttc] [Secp256k1]

/-- The name of the file of a share: the hex of its public key. -/
def shareName (s : Blsttc.SecretKeyShare) : Str :=
  Hex.encode (Blsttc.publicKeyToBytes (Blsttc.derivePublicKey s)).toList

/-- The name of the file of an ETH key: the hex of its compressed public
key. -/
def ethKeyName (sk : EthSecretKey) : Str :=
  Hex.encode (Secp256k1.publicKeySerializeCompressed
    (Secp256k1.publicKeyFromSecretKey sk)).toList

/-- The file of a share. -/
def BlsKeyFile (name : Str) (c : Contents) : Prop :=
  ∃ s : Blsttc.SecretKeyShare, name = shareName s ∧
    c = .text (Hex.encode (Blsttc.secretKeyToBytes s).toList)

/-- The file of an ETH key. -/
def EthKeyFile (name : Str) (c : Contents) : Prop :=
  ∃ sk : EthSecretKey, name = ethKeyName sk ∧
    c = .text (Hex.encode (Secp256k1.secretKeySerialize sk).toList)

/-- Store a share. -/
def setShare (D : Disk) (s : Blsttc.SecretKeyShare) : Disk :=
  D.set .blsKeys (shareName s)
    (.text (Hex.encode (Blsttc.secretKeyToBytes s).toList))

/-- What is left of a share whose write is torn. -/
def tearShare (D : Disk) (s : Blsttc.SecretKeyShare) (n : ℕ) : Disk :=
  D.set .blsKeys (shareName s)
    ((Contents.text (Hex.encode (Blsttc.secretKeyToBytes s).toList)).tornAt n)

/-- What is left of an ETH key whose write is torn. -/
def tearEthKey (D : Disk) (sk : EthSecretKey) (n : ℕ) : Disk :=
  D.set .ethKeys (ethKeyName sk) ((Contents.text
    (Hex.encode (Secp256k1.secretKeySerialize sk).toList)).tornAt n)

/-- Store an ETH key. -/
def setEthKey (D : Disk) (sk : EthSecretKey) : Disk :=
  D.set .ethKeys (ethKeyName sk)
    (.text (Hex.encode (Secp256k1.secretKeySerialize sk).toList))

/-- Every key file is well named; if writes may be torn, it may instead be
what is left of such a file. -/
structure KeyStore (torn : Prop) (D : Disk) : Prop where
  bls : ∀ name c, D .blsKeys name = some c →
    OrTorn torn (BlsKeyFile name) c
  eth : ∀ name c, D .ethKeys name = some c →
    OrTorn torn (EthKeyFile name) c

/-- The laws under which a public key belongs to one secret. -/
structure KeyLaws : Prop where
  bls : Blsttc.Encodings
  blsSecret : Blsttc.PublicDeterminesSecret
  eth : Secp256k1.Encodings
  ethSecret : Secp256k1.PublicDeterminesSecret

theorem keyStore_of_noKeys {torn : Prop} {D : Disk} (h : NoKeys D) :
    KeyStore torn D := by
  constructor
  · intro name c hc
    rw [(h name).1] at hc
    cases hc
  · intro name c hc
    rw [(h name).2] at hc
    cases hc

namespace KeyStore

variable {torn : Prop} {D : Disk} {name : Str} {c : Contents}

theorem setBls (h : KeyStore torn D)
    (hc : OrTorn torn (BlsKeyFile name) c) :
    KeyStore torn (D.set .blsKeys name c) := by
  constructor
  · intro n c' hn
    rcases Disk.set_cases hn with ⟨-, rfl, rfl⟩ | hold
    · exact hc
    · exact h.bls n c' hold
  · intro n c' hn
    rw [Disk.set_of_ne (by simp)] at hn
    exact h.eth n c' hn

theorem setEth (h : KeyStore torn D)
    (hc : OrTorn torn (EthKeyFile name) c) :
    KeyStore torn (D.set .ethKeys name c) := by
  constructor
  · intro n c' hn
    rw [Disk.set_of_ne (by simp)] at hn
    exact h.bls n c' hn
  · intro n c' hn
    rcases Disk.set_cases hn with ⟨-, rfl, rfl⟩ | hold
    · exact hc
    · exact h.eth n c' hold

/-- A share replaces a file of the same name by the same contents. -/
theorem kept_setShare (laws : KeyLaws) (h : KeyStore False D)
    (s : Blsttc.SecretKeyShare) : KeysKept D (setShare D s) := by
  intro n c'
  refine ⟨fun hn => ?_, fun hn => by rwa [setShare, Disk.set_of_ne (by simp)]⟩
  by_cases hname : n = shareName s
  · subst hname
    obtain ⟨s', hs', rfl⟩ := (h.bls _ c' hn).of_not id
    have hpk := Hex.encode_injective hs'
    have hsecret : s = s' := laws.blsSecret
      (laws.bls.publicKeyToBytes_injective
        (List.Vector.toList_injective hpk))
    rw [setShare, Disk.set_same, hsecret]
  · rwa [setShare, Disk.set_of_ne (by simp [hname])]

theorem kept_setEthKey (laws : KeyLaws) (h : KeyStore False D)
    (sk : EthSecretKey) : KeysKept D (setEthKey D sk) := by
  intro n c'
  refine ⟨fun hn => by rwa [setEthKey, Disk.set_of_ne (by simp)],
    fun hn => ?_⟩
  by_cases hname : n = ethKeyName sk
  · subst hname
    obtain ⟨sk', hsk', rfl⟩ := (h.eth _ c' hn).of_not id
    have hpk := Hex.encode_injective hsk'
    have hsecret : sk = sk' := laws.ethSecret
      (laws.eth.compressed_injective (List.Vector.toList_injective hpk))
    rw [setEthKey, Disk.set_same, hsecret]
  · rwa [setEthKey, Disk.set_of_ne (by simp [hname])]

/-- A readable ETH key is found under the hex of its public key: what is left
of a key file by a torn write has too few bytes for a key. -/
theorem name_of_savedEthKey (h : KeyStore torn D)
    (hlaw : Secp256k1.Encodings) {sk : EthSecretKey}
    (hsk : savedEthKey D name = some sk) : name = ethKeyName sk := by
  obtain ⟨bs, hkey, hparse⟩ := Option.bind_eq_some_iff.mp hsk
  obtain ⟨c, hfile, hbs⟩ := Option.bind_eq_some_iff.mp hkey
  rcases h.eth name c hfile with
    ⟨sk', hname, rfl⟩ | ⟨-, _, n, ⟨sk', -, rfl⟩, rfl⟩
  · simp only [Contents.key, Hex.decode_encode, Option.some.injEq] at hbs
    rw [← hbs, hlaw.parseSlice] at hparse
    rw [hname, Option.some.inj hparse]
  · have hshort := length_lt_of_key_tornAt (by simp) hbs
    obtain ⟨bytes, hbytes, -⟩ := Option.bind_eq_some_iff.mp hparse
    rw [toArray?_eq_some.mp hbytes] at hshort
    simp at hshort

omit [Blsttc] in
theorem savedEthKey_setEthKey (hlaw : Secp256k1.Encodings) (D : Disk)
    (sk : EthSecretKey) :
    savedEthKey (setEthKey D sk)
      (ethPkToHex (Secp256k1.publicKeyFromSecretKey sk)) = some sk := by
  rw [ethPkToHex_eq]
  change ((setEthKey D sk).key .ethKeys (ethKeyName sk)).bind _ = some sk
  rw [Disk.key, setEthKey, Disk.set_same, Option.bind_some, Contents.key,
    Hex.decode_encode]
  exact hlaw.parseSlice sk

/-- A share read back as a key set is found under the hex of its public
key. -/
theorem name_of_savedKeySet (h : KeyStore False D)
    (hlaw : Blsttc.ShareAsKeySet) {set : Blsttc.SecretKeySet}
    (hset : savedKeySet D name = some set) :
    name = shareName (Blsttc.secretKey set) := by
  obtain ⟨bs, hkey, hparse⟩ := Option.bind_eq_some_iff.mp hset
  obtain ⟨c, hfile, hbs⟩ := Option.bind_eq_some_iff.mp hkey
  obtain ⟨s, hname, rfl⟩ := (h.bls name c hfile).of_not id
  simp only [Contents.key, Hex.decode_encode, Option.some.injEq] at hbs
  obtain ⟨set', hset', hsecret⟩ := hlaw s
  rw [← hbs, hset'] at hparse
  obtain rfl := Option.some.inj hparse
  rw [hname, hsecret]

end KeyStore

end Invariant

/-! ## Runs -/

section Guardian

variable [Blsttc] [Secp256k1] [Ethers] [CvmAgentTypes] [Hashing]
  [Eth2TreeHash]

/-- An operation of the guardian, with the faults that happen during it and
the environment it meets. -/
inductive GuardianOp where
  | attestNewEthKeyWithBlockhash (faults : List Fault)
      (random : EthSecretKey) (agent : CvmAgent) (blockNumber : UInt64)
      (guardianModuleAddress : Str) (chainId : UInt64)
  | verifyAndSignCustodyReceived (faults : List Fault)
      (registry : SessionRegistry) (request : ValidateCustodyRequest)
  | signVoluntaryExitMessage (faults : List Fault) (req : SignExitRequest)

namespace GuardianOp

def faults : GuardianOp → List Fault
  | attestNewEthKeyWithBlockhash faults _ _ _ _ _
  | verifyAndSignCustodyReceived faults _ _
  | signVoluntaryExitMessage faults _ => faults

/-- The files after an operation, whether it succeeds or not. -/
def run (D : Disk) : GuardianOp → Disk
  | attestNewEthKeyWithBlockhash faults random agent block address chain =>
      (exec (ValidatorGuardian.attestNewEthKeyWithBlockhash random agent block
        address chain) (faults, D)).2.2
  | verifyAndSignCustodyReceived faults registry request =>
      (exec (ValidatorGuardian.verifyAndSignCustodyReceived registry request)
        (faults, D)).2.2
  | signVoluntaryExitMessage faults req =>
      (exec (ValidatorGuardian.signVoluntaryExitMessage req)
        (faults, D)).2.2

end GuardianOp

def runGuardian (D : Disk) (ops : List GuardianOp) : Disk :=
  ops.foldl GuardianOp.run D

/-! ## The operations -/

/-! ### Custody requests -/

/-- The session check of a request. -/
def sessionCheck (registry : SessionRegistry)
    (request : ValidateCustodyRequest) : Outcome Unit :=
  if request.verifySession then
    verifySessionEvidence registry request.keygenPayload request.workloadId
  else .ok ()

/-- What a request has passed when its share is written. -/
structure Checked (registry : SessionRegistry)
    (request : ValidateCustodyRequest) (D : Disk) (sk : EthSecretKey)
    (skShare : Blsttc.SecretKeyShare) : Prop where
  key : savedEthKey D (ethPkToHex request.guardianEnclavePublicKey) = some sk
  session : sessionCheck registry request = .ok ()
  deposit : verifyDepositMessage request.keygenPayload = .ok ()
  custody : verifyCustody request.keygenPayload sk = .ok skShare

/-- A check that fails before anything is written. -/
inductive CheckFails (registry : SessionRegistry)
    (request : ValidateCustodyRequest) (D : Disk) : Failure → Prop where
  | key : CheckFails registry request D
      (.err (.text "Could not fetch guardian enclave public key"))
  | session {sk : EthSecretKey} {f : Failure}
      (hkey : savedEthKey D
        (ethPkToHex request.guardianEnclavePublicKey) = some sk)
      (hsession : sessionCheck registry request = .error f) :
      CheckFails registry request D f
  | deposit {sk : EthSecretKey} {f : Failure}
      (hkey : savedEthKey D
        (ethPkToHex request.guardianEnclavePublicKey) = some sk)
      (hsession : sessionCheck registry request = .ok ())
      (hdeposit : verifyDepositMessage request.keygenPayload = .error f) :
      CheckFails registry request D f
  | custody {sk : EthSecretKey} {f : Failure}
      (hdeposit : verifyDepositMessage request.keygenPayload = .ok ())
      (hcustody : verifyCustody request.keygenPayload sk = .error f) :
      CheckFails registry request D f

/-- The response with the signature of the guardian. -/
def custodyResponse (request : ValidateCustodyRequest) (signature : Str) :
    ValidateCustodyResponse where
  enclaveSignature := signature
  blsPubKey := request.keygenPayload.blsPubKey
  withdrawalCredentials := request.keygenPayload.withdrawalCredentials
  depositSignature := request.keygenPayload.signature
  depositDataRoot := request.keygenPayload.depositDataRoot

omit [Secp256k1] [Ethers] [CvmAgentTypes] [Hashing] [Eth2TreeHash] in
/-- The write of a share. -/
theorem Triple.writeShare {Ok : Fault → Prop} {D : Disk}
    {s : Blsttc.SecretKeyShare} {Q : Outcome Unit → Disk → Prop}
    (hdefault : Ok default) (hok : Q (.ok ()) (setShare D s))
    (hfails : ∀ e, Q (.error (.err e)) D)
    (htorn : ∀ n, Ok (.torn n) →
      Q (.error (.err keyWriteError)) (tearShare D s n)) :
    Triple Ok (· = D)
      (writeBlsKey
        (Hex.encode
          (Blsttc.publicKeyToBytes (Blsttc.derivePublicKey s)).toList)
        (Hex.encode (Blsttc.secretKeyToBytes s).toList)) Q := by
  rw [writeBlsKey, strip0xPrefix_encode, strip0xPrefix_encode]
  refine Triple.writeFileIn_reports hdefault ?_ ?_ ?_ ?_
  · rintro D' rfl
    exact hok
  · rintro D' rfl
    exact hfails _
  · rintro D' rfl
    exact hfails _
  · rintro n ht D' rfl
    exact htorn n ht

/-- What a custody request can do: fail in a check or in the write and change
nothing, tear the file of the share, or store the share and end as the approval
ends. -/
theorem Triple.verifyAndSignCustodyReceived {Ok : Fault → Prop} {D : Disk}
    {registry : SessionRegistry} {request : ValidateCustodyRequest}
    {Q : Outcome ValidateCustodyResponse → Disk → Prop}
    (hdefault : Ok default)
    (hcheck : ∀ f, CheckFails registry request D f → Q (.error f) D)
    (hwrite : ∀ e sk s, Checked registry request D sk s →
      Q (.error (.err e)) D)
    (htorn : ∀ n, Ok (.torn n) → ∀ sk s, Checked registry request D sk s →
      Q (.error (.err keyWriteError)) (tearShare D s n))
    (happroval : ∀ sk s, Checked registry request D sk s →
      Q ((approveCustody request.keygenPayload sk
        request.validatorIndex).map (custodyResponse request))
        (setShare D s)) :
    Triple Ok (· = D)
      (ValidatorGuardian.verifyAndSignCustodyReceived registry request) Q := by
  refine (query_fetchEthKey_ethPkToHex _).attemptBind ?_ ?_ ?_
  · intro sk
    refine Triple.weaken (Triple.assume (P := (· = D)) (p := savedEthKey D
      (ethPkToHex request.guardianEnclavePublicKey) = some sk)
      fun hkey => ?_) ?_ fun _ _ h => h
    · refine Triple.bindLift ?_ (by
        rintro f D' hf rfl
        exact hcheck f (.session hkey hf))
      intro _ hsession
      refine Triple.bindLift ?_ (by
        rintro f D' hf rfl
        exact hcheck f (.deposit hkey hsession hf))
      intro _ hdeposit
      refine Triple.bindLift ?_ (by
        rintro f D' hf rfl
        exact hcheck f (.custody hdeposit hf))
      intro s hcustody
      have hchecked : Checked registry request D sk s :=
        ⟨hkey, hsession, hdeposit, hcustody⟩
      have hresult := happroval sk s hchecked
      refine Triple.bind (Q := fun r D' =>
          r = .ok () ∧ D' = setShare D s ∨
            ∃ f, r = .error f ∧ Q (.error f) D')
        (Triple.writeShare hdefault (.inl ⟨rfl, rfl⟩)
          (fun e => .inr ⟨_, rfl, hwrite e sk s hchecked⟩)
          (fun n ht => .inr ⟨_, rfl, htorn n ht sk s hchecked⟩)) ?_ ?_
      · intro _
        refine Triple.bindLift ?_ ?_
        · intro signature hsignature
          rw [hsignature] at hresult
          apply Triple.pure
          rintro D' (⟨-, rfl⟩ | ⟨f, hf, -⟩)
          · exact hresult
          · cases hf
        · rintro f D' hf (⟨-, rfl⟩ | ⟨_, hwritten, -⟩)
          · rw [hf] at hresult
            exact hresult
          · cases hwritten
      · rintro f D' (⟨hwritten, -⟩ | ⟨_, ⟨⟩, h⟩)
        · cases hwritten
        · exact h
    · rintro D' ⟨rfl, hkey⟩
      exact ⟨rfl, lookupEthKey_eq_ok.mp hkey⟩
  · intro e
    refine Triple.lift ?_
    rintro D' rfl
    exact hcheck _ .key
  · exact fun D' _ hpanic => absurd hpanic (lookupEthKey_ne_panic D' _)

/-- An accepted request: what was checked, the share that was found, and the
response. -/
structure Accepted (registry : SessionRegistry)
    (request : ValidateCustodyRequest) (D : Disk)
    (skShare : Blsttc.SecretKeyShare)
    (response : ValidateCustodyResponse) : Prop where
  custody : ∃ sk,
    savedEthKey D (ethPkToHex request.guardianEnclavePublicKey) = some sk ∧
      verifyCustody request.keygenPayload sk = .ok skShare ∧
      approveCustody request.keygenPayload sk request.validatorIndex =
        .ok response.enclaveSignature
  session : request.verifySession = true →
    verifySessionEvidence registry request.keygenPayload
      request.workloadId = .ok ()
  deposit : verifyDepositMessage request.keygenPayload = .ok ()
  blsPubKey : response.blsPubKey = request.keygenPayload.blsPubKey
  withdrawalCredentials : response.withdrawalCredentials =
    request.keygenPayload.withdrawalCredentials
  depositSignature :
    response.depositSignature = request.keygenPayload.signature
  depositDataRoot :
    response.depositDataRoot = request.keygenPayload.depositDataRoot

section Checked

variable {registry : SessionRegistry} {request : ValidateCustodyRequest}
  {D : Disk} {sk : EthSecretKey} {s : Blsttc.SecretKeyShare}

omit [Ethers] in
theorem Checked.verified (h : Checked registry request D sk s)
    (hverify : request.verifySession = true) :
    verifySessionEvidence registry request.keygenPayload
      request.workloadId = .ok () := by
  have hsession := h.session
  rw [sessionCheck, if_pos hverify] at hsession
  exact hsession

/-- A request that has passed the checks and is approved is accepted. -/
theorem Checked.accepted {signature : Str}
    (h : Checked registry request D sk s)
    (hsignature : approveCustody request.keygenPayload sk
      request.validatorIndex = .ok signature) :
    Accepted registry request D s (custodyResponse request signature) :=
  ⟨⟨sk, h.key, h.custody, hsignature⟩, h.verified, h.deposit, rfl, rfl, rfl,
    rfl⟩

end Checked

/-- A custody request changes nothing, or stores the share it found, or tears
the file of that share.  If it is accepted the share is stored. -/
theorem triple_verifyAndSignCustodyReceived {torn : Prop} {D : Disk}
    (registry : SessionRegistry) (request : ValidateCustodyRequest) :
    Triple (TearsOnly torn) (· = D)
      (verifyAndSignCustodyReceived registry request)
      fun r D' =>
        (D' = D ∨ (∃ s, D' = setShare D s) ∨
          torn ∧ ∃ s n, D' = tearShare D s n) ∧
        ∀ response, r = .ok response → ∃ s,
          Accepted registry request D s response ∧ D' = setShare D s := by
  refine Triple.verifyAndSignCustodyReceived nofun ?_ ?_ ?_ ?_
  · exact fun f _ => ⟨.inl rfl, by simp⟩
  · exact fun e sk s _ => ⟨.inl rfl, by simp⟩
  · exact fun n ht sk s _ => ⟨.inr (.inr ⟨ht rfl, s, n, rfl⟩), by simp⟩
  · intro sk s hchecked
    refine ⟨.inr (.inl ⟨s, rfl⟩), ?_⟩
    intro response hresponse
    obtain ⟨signature, hsignature, rfl⟩ :=
      Outcome.map_eq_ok.mp hresponse
    exact ⟨s, hchecked.accepted hsignature, rfl⟩

/-- An accepted request passed every check, and its share is stored. -/
theorem accepted_of_exec {D : Disk} {faults : List Fault}
    {registry : SessionRegistry} {request : ValidateCustodyRequest}
    {response : ValidateCustodyResponse}
    (hexec : (exec (verifyAndSignCustodyReceived registry request)
      (faults, D)).1 = .ok response) :
    ∃ s, Accepted registry request D s response ∧
      (exec (verifyAndSignCustodyReceived registry request)
        (faults, D)).2.2 = setShare D s := by
  have hfaults : ∀ f ∈ faults, TearsOnly True f := fun _ _ _ => trivial
  have hspec := (triple_verifyAndSignCustodyReceived (D := D) registry
    request).exec_spec hfaults rfl
  exact hspec.2 response hexec

omit [Blsttc] [CvmAgentTypes] [Hashing] [Eth2TreeHash] in
theorem triple_attestNewEthKeyWithBlockhash {torn : Prop} {D : Disk}
    (random : EthSecretKey) (agent : CvmAgent) (blockNumber : UInt64)
    (address : Str) (chainId : UInt64) :
    Triple (TearsOnly torn) (· = D)
      (attestNewEthKeyWithBlockhash random agent blockNumber address chainId)
      fun _ D' => D' = D ∨ D' = setEthKey D random ∨
        torn ∧ ∃ n, D' = tearEthKey D random n := by
  refine Triple.bind (Triple.ethKeyGen nofun ?_ ?_ ?_) ?_
    (fun _ _ hD' => hD')
  · exact fun D' hD' => .inl hD'
  · rintro D' rfl
    exact .inr (.inl rfl)
  · rintro n ht D' rfl
    exact .inr (.inr ⟨ht rfl, n, rfl⟩)
  · intro pk
    refine Triple.bindLift (fun _ _ => ?_) (fun _ _ _ hD' => hD')
    exact Triple.bindLift (fun _ _ => Triple.pure fun _ hD' => hD')
      (fun _ _ _ hD' => hD')

/-- The signing root of a voluntary exit at epoch 0. -/
def exitRoot (validatorIndex : ValidatorIndex) (forkInfo : ForkInfo) : Root :=
  computeSigningRoot
    { epoch := 0, validatorIndex := validatorIndex : VoluntaryExit }
    (getDomain forkInfo DOMAIN_VOLUNTARY_EXIT (some 0))

/-- The response to an exit request when `set` is stored for the share. -/
def exitResponse (req : SignExitRequest) (set : Blsttc.SecretKeySet) :
    SignExitResponse where
  signature := Hex.encode (Blsttc.signatureToBytes
    (Blsttc.sign (Blsttc.secretKey set)
      (exitRoot req.validatorIndex req.forkInfo).toList)).toList
  message := Hex.encode (exitRoot req.validatorIndex req.forkInfo).toList

omit [Secp256k1] [Ethers] [CvmAgentTypes] in
/-- An exit request looks up the share of the public key share it names. -/
theorem query_signVoluntaryExitMessage (req : SignExitRequest) :
    Query (signVoluntaryExitMessage req) fun D =>
      req.publicKeySet >>= fun pkSet =>
        (lookupKeySet D (Hex.encode (Blsttc.publicKeyToBytes
          (Blsttc.publicKeyShare pkSet
            req.guardianIndex.toNat)).toList)).map (exitResponse req) := by
  simp only [signVoluntaryExitMessage, signVem, fixedVectorFrom_bytes]
  refine (Query.lift req.publicKeySet).bind fun pkSet => ?_
  have hfetch := query_fetchBlsSk (Hex.encode (Blsttc.publicKeyToBytes
    (Blsttc.publicKeyShare pkSet req.guardianIndex.toNat)).toList)
  simp only [strip0xPrefix_encode] at hfetch
  exact hfetch.map (exitResponse req)

/-! ## Runs keep the invariant -/

/-- What one operation can do to the files. -/
theorem GuardianOp.run_cases {torn : Prop} {D : Disk} {op : GuardianOp}
    (hfaults : ∀ f ∈ op.faults, TearsOnly torn f) :
    op.run D = D ∨ (∃ s, op.run D = setShare D s) ∨
      (∃ sk, op.run D = setEthKey D sk) ∨
      torn ∧ ((∃ s n, op.run D = tearShare D s n) ∨
        ∃ sk n, op.run D = tearEthKey D sk n) := by
  cases op with
  | attestNewEthKeyWithBlockhash faults random agent block address chain =>
      have hspec := (triple_attestNewEthKeyWithBlockhash (D := D) random agent
        block address chain).exec_spec hfaults rfl
      rcases hspec with h | h | ⟨ht, n, h⟩
      · exact .inl h
      · exact .inr (.inr (.inl ⟨random, h⟩))
      · exact .inr (.inr (.inr ⟨ht, .inr ⟨random, n, h⟩⟩))
  | verifyAndSignCustodyReceived faults registry request =>
      have hspec := (triple_verifyAndSignCustodyReceived (D := D) registry
        request).exec_spec hfaults rfl
      rcases hspec.1 with h | ⟨s, h⟩ | ⟨ht, h⟩
      · exact .inl h
      · exact .inr (.inl ⟨s, h⟩)
      · exact .inr (.inr (.inr ⟨ht, .inl h⟩))
  | signVoluntaryExitMessage faults req =>
      exact .inl ((query_signVoluntaryExitMessage req).sound faults D).1

/-- One operation keeps the invariant. -/
theorem KeyStore.run {torn : Prop} {D : Disk} (h : KeyStore torn D)
    {op : GuardianOp} (hfaults : ∀ f ∈ op.faults, TearsOnly torn f) :
    KeyStore torn (op.run D) := by
  rcases op.run_cases hfaults with
    hD | ⟨s, hD⟩ | ⟨sk, hD⟩ | ⟨ht, ⟨s, n, hD⟩ | ⟨sk, n, hD⟩⟩
  · rwa [hD]
  · rw [hD]
    exact h.setBls (.inl ⟨s, rfl, rfl⟩)
  · rw [hD]
    exact h.setEth (.inl ⟨sk, rfl, rfl⟩)
  · rw [hD]
    exact h.setBls (.tornAt ht ⟨s, rfl, rfl⟩ n)
  · rw [hD]
    exact h.setEth (.tornAt ht ⟨sk, rfl, rfl⟩ n)

/-- With atomic writes, one operation keeps every key file. -/
theorem KeyStore.kept_run (laws : KeyLaws) {D : Disk}
    (h : KeyStore False D) {op : GuardianOp}
    (hatomic : ∀ f ∈ op.faults, TearsOnly False f) :
    KeysKept D (op.run D) := by
  rcases op.run_cases hatomic with
    hD | ⟨s, hD⟩ | ⟨sk, hD⟩ | ⟨hfalse, -⟩
  · rw [hD]
    exact KeysKept.refl D
  · rw [hD]
    exact h.kept_setShare laws s
  · rw [hD]
    exact h.kept_setEthKey laws sk
  · exact hfalse.elim

theorem KeyStore.runGuardian {torn : Prop} {D : Disk} (h : KeyStore torn D)
    {ops : List GuardianOp}
    (hfaults : ∀ op ∈ ops, ∀ f ∈ op.faults, TearsOnly torn f) :
    KeyStore torn (ValidatorGuardian.runGuardian D ops) := by
  induction ops generalizing D with
  | nil => exact h
  | cons op ops ih =>
      exact ih (h.run (hfaults op (List.mem_cons_self ..)))
        fun op' hop' => hfaults op' (List.mem_cons_of_mem _ hop')

theorem KeyStore.kept_runGuardian (laws : KeyLaws) {D : Disk}
    (h : KeyStore False D) {ops : List GuardianOp}
    (hatomic : ∀ op ∈ ops, ∀ f ∈ op.faults, TearsOnly False f) :
    KeysKept D (ValidatorGuardian.runGuardian D ops) := by
  induction ops generalizing D with
  | nil => exact KeysKept.refl D
  | cons op ops ih =>
      have hop := hatomic op (List.mem_cons_self ..)
      exact (h.kept_run laws hop).trans
        (ih (h.run hop) fun op' hop' =>
          hatomic op' (List.mem_cons_of_mem _ hop'))

/-! ## Exit signatures -/

/-- The response is a signature over the exit root that verifies under the
public key share of the request. -/
def ExitVerifies (req : SignExitRequest) (response : SignExitResponse) :
    Prop :=
  ∃ pkSet sig, req.publicKeySet = .ok pkSet ∧
    response.signature =
      Hex.encode (Blsttc.signatureToBytes sig).toList ∧
    response.message =
      Hex.encode (exitRoot req.validatorIndex req.forkInfo).toList ∧
    Blsttc.verify (Blsttc.publicKeyShare pkSet req.guardianIndex.toNat) sig
      (exitRoot req.validatorIndex req.forkInfo).toList = true

omit [Secp256k1] [Ethers] [CvmAgentTypes] in
/-- A share that is named after the public key share signs for it. -/
theorem exitVerifies_of_share (hlaw : Blsttc.Encodings)
    (hsign : Blsttc.SignVerifies) {req : SignExitRequest}
    {pkSet : Blsttc.PublicKeySet} (hpkSet : req.publicKeySet = .ok pkSet)
    {set : Blsttc.SecretKeySet}
    (hname : Hex.encode (Blsttc.publicKeyToBytes
      (Blsttc.publicKeyShare pkSet req.guardianIndex.toNat)).toList =
        shareName (Blsttc.secretKey set)) :
    ExitVerifies req (exitResponse req set) := by
  have hpk : Blsttc.publicKeyShare pkSet req.guardianIndex.toNat =
      Blsttc.derivePublicKey (Blsttc.secretKey set) :=
    hlaw.publicKeyToBytes_injective
      (List.Vector.toList_injective (Hex.encode_injective hname))
  refine ⟨pkSet, Blsttc.sign (Blsttc.secretKey set)
    (exitRoot req.validatorIndex req.forkInfo).toList, hpkSet, rfl, rfl, ?_⟩
  rw [hpk]
  exact hsign _ _

omit [Ethers] [CvmAgentTypes] in
/-- The share looked up is the secret of the public key share. -/
theorem KeyStore.exitVerifies {D : Disk}
    (h : KeyStore False D) (hlaw : Blsttc.Encodings)
    (hshare : Blsttc.ShareAsKeySet) (hsign : Blsttc.SignVerifies)
    {req : SignExitRequest} {faults : List Fault}
    {response : SignExitResponse}
    (hexec : (exec (signVoluntaryExitMessage req) (faults, D)).1 =
      .ok response) : ExitVerifies req response := by
  have hvalue := (query_signVoluntaryExitMessage req).eq_of_ok hexec
  obtain ⟨pkSet, hpkSet, hvalue⟩ := Outcome.bind_eq_ok.mp hvalue
  obtain ⟨set, hset, rfl⟩ := Outcome.map_eq_ok.mp hvalue
  exact exitVerifies_of_share hlaw hsign hpkSet
    (h.name_of_savedKeySet hshare (lookupKeySet_eq_ok.mp hset))

/-- What holds of the key files after a run of the guardian, and of the exits
that it then signs. -/
structure KeepsKeys (D : Disk) (ops : List GuardianOp) : Prop where
  bls : ∀ name c, runGuardian D ops .blsKeys name = some c →
    BlsKeyFile name c
  eth : ∀ name c, runGuardian D ops .ethKeys name = some c →
    EthKeyFile name c
  kept : ∀ ops₁ ops₂, ops = ops₁ ++ ops₂ →
    KeysKept (runGuardian D ops₁) (runGuardian D ops)
  exits : ∀ req faults response,
    (exec (signVoluntaryExitMessage req) (faults, runGuardian D ops)).1 =
      .ok response → ExitVerifies req response

/-- Over every run from empty key directories whose writes are atomic, every
key file is named by the hex of the public key of its secret, no key file is
removed or changed, and every exit signature verifies under the public key
share it is asked for. -/
theorem guardian_key_store (laws : KeyLaws) (hshare : Blsttc.ShareAsKeySet)
    (hsign : Blsttc.SignVerifies) {D : Disk} (hempty : NoKeys D)
    {ops : List GuardianOp}
    (hatomic : ∀ op ∈ ops, ∀ f ∈ op.faults, f.tears = false) :
    KeepsKeys D ops := by
  have hatomic : ∀ op ∈ ops, ∀ f ∈ op.faults, TearsOnly False f :=
    fun op hop f hf => tearsOnly_false.mpr (hatomic op hop f hf)
  have hstore : KeyStore False (runGuardian D ops) :=
    (keyStore_of_noKeys hempty).runGuardian hatomic
  constructor
  · intro name c hc
    exact (hstore.bls name c hc).of_not id
  · intro name c hc
    exact (hstore.eth name c hc).of_not id
  · rintro ops₁ ops₂ rfl
    have hfirst : KeyStore False (runGuardian D ops₁) :=
      (keyStore_of_noKeys hempty).runGuardian fun op hop =>
        hatomic op (List.mem_append_left _ hop)
    have hsplit : runGuardian D (ops₁ ++ ops₂) =
        runGuardian (runGuardian D ops₁) ops₂ :=
      List.foldl_append
    rw [hsplit]
    exact hfirst.kept_runGuardian laws fun op hop =>
      hatomic op (List.mem_append_right _ hop)
  · intro req faults response hexec
    exact hstore.exitVerifies laws.bls hshare hsign hexec

end Guardian

section SampleRun

open Exponent

/-- A new ETH key, a custody request whose write fails, and the same request
again. -/
def sampleOps : List GuardianOp :=
  [.attestNewEthKeyWithBlockhash [] (guardianKey 1) ⟨true, fun _ => none⟩ 0
      [] 0,
    .verifyAndSignCustodyReceived [.none, .fails] noRegistry
      (custodyRequest (payloadFor (line 3 5) [guardianKey 1]) (guardianKey 1)),
    .verifyAndSignCustodyReceived [] noRegistry
      (custodyRequest (payloadFor (line 3 5) [guardianKey 1]) (guardianKey 1))]

def sampleExit : SignExitRequest where
  blsPubKeySet := Hex.encode (Poly.toBytes 48 (line 3 5))
  guardianIndex := 0
  validatorIndex := 7
  forkInfo := genesisForkInfo

theorem noKeys_empty : NoKeys Disk.empty :=
  fun _ => ⟨rfl, rfl⟩

theorem keyLaws : KeyLaws :=
  ⟨encodings, publicDeterminesSecret, ethEncodings, ethPublicDeterminesSecret⟩

theorem guardian_key_store_sampleOps :
    ((exec (signVoluntaryExitMessage sampleExit)
        ([], runGuardian Disk.empty sampleOps)).1.toOption.isSome = true) ∧
      KeepsKeys Disk.empty sampleOps :=
  ⟨by decide +kernel,
    guardian_key_store keyLaws shareAsKeySet signVerifies noKeys_empty
      (by decide)⟩

end SampleRun

end ValidatorGuardian
