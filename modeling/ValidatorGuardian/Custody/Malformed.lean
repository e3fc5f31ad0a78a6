import ValidatorGuardian.Custody.Exit

/-!
# Malformed custody requests

Every field of a custody request is text that a client has written.  Most
decoders check a length before they copy into an array; two do not, the deposit
root in the session check and the deposit signature, and a field of another
length makes the endpoint panic.  So does a key set that is read from too few
bytes for one coefficient, and has no public key.
-/

namespace ValidatorGuardian

/-! ## Functions that do not panic -/

theorem ethPkFromHexUncompressed_ne_panic [Secp256k1] (pkHex : Str) :
    ethPkFromHexUncompressed pkHex ≠ .error .panic := by
  refine Outcome.bind_ne_panic Outcome.okOr_ne_panic fun bytes _ => ?_
  refine Outcome.bind_ne_panic Outcome.bailIf_ne_panic fun _ hlength => ?_
  have hcopy : copyFromSlice ETH_UNCOMPRESSED_PK_BYTES bytes ≠
      .error .panic := by
    simpa using Outcome.bailIf_eq_ok.mp hlength
  refine Outcome.bind_ne_panic hcopy fun _ _ => ?_
  exact Outcome.mapErr_ne_panic Outcome.okOr_ne_panic

theorem parseB256_ne_panic (name : String) (field : Str) :
    parseB256 name field ≠ .error .panic := by
  refine Outcome.bind_ne_panic Outcome.okOr_ne_panic fun bytes _ => ?_
  refine Outcome.bind_ne_panic Outcome.bailIf_ne_panic fun _ hlength => ?_
  simpa using Outcome.bailIf_eq_ok.mp hlength

theorem BlsKeygenPayload.withdrawalCredentialsBytes_ne_panic
    (p : BlsKeygenPayload) :
    p.withdrawalCredentialsBytes ≠ .error .panic := by
  refine Outcome.bind_ne_panic Outcome.okOr_ne_panic fun bytes _ => ?_
  refine Outcome.bind_ne_panic Outcome.bailIf_ne_panic fun _ hlength => ?_
  simpa using Outcome.bailIf_eq_ok.mp hlength

section Malformed

variable [Blsttc]

theorem sharePreimages_ne_panic [Secp256k1] (pkSet : Blsttc.PublicKeySet) (i : ℕ)
    (l : List (Str × EthPublicKey)) :
    sharePreimages pkSet i l ≠ .error .panic := by
  induction l generalizing i with
  | nil => simp [sharePreimages]
  | cons x l ih =>
      refine Outcome.bind_ne_panic Outcome.okOr_ne_panic fun _ _ => ?_
      exact Outcome.bind_ne_panic (ih (i + 1)) fun _ _ h => by cases h

/-- The payload is built of a key set that has a public key. -/
theorem buildValidatorRemoteAttestationPayload_eq_panic [Secp256k1] [Hashing]
    {pkSet : Blsttc.PublicKeySet} {signature : BLSSignature}
    {depositDataRoot : Root} {encSkShares : List Str}
    {guardianPks : List EthPublicKey} :
    buildValidatorRemoteAttestationPayload pkSet signature depositDataRoot
        encSkShares guardianPks = .error .panic ↔
      ¬ Blsttc.HasPublicKey pkSet := by
  unfold buildValidatorRemoteAttestationPayload
    validatorRemoteAttestationPreimage
  constructor
  · intro hpanic
    by_contra hkey
    rw [hkey.publicKeyOf_eq, Outcome.ok_bind] at hpanic
    refine Outcome.bind_ne_panic ?_ (fun _ _ h => by cases h) hpanic
    exact Outcome.bind_ne_panic (sharePreimages_ne_panic _ _ _)
      fun _ _ h => by cases h
  · intro hkey
    rw [Blsttc.publicKeyOf_eq_panic.mpr hkey]
    rfl

namespace BlsKeygenPayload

variable (p : BlsKeygenPayload)

/-- `signature()` copies without a check. -/
theorem parsedSignature_eq_panic :
    p.parsedSignature = .error .panic ↔
      ∃ bytes, Hex.decode (strip0xPrefix p.signature) = some bytes ∧
        bytes.length ≠ BLS_SIG_BYTES := by
  simp only [parsedSignature, Outcome.bind_eq_panic, hexDecode,
    Outcome.okOr_ne_panic, Outcome.okOr_eq_ok, copyFromSlice_eq_panic,
    false_or, and_false, exists_false, or_false]

/-- The key set of the payload, if it parses, has a public key. -/
def Keyed : Prop :=
  ∀ pkSet, p.publicKeySet = .ok pkSet → Blsttc.HasPublicKey pkSet

variable {p}

theorem Keyed.publicKeyOf_ne_panic (hkeyed : p.Keyed)
    {pkSet : Blsttc.PublicKeySet} (hset : p.publicKeySet = .ok pkSet) :
    Blsttc.publicKeyOf pkSet ≠ .error .panic :=
  fun hpanic => Blsttc.publicKeyOf_eq_panic.mp hpanic (hkeyed pkSet hset)

variable [Eth2TreeHash]

theorem computedDepositDataRoot_ne_panic (hkeyed : p.Keyed)
    (h : p.parsedSignature ≠ .error .panic) :
    p.computedDepositDataRoot ≠ .error .panic := by
  refine Outcome.bind_ne_panic (parsePublicKeySet_ne_panic _) fun _ hset => ?_
  refine Outcome.bind_ne_panic (hkeyed.publicKeyOf_ne_panic hset)
    fun _ _ => ?_
  refine Outcome.bind_ne_panic p.withdrawalCredentialsBytes_ne_panic
    fun _ _ => ?_
  exact Outcome.bind_ne_panic h fun _ _ h => by cases h

theorem depositMessageRoot_ne_panic [Hashing] (hkeyed : p.Keyed) :
    p.depositMessageRoot ≠ .error .panic := by
  refine Outcome.bind_ne_panic (parsePublicKeySet_ne_panic _) fun _ hset => ?_
  refine Outcome.bind_ne_panic p.withdrawalCredentialsBytes_ne_panic
    fun _ _ => ?_
  exact Outcome.bind_ne_panic (hkeyed.publicKeyOf_ne_panic hset)
    fun _ _ h => by cases h

end BlsKeygenPayload

/-! ## The checks -/

variable {p : BlsKeygenPayload}

/-- The deposit check panics in `public_key()` or in `signature()`, once there
is a key set. -/
theorem verifyDepositMessage_eq_panic [Hashing] [Eth2TreeHash] :
    verifyDepositMessage p = .error .panic ↔
      ∃ pkSet, p.publicKeySet = .ok pkSet ∧
        (¬ Blsttc.HasPublicKey pkSet ∨
          p.parsedSignature = .error .panic) := by
  unfold verifyDepositMessage
  rw [Outcome.bind_eq_panic]
  constructor
  · rintro (hset | ⟨pkSet, hset, hrest⟩)
    · exact absurd hset (parsePublicKeySet_ne_panic _)
    · refine ⟨pkSet, hset, ?_⟩
      by_contra hgood
      obtain ⟨hkey, hsig⟩ := not_or.mp hgood
      have hkeyed : p.Keyed := by
        intro pkSet' hset'
        rw [hset] at hset'
        obtain rfl := Except.ok.inj hset'
        exact not_not.mp hkey
      refine Outcome.bind_ne_panic (hkeyed.publicKeyOf_ne_panic hset)
        (fun _ _ => ?_) hrest
      refine Outcome.bind_ne_panic hsig fun _ _ => ?_
      refine Outcome.bind_ne_panic
        (BlsKeygenPayload.depositMessageRoot_ne_panic hkeyed) fun _ _ => ?_
      refine Outcome.bind_ne_panic Outcome.bailIf_ne_panic fun _ _ => ?_
      refine Outcome.bind_ne_panic
        (BlsKeygenPayload.computedDepositDataRoot_ne_panic hkeyed hsig)
        fun _ _ => ?_
      exact Outcome.bailIf_ne_panic
  · rintro ⟨pkSet, hset, hbad⟩
    refine .inr ⟨pkSet, hset, ?_⟩
    by_cases hkey : Blsttc.HasPublicKey pkSet
    · have hsig := hbad.resolve_left (not_not.mpr hkey)
      rw [hkey.publicKeyOf_eq, Outcome.ok_bind, hsig]
      rfl
    · rw [Blsttc.publicKeyOf_eq_panic.mpr hkey]
      rfl

variable [Secp256k1]

theorem findShare_ne_panic (sk : EthSecretKey) (is : List ℕ) :
    findShare p sk is ≠ .error .panic := by
  induction is with
  | nil => exact Outcome.bail_ne_panic
  | cons i is ih =>
      unfold findShare
      split
      · next hpanic => exact absurd hpanic (p.decryptSkShare_ne_panic i sk)
      · exact ih
      · refine Outcome.bind_ne_panic (parsePublicKeySet_ne_panic _)
          fun pkSet _ => ?_
        split
        · simp [pure, Except.pure]
        · exact ih

theorem verifyCustody_ne_panic (hkeyed : p.Keyed) (sk : EthSecretKey) :
    verifyCustody p sk ≠ .error .panic := by
  have hmatch : p.verifyPublicKeysMatch ≠ .error .panic := by
    refine Outcome.bind_ne_panic (parsePublicKeySet_ne_panic _)
      fun _ hset => ?_
    exact Outcome.bind_ne_panic (hkeyed.publicKeyOf_ne_panic hset)
      fun _ _ h => by cases h
  refine Outcome.bind_ne_panic hmatch fun _ _ => ?_
  exact Outcome.bind_ne_panic Outcome.bailIf_ne_panic
    fun _ _ => findShare_ne_panic sk _

variable [Hashing]

/-- The fields that the message is rebuilt from are misshapen: behind a key set
that parses as it stands, the deposit root is hex of a length other than 32
bytes, or the key set has no public key and the other fields parse. -/
def MisshapenMessage (p : BlsKeygenPayload) : Prop :=
  ∃ bytes pkSet root, Hex.decode p.blsPubKeySet = some bytes ∧
    Blsttc.publicKeySetFromBytes bytes = some pkSet ∧
    Hex.decode p.depositDataRoot = some root ∧
    (root.length ≠ 32 ∨ ¬ Blsttc.HasPublicKey pkSet ∧
      (Hex.decode p.signature).isSome ∧
      ∃ guardianPks, p.guardianEthPubKeys.mapM ethPkFromHexUncompressed =
        .ok guardianPks)

theorem attestedPayload_eq_panic :
    attestedPayload p = .error .panic ↔ MisshapenMessage p := by
  unfold attestedPayload MisshapenMessage
  simp only [Outcome.bind_eq_panic, hexDecode, Outcome.okOr_ne_panic,
    Outcome.okOr_eq_ok, copyFromSlice_eq_panic, copyFromSlice_eq_ok,
    buildValidatorRemoteAttestationPayload_eq_panic, false_or]
  constructor
  · rintro ⟨bytes, hbytes, pkSet, hset, root, hroot, hlength | hrest⟩
    · exact ⟨bytes, pkSet, root, hbytes, hset, hroot, .inl hlength⟩
    · obtain ⟨ddRoot, -, sig, hsig, hguardians | hrest⟩ := hrest
      · exact absurd hguardians (Outcome.mapM_ne_panic
          fun pk _ => ethPkFromHexUncompressed_ne_panic pk)
      · obtain ⟨guardianPks, hguardians, hkey⟩ := hrest
        exact ⟨bytes, pkSet, root, hbytes, hset, hroot, .inr
          ⟨hkey, Option.isSome_iff_exists.mpr ⟨sig, hsig⟩, guardianPks,
            hguardians⟩⟩
  · rintro ⟨bytes, pkSet, root, hbytes, hset, hroot, hbad⟩
    refine ⟨bytes, hbytes, pkSet, hset, root, hroot, ?_⟩
    by_cases hlength : root.length = 32
    · obtain ⟨hkey, hsig, guardianPks, hguardians⟩ :=
        hbad.resolve_left (not_not.mpr hlength)
      obtain ⟨sig, hsig⟩ := Option.isSome_iff_exists.mp hsig
      exact .inr ⟨⟨root, hlength⟩, dif_pos hlength, sig, hsig,
        .inr ⟨guardianPks, hguardians, hkey⟩⟩
    · exact .inl hlength

variable [CvmAgentTypes]

omit [Blsttc] [Secp256k1] [Hashing] in
theorem parseSessionPublicKey_ne_panic (field : Str) :
    parseSessionPublicKey field ≠ .error .panic := by
  unfold parseSessionPublicKey
  split
  · simp
  · exact Outcome.bind_ne_panic
      (Outcome.mapErr_ne_panic Outcome.okOr_ne_panic) fun _ _ h => by cases h

/-- The session check panics where the message is rebuilt, once the session
fields are there. -/
theorem verifySessionEvidence_eq_panic {registry : SessionRegistry}
    {workloadId : Str} :
    verifySessionEvidence registry p workloadId = .error .panic ↔
      (p.sessionId ≠ [] ∧ p.attestationSignature ≠ [] ∧
        p.sessionPublicKey ≠ []) ∧
      attestedPayload p = .error .panic := by
  unfold verifySessionEvidence
  constructor
  · intro h
    obtain ⟨_, hid, h⟩ :=
      Outcome.exists_of_bind_eq_panic Outcome.bailIf_ne_panic h
    obtain ⟨_, hsig, h⟩ :=
      Outcome.exists_of_bind_eq_panic Outcome.bailIf_ne_panic h
    obtain ⟨_, hkey, h⟩ :=
      Outcome.exists_of_bind_eq_panic Outcome.bailIf_ne_panic h
    rw [Outcome.bailIf_eq_ok, List.isEmpty_iff] at hid hsig hkey
    refine ⟨⟨hid, hsig, hkey⟩, ?_⟩
    by_contra hpayload
    obtain ⟨payload, -, h⟩ := Outcome.exists_of_bind_eq_panic hpayload h
    obtain ⟨sessionId, -, h⟩ :=
      Outcome.exists_of_bind_eq_panic (parseB256_ne_panic _ _) h
    obtain ⟨sessionKey, -, h⟩ :=
      Outcome.exists_of_bind_eq_panic (parseSessionPublicKey_ne_panic _) h
    obtain ⟨signature, -, h⟩ :=
      Outcome.exists_of_bind_eq_panic Outcome.okOr_ne_panic h
    obtain ⟨rpcUrl, -, h⟩ :=
      Outcome.exists_of_bind_eq_panic Outcome.okOr_ne_panic h
    obtain ⟨addressStr, -, h⟩ :=
      Outcome.exists_of_bind_eq_panic Outcome.okOr_ne_panic h
    obtain ⟨registryAddress, -, h⟩ :=
      Outcome.exists_of_bind_eq_panic Outcome.okOr_ne_panic h
    obtain ⟨valid, -, h⟩ :=
      Outcome.exists_of_bind_eq_panic Outcome.okOr_ne_panic h
    obtain ⟨_, -, h⟩ :=
      Outcome.exists_of_bind_eq_panic Outcome.bailIf_ne_panic h
    split at h
    · cases h
    · refine Outcome.bind_ne_panic Outcome.okOr_ne_panic (fun _ _ => ?_) h
      refine Outcome.bind_ne_panic (parseB256_ne_panic _ _) fun _ _ => ?_
      exact Outcome.bailIf_ne_panic
  · rintro ⟨⟨hid, hsig, hkey⟩, hpayload⟩
    have hpass : ∀ {field : Str} {s : String}, field ≠ [] →
        Outcome.bailIf (field.isEmpty = true) s = .ok () :=
      fun hfield => Outcome.bailIf_eq_ok.mpr (by simpa using hfield)
    rw [hpass hid, hpass hsig, hpass hkey, hpayload]
    rfl

variable [Ethers] [Eth2TreeHash]

omit [CvmAgentTypes] in
theorem approveCustody_ne_panic (hkeyed : p.Keyed)
    (hsig : p.parsedSignature ≠ .error .panic)
    (sk : EthSecretKey) (validatorIndex : ValidatorIndex) :
    approveCustody p sk validatorIndex ≠ .error .panic := by
  refine Outcome.bind_ne_panic (parsePublicKeySet_ne_panic _) fun _ hset => ?_
  refine Outcome.bind_ne_panic (hkeyed.publicKeyOf_ne_panic hset)
    fun _ _ => ?_
  refine Outcome.bind_ne_panic p.withdrawalCredentialsBytes_ne_panic
    fun _ _ => ?_
  refine Outcome.bind_ne_panic hsig fun _ _ => ?_
  refine Outcome.bind_ne_panic
    (BlsKeygenPayload.computedDepositDataRoot_ne_panic hkeyed hsig)
    fun _ _ => ?_
  refine Outcome.bind_ne_panic Outcome.okOr_ne_panic fun _ _ => ?_
  refine Outcome.bind_ne_panic Outcome.okOr_ne_panic fun _ _ => ?_
  refine Outcome.bind_ne_panic Outcome.okOr_ne_panic fun _ _ => ?_
  exact Outcome.bind_ne_panic Outcome.bailIf_ne_panic fun _ _ h => by cases h

/-! ## The endpoint -/

/-- The session fields are there, and the fields of the message are
misshapen. -/
def MisshapenEvidence (p : BlsKeygenPayload) : Prop :=
  (p.sessionId ≠ [] ∧ p.attestationSignature ≠ [] ∧
      p.sessionPublicKey ≠ []) ∧
    MisshapenMessage p

/-- With a key set that parses, the set has no public key or the deposit
signature is hex of a length other than 96 bytes. -/
def MisshapenDeposit (p : BlsKeygenPayload) : Prop :=
  ∃ pkSet, p.publicKeySet = .ok pkSet ∧
    (¬ Blsttc.HasPublicKey pkSet ∨
      ∃ bytes, Hex.decode (strip0xPrefix p.signature) = some bytes ∧
        bytes.length ≠ BLS_SIG_BYTES)

/-- A field is misshapen, in a request that gets as far as its use: in a
session check, or in the deposit check behind one that passes. -/
def Misshapen (registry : SessionRegistry)
    (request : ValidateCustodyRequest) : Prop :=
  (request.verifySession = true ∧
      MisshapenEvidence request.keygenPayload) ∨
    ((request.verifySession = true → verifySessionEvidence registry
        request.keygenPayload request.workloadId = .ok ()) ∧
      MisshapenDeposit request.keygenPayload)

variable {registry : SessionRegistry} {request : ValidateCustodyRequest}

omit [Ethers] in
/-- A request is misshapen when one of the first two checks panics. -/
theorem misshapen_iff :
    Misshapen registry request ↔
      (do
        sessionCheck registry request
        verifyDepositMessage request.keygenPayload) =
          .error .panic := by
  have hevidence : MisshapenEvidence request.keygenPayload ↔
      verifySessionEvidence registry request.keygenPayload
        request.workloadId = .error .panic := by
    rw [verifySessionEvidence_eq_panic, attestedPayload_eq_panic]
    rfl
  have hdeposit : MisshapenDeposit request.keygenPayload ↔
      verifyDepositMessage request.keygenPayload = .error .panic := by
    rw [verifyDepositMessage_eq_panic,
      BlsKeygenPayload.parsedSignature_eq_panic]
    rfl
  rw [Outcome.bind_eq_panic, Misshapen, hevidence, hdeposit, sessionCheck]
  cases request.verifySession with
  | true => simp [Unique.exists_iff]
  | false => simp

/-- If the guardian's key can be read, a misshapen request panics. -/
theorem exec_of_misshapen {D : Disk}
    (hkey : (savedEthKey D
      (ethPkToHex request.guardianEnclavePublicKey)).isSome)
    (h : Misshapen registry request) :
    (exec (verifyAndSignCustodyReceived registry request) ([], D)).1 =
      .error .panic := by
  obtain ⟨sk, hsk⟩ := Option.isSome_iff_exists.mp hkey
  have hfetch : exec (attempt (fetchEthKey
      (ethPkToHex request.guardianEnclavePublicKey))) ([], D) =
        (.ok (.ok sk), ([], D)) :=
    (query_fetchEthKey_ethPkToHex _).attempt_returns
      (lookupEthKey_eq_ok.mpr hsk)
  have hchecks := misshapen_iff.mp h
  rw [verifyAndSignCustodyReceived, exec_bind_of_ok hfetch]
  rcases Outcome.bind_eq_panic.mp hchecks with hsession |
    ⟨_, hsession, hdeposit⟩
  · have hfirst : exec (liftM (sessionCheck registry request)) ([], D) =
        (.error .panic, ([], D)) := by rw [hsession, exec_liftM]
    exact congrArg Prod.fst (exec_bind_of_error hfirst)
  · have hfirst : exec (liftM (sessionCheck registry request)) ([], D) =
        (.ok (), ([], D)) := by rw [hsession, exec_liftM]
    have hsecond : exec (liftM (verifyDepositMessage request.keygenPayload))
        ([], D) = (.error .panic, ([], D)) := by rw [hdeposit, exec_liftM]
    exact (congrArg Prod.fst (exec_bind_of_ok hfirst)).trans
      (congrArg Prod.fst (exec_bind_of_error hsecond))

omit [Secp256k1] [CvmAgentTypes] [Ethers] in
/-- Behind the deposit check there is a public key and a signature. -/
theorem keyed_of_verifyDepositMessage (h : verifyDepositMessage p = .ok ()) :
    p.Keyed ∧ p.parsedSignature ≠ .error .panic := by
  obtain ⟨pkSet, wc, sigBytes, sig, hdecodes⟩ :=
    exists_decodes_of_verifyDepositMessage h
  constructor
  · intro pkSet' hset
    rw [hdecodes.publicKeySet_eq] at hset
    obtain rfl := Except.ok.inj hset
    exact hdecodes.hasPublicKey
  · rw [hdecodes.parsedSignature_eq]
    simp

/-- A request that is not misshapen, or whose key cannot be read, does not
panic. -/
theorem triple_ne_panic {D : Disk}
    (h : ¬ ((savedEthKey D
      (ethPkToHex request.guardianEnclavePublicKey)).isSome ∧
        Misshapen registry request)) :
    Triple (fun _ => True) (· = D)
      (verifyAndSignCustodyReceived registry request)
      fun r _ => r ≠ .error .panic := by
  have hchecks : ∀ sk, savedEthKey D
      (ethPkToHex request.guardianEnclavePublicKey) = some sk →
      ¬ (sessionCheck registry request = .error .panic ∨
        ∃ u, sessionCheck registry request = .ok u ∧
          verifyDepositMessage request.keygenPayload = .error .panic) := by
    intro sk hkey hpanic
    exact h ⟨Option.isSome_iff_exists.mpr ⟨sk, hkey⟩,
      misshapen_iff.mpr (Outcome.bind_eq_panic.mpr hpanic)⟩
  refine Triple.verifyAndSignCustodyReceived trivial ?_ (by simp) (by simp) ?_
  · intro f hfails hpanic
    obtain rfl : f = .panic := Except.error.inj hpanic
    cases hfails with
    | session hkey hsession => exact hchecks _ hkey (.inl hsession)
    | deposit hkey hsession hdeposit =>
        exact hchecks _ hkey (.inr ⟨(), hsession, hdeposit⟩)
    | custody hdeposit hcustody =>
        exact verifyCustody_ne_panic
          (keyed_of_verifyDepositMessage hdeposit).1 _ hcustody
  · intro sk s hchecked
    obtain ⟨hkeyed, hsig⟩ :=
      keyed_of_verifyDepositMessage hchecked.deposit
    exact Outcome.map_ne_panic (approveCustody_ne_panic hkeyed hsig sk _)

/-- The endpoint never panics, whatever fails, exactly when the guardian's key
cannot be read or the request is not misshapen. -/
theorem custody_never_panics_iff (registry : SessionRegistry)
    (request : ValidateCustodyRequest) (D : Disk) :
    (∀ faults, (exec (verifyAndSignCustodyReceived registry request)
        (faults, D)).1 ≠ .error .panic) ↔
      ¬ ((savedEthKey D
          (ethPkToHex request.guardianEnclavePublicKey)).isSome ∧
        Misshapen registry request) := by
  constructor
  · rintro h ⟨hkey, hmisshapen⟩
    exact h [] (exec_of_misshapen hkey hmisshapen)
  · intro h faults
    exact (triple_ne_panic h).exec_spec (fun _ _ => trivial) rfl

end Malformed

section SampleMalformed

open Exponent

/-- The request of the guardian for a payload whose deposit signature is the
empty string. -/
def requestWithoutSignature : ValidateCustodyRequest :=
  custodyRequest
    { payloadFor (constant 3) [guardianKey 1] with signature := [] }
    (guardianKey 1)

theorem not_custody_never_panics_emptySignature :
    ¬ ∀ faults, (exec (verifyAndSignCustodyReceived noRegistry
      requestWithoutSignature) (faults, loneGuardian)).1 ≠ .error .panic := by
  intro h
  have hkey : savedEthKey loneGuardian (ethPkToHex (guardianKey 1)) =
      some (guardianKey 1) :=
    KeyStore.savedEthKey_setEthKey ethEncodings Disk.empty (guardianKey 1)
  have hset : requestWithoutSignature.keygenPayload.publicKeySet =
      .ok (constant 3) := publicKeySet_payloadFor (constant 3) [guardianKey 1]
  have hempty : Hex.decode (strip0xPrefix []) = some [] := by decide
  have hlength : ([] : List UInt8).length ≠ BLS_SIG_BYTES := by decide
  have hsignature : MisshapenDeposit requestWithoutSignature.keygenPayload :=
    ⟨constant 3, hset, .inr ⟨[], hempty, hlength⟩⟩
  refine h [] (exec_of_misshapen (Option.isSome_iff_exists.mpr ⟨_, hkey⟩) ?_)
  exact .inr ⟨fun hsession => Bool.noConfusion hsession, hsignature⟩

end SampleMalformed

end ValidatorGuardian
