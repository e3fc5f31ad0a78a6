import ValidatorGuardian.Custody.Keygen

/-!
# The attested message

The enclave hands one message to the CVM agent to sign, and returns a payload
of text fields.  The guardian rebuilds the message from these fields, and asks
the session registry about it together with what the agent returned.
-/

namespace ValidatorGuardian

section Attested

variable [Blsttc] [Secp256k1] [Hashing] [Eth2TreeHash]

/-! ## The call of the agent -/

variable {random : Blsttc.SecretKeySet} {seeds : ℕ → Secp256k1.Seed}
  {agent : CvmAgent} {wc : Bytes 32} {guardianPks : List EthPublicKey}
  {threshold : UInt64} {forkVersion : Version} {faults : List Fault}
  {V : Disk} {p : BlsKeygenPayload}

/-- A run that returns a payload comes to the call of the agent, whoever the
agent is, and returns what was made before it with the evidence added. -/
theorem attestFreshBlsKey_calls_agent
    (h : (exec (attestFreshBlsKey random seeds agent wc guardianPks threshold
      forkVersion true) (faults, V)).1 = .ok p) :
    ∃ keys message w, Encrypted random seeds guardianPks keys ∧
      freshMessage random keys wc forkVersion = .ok message ∧
      ∀ agent', exec (attestFreshBlsKey random seeds agent' wc guardianPks
          threshold forkVersion true) (faults, V) =
        ((AttestationEvidence.new agent' message).map
          (freshPayloadWith random keys wc forkVersion), w) := by
  obtain ⟨keys, w, hkeys, hrun⟩ := attestFreshBlsKey_finishes h
  rw [hrun agent] at h
  obtain ⟨message, hmessage, -⟩ := Outcome.bind_eq_ok.mp h
  refine ⟨keys, message, w, hkeys, hmessage, fun agent' => ?_⟩
  rw [hrun agent', finishFresh_of_message hmessage]

/-- With an agent that is not stubbed out, the payload that is returned holds
its answer. -/
theorem freshPayloadWith_of_attested (hstub : agent.stub = false)
    (h : (exec (attestFreshBlsKey random seeds agent wc guardianPks threshold
      forkVersion true) (faults, V)).1 = .ok p) :
    ∃ keys message w proof,
      freshMessage random keys wc forkVersion = .ok message ∧
      (∀ agent', exec (attestFreshBlsKey random seeds agent' wc guardianPks
          threshold forkVersion true) (faults, V) =
        ((AttestationEvidence.new agent' message).map
          (freshPayloadWith random keys wc forkVersion), w)) ∧
      agent.signMessage message = some proof ∧
      p = freshPayloadWith random keys wc forkVersion
        (AttestationEvidence.ofProof proof) := by
  obtain ⟨keys, message, w, -, hmessage, hrun⟩ :=
    attestFreshBlsKey_calls_agent h
  rw [hrun agent] at h
  cases hevidence : AttestationEvidence.new agent message with
  | error e =>
      rw [hevidence] at h
      cases h
  | ok evidence =>
      obtain ⟨proof, hproof, rfl⟩ :=
        (AttestationEvidence.new_eq_ok hstub).mp hevidence
      rw [hevidence] at h
      exact ⟨keys, message, w, proof, hmessage, hrun, hproof,
        (Except.ok.inj h).symm⟩

/-! ## The message is rebuilt -/

/-- The fields of a generated payload lead back to the message. -/
theorem attestedPayload_of_fresh (hbls : Blsttc.Encodings)
    (heth : Secp256k1.UncompressedParses)
    {keys : List EncryptedRecipientKeys} (evidence : AttestationEvidence) :
    attestedPayload (freshPayloadWith random keys wc forkVersion evidence) =
      freshMessage random keys wc forkVersion := by
  have hguardians : (keys.map fun k =>
      ethPkToHexUncompressed k.guardianPublicKey).mapM
        ethPkFromHexUncompressed =
      .ok (keys.map EncryptedRecipientKeys.guardianPublicKey) := by
    rw [Outcome.mapM_eq_ok, List.forall₂_map_left_iff,
      List.forall₂_map_right_iff, List.forall₂_same]
    intro k _
    simp [ethPkFromHexUncompressed, ethPkToHexUncompressed, hexDecode,
      Outcome.okOr, Outcome.bailIf, ETH_UNCOMPRESSED_PK_BYTES, copyFromSlice,
      heth k.guardianPublicKey]
  unfold attestedPayload freshMessage
  simp only [freshPayloadWith, freshPayload, hexDecode, Hex.decode_encode,
    hbls.publicKeySet, Outcome.okOr, Outcome.ok_bind, copyFromSlice,
    toArray?_bytes, fixedVectorFrom_bytes, hguardians]

/-! ## The registry is asked -/

variable [CvmAgentTypes]

/-- The last part of `verify_session_evidence`: the registry is asked about a
session, its key, a message and a signature. -/
def askRegistry (registry : SessionRegistry) (sessionId : Bytes 32)
    (sessionKey : PublicIdentity) (message : Bytes 32)
    (signature : List UInt8) (workloadId : Str) : Outcome Unit := do
  let rpcUrl ← Outcome.okOr
    (.text ("SESSION_REGISTRY_RPC_URL env var is required for session " ++
      "verification"))
    registry.rpcUrl
  let addressStr ← Outcome.okOr
    (.text ("SESSION_REGISTRY_ADDRESS env var is required for session " ++
      "verification"))
    registry.registryAddress
  let registryAddress ← Outcome.okOr
    (.text "SESSION_REGISTRY_ADDRESS is not a valid address")
    (CvmAgentTypes.parseRegistryAddress addressStr)
  let valid ← Outcome.okOr .sessionRegistry
    (registry.verifySessionSignature rpcUrl registryAddress sessionId
      sessionKey message signature)
  Outcome.bailIf (valid = false)
    "SessionRegistry.verifySessionSignature() returned false"
  if workloadId.isEmpty then return ()
  else verifyWorkload registry rpcUrl registryAddress sessionId workloadId

omit [Blsttc] [Secp256k1] [Hashing] [Eth2TreeHash] [CvmAgentTypes] in
theorem parseB256_bytesToString (name : String) (b : Bytes 32) :
    parseB256 name (bytesToString b.toList) = .ok b := by
  simp [parseB256, bytesToString, hexDecode, Outcome.okOr, Outcome.bailIf,
    copyFromSlice]

omit [Blsttc] [Secp256k1] [Hashing] [Eth2TreeHash] in
theorem exists_parseSessionPublicKey (key : List UInt8) :
    ∃ identity, parseSessionPublicKey (bytesToString key) = .ok identity := by
  unfold parseSessionPublicKey
  split
  · next identity _ => exact ⟨identity, rfl⟩
  · simp [bytesToString, hexDecode, Outcome.okOr]

omit [Eth2TreeHash] in
/-- What is verified of evidence that was printed by the enclave. -/
theorem verifySessionEvidence_of_printed {sessionId : Bytes 32}
    {signature key message : List UInt8}
    (hid : p.sessionId = bytesToString sessionId.toList)
    (hsig : p.attestationSignature = bytesToString signature)
    (hkey : p.sessionPublicKey = bytesToString key)
    (hmessage : attestedPayload p = .ok message) :
    ∃ identity, parseSessionPublicKey p.sessionPublicKey = .ok identity ∧
      ∀ registry workloadId,
        verifySessionEvidence registry p workloadId =
          askRegistry registry sessionId identity
            (Hashing.keccak256 message) signature workloadId := by
  obtain ⟨identity, hidentity⟩ := exists_parseSessionPublicKey key
  rw [← hkey] at hidentity
  refine ⟨identity, hidentity, ?_⟩
  intro registry workloadId
  have hfields : ∀ bs, (bytesToString bs).isEmpty = false := fun _ => rfl
  have hdecode : hexDecode (strip0xPrefix (bytesToString signature)) =
      .ok signature := by
    simp [bytesToString, hexDecode, Outcome.okOr]
  have hpass : ∀ s, Outcome.bailIf ((false : Bool) = true) s = .ok () :=
    fun s => if_neg (by decide)
  unfold verifySessionEvidence
  rw [hmessage, hidentity, hid, hsig, hkey, parseB256_bytesToString, hdecode]
  simp only [hfields, hpass, Outcome.ok_bind]
  rfl

/-! ## Agreement -/

/-- `message` is what a run hands to `AttestationEvidence::new`: with any
agent, the run ends as this call does, in a payload made from its evidence. -/
def HandsToAgent (run : CvmAgent → Outcome BlsKeygenPayload × World)
    (message : List UInt8) : Prop :=
  ∃ build w, ∀ agent,
    run agent = ((AttestationEvidence.new agent message).map build, w)

/-- The guardian rebuilds from `p` the message that the run hands to the agent,
and asks the registry about its digest, with the session and the signature that
the agent returned. -/
def AgreesOnMessage (run : CvmAgent → Outcome BlsKeygenPayload × World)
    (agent : CvmAgent) (p : BlsKeygenPayload) : Prop :=
  ∃ message proof identity, HandsToAgent run message ∧
    agent.signMessage message = some proof ∧
    attestedPayload p = .ok message ∧
    ∀ registry workloadId,
      verifySessionEvidence registry p workloadId =
        askRegistry registry proof.sessionId identity
          (Hashing.keccak256 message) proof.signature workloadId

omit [CvmAgentTypes] in
/-- With the agent stubbed out, a payload has no session. -/
theorem sessionId_of_stub (hstub : agent.stub = true)
    (h : (exec (attestFreshBlsKey random seeds agent wc guardianPks threshold
      forkVersion true) (faults, V)).1 = .ok p) : p.sessionId = [] := by
  obtain ⟨keys, message, w, -, -, hrun⟩ := attestFreshBlsKey_calls_agent h
  rw [hrun agent, AttestationEvidence.new, hstub] at h
  obtain rfl := Except.ok.inj h
  rfl

/-- Producer and verifier agree on the message, unless the agent is stubbed
out. -/
theorem agreesOnMessage_of_attested (hbls : Blsttc.Encodings)
    (heth : Secp256k1.UncompressedParses) (hstub : agent.stub = false)
    (h : (exec (attestFreshBlsKey random seeds agent wc guardianPks threshold
      forkVersion true) (faults, V)).1 = .ok p) :
    AgreesOnMessage (fun agent => exec (attestFreshBlsKey random seeds agent
      wc guardianPks threshold forkVersion true) (faults, V)) agent p := by
  obtain ⟨keys, message, w, proof, hmessage, hrun, hproof, hp⟩ :=
    freshPayloadWith_of_attested hstub h
  have hrebuilt : attestedPayload p = .ok message := by
    rw [hp, attestedPayload_of_fresh hbls heth, hmessage]
  have hid : p.sessionId = bytesToString proof.sessionId.toList :=
    congrArg BlsKeygenPayload.sessionId hp
  have hsig : p.attestationSignature = bytesToString proof.signature :=
    congrArg BlsKeygenPayload.attestationSignature hp
  have hkey : p.sessionPublicKey = bytesToString proof.sessionKey.key :=
    congrArg BlsKeygenPayload.sessionPublicKey hp
  obtain ⟨identity, -, hverify⟩ :=
    verifySessionEvidence_of_printed hid hsig hkey hrebuilt
  exact ⟨message, proof, identity, ⟨_, w, hrun⟩, hproof, hrebuilt, hverify⟩

end Attested

section SampleAttested

open Exponent

/-- An agent that signs a message by repeating it. -/
def echoAgent (stub : Bool) : CvmAgent where
  stub := stub
  signMessage m := some {
    sessionId := List.Vector.replicate 32 9
    signature := m
    sessionKey := { typeId := 3, key := [4] }
    ownerKey := { typeId := 3, key := [5] } }

/-- A key generation for two guardians. -/
def attestedRun (agent : CvmAgent) : Outcome BlsKeygenPayload × World :=
  exec (attestFreshBlsKey (line 3 5) (fun _ => ()) agent
    (List.Vector.replicate 32 0) [guardianKey 1, guardianKey 2] 2
    GENESIS_FORK_VERSION true) ([], Disk.empty)

theorem exists_attestedRun (stub : Bool) :
    ∃ p, (attestedRun (echoAgent stub)).1 = .ok p := by
  refine attestFreshBlsKey_returns hexOfBytes ecies ⟨by decide, by decide⟩
    (fun _ m => ?_) Disk.empty
  cases stub with
  | true => exact ⟨_, rfl⟩
  | false => exact ⟨_, rfl⟩

theorem agreesOnMessage_of_attested_echo :
    ∃ p, (attestedRun (echoAgent false)).1 = .ok p ∧
      AgreesOnMessage attestedRun (echoAgent false) p := by
  obtain ⟨p, hp⟩ := exists_attestedRun false
  exact ⟨p, hp,
    agreesOnMessage_of_attested encodings uncompressedParses rfl hp⟩

/-- A registry that accepts everything. -/
def acceptingRegistry : SessionRegistry where
  rpcUrl := some []
  registryAddress := some (Hex.encode (List.replicate 20 0))
  verifySessionSignature _ _ _ _ _ _ := some true
  getSessionWorkloadId _ _ _ := none

/-- With the agent stubbed out a payload is returned, and the guardian refuses
it before anything is rebuilt. -/
theorem not_agreesOnMessage_stub :
    ∃ p, (attestedRun (echoAgent true)).1 = .ok p ∧
      ¬ AgreesOnMessage attestedRun (echoAgent true) p := by
  obtain ⟨p, hp⟩ := exists_attestedRun true
  refine ⟨p, hp, ?_⟩
  rintro ⟨message, proof, identity, -, -, -, hverify⟩
  have hid : p.sessionId = [] := sessionId_of_stub rfl hp
  have hrefused : verifySessionEvidence acceptingRegistry p [] =
      Outcome.bail "Missing session_id in keygen payload" := by
    rw [verifySessionEvidence, hid]
    rfl
  have hasked : askRegistry acceptingRegistry proof.sessionId identity
      (Hashing.keccak256 message) proof.signature [] = .ok () := rfl
  rw [hverify acceptingRegistry [], hasked] at hrefused
  cases hrefused

end SampleAttested

end ValidatorGuardian
