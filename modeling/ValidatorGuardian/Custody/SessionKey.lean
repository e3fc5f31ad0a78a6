import ValidatorGuardian.Crates.IdentityJson
import ValidatorGuardian.Custody.Attested

/-!
# The session key of a payload

A session key has a type and bytes.  The enclave prints the bytes only, and
the guardian reads hex as a secp256k1 key; only the JSON form carries the type.
-/

namespace ValidatorGuardian

section SessionKey

variable [Blsttc] [Secp256k1] [Hashing] [Eth2TreeHash] [CvmAgentTypes]

omit [Blsttc] [Secp256k1] [Hashing] [Eth2TreeHash] in
/-- Hex text is no JSON, so it is read as the bytes of a secp256k1 key. -/
theorem parseSessionPublicKey_bytesToString
    (laws : CvmAgentTypes.ReadsIdentities) (key : List UInt8) :
    parseSessionPublicKey (bytesToString key) =
      .ok { typeId := 3, key := key } := by
  rw [parseSessionPublicKey, bytesToString, laws.hex]
  simp only [strip0xPrefix_prefixed, hexDecode, Hex.decode_encode,
    Outcome.okOr, Outcome.mapErr_ok, Outcome.ok_bind]
  rfl

omit [Blsttc] [Secp256k1] [Hashing] [Eth2TreeHash] in
theorem parseSessionPublicKey_identityJson
    (laws : CvmAgentTypes.ReadsIdentities) (identity : PublicIdentity) :
    parseSessionPublicKey (identityJson identity) = .ok identity := by
  rw [parseSessionPublicKey, laws.json]

/-- What the guardian reads in a payload of the identity of the session: the
key, with the type of secp256k1 keys. -/
structure KeepsKey (p : BlsKeygenPayload) (identity : PublicIdentity) :
    Prop where
  parsed : parseSessionPublicKey p.sessionPublicKey =
    .ok { typeId := 3, key := identity.key }
  same_iff : parseSessionPublicKey p.sessionPublicKey = .ok identity ↔
    identity.typeId = 3

omit [Blsttc] [Secp256k1] [Hashing] [Eth2TreeHash] in
theorem keepsKey_of_printed (laws : CvmAgentTypes.ReadsIdentities)
    {p : BlsKeygenPayload} {identity : PublicIdentity}
    (hp : p.sessionPublicKey = bytesToString identity.key) :
    KeepsKey p identity := by
  have hparsed : parseSessionPublicKey p.sessionPublicKey =
      .ok { typeId := 3, key := identity.key } := by
    rw [hp, parseSessionPublicKey_bytesToString laws]
  refine ⟨hparsed, ?_⟩
  rw [hparsed]
  constructor
  · intro h
    exact (congrArg PublicIdentity.typeId (Except.ok.inj h)).symm
  · intro h
    rw [← h]

variable {random : Blsttc.SecretKeySet} {seeds : ℕ → Secp256k1.Seed}
  {agent : CvmAgent} {wc : Bytes 32} {guardianPks : List EthPublicKey}
  {threshold : UInt64} {forkVersion : Version} {faults : List Fault}
  {V : Disk} {p : BlsKeygenPayload}

/-- The key that the agent returned reaches the guardian, its type only when it
is the one of secp256k1; the JSON form of an identity loses nothing. -/
theorem session_key_kept (laws : CvmAgentTypes.ReadsIdentities)
    (hstub : agent.stub = false)
    (h : (exec (attestFreshBlsKey random seeds agent wc guardianPks threshold
      forkVersion true) (faults, V)).1 = .ok p) :
    (∃ message proof,
      HandsToAgent (fun agent => exec (attestFreshBlsKey random seeds agent
        wc guardianPks threshold forkVersion true) (faults, V)) message ∧
      agent.signMessage message = some proof ∧
      KeepsKey p proof.sessionKey) ∧
    ∀ identity, parseSessionPublicKey (identityJson identity) =
      .ok identity := by
  obtain ⟨keys, message, w, proof, -, hrun, hproof, hp⟩ :=
    freshPayloadWith_of_attested hstub h
  have hprinted : p.sessionPublicKey = bytesToString proof.sessionKey.key :=
    congrArg BlsKeygenPayload.sessionPublicKey hp
  exact ⟨⟨message, proof, ⟨_, w, hrun⟩, hproof,
      keepsKey_of_printed laws hprinted⟩,
    parseSessionPublicKey_identityJson laws⟩

end SessionKey

section SampleSessionKey

open Exponent

-- After `Exponent`, so that texts are read by this reader.
open CompactJson

/-- An agent that signs with the session key `identity`. -/
def sessionAgent (identity : PublicIdentity) : CvmAgent where
  stub := false
  signMessage m := some {
    sessionId := List.Vector.replicate 32 9
    signature := m
    sessionKey := identity
    ownerKey := { typeId := 3, key := [5] } }

theorem exists_attestedRun_sessionAgent (identity : PublicIdentity) :
    ∃ p, (attestedRun (sessionAgent identity)).1 = .ok p :=
  attestFreshBlsKey_returns hexOfBytes ecies ⟨by decide, by decide⟩
    (fun _ _ => ⟨_, rfl⟩) Disk.empty

/-- A session key that is no secp256k1 key. -/
def otherIdentity : PublicIdentity := { typeId := 1, key := [4, 0xef] }

theorem session_key_kept_otherIdentity :
    ∃ p, (attestedRun (sessionAgent otherIdentity)).1 = .ok p ∧
      (∃ message proof, HandsToAgent attestedRun message ∧
        (sessionAgent otherIdentity).signMessage message = some proof ∧
        KeepsKey p proof.sessionKey) ∧
      ∀ identity, parseSessionPublicKey (identityJson identity) =
        .ok identity := by
  obtain ⟨p, hp⟩ := exists_attestedRun_sessionAgent otherIdentity
  exact ⟨p, hp, session_key_kept readsIdentities rfl hp⟩

/-- An identity of another type does not survive the payload. -/
theorem not_session_identity_kept :
    ∃ p message proof, (attestedRun (sessionAgent otherIdentity)).1 = .ok p ∧
      HandsToAgent attestedRun message ∧
      (sessionAgent otherIdentity).signMessage message = some proof ∧
      parseSessionPublicKey p.sessionPublicKey ≠ .ok proof.sessionKey := by
  obtain ⟨p, hp⟩ := exists_attestedRun_sessionAgent otherIdentity
  obtain ⟨keys, message, w, proof, -, hrun, hproof, hp'⟩ :=
    freshPayloadWith_of_attested rfl hp
  have hkeeps : KeepsKey p proof.sessionKey :=
    keepsKey_of_printed readsIdentities
      (congrArg BlsKeygenPayload.sessionPublicKey hp')
  refine ⟨p, message, proof, hp, ⟨_, w, hrun⟩, hproof, ?_⟩
  obtain rfl := Option.some.inj hproof
  intro hsame
  have htype : otherIdentity.typeId = 3 := hkeeps.same_iff.mp hsame
  exact absurd htype (by decide)

end SampleSessionKey

end ValidatorGuardian
