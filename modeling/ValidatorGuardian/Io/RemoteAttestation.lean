import ValidatorGuardian.Crates.Ethereum

/-!
# Attestation evidence

The CVM agent signs a payload with its session key.  With the agent stubbed out
the evidence is empty.
-/

namespace ValidatorGuardian

structure AttestationEvidence where
  sessionId : Str
  signature : Str
  sessionPublicKey : PublicIdentity
  ownerPublicKey : PublicIdentity

/-- Bytes print as lower-case hex behind `0x`. -/
def bytesToString (bs : List UInt8) : Str :=
  '0' :: 'x' :: Hex.encode bs

namespace AttestationEvidence

/-- `AttestationEvidence::default()`. -/
def empty : AttestationEvidence where
  sessionId := []
  signature := []
  sessionPublicKey := { typeId := 0, key := [] }
  ownerPublicKey := { typeId := 0, key := [] }

/-- Create new attestation evidence by signing `data` with the CVM session
key. -/
def new (agent : CvmAgent) (data : List UInt8) :
    Outcome AttestationEvidence := do
  if agent.stub then
    return empty
  else
    let resp ← Outcome.okOr .cvmAgent (agent.signMessage data)
    return {
      sessionId := bytesToString resp.sessionId.toList
      signature := bytesToString resp.signature
      sessionPublicKey := resp.sessionKey
      ownerPublicKey := resp.ownerKey }

/-- The evidence that is printed from an answer of the agent. -/
def ofProof (proof : SessionProof) : AttestationEvidence where
  sessionId := bytesToString proof.sessionId.toList
  signature := bytesToString proof.signature
  sessionPublicKey := proof.sessionKey
  ownerPublicKey := proof.ownerKey

/-- Evidence of an agent that is not stubbed out is printed from its answer. -/
theorem new_eq_ok {agent : CvmAgent} (hstub : agent.stub = false)
    {data : List UInt8} {evidence : AttestationEvidence} :
    new agent data = .ok evidence ↔
      ∃ proof, agent.signMessage data = some proof ∧
        evidence = ofProof proof := by
  rw [new, hstub]
  cases agent.signMessage data with
  | none => simp [Outcome.okOr]
  | some proof =>
      rw [Outcome.okOr, if_neg Bool.false_ne_true, Outcome.ok_bind]
      constructor
      · intro h
        exact ⟨proof, rfl, (Except.ok.inj h).symm⟩
      · rintro ⟨proof', hproof, rfl⟩
        rw [Option.some.inj hproof]
        rfl

end AttestationEvidence

end ValidatorGuardian
