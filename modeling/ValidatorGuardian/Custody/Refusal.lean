import ValidatorGuardian.Custody.HonestFlow

/-!
# A refused custody request

The share is stored before the guardian signs its approval.  Whatever the
approval parses has been parsed by the check of the deposit, so nothing but the
write itself can fail once the share has been found.
-/

namespace ValidatorGuardian

section Refusal

variable [Blsttc] [Secp256k1] [Ethers] [CvmAgentTypes] [Hashing]
  [Eth2TreeHash]

omit [CvmAgentTypes] in
/-- What the approval needs has been checked with the deposit. -/
theorem exists_approveCustody_of_deposit (hwallet : Ethers.WalletSigns)
    {p : BlsKeygenPayload} (hdeposit : verifyDepositMessage p = .ok ())
    (sk : EthSecretKey) (validatorIndex : ValidatorIndex) :
    ∃ signature, approveCustody p sk validatorIndex = .ok signature := by
  obtain ⟨pkSet, wc, sigBytes, sig, hdecodes⟩ :=
    exists_decodes_of_verifyDepositMessage hdeposit
  exact exists_approveCustody hwallet hdecodes sk validatorIndex

/-- The write of the share is what failed: its error is returned, and
everything else that the request asks for succeeds. -/
structure ShareWriteFailed (registry : SessionRegistry)
    (request : ValidateCustodyRequest) (D : Disk) (f : Failure) : Prop where
  error : f = .err keyWriteError
  session : request.verifySession = true →
    verifySessionEvidence registry request.keygenPayload
      request.workloadId = .ok ()
  deposit : verifyDepositMessage request.keygenPayload = .ok ()
  custody : ∃ sk share signature,
    savedEthKey D (ethPkToHex request.guardianEnclavePublicKey) = some sk ∧
      verifyCustody request.keygenPayload sk = .ok share ∧
      approveCustody request.keygenPayload sk request.validatorIndex =
        .ok signature

/-- A request that ends in a failure changes nothing, unless the write of the
share failed. -/
theorem triple_refusal (hwallet : Ethers.WalletSigns) {D : Disk}
    (registry : SessionRegistry) (request : ValidateCustodyRequest) :
    Triple (fun _ => True) (· = D)
      (verifyAndSignCustodyReceived registry request)
      fun r D' => ∀ f, r = .error f →
        D' = D ∨ ShareWriteFailed registry request D f := by
  have happrove : ∀ sk s, Checked registry request D sk s → ∃ signature,
      approveCustody request.keygenPayload sk request.validatorIndex =
        .ok signature :=
    fun sk s h => exists_approveCustody_of_deposit hwallet h.deposit sk _
  refine Triple.verifyAndSignCustodyReceived trivial ?_ ?_ ?_ ?_
  · exact fun f _ _ _ => .inl rfl
  · exact fun e sk s _ _ _ => .inl rfl
  · rintro n - sk s h f ⟨⟩
    obtain ⟨signature, hsignature⟩ := happrove sk s h
    exact .inr ⟨rfl, h.verified, h.deposit, sk, s, signature, h.key,
      h.custody, hsignature⟩
  · intro sk s h f hf
    obtain ⟨signature, hsignature⟩ := happrove sk s h
    rw [hsignature] at hf
    cases hf

/-- A refused request leaves the key store as it was, for every reason but a
write that fails: once the deposit has been checked, the approval succeeds. -/
theorem refusal_keeps_store (hwallet : Ethers.WalletSigns)
    (registry : SessionRegistry) (request : ValidateCustodyRequest)
    (faults : List Fault) (D : Disk) :
    (∀ f, (exec (verifyAndSignCustodyReceived registry request)
        (faults, D)).1 = .error f →
      ¬ ShareWriteFailed registry request D f →
      ∀ dir, (exec (verifyAndSignCustodyReceived registry request)
        (faults, D)).2.2 dir = D dir) ∧
    (verifyDepositMessage request.keygenPayload = .ok () →
      ∀ sk, ∃ signature, approveCustody request.keygenPayload sk
        request.validatorIndex = .ok signature) := by
  constructor
  · intro f hf hreason dir
    have hfaults : ∀ fault ∈ faults, True := fun _ _ => trivial
    have hspec := (triple_refusal hwallet (D := D) registry
      request).exec_spec hfaults rfl
    rcases hspec f hf with hsame | hfailed
    · rw [hsame]
    · exact absurd hfailed hreason
  · exact fun hdeposit sk =>
      exists_approveCustody_of_deposit hwallet hdeposit sk _

end Refusal

section SampleRefusal

open Exponent

/-- A request with a share that is sealed for another guardian. -/
def foreignRequest : ValidateCustodyRequest :=
  custodyRequest (payloadFor (constant 3) [guardianKey 2]) (guardianKey 1)

theorem refusal_keeps_store_foreign :
    ∃ f, (exec (verifyAndSignCustodyReceived noRegistry foreignRequest)
        ([], loneGuardian)).1 = .error f ∧
      ∀ dir, (exec (verifyAndSignCustodyReceived noRegistry foreignRequest)
        ([], loneGuardian)).2.2 dir = loneGuardian dir := by
  have hkey : savedEthKey loneGuardian (ethPkToHex (guardianKey 1)) =
      some (guardianKey 1) :=
    KeyStore.savedEthKey_setEthKey ethEncodings Disk.empty (guardianKey 1)
  have hcustody : (verifyCustody foreignRequest.keygenPayload
      (guardianKey 1)).toOption.isSome = false := by decide +kernel
  have hrefused : (exec (verifyAndSignCustodyReceived noRegistry
      foreignRequest) ([], loneGuardian)).1.toOption.isSome = false := by
    decide +kernel
  match hresult : (exec (verifyAndSignCustodyReceived noRegistry
      foreignRequest) ([], loneGuardian)).1 with
  | .ok response =>
      rw [hresult] at hrefused
      cases hrefused
  | .error f =>
      refine ⟨f, rfl, (refusal_keeps_store walletSigns noRegistry
        foreignRequest [] loneGuardian).1 f hresult ?_⟩
      rintro ⟨-, -, -, sk, share, -, hsk, hshare, -⟩
      have hsame : guardianKey 1 = sk := Option.some.inj (hkey.symm.trans hsk)
      rw [hsame, hshare] at hcustody
      cases hcustody

end SampleRefusal

end ValidatorGuardian
