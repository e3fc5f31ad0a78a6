import ValidatorGuardian.Crypto.Aggregation
import ValidatorGuardian.Signing.KeyPool

/-!
# Two ways to exit a validator

A validator can be exited by its signer, which is asked for the signature of a
voluntary exit, and by its guardians, who each sign with the share they hold.
The signer generates keys and signs while it does, and the guardians serve any
requests; at every later moment the two ways give one signature.
-/

namespace ValidatorGuardian

open Effect

/-- The message that a client asks the signer of a validator to sign for its
exit. -/
def exitMessage (epoch : Epoch) (validatorIndex : ValidatorIndex)
    (forkInfo : ForkInfo) : BLSSignMsg :=
  .VOLUNTARY_EXIT {
    forkInfo := forkInfo
    signingRoot := none
    voluntaryExit := { epoch := epoch, validatorIndex := validatorIndex } }

section Agreement

variable [Blsttc] [SerdeHex] [Secp256k1] [Hashing] [Eth2TreeHash]

/-- The signer answers the request with the signature and, whatever fails it,
releases no other. -/
def SignsOnly (V : Disk) (r : SigningRequest) (sig : Blsttc.Signature) :
    Prop :=
  (exec (signValidatorMessage r.blsPkHex r.genesisForkVersion r.req)
      ([], V)).1 =
    .ok ⟨.OK, .json (SignatureResponse.new
      (Blsttc.signatureToBytes sig).toList)⟩ ∧
  ∀ faults response,
    (exec (signValidatorMessage r.blsPkHex r.genesisForkVersion r.req)
      (faults, V)).1 = .ok response → response.status = .OK →
    response.body = .json (SignatureResponse.new
      (Blsttc.signatureToBytes sig).toList)

omit [Blsttc] [SerdeHex] [Secp256k1] in
theorem root_exitMessage (v : Version) (validatorIndex : ValidatorIndex)
    (forkInfo : ForkInfo) :
    (exitMessage 0 validatorIndex forkInfo).toSigningRoot (some v) =
      exitRoot validatorIndex forkInfo := rfl

omit [Secp256k1] in
/-- A usable key signs what carries no duty, and nothing else is signed under
its name. -/
theorem KeyUsable.signsOnly (laws : BlsLaws) {V : Disk}
    {set : Blsttc.SecretKeySet} (h : KeyUsable V set) {r : SigningRequest}
    (hname : strip0xPrefix r.blsPkHex = pkHexOf set)
    (hupper : r.req.isUpperDeposit = false) (hduty : r.req.duty = none) :
    SignsOnly V r (blsAggSign set
      (r.req.toSigningRoot (some r.genesisForkVersion)).toList) := by
  obtain ⟨db, response, -, hexec, hok, hbody⟩ := h.signs r hname hupper
  have hstatus : response.status = .OK := by
    rw [hok, hduty]
    rintro d ⟨⟩
  constructor
  · rw [hexec]
    have hbody := hbody hstatus
    cases response
    cases hstatus
    cases hbody
    rfl
  · intro faults response' hexec' hstatus'
    obtain ⟨l, -, hreleased⟩ := exec_signValidatorMessage faults V r.blsPkHex
      r.genesisForkVersion r.req
    obtain ⟨set', hname', hbody'⟩ :=
      (hreleased response' hexec' hstatus').signed
    change strip0xPrefix r.blsPkHex = pkHexOf set' at hname'
    rw [hname, pkHexOf_eq laws.hex, pkHexOf_eq laws.hex] at hname'
    obtain ⟨-, hsecret⟩ := secretKey_of_blsKeyName laws hname'
    rw [hbody', blsAggSign, blsAggSign, hsecret]

/-- The shares of the guardians aggregate to a signature of the validator over
its exit, and this is the signature that the signer answers the exit with,
under the name in the payload with or without its prefix. -/
def ExitsAgree (p : BlsKeygenPayload) (pkSet : Blsttc.PublicKeySet)
    (stores : ℕ → Disk) (V : Disk) (validatorIndex : ValidatorIndex)
    (forkInfo : ForkInfo) : Prop :=
  ∃ (shares : List Blsttc.SignatureShare) (sig : Blsttc.Signature),
    shares.length = p.blsEncPrivKeyShares.length ∧
      (∀ i (hi : i < shares.length),
        AnswersExit (stores i) (exitRequest p i validatorIndex forkInfo)
          (exitRoot validatorIndex forkInfo) shares[i]) ∧
      aggregateSignatureShares pkSet shares = .ok sig ∧
      Blsttc.verify (Blsttc.publicKey pkSet) sig
        (exitRoot validatorIndex forkInfo).toList = true ∧
      ∀ path v, strip0xPrefix path = strip0xPrefix p.blsPubKey →
        SignsOnly V ⟨path, v, exitMessage 0 validatorIndex forkInfo⟩ sig

omit [SerdeHex] [Secp256k1] in
/-- A guardian that holds the share of a generated key at its place signs with
the secret of that place. -/
theorem answersExit_of_generated (laws : BlsLaws)
    (hshare : Blsttc.ShareAsKeySet) {random : Blsttc.SecretKeySet}
    {p : BlsKeygenPayload}
    (hpkSet : p.publicKeySet = .ok (Blsttc.publicKeys random)) {D : Disk}
    {i : ℕ} (hi : i < 2 ^ 64)
    (h : HoldsShare D (Blsttc.publicKeyShare (Blsttc.publicKeys random) i))
    (validatorIndex : ValidatorIndex) (forkInfo : ForkInfo) :
    AnswersExit D (exitRequest p i validatorIndex forkInfo)
      (exitRoot validatorIndex forkInfo)
      (Blsttc.sign (Blsttc.secretKeyShare random i)
        (exitRoot validatorIndex forkInfo).toList) := by
  obtain ⟨s, hpk, hfile⟩ := h
  have hs : s = Blsttc.secretKeyShare random i := by
    apply laws.secret
    rw [hpk, laws.keySets.publicKeyShare]
  rw [← hs]
  exact answersExit_sign laws.bls hshare hpkSet hi hpk hfile validatorIndex
    forkInfo

variable {F G₁ G₂ GT : Type} [Field F] [AddCommGroup G₁] [Module F G₁]
  [AddCommGroup G₂] [Module F G₂] [AddCommGroup GT] [Module F GT]

omit [Secp256k1] in
/-- Guardians that hold all shares of a usable key agree with its signer. -/
theorem exitsAgree_of_holdsShare (L : Blsttc.Dealing F G₁ G₂ GT)
    (laws : BlsLaws) (hshare : Blsttc.ShareAsKeySet)
    {random : Blsttc.SecretKeySet} {p : BlsKeygenPayload}
    (hpkSet : p.publicKeySet = .ok (Blsttc.publicKeys random))
    (hname : strip0xPrefix p.blsPubKey = pkHexOf random)
    (hlength : p.blsEncPrivKeyShares.length < 2 ^ 64)
    (hmany : (Blsttc.secretThreshold random).toNat <
      p.blsEncPrivKeyShares.length)
    {stores : ℕ → Disk}
    (hholds : ∀ i < p.blsEncPrivKeyShares.length, HoldsShare (stores i)
      (Blsttc.publicKeyShare (Blsttc.publicKeys random) i))
    {V : Disk} (hV : KeyUsable V random) (validatorIndex : ValidatorIndex)
    (forkInfo : ForkInfo) :
    ExitsAgree p (Blsttc.publicKeys random) stores V validatorIndex
      forkInfo := by
  refine ⟨(List.range p.blsEncPrivKeyShares.length).map fun i =>
      Blsttc.sign (Blsttc.secretKeyShare random i)
        (exitRoot validatorIndex forkInfo).toList,
    Blsttc.sign (Blsttc.secretKey random)
      (exitRoot validatorIndex forkInfo).toList, by simp, ?_,
    (L.aggregates_range_iff random _ _).mpr hmany, ?_, ?_⟩
  · intro i hi
    rw [List.length_map, List.length_range] at hi
    rw [List.getElem_map, List.getElem_range]
    exact answersExit_of_generated laws hshare hpkSet (hi.trans hlength)
      (hholds i hi) validatorIndex forkInfo
  · rw [laws.keySets.publicKey]
    exact L.signVerifies _ _
  · intro path v hpath
    have hsigns := hV.signsOnly laws
      (r := ⟨path, v, exitMessage 0 validatorIndex forkInfo⟩)
      (hpath.trans hname) rfl rfl
    rwa [root_exitMessage, blsAggSign] at hsigns

variable [Ethers] [CvmAgentTypes]
  {ι κ : Type} [DecidableEq ι] [DecidableEq κ]

/-- A signer answers a key generation with a payload, for guardians with
different keys and with no more needed shares than guardians, while it serves
any other requests; and each guardian, serving any requests too, takes custody
of it at some moment.  All start with well-named files, and no write is torn.
Then at every later moment of the signer and of every guardian the two ways to
exit the validator agree. -/
theorem exits_agree (L : Blsttc.Dealing F G₁ G₂ GT) (keys : KeyLaws)
    (laws : BlsLaws) (hshare : Blsttc.ShareAsKeySet)
    (hecies : Secp256k1.Ecies)
    {random : Blsttc.SecretKeySet} {seeds : ℕ → Secp256k1.Seed}
    {agent : CvmAgent} {wc : Bytes 32} {guardianPks : List EthPublicKey}
    {threshold : UInt64} {forkVersion : Version} {attest : Bool}
    (hnodup : guardianPks.Nodup)
    (hthreshold : threshold.toNat ≤ guardianPks.length)
    (hlength : guardianPks.length < 2 ^ 64)
    (hsealed : SealedShares random seeds guardianPks)
    {V : Disk} (hV : SignerStore False V) {signing : κ → SignerRequest}
    {PV QV : SignerPool κ}
    (hsigner : SignerServes False (signerArrived signing V) PV) {t : κ}
    (hkeygen : signing t = .attestFreshBlsKey random seeds agent wc
      guardianPks threshold forkVersion attest)
    {p : BlsKeygenPayload} (hpayload : SignerAnswered PV t (.payload p))
    (hsignerLater : SignerServes False PV QV)
    {D : ℕ → Disk} (hD : ∀ i, KeyStore False (D i))
    {reqs : ℕ → ι → GuardianRequest} {P Q : ℕ → GuardianPool ι}
    (hrun : ∀ i, Serves False (guardianArrived (reqs i) (D i)) (P i))
    (hcustody : ∀ i (hi : i < guardianPks.length),
      HasTakenCustody p guardianPks[i] (reqs i) (P i))
    (hlater : ∀ i, Serves False (P i) (Q i))
    (validatorIndex : ValidatorIndex) (forkInfo : ForkInfo) :
    ExitsAgree p (Blsttc.publicKeys random) (fun i => (Q i).state) QV.state
      validatorIndex forkInfo := by
  have hfiled := signerFiled_of_serves laws.hex hV hsigner
  -- the payload is the one that was generated
  obtain ⟨seen, -, hbacked⟩ := hfiled.returned hpayload
  have hreply := hbacked _ rfl
  rw [hkeygen] at hreply
  obtain ⟨⟨hdrawn, encrypted, hkeys, hp⟩, -⟩ := hreply
  have hshares := congrArg BlsKeygenPayload.blsEncPrivKeyShares hp
  change p.blsEncPrivKeyShares = _ at hshares
  have hcount : p.blsEncPrivKeyShares.length = guardianPks.length := by
    rw [hshares, freshPayload, List.length_map, hkeys.length_eq]
  have hname := congrArg BlsKeygenPayload.blsPubKey hp
  change p.blsPubKey = _ at hname
  have hpubKey : strip0xPrefix p.blsPubKey = pkHexOf random := by
    rw [hname, freshPayload, pkHexOf, laws.hex, strip0xPrefix_encode]
  have husable : KeyUsable QV.state random := by
    apply hfiled.usable laws ?_ hpayload hsignerLater
    rw [hkeygen, SignerRequest.generates]
  have hdegree := hdrawn.toNat_eq
  refine exitsAgree_of_holdsShare L laws hshare
    (decodes_of_fresh laws.bls hdrawn.hasPublicKey hp).publicKeySet_eq hpubKey
    (by omega) (by omega) ?_ husable validatorIndex forkInfo
  intro i hi
  rw [hcount] at hi
  exact holdsShare_of_hasTakenCustody keys laws.keySets hecies
    hdrawn.hasPublicKey hnodup hsealed hkeys hp hi (hD i) (hrun i)
    (hcustody i hi) (hlater i)

end Agreement

section SampleAgreement

open Exponent

/-- The payload that the signer has generated, for the guardians with the keys
one and two. -/
def generatedPayload : Option BlsKeygenPayload :=
  ((sampleSignerPool.task 0).result?.bind Except.toOption).bind fun
    | .payload p => some p
    | _ => none

theorem isSome_generatedPayload : generatedPayload.isSome = true := by
  decide +kernel

theorem signerAnswered_generatedPayload : SignerAnswered sampleSignerPool 0
    (.payload (generatedPayload.get isSome_generatedPayload)) := by
  have hsome := (Option.some_get isSome_generatedPayload).symm
  obtain ⟨reply, hreply, hpayload⟩ := Option.bind_eq_some_iff.mp hsome
  obtain ⟨r, hr, hok⟩ := Option.bind_eq_some_iff.mp hreply
  rw [SignerAnswered, Program.eq_ret_of_result? hr,
    Outcome.toOption_eq_some.mp hok]
  cases reply with
  | payload p =>
      rw [← Option.some.inj hpayload]
  | _ => cases hpayload

theorem responds_generatedPayload : ∀ i < 2, (custodyResponse? (servedCustody
    (generatedPayload.get isSome_generatedPayload) (i + 1))).isSome =
      true := by
  decide +kernel

theorem exits_agree_generatedPayload :
    ExitsAgree (generatedPayload.get isSome_generatedPayload) (line 3 5)
      (fun i => (rotatedKey (generatedPayload.get
        isSome_generatedPayload) (i + 1)).state)
      sampleSignerPool.state 7 genesisForkInfo := by
  have hne : guardianKey 1 ≠ guardianKey 2 := by decide
  have hempty : SignerStore False Disk.empty := by
    intro k c hc
    cases hc
  refine exits_agree dealing keyLaws blsLaws shareAsKeySet ecies
    (List.nodup_cons.mpr ⟨by simpa using hne, List.nodup_singleton _⟩)
    (by decide) (by decide) (sealedShares _ _ _) hempty
    serves_sampleSignerTurns (t := 0) rfl signerAnswered_generatedPayload .refl
    (fun i => (keyStore_of_noKeys noKeys_empty).setEth
      (.inl ⟨sampleKeys (i + 1), rfl, rfl⟩))
    (fun i => serves_runSchedule (by decide) _) ?_
    (fun i => serves_runSchedule (by decide) _) 7 genesisForkInfo
  intro i hi
  have hlength : i < 2 := hi
  have hkey : [guardianKey 1, guardianKey 2][i] = sampleKeys (i + 1) := by
    have hcases : i = 0 ∨ i = 1 := by omega
    rcases hcases with rfl | rfl <;> rfl
  rw [hkey]
  exact hasTakenCustody_of_response (responds_generatedPayload i hlength)

end SampleAgreement

end ValidatorGuardian
