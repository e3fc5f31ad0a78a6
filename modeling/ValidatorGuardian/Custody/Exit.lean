import ValidatorGuardian.Crates.Pairing
import ValidatorGuardian.Custody.Approval

/-!
# Exits by the guardians together

Guardians that hold the shares of a key each return a signature share over the
voluntary exit.  The shares aggregate to a signature of the validator exactly
when there are enough of them for the threshold of the key set, which no check
of a guardian compares with the number of shares.
-/

namespace ValidatorGuardian

section Exit

variable [Blsttc]

/-! ## Exit shares -/

/-- The exit request for the guardian at place `i`. -/
def exitRequest (p : BlsKeygenPayload) (i : ℕ)
    (validatorIndex : ValidatorIndex) (forkInfo : ForkInfo) :
    SignExitRequest where
  blsPubKeySet := p.blsPubKeySet
  guardianIndex := UInt64.ofNat i
  validatorIndex := validatorIndex
  forkInfo := forkInfo

/-- The signature share in a response. -/
def SignExitResponse.signatureShare (response : SignExitResponse) :
    Option Blsttc.SignatureShare :=
  (Hex.decode response.signature).bind fun bytes =>
    (toArray? 96 bytes).bind Blsttc.signatureFromBytes

/-- The share of a public key share is stored under its name. -/
def HoldsShare (D : Disk) (pk : Blsttc.PublicKeyShare) : Prop :=
  ∃ s : Blsttc.SecretKeyShare, Blsttc.derivePublicKey s = pk ∧
    D .blsKeys (shareName s) =
      some (.text (Hex.encode (Blsttc.secretKeyToBytes s).toList))

theorem HoldsShare.of_kept {D D' : Disk} {pk : Blsttc.PublicKeyShare}
    (h : HoldsShare D pk) (hkept : KeysKept D D') : HoldsShare D' pk := by
  obtain ⟨s, hpk, hfile⟩ := h
  exact ⟨s, hpk, (hkept _ _).1 hfile⟩

variable [Hashing] [Eth2TreeHash]

/-- The guardian answers the request with `share` over `root`, and whatever
fails it answers with nothing else. -/
def AnswersExit (D : Disk) (req : SignExitRequest) (root : Root)
    (share : Blsttc.SignatureShare) : Prop :=
  ∃ response : SignExitResponse,
    response.signatureShare = some share ∧
      response.message = Hex.encode root.toList ∧
      exec (signVoluntaryExitMessage req) ([], D) =
        (.ok response, ([], D)) ∧
      ∀ faults response',
        (exec (signVoluntaryExitMessage req) (faults, D)).1 =
          .ok response' → response' = response

/-- A guardian that holds the share at its place answers with its signature. -/
theorem answersExit_sign (hbls : Blsttc.Encodings)
    (hshare : Blsttc.ShareAsKeySet) {p : BlsKeygenPayload}
    {pkSet : Blsttc.PublicKeySet} (hpkSet : p.publicKeySet = .ok pkSet)
    {D : Disk} {i : ℕ} (hi : i < 2 ^ 64) {s : Blsttc.SecretKeyShare}
    (hpk : Blsttc.derivePublicKey s = Blsttc.publicKeyShare pkSet i)
    (hfile : D .blsKeys (shareName s) =
      some (.text (Hex.encode (Blsttc.secretKeyToBytes s).toList)))
    (validatorIndex : ValidatorIndex) (forkInfo : ForkInfo) :
    AnswersExit D (exitRequest p i validatorIndex forkInfo)
      (exitRoot validatorIndex forkInfo)
      (Blsttc.sign s (exitRoot validatorIndex forkInfo).toList) := by
  obtain ⟨set, hset, hsecret⟩ := hshare s
  have hindex : (UInt64.ofNat i).toNat = i := UInt64.toNat_ofNat_of_lt' hi
  have hquery := query_signVoluntaryExitMessage
    (exitRequest p i validatorIndex forkInfo)
  have hsaved : savedKeySet D (shareName s) = some set := by
    simp [savedKeySet, Disk.key, Contents.key, hfile, hset]
  have hvalue : ((exitRequest p i validatorIndex forkInfo).publicKeySet >>=
      fun pkSet => (lookupKeySet D (Hex.encode (Blsttc.publicKeyToBytes
        (Blsttc.publicKeyShare pkSet (exitRequest p i validatorIndex
          forkInfo).guardianIndex.toNat)).toList)).map
        (exitResponse (exitRequest p i validatorIndex forkInfo))) =
      .ok (exitResponse (exitRequest p i validatorIndex forkInfo) set) := by
    change p.publicKeySet >>= _ = _
    simp only [hpkSet, Outcome.ok_bind, exitRequest, hindex, ← hpk]
    rw [← lookupKeySet_eq_ok, shareName] at hsaved
    rw [hsaved]
    rfl
  refine ⟨exitResponse (exitRequest p i validatorIndex forkInfo) set, ?_, rfl,
    hquery.returns hvalue, ?_⟩
  · simp [SignExitResponse.signatureShare, exitResponse, hsecret,
      hbls.signature, exitRequest]
  · intro faults response hresponse
    have hg := hquery.eq_of_ok hresponse
    rw [hvalue] at hg
    exact (Except.ok.inj hg).symm

/-- A guardian that holds the share at its place answers with a signature
share that verifies. -/
theorem answersExit_of_holdsShare (hbls : Blsttc.Encodings)
    (hshare : Blsttc.ShareAsKeySet) (hsign : Blsttc.SignVerifies)
    {p : BlsKeygenPayload} {pkSet : Blsttc.PublicKeySet}
    (hpkSet : p.publicKeySet = .ok pkSet) {D : Disk} {i : ℕ}
    (hi : i < 2 ^ 64) (h : HoldsShare D (Blsttc.publicKeyShare pkSet i))
    (validatorIndex : ValidatorIndex) (forkInfo : ForkInfo) :
    ∃ share, AnswersExit D (exitRequest p i validatorIndex forkInfo)
        (exitRoot validatorIndex forkInfo) share ∧
      Blsttc.verify (Blsttc.publicKeyShare pkSet i) share
        (exitRoot validatorIndex forkInfo).toList = true := by
  obtain ⟨s, hpk, hfile⟩ := h
  refine ⟨_, answersExit_sign hbls hshare hpkSet hi hpk hfile validatorIndex
    forkInfo, ?_⟩
  rw [← hpk]
  exact hsign _ _

/-! ## Aggregation -/

/-- The exit shares of all guardians, aggregated in order, make a signature of
the validator key over the exit. -/
def ExitsTogether (p : BlsKeygenPayload) (pkSet : Blsttc.PublicKeySet)
    (stores : ℕ → Disk) (validatorIndex : ValidatorIndex)
    (forkInfo : ForkInfo) : Prop :=
  ∃ shares : List Blsttc.SignatureShare,
    shares.length = p.blsEncPrivKeyShares.length ∧
      (∀ i (hi : i < shares.length),
        AnswersExit (stores i) (exitRequest p i validatorIndex forkInfo)
          (exitRoot validatorIndex forkInfo) shares[i]) ∧
      strip0xPrefix p.blsPubKey =
        Hex.encode (pubKeyBytes pkSet).toList ∧
      ∃ sig, aggregateSignatureShares pkSet shares = .ok sig ∧
        Blsttc.verify (Blsttc.publicKey pkSet) sig
          (exitRoot validatorIndex forkInfo).toList = true

section Aggregation

variable {F G₁ G₂ GT : Type} [Field F] [AddCommGroup G₁] [Module F G₁]
  [AddCommGroup G₂] [Module F G₂] [AddCommGroup GT] [Module F GT]

/-- Guardians that hold the shares exit together exactly when there are enough
of them. -/
theorem exitsTogether_of_holdsShare (G : Blsttc.Groups F G₁ G₂ GT)
    (hbls : Blsttc.Encodings) (hshare : Blsttc.ShareAsKeySet)
    {p : BlsKeygenPayload} {pkSet : Blsttc.PublicKeySet}
    (hpkSet : p.publicKeySet = .ok pkSet)
    (hlength : p.blsEncPrivKeyShares.length < 2 ^ 64)
    (hname : 0 < p.blsEncPrivKeyShares.length →
      strip0xPrefix p.blsPubKey = Hex.encode (pubKeyBytes pkSet).toList)
    {stores : ℕ → Disk}
    (hholds : ∀ i < p.blsEncPrivKeyShares.length,
      HoldsShare (stores i) (Blsttc.publicKeyShare pkSet i))
    (validatorIndex : ValidatorIndex) (forkInfo : ForkInfo) :
    ExitsTogether p pkSet stores validatorIndex forkInfo ↔
      (Blsttc.threshold pkSet).toNat < p.blsEncPrivKeyShares.length := by
  constructor
  · rintro ⟨shares, hlen, -, -, sig, hsig, -⟩
    by_contra hfew
    rw [aggregateSignatureShares_eq_ok, G.combine_few _ _ (by simp; omega)]
      at hsig
    cases hsig
  · intro hmany
    have hanswers := fun i : Fin p.blsEncPrivKeyShares.length =>
      answersExit_of_holdsShare hbls hshare G.signVerifies hpkSet
        (lt_trans i.2 hlength) (hholds i i.2) validatorIndex forkInfo
    choose share hanswer hverify using hanswers
    have hverified : ∀ i (hi : i < (List.ofFn share).length),
        Blsttc.verify (Blsttc.publicKeyShare pkSet i) (List.ofFn share)[i]
          (exitRoot validatorIndex forkInfo).toList = true := by
      intro i hi
      rw [List.getElem_ofFn]
      exact hverify ⟨i, by simpa using hi⟩
    obtain ⟨sig, hsig, hsigned⟩ :=
      (G.verify_combined hverified).mpr (by simpa using hmany)
    refine ⟨List.ofFn share, List.length_ofFn, ?_, hname (by omega), sig, ?_,
      hsigned⟩
    · intro i hi
      rw [List.getElem_ofFn]
      exact hanswer _
    · exact aggregateSignatureShares_eq_ok.mpr hsig

/-! ## Custody by all guardians -/

variable [Secp256k1] [Ethers] [CvmAgentTypes]

/-- The guardian with files `D` accepts the payload, is left with the files
`D'`, and holds the share of `pk` there. -/
def TakesCustody (p : BlsKeygenPayload) (pk : Blsttc.PublicKeyShare)
    (D D' : Disk) : Prop :=
  ∃ faults registry request response,
    request.keygenPayload = p ∧
      (exec (verifyAndSignCustodyReceived registry request)
        (faults, D)).1 = .ok response ∧
      (exec (verifyAndSignCustodyReceived registry request)
        (faults, D)).2.2 = D' ∧
      HoldsShare D' pk

omit [Field F] [AddCommGroup G₁] [Module F G₁] [AddCommGroup G₂] [Module F G₂]
  [AddCommGroup GT] [Module F GT] in
/-- Who accepts a payload with a single share holds that share. -/
theorem takesCustody_of_single (hbls : Blsttc.Encodings)
    (hhex : Blsttc.HexOfBytes) {faults : List Fault} {D : Disk}
    {registry : SessionRegistry} {request : ValidateCustodyRequest}
    {response : ValidateCustodyResponse} {pkSet : Blsttc.PublicKeySet}
    (hpkSet : request.keygenPayload.publicKeySet = .ok pkSet)
    (hsingle : request.keygenPayload.blsEncPrivKeyShares.length = 1)
    (hexec : (exec (verifyAndSignCustodyReceived registry request)
      (faults, D)).1 = .ok response) :
    TakesCustody request.keygenPayload (Blsttc.publicKeyShare pkSet 0) D
      (exec (verifyAndSignCustodyReceived registry request)
        (faults, D)).2.2 := by
  obtain ⟨share, haccepted, hD'⟩ := accepted_of_exec hexec
  obtain ⟨sk, -, hverify, -⟩ := haccepted.custody
  obtain ⟨-, i, hi, -, hshare⟩ :=
    opensTo_of_verifyCustody hbls hhex hpkSet hverify
  have hi0 : i = 0 := by omega
  rw [hi0] at hshare
  refine ⟨faults, registry, request, response, rfl, hexec, rfl, share, hshare,
    ?_⟩
  rw [hD']
  exact Disk.set_same ..

/-- When every guardian has accepted the payload and stored the share at its
place, and no key file has been changed since, they exit together exactly when
there are more shares than the threshold of the key set. -/
theorem full_approval_exits (G : Blsttc.Groups F G₁ G₂ GT)
    (hbls : Blsttc.Encodings) (hhex : Blsttc.HexOfBytes)
    (hshare : Blsttc.ShareAsKeySet) {p : BlsKeygenPayload}
    {pkSet : Blsttc.PublicKeySet} (hpkSet : p.publicKeySet = .ok pkSet)
    (hlength : p.blsEncPrivKeyShares.length < 2 ^ 64)
    {before after later : ℕ → Disk}
    (hcustody : ∀ i < p.blsEncPrivKeyShares.length,
      TakesCustody p (Blsttc.publicKeyShare pkSet i) (before i) (after i))
    (hkept : ∀ i < p.blsEncPrivKeyShares.length,
      KeysKept (after i) (later i))
    (validatorIndex : ValidatorIndex) (forkInfo : ForkInfo) :
    ExitsTogether p pkSet later validatorIndex forkInfo ↔
      (Blsttc.threshold pkSet).toNat + 1 ≤ p.blsEncPrivKeyShares.length := by
  refine exitsTogether_of_holdsShare G hbls hshare hpkSet hlength ?_ ?_
    validatorIndex forkInfo
  · intro hpos
    obtain ⟨faults, registry, request, response, rfl, hexec, -⟩ :=
      hcustody 0 hpos
    obtain ⟨share, haccepted, -⟩ := accepted_of_exec hexec
    obtain ⟨sk, -, hverify, -⟩ := haccepted.custody
    exact (opensTo_of_verifyCustody hbls hhex hpkSet hverify).1
  · intro i hi
    obtain ⟨-, -, -, -, -, -, -, hholds⟩ := hcustody i hi
    exact hholds.of_kept (hkept i hi)

end Aggregation

end Exit

section SampleExit

open Exponent

/-- The only guardian of a payload, before it takes custody. -/
def loneGuardian : Disk := setEthKey Disk.empty (guardianKey 1)

/-- The request for custody of a payload with one share of `P`. -/
def loneRequest (P : Poly) : ValidateCustodyRequest :=
  custodyRequest (payloadFor P [guardianKey 1]) (guardianKey 1)

/-- The files of the guardian after the request. -/
def loneGuardianAfter (P : Poly) : Disk :=
  (exec (verifyAndSignCustodyReceived noRegistry (loneRequest P))
    ([], loneGuardian)).2.2

theorem takesCustody_lone (P : Poly)
    (haccepts : (exec (verifyAndSignCustodyReceived noRegistry
      (loneRequest P)) ([], loneGuardian)).1.toOption.isSome = true) :
    ∀ i < (payloadFor P [guardianKey 1]).blsEncPrivKeyShares.length,
      TakesCustody (payloadFor P [guardianKey 1])
        (P.value (sharePoint i)) loneGuardian
        (loneGuardianAfter P) := by
  intro i hi
  obtain ⟨response, hresponse⟩ := Option.isSome_iff_exists.mp haccepts
  rw [Outcome.toOption_eq_some] at hresponse
  have hi0 : i = 0 := Nat.lt_one_iff.mp hi
  rw [hi0]
  exact takesCustody_of_single encodings hexOfBytes
    (publicKeySet_payloadFor P _) rfl hresponse

theorem full_approval_exits_constant :
    ExitsTogether (payloadFor (constant 3) [guardianKey 1]) (constant 3)
        (fun _ => loneGuardianAfter (constant 3)) 7 genesisForkInfo ↔
      0 + 1 ≤ 1 :=
  full_approval_exits groups encodings hexOfBytes shareAsKeySet
    (publicKeySet_payloadFor _ _) (by decide)
    (takesCustody_lone (constant 3) (by decide +kernel))
    (fun _ _ => KeysKept.refl _) 7 genesisForkInfo

/-- A single share of a key set of threshold one is accepted and stored by
every guardian, and does not make an exit. -/
theorem not_exitsTogether_line :
    (∀ i < (payloadFor (line 3 5) [guardianKey 1]).blsEncPrivKeyShares.length,
      TakesCustody (payloadFor (line 3 5) [guardianKey 1])
        (Blsttc.publicKeyShare (line 3 5) i) loneGuardian
        (loneGuardianAfter (line 3 5))) ∧
      ¬ ExitsTogether (payloadFor (line 3 5) [guardianKey 1]) (line 3 5)
        (fun _ => loneGuardianAfter (line 3 5)) 7 genesisForkInfo := by
  refine ⟨takesCustody_lone (line 3 5) (by decide +kernel), ?_⟩
  rintro ⟨shares, hlength, -, -, sig, hsig, -⟩
  have hfew : (shares.zipIdx.map fun s => (s.2, s.1)).length ≤ 1 := by
    rw [List.length_map, List.length_zipIdx]
    exact hlength.le
  rw [aggregateSignatureShares_eq_ok, groups.combine_few _ _ hfew] at hsig
  cases hsig

end SampleExit

end ValidatorGuardian
