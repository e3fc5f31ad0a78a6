import ValidatorGuardian.Custody.Keygen
import ValidatorGuardian.Custody.Malformed
import ValidatorGuardian.Enclave.SecureSigner

/-!
# The paths of a deposit

A deposit is signed with a saved key on request, signed with a key that has
just been drawn, and checked by a guardian.  Each of the three builds the
deposit message, its signing root and the deposit data on its own, and all of
them build the same.
-/

namespace ValidatorGuardian

section Paths

variable [Blsttc]

/-! ## Signing with a saved key -/

/-- Some run of `save_bls_key` saves the key set. -/
def IsSaved (set : Blsttc.SecretKeySet) : Prop :=
  ∃ w, (exec (saveBlsKey set) w).1 = .ok ()

/-- The hex of the public key of a key set. -/
def pkHexOf (set : Blsttc.SecretKeySet) : Str :=
  Blsttc.publicKeyToHex (Blsttc.publicKey (Blsttc.publicKeys set))

/-- The key set is found under the hex of its public key. -/
def HoldsKey (D : Disk) (set : Blsttc.SecretKeySet) : Prop :=
  signingKeySet D (pkHexOf set) = some set

/-- The message of a full deposit for a key set. -/
def keyDeposit (set : Blsttc.SecretKeySet) (wc : Bytes 32) : DepositMessage :=
  fullDeposit (pubKeyBytes (Blsttc.publicKeys set)) wc

variable [Hashing] [Eth2TreeHash]

/-- `get_deposit_signature` returns this signature and this root for a full
deposit of the key; whatever faults occur, it returns no others. -/
structure SignsFullDeposit (D : Disk) (set : Blsttc.SecretKeySet)
    (wc : Bytes 32) (v : Version) (sig : BLSSignature) (root : Root) :
    Prop where
  returns : Returns (getDepositSignature (pkHexOf set) (keyDeposit set wc) v)
    ([], D)
  agrees : ∀ faults resp,
    (exec (getDepositSignature (pkHexOf set) (keyDeposit set wc) v)
      (faults, D)).1 = .ok resp →
    resp.signature = Hex.encode sig.toList ∧
      resp.depositDataRoot = Hex.encode root.toList

/-- The response for a full deposit of a key set. -/
def keyDepositResponse (set : Blsttc.SecretKeySet) (wc : Bytes 32)
    (v : Version) : DepositResponse :=
  depositResponse (keyDeposit set wc)
    (Blsttc.signatureToBytes (depositSignature set wc v))

/-- What `get_deposit_signature` finds for a full deposit of the key. -/
theorem HoldsKey.found {D : Disk} {set : Blsttc.SecretKeySet}
    (h : HoldsKey D set) (wc : Bytes 32) (v : Version) :
    ((lookupSigningKey D (pkHexOf set)).map fun set' =>
      depositResponse (keyDeposit set wc) (Blsttc.signatureToBytes
        (blsAggSign set' (depositRoot (keyDeposit set wc) v).toList))) =
      .ok (keyDepositResponse set wc v) := by
  rw [lookupSigningKey_eq_ok.mpr h]
  rfl

theorem signsFullDeposit_of_holdsKey {D : Disk} {set : Blsttc.SecretKeySet}
    (h : HoldsKey D set) (wc : Bytes 32) (v : Version) :
    SignsFullDeposit D set wc v
      (Blsttc.signatureToBytes (depositSignature set wc v))
      (fullDepositDataRoot (Blsttc.publicKeys set) wc
        (depositSignature set wc v)) := by
  have hquery := query_getDepositSignature (pkHexOf set) (keyDeposit set wc) v
  have hfound := h.found wc v
  constructor
  · exact ⟨_, congrArg Prod.fst (hquery.returns hfound)⟩
  · intro faults resp hresp
    have hvalue := hquery.eq_of_ok hresp
    rw [hfound] at hvalue
    obtain rfl := Except.ok.inj hvalue
    exact ⟨rfl, rfl⟩

/-! ## The verifier -/

/-- A payload repeats the signature and the deposit root, in hex of either
case. -/
structure RepeatsDeposit (p : BlsKeygenPayload) (sig : BLSSignature)
    (root : Root) : Prop where
  signature : Hex.decode (strip0xPrefix p.signature) = some sig.toList
  depositDataRoot :
    Hex.decode (strip0xPrefix p.depositDataRoot) = some root.toList

/-- A payload is about this aggregate key and these credentials. -/
structure IsAbout (p : BlsKeygenPayload) (pk : Blsttc.PublicKey)
    (wc : Bytes 32) : Prop where
  publicKey : ∃ pkSet, p.publicKeySet = .ok pkSet ∧
    Blsttc.publicKeyOf pkSet = .ok pk
  withdrawalCredentials : p.withdrawalCredentialsBytes = .ok wc

/-- The deposit data of a payload differs from `dd` and has the same root. -/
def DepositDataCollides (p : BlsKeygenPayload) (sig : BLSSignature)
    (dd : DepositData) : Prop :=
  ∃ pkSet wc, p.publicKeySet = .ok pkSet ∧
    p.withdrawalCredentialsBytes = .ok wc ∧
    fullDepositData (pubKeyBytes pkSet) wc sig ≠ dd ∧
    TreeHash.treeHashRoot (fullDepositData (pubKeyBytes pkSet) wc sig) =
      TreeHash.treeHashRoot dd

omit [Blsttc] [Hashing] [Eth2TreeHash] in
theorem fullDepositData_inj {pk pk' : Bytes 48} {wc wc' : Bytes 32}
    {sig sig' : Bytes 96}
    (h : fullDepositData pk wc sig = fullDepositData pk' wc' sig') :
    pk = pk' ∧ wc = wc' ∧ sig = sig' :=
  ⟨congrArg DepositData.pubkey h,
    congrArg DepositData.withdrawalCredentials h,
    congrArg DepositData.signature h⟩

/-- The deposit check of a payload does not succeed: it ends in an error, and
in a panic where the key set of the payload has no public key. -/
def RefusesDeposit (p : BlsKeygenPayload) : Prop :=
  (p.Keyed ∧ ∃ e, verifyDepositMessage p = .error (.err e)) ∨
    (¬ p.Keyed ∧ verifyDepositMessage p = .error .panic)

/-- A signature of 96 bytes does not make the deposit check panic. -/
theorem RepeatsDeposit.refuses {p : BlsKeygenPayload} {sig : BLSSignature}
    {root : Root} (h : RepeatsDeposit p sig root)
    (hrejected : verifyDepositMessage p ≠ .ok ()) : RefusesDeposit p := by
  by_cases hkeyed : p.Keyed
  · refine .inl ⟨hkeyed, ?_⟩
    match hresult : verifyDepositMessage p with
    | .ok () => exact absurd hresult hrejected
    | .error (.err e) => exact ⟨e, rfl⟩
    | .error .panic =>
        obtain ⟨pkSet, hset, hkey | hsig⟩ :=
          verifyDepositMessage_eq_panic.mp hresult
        · exact absurd (hkeyed pkSet hset) hkey
        · obtain ⟨bytes, hbytes, hlength⟩ := p.parsedSignature_eq_panic.mp hsig
          rw [h.signature] at hbytes
          obtain rfl := Option.some.inj hbytes
          exact absurd sig.toList_length hlength
  · refine .inr ⟨hkeyed, ?_⟩
    obtain ⟨pkSet, hset, hkey⟩ := by
      simpa [BlsKeygenPayload.Keyed] using hkeyed
    exact verifyDepositMessage_eq_panic.mpr ⟨pkSet, hset, .inl hkey⟩

/-- A payload that repeats the signature and the root of a deposit and is about
another key or other credentials is refused, or the deposit data collide. -/
theorem RepeatsDeposit.refused_or_collides (hbls : Blsttc.Encodings)
    {p : BlsKeygenPayload} {pkSet : Blsttc.PublicKeySet} {wc : Bytes 32}
    {sig : Blsttc.Signature}
    (h : RepeatsDeposit p (Blsttc.signatureToBytes sig)
      (fullDepositDataRoot pkSet wc sig))
    (hother : ¬ IsAbout p (Blsttc.publicKey pkSet) wc) :
    RefusesDeposit p ∨
      DepositDataCollides p (Blsttc.signatureToBytes sig)
        (fullDepositData (pubKeyBytes pkSet) wc
          (Blsttc.signatureToBytes sig)) := by
  by_cases haccepted : verifyDepositMessage p = .ok ()
  · right
    obtain ⟨pkSet', wc', sigBytes, sig', hp⟩ :=
      exists_decodes_of_verifyDepositMessage haccepted
    have hbytes : Blsttc.signatureToBytes sig = sigBytes := by
      have hsame := hp.signatureBytes
      rw [h.signature] at hsame
      exact List.Vector.toList_injective (Option.some.inj hsame)
    have hsig : sig = sig' := by
      have hsame := hp.signature
      rw [← hbytes, hbls.signature] at hsame
      exact Option.some.inj hsame
    subst hsig
    have hroot : fullDepositDataRoot pkSet' wc' sig =
        fullDepositDataRoot pkSet wc sig := by
      have htext := h.depositDataRoot
      rw [(hp.verifyDepositMessage_eq_ok.mp haccepted).2,
        Hex.decode_encode] at htext
      exact List.Vector.toList_injective (Option.some.inj htext)
    refine ⟨pkSet', wc', hp.publicKeySet_eq, hp.withdrawalCredentials_eq, ?_,
      hroot⟩
    intro hdata
    obtain ⟨hpk, rfl, -⟩ := fullDepositData_inj hdata
    have hkey := hbls.publicKeyToBytes_injective hpk
    exact hother ⟨⟨pkSet', hp.publicKeySet_eq,
      Blsttc.publicKeyOf_eq_ok.mpr ⟨hp.hasPublicKey, hkey⟩⟩,
      hp.withdrawalCredentials_eq⟩
  · exact .inl (h.refuses haccepted)

/-! ## The endpoint -/

/-- A signed deposit is only released as a success, and it is signed with a
saved key whose public key is the one in the message. -/
def SignsForPubkey (D : Disk) (req : DepositRequest)
    (response : ValidatorDepositResponse) : Prop :=
  ∀ resp, response.body = .json resp → response.status = .OK ∧
    ∃ set, HoldsKey D set ∧
      pubKeyBytes (Blsttc.publicKeys set) = req.deposit.pubkey ∧
      resp = depositResponse req.deposit (Blsttc.signatureToBytes
        (blsAggSign set
          (depositRoot req.deposit req.genesisForkVersion).toList))

omit [Hashing] [Eth2TreeHash] in
/-- A key set found under the hex of a public key has that public key. -/
theorem holdsKey_of_signingKeySet (hhex : Blsttc.HexOfBytes) {D : Disk}
    {pk : Bytes 48} {set : Blsttc.SecretKeySet}
    (h : signingKeySet D (Hex.encode pk.toList) = some set) :
    HoldsKey D set ∧ pubKeyBytes (Blsttc.publicKeys set) = pk := by
  obtain ⟨-, -, hsame⟩ := signingKeySet_eq_some.mp h
  constructor
  · rw [HoldsKey, pkHexOf, ← hsame]
    exact h
  · rw [hhex] at hsame
    exact (List.Vector.toList_injective (Hex.encode_injective hsame)).symm

/-- How the endpoint ends on a disk: it answers, and signs for no other key,
or it panics at a saved key set without a public key. -/
def AnswersDeposit (D : Disk) (req : DepositRequest)
    (r : Outcome ValidatorDepositResponse) : Prop :=
  (∃ response, r = .ok response ∧ SignsForPubkey D req response) ∨
    (r = .error .panic ∧ Keyless D (Hex.encode req.deposit.pubkey.toList))

omit [Hashing] [Eth2TreeHash] in
@[simp] theorem keyless_strip0xPrefix_encode {D : Disk} {n : ℕ}
    {bytes : Bytes n} :
    Keyless D (strip0xPrefix (Hex.encode bytes.toList)) ↔
      Keyless D (Hex.encode bytes.toList) := by
  rw [strip0xPrefix_encode]

/-- Whatever faults occur, the endpoint changes no file and signs for no other
key. -/
theorem triple_validatorDepositHandler (hhex : Blsttc.HexOfBytes) (D : Disk)
    (req : DepositRequest) :
    Triple (fun _ => True) (· = D) (validatorDepositHandler req)
      fun r D' => D' = D ∧ AnswersDeposit D req r := by
  have hrefused : ∀ (status : StatusCode) (body : ValidatorDepositBody),
      (∀ resp, body ≠ .json resp) →
        AnswersDeposit D req (.ok ⟨status, body⟩) :=
    fun status body hbody =>
      .inl ⟨_, rfl, fun resp h => absurd h (hbody resp)⟩
  refine (Query.lift (sanitizeBlsPkHex _)).attemptBind ?_ ?_ ?_
  · intro K
    refine Triple.bind (triple_keyExists .blsKeys _) ?_ ?_
    · intro found
      cases found with
      | true =>
          refine (query_getDepositSignature K _ _).attemptBind ?_ ?_ ?_
          · intro resp
            apply Triple.pure
            rintro D' ⟨⟨⟨rfl, hK⟩, -⟩, hresp⟩
            obtain ⟨-, rfl⟩ := sanitizeBlsPkHex_eq_ok.mp hK
            rw [strip0xPrefix_encode] at hresp
            obtain ⟨set, hset, rfl⟩ := Outcome.map_eq_ok.mp hresp
            obtain ⟨hholds, hpk⟩ := holdsKey_of_signingKeySet hhex
              (lookupSigningKey_eq_ok.mp hset)
            refine ⟨rfl, .inl ⟨_, rfl, ?_⟩⟩
            rintro _ ⟨⟩
            exact ⟨rfl, set, hholds, hpk, rfl⟩
          · intro e
            exact Triple.pure fun D' h => ⟨h.1.1, hrefused _ _ (by simp)⟩
          · rintro D' ⟨⟨rfl, hK⟩, -⟩ hpanic
            obtain ⟨-, rfl⟩ := sanitizeBlsPkHex_eq_ok.mp hK
            rw [Outcome.map_eq_err, lookupSigningKey_eq_panic,
              keyless_strip0xPrefix_encode] at hpanic
            exact ⟨rfl, .inr ⟨rfl, hpanic⟩⟩
      | false =>
          exact Triple.pure fun D' h => ⟨h.1.1, hrefused _ _ (by simp)⟩
    · rintro e D' ⟨-, found, ⟨⟩⟩
  · intro e
    exact Triple.pure fun D' h => ⟨h, hrefused _ _ (by simp)⟩
  · exact fun D' _ hpanic => absurd hpanic (sanitizeBlsPkHex_ne_panic _)

/-- A full deposit of a key that is held is signed. -/
theorem exec_validatorDepositHandler_nil (hhex : Blsttc.HexOfBytes) {D : Disk}
    {set : Blsttc.SecretKeySet} (h : HoldsKey D set)
    (signingRoot : Option Root) (wc : Bytes 32) (v : Version) :
    exec (validatorDepositHandler ⟨signingRoot, keyDeposit set wc, v⟩)
        ([], D) =
      (.ok ⟨.OK, .json (keyDepositResponse set wc v)⟩, ([], D)) := by
  have hname : pkHexOf set =
      Hex.encode (pubKeyBytes (Blsttc.publicKeys set)).toList := hhex _
  have hsanitize : exec (attempt (liftM (sanitizeBlsPkHex
      (Hex.encode (pubKeyBytes (Blsttc.publicKeys set)).toList)))) ([], D) =
        (.ok (.ok (pkHexOf set)), ([], D)) := by
    have hok : sanitizeBlsPkHex (Hex.encode
        (pubKeyBytes (Blsttc.publicKeys set)).toList) = .ok (pkHexOf set) := by
      apply sanitizeBlsPkHex_eq_ok.mpr
      rw [strip0xPrefix_encode, Str.len_encode, List.Vector.toList_length]
      exact ⟨rfl, hname.symm⟩
    apply exec_attempt_of_ok
    rw [exec_liftM, hok]
  have hexists : exec (blsKeyExists (pkHexOf set)) ([], D) =
      (.ok true, ([], D)) := by
    obtain ⟨c, hfile⟩ := exists_file_of_signingKeySet h
    apply exec_keyExists_nil (c := c)
    rw [hname, strip0xPrefix_encode, strip0xPrefix_encode] at hfile
    rw [hname, strip0xPrefix_encode]
    exact hfile
  have hsign : exec (attempt (getDepositSignature (pkHexOf set)
      (keyDeposit set wc) v)) ([], D) =
        (.ok (.ok (keyDepositResponse set wc v)), ([], D)) :=
    (query_getDepositSignature _ _ _).attempt_returns (h.found wc v)
  rw [validatorDepositHandler]
  refine (exec_bind_of_ok hsanitize).trans ?_
  refine (exec_bind_of_ok hexists).trans ?_
  exact exec_bind_of_ok hsign

/-! ## The agreement -/

/-- Signature and deposit root of a key set, its credentials and a fork
version, on every path. -/
structure DepositPathsAgree (set : Blsttc.SecretKeySet) (wc : Bytes 32)
    (v : Version) (sig : BLSSignature) (root : Root) : Prop where
  saved : ∀ faults D, (exec (saveBlsKey set) (faults, D)).1 = .ok () →
    HoldsKey (exec (saveBlsKey set) (faults, D)).2.2 set
  signs : ∀ D, HoldsKey D set → SignsFullDeposit D set wc v sig root
  serves : ∀ D signingRoot, HoldsKey D set → ∃ resp,
    exec (validatorDepositHandler ⟨signingRoot, keyDeposit set wc, v⟩)
        ([], D) = (.ok ⟨.OK, .json resp⟩, ([], D)) ∧
      resp.signature = Hex.encode sig.toList ∧
      resp.depositDataRoot = Hex.encode root.toList
  accepts : ∀ p, CarriesDeposit p (Blsttc.publicKeys set) wc v sig root →
    verifyDepositMessage p = .ok ()
  rejects : ∀ p, RepeatsDeposit p sig root →
    ¬ IsAbout p (Blsttc.publicKey (Blsttc.publicKeys set)) wc →
    RefusesDeposit p ∨
      DepositDataCollides p sig
        (fullDepositData (pubKeyBytes (Blsttc.publicKeys set)) wc sig)

theorem deposit_paths_agree (hbls : Blsttc.Encodings)
    (hhex : Blsttc.HexOfBytes) (hsecret : Blsttc.SecretSets)
    (hsets : Blsttc.KeySets) (hsign : Blsttc.SignVerifies) :
    (∀ (set : Blsttc.SecretKeySet) (wc : Bytes 32) (v : Version),
      IsSaved set → ∃ sig root, signFullDeposit set wc v = .ok (sig, root) ∧
        DepositPathsAgree set wc v sig root) ∧
    ∀ (D : Disk) (faults : List Fault) (req : DepositRequest),
      (exec (validatorDepositHandler req) (faults, D)).2.2 = D ∧
        AnswersDeposit D req
          (exec (validatorDepositHandler req) (faults, D)).1 := by
  constructor
  · rintro set wc v ⟨w, hsaved⟩
    have hkey := hasPublicKey_of_saveBlsKey hsaved
    refine ⟨_, _, signFullDeposit_eq hkey wc v, ?_⟩
    exact {
      saved := fun faults D => signingKeySet_saveBlsKey hhex hsecret
      signs := fun D hholds => signsFullDeposit_of_holdsKey hholds wc v
      serves := fun D signingRoot hholds =>
        ⟨_, exec_validatorDepositHandler_nil hhex hholds signingRoot wc v,
          rfl, rfl⟩
      accepts := fun p =>
        verifyDepositMessage_of_carries hbls hsets hsign hkey
      rejects := fun p hp => hp.refused_or_collides hbls }
  · intro D faults req
    exact (triple_validatorDepositHandler hhex D req).exec_spec
      (fun _ _ => trivial) rfl

end Paths

section SampleDepositPaths

open Exponent

theorem deposit_paths_agree_line :
    ∃ sig root,
      signFullDeposit (line 3 5) (List.Vector.replicate 32 1)
        GENESIS_FORK_VERSION = .ok (sig, root) ∧
      DepositPathsAgree (line 3 5) (List.Vector.replicate 32 1)
        GENESIS_FORK_VERSION sig root :=
  (deposit_paths_agree encodings hexOfBytes secretSets keySets
    signVerifies).1 (line 3 5) _ _ ⟨([], Disk.empty), rfl⟩

end SampleDepositPaths

end ValidatorGuardian
