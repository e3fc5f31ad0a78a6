import ValidatorGuardian.Signing.Roots
import ValidatorGuardian.Signing.Guard

/-!
# What the signing endpoint signs

A signature is released over the signing root of the request, and no request of
another kind has the signing root of a block, an attestation or a deposit.  The
guard against deposits names one of their two spellings; the other one is
signed whenever the key can sign at all.
-/

namespace ValidatorGuardian

/-! ## Signatures and kinds -/

section Kinds

variable [Blsttc] [SerdeHex] [Hashing] [Eth2TreeHash]

/-- Signing roots of different kinds differ, or their preimages exhibit a
collision; so what is signed for a message that cannot be slashed is not the
signing root of a block or an attestation. -/
theorem signing_roots_by_kind :
    (∀ (m₁ m₂ : BLSSignMsg) (v₁ v₂ : Option Version), m₁.kind ≠ m₂.kind →
      m₁.toSigningRoot v₁ ≠ m₂.toSigningRoot v₂ ∨
        Collision Hashing.sha256 (m₁.signingData v₁).preimage
          (m₂.signingData v₂).preimage) ∧
    ∀ (D : Disk) (faults : List Fault) (path : Str) (v : Version)
      (req : BLSSignMsg) (response : Response),
      (exec (signValidatorMessage path v req) (faults, D)).1 =
        .ok response → response.status = .OK → req.canBeSlashed = false →
      SignsRoot response (req.toSigningRoot (some v)) ∧
        ∀ (m : BLSSignMsg) (v' : Option Version), m.canBeSlashed = true →
          req.toSigningRoot (some v) ≠ m.toSigningRoot v' ∨
            Collision Hashing.sha256 (req.signingData (some v)).preimage
              (m.signingData v').preimage := by
  constructor
  · intro m₁ m₂ v₁ v₂ hkind
    exact BLSSignMsg.root_ne_or_collision m₁ m₂ v₁ v₂ hkind
  · intro D faults path v req response hr hstatus hreq
    refine ⟨signsRoot_of_released hr hstatus, ?_⟩
    intro m v' hm
    apply BLSSignMsg.root_ne_or_collision
    intro hkind
    have hslash : req.canBeSlashed = true := by
      rw [BLSSignMsg.canBeSlashed_iff, hkind]
      exact (BLSSignMsg.canBeSlashed_iff m).mp hm
    rw [hreq] at hslash
    cases hslash

end Kinds

section SampleRequest

open Exponent

/-- A RANDAO request, which carries nothing that can be slashed. -/
def randaoRequest : BLSSignMsg :=
  .RANDAO_REVEAL {
    forkInfo := genesisForkInfo
    signingRoot := none
    randaoReveal := { epoch := 3 } }

theorem signing_roots_by_kind_randao :
    ∃ response, (exec (signValidatorMessage (keyName 3) GENESIS_FORK_VERSION
        randaoRequest) ([], importedStore)).1 = .ok response ∧
      SignsRoot response
        (randaoRequest.toSigningRoot (some GENESIS_FORK_VERSION)) ∧
      (randaoRequest.toSigningRoot (some GENESIS_FORK_VERSION) ≠
          (blockAt 8).toSigningRoot none ∨
        Collision Hashing.sha256
          (randaoRequest.signingData (some GENESIS_FORK_VERSION)).preimage
          ((blockAt 8).signingData none).preimage) := by
  have hstatus : ((exec (signValidatorMessage (keyName 3)
      GENESIS_FORK_VERSION randaoRequest)
        ([], importedStore)).1.toOption).map Response.status = some .OK := by
    decide +kernel
  obtain ⟨response, hresponse, hok⟩ := Option.map_eq_some_iff.mp hstatus
  have hexec := Outcome.toOption_eq_some.mp hresponse
  obtain ⟨hsigns, hother⟩ := signing_roots_by_kind.2 importedStore [] _ _ _
    response hexec hok rfl
  exact ⟨response, hexec, hsigns, hother (blockAt 8) none rfl⟩

end SampleRequest

/-! ## Deposits -/

section Deposits

variable [Blsttc] [SerdeHex] [Hashing] [Eth2TreeHash]

/-- What a deposit's signing root is the root of. -/
def depositSigningData (d : DepositMessage) (v : Version) : SigningData where
  objectRoot := TreeHash.treeHashRoot d
  domain := computeDomain DOMAIN_DEPOSIT (some v) none

/-- Whatever faults occur: a signature that is released is over a root that is
not the root of a deposit, unless the preimages collide; and a deposit is
answered with an error and leaves the files alone. -/
def NeverSignsDeposit (D : Disk) (v : Version) (path : Str)
    (req : BLSSignMsg) : Prop :=
  ∀ faults,
    (∀ response, (exec (signValidatorMessage path v req) (faults, D)).1 =
        .ok response → response.status = .OK →
      SignsRoot response (req.toSigningRoot (some v)) ∧
        ∀ d v', req.toSigningRoot (some v) ≠ depositRoot d v' ∨
          Collision Hashing.sha256 (req.signingData (some v)).preimage
            (depositSigningData d v').preimage) ∧
    (req.kind = .deposit →
      (∃ response, (exec (signValidatorMessage path v req) (faults, D)).1 =
        .ok response ∧ response.status ≠ .OK) ∧
      (exec (signValidatorMessage path v req) (faults, D)).2.2 = D)

/-- The path has the length of a key, and under its name there are a slashing
database and a key set with that public key. -/
def CanSign (D : Disk) (path : Str) : Prop :=
  Str.len (strip0xPrefix path) = 2 * BLS_PUB_KEY_BYTES ∧
    (savedDb D (slashingName path)).isSome ∧
    (signingKeySet D (strip0xPrefix path)).isSome

/-- The path has the length of a key, and under its name the reader of a
slashing database panics, or there are a database and a key set without a
public key. -/
def PanicsReading (D : Disk) (path : Str) : Prop :=
  Str.len (strip0xPrefix path) = 2 * BLS_PUB_KEY_BYTES ∧
    (lookupDb D (slashingName path) = .error .panic ∨
      (savedDb D (slashingName path)).isSome ∧
        Keyless D (strip0xPrefix path))

omit [Blsttc] [SerdeHex] in
theorem root_ne_depositRoot {req : BLSSignMsg} (hkind : req.kind ≠ .deposit)
    (v : Option Version) (d : DepositMessage) (v' : Version) :
    req.toSigningRoot v ≠ depositRoot d v' ∨
      Collision Hashing.sha256 (req.signingData v).preimage
        (depositSigningData d v').preimage :=
  BLSSignMsg.root_ne_or_collision req (.deposit ⟨none, d, v'⟩) v none hkind

/-! ## Deposits in lower case -/

section LowerCase

variable {D : Disk} {v : Version} {path : Str} {m : DepositRequest}

/-- A deposit goes on with the name of a path of the length of a key. -/
theorem exec_deposit_of_length
    (hlen : Str.len (strip0xPrefix path) = 2 * BLS_PUB_KEY_BYTES) :
    exec (signValidatorMessage path v (.deposit m)) ([], D) =
      exec (do
        match ← attempt (isSlashable (strip0xPrefix path) (.deposit m)) with
        | .error e =>
            return ⟨.INTERNAL_SERVER_ERROR,
              .format "Signing operation failed: " e⟩
        | .ok true =>
            return ⟨.PRECONDITION_FAILED, .text
              "Signing operation failed due to slashing protection rules"⟩
        | .ok false =>
            signMessage (strip0xPrefix path)
              ((BLSSignMsg.deposit m).toSigningRoot (some v))) ([], D) := by
  have hsanitize : exec (attempt (liftM (sanitizeBlsPkHex path)))
      ([], D) = (.ok (.ok (strip0xPrefix path)), ([], D)) := by
    apply exec_attempt_of_ok
    rw [exec_liftM, sanitizeBlsPkHex_eq_ok.mpr ⟨hlen, rfl⟩]
  change exec (signSanitized path v (.deposit m)) ([], D) = _
  rw [signSanitized, exec_bind_of_ok hsanitize]
  rfl

/-- Behind a database that is there, a deposit is signed with the key. -/
theorem exec_deposit_of_savedDb
    (hlen : Str.len (strip0xPrefix path) = 2 * BLS_PUB_KEY_BYTES)
    (hdb : (savedDb D (slashingName path)).isSome) :
    exec (signValidatorMessage path v (.deposit m)) ([], D) =
      exec (signMessage (strip0xPrefix path)
        ((BLSSignMsg.deposit m).toSigningRoot (some v))) ([], D) := by
  obtain ⟨db, hdb⟩ := Option.isSome_iff_exists.mp hdb
  have hcheck : exec (attempt (isSlashable (strip0xPrefix path) (.deposit m)))
      ([], D) = (.ok (.ok false), ([], D)) := by
    apply (query_isSlashable _ _).attempt_returns
    change (lookupDb D (slashingName path)).map _ = _
    rw [lookupDb_eq_ok.mpr hdb]
    rfl
  rw [exec_deposit_of_length hlen, exec_bind_of_ok hcheck]

/-- A key that can sign gets its deposit signed. -/
theorem exec_deposit_of_canSign (h : CanSign D path) :
    ∃ response, exec (signValidatorMessage path v (.deposit m)) ([], D) =
      (.ok response, ([], D)) ∧ response.status = .OK := by
  obtain ⟨hlen, hdb, hset⟩ := h
  obtain ⟨set, hset⟩ := Option.isSome_iff_exists.mp hset
  have hsign : exec (attempt (blsAggSignFromSavedSk (strip0xPrefix path)
      ((BLSSignMsg.deposit m).toSigningRoot (some v)).toList)) ([], D) =
        (.ok (.ok (blsAggSign set
          ((BLSSignMsg.deposit m).toSigningRoot (some v)).toList)),
          ([], D)) := by
    apply (query_blsAggSignFromSavedSk _ _).attempt_returns
    rw [lookupSigningKey_eq_ok.mpr hset]
    rfl
  rw [exec_deposit_of_savedDb hlen hdb, signMessage, exec_bind_of_ok hsign]
  exact ⟨_, rfl, rfl⟩

/-- Where a reader panics, so does the request. -/
theorem exec_deposit_of_panicsReading (h : PanicsReading D path) :
    (exec (signValidatorMessage path v (.deposit m)) ([], D)).1 =
      .error .panic := by
  obtain ⟨hlen, hpanic | ⟨hdb, hkeyless⟩⟩ := h
  · have hcheck : exec (attempt (isSlashable (strip0xPrefix path)
        (.deposit m))) ([], D) = (.error .panic, ([], D)) := by
      apply (query_isSlashable _ _).attempt_panic
      exact Outcome.map_eq_err.mpr hpanic
    rw [exec_deposit_of_length hlen, exec_bind, hcheck]
  · have hsign : exec (attempt (blsAggSignFromSavedSk (strip0xPrefix path)
        ((BLSSignMsg.deposit m).toSigningRoot (some v)).toList)) ([], D) =
          (.error .panic, ([], D)) := by
      apply (query_blsAggSignFromSavedSk _ _).attempt_panic
      exact Outcome.map_eq_err.mpr (lookupSigningKey_eq_panic.mpr hkeyless)
    rw [exec_deposit_of_savedDb hlen hdb, signMessage, exec_bind, hsign]

/-- A deposit is only signed for a key that can sign, it only panics with a
reader, and no file changes. -/
theorem triple_deposit :
    Triple (fun _ => True) (· = D) (signSanitized path v (.deposit m))
      fun r D' => D' = D ∧
        ((∃ response : Response, r = .ok response ∧
          (response.status = .OK → CanSign D path)) ∨
          PanicsReading D path) := by
  have hrefused : ∀ (status : StatusCode) (body : Body), status ≠ .OK →
      (∃ response : Response, (.ok ⟨status, body⟩ : Outcome Response) =
        .ok response ∧ (response.status = .OK → CanSign D path)) ∨
        PanicsReading D path :=
    fun status body hstatus => .inl ⟨_, rfl, fun h => absurd h hstatus⟩
  refine (Query.lift (sanitizeBlsPkHex path)).attemptBind ?_ ?_ ?_
  · intro K
    refine (query_isSlashable K (.deposit m)).attemptBind ?_ ?_ ?_
    · intro slashable
      cases slashable with
      | true => exact Triple.pure fun D' h => ⟨h.1.1, hrefused _ _ (by simp)⟩
      | false =>
      refine (query_blsAggSignFromSavedSk K _).attemptBind ?_ ?_ ?_
      · intro sig
        apply Triple.pure
        rintro D' ⟨⟨⟨rfl, hK⟩, hdb⟩, hset⟩
        obtain ⟨hlen, rfl⟩ := sanitizeBlsPkHex_eq_ok.mp hK
        obtain ⟨db, hdb, -⟩ := Outcome.map_eq_ok.mp hdb
        obtain ⟨set, hset, -⟩ := Outcome.map_eq_ok.mp hset
        refine ⟨rfl, .inl ⟨_, rfl, fun _ => ⟨hlen, ?_, ?_⟩⟩⟩
        · exact Option.isSome_iff_exists.mpr ⟨db, lookupDb_eq_ok.mp hdb⟩
        · exact Option.isSome_iff_exists.mpr
            ⟨set, lookupSigningKey_eq_ok.mp hset⟩
      · intro e
        exact Triple.pure fun D' h => ⟨h.1.1, hrefused _ _ (by simp)⟩
      · rintro D' ⟨⟨rfl, hK⟩, hdb⟩ hpanic
        obtain ⟨hlen, rfl⟩ := sanitizeBlsPkHex_eq_ok.mp hK
        obtain ⟨db, hdb, -⟩ := Outcome.map_eq_ok.mp hdb
        refine ⟨rfl, .inr ⟨hlen, .inr ⟨?_, ?_⟩⟩⟩
        · exact Option.isSome_iff_exists.mpr ⟨db, lookupDb_eq_ok.mp hdb⟩
        · exact lookupSigningKey_eq_panic.mp (Outcome.map_eq_err.mp hpanic)
    · intro e
      exact Triple.pure fun D' h => ⟨h.1, hrefused _ _ (by simp)⟩
    · rintro D' ⟨rfl, hK⟩ hpanic
      obtain ⟨hlen, rfl⟩ := sanitizeBlsPkHex_eq_ok.mp hK
      exact ⟨rfl, .inr ⟨hlen, .inl (Outcome.map_eq_err.mp hpanic)⟩⟩
  · intro e
    exact Triple.pure fun D' h => ⟨h, hrefused _ _ (by simp)⟩
  · exact fun D' _ hpanic => absurd hpanic (sanitizeBlsPkHex_ne_panic _)

theorem exec_deposit (faults : List Fault) :
    (exec (signValidatorMessage path v (.deposit m)) (faults, D)).2.2 = D ∧
      ((∃ response, (exec (signValidatorMessage path v (.deposit m))
          (faults, D)).1 = .ok response ∧
        (response.status = .OK → CanSign D path)) ∨ PanicsReading D path) :=
  triple_deposit.exec_spec (fun _ _ => trivial) rfl

end LowerCase

/-! ## When the endpoint refuses deposits -/

/-- The endpoint keeps away from deposits exactly when the request is not a
lower-case deposit for a key that can sign or whose files cannot be read
without a panic. -/
theorem neverSignsDeposit_iff (D : Disk) (v : Version) (path : Str)
    (req : BLSSignMsg) :
    NeverSignsDeposit D v path req ↔
      ¬ ((∃ m, req = .deposit m) ∧
        (CanSign D path ∨ PanicsReading D path)) := by
  constructor
  · rintro h ⟨⟨m, rfl⟩, hsign | hpanics⟩
    · obtain ⟨response, hexec, hstatus⟩ := exec_deposit_of_canSign hsign
      obtain ⟨⟨response', hexec', hnot⟩, -⟩ := (h []).2 rfl
      rw [hexec] at hexec'
      cases hexec'
      exact hnot hstatus
    · obtain ⟨⟨response, hexec, -⟩, -⟩ := (h []).2 rfl
      rw [exec_deposit_of_panicsReading hpanics] at hexec
      cases hexec
  · intro h faults
    by_cases hkind : req.kind = .deposit
    · -- a deposit is refused: by the guard, or because the key cannot sign
      have hrefused : (∃ response,
          (exec (signValidatorMessage path v req) (faults, D)).1 =
            .ok response ∧ response.status ≠ .OK) ∧
          (exec (signValidatorMessage path v req) (faults, D)).2.2 = D := by
        cases req with
        | DEPOSIT m => exact ⟨⟨_, rfl, by simp⟩, rfl⟩
        | deposit m =>
            obtain ⟨hD, ⟨response, hr, hstatus⟩ | hpanics⟩ :=
              exec_deposit faults
            · exact ⟨⟨response, hr, fun hok =>
                h ⟨⟨m, rfl⟩, .inl (hstatus hok)⟩⟩, hD⟩
            · exact absurd ⟨⟨m, rfl⟩, .inr hpanics⟩ h
        | _ => cases hkind
      refine ⟨?_, fun _ => hrefused⟩
      intro response hr hstatus
      obtain ⟨response', hr', hnot⟩ := hrefused.1
      rw [hr] at hr'
      cases hr'
      exact absurd hstatus hnot
    · refine ⟨?_, fun hdeposit => absurd hdeposit hkind⟩
      intro response hr hstatus
      exact ⟨signsRoot_of_released hr hstatus,
        fun d v' => root_ne_depositRoot hkind (some v) d v'⟩

end Deposits

section SampleDeposit

open Exponent

/-- A deposit whose withdrawal credentials are not those of the pool. -/
def lowerCaseDeposit : BLSSignMsg :=
  .deposit {
    signingRoot := none
    deposit := {
      pubkey := toBytes 48 3
      withdrawalCredentials := List.Vector.replicate 32 1
      amount := FULL_DEPOSIT_AMOUNT }
    genesisForkVersion := GENESIS_FORK_VERSION }

theorem canSign_importedStore : CanSign importedStore (keyName 3) :=
  ⟨by decide +kernel, by decide +kernel, by decide +kernel⟩

/-- The lower-case deposit is signed. -/
theorem not_neverSignsDeposit_lowerCase :
    ¬ NeverSignsDeposit importedStore GENESIS_FORK_VERSION (keyName 3)
      lowerCaseDeposit := by
  intro h
  obtain ⟨⟨response, hresponse, hrefused⟩, -⟩ := (h []).2 rfl
  obtain ⟨response', hexec, hstatus⟩ :=
    exec_deposit_of_canSign canSign_importedStore
  rw [lowerCaseDeposit, hexec] at hresponse
  rw [← Except.ok.inj hresponse] at hrefused
  exact hrefused hstatus

end SampleDeposit

end ValidatorGuardian
