import ValidatorGuardian.Crates.Blsttc
import ValidatorGuardian.Io.KeyManagement

/-!
# BLS keys

A validator key is a threshold key set, saved whole under the hex of its public
key.  Its shares are handed out by index, and signature shares are aggregated
in the same order.
-/

namespace ValidatorGuardian

open Blsttc

/-- Sanitizes a BLS public key hex string, and errors out if malformed. -/
def sanitizeBlsPkHex (blsPkHex : Str) : Outcome Str :=
  let blsPk := strip0xPrefix blsPkHex
  do
    Outcome.bailIf (Str.len blsPk ≠ 2 * BLS_PUB_KEY_BYTES)
      "Invalid bls_pk_hex length"
    return blsPk

theorem sanitizeBlsPkHex_eq_ok {blsPkHex K : Str} :
    sanitizeBlsPkHex blsPkHex = .ok K ↔
      Str.len (strip0xPrefix blsPkHex) = 2 * BLS_PUB_KEY_BYTES ∧
        strip0xPrefix blsPkHex = K := by
  unfold sanitizeBlsPkHex
  rw [Outcome.bind_eq_ok]
  constructor
  · rintro ⟨u, hlen, hpure⟩
    exact ⟨not_not.mp (Outcome.bailIf_eq_ok.mp hlen), Except.ok.inj hpure⟩
  · rintro ⟨hlen, rfl⟩
    exact ⟨(), Outcome.bailIf_eq_ok.mpr (not_not.mpr hlen), rfl⟩

theorem sanitizeBlsPkHex_ne_panic (blsPkHex : Str) :
    sanitizeBlsPkHex blsPkHex ≠ .error .panic :=
  Outcome.bind_ne_panic Outcome.bailIf_ne_panic fun _ _ h => by cases h

variable [Blsttc]

/-- What the generator draws for a threshold: a key set with one coefficient
more, so with a public key. -/
def DrawnAt (random : SecretKeySet) (threshold : UInt64) : Prop :=
  secretThreshold random = threshold ∧ HasPublicKey (publicKeys random)

instance (random : SecretKeySet) (threshold : UInt64) :
    Decidable (DrawnAt random threshold) :=
  inferInstanceAs (Decidable (_ ∧ _))

/-- Generate a new BLS secret key; `random` is what the generator draws. -/
def newBlsKey (random : SecretKeySet) (threshold : UInt64) :
    Outcome SecretKeySet :=
  if DrawnAt random threshold then .ok random else Outcome.panic

/-- Write the BLS secret key to a file named by the hex-encoded public key. -/
def saveBlsKey (skSet : SecretKeySet) : Enclave Unit := do
  let pk ← liftM (publicKeyOf (publicKeys skSet))
  let pkHex := publicKeyToHex pk
  let skHex := Hex.encode (secretKeySetToBytes skSet)
  withContext "aggregate bls sk failed to save" (writeBlsKey pkHex skHex)

/-- Write the BLS secret key to an encrypted keystore named by the hex-encoded
public key. -/
def saveBlsKeystore [EthKeystore] (rng : EthKeystore.Rng)
    (skSet : SecretKeySet) (password : Str) : Enclave Str := do
  let pk ← liftM (publicKeyOf (publicKeys skSet))
  let pkHex := publicKeyToHex pk
  withContext "aggregate bls sk failed to save"
    (writeBlsKeystore rng pkHex
      (secretKeyToBytes (Blsttc.secretKey skSet)).toList password)

/-- Read the BLS secret key from the file named by the hex-encoded public
key. -/
def fetchBlsSk (pkHex : Str) : Enclave SecretKeySet := do
  let pkHex := strip0xPrefix pkHex
  let skBytes ← readBlsKey pkHex
  liftM (Outcome.mapErr (.format "Error deserializing bls sk bytes: ")
    (Outcome.okOr .blsttc (secretKeySetFromBytes skBytes)))

def blsAggSign (secretKeySet : SecretKeySet) (msg : List UInt8) : Signature :=
  sign (secretKey secretKeySet) msg

/-- Sign with the BLS secret key that is saved under the given name. -/
def blsAggSignFromSavedSk (pkHex : Str) (msg : List UInt8) :
    Enclave Signature := do
  let secretKeySet ← fetchBlsSk pkHex
  let pk ← liftM (publicKeyOf (publicKeys secretKeySet))
  liftM (Outcome.bailIf (pkHex ≠ publicKeyToHex pk)
    "Mismatch with input and derived pk")
  return blsAggSign secretKeySet msg

/-- Distributes `n` key shares from a `SecretKeySet`. -/
def distributeKeyShares (skSet : SecretKeySet) (n : ℕ) :
    List (SecretKeyShare × PublicKeyShare) :=
  let pkSet := publicKeys skSet
  (List.range n).map fun id =>
    (secretKeyShare skSet id, publicKeyShare pkSet id)

/-- Aggregate signature shares, indexed by their place in the list. -/
def aggregateSignatureShares (pkSet : PublicKeySet)
    (sigShares : List SignatureShare) : Outcome Signature :=
  let sigShares := sigShares.zipIdx.map fun s => (s.2, s.1)
  Outcome.withContext "Failed to aggregate signature shares"
    (Outcome.okOr .blsttc (combineSignatures pkSet sigShares))

theorem aggregateSignatureShares_eq_ok {pkSet : PublicKeySet}
    {sigShares : List SignatureShare} {sig : Signature} :
    aggregateSignatureShares pkSet sigShares = .ok sig ↔
      combineSignatures pkSet (sigShares.zipIdx.map fun s => (s.2, s.1)) =
        some sig := by
  rw [aggregateSignatureShares, Outcome.withContext_eq_ok, Outcome.okOr_eq_ok]

/-! ## Saved key sets -/

/-- The key set that a file holds. -/
def savedKeySet (D : Disk) (fname : Str) : Option SecretKeySet :=
  (D.key .blsKeys fname).bind secretKeySetFromBytes

/-- What the reader of a key set finds. -/
def lookupKeySet (D : Disk) (fname : Str) : Outcome SecretKeySet := do
  let skBytes ← lookupKey D .blsKeys fname
  Outcome.mapErr (.format "Error deserializing bls sk bytes: ")
    (Outcome.okOr .blsttc (secretKeySetFromBytes skBytes))

theorem lookupKeySet_eq_ok {D : Disk} {fname : Str} {set : SecretKeySet} :
    lookupKeySet D fname = .ok set ↔ savedKeySet D fname = some set := by
  simp only [lookupKeySet, savedKeySet, Outcome.bind_eq_ok, lookupKey_eq_ok,
    Outcome.mapErr_eq_ok, Outcome.okOr_eq_ok, Option.bind_eq_some_iff]

theorem lookupKeySet_ne_panic (D : Disk) (fname : Str) :
    lookupKeySet D fname ≠ .error .panic :=
  Outcome.bind_ne_panic (lookupKey_ne_panic D .blsKeys fname) fun _ _ =>
    Outcome.mapErr_ne_panic Outcome.okOr_ne_panic

theorem query_fetchBlsSk (pkHex : Str) :
    Query (fetchBlsSk pkHex) fun D =>
      lookupKeySet D (strip0xPrefix (strip0xPrefix pkHex)) :=
  (query_readKey .blsKeys _).bind fun _ => Query.lift _

theorem newBlsKey_eq_ok {random set : SecretKeySet} {t : UInt64} :
    newBlsKey random t = .ok set ↔ set = random ∧ DrawnAt random t := by
  unfold newBlsKey
  split
  · next h => simp [h, eq_comm]
  · next h => simp [h]

/-- A key set is saved under the hex of its public key. -/
theorem saveBlsKey_eq {set : SecretKeySet}
    (hkey : HasPublicKey (publicKeys set)) :
    saveBlsKey set = withContext "aggregate bls sk failed to save"
      (writeBlsKey (publicKeyToHex (publicKey (publicKeys set)))
        (Hex.encode (secretKeySetToBytes set))) := by
  rw [saveBlsKey, hkey.publicKeyOf_eq, Enclave.liftM_ok_bind]

theorem saveBlsKeystore_eq [EthKeystore] {rng : EthKeystore.Rng}
    {set : SecretKeySet} (hkey : HasPublicKey (publicKeys set))
    (password : Str) :
    saveBlsKeystore rng set password =
      withContext "aggregate bls sk failed to save"
        (writeBlsKeystore rng
          (publicKeyToHex (publicKey (publicKeys set)))
          (secretKeyToBytes (Blsttc.secretKey set)).toList password) := by
  rw [saveBlsKeystore, hkey.publicKeyOf_eq, Enclave.liftM_ok_bind]

/-- Saving a key changes no file but key files. -/
theorem Triple.saveBlsKey {Ok : Fault → Prop} {P : Disk → Prop}
    {set : SecretKeySet} (hdefault : Ok default)
    (hP : ∀ D name c, P D → P (D.set .blsKeys name c)) :
    Triple Ok P (ValidatorGuardian.saveBlsKey set) fun _ D => P D := by
  refine Triple.bindLift (fun pk _ => ?_) fun _ _ _ hD => hD
  exact Triple.withContext
    (Triple.writeFileIn (Q := fun _ D => P D) hdefault
      (fun D hD => hP D _ _ hD) (fun _ _ hD => hD)
      (fun _ _ _ D hD => hP D _ _ hD))
    (fun _ _ hD => hD)

/-- The key set saved under a name, if the name is the hex of its public
key. -/
def signingKeySet (D : Disk) (pkHex : Str) : Option SecretKeySet :=
  (savedKeySet D (strip0xPrefix (strip0xPrefix pkHex))).bind fun set =>
    if HasPublicKey (publicKeys set) ∧
        pkHex = publicKeyToHex (publicKey (publicKeys set)) then some set
    else none

theorem signingKeySet_eq_some {D : Disk} {pkHex : Str} {set : SecretKeySet} :
    signingKeySet D pkHex = some set ↔
      savedKeySet D (strip0xPrefix (strip0xPrefix pkHex)) = some set ∧
        HasPublicKey (publicKeys set) ∧
        pkHex = publicKeyToHex (publicKey (publicKeys set)) := by
  simp only [signingKeySet, Option.bind_eq_some_iff,
    Option.ite_none_right_eq_some, Option.some.injEq]
  constructor
  · rintro ⟨set', hsaved, hkey, rfl⟩
    exact ⟨hsaved, hkey⟩
  · rintro ⟨hsaved, hkey⟩
    exact ⟨set, hsaved, hkey, rfl⟩

theorem savedKeySet_set (hsets : SecretSets) (D : Disk) (fname : Str)
    (set : SecretKeySet) :
    savedKeySet (D.set .blsKeys fname
      (.text (Hex.encode (secretKeySetToBytes set)))) fname = some set := by
  simp [savedKeySet, Disk.key, Contents.key, hsets set]

/-- Where a key is saved, it is found under the hex of its public key. -/
theorem triple_saveBlsKey_saved (hhex : HexOfBytes) (hsets : SecretSets)
    (set : SecretKeySet) :
    Triple (fun _ => True) (fun _ => True) (saveBlsKey set)
      fun r D => r = .ok () → savedKeySet D
        (Hex.encode (publicKeyToBytes (publicKey (publicKeys set))).toList) =
          some set := by
  refine Triple.bindLift (fun pk hpk => ?_) fun _ _ _ _ hr => nomatch hr
  obtain ⟨-, rfl⟩ := publicKeyOf_eq_ok.mp hpk
  have hwrite : Triple (fun _ => True) (fun _ => True)
      (writeBlsKey (publicKeyToHex (publicKey (publicKeys set)))
        (Hex.encode (secretKeySetToBytes set)))
      fun r D => r = .ok () → savedKeySet D
        (Hex.encode (publicKeyToBytes (publicKey (publicKeys set))).toList) =
          some set := by
    rw [writeBlsKey, hhex, strip0xPrefix_encode, strip0xPrefix_encode]
    refine Triple.writeFileIn trivial ?_ ?_ ?_
    · intro D _ _
      exact savedKeySet_set hsets D _ set
    · exact fun _ _ _ hr => nomatch hr
    · exact fun _ _ _ _ _ hr => nomatch hr
  refine Triple.withContext hwrite ?_
  intro r D hsaved hr
  exact hsaved (Outcome.withContext_eq_ok.mp hr)

/-- A key that can sign has a file. -/
theorem exists_file_of_signingKeySet {D : Disk} {pkHex : Str}
    {set : SecretKeySet} (h : signingKeySet D pkHex = some set) :
    ∃ c, D .blsKeys (strip0xPrefix (strip0xPrefix pkHex)) = some c := by
  obtain ⟨hsaved, -⟩ := signingKeySet_eq_some.mp h
  obtain ⟨_, hkey, -⟩ := Option.bind_eq_some_iff.mp hsaved
  obtain ⟨c, hfile, -⟩ := Option.bind_eq_some_iff.mp hkey
  exact ⟨c, hfile⟩

/-- A key that has been saved has a public key. -/
theorem hasPublicKey_of_saveBlsKey {set : SecretKeySet} {w : World}
    (h : (exec (saveBlsKey set) w).1 = .ok ()) :
    HasPublicKey (publicKeys set) := by
  obtain ⟨pk, w', hpk, -⟩ := exec_bind_eq_ok.mp h
  rw [exec_liftM] at hpk
  exact (publicKeyOf_eq_ok.mp (congrArg Prod.fst hpk)).1

/-- A key that has been saved can sign under its name. -/
theorem signingKeySet_saveBlsKey (hhex : HexOfBytes) (hsets : SecretSets)
    {set : SecretKeySet} {faults : List Fault} {D : Disk}
    (h : (exec (saveBlsKey set) (faults, D)).1 = .ok ()) :
    signingKeySet (exec (saveBlsKey set) (faults, D)).2.2
      (publicKeyToHex (publicKey (publicKeys set))) = some set := by
  have hsaved := (triple_saveBlsKey_saved hhex hsets set).exec_spec
    (fun _ _ => trivial) trivial h
  refine signingKeySet_eq_some.mpr ⟨?_, hasPublicKey_of_saveBlsKey h, rfl⟩
  rwa [hhex, strip0xPrefix_encode, strip0xPrefix_encode]

/-- What the signer finds under a name: the key set saved there, once its
public key is found to be the name. -/
def lookupSigningKey (D : Disk) (pkHex : Str) : Outcome SecretKeySet := do
  let set ← lookupKeySet D (strip0xPrefix (strip0xPrefix pkHex))
  let pk ← publicKeyOf (publicKeys set)
  Outcome.bailIf (pkHex ≠ publicKeyToHex pk)
    "Mismatch with input and derived pk"
  return set

theorem lookupSigningKey_eq_ok {D : Disk} {pkHex : Str}
    {set : SecretKeySet} :
    lookupSigningKey D pkHex = .ok set ↔
      signingKeySet D pkHex = some set := by
  simp only [lookupSigningKey, signingKeySet_eq_some, Outcome.bind_eq_ok,
    lookupKeySet_eq_ok, publicKeyOf_eq_ok, Outcome.bailIf_eq_ok, not_not]
  constructor
  · rintro ⟨set', hsaved, _, ⟨hkey, rfl⟩, _, hname, hpure⟩
    obtain rfl := Except.ok.inj hpure
    exact ⟨hsaved, hkey, hname⟩
  · rintro ⟨hsaved, hkey, hname⟩
    exact ⟨set, hsaved, _, ⟨hkey, rfl⟩, (), hname, rfl⟩

/-- The file of a name holds a key set without a public key. -/
def Keyless (D : Disk) (pkHex : Str) : Prop :=
  ∃ set, savedKeySet D (strip0xPrefix (strip0xPrefix pkHex)) = some set ∧
    ¬ HasPublicKey (publicKeys set)

/-- The reader of a key panics on a key set without a public key. -/
theorem lookupSigningKey_eq_panic {D : Disk} {pkHex : Str} :
    lookupSigningKey D pkHex = .error .panic ↔ Keyless D pkHex := by
  simp only [lookupSigningKey, Outcome.bind_eq_panic, lookupKeySet_ne_panic,
    lookupKeySet_eq_ok, publicKeyOf_eq_panic, Outcome.bailIf_ne_panic,
    false_or, Keyless]
  refine exists_congr fun set => and_congr_right fun _ => ?_
  constructor
  · rintro (hkey | ⟨_, _, _, _, ⟨⟩⟩)
    exact hkey
  · exact .inl

theorem query_blsAggSignFromSavedSk (pkHex : Str) (msg : List UInt8) :
    Query (blsAggSignFromSavedSk pkHex msg) fun D =>
      (lookupSigningKey D pkHex).map fun set => blsAggSign set msg := by
  have hquery := (query_fetchBlsSk pkHex).bind fun set =>
    (Query.lift (publicKeyOf (publicKeys set))).bind fun pk =>
      (Query.lift (Outcome.bailIf (pkHex ≠ publicKeyToHex pk)
        "Mismatch with input and derived pk")).map fun _ => blsAggSign set msg
  refine (congrArg (Query _) (funext fun D => ?_)).mp hquery
  unfold lookupSigningKey
  cases lookupKeySet D (strip0xPrefix (strip0xPrefix pkHex)) with
  | error e => rfl
  | ok set =>
      simp only [Outcome.ok_bind]
      cases publicKeyOf (publicKeys set) with
      | error e => rfl
      | ok pk =>
          simp only [Outcome.ok_bind]
          cases Outcome.bailIf (pkHex ≠ publicKeyToHex pk)
            "Mismatch with input and derived pk" <;> rfl

end ValidatorGuardian
