import ValidatorGuardian.Crates.Exponent
import ValidatorGuardian.Enclave.Guardian

/-!
# What a keygen payload says

The checks of a guardian parse the same hex fields again and again, each in its
own way.  They all speak about one public key set, one list of withdrawal
credentials and one signature.
-/

namespace ValidatorGuardian

/-- The full deposit of a validator key. -/
def fullDeposit (pk : Bytes 48) (wc : Bytes 32) : DepositMessage where
  pubkey := pk
  withdrawalCredentials := wc
  amount := FULL_DEPOSIT_AMOUNT

/-- The deposit data of a full deposit with its signature. -/
def fullDepositData (pk : Bytes 48) (wc : Bytes 32) (sig : Bytes 96) :
    DepositData where
  pubkey := pk
  withdrawalCredentials := wc
  amount := FULL_DEPOSIT_AMOUNT
  signature := sig

theorem fullDepositMessage_toList (pk : Bytes 48) (wc : Bytes 32) :
    fullDepositMessage pk.toList wc = fullDeposit pk wc := by
  rw [fullDepositMessage, fixedVectorFrom_bytes]
  rfl

section Payloads

variable [Blsttc]

/-- The bytes of the public key of a set. -/
def pubKeyBytes (pkSet : Blsttc.PublicKeySet) : Bytes 48 :=
  Blsttc.publicKeyToBytes (Blsttc.publicKey pkSet)

/-- The root of the deposit data of these values. -/
def fullDepositDataRoot [Eth2TreeHash] (pkSet : Blsttc.PublicKeySet)
    (wc : Bytes 32) (sig : Blsttc.Signature) : Root :=
  TreeHash.treeHashRoot
    (fullDepositData (pubKeyBytes pkSet) wc (Blsttc.signatureToBytes sig))

/-- The hex fields of a payload decode to these values, and the key set has a
public key. -/
structure Decodes (p : BlsKeygenPayload) (pkSet : Blsttc.PublicKeySet)
    (wc : Bytes 32) (sigBytes : Bytes 96) (sig : Blsttc.Signature) :
    Prop where
  publicKeySet : ∃ bytes,
    Hex.decode (strip0xPrefix p.blsPubKeySet) = some bytes ∧
      Blsttc.publicKeySetFromBytes bytes = some pkSet
  hasPublicKey : Blsttc.HasPublicKey pkSet
  withdrawalCredentials :
    Hex.decode (strip0xPrefix p.withdrawalCredentials) = some wc.toList
  signatureBytes :
    Hex.decode (strip0xPrefix p.signature) = some sigBytes.toList
  signature : Blsttc.signatureFromBytes sigBytes = some sig

/-- A payload carries this deposit, written in lower-case hex. -/
structure CarriesDeposit (p : BlsKeygenPayload) (pkSet : Blsttc.PublicKeySet)
    (wc : Bytes 32) (v : Version) (sig : BLSSignature) (root : Root) :
    Prop where
  publicKeySet : IsHexOf p.blsPubKeySet (Blsttc.publicKeySetToBytes pkSet)
  withdrawalCredentials : IsHexOf p.withdrawalCredentials wc.toList
  signature : IsHexOf p.signature sig.toList
  depositDataRoot : IsHexOf p.depositDataRoot root.toList
  forkVersion : p.forkVersion = v

theorem CarriesDeposit.decodes (hbls : Blsttc.Encodings)
    {p : BlsKeygenPayload} {pkSet : Blsttc.PublicKeySet} {wc : Bytes 32}
    {v : Version} {sig : Blsttc.Signature} {root : Root}
    (hkey : Blsttc.HasPublicKey pkSet)
    (h : CarriesDeposit p pkSet wc v (Blsttc.signatureToBytes sig) root) :
    Decodes p pkSet wc (Blsttc.signatureToBytes sig) sig where
  publicKeySet := ⟨_, h.publicKeySet.decode_eq, hbls.publicKeySet pkSet⟩
  hasPublicKey := hkey
  withdrawalCredentials := h.withdrawalCredentials.decode_eq
  signatureBytes := h.signature.decode_eq
  signature := hbls.signature sig

/-- The encrypted share at place `i` opens under `sk` to the share `s`. -/
def OpensTo [Secp256k1] (p : BlsKeygenPayload) (sk : EthSecretKey) (i : ℕ)
    (s : Blsttc.SecretKeyShare) : Prop :=
  ∃ enc ciphertext, ∃ bytes : Bytes 32,
    p.blsEncPrivKeyShares[i]? = some enc ∧
      Hex.decode (strip0xPrefix enc) = some ciphertext ∧
      Secp256k1.eciesDecrypt (Secp256k1.secretKeySerialize sk)
        ciphertext = some bytes.toList ∧
      Blsttc.secretKeyFromBytes bytes = some s

namespace Decodes

variable {p : BlsKeygenPayload} {pkSet : Blsttc.PublicKeySet}
  {wc : Bytes 32} {sigBytes : Bytes 96} {sig : Blsttc.Signature}

/-! ## The accessors -/

theorem publicKeySet_eq (h : Decodes p pkSet wc sigBytes sig) :
    p.publicKeySet = .ok pkSet :=
  parsePublicKeySet_eq_ok.mpr h.publicKeySet

theorem withdrawalCredentials_eq (h : Decodes p pkSet wc sigBytes sig) :
    p.withdrawalCredentialsBytes = .ok wc :=
  p.withdrawalCredentialsBytes_eq_ok.mpr h.withdrawalCredentials

theorem parsedSignature_eq (h : Decodes p pkSet wc sigBytes sig) :
    p.parsedSignature = .ok sig :=
  p.parsedSignature_eq_ok.mpr ⟨sigBytes, h.signatureBytes, h.signature⟩

section Roots

variable [Eth2TreeHash]

theorem computedDepositDataRoot_eq (h : Decodes p pkSet wc sigBytes sig) :
    p.computedDepositDataRoot =
      .ok (fullDepositDataRoot pkSet wc sig) := by
  unfold BlsKeygenPayload.computedDepositDataRoot
  rw [h.publicKeySet_eq, h.withdrawalCredentials_eq, h.parsedSignature_eq]
  simp only [Outcome.ok_bind, h.hasPublicKey.publicKeyOf_eq,
    fixedVectorFrom_bytes]
  rfl

variable [Hashing]

theorem depositMessageRoot_eq (h : Decodes p pkSet wc sigBytes sig) :
    p.depositMessageRoot =
      .ok (depositRoot (fullDeposit (pubKeyBytes pkSet) wc)
        p.forkVersion) := by
  unfold BlsKeygenPayload.depositMessageRoot
  rw [h.publicKeySet_eq, h.withdrawalCredentials_eq]
  simp only [Outcome.ok_bind, h.hasPublicKey.publicKeyOf_eq,
    fullDepositMessage_toList]
  rfl

/-! ## The deposit -/

/-- The deposit is accepted when its signature verifies and its root is the
one of the payload. -/
theorem verifyDepositMessage_eq_ok (h : Decodes p pkSet wc sigBytes sig) :
    verifyDepositMessage p = .ok () ↔
      Blsttc.verify (Blsttc.publicKey pkSet) sig
          (depositRoot (fullDeposit (pubKeyBytes pkSet) wc)
            p.forkVersion).toList = true ∧
        strip0xPrefix p.depositDataRoot =
          Hex.encode (fullDepositDataRoot pkSet wc sig).toList := by
  unfold verifyDepositMessage
  rw [h.publicKeySet_eq, h.parsedSignature_eq, h.depositMessageRoot_eq,
    h.computedDepositDataRoot_eq]
  simp only [Outcome.ok_bind, h.hasPublicKey.publicKeyOf_eq,
    Outcome.bind_eq_ok, Outcome.bailIf_eq_ok]
  constructor
  · rintro ⟨_, hverify, hroot⟩
    exact ⟨by simpa using hverify, not_not.mp hroot⟩
  · rintro ⟨hverify, hroot⟩
    exact ⟨(), by simp [hverify], not_not.mpr hroot⟩

end Roots

end Decodes

/-- A payload whose deposit is accepted decodes. -/
theorem exists_decodes_of_verifyDepositMessage [Hashing] [Eth2TreeHash]
    {p : BlsKeygenPayload} (h : verifyDepositMessage p = .ok ()) :
    ∃ pkSet wc sigBytes sig, Decodes p pkSet wc sigBytes sig := by
  obtain ⟨pkSet, hpkSet, h⟩ := Outcome.bind_eq_ok.mp h
  obtain ⟨_, hkey, h⟩ := Outcome.bind_eq_ok.mp h
  obtain ⟨sig, hsig, h⟩ := Outcome.bind_eq_ok.mp h
  obtain ⟨root, hroot, -⟩ := Outcome.bind_eq_ok.mp h
  obtain ⟨_, -, hroot⟩ := Outcome.bind_eq_ok.mp hroot
  obtain ⟨wc, hwc, -⟩ := Outcome.bind_eq_ok.mp hroot
  obtain ⟨sigBytes, hbytes, hsig⟩ := p.parsedSignature_eq_ok.mp hsig
  exact ⟨pkSet, wc, sigBytes, sig, parsePublicKeySet_eq_ok.mp hpkSet,
    (Blsttc.publicKeyOf_eq_ok.mp hkey).1,
    p.withdrawalCredentialsBytes_eq_ok.mp hwc, hbytes, hsig⟩

/-! ## The search for a share -/

/-- The `bls_pub_key` of a payload is the public key of its key set. -/
structure MatchesKeySet (p : BlsKeygenPayload)
    (pkSet : Blsttc.PublicKeySet) : Prop where
  publicKeySet : ∃ bytes,
    Hex.decode (strip0xPrefix p.blsPubKeySet) = some bytes ∧
      Blsttc.publicKeySetFromBytes bytes = some pkSet
  hasPublicKey : Blsttc.HasPublicKey pkSet
  publicKey : strip0xPrefix p.blsPubKey =
    Blsttc.publicKeyToHex (Blsttc.publicKey pkSet)

theorem MatchesKeySet.publicKeySet_eq {p : BlsKeygenPayload}
    {pkSet : Blsttc.PublicKeySet} (h : MatchesKeySet p pkSet) :
    p.publicKeySet = .ok pkSet :=
  parsePublicKeySet_eq_ok.mpr h.publicKeySet

section Search

variable [Secp256k1] {p : BlsKeygenPayload} {pkSet : Blsttc.PublicKeySet}
  {sk : EthSecretKey} {s : Blsttc.SecretKeyShare}

/-- The encrypted share at place `i` opens to the share `s` of that place. -/
def OpensToOwn (p : BlsKeygenPayload) (sk : EthSecretKey)
    (pkSet : Blsttc.PublicKeySet) (i : ℕ) (s : Blsttc.SecretKeyShare) :
    Prop :=
  OpensTo p sk i s ∧
    Blsttc.derivePublicKey s = Blsttc.publicKeyShare pkSet i

theorem OpensTo.unique {i : ℕ} {s' : Blsttc.SecretKeyShare}
    (h : OpensTo p sk i s) (h' : OpensTo p sk i s') : s = s' := by
  have hs := p.decryptSkShare_eq_ok.mpr h
  rw [p.decryptSkShare_eq_ok.mpr h'] at hs
  exact (Except.ok.inj hs).symm

/-- The search ends at a place that holds its share. -/
theorem findShare_of_opensToOwn (hpkSet : p.publicKeySet = .ok pkSet) {i : ℕ}
    (h : OpensToOwn p sk pkSet i s) (is : List ℕ) :
    findShare p sk (i :: is) = .ok s := by
  obtain ⟨hopens, hpk⟩ := h
  unfold findShare
  rw [p.decryptSkShare_eq_ok.mpr hopens]
  simp only [hpkSet, Outcome.ok_bind, hpk, if_pos]
  rfl

/-- The search goes on after any other place: one that does not open, or that
opens to a share of another place. -/
theorem findShare_of_not_opensToOwn
    (hbytes : Function.Injective (Blsttc.publicKeyToBytes : _ → Bytes 48))
    (hpkSet : p.publicKeySet = .ok pkSet) {i : ℕ}
    (h : ∀ s, ¬ OpensToOwn p sk pkSet i s) (is : List ℕ) :
    findShare p sk (i :: is) = findShare p sk is := by
  rw [findShare]
  split
  · next hpanic => exact absurd hpanic (p.decryptSkShare_ne_panic i sk)
  · rfl
  · next share hshare =>
      rw [hpkSet, Outcome.ok_bind, if_neg]
      intro heq
      have hpk := hbytes
        (List.Vector.toList_injective (Hex.encode_injective heq))
      exact h share ⟨p.decryptSkShare_eq_ok.mp hshare, hpk.symm⟩

/-- A search in increasing order finds the share at the least place that holds
one. -/
theorem findShare_eq_ok
    (hbytes : Function.Injective (Blsttc.publicKeyToBytes : _ → Bytes 48))
    (hpkSet : p.publicKeySet = .ok pkSet) {is : List ℕ}
    (hsorted : is.Pairwise (· < ·)) :
    findShare p sk is = .ok s ↔
      ∃ i ∈ is, OpensToOwn p sk pkSet i s ∧
        ∀ j ∈ is, j < i → ∀ s', ¬ OpensToOwn p sk pkSet j s' := by
  induction is with
  | nil => simp [findShare]
  | cons i is ih =>
      obtain ⟨hfirst, hsorted⟩ := List.pairwise_cons.mp hsorted
      by_cases h : ∃ share, OpensToOwn p sk pkSet i share
      · obtain ⟨share, hshare⟩ := h
        rw [findShare_of_opensToOwn hpkSet hshare is]
        constructor
        · intro hs
          obtain rfl := Except.ok.inj hs
          refine ⟨i, List.mem_cons_self .., hshare, ?_⟩
          intro j hj hji
          rcases List.mem_cons.mp hj with rfl | hj
          · exact absurd hji (lt_irrefl j)
          · exact absurd hji (hfirst j hj).asymm
        · rintro ⟨j, hj, hs, hleast⟩
          rcases List.mem_cons.mp hj with rfl | hj
          · rw [hs.1.unique hshare.1]
          · exact absurd hshare
              (hleast i (List.mem_cons_self ..) (hfirst j hj) share)
      · have hnone : ∀ share, ¬ OpensToOwn p sk pkSet i share :=
          not_exists.mp h
        rw [findShare_of_not_opensToOwn hbytes hpkSet hnone is, ih hsorted]
        constructor
        · rintro ⟨j, hj, hs, hleast⟩
          refine ⟨j, List.mem_cons_of_mem _ hj, hs, ?_⟩
          intro k hk hkj
          rcases List.mem_cons.mp hk with rfl | hk
          · exact hnone
          · exact hleast k hk hkj
        · rintro ⟨j, hj, hs, hleast⟩
          rcases List.mem_cons.mp hj with rfl | hj
          · exact absurd hs (hnone s)
          · exact ⟨j, hj, hs,
              fun k hk => hleast k (List.mem_cons_of_mem _ hk)⟩

/-- The keys of a payload match or there is nothing to search. -/
theorem verifyCustody_eq_ok :
    verifyCustody p sk = .ok s ↔
      ∃ pkSet, MatchesKeySet p pkSet ∧
        findShare p sk (List.range p.blsEncPrivKeyShares.length) =
          .ok s := by
  unfold verifyCustody BlsKeygenPayload.verifyPublicKeysMatch
  simp only [Outcome.bind_eq_ok, Outcome.bailIf_eq_ok,
    Blsttc.publicKeyOf_eq_ok]
  constructor
  · rintro ⟨isMatch, ⟨pkSet, hpkSet, _, ⟨hkey, rfl⟩, hmatch⟩, -, hname, hfind⟩
    refine ⟨pkSet, ⟨parsePublicKeySet_eq_ok.mp hpkSet, hkey, ?_⟩, hfind⟩
    have hisMatch := Except.ok.inj hmatch
    rw [← hisMatch] at hname
    simpa [eq_comm] using hname
  · rintro ⟨pkSet, hmatch, hfind⟩
    refine ⟨true, ⟨pkSet, hmatch.publicKeySet_eq, _,
      ⟨hmatch.hasPublicKey, rfl⟩, ?_⟩, (), by simp, hfind⟩
    rw [decide_eq_true hmatch.publicKey.symm]
    rfl

/-- What an accepted share and public key look like. -/
theorem opensTo_of_verifyCustody (hlaw : Blsttc.Encodings)
    (hhex : Blsttc.HexOfBytes) (hpkSet : p.publicKeySet = .ok pkSet)
    (h : verifyCustody p sk = .ok s) :
    strip0xPrefix p.blsPubKey = Hex.encode (pubKeyBytes pkSet).toList ∧
      ∃ i < p.blsEncPrivKeyShares.length, OpensTo p sk i s ∧
        Blsttc.derivePublicKey s = Blsttc.publicKeyShare pkSet i := by
  obtain ⟨pkSet', hmatch, hfind⟩ := verifyCustody_eq_ok.mp h
  have hsame := hmatch.publicKeySet_eq
  rw [hpkSet] at hsame
  obtain rfl := Except.ok.inj hsame
  obtain ⟨i, hi, hholds, -⟩ :=
    (findShare_eq_ok hlaw.publicKeyToBytes_injective hpkSet
      List.pairwise_lt_range).mp hfind
  refine ⟨?_, i, List.mem_range.mp hi, hholds⟩
  rw [hmatch.publicKey, hhex, pubKeyBytes]

end Search

end Payloads

/-! ## A payload -/

section SamplePayload

open Exponent

/-- The key of a guardian. -/
def guardianKey (c : UInt8) : Bytes 32 :=
  List.Vector.replicate 32 c

/-- The ciphertext of the share at place `i` for a guardian. -/
def encryptedShare (P : Poly) (i : ℕ) (pk : Bytes 32) : Str :=
  Hex.encode ((uncompressed pk).toList ++
    (toBytes 32 (P.value (sharePoint i))).toList)

/-- A payload with one share of `P` for each of the guardians. -/
def payloadFor (P : Poly) (guardians : List (Bytes 32)) :
    BlsKeygenPayload :=
  let wc : Bytes 32 := List.Vector.replicate 32 0
  let sig : Scalar := P.coefficient 0 *
    hashToCurve (depositRoot (fullDeposit (pubKeyBytes P) wc)
      GENESIS_FORK_VERSION).toList
  { blsPubKeySet := Hex.encode (P.toBytes 48)
    blsPubKey := keyName (P.coefficient 0)
    signature := Hex.encode (toBytes 96 sig).toList
    depositDataRoot := Hex.encode (fullDepositDataRoot P wc sig).toList
    blsEncPrivKeyShares := guardians.mapIdx (encryptedShare P)
    sessionId := []
    attestationSignature := []
    sessionPublicKey := []
    guardianEthPubKeys := guardians.map ethPkToHexUncompressed
    withdrawalCredentials := Hex.encode wc.toList
    forkVersion := GENESIS_FORK_VERSION }

theorem publicKeySet_payloadFor (P : Poly) (guardians : List (Bytes 32)) :
    (payloadFor P guardians).publicKeySet = .ok P := by
  apply parsePublicKeySet_eq_ok.mpr
  refine ⟨P.toBytes 48, ?_, encodings.publicKeySet P⟩
  rw [payloadFor, strip0xPrefix_encode, Hex.decode_encode]

/-- The request of a guardian for custody, without a session check. -/
def custodyRequest (p : BlsKeygenPayload) (pk : Bytes 32) :
    ValidateCustodyRequest where
  keygenPayload := p
  guardianEnclavePublicKey := pk
  workloadId := []
  verifySession := false
  validatorIndex := 7

/-- A registry that does not answer. -/
def noRegistry : SessionRegistry :=
  ⟨none, none, fun _ _ _ _ _ _ => none, fun _ _ _ => none⟩

end SamplePayload

end ValidatorGuardian
