import ValidatorGuardian.Crates.Exponent
import ValidatorGuardian.Enclave.Shared

/-!
# What the attestation payload commits to

The payload is the hash of a concatenation.  The parts of fixed length can be
told apart, but the shares are followed by their keys without delimiters, so
that a longer share can swallow what follows a shorter one; and a share without
a guardian, or a guardian without a share, is not hashed at all.
-/

namespace ValidatorGuardian

section Commitment

variable [Blsttc] [Secp256k1] [Hashing]

/-- The arguments that an attestation payload is built from. -/
structure AttestedKeygen where
  pkSet : Blsttc.PublicKeySet
  signature : BLSSignature
  depositDataRoot : Root
  encSkShares : List Str
  guardianPks : List EthPublicKey

namespace AttestedKeygen

variable {a b : AttestedKeygen}

/-- The bytes fed to the hasher. -/
def preimage (a : AttestedKeygen) : Outcome (List UInt8) :=
  validatorRemoteAttestationPreimage a.pkSet a.signature a.depositDataRoot
    a.encSkShares a.guardianPks

def payload (a : AttestedKeygen) : Outcome (List UInt8) :=
  buildValidatorRemoteAttestationPayload a.pkSet a.signature
    a.depositDataRoot a.encSkShares a.guardianPks

/-- Every share that is paired with a guardian is hex text. -/
def HexShares (a : AttestedKeygen) : Prop :=
  ∀ x ∈ a.encSkShares.zip a.guardianPks, (Hex.decode x.1).isSome

/-- The decoded shares that are paired with a guardian. -/
def paired (a : AttestedKeygen) : List (List UInt8 × EthPublicKey) :=
  (a.encSkShares.zip a.guardianPks).map decodedShare

/-- The same decoded shares and the same guardians, paired or not. -/
def SameLists (a b : AttestedKeygen) : Prop :=
  a.encSkShares.map Hex.decode = b.encSkShares.map Hex.decode ∧
    a.guardianPks = b.guardianPks

/-- The same key set, signature and deposit. -/
def SameDeposit (a b : AttestedKeygen) : Prop :=
  a.pkSet = b.pkSet ∧ a.signature = b.signature ∧
    a.depositDataRoot = b.depositDataRoot

/-- Equal payloads come from the same arguments, or exhibit a collision. -/
def Committed (a b : AttestedKeygen) : Prop :=
  ∀ bytes, a.payload = .ok bytes → b.payload = .ok bytes →
    SameDeposit a b ∧ SameLists a b ∨
      ∃ p q, a.preimage = .ok p ∧ b.preimage = .ok q ∧
        Collision Hashing.keccak256 p q

/-- The lists differ, but only in shares without a guardian or guardians
without a share. -/
def DifferUnpaired (a b : AttestedKeygen) : Prop :=
  a.paired = b.paired ∧ ¬ SameLists a b

/-- With the same deposit, the lists differ where it is not hashed, or a share
of one swallows a part of the other. -/
structure Confusable (a b : AttestedKeygen) : Prop where
  deposit : SameDeposit a b
  publicKey : Blsttc.HasPublicKey a.pkSet
  hex : a.HexShares ∧ b.HexShares
  lists : DifferUnpaired a b ∨
    Records.Swallows (shareTrailer a.pkSet) 0 a.paired b.paired ∨
    Records.Swallows (shareTrailer a.pkSet) 0 b.paired a.paired

/-! ## The preimage -/

/-- The shares and their keys, without delimiters. -/
def records (a : AttestedKeygen) : List UInt8 :=
  Records.text (shareTrailer a.pkSet) 0 a.paired

/-- The preimage as one byte string. -/
def bytes (a : AttestedKeygen) : List UInt8 :=
  Blsttc.publicKeySetToBytes a.pkSet ++
    ((Blsttc.publicKeyToBytes (Blsttc.publicKey a.pkSet)).toList ++
      (a.signature.toList ++ (a.depositDataRoot.toList ++ a.records))) ++
    toBeBytes (Blsttc.threshold a.pkSet)

omit [Hashing] in
theorem preimage_eq_ok {p : List UInt8} :
    a.preimage = .ok p ↔
      Blsttc.HasPublicKey a.pkSet ∧ a.HexShares ∧ a.bytes = p := by
  simp only [preimage, validatorRemoteAttestationPreimage, Outcome.bind_eq_ok,
    Blsttc.publicKeyOf_eq_ok, sharePreimages_eq_ok]
  constructor
  · rintro ⟨_, ⟨hkey, rfl⟩, _, ⟨hhex, rfl⟩, hp⟩
    refine ⟨hkey, hhex, ?_⟩
    rw [← Except.ok.inj hp]
    simp only [bytes, records, paired, List.append_assoc]
  · rintro ⟨hkey, hhex, rfl⟩
    refine ⟨_, ⟨hkey, rfl⟩, _, ⟨hhex, rfl⟩, ?_⟩
    simp only [bytes, records, paired, List.append_assoc]
    rfl

theorem payload_eq_ok {bytes : List UInt8} :
    a.payload = .ok bytes ↔ ∃ p, a.preimage = .ok p ∧
      (Hashing.keccak256 p).toList ++ List.replicate 32 0 = bytes := by
  simp only [payload, buildValidatorRemoteAttestationPayload,
    Outcome.bind_eq_ok]
  constructor
  · rintro ⟨p, hp, hbytes⟩
    exact ⟨p, hp, Except.ok.inj hbytes⟩
  · rintro ⟨p, hp, rfl⟩
    exact ⟨p, hp, rfl⟩

omit [Blsttc] [Secp256k1] [Hashing] in
theorem toBeBytes_injective : Function.Injective toBeBytes := by
  intro n m h
  have hn : n.toNat < 256 ^ 8 := by simpa using n.toNat_lt
  have hm : m.toNat < 256 ^ 8 := by simpa using m.toNat_lt
  exact UInt64.toNat_inj.mp ((BigEndian.encode_inj hn hm).mp h)

omit [Hashing] in
/-- The parts of the preimage can be told apart, up to the records. -/
theorem bytes_inj (hbls : Blsttc.Encodings) (hlength : Blsttc.SetLength)
    (ha : Blsttc.HasPublicKey a.pkSet) (hb : Blsttc.HasPublicKey b.pkSet)
    (h : a.bytes = b.bytes) : SameDeposit a b ∧ a.records = b.records := by
  -- the threshold at the end gives the length of the key set at the start
  obtain ⟨hfront, hthreshold⟩ := List.append_inj' h (by simp [toBeBytes])
  have hset : (Blsttc.publicKeySetToBytes a.pkSet).length =
      (Blsttc.publicKeySetToBytes b.pkSet).length := by
    rw [hlength _ ha, hlength _ hb, toBeBytes_injective hthreshold]
  obtain ⟨hpkSet, htail⟩ := List.append_inj hfront hset
  obtain ⟨-, htail⟩ := List.append_inj htail (by simp)
  obtain ⟨hsig, htail⟩ := List.append_inj htail (by simp)
  obtain ⟨hroot, hrecords⟩ := List.append_inj htail (by simp)
  have hsame : a.pkSet = b.pkSet := by
    have hparse := hbls.publicKeySet a.pkSet
    rw [hpkSet, hbls.publicKeySet] at hparse
    exact (Option.some.inj hparse).symm
  exact ⟨⟨hsame, List.Vector.toList_injective hsig,
    List.Vector.toList_injective hroot⟩, hrecords⟩

/-! ## Commitment -/

omit [Hashing] in
/-- The same lists pair the same shares with the same guardians. -/
theorem paired_eq (h : SameLists a b) : a.paired = b.paired := by
  have hpaired : ∀ c : AttestedKeygen, c.paired =
      ((c.encSkShares.map Hex.decode).zip c.guardianPks).map
        fun x => (x.1.getD [], x.2) := by
    intro c
    rw [List.zip_map_left, List.map_map]
    rfl
  rw [hpaired, hpaired, h.1, h.2]

omit [Hashing] in
/-- Arguments that can be confused have the same preimage, and are not the
same. -/
theorem Confusable.preimage_eq (h : Confusable a b) :
    a.preimage = .ok a.bytes ∧ b.preimage = .ok a.bytes ∧ ¬ SameLists a b := by
  obtain ⟨⟨hset, hsig, hroot⟩, hkey, ⟨ha, hb⟩, hlists⟩ := h
  have hrecords : a.records = b.records ∧ ¬ SameLists a b := by
    rw [records, records, ← hset]
    rcases hlists with ⟨hpaired, hne⟩ | hswallows | hswallows
    · exact ⟨by rw [hpaired], hne⟩
    · exact ⟨hswallows.text_eq, fun hsame => hswallows.ne (paired_eq hsame)⟩
    · exact ⟨hswallows.text_eq.symm,
        fun hsame => hswallows.ne (paired_eq hsame).symm⟩
  have hbytes : a.bytes = b.bytes := by
    simp only [bytes, hset, hsig, hroot, hrecords.1]
  exact ⟨preimage_eq_ok.mpr ⟨hkey, ha, rfl⟩,
    preimage_eq_ok.mpr ⟨hset ▸ hkey, hb, hbytes.symm⟩, hrecords.2⟩

/-- Every share has a guardian and every guardian a share, and all shares are
hex text of `n` bytes. -/
structure Uniform (a : AttestedKeygen) (n : ℕ) : Prop where
  length_eq : a.encSkShares.length = a.guardianPks.length
  shares : ∀ s ∈ a.encSkShares, ∃ bytes,
    Hex.decode s = some bytes ∧ bytes.length = n

namespace Uniform

variable {n : ℕ}

omit [Hashing] in
theorem length_of_mem_paired (h : a.Uniform n) :
    ∀ e ∈ a.paired, e.1.length = n := by
  intro e he
  obtain ⟨x, hx, rfl⟩ := List.mem_map.mp he
  obtain ⟨bytes, hdecode, hbytes⟩ := h.shares x.1 (List.of_mem_zip hx).1
  rw [decodedShare, hdecode]
  exact hbytes

omit [Hashing] in
/-- Nothing is left out of the pairs. -/
theorem lists_eq (h : a.Uniform n) :
    a.encSkShares.map Hex.decode = a.paired.map (fun e => some e.1) ∧
      a.guardianPks = a.paired.map Prod.snd := by
  have hdecode : ∀ x ∈ a.encSkShares.zip a.guardianPks,
      some (decodedShare x).1 = Hex.decode x.1 := by
    intro x hx
    obtain ⟨bytes, hbytes, -⟩ := h.shares x.1 (List.of_mem_zip hx).1
    rw [decodedShare, hbytes]
    rfl
  constructor
  · rw [paired, List.map_map, Function.comp_def, List.map_congr_left hdecode]
    change _ = (a.encSkShares.zip a.guardianPks).map (Hex.decode ∘ Prod.fst)
    rw [← List.map_map, List.map_fst_zip h.length_eq.le]
  · rw [paired, List.map_map]
    exact (List.map_snd_zip h.length_eq.ge).symm

omit [Hashing] in
/-- Arguments such as the enclave makes them are not confused with others of
that kind. -/
theorem not_confusable (ha : a.Uniform n) (hb : b.Uniform n) :
    ¬ Confusable a b := by
  intro h
  have halike : Records.Alike (shareTrailer a.pkSet) 0 a.paired b.paired := by
    rcases h.lists with ⟨hpaired, -⟩ | hswallows
    · exact .inl hpaired
    · exact .inr hswallows
  have hpaired : a.paired = b.paired :=
    halike.eq_of_length ha.length_of_mem_paired hb.length_of_mem_paired
  apply h.preimage_eq.2.2
  rw [SameLists, ha.lists_eq.1, ha.lists_eq.2, hb.lists_eq.1, hb.lists_eq.2,
    hpaired]
  exact ⟨rfl, rfl⟩

end Uniform

/-- The payload commits to its arguments against all others but those that
they can be confused with. -/
theorem committed_iff (hbls : Blsttc.Encodings) (hlength : Blsttc.SetLength)
    (heth : Secp256k1.UncompressedDeterminesKey) (a b : AttestedKeygen) :
    Committed a b ↔ ¬ Confusable a b := by
  constructor
  · intro hcommit hconfusable
    obtain ⟨ha, hb, hne⟩ := hconfusable.preimage_eq
    rcases hcommit _ (payload_eq_ok.mpr ⟨_, ha, rfl⟩)
      (payload_eq_ok.mpr ⟨_, hb, rfl⟩) with hsame | ⟨p, q, hp, hq, hcollision⟩
    · exact hne hsame.2
    · rw [ha] at hp
      rw [hb] at hq
      exact hcollision.1 ((Except.ok.inj hp).symm.trans (Except.ok.inj hq))
  · intro hnot payload ha hb
    obtain ⟨p, hpa, rfl⟩ := payload_eq_ok.mp ha
    obtain ⟨q, hpb, hdigest⟩ := payload_eq_ok.mp hb
    have hhash : Hashing.keccak256 p = Hashing.keccak256 q :=
      List.Vector.toList_injective (List.append_inj hdigest (by simp)).1.symm
    rcases eq_or_collision hhash with rfl | hcollision
    · obtain ⟨hkeya, hhexa, hbytes⟩ := preimage_eq_ok.mp hpa
      obtain ⟨hkeyb, hhexb, rfl⟩ := preimage_eq_ok.mp hpb
      obtain ⟨hdeposit, hrecords⟩ :=
        bytes_inj hbls hlength hkeya hkeyb hbytes
      rw [records, records, ← hdeposit.1, Records.text_eq_iff
        (trailers_shareTrailer heth a.pkSet)] at hrecords
      rcases hrecords with hpaired | hswallows
      · left
        refine ⟨hdeposit, ?_⟩
        by_contra hne
        exact hnot
          ⟨hdeposit, hkeya, ⟨hhexa, hhexb⟩, .inl ⟨hpaired, hne⟩⟩
      · exact absurd
          ⟨hdeposit, hkeya, ⟨hhexa, hhexb⟩, .inr hswallows⟩ hnot
    · exact .inr ⟨p, q, hpa, hpb, hcollision⟩

end AttestedKeygen

end Commitment

/-! ## A share without a guardian -/

namespace AttestedKeygen

open Exponent

/-- One share for one guardian. -/
def oneShare : AttestedKeygen where
  pkSet := constant 3
  signature := List.Vector.replicate 96 0
  depositDataRoot := List.Vector.replicate 32 0
  encSkShares := [['a', 'a']]
  guardianPks := [List.Vector.replicate 32 1]

/-- The same with a second share. -/
def extraShare : AttestedKeygen :=
  { oneShare with encSkShares := [['a', 'a'], ['b', 'b']] }

theorem committed_iff_extraShare :
    Committed oneShare extraShare ↔ ¬ Confusable oneShare extraShare :=
  committed_iff encodings setLength uncompressed_injective oneShare extraShare

/-- The second share is not committed to. -/
theorem not_committed_extraShare : ¬ Committed oneShare extraShare := by
  intro hcommit
  have hok : oneShare.preimage.toOption.isSome = true := by
    decide +kernel
  obtain ⟨p, hp⟩ := Option.isSome_iff_exists.mp hok
  rw [Outcome.toOption_eq_some] at hp
  have hextra : extraShare.preimage = .ok p := hp
  rcases hcommit _ (payload_eq_ok.mpr ⟨p, hp, rfl⟩)
    (payload_eq_ok.mpr ⟨p, hextra, rfl⟩) with
    hsame | ⟨q, q', hq, hq', hcollision⟩
  · have hlength := congrArg List.length hsame.2.1
    simp [oneShare, extraShare] at hlength
  · rw [hp] at hq
    rw [hextra] at hq'
    exact hcollision.1 ((Except.ok.inj hq).symm.trans (Except.ok.inj hq'))

end AttestedKeygen

end ValidatorGuardian
