import ValidatorGuardian.Crates.Ethereum
import ValidatorGuardian.Crates.Pairing
import ValidatorGuardian.Crates.SerdeHex
import ValidatorGuardian.Eth2.Types
import ValidatorGuardian.Support.BigEndian
import Mathlib.Algebra.Field.ZMod
import Mathlib.NumberTheory.LucasLehmer

/-!
# The libraries in the exponent

A point of a group is represented by its discrete logarithm, so that keys,
signatures and points are all scalars of one prime field, and a key set is a
list of coefficients.  Every law that the results assume of the libraries holds
of these functions, and the program can be run with them.
-/

namespace ValidatorGuardian.Exponent

/-! ## Scalars -/

def modulus : ℕ := 2 ^ 127 - 1

theorem modulus_prime : modulus.Prime :=
  lucas_lehmer_sufficiency _ (by simp) (by norm_num)

instance : Fact modulus.Prime := ⟨modulus_prime⟩

abbrev Scalar := ZMod modulus

def toBytes (k : ℕ) (x : Scalar) : Bytes k :=
  ⟨BigEndian.encode k x.val, BigEndian.encode_length _ _⟩

def ofBytes (bs : List UInt8) : Option Scalar :=
  if BigEndian.decode bs < modulus then some (BigEndian.decode bs) else none

theorem val_lt_pow {k : ℕ} (hk : 16 ≤ k) (x : Scalar) :
    x.val < 256 ^ k := by
  have hsmall : modulus < 256 ^ 16 := by decide
  have hpow : 256 ^ 16 ≤ 256 ^ k := Nat.pow_le_pow_right (by decide) hk
  exact lt_of_lt_of_le ((ZMod.val_lt x).trans hsmall) hpow

theorem ofBytes_toBytes {k : ℕ} (hk : 16 ≤ k) (x : Scalar) :
    ofBytes (toBytes k x).toList = some x := by
  have hdecode : BigEndian.decode (toBytes k x).toList = x.val :=
    BigEndian.decode_encode (val_lt_pow hk x)
  rw [ofBytes, hdecode, if_pos (ZMod.val_lt x), ZMod.natCast_zmod_val]

theorem toBytes_injective {k : ℕ} (hk : 16 ≤ k) :
    Function.Injective (toBytes k) := by
  intro x y h
  have hx := ofBytes_toBytes hk x
  rw [h, ofBytes_toBytes hk] at hx
  exact (Option.some.inj hx).symm

/-! ## Polynomials -/

/-- The coefficients of a polynomial whose degree fits in 64 bits.  There may be
none. -/
structure Poly where
  coeffs : List Scalar
  length_le : coeffs.length ≤ 2 ^ 64

namespace Poly

/-- One less than the number of coefficients, which overflows at none. -/
def degree (P : Poly) : UInt64 := UInt64.ofNat P.coeffs.length - 1

def coefficient (P : Poly) (j : ℕ) : Scalar := P.coeffs.getD j 0

def value (P : Poly) (x : Scalar) : Scalar :=
  P.coeffs.foldr (fun c v => c + x * v) 0

theorem degree_toNat {P : Poly} (hpos : 0 < P.coeffs.length) :
    P.degree.toNat + 1 = P.coeffs.length := by
  have hle := P.length_le
  rw [degree, UInt64.toNat_sub, UInt64.toNat_ofNat']
  simp only [UInt64.toNat_one]
  omega

theorem foldr_eq_sum (l : List Scalar) (x : Scalar) :
    l.foldr (fun c v => c + x * v) 0 =
      ∑ j ∈ Finset.range l.length, x ^ j • l.getD j 0 := by
  induction l with
  | nil => simp
  | cons c l ih =>
      rw [List.foldr_cons, ih, List.length_cons, Finset.sum_range_succ',
        Finset.mul_sum, add_comm]
      simp [pow_succ', mul_assoc]

theorem value_eq (P : Poly) (x : Scalar) :
    P.value x = Threshold.eval P.degree.toNat P.coefficient x := by
  rw [value, foldr_eq_sum, Threshold.eval]
  by_cases hpos : 0 < P.coeffs.length
  · rw [degree_toNat hpos]
    rfl
  · have hnil : P.coeffs = [] :=
      List.length_eq_zero_iff.mp (Nat.eq_zero_of_not_pos hpos)
    simp [coefficient, hnil]

def toBytes (size : ℕ) (P : Poly) : List UInt8 :=
  (P.coeffs.map fun c => (Exponent.toBytes size c).toList).flatten

/-- Read `n` coefficients of `size` bytes each; what is left over is not
looked at. -/
def readAll (size : ℕ) : ℕ → List UInt8 → Option (List Scalar)
  | 0, _ => some []
  | n + 1, bs => do
      let c ← Exponent.ofBytes (bs.take size)
      let cs ← readAll size n (bs.drop size)
      return c :: cs

def ofBytes (size : ℕ) (bs : List UInt8) : Option Poly := do
  let cs ← readAll size (bs.length / size) bs
  if h : cs.length ≤ 2 ^ 64 then some ⟨cs, h⟩ else none

theorem readAll_flatten {size : ℕ} (hsize : 16 ≤ size) (cs : List Scalar) :
    readAll size cs.length
      (cs.map fun c => (Exponent.toBytes size c).toList).flatten =
        some cs := by
  induction cs with
  | nil => rfl
  | cons c cs ih =>
      have hlength : (Exponent.toBytes size c).toList.length = size := by
        simp
      rw [List.map_cons, List.flatten_cons, List.length_cons, readAll,
        List.take_left' hlength, List.drop_left' hlength, ih,
        ofBytes_toBytes hsize]
      rfl

theorem length_toBytes (size : ℕ) (P : Poly) :
    (P.toBytes size).length = size * P.coeffs.length := by
  simp [toBytes, List.length_flatten, Function.comp_def, mul_comm]

theorem ofBytes_toBytes {size : ℕ} (hsize : 16 ≤ size) (P : Poly) :
    ofBytes size (P.toBytes size) = some P := by
  have hcount : (P.toBytes size).length / size = P.coeffs.length := by
    rw [length_toBytes, Nat.mul_div_cancel_left _ (by omega)]
  rw [ofBytes, hcount, toBytes, readAll_flatten hsize]
  exact dif_pos P.length_le

end Poly

/-! ## Keys and signatures -/

def hashToCurve (m : List UInt8) : Scalar := BigEndian.decode m

scoped instance : Blsttc where
  SecretKeySet := Poly
  PublicKeySet := Poly
  SecretKey := Scalar
  PublicKey := Scalar
  Signature := Scalar
  secretKeySetFromBytes := Poly.ofBytes 32
  secretKeySetToBytes := Poly.toBytes 32
  secretThreshold := Poly.degree
  publicKeys := id
  secretKey P := P.coefficient 0
  secretKeyShare P i := P.value (sharePoint i)
  publicKeySetFromBytes := Poly.ofBytes 48
  publicKeySetToBytes := Poly.toBytes 48
  threshold := Poly.degree
  coefficients P := P.coeffs.length
  publicKey P := P.coefficient 0
  publicKeyShare P i := P.value (sharePoint i)
  combineSignatures P shares :=
    if shares.length ≤ P.degree.toNat then none
    else some (Threshold.atZero ((shares.take (P.degree.toNat + 1)).map
      fun s => ((sharePoint s.1 : Scalar), s.2)))
  publicKeyToBytes := toBytes 48
  publicKeyToHex pk := Hex.encode (toBytes 48 pk).toList
  verify pk sig m := pk * hashToCurve m = sig
  secretKeyFromBytes b := ofBytes b.toList
  secretKeyToBytes := toBytes 32
  derivePublicKey := id
  sign s m := s * hashToCurve m
  signatureFromBytes b := ofBytes b.toList
  signatureToBytes := toBytes 96

theorem hexOfBytes : Blsttc.HexOfBytes := fun _ => rfl

theorem encodings : Blsttc.Encodings where
  publicKeyToBytes_injective := toBytes_injective (by decide)
  publicKeySet := Poly.ofBytes_toBytes (by decide)
  secretKeyShare := ofBytes_toBytes (by decide)
  signature := ofBytes_toBytes (by decide)

theorem secretSets : Blsttc.SecretSets := Poly.ofBytes_toBytes (by decide)

theorem setLength : Blsttc.SetLength := by
  intro P hpos
  change (Poly.toBytes 48 P).length = 48 * (P.degree.toNat + 1)
  rw [Poly.length_toBytes, Poly.degree_toNat hpos]

/-- A single scalar is a polynomial of degree zero. -/
theorem shareAsKeySet : Blsttc.ShareAsKeySet := by
  intro s
  let P : Poly := ⟨[s], by simp⟩
  have hbytes : P.toBytes 32 = (toBytes 32 s).toList := by
    simp [P, Poly.toBytes]
  have hread : Poly.ofBytes 32 (P.toBytes 32) = some P :=
    Poly.ofBytes_toBytes (by decide) P
  rw [hbytes] at hread
  exact ⟨P, hread, rfl⟩

theorem publicDeterminesSecret : Blsttc.PublicDeterminesSecret :=
  Function.injective_id

theorem keySets : Blsttc.KeySets where
  publicKey _ := rfl
  publicKeyShare _ _ := rfl
  threshold _ _ := rfl

theorem eq_smul_one (s : Scalar) : s = s • (1 : Scalar) := by
  rw [smul_eq_mul, mul_one]

theorem verify_iff (pk h sig : Scalar) :
    decide (pk * h = sig) = true ↔ pk * h = 1 * sig := by
  rw [one_mul, decide_eq_true_iff]

/-- The pairing multiplies exponents. -/
def groups : Blsttc.Groups Scalar Scalar Scalar Scalar where
  scalar s := s
  generator := 1
  hashToCurve := hashToCurve
  publicPoint pk := pk
  signaturePoint sig := sig
  coefficient := Poly.coefficient
  pairing := LinearMap.mul Scalar Scalar
  derivePublicKey := eq_smul_one
  sign _ _ := rfl
  verify pk sig m := verify_iff pk (hashToCurve m) sig
  publicKey _ := rfl
  publicKeyShare P i := P.value_eq (sharePoint i)
  sharePoint_injective i j hi hj h := by
    have hmod : 2 ^ 64 + 1 < modulus := by decide
    have hcast : ((i + 1 : ℕ) : Scalar) = ((j + 1 : ℕ) : Scalar) := by
      simpa [sharePoint] using h
    rw [ZMod.natCast_eq_natCast_iff', Nat.mod_eq_of_lt (by omega),
      Nat.mod_eq_of_lt (by omega)] at hcast
    omega
  combine_few _ _ h := if_pos h
  combine _ _ h _ := ⟨_, if_neg (not_le.mpr h), rfl⟩

/-- The polynomial of a secret key set is its list of coefficients. -/
def dealing : Blsttc.Dealing Scalar Scalar Scalar Scalar where
  toGroups := groups
  secretCoefficient := Poly.coefficient
  secretKey _ := rfl
  secretKeyShare P i := P.value_eq (sharePoint i)
  threshold_publicKeys _ := rfl
  signaturePoint_injective := Function.injective_id

theorem signVerifies : Blsttc.SignVerifies := groups.signVerifies

/-! ## Ethereum keys and signatures -/

/-- The uncompressed encoding of a key. -/
def uncompressed (pk : Bytes 32) : Bytes 65 :=
  ⟨4 :: (pk.toList ++ List.replicate 32 0), by simp⟩

def compressed (pk : Bytes 32) : Bytes 33 :=
  ⟨2 :: pk.toList, by simp⟩

/-- An envelope names its recipient in front of the message. -/
scoped instance : Secp256k1 where
  SecretKey := Bytes 32
  PublicKey := Bytes 32
  Seed := Unit
  secretKeySerialize sk := sk
  secretKeyParse := some
  publicKeyFromSecretKey sk := sk
  publicKeySerialize := uncompressed
  publicKeySerializeCompressed := compressed
  publicKeyParse b :=
    (toArray? 32 (b.toList.tail.take 32)).filter fun pk => uncompressed pk = b
  eciesEncrypt _ pk m := some (pk.toList ++ m)
  eciesDecrypt sk c :=
    if c.take 65 = (uncompressed sk).toList then some (c.drop 65) else none

theorem compressed_injective : Function.Injective compressed := by
  intro pk pk' h
  have hlist := congrArg List.Vector.toList h
  exact List.Vector.toList_injective (List.cons.inj hlist).2

theorem uncompressed_injective : Function.Injective uncompressed := by
  intro pk pk' h
  have hlist := congrArg List.Vector.toList h
  have htail := (List.cons.inj hlist).2
  exact List.Vector.toList_injective (List.append_inj htail (by simp)).1

theorem uncompressedParses : Secp256k1.UncompressedParses := by
  intro pk
  have htake : (uncompressed pk).toList.tail.take 32 = pk.toList :=
    List.take_left' pk.toList_length
  change (toArray? 32 ((uncompressed pk).toList.tail.take 32)).filter
    (fun pk' => uncompressed pk' = uncompressed pk) = some pk
  rw [htake, toArray?_bytes]
  simp

theorem ethEncodings : Secp256k1.Encodings where
  secretKey _ := rfl
  compressed_injective := compressed_injective

theorem ethPublicDeterminesSecret : Secp256k1.PublicDeterminesSecret :=
  fun _ _ h => h

theorem take_envelope (pk : Bytes 32) (m : List UInt8) :
    ((uncompressed pk).toList ++ m).take 65 = (uncompressed pk).toList :=
  List.take_left' (List.Vector.toList_length _)

theorem drop_envelope (pk : Bytes 32) (m : List UInt8) :
    ((uncompressed pk).toList ++ m).drop 65 = m :=
  List.drop_left' (List.Vector.toList_length _)

theorem ecies : Secp256k1.Ecies where
  encrypts _ _ _ := ⟨_, rfl⟩
  decrypts seed sk m c hc := by
    obtain rfl := Option.some.inj hc
    exact (if_pos (take_envelope sk m)).trans
      (congrArg some (drop_envelope sk m))

/-- An envelope opens for nobody but its recipient. -/
theorem eciesDecrypt_of_ne {sk pk : Bytes 32} (hne : sk ≠ pk)
    (m : List UInt8) :
    Secp256k1.eciesDecrypt sk ((uncompressed pk).toList ++ m) = none := by
  refine if_neg ?_
  rw [take_envelope]
  intro hsame
  exact hne (uncompressed_injective
    (List.Vector.toList_injective hsame)).symm

/-- A wallet signs a message by naming itself and the message. -/
scoped instance : Ethers where
  Address := List UInt8
  decEqAddress := inferInstance
  LocalWallet := Bytes 32
  Signature := Bytes 32 × List UInt8
  parseAddress := Hex.decode
  abiEncode tokens := (tokens.map fun t => match t with
    | .string _ => []
    | .address a => a
    | .uint n => BigEndian.encode 32 n
    | .bytes b => BigEndian.encode 32 b.length ++ b
    | .fixedBytes b => b).flatten
  walletParse s := (Hex.decode s).bind (toArray? 32)
  walletAddress w := (uncompressed w).toList.tail
  signMessage w m := some (w, m)
  signatureToString sig := Hex.encode (sig.1.toList ++ sig.2)
  recover sig m :=
    if sig.2 = m then some (uncompressed sig.1).toList.tail else none
  publicKeyToAddress b := b.toList.tail

theorem walletParse_encode (sk : Bytes 32) :
    (Hex.decode (Hex.encode sk.toList)).bind (toArray? 32) = some sk := by
  rw [Hex.decode_encode]
  exact toArray?_bytes sk

theorem walletAddress : Ethers.WalletAddress := by
  intro sk w h
  have hparse := walletParse_encode sk
  obtain rfl : sk = w := Option.some.inj (hparse.symm.trans h)
  rfl

theorem walletSigns : Ethers.WalletSigns :=
  fun sk _ => ⟨sk, _, walletParse_encode sk, rfl, if_pos rfl⟩

scoped instance : CvmAgentTypes where
  publicIdentityFromStr _ := none
  parseRegistryAddress s := (Hex.decode s).bind (toArray? 20)

scoped instance : EthKeystore where
  Rng := Unit
  encryptKey _ sk password :=
    some (.arr [.str (Hex.encode sk), .str password], [])

/-! ## Hashes -/

/-- A polynomial in the bytes of the message. -/
def digest (m : List UInt8) : Bytes 32 :=
  ⟨BigEndian.encode 32
    (m.foldl (fun h b => (h * 257 + b.toNat + 1) % 2 ^ 256) 0),
    BigEndian.encode_length _ _⟩

/-- The digits behind `0x` or `0X`. -/
def hexDigits : Str → Str
  | '0' :: 'x' :: digits => digits
  | '0' :: 'X' :: digits => digits
  | digits => digits

theorem hexDigits_encode (bytes : List UInt8) :
    hexDigits (Hex.encode bytes) = Hex.encode bytes := by
  have hupper : 'X' ∉ Hex.encode bytes := by
    intro hmem
    obtain ⟨n, hn, hdigit⟩ := Hex.exists_digit_of_mem_encode hmem
    revert hdigit
    interval_cases n <;> decide
  unfold hexDigits
  split
  · next digits h => exact absurd h (Hex.encode_ne_prefixed bytes digits)
  · next digits h => exact absurd (by simp [h]) hupper
  · rfl

/-- The array is read from as many digits as it has, whatever follows them, and
the reader panics when there are fewer. -/
scoped instance : SerdeHex where
  fromHex n s :=
    if (hexDigits s).length < 2 * n then Outcome.panic
    else Outcome.okOr .hex
      ((Hex.decode ((hexDigits s).take (2 * n))).bind (toArray? n))
  fromHex_of_isHexOf := by
    intro n s b h
    have hdigits : hexDigits s = Hex.encode b.toList := by
      rcases h with rfl | rfl
      · exact hexDigits_encode _
      · rfl
    have hlength : (Hex.encode b.toList).length = 2 * n := by
      rw [Hex.encode_length, b.toList_length]
    rw [hdigits, if_neg (by omega), List.take_of_length_le hlength.le,
      Hex.decode_encode, Option.bind_some, toArray?_bytes]
    rfl

scoped instance : Hashing where
  sha256 := digest
  keccak256 := digest

def leaf (n : UInt64) : Bytes 32 :=
  ⟨BigEndian.encode 32 n.toNat, BigEndian.encode_length _ _⟩

scoped instance : Eth2TreeHash where
  uint64 := ⟨leaf⟩
  root := ⟨id⟩
  forkData := ⟨fun d => digest
    (d.currentVersion.toList ++ d.genesisValidatorsRoot.toList)⟩
  beaconBlock := ⟨fun b => digest ((leaf b.slot).toList ++
    b.parentRoot.toList ++ b.stateRoot.toList)⟩
  beaconBlockHeader := ⟨fun b => digest ((leaf b.slot).toList ++
    b.parentRoot.toList ++ b.stateRoot.toList ++ b.bodyRoot.toList)⟩
  attestationData := ⟨fun a => digest ((leaf a.slot).toList ++
    (leaf a.source.epoch).toList ++ (leaf a.target.epoch).toList)⟩
  aggregateAndProof := ⟨fun a => leaf a.aggregatorIndex⟩
  depositMessage := ⟨fun d => digest (d.pubkey.toList ++
    d.withdrawalCredentials.toList ++ (leaf d.amount).toList)⟩
  depositData := ⟨fun d => digest (d.pubkey.toList ++
    d.withdrawalCredentials.toList ++ (leaf d.amount).toList ++
    d.signature.toList)⟩
  voluntaryExit := ⟨fun v => digest
    ((leaf v.epoch).toList ++ (leaf v.validatorIndex).toList)⟩
  syncAggregatorSelectionData := ⟨fun d => digest
    ((leaf d.slot).toList ++ (leaf d.subcommitteeIndex).toList)⟩
  contributionAndProof := ⟨fun c => leaf c.aggregatorIndex⟩
  validatorRegistration := ⟨fun r => digest (r.feeRecipient.toList ++
    (leaf r.gasLimit).toList ++ (leaf r.timestamp).toList ++
    r.pubkey.toList)⟩

/-! ## Sample values -/

/-- Numerals are casts. -/
scoped instance (n : ℕ) : OfNat Scalar (n + 2) :=
  ⟨((n + 2 : ℕ) : Scalar)⟩

/-- A key set of threshold zero. -/
def constant (c : Scalar) : Poly := ⟨[c], by simp⟩

/-- A key set of threshold one. -/
def line (c d : Scalar) : Poly := ⟨[c, d], by simp⟩

/-- The name of the files of a key. -/
def keyName (c : Scalar) : Str := Hex.encode (toBytes 48 c).toList

def genesisForkInfo : ForkInfo where
  fork := {
    previousVersion := GENESIS_FORK_VERSION
    currentVersion := GENESIS_FORK_VERSION
    epoch := 0 }
  genesisValidatorsRoot := List.Vector.replicate 32 0

/-- The header of an otherwise empty block. -/
def emptyHeader (slot : Slot) : BeaconBlockHeader where
  slot := slot
  proposerIndex := 0
  parentRoot := List.Vector.replicate 32 0
  stateRoot := List.Vector.replicate 32 0
  bodyRoot := List.Vector.replicate 32 0

end ValidatorGuardian.Exponent
