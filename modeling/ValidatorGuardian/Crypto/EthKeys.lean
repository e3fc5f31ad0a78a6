import ValidatorGuardian.Crates.Ethereum
import ValidatorGuardian.Io.KeyManagement

/-!
# ETH keys

A guardian's key pair is saved under the hex of its compressed public key.
Key shares are sent to a guardian in an envelope that only its secret key
opens.
-/

namespace ValidatorGuardian

open Secp256k1

variable [Secp256k1]

/-- A key pair; `random` is the secret key that the generator draws. -/
def newEthKey (random : EthSecretKey) : Outcome (EthSecretKey × EthPublicKey) :=
  .ok (random, publicKeyFromSecretKey random)

/-- Hex-encode ETH secret key. -/
def ethSkToHex (sk : EthSecretKey) : Str :=
  strip0xPrefix (Hex.encode (secretKeySerialize sk).toList)

/-- The compressed 33 bytes of a public key, hex-encoded. -/
def ethPkToHex (pk : EthPublicKey) : Str :=
  strip0xPrefix (Hex.encode (publicKeySerializeCompressed pk).toList)

/-- The uncompressed 65 bytes of a public key, hex-encoded. -/
def ethPkToHexUncompressed (pk : EthPublicKey) : Str :=
  strip0xPrefix (Hex.encode (publicKeySerialize pk).toList)

/-- An ETH public key from hex text of the uncompressed 65 bytes. -/
def ethPkFromHexUncompressed (pkHex : Str) : Outcome EthPublicKey := do
  let pkHex := strip0xPrefix pkHex
  let pkBytes ← hexDecode pkHex
  Outcome.bailIf (pkBytes.length ≠ ETH_UNCOMPRESSED_PK_BYTES)
    "ETH pk should be in 65B form"
  let pkUncompressedBytes ← copyFromSlice ETH_UNCOMPRESSED_PK_BYTES pkBytes
  Outcome.mapErr (.format "failed to recover ETH pk from pk_hex: ")
    (Outcome.okOr .secp256k1 (publicKeyParse pkUncompressedBytes))

def ethSkFromBytes (sk : List UInt8) : Outcome EthSecretKey :=
  Outcome.withContext "couldn't parse sk bytes to eth sk type"
    (Outcome.okOr .secp256k1 (secretKeyParseSlice sk))

/-- Write the secret key to a file named by the hex-encoded public key. -/
def saveEthKey (sk : EthSecretKey) (pk : EthPublicKey) :
    Enclave EthPublicKey := do
  let pkHex := ethPkToHex pk
  let skHex := ethSkToHex sk
  withContext "eth sk failed to save" (writeEthKey pkHex skHex)
  return pk

/-- Generates a fresh ETH key pair and saves it. -/
def ethKeyGen (random : EthSecretKey) : Enclave EthPublicKey := do
  let (sk, pk) ← liftM (newEthKey random)
  withContext "Failed to save generated ETH key" (saveEthKey sk pk)

/-- Read the secret key from the file named by the hex-encoded public key. -/
def fetchEthKey (pkHex : Str) : Enclave EthSecretKey := do
  let pkHex := strip0xPrefix pkHex
  let skBytes ← readEthKey pkHex
  liftM (ethSkFromBytes skBytes)

def envelopeEncrypt (seed : Seed) (publicKey : EthPublicKey)
    (message : List UInt8) : Outcome (List UInt8) :=
  Outcome.withContext
    "Failed to encrypt the message using the provided public key"
    (Outcome.okOr .ecies
      (eciesEncrypt seed (publicKeySerialize publicKey) message))

def envelopeDecrypt (secretKey : EthSecretKey)
    (encryptedMessage : List UInt8) : Outcome (List UInt8) :=
  Outcome.withContext
    "Failed to decrypt the message using the provided secret key"
    (Outcome.okOr .ecies
      (eciesDecrypt (secretKeySerialize secretKey) encryptedMessage))

/-! ## Saved keys -/

/-- The ETH key that a file holds. -/
def savedEthKey (D : Disk) (fname : Str) : Option EthSecretKey :=
  (D.key .ethKeys fname).bind secretKeyParseSlice

/-- What the reader of an ETH key finds. -/
def lookupEthKey (D : Disk) (fname : Str) : Outcome EthSecretKey := do
  let skBytes ← lookupKey D .ethKeys fname
  ethSkFromBytes skBytes

theorem lookupEthKey_eq_ok {D : Disk} {fname : Str} {sk : EthSecretKey} :
    lookupEthKey D fname = .ok sk ↔ savedEthKey D fname = some sk := by
  simp only [lookupEthKey, savedEthKey, ethSkFromBytes, Outcome.bind_eq_ok,
    lookupKey_eq_ok, Outcome.withContext_eq_ok, Outcome.okOr_eq_ok,
    Option.bind_eq_some_iff]

theorem lookupEthKey_ne_panic (D : Disk) (fname : Str) :
    lookupEthKey D fname ≠ .error .panic :=
  Outcome.bind_ne_panic (lookupKey_ne_panic D .ethKeys fname) fun _ _ =>
    Outcome.withContext_ne_panic Outcome.okOr_ne_panic

theorem query_fetchEthKey (pkHex : Str) :
    Query (fetchEthKey pkHex) fun D =>
      lookupEthKey D (strip0xPrefix (strip0xPrefix pkHex)) :=
  (query_readKey .ethKeys _).bind fun _ => Query.lift _

@[simp] theorem strip0xPrefix_ethPkToHex (pk : EthPublicKey) :
    strip0xPrefix (ethPkToHex pk) = ethPkToHex pk := by
  simp [ethPkToHex]

theorem query_fetchEthKey_ethPkToHex (pk : EthPublicKey) :
    Query (fetchEthKey (ethPkToHex pk)) fun D =>
      lookupEthKey D (ethPkToHex pk) := by
  have hquery := query_fetchEthKey (ethPkToHex pk)
  simp only [strip0xPrefix_ethPkToHex] at hquery
  exact hquery

theorem ethPkToHex_eq (pk : EthPublicKey) :
    ethPkToHex pk = Hex.encode (publicKeySerializeCompressed pk).toList := by
  simp [ethPkToHex]

theorem ethSkToHex_eq (sk : EthSecretKey) :
    ethSkToHex sk = Hex.encode (secretKeySerialize sk).toList := by
  simp [ethSkToHex]

/-- A generated key is written under the hex of its public key. -/
theorem Triple.ethKeyGen {Ok : Fault → Prop} {P : Disk → Prop}
    {random : EthSecretKey} {Q : Disk → Prop} (hdefault : Ok default)
    (hsame : ∀ D, P D → Q D)
    (hset : ∀ D, P D → Q (D.set .ethKeys
      (Hex.encode (publicKeySerializeCompressed
        (publicKeyFromSecretKey random)).toList)
      (.text (Hex.encode (secretKeySerialize random).toList))))
    (htorn : ∀ n, Ok (.torn n) → ∀ D, P D → Q (D.set .ethKeys
      (Hex.encode (publicKeySerializeCompressed
        (publicKeyFromSecretKey random)).toList)
      ((Contents.text
        (Hex.encode (secretKeySerialize random).toList)).tornAt n))) :
    Triple Ok P (ValidatorGuardian.ethKeyGen random) fun _ D => Q D := by
  refine Triple.bindLift ?_ (fun _ D _ hD => hsame D hD)
  rintro ⟨sk, pk⟩ hkey
  obtain ⟨rfl, rfl⟩ := Prod.mk.inj (Except.ok.inj hkey)
  refine Triple.withContext (Q := fun _ D => Q D) ?_ (fun _ _ hD => hD)
  refine Triple.bind (Q := fun _ D => Q D)
    (Triple.withContext (Q := fun _ D => Q D) ?_ (fun _ _ hD => hD))
    (fun _ => Triple.pure fun _ hD => hD) (fun _ _ hD => hD)
  refine Triple.writeFileIn hdefault ?_ (fun _ D hD => hsame D hD) ?_
  · intro D hD
    simpa [ethPkToHex_eq, ethSkToHex_eq] using hset D hD
  · intro n ht _ D hD
    simpa [ethPkToHex_eq, ethSkToHex_eq] using htorn n ht D hD

@[simp] theorem envelopeDecrypt_eq_ok {sk : EthSecretKey}
    {c m : List UInt8} :
    envelopeDecrypt sk c = .ok m ↔
      eciesDecrypt (secretKeySerialize sk) c = some m := by
  simp [envelopeDecrypt]

@[simp] theorem envelopeEncrypt_eq_ok {seed : Seed} {pk : EthPublicKey}
    {c m : List UInt8} :
    envelopeEncrypt seed pk m = .ok c ↔
      eciesEncrypt seed (publicKeySerialize pk) m = some c := by
  simp [envelopeEncrypt]

end ValidatorGuardian
