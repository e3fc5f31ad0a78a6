import ValidatorGuardian.Basic
import ValidatorGuardian.Support.Json

/-!
# The Ethereum libraries

`libsecp256k1` keys with the `ecies` envelope on top of them, the parts of
`ethers` that encode and sign, and the types of the CVM agent and of the
on-chain session registry.  The environment of a call to the agent or to the
registry is an argument of the code that makes the call.
-/

namespace ValidatorGuardian

/-- The parts of `libsecp256k1` and `ecies` that the program uses.  A `Seed`
is the randomness that one encryption consumes. -/
class Secp256k1 where
  SecretKey : Type
  PublicKey : Type
  Seed : Type
  secretKeySerialize : SecretKey → Bytes 32
  secretKeyParse : Bytes 32 → Option SecretKey
  publicKeyFromSecretKey : SecretKey → PublicKey
  publicKeySerialize : PublicKey → Bytes 65
  publicKeySerializeCompressed : PublicKey → Bytes 33
  publicKeyParse : Bytes 65 → Option PublicKey
  eciesEncrypt : Seed → Bytes 65 → List UInt8 → Option (List UInt8)
  eciesDecrypt : Bytes 32 → List UInt8 → Option (List UInt8)

abbrev EthSecretKey [Secp256k1] := Secp256k1.SecretKey
abbrev EthPublicKey [Secp256k1] := Secp256k1.PublicKey

/-- `SecretKey::parse_slice` refuses every length but 32. -/
def Secp256k1.secretKeyParseSlice [Secp256k1] (sk : List UInt8) :
    Option EthSecretKey :=
  (toArray? 32 sk).bind secretKeyParse

/-- Keys parse to what was serialized, and a compressed key determines the
key. -/
structure Secp256k1.Encodings [Secp256k1] : Prop where
  secretKey : ∀ sk : EthSecretKey,
    secretKeyParse (secretKeySerialize sk) = some sk
  compressed_injective : Function.Injective publicKeySerializeCompressed

theorem Secp256k1.Encodings.parseSlice [Secp256k1]
    (h : Secp256k1.Encodings) (sk : EthSecretKey) :
    secretKeyParseSlice (secretKeySerialize sk).toList = some sk := by
  rw [secretKeyParseSlice, toArray?_bytes]
  exact h.secretKey sk

/-- An uncompressed key determines the key. -/
def Secp256k1.UncompressedDeterminesKey [Secp256k1] : Prop :=
  Function.Injective publicKeySerialize

/-- An uncompressed key parses to the key that was serialized. -/
def Secp256k1.UncompressedParses [Secp256k1] : Prop :=
  ∀ pk : EthPublicKey, publicKeyParse (publicKeySerialize pk) = some pk

/-- The public key of a secret determines the secret. -/
def Secp256k1.PublicDeterminesSecret [Secp256k1] : Prop :=
  Function.Injective publicKeyFromSecretKey

/-- An envelope opens under the secret key that it was sealed for. -/
structure Secp256k1.Ecies [Secp256k1] : Prop where
  encrypts : ∀ (seed : Seed) (pk : EthPublicKey) (m : List UInt8),
    ∃ c, eciesEncrypt seed (publicKeySerialize pk) m = some c
  decrypts : ∀ (seed : Seed) (sk : EthSecretKey) (m c : List UInt8),
    eciesEncrypt seed (publicKeySerialize (publicKeyFromSecretKey sk)) m =
        some c →
      eciesDecrypt (secretKeySerialize sk) c = some m

/-- The part of `eth_keystore` that the program uses: the contents of an
encrypted keystore and its identifier. -/
class EthKeystore where
  Rng : Type
  encryptKey : Rng → List UInt8 → Str → Option (Json.Value × Str)

/-- `ethers::abi::Token`, as far as the program builds it. -/
inductive Token (Address : Type) where
  | string (s : String)
  | address (a : Address)
  | uint (n : ℕ)
  | bytes (b : List UInt8)
  | fixedBytes (b : List UInt8)

/-- The parts of `ethers` that the program uses. -/
class Ethers where
  Address : Type
  decEqAddress : DecidableEq Address
  LocalWallet : Type
  Signature : Type
  parseAddress : Str → Option Address
  abiEncode : List (Token Address) → List UInt8
  walletParse : Str → Option LocalWallet
  walletAddress : LocalWallet → Address
  signMessage : LocalWallet → List UInt8 → Option Signature
  signatureToString : Signature → Str
  recover : Signature → List UInt8 → Option Address
  publicKeyToAddress : Bytes 65 → Address

instance [Ethers] : DecidableEq Ethers.Address := Ethers.decEqAddress

/-- The wallet parsed from a secret key has the address of its public key. -/
def Ethers.WalletAddress [Secp256k1] [Ethers] : Prop :=
  ∀ (sk : EthSecretKey) (w : LocalWallet),
    walletParse (Hex.encode (Secp256k1.secretKeySerialize sk).toList) =
        some w →
      walletAddress w = publicKeyToAddress
        (Secp256k1.publicKeySerialize (Secp256k1.publicKeyFromSecretKey sk))

/-- A secret key makes a wallet, which signs every message so that the address
of the wallet is recovered. -/
def Ethers.WalletSigns [Secp256k1] [Ethers] : Prop :=
  ∀ (sk : EthSecretKey) (m : List UInt8), ∃ w sig,
    walletParse (Hex.encode (Secp256k1.secretKeySerialize sk).toList) =
        some w ∧
      signMessage w m = some sig ∧ recover sig m = some (walletAddress w)

/-- `PublicIdentity` of the CVM agent and of the session registry. -/
structure PublicIdentity where
  typeId : UInt8
  key : List UInt8
deriving DecidableEq

/-- Parsing of the agent's identity from JSON text, and of an address. -/
class CvmAgentTypes where
  publicIdentityFromStr : Str → Option PublicIdentity
  parseRegistryAddress : Str → Option (Bytes 20)

/-- What the guardian reads from its environment and asks the session
registry.  A query that fails answers nothing. -/
structure SessionRegistry where
  rpcUrl : Option Str
  registryAddress : Option Str
  verifySessionSignature :
    Str → Bytes 20 → Bytes 32 → PublicIdentity → Bytes 32 → List UInt8 →
      Option Bool
  getSessionWorkloadId : Str → Bytes 20 → Bytes 32 → Option (Bytes 32)

/-- What the CVM agent returns for a signed message. -/
structure SessionProof where
  sessionId : Bytes 32
  signature : List UInt8
  sessionKey : PublicIdentity
  ownerKey : PublicIdentity

/-- The environment of attestation requests: whether the agent is stubbed out,
and how it answers a request to sign. -/
structure CvmAgent where
  stub : Bool
  signMessage : List UInt8 → Option SessionProof

end ValidatorGuardian
