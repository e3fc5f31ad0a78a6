import ValidatorGuardian.Basic

/-!
# The BLS threshold library

`blsttc` keys, key sets and signatures, with the functions the program calls.
A `SecretKeyShare`, `PublicKeyShare` or `SignatureShare` wraps a key or a
signature and adds nothing to it, so the wrapped types stand for both.

The laws are those the program relies on.  They are stated apart from the
functions, so that each result names the laws it needs.
-/

namespace ValidatorGuardian

/-- The part of `blsttc` that the program uses. -/
class Blsttc where
  SecretKeySet : Type
  PublicKeySet : Type
  SecretKey : Type
  PublicKey : Type
  Signature : Type
  secretKeySetFromBytes : List UInt8 → Option SecretKeySet
  secretKeySetToBytes : SecretKeySet → List UInt8
  secretThreshold : SecretKeySet → UInt64
  publicKeys : SecretKeySet → PublicKeySet
  secretKey : SecretKeySet → SecretKey
  secretKeyShare : SecretKeySet → ℕ → SecretKey
  publicKeySetFromBytes : List UInt8 → Option PublicKeySet
  publicKeySetToBytes : PublicKeySet → List UInt8
  threshold : PublicKeySet → UInt64
  coefficients : PublicKeySet → ℕ
  publicKey : PublicKeySet → PublicKey
  publicKeyShare : PublicKeySet → ℕ → PublicKey
  combineSignatures : PublicKeySet → List (ℕ × Signature) → Option Signature
  publicKeyToBytes : PublicKey → Bytes 48
  publicKeyToHex : PublicKey → Str
  verify : PublicKey → Signature → List UInt8 → Bool
  secretKeyFromBytes : Bytes 32 → Option SecretKey
  secretKeyToBytes : SecretKey → Bytes 32
  derivePublicKey : SecretKey → PublicKey
  sign : SecretKey → List UInt8 → Signature
  signatureFromBytes : Bytes 96 → Option Signature
  signatureToBytes : Signature → Bytes 96

namespace Blsttc

/-- `SecretKeyShare`, `PublicKeyShare` and `SignatureShare`. -/
abbrev SecretKeyShare [Blsttc] := SecretKey
abbrev PublicKeyShare [Blsttc] := PublicKey
abbrev SignatureShare [Blsttc] := Signature

/-! ## The public key of a set -/

section PublicKeyOf

variable [Blsttc] {set : PublicKeySet} {pk : PublicKey}

/-- The public key of a set is its first coefficient.  A set may have none: it
is read from fewer bytes than one coefficient takes. -/
def HasPublicKey (set : PublicKeySet) : Prop := 0 < coefficients set

instance (set : PublicKeySet) : Decidable (HasPublicKey set) :=
  inferInstanceAs (Decidable (0 < coefficients set))

/-- `PublicKeySet::public_key` indexes the coefficients, and panics when there
is none. -/
def publicKeyOf (set : PublicKeySet) : Outcome PublicKey :=
  if HasPublicKey set then .ok (publicKey set) else Outcome.panic

theorem HasPublicKey.publicKeyOf_eq (h : HasPublicKey set) :
    publicKeyOf set = .ok (publicKey set) :=
  if_pos h

@[simp] theorem publicKeyOf_eq_ok :
    publicKeyOf set = .ok pk ↔ HasPublicKey set ∧ publicKey set = pk := by
  unfold publicKeyOf
  split <;> simp_all

@[simp] theorem publicKeyOf_eq_panic :
    publicKeyOf set = .error .panic ↔ ¬ HasPublicKey set := by
  unfold publicKeyOf
  split <;> simp_all [Outcome.panic]

end PublicKeyOf

/-! ## Laws -/

/-- `PublicKey::to_hex` prints the compressed encoding in lower-case hex. -/
def HexOfBytes [Blsttc] : Prop :=
  ∀ pk : PublicKey,
    publicKeyToHex pk = Hex.encode (publicKeyToBytes pk).toList

/-- Encodings decode to what they encode. -/
structure Encodings [Blsttc] : Prop where
  publicKeyToBytes_injective : Function.Injective publicKeyToBytes
  publicKeySet : ∀ s : PublicKeySet,
    publicKeySetFromBytes (publicKeySetToBytes s) = some s
  secretKeyShare : ∀ s : SecretKeyShare,
    secretKeyFromBytes (secretKeyToBytes s) = some s
  signature : ∀ s : Signature,
    signatureFromBytes (signatureToBytes s) = some s

/-- A secret key set decodes to what it was encoded from. -/
def SecretSets [Blsttc] : Prop :=
  ∀ s : SecretKeySet, secretKeySetFromBytes (secretKeySetToBytes s) = some s

/-- A public key set is encoded as its coefficients, 48 bytes each. -/
def SetLength [Blsttc] : Prop :=
  ∀ s : PublicKeySet, HasPublicKey s →
    (publicKeySetToBytes s).length = 48 * ((threshold s).toNat + 1)

/-- The 32 bytes of a share, read as a key set, hold that share as the secret
key. -/
def ShareAsKeySet [Blsttc] : Prop :=
  ∀ s : SecretKeyShare, ∃ set,
    secretKeySetFromBytes (secretKeyToBytes s).toList = some set ∧
      secretKey set = s

/-- The public key of a secret determines the secret. -/
def PublicDeterminesSecret [Blsttc] : Prop :=
  Function.Injective derivePublicKey

/-- A signature verifies under the public key of the secret that made it. -/
def SignVerifies [Blsttc] : Prop :=
  ∀ (s : SecretKey) (m : List UInt8), verify (derivePublicKey s) (sign s m) m

/-- The public key set of a secret key set is made of its public keys. -/
structure KeySets [Blsttc] : Prop where
  publicKey : ∀ s : SecretKeySet,
    publicKey (publicKeys s) = derivePublicKey (secretKey s)
  publicKeyShare : ∀ (s : SecretKeySet) (i : ℕ),
    publicKeyShare (publicKeys s) i = derivePublicKey (secretKeyShare s i)
  threshold : ∀ s : SecretKeySet, HasPublicKey (publicKeys s) →
    threshold (publicKeys s) = secretThreshold s

end Blsttc

end ValidatorGuardian
