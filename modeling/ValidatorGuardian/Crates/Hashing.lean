import ValidatorGuardian.Basic

/-!
# Hash functions and tree roots

SHA-256 and Keccak-256 are taken as given functions on byte strings.  The
root that the `tree_hash` library computes of a value is taken as given for
every derived type but `SigningData`, whose two fields are 32-byte leaves.
-/

namespace ValidatorGuardian

/-- The hash functions of the `ring` and `sha3` libraries. -/
class Hashing where
  sha256 : List UInt8 → Bytes 32
  keccak256 : List UInt8 → Bytes 32

/-- Two byte strings that exhibit a collision of a hash function. -/
def Collision (hash : List UInt8 → Bytes 32) (p q : List UInt8) : Prop :=
  p ≠ q ∧ hash p = hash q

/-- Equal digests come from equal preimages, or the preimages collide. -/
theorem eq_or_collision {hash : List UInt8 → Bytes 32} {p q : List UInt8}
    (h : hash p = hash q) : p = q ∨ Collision hash p q := by
  by_cases hpq : p = q
  · exact .inl hpq
  · exact .inr ⟨hpq, h⟩

/-- `tree_hash::TreeHash`. -/
class TreeHash (α : Type) where
  treeHashRoot : α → Bytes 32

end ValidatorGuardian
