import ValidatorGuardian.Basic
import ValidatorGuardian.Support.Limbs
import Mathlib

/-!
# Big integers

The `num-bigint` library computes with integers of any size.  Its integers are
natural numbers here; what it parses, prints and takes apart is taken as given,
with the documented behaviour as named laws.
-/

namespace ValidatorGuardian

/-- `BigUint::parse_bytes` and `to_str_radix` in base ten, `to_u64_digits` and
`from_bytes_le`. -/
class NumBigint where
  parseBytes : Str → Option ℕ
  toStrRadix : ℕ → Str
  toU64Digits : ℕ → List UInt64
  fromBytesLe : List UInt8 → ℕ

/-- The decimal strings of a number: the canonical one, and it with zeros in
front. -/
def IsDecimal (s : Str) (v : ℕ) : Prop :=
  s ≠ [] ∧ (∀ c ∈ s, c.isDigit = true) ∧ Nat.ofDigitChars 10 s 0 = v

instance (s : Str) (v : ℕ) : Decidable (IsDecimal s v) :=
  inferInstanceAs (Decidable (_ ∧ _ ∧ _))

theorem isDecimal_toDigits (v : ℕ) : IsDecimal (Nat.toDigits 10 v) v :=
  ⟨Nat.toDigits_ne_nil,
    fun _ hc => Nat.isDigit_of_mem_toDigits (by decide) (by decide) hc,
    Nat.ofDigitChars_ten_toDigits⟩

/-- What the library documents of its functions. -/
structure NumBigint.Laws [NumBigint] : Prop where
  parse : ∀ {s v}, IsDecimal s v → parseBytes s = some v
  print : ∀ v, toStrRadix v = Nat.toDigits 10 v
  limbs : ∀ v, Limbs.value (toU64Digits v) = v
  minimal : ∀ v, Limbs.Minimal (toU64Digits v)
  bytes : ∀ bs, fromBytesLe bs = Nat.ofDigits 256 (bs.map UInt8.toNat)

/-! ## The library on digit strings -/

namespace Schoolbook

scoped instance : NumBigint where
  parseBytes s :=
    if s ≠ [] ∧ ∀ c ∈ s, c.isDigit = true then
      some (Nat.ofDigitChars 10 s 0)
    else none
  toStrRadix := Nat.toDigits 10
  toU64Digits := Limbs.ofNat
  fromBytesLe bs := Nat.ofDigits 256 (bs.map UInt8.toNat)

theorem laws : NumBigint.Laws where
  parse h := by
    obtain ⟨hne, hdigits, hvalue⟩ := h
    exact (if_pos ⟨hne, hdigits⟩).trans (congrArg some hvalue)
  print _ := rfl
  limbs := Limbs.value_ofNat
  minimal := Limbs.minimal_ofNat
  bytes _ := rfl

end Schoolbook

end ValidatorGuardian
