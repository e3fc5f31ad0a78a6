import Mathlib.Data.Nat.Digits.Defs
import Mathlib.Data.UInt

/-!
# Numbers as big-endian bytes

A number is written in a fixed count of bytes, the most significant first, and
is read back from them when it fits.
-/

namespace BigEndian

/-- The lowest `k` bytes of `n`. -/
def encode : ℕ → ℕ → List UInt8
  | 0, _ => []
  | k + 1, n => encode k (n / 256) ++ [UInt8.ofNat n]

def decode (bs : List UInt8) : ℕ :=
  Nat.ofDigits 256 (bs.reverse.map UInt8.toNat)

@[simp] theorem encode_length (k n : ℕ) : (encode k n).length = k := by
  induction k generalizing n with
  | zero => rfl
  | succ k ih => simp [encode, ih]

/-- A number that fits is read back. -/
theorem decode_encode {k n : ℕ} (h : n < 256 ^ k) :
    decode (encode k n) = n := by
  induction k generalizing n with
  | zero =>
      obtain rfl := Nat.lt_one_iff.mp h
      rfl
  | succ k ih =>
      have hhigh : n / 256 < 256 ^ k :=
        Nat.div_lt_of_lt_mul (by rwa [pow_succ'] at h)
      have hlow : (UInt8.ofNat n).toNat = n % 256 := UInt8.toNat_ofNat'
      have hread := ih hhigh
      rw [decode] at hread ⊢
      rw [encode, List.reverse_append, List.reverse_singleton,
        List.singleton_append, List.map_cons, Nat.ofDigits_cons, hread, hlow]
      exact Nat.mod_add_div n 256

theorem encode_inj {k n m : ℕ} (hn : n < 256 ^ k) (hm : m < 256 ^ k) :
    encode k n = encode k m ↔ n = m := by
  constructor
  · intro h
    rw [← decode_encode hn, h, decode_encode hm]
  · rintro rfl
    rfl

end BigEndian
