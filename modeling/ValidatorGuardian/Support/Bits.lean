import ValidatorGuardian.Support.BigEndian
import Mathlib.Data.Nat.Digits.Lemmas
import Mathlib.Data.Nat.Bitwise

/-!
# Bits as bytes

A list of bits is the binary form of a number, the lowest bit first, and is
written as the bytes of that number, the lowest byte first.  A list whose
length is not known is closed by one more bit that is set.
-/

namespace Bits

/-- The number with these bits. -/
def value (bits : List Bool) : ℕ :=
  Nat.ofDigits 2 (bits.map Bool.toNat)

/-- The lowest `k` bits of a number. -/
def ofValue (k n : ℕ) : List Bool :=
  (List.range k).map n.testBit

theorem digit_lt {bits : List Bool} : ∀ x ∈ bits.map Bool.toNat, x < 2 := by
  intro x hx
  obtain ⟨b, -, rfl⟩ := List.mem_map.mp hx
  exact Bool.toNat_lt b

theorem value_lt (bits : List Bool) : value bits < 2 ^ bits.length := by
  have hdigit : ∀ x ∈ bits.map Bool.toNat, x < 2 := digit_lt
  have hlt := Nat.ofDigits_lt_base_pow_length (by decide) hdigit
  rwa [List.length_map] at hlt

/-- A number determines its bits when their count is known. -/
theorem value_inj {bits bits' : List Bool}
    (hlength : bits.length = bits'.length) (h : value bits = value bits') :
    bits = bits' := by
  have hdigits := Nat.ofDigits_inj_of_len_eq (by decide)
    (by simpa using hlength) digit_lt digit_lt h
  have hinj : Function.Injective Bool.toNat := by decide
  exact List.map_injective_iff.mpr hinj hdigits

theorem value_cons (b : Bool) (bits : List Bool) :
    value (b :: bits) = b.toNat + 2 * value bits := by
  rw [value, List.map_cons, Nat.ofDigits_cons]
  rfl

theorem testBit_value {bits : List Bool} {i : ℕ} (hi : i < bits.length) :
    (value bits).testBit i = bits[i] := by
  induction bits generalizing i with
  | nil => cases hi
  | cons b bits ih =>
      rw [value_cons]
      cases i with
      | zero => cases b <;> simp [Nat.testBit_zero]
      | succ i =>
          have hdiv : (b.toNat + 2 * value bits) / 2 = value bits := by
            have hb := Bool.toNat_lt b
            omega
          rw [Nat.testBit_succ, hdiv]
          exact ih (Nat.lt_of_succ_lt_succ hi)

@[simp] theorem length_ofValue (k n : ℕ) : (ofValue k n).length = k := by
  simp [ofValue]

theorem getElem_ofValue {k n i : ℕ} (hi : i < (ofValue k n).length) :
    (ofValue k n)[i] = n.testBit i := by
  simp [ofValue]

/-- The bits of the number are read back. -/
@[simp] theorem ofValue_value (bits : List Bool) :
    ofValue bits.length (value bits) = bits := by
  apply List.ext_getElem (length_ofValue _ _)
  intro i hi hi'
  rw [getElem_ofValue, testBit_value hi']

/-! ## Bytes -/

/-- The lowest `k` bytes of the number. -/
def toBytes (k : ℕ) (bits : List Bool) : List UInt8 :=
  (BigEndian.encode k (value bits)).reverse

/-- The number with these bytes. -/
def ofBytes (bytes : List UInt8) : ℕ :=
  BigEndian.decode bytes.reverse

@[simp] theorem length_toBytes (k : ℕ) (bits : List Bool) :
    (toBytes k bits).length = k := by
  rw [toBytes, List.length_reverse, BigEndian.encode_length]

theorem value_lt_bytes {k : ℕ} {bits : List Bool}
    (h : bits.length ≤ 8 * k) : value bits < 256 ^ k := by
  have hpow : 2 ^ bits.length ≤ 2 ^ (8 * k) :=
    Nat.pow_le_pow_right (by decide) h
  rw [pow_mul] at hpow
  exact (value_lt bits).trans_le hpow

theorem ofBytes_toBytes {k : ℕ} {bits : List Bool}
    (h : bits.length ≤ 8 * k) : ofBytes (toBytes k bits) = value bits := by
  rw [ofBytes, toBytes, List.reverse_reverse,
    BigEndian.decode_encode (value_lt_bytes h)]

/-! ## Lists with a closing bit -/

theorem value_closed (bits : List Bool) :
    value (bits ++ [true]) = value bits + 2 ^ bits.length := by
  simp [value, Nat.ofDigits_append]

/-- The closing bit is the highest one. -/
theorem log2_value_closed (bits : List Bool) :
    (value (bits ++ [true])).log2 = bits.length := by
  have hlt := value_lt bits
  rw [value_closed, Nat.log2_eq_iff (by positivity)]
  constructor
  · omega
  · rw [pow_succ]
    omega

/-- The bits under the closing bit. -/
theorem ofValue_closed (bits : List Bool) :
    ofValue bits.length (value (bits ++ [true])) = bits := by
  apply List.ext_getElem (length_ofValue _ _)
  intro i hi hi'
  have hlast : i < (bits ++ [true]).length := by
    rw [List.length_append]
    omega
  rw [getElem_ofValue, testBit_value hlast, List.getElem_append_left hi']

end Bits
