import Mathlib.Data.Nat.Digits.Lemmas
import ValidatorGuardian.Support.BigEndian

/-!
# Numbers as little-endian limbs

A number is written in 64-bit limbs, the least significant first.  Written
without a zero limb at the high end, it takes as many limbs as its size needs,
and no fewer; so asking for an exact count of limbs asks for a range of
numbers.
-/

namespace Limbs

def value (ls : List UInt64) : ℕ :=
  Nat.ofDigits (2 ^ 64) (ls.map UInt64.toNat)

/-- There is no zero limb at the high end. -/
def Minimal (ls : List UInt64) : Prop :=
  ∀ h : ls ≠ [], ls.getLast h ≠ 0

/-- The minimal limbs of a number. -/
def ofNat (n : ℕ) : List UInt64 :=
  (Nat.digits (2 ^ 64) n).map UInt64.ofNat

variable {ls ls' : List UInt64}

theorem digit_lt {d : ℕ} (hd : d ∈ ls.map UInt64.toNat) : d < 2 ^ 64 := by
  obtain ⟨l, -, rfl⟩ := List.mem_map.mp hd
  exact l.toNat_lt

/-! ## How many limbs a number takes -/

/-- Minimal limbs are the digits of their value. -/
theorem digits_value (h : Minimal ls) :
    Nat.digits (2 ^ 64) (value ls) = ls.map UInt64.toNat := by
  refine Nat.digits_ofDigits _ (by decide) _ (fun d hd => digit_lt hd) ?_
  intro hne hlast
  rw [List.getLast_map] at hlast
  exact h (by simpa using hne) (UInt64.toNat_inj.mp hlast)

/-- The numbers whose minimal limbs are `k + 1` many. -/
theorem length_eq_succ_iff (h : Minimal ls) {k : ℕ} :
    ls.length = k + 1 ↔
      (2 ^ 64) ^ k ≤ value ls ∧ value ls < (2 ^ 64) ^ (k + 1) := by
  have hlength : (Nat.digits (2 ^ 64) (value ls)).length = ls.length := by
    rw [digits_value h, List.length_map]
  rw [← Nat.lt_digits_length_iff (by decide),
    ← Nat.digits_length_le_iff (by decide), hlength]
  omega

theorem value_lt (ls : List UInt64) : value ls < (2 ^ 64) ^ ls.length := by
  have hlt := Nat.ofDigits_lt_base_pow_length (b := 2 ^ 64)
    (l := ls.map UInt64.toNat) (by decide) fun d hd => digit_lt hd
  rwa [List.length_map] at hlt

/-- Limbs of one length are determined by their value. -/
theorem eq_of_value (hlength : ls.length = ls'.length)
    (h : value ls = value ls') : ls = ls' := by
  have hmap : ls.map UInt64.toNat = ls'.map UInt64.toNat :=
    Nat.ofDigits_inj_of_len_eq (by decide) (by simpa using hlength)
      (fun d hd => digit_lt hd) (fun d hd => digit_lt hd) h
  exact List.map_injective_iff.mpr (fun _ _ => UInt64.toNat_inj.mp) hmap

theorem map_toNat_ofNat (n : ℕ) :
    (ofNat n).map UInt64.toNat = Nat.digits (2 ^ 64) n := by
  have hdigit : ∀ d ∈ Nat.digits (2 ^ 64) n,
      (UInt64.toNat ∘ UInt64.ofNat) d = id d := by
    intro d hd
    exact UInt64.toNat_ofNat_of_lt' (Nat.digits_lt_base (by decide) hd)
  rw [ofNat, List.map_map, List.map_congr_left hdigit, List.map_id]

theorem value_ofNat (n : ℕ) : value (ofNat n) = n := by
  rw [value, map_toNat_ofNat, Nat.ofDigits_digits]

theorem minimal_ofNat (n : ℕ) : Minimal (ofNat n) := by
  intro hne hlast
  have hn : n ≠ 0 := by
    rintro rfl
    exact hne (by simp [ofNat])
  have hmap : ((ofNat n).map UInt64.toNat).getLast (by simpa using hne) =
      0 := by
    rw [List.getLast_map, hlast]
    rfl
  simp only [map_toNat_ofNat] at hmap
  exact Nat.getLast_digit_ne_zero _ hn hmap

/-! ## The bytes of limbs -/

/-- The bytes of limbs, the least significant first. -/
def toBytes (ls : List UInt64) : List UInt8 :=
  ls.flatMap fun l => (BigEndian.encode 8 l.toNat).reverse

theorem ofDigits_toBytes (ls : List UInt64) :
    Nat.ofDigits 256 ((toBytes ls).map UInt8.toNat) = value ls := by
  induction ls with
  | nil => rfl
  | cons l ls ih =>
      have hlimb : Nat.ofDigits 256
          ((BigEndian.encode 8 l.toNat).reverse.map UInt8.toNat) =
            l.toNat :=
        BigEndian.decode_encode l.toNat_lt
      rw [toBytes, List.flatMap_cons, List.map_append, Nat.ofDigits_append,
        hlimb]
      rw [toBytes] at ih
      rw [ih, value, value, List.map_cons, Nat.ofDigits_cons,
        List.length_map, List.length_reverse, BigEndian.encode_length]
      norm_num

end Limbs
