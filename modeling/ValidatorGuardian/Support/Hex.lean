import Mathlib.Data.List.Basic
import Mathlib.Tactic.IntervalCases

/-!
# Hexadecimal text

Encoding is lower case, two digits for a byte.  Decoding accepts both cases
and refuses odd lengths and any other character.  Decoding inverts encoding,
so an encoded byte string determines its bytes.
-/

namespace Hex

/-- The lower-case digit of a number below sixteen. -/
def digit (n : ℕ) : Char :=
  if n < 10 then Char.ofNat (48 + n) else Char.ofNat (87 + n)

/-- The value of a digit of either case. -/
def digitVal (c : Char) : Option ℕ :=
  if 48 ≤ c.toNat ∧ c.toNat ≤ 57 then some (c.toNat - 48)
  else if 97 ≤ c.toNat ∧ c.toNat ≤ 102 then some (c.toNat - 87)
  else if 65 ≤ c.toNat ∧ c.toNat ≤ 70 then some (c.toNat - 55)
  else none

def encode : List UInt8 → List Char
  | [] => []
  | b :: bs => digit (b.toNat / 16) :: digit (b.toNat % 16) :: encode bs

def decode : List Char → Option (List UInt8)
  | [] => some []
  | [_] => none
  | c₁ :: c₂ :: cs =>
      match digitVal c₁, digitVal c₂, decode cs with
      | some x, some y, some bs => some (UInt8.ofNat (16 * x + y) :: bs)
      | _, _, _ => none

theorem digitVal_digit {n : ℕ} (hn : n < 16) :
    digitVal (digit n) = some n := by
  interval_cases n <;> decide

theorem digit_ne_x {n : ℕ} (hn : n < 16) : digit n ≠ 'x' := by
  interval_cases n <;> decide

theorem digit_utf8Size {n : ℕ} (hn : n < 16) : (digit n).utf8Size = 1 := by
  interval_cases n <;> decide

theorem nibble_high_lt (b : UInt8) : b.toNat / 16 < 16 := by
  have := b.toNat_lt
  omega

theorem nibble_low_lt (b : UInt8) : b.toNat % 16 < 16 := by
  omega

@[simp] theorem decode_encode (bs : List UInt8) :
    decode (encode bs) = some bs := by
  induction bs with
  | nil => rfl
  | cons b bs ih =>
      have hbyte : UInt8.ofNat (16 * (b.toNat / 16) + b.toNat % 16) = b := by
        rw [Nat.div_add_mod]
        exact UInt8.ofNat_toNat
      simp only [encode, decode, digitVal_digit (nibble_high_lt b),
        digitVal_digit (nibble_low_lt b), ih, hbyte]

theorem encode_injective : Function.Injective encode := by
  intro as bs h
  have hdecode := congrArg decode h
  simpa using hdecode

@[simp] theorem encode_inj {as bs : List UInt8} :
    encode as = encode bs ↔ as = bs :=
  encode_injective.eq_iff

@[simp] theorem encode_length (bs : List UInt8) :
    (encode bs).length = 2 * bs.length := by
  induction bs with
  | nil => rfl
  | cons b bs ih =>
      simp only [encode, List.length_cons, ih]
      omega

/-- Decoded text has two digits for each byte. -/
theorem length_of_decode {s : List Char} {bs : List UInt8}
    (h : decode s = some bs) : s.length = 2 * bs.length := by
  fun_induction decode s generalizing bs with
  | case1 => simp [← Option.some.inj h]
  | case2 => cases h
  | case3 c₁ c₂ cs x y bs' hbs hy hx ih =>
      obtain rfl := Option.some.inj h
      rw [List.length_cons, List.length_cons, List.length_cons, ih hbs]
      omega
  | case4 => cases h

/-- Encoded text takes one UTF-8 byte for each character. -/
theorem encode_utf8Size (bs : List UInt8) :
    ((encode bs).map Char.utf8Size).sum = 2 * bs.length := by
  induction bs with
  | nil => rfl
  | cons b bs ih =>
      simp only [encode, List.map_cons, List.sum_cons,
        digit_utf8Size (nibble_high_lt b), digit_utf8Size (nibble_low_lt b),
        ih, List.length_cons]
      omega

/-- Encoded text consists of lower-case digits. -/
theorem exists_digit_of_mem_encode {bs : List UInt8} {c : Char}
    (h : c ∈ encode bs) : ∃ n < 16, c = digit n := by
  induction bs with
  | nil => simp [encode] at h
  | cons b bs ih =>
      rw [encode, List.mem_cons, List.mem_cons] at h
      obtain rfl | rfl | h := h
      · exact ⟨_, nibble_high_lt b, rfl⟩
      · exact ⟨_, nibble_low_lt b, rfl⟩
      · exact ih h

/-- No encoded text starts with `0x`: the second character is a digit. -/
theorem encode_ne_prefixed (bs : List UInt8) (cs : List Char) :
    encode bs ≠ '0' :: 'x' :: cs := by
  cases bs with
  | nil => simp [encode]
  | cons b bs =>
      intro h
      have hx : digit (b.toNat % 16) = 'x' := by
        simp only [encode, List.cons.injEq] at h
        exact h.2.1
      exact digit_ne_x (nibble_low_lt b) hx

end Hex
