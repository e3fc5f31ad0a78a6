import Mathlib.Data.UInt
import Mathlib.Tactic.IntervalCases

/-!
# Base64 text

Three bytes are written as four digits; one or two bytes that are left over as
two or three digits, padded to four characters.  Text is read in groups of four
characters, and the padded group is the last one.
-/

namespace Base64

/-- A digit of base 64. -/
def digit (n : ℕ) : Char :=
  if n < 26 then Char.ofNat (65 + n)
  else if n < 52 then Char.ofNat (71 + n)
  else if n < 62 then Char.ofNat (n - 4)
  else if n = 62 then '+'
  else '/'

def digitValue (c : Char) : Option ℕ :=
  if 'A' ≤ c ∧ c ≤ 'Z' then some (c.toNat - 65)
  else if 'a' ≤ c ∧ c ≤ 'z' then some (c.toNat - 71)
  else if '0' ≤ c ∧ c ≤ '9' then some (c.toNat + 4)
  else if c = '+' then some 62
  else if c = '/' then some 63
  else none

theorem digitValue_digit {n : ℕ} (h : n < 64) :
    digitValue (digit n) = some n := by
  interval_cases n <;> decide

theorem digit_ne_pad {n : ℕ} (h : n < 64) : digit n ≠ '=' := by
  interval_cases n <;> decide

/-! ## Groups -/

/-- The four digits of three bytes. -/
def sextets (a b c : UInt8) : ℕ × ℕ × ℕ × ℕ :=
  (a.toNat / 4, a.toNat % 4 * 16 + b.toNat / 16,
    b.toNat % 16 * 4 + c.toNat / 64, c.toNat % 64)

/-- The three bytes of four digits. -/
def octets (p q r s : ℕ) : UInt8 × UInt8 × UInt8 :=
  (UInt8.ofNat (p * 4 + q / 16), UInt8.ofNat (q * 16 + r / 4),
    UInt8.ofNat (r * 64 + s))

theorem sextets_lt {a b c : UInt8} {p q r s : ℕ}
    (h : sextets a b c = (p, q, r, s)) :
    p < 64 ∧ q < 64 ∧ r < 64 ∧ s < 64 := by
  have ha := a.toNat_lt
  have hb := b.toNat_lt
  have hc := c.toNat_lt
  simp only [sextets, Prod.mk.injEq] at h
  omega

theorem octets_sextets {a b c : UInt8} {p q r s : ℕ}
    (h : sextets a b c = (p, q, r, s)) : octets p q r s = (a, b, c) := by
  have ha := a.toNat_lt
  have hb := b.toNat_lt
  have hc := c.toNat_lt
  have key : ∀ (n : ℕ) (x : UInt8), n % 256 = x.toNat → UInt8.ofNat n = x :=
    fun n x h => UInt8.toNat_inj.mp (by rw [UInt8.toNat_ofNat', h])
  simp only [sextets, Prod.mk.injEq] at h
  simp only [octets, Prod.mk.injEq]
  refine ⟨key _ a ?_, key _ b ?_, key _ c ?_⟩ <;> omega

def encode : List UInt8 → List Char
  | a :: b :: c :: rest =>
      let (p, q, r, s) := sextets a b c
      digit p :: digit q :: digit r :: digit s :: encode rest
  | [a, b] =>
      let (p, q, r, _) := sextets a b 0
      [digit p, digit q, digit r, '=']
  | [a] =>
      let (p, q, _, _) := sextets a 0 0
      [digit p, digit q, '=', '=']
  | [] => []

/-- Read a group of which the last characters may be padding; what is cut off
has to be zero. -/
def group (p q r s : Char) : Option (List UInt8) := do
  let p ← digitValue p
  let q ← digitValue q
  if s = '=' then
    if r = '=' then
      let (a, b, c) := octets p q 0 0
      if b = 0 ∧ c = 0 then some [a] else none
    else do
      let r ← digitValue r
      let (a, b, c) := octets p q r 0
      if c = 0 then some [a, b] else none
  else do
    let r ← digitValue r
    let s ← digitValue s
    let (a, b, c) := octets p q r s
    some [a, b, c]

def decode : List Char → Option (List UInt8)
  | [] => some []
  | p :: q :: r :: s :: rest => do
      let first ← group p q r s
      if s = '=' ∧ rest ≠ [] then none
      else do
        let bytes ← decode rest
        some (first ++ bytes)
  | _ => none

theorem group_three {a b c : UInt8} {p q r s : ℕ}
    (h : sextets a b c = (p, q, r, s)) :
    group (digit p) (digit q) (digit r) (digit s) = some [a, b, c] := by
  obtain ⟨hp, hq, hr, hs⟩ := sextets_lt h
  simp only [group, digitValue_digit hp, digitValue_digit hq,
    digitValue_digit hr, digitValue_digit hs, octets_sextets h,
    if_neg (digit_ne_pad hs), Option.bind_eq_bind, Option.bind_some]

theorem group_two {a b : UInt8} {p q r s : ℕ}
    (h : sextets a b 0 = (p, q, r, s)) :
    group (digit p) (digit q) (digit r) '=' = some [a, b] := by
  obtain ⟨hp, hq, hr, -⟩ := sextets_lt h
  have hs : s = 0 := (congrArg (fun x => x.2.2.2) h).symm
  rw [hs] at h
  simp only [group, digitValue_digit hp, digitValue_digit hq,
    digitValue_digit hr, octets_sextets h, if_neg (digit_ne_pad hr),
    Option.bind_eq_bind, Option.bind_some, if_true]

theorem group_one {a : UInt8} {p q r s : ℕ}
    (h : sextets a 0 0 = (p, q, r, s)) :
    group (digit p) (digit q) '=' '=' = some [a] := by
  obtain ⟨hp, hq, -, -⟩ := sextets_lt h
  have hr : r = 0 := (congrArg (fun x => x.2.2.1) h).symm
  have hs : s = 0 := (congrArg (fun x => x.2.2.2) h).symm
  rw [hr, hs] at h
  simp only [group, digitValue_digit hp, digitValue_digit hq,
    octets_sextets h, Option.bind_eq_bind, Option.bind_some, if_true,
    and_self]

@[simp] theorem decode_encode (bs : List UInt8) :
    decode (encode bs) = some bs := by
  induction bs using encode.induct with
  | case1 a b c rest p q r s h ih =>
      have hpad : digit s ≠ '=' := digit_ne_pad (sextets_lt h).2.2.2
      simp [encode, h, decode, group_three h, ih, hpad]
  | case2 a b p q r s h => simp [encode, h, decode, group_two h]
  | case3 a p q r s h => simp [encode, h, decode, group_one h]
  | case4 => rfl

end Base64
