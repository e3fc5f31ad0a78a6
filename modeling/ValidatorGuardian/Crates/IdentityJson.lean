import Mathlib.Data.List.Basic
import ValidatorGuardian.Crates.Ethereum

/-!
# Session identities as text

An identity is written as the JSON object `{"typeId":3,"key":"0x04..."}`.  What
`serde_json` makes of a text is taken as given, with the laws the program
relies on; a reader of exactly these objects satisfies them.
-/

namespace ValidatorGuardian

/-- The text in front of the number of an identity. -/
def typeIdLabel : Str := "\x7b\"typeId\":".toList

/-- The text between the number and the key. -/
def keyLabel : Str := ",\"key\":\"0x".toList

/-- The text behind the key. -/
def keyEnd : Str := "\"\x7d".toList

/-- The JSON form of an identity. -/
def identityJson (identity : PublicIdentity) : Str :=
  typeIdLabel ++ (Nat.toDigits 10 identity.typeId.toNat ++
    (keyLabel ++ (Hex.encode identity.key ++ keyEnd)))

/-- What `serde_json::from_str` is relied on for: the JSON form is read back,
and no JSON text starts with `0x`. -/
structure CvmAgentTypes.ReadsIdentities [CvmAgentTypes] : Prop where
  json : ∀ identity,
    publicIdentityFromStr (identityJson identity) = some identity
  hex : ∀ s, publicIdentityFromStr ('0' :: 'x' :: s) = none

/-! ## A reader of identities -/

/-- The number and the hex digits of a JSON form. -/
def readFields (s : Str) : Option (Str × Str) := do
  let s ← s.dropPrefix? typeIdLabel
  let key ← (s.dropWhile Char.isDigit).dropPrefix? keyLabel
  let rest := key.dropWhile (· ≠ '"')
  if rest = keyEnd then
    some (s.takeWhile Char.isDigit, key.takeWhile (· ≠ '"'))
  else none

def readIdentity (s : Str) : Option PublicIdentity := do
  let (digits, hex) ← readFields s
  let n := Nat.ofDigitChars 10 digits 0
  if digits = [] ∨ 256 ≤ n then none
  else (Hex.decode hex).map fun key => ⟨UInt8.ofNat n, key⟩

theorem readFields_append {digits hex : Str}
    (hdigits : ∀ c ∈ digits, c.isDigit = true)
    (hhex : ∀ c ∈ hex, c ≠ '"') :
    readFields (typeIdLabel ++ (digits ++ (keyLabel ++ (hex ++ keyEnd)))) =
      some (digits, hex) := by
  have hkey : ∀ c ∈ hex, decide (c ≠ '"') = true :=
    fun c hc => decide_eq_true (hhex c hc)
  have hlabel : ∀ s, (keyLabel ++ s).dropWhile Char.isDigit = keyLabel ++ s :=
    fun _ => rfl
  have hlabel' : ∀ s, (keyLabel ++ s).takeWhile Char.isDigit = [] :=
    fun _ => rfl
  rw [readFields, List.dropPrefix?_append_of_beq _ (beq_self_eq_true _)]
  simp only [Option.bind_eq_bind, Option.bind_some]
  rw [List.dropWhile_append_of_pos hdigits, hlabel,
    List.dropPrefix?_append_of_beq _ (beq_self_eq_true _),
    List.takeWhile_append_of_pos hdigits, hlabel', List.append_nil]
  simp only [Option.bind_some]
  rw [List.dropWhile_append_of_pos hkey, List.takeWhile_append_of_pos hkey]
  simp [keyEnd]

theorem encode_ne_quote {bs : List UInt8} {c : Char}
    (hc : c ∈ Hex.encode bs) : c ≠ '"' := by
  obtain ⟨n, hn, rfl⟩ := Hex.exists_digit_of_mem_encode hc
  interval_cases n <;> decide

theorem readIdentity_identityJson (identity : PublicIdentity) :
    readIdentity (identityJson identity) = some identity := by
  have hdigits : ∀ c ∈ Nat.toDigits 10 identity.typeId.toNat,
      c.isDigit = true :=
    fun _ hc => Nat.isDigit_of_mem_toDigits (by decide) (by decide) hc
  have hlt : identity.typeId.toNat < 256 := identity.typeId.toNat_lt
  rw [readIdentity, identityJson,
    readFields_append hdigits fun _ hc => encode_ne_quote hc]
  simp only [Option.bind_eq_bind, Option.bind_some,
    Nat.ofDigitChars_ten_toDigits, Nat.toDigits_ne_nil, false_or]
  rw [if_neg (not_le.mpr hlt), Hex.decode_encode]
  simp

namespace CompactJson

scoped instance : CvmAgentTypes where
  publicIdentityFromStr := readIdentity
  parseRegistryAddress s := (Hex.decode s).bind (toArray? 20)

theorem readsIdentities : CvmAgentTypes.ReadsIdentities where
  json := readIdentity_identityJson
  hex _ := rfl

end CompactJson

end ValidatorGuardian
