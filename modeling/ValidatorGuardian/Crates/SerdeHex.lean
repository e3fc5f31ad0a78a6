import ValidatorGuardian.Basic

/-!
# Arrays in hex

`serde-hex` reads an array of bytes from the text of a field.  What it makes of
text that is not the hex of the array is its own business: it may fail, return
some array, or panic.
-/

namespace ValidatorGuardian

/-- `SerHex::<StrictPfx>` of `serde-hex`, which reads back the hex of an array,
with or without `0x`. -/
class SerdeHex where
  fromHex : (n : ℕ) → Str → Outcome (Bytes n)
  fromHex_of_isHexOf : ∀ {n : ℕ} {s : Str} {b : Bytes n},
    IsHexOf s b.toList → fromHex n s = .ok b

namespace SerdeHex

variable [SerdeHex] {n : ℕ}

@[simp] theorem fromHex_encode (b : Bytes n) :
    fromHex n (Hex.encode b.toList) = .ok b :=
  fromHex_of_isHexOf (.inl rfl)

@[simp] theorem fromHex_prefixed (b : Bytes n) :
    fromHex n ('0' :: 'x' :: Hex.encode b.toList) = .ok b :=
  fromHex_of_isHexOf (.inr rfl)

end SerdeHex

end ValidatorGuardian
