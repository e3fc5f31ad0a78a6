import ValidatorGuardian.Eth2.Types
import ValidatorGuardian.Support.Bits
import ValidatorGuardian.Support.Codec

/-!
# Lists and bit fields of the SSZ library

A bit field is encoded as bytes, a list of bits with a closing bit behind it.
What `serde` makes of the lists and vectors of `ssz_types` is taken as given.
-/

namespace ValidatorGuardian

/-! ## Bit fields -/

variable {N : ℕ}

/-- `BitVector::as_ssz_bytes`. -/
def BitVector.asSszBytes (bits : BitVector N) : List UInt8 :=
  Bits.toBytes ((N + 7) / 8) bits.toList

/-- `BitVector::from_ssz_bytes`: as many bytes as are needed, without excess
bits. -/
def BitVector.fromSszBytes (N : ℕ) (bytes : List UInt8) :
    Option (BitVector N) :=
  if bytes.length = (N + 7) / 8 ∧ Bits.ofBytes bytes < 2 ^ N then
    some ⟨Bits.ofValue N (Bits.ofBytes bytes), Bits.length_ofValue _ _⟩
  else none

theorem BitVector.fromSszBytes_asSszBytes (bits : BitVector N) :
    BitVector.fromSszBytes N bits.asSszBytes = some bits := by
  have hlength := bits.toList_length
  have hvalue : Bits.ofBytes bits.asSszBytes = Bits.value bits.toList :=
    Bits.ofBytes_toBytes (by omega)
  have hlt := Bits.value_lt bits.toList
  have hbits := Bits.ofValue_value bits.toList
  rw [hlength, ← hvalue] at hlt hbits
  rw [fromSszBytes, if_pos ⟨Bits.length_toBytes _ _, hlt⟩]
  exact congrArg some (List.Vector.toList_injective hbits)

/-- `BitList::as_ssz_bytes`. -/
def BitList.asSszBytes (bits : BitList N) : List UInt8 :=
  Bits.toBytes (bits.1.length / 8 + 1) (bits.1 ++ [true])

/-- `BitList::from_ssz_bytes`: the closing bit is in the last byte, and there
are at most `N` bits under it. -/
def BitList.fromSszBytes (N : ℕ) (bytes : List UInt8) : Option (BitList N) :=
  let n := Bits.ofBytes bytes
  if h : n ≠ 0 ∧ n.log2 / 8 + 1 = bytes.length ∧ n.log2 ≤ N then
    some ⟨Bits.ofValue n.log2 n, (Bits.length_ofValue _ _).trans_le h.2.2⟩
  else none

theorem BitList.fromSszBytes_asSszBytes (bits : BitList N) :
    BitList.fromSszBytes N bits.asSszBytes = some bits := by
  have hfits : (bits.1 ++ [true]).length ≤ 8 * (bits.1.length / 8 + 1) := by
    rw [List.length_append, List.length_singleton]
    omega
  have hvalue : Bits.ofBytes bits.asSszBytes = Bits.value (bits.1 ++ [true]) :=
    Bits.ofBytes_toBytes hfits
  have hlog := Bits.log2_value_closed bits.1
  have hne : Bits.value (bits.1 ++ [true]) ≠ 0 := by
    rw [Bits.value_closed]
    positivity
  have hclosed : Bits.ofBytes bits.asSszBytes ≠ 0 ∧
      (Bits.ofBytes bits.asSszBytes).log2 / 8 + 1 = bits.asSszBytes.length ∧
        (Bits.ofBytes bits.asSszBytes).log2 ≤ N := by
    rw [hvalue, hlog]
    exact ⟨hne, (Bits.length_toBytes _ _).symm, bits.2⟩
  rw [fromSszBytes, dif_pos hclosed]
  apply congrArg some
  apply Subtype.ext
  change Bits.ofValue (Bits.ofBytes bits.asSszBytes).log2
    (Bits.ofBytes bits.asSszBytes) = bits.1
  rw [hvalue, hlog, Bits.ofValue_closed]

/-! ## Lists and vectors -/

/-- `VariableList::from(Vec<T>)`: truncate to `N` elements. -/
def variableListFrom {α : Type} (N : ℕ) (v : List α) : VariableList α N :=
  ⟨v.take N, by
    rw [List.length_take]
    omega⟩

theorem variableListFrom_val {α : Type} (l : VariableList α N) :
    variableListFrom N l.1 = l :=
  Subtype.ext (List.take_of_length_le l.2)

/-- The derived codecs of lists and vectors. -/
class SszSerde where
  variableList : {α : Type} → (N : ℕ) → Json.Codec α →
    Json.Codec (VariableList α N)
  fixedVector : {α : Type} → (N : ℕ) → Json.Codec α →
    Json.Codec (List.Vector α N)

/-- A list or a vector comes back when its elements do. -/
class SszSerde.Lossless [SszSerde] : Prop where
  variableList : ∀ {α : Type} (N : ℕ) (c : Json.Codec α) [c.Lossless],
    (variableList N c).Lossless
  fixedVector : ∀ {α : Type} (N : ℕ) (c : Json.Codec α) [c.Lossless],
    (fixedVector N c).Lossless

attribute [instance] SszSerde.Lossless.variableList
  SszSerde.Lossless.fixedVector

namespace TransparentSerde

/-- A list that is written as its elements. -/
def variableList {α : Type} (N : ℕ) (c : Json.Codec α) :
    Json.Codec (VariableList α N) where
  encode l := c.list.encode l.1
  decode v := (c.list.decode v).map (variableListFrom N)

/-- Lists and vectors are written as their elements. -/
scoped instance sszSerde : SszSerde where
  variableList := variableList
  fixedVector := Json.Codec.vector

scoped instance lossless : SszSerde.Lossless where
  variableList N c _ := ⟨fun l => by
    change (c.list.back l.1).map (variableListFrom N) = some l
    rw [Json.Codec.Lossless.back, Option.map_some, variableListFrom_val]⟩
  fixedVector N c _ := inferInstanceAs (Json.Codec.vector N c).Lossless

end TransparentSerde

end ValidatorGuardian
