import ValidatorGuardian.Support.Json
import Mathlib.Data.Vector.Basic
import Mathlib.Logic.Equiv.Defs

/-!
# Codecs of JSON documents

A codec writes the values of a type as documents and reads them from documents.
What comes back when a value is written and read again is computed from the
parts: the fields of a record do not get in each other's way when their keys
differ, and the name of a variant is taken out before its fields are read.
-/

namespace Json

variable {α β : Type}

structure Codec (α : Type) where
  encode : α → Value
  decode : Value → Option α

namespace Codec

/-- What comes back when a value is written and read again. -/
def back (c : Codec α) (a : α) : Option α :=
  c.decode (c.encode a)

/-- Read a value of another type out of a document. -/
def read (c : Codec α) (f : α → β) (v : Value) : Option β :=
  (c.decode v).map f

/-- Every value comes back. -/
class Lossless (c : Codec α) : Prop where
  back : ∀ a, c.back a = some a

attribute [simp] Lossless.back

/-- A codec of a type with the same values. -/
def iso (c : Codec α) (e : α ≃ β) : Codec β where
  encode b := c.encode (e.symm b)
  decode v := (c.decode v).map e

instance (c : Codec α) (e : α ≃ β) [c.Lossless] : (c.iso e).Lossless where
  back b := by
    change (c.back (e.symm b)).map e = some b
    simp

/-! ## Numbers and texts -/

/-- The characters that are written with an escape sequence. -/
def escaped (c : Char) : Bool :=
  c = '"' || c = '\\' || c.toNat < 32

/-- The text of a string, written with escapes or without. -/
def text : Value → Option (List Char)
  | .str s | .escapedStr s => some s
  | _ => none

def string : Codec (List Char) where
  encode s := if s.any escaped then .escapedStr s else .str s
  decode := text

instance : string.Lossless where
  back s := by
    unfold back string
    dsimp only
    split <;> rfl

def bool : Codec Bool where
  encode := .bool
  decode
    | .bool b => some b
    | _ => none

instance : bool.Lossless := ⟨fun _ => rfl⟩

/-- Numbers below a bound. -/
def below (n : ℕ) : Codec (Fin n) where
  encode i := .nat i
  decode
    | .nat m => if h : m < n then some ⟨m, h⟩ else none
    | _ => none

instance (n : ℕ) : (below n).Lossless :=
  ⟨fun i => dif_pos i.isLt⟩

abbrev u8 : Codec UInt8 :=
  (below (2 ^ 8)).iso
    ⟨UInt8.ofFin, UInt8.toFin, fun _ => rfl, fun _ => rfl⟩

abbrev u64 : Codec UInt64 :=
  (below (2 ^ 64)).iso
    ⟨UInt64.ofFin, UInt64.toFin, fun _ => rfl, fun _ => rfl⟩

/-- A number in quotes. -/
def quoted : Codec UInt64 where
  encode n := .str (decimal n)
  decode := quotedU64

instance : quoted.Lossless := ⟨parseU64_decimal⟩

/-! ## Lists -/

def list (c : Codec α) : Codec (List α) where
  encode l := .arr (l.map c.encode)
  decode := array c.decode

instance (c : Codec α) [h : c.Lossless] : c.list.Lossless :=
  ⟨array_map h.back⟩

/-- Arrays of one length. -/
def vector (n : ℕ) (c : Codec α) : Codec (List.Vector α n) where
  encode v := c.list.encode v.toList
  decode v := (c.list.decode v).bind fun l =>
    if h : l.length = n then some ⟨l, h⟩ else none

instance (n : ℕ) (c : Codec α) [c.Lossless] : (vector n c).Lossless where
  back v := by
    change (c.list.back v.toList).bind _ = some v
    rw [Lossless.back, Option.bind_some, dif_pos v.toList_length]
    exact congrArg some (List.Vector.toList_injective rfl)

end Codec

/-! ## Records -/

/-- The fields of a record, and what comes back of them when their keys
differ. -/
structure Fields (α : Type) where
  keys : List String
  encode : α → List (String × Value)
  decode : List Field → Option α
  back : α → Option α
  encode_keys : ∀ a, ∀ e ∈ encode a, e.1 ∈ keys
  decode_encode : keys.Nodup → ∀ a,
    decode (keys.map fun key => field key (encode a)) = back a

namespace Fields

/-- A field that has to be present. -/
def one (key : String) (c : Codec α) : Fields α where
  keys := [key]
  encode a := [(key, c.encode a)]
  decode
    | [v] => required c.decode v
    | _ => none
  back := c.back
  encode_keys a e he := by
    rw [List.mem_singleton.mp he]
    exact List.mem_singleton_self _
  decode_encode _ a := by simp [field, required, Codec.back]

/-- A field that is not written for the default value. -/
def skipping (key : String) (dflt : α) (write : α → Option Value)
    (read : Value → Option α) : Fields α where
  keys := [key]
  encode a := (write a).toList.map fun v => (key, v)
  decode
    | [v] => withDefault dflt read v
    | _ => none
  back a := match write a with
    | none => some dflt
    | some v => read v
  encode_keys a e he := by
    obtain ⟨v, -, rfl⟩ := List.mem_map.mp he
    exact List.mem_singleton_self _
  decode_encode _ a := by
    cases write a with
    | none => rfl
    | some v => simp [field, withDefault]

/-- A key is looked up among the fields of its own group. -/
theorem field_append {key : String} {xs ys : List (String × Value)}
    (h : ∀ e ∈ ys, e.1 ≠ key) : field key (xs ++ ys) = field key xs := by
  have hnone : ys.filter (fun e => e.1 == key) = [] := by
    rw [List.filter_eq_nil_iff]
    intro e he
    simpa using h e he
  rw [field, field, List.filter_append, hnone, List.append_nil]

theorem field_append_right {key : String} {xs ys : List (String × Value)}
    (h : ∀ e ∈ xs, e.1 ≠ key) : field key (xs ++ ys) = field key ys := by
  have hnone : xs.filter (fun e => e.1 == key) = [] := by
    rw [List.filter_eq_nil_iff]
    intro e he
    simpa using h e he
  rw [field, field, List.filter_append, hnone, List.nil_append]

/-- Two groups of fields. -/
def beside (f : Fields α) (g : Fields β) : Fields (α × β) where
  keys := f.keys ++ g.keys
  encode x := f.encode x.1 ++ g.encode x.2
  decode fields := do
    let a ← f.decode (fields.take f.keys.length)
    let b ← g.decode (fields.drop f.keys.length)
    return (a, b)
  back x := do
    let a ← f.back x.1
    let b ← g.back x.2
    return (a, b)
  encode_keys x e he := by
    rcases List.mem_append.mp he with h | h
    · exact List.mem_append_left _ (f.encode_keys _ _ h)
    · exact List.mem_append_right _ (g.encode_keys _ _ h)
  decode_encode hnodup x := by
    obtain ⟨hf, hg, hdisjoint⟩ := List.nodup_append'.mp hnodup
    have hleft : (f.keys.map fun key =>
        field key (f.encode x.1 ++ g.encode x.2)) =
          f.keys.map fun key => field key (f.encode x.1) := by
      refine List.map_congr_left fun key hkey => field_append ?_
      rintro e he rfl
      exact hdisjoint hkey (g.encode_keys _ e he)
    have hright : (g.keys.map fun key =>
        field key (f.encode x.1 ++ g.encode x.2)) =
          g.keys.map fun key => field key (g.encode x.2) := by
      refine List.map_congr_left fun key hkey => field_append_right ?_
      rintro e he rfl
      exact hdisjoint (f.encode_keys _ e he) hkey
    rw [List.map_append, hleft, hright, List.take_left' (List.length_map ..),
      List.drop_left' (List.length_map ..), f.decode_encode hf,
      g.decode_encode hg]

/-- The fields of a type with the same values. -/
def iso (f : Fields α) (e : α ≃ β) : Fields β where
  keys := f.keys
  encode b := f.encode (e.symm b)
  decode fields := (f.decode fields).map e
  back b := (f.back (e.symm b)).map e
  encode_keys b := f.encode_keys (e.symm b)
  decode_encode hnodup b := by rw [f.decode_encode hnodup]

@[simp] theorem keys_one (key : String) (c : Codec α) :
    (one key c).keys = [key] := (rfl)

@[simp] theorem keys_skipping (key : String) (dflt : α)
    (write : α → Option Value) (read : Value → Option α) :
    (skipping key dflt write read).keys = [key] := (rfl)

@[simp] theorem keys_beside (f : Fields α) (g : Fields β) :
    (f.beside g).keys = f.keys ++ g.keys := (rfl)

@[simp] theorem keys_iso (f : Fields α) (e : α ≃ β) :
    (f.iso e).keys = f.keys := (rfl)

@[simp] theorem back_one (key : String) (c : Codec α) (a : α) :
    (one key c).back a = c.back a := rfl

@[simp] theorem back_beside (f : Fields α) (g : Fields β) (x : α × β) :
    (f.beside g).back x = (f.back x.1).bind fun a =>
      (g.back x.2).bind fun b => some (a, b) := rfl

@[simp] theorem back_iso (f : Fields α) (e : α ≃ β) (b : β) :
    (f.iso e).back b = (f.back (e.symm b)).map e := rfl

/-- The fields of every value come back. -/
class Lossless (f : Fields α) : Prop where
  back : ∀ a, f.back a = some a

attribute [simp] Lossless.back

instance (key : String) (c : Codec α) [h : c.Lossless] :
    (one key c).Lossless :=
  ⟨h.back⟩

instance (f : Fields α) (g : Fields β) [f.Lossless] [g.Lossless] :
    (f.beside g).Lossless :=
  ⟨fun x => by simp⟩

instance (f : Fields α) (e : α ≃ β) [f.Lossless] : (f.iso e).Lossless :=
  ⟨fun b => by simp⟩

/-- The record with these fields, which have different keys. -/
def codec (f : Fields α) (_ : f.keys.Nodup := by simp) : Codec α where
  encode a := .obj (f.encode a)
  decode v := do f.decode (← record f.keys v)

@[simp] theorem back_codec (f : Fields α) (h : f.keys.Nodup) (a : α) :
    (f.codec h).back a = f.back a :=
  f.decode_encode h a

instance (f : Fields α) (h : f.keys.Nodup) [f.Lossless] :
    (f.codec h).Lossless :=
  ⟨fun a => by simp⟩

/-! ### Variants -/

/-- The fields of a variant, after its name. -/
def tagged (f : Fields α) (tag name : String) (a : α) : Value :=
  .obj ((tag, .str name.toList) :: f.encode a)

end Fields

/-- Take the name of a variant out of a document. -/
def untag (tag : String) : Value → Option (String × Value)
  | .obj entries => do
      let name ← required Codec.text (field tag entries)
      return (String.ofList name, .obj (entries.filter fun e => e.1 != tag))
  | .arr (v :: items) => do
      let name ← Codec.text v
      return (String.ofList name, .arr items)
  | _ => none

/-- The name is taken out, and the fields are left. -/
theorem untag_tagged (f : Fields α) {tag : String} (h : tag ∉ f.keys)
    (name : String) (a : α) :
    untag tag (f.tagged tag name a) = some (name, .obj (f.encode a)) := by
  have hne : ∀ e ∈ f.encode a, e.1 ≠ tag := by
    rintro e he rfl
    exact h (f.encode_keys a e he)
  have hnone : (f.encode a).filter (fun e => e.1 == tag) = [] := by
    rw [List.filter_eq_nil_iff]
    intro e he
    simpa using hne e he
  have hall : (f.encode a).filter (fun e => e.1 != tag) = f.encode a := by
    rw [List.filter_eq_self]
    intro e he
    simpa using hne e he
  simp [untag, Fields.tagged, field, hnone, hall, required, Codec.text]

/-- The fields that are left are read as those of the variant. -/
theorem read_fields (f : Fields α) (h : f.keys.Nodup) (g : α → β) (a : α) :
    (f.codec h).read g (.obj (f.encode a)) = (f.back a).map g :=
  congrArg (Option.map g) (f.back_codec h a)

end Json
