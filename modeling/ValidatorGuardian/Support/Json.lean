import Mathlib.Data.List.Forall2
import Mathlib.Data.UInt

/-!
# JSON documents

The documents themselves, not their text: a printer and a parser that are
inverse to each other need not be looked at to reason about what a program
stores and reads back.  Record decoders look a field up by its key and refuse
a key that occurs twice; integers may be written as numbers or as decimal
strings.
-/

namespace Json

/-- A JSON document.  Numbers other than natural numbers are not told apart.  A
string whose text contains an escape sequence is told apart from one that can
be borrowed from the text as it is. -/
inductive Value where
  | null
  | bool (b : Bool)
  | nat (n : ℕ)
  | otherNumber
  | str (s : List Char)
  | escapedStr (s : List Char)
  | arr (items : List Value)
  | obj (entries : List (String × Value))

/-- The result of looking a key up among the entries of an object. -/
inductive Field where
  | missing
  | one (v : Value)
  | duplicate

def field (key : String) (entries : List (String × Value)) : Field :=
  match entries.filter (fun e => e.1 == key) with
  | [] => .missing
  | [e] => .one e.2
  | _ => .duplicate

/-- The fields of a record in the order of `keys`: looked up in an object,
or taken by position from an array that is not too long. -/
def record (keys : List String) : Value → Option (List Field)
  | .obj entries => some (keys.map fun key => field key entries)
  | .arr items =>
      if items.length ≤ keys.length then
        some ((List.range keys.length).map fun i =>
          match items[i]? with
          | some v => .one v
          | none => .missing)
      else none
  | _ => none

/-- A field that has to be present. -/
def required {α : Type} (decode : Value → Option α) : Field → Option α
  | .one v => decode v
  | _ => none

/-- A field that takes a default value when it is absent. -/
def withDefault {α : Type} (dflt : α) (decode : Value → Option α) :
    Field → Option α
  | .missing => some dflt
  | .one v => decode v
  | .duplicate => none

/-- Decode every element of an array. -/
def array {α : Type} (decode : Value → Option α) : Value → Option (List α)
  | .arr items => items.mapM decode
  | _ => none

/-- An array is decoded when each of its elements is. -/
theorem array_eq_some {α : Type} {decode : Value → Option α} {v : Value}
    {as : List α} :
    array decode v = some as ↔ ∃ items, v = .arr items ∧
      List.Forall₂ (fun item a => decode item = some a) items as := by
  have hitems : ∀ items : List Value, items.mapM decode = some as ↔
      List.Forall₂ (fun item a => decode item = some a) items as := by
    intro items
    induction items generalizing as with
    | nil => simp [eq_comm]
    | cons item items ih =>
        simp only [List.mapM_cons, bind, Option.bind_eq_some_iff, ih,
          List.forall₂_cons_left_iff, pure, Option.some.injEq]
        constructor
        · rintro ⟨a, ha, as', has', rfl⟩
          exact ⟨a, as', ha, has', rfl⟩
        · rintro ⟨a, as', ha, has', rfl⟩
          exact ⟨a, ha, as', has', rfl⟩
  cases v with
  | arr items =>
      constructor
      · exact fun h => ⟨items, rfl, (hitems items).mp h⟩
      · rintro ⟨items', h, hall⟩
        obtain rfl := Value.arr.inj h
        exact (hitems items).mpr hall
  | _ => simp [array]

/-- An array can be decoded exactly when each of its elements can. -/
theorem exists_array_eq_some {α : Type} {decode : Value → Option α}
    {items : List Value} :
    (∃ as, array decode (.arr items) = some as) ↔
      ∀ item ∈ items, (decode item).isSome := by
  simp only [array_eq_some, Value.arr.injEq, exists_eq_left']
  induction items with
  | nil => simp
  | cons item items ih =>
      rw [List.forall_mem_cons, ← ih, Option.isSome_iff_exists]
      simp only [List.forall₂_cons_left_iff]
      constructor
      · rintro ⟨_, a, as, ha, has, rfl⟩
        exact ⟨⟨a, ha⟩, as, has⟩
      · rintro ⟨⟨a, ha⟩, as, has⟩
        exact ⟨a :: as, a, as, ha, has, rfl⟩

theorem array_map {α : Type} {encode : α → Value} {decode : Value → Option α}
    (hround : ∀ a, decode (encode a) = some a) (as : List α) :
    array decode (.arr (as.map encode)) = some as := by
  rw [array_eq_some]
  refine ⟨_, rfl, ?_⟩
  rw [List.forall₂_map_left_iff, List.forall₂_same]
  exact fun a _ => hround a

/-! ## Reading a document as it comes

A reader that may fail in several ways meets the parts of a document in the
order of its text, and stops at the first that it cannot read.  A mismatch is
the failure `bad`. -/

section Reader

variable {ε α σ : Type}

/-- Read a field that has not been read before. -/
def once (bad : ε) (read : Value → Except ε α) (seen : Option α)
    (v : Value) : Except ε (Option α) :=
  match seen with
  | none => (read v).map some
  | some _ => .error bad

theorem once_none {bad : ε} {read : Value → Except ε α} {v : Value} {a : α}
    (h : read v = .ok a) : once bad read none v = .ok (some a) := by
  rw [once, h]
  rfl

/-- A field that has to be there in the end. -/
def present (bad : ε) : Option α → Except ε α
  | some a => .ok a
  | none => .error bad

@[simp] theorem present_some {bad : ε} {a : α} :
    present bad (some a) = .ok a := rfl

/-- Visit the entries of an object, or the items of an array as the fields
`keys`; then make a value of what has been read. -/
def visit (bad : ε) (keys : List String)
    (entry : σ → String × Value → Except ε σ) (start : σ)
    (finish : σ → Except ε α) : Value → Except ε α
  | .obj entries => entries.foldlM entry start >>= finish
  | .arr items => do
      let a ← (keys.zip items).foldlM entry start >>= finish
      if items.length ≤ keys.length then return a else .error bad
  | _ => .error bad

/-- Read the items of an array. -/
def items (bad : ε) (read : Value → Except ε α) : Value → Except ε (List α)
  | .arr items => items.mapM read
  | _ => .error bad

theorem items_map (bad : ε) {encode : α → Value} {read : Value → Except ε α}
    (hround : ∀ a, read (encode a) = .ok a) (as : List α) :
    items bad read (.arr (as.map encode)) = .ok as := by
  induction as with
  | nil => rfl
  | cons a as ih =>
      change (as.map encode).mapM read = .ok as at ih
      change ((a :: as).map encode).mapM read = .ok (a :: as)
      rw [List.map_cons, List.mapM_cons, hround, ih]
      rfl

end Reader

/-! ## Decimal integers -/

/-- The decimal digits of a 64-bit integer. -/
def decimal (n : UInt64) : List Char :=
  Nat.toDigits 10 n.toNat

/-- Parse a 64-bit integer: an optional plus sign and at least one digit. -/
def parseU64 (s : List Char) : Option UInt64 :=
  let digits := match s with
    | '+' :: rest => rest
    | _ => s
  if digits ≠ [] ∧ digits.all Char.isDigit ∧
      Nat.ofDigitChars 10 digits 0 < 2 ^ 64 then
    some (UInt64.ofNat (Nat.ofDigitChars 10 digits 0))
  else
    none

theorem decimal_all_digits (n : UInt64) :
    (decimal n).all Char.isDigit = true := by
  rw [List.all_eq_true]
  intro c hc
  exact Nat.isDigit_of_mem_toDigits (by decide) (by decide) hc

theorem decimal_no_sign (n : UInt64) (rest : List Char) :
    decimal n ≠ '+' :: rest := by
  intro h
  have hdigits := decimal_all_digits n
  rw [h] at hdigits
  simp at hdigits

@[simp] theorem parseU64_decimal (n : UInt64) :
    parseU64 (decimal n) = some n := by
  have hval : Nat.ofDigitChars 10 (decimal n) 0 = n.toNat :=
    Nat.ofDigitChars_ten_toDigits
  have hstrip : (match decimal n with
      | '+' :: rest => rest
      | _ => decimal n) = decimal n := by
    split
    · next rest h => exact absurd h (decimal_no_sign n rest)
    · rfl
  have hne : decimal n ≠ [] := Nat.toDigits_ne_nil
  have hlt : n.toNat < 2 ^ 64 := n.toNat_lt
  simp only [parseU64, hstrip, hval]
  rw [if_pos ⟨hne, decimal_all_digits n, hlt⟩]
  simp

/-- A 64-bit integer written as a number or as a decimal string. -/
def quotedU64 : Value → Option UInt64
  | .str s | .escapedStr s => parseU64 s
  | .nat n => if n < 2 ^ 64 then some (UInt64.ofNat n) else none
  | _ => none

end Json
