import ValidatorGuardian.Support.Hex
import Mathlib.Data.Vector.Basic

/-!
# Strings, byte arrays and errors

Text that the program parses is a list of characters.  Byte arrays of a fixed
length, `[u8; N]` and `FixedVector<u8, N>` alike, carry their length.  A
fallible function returns a value, fails with an error, or panics.
-/

namespace ValidatorGuardian

/-- Text handled as data: key strings, file names, hex fields. -/
abbrev Str := List Char

/-- The length of a string in UTF-8 bytes, as `str::len` counts. -/
def Str.len (s : Str) : ℕ := (s.map Char.utf8Size).sum

@[simp] theorem Str.len_encode (bs : List UInt8) :
    Str.len (Hex.encode bs) = 2 * bs.length :=
  Hex.encode_utf8Size bs

/-- `strip_0x_prefix!`: drop one leading `0x`. -/
def strip0xPrefix : Str → Str
  | '0' :: 'x' :: rest => rest
  | s => s

@[simp] theorem strip0xPrefix_encode (bs : List UInt8) :
    strip0xPrefix (Hex.encode bs) = Hex.encode bs := by
  unfold strip0xPrefix
  split
  · next rest h => exact absurd h (Hex.encode_ne_prefixed bs rest)
  · rfl

@[simp] theorem strip0xPrefix_prefixed (s : Str) :
    strip0xPrefix ('0' :: 'x' :: s) = s := rfl

/-- Stripping removes the prefix or does nothing. -/
theorem eq_or_prefixed_of_strip0xPrefix {s t : Str}
    (h : strip0xPrefix s = t) : s = t ∨ s = '0' :: 'x' :: t := by
  unfold strip0xPrefix at h
  split at h
  · exact .inr (by rw [h])
  · exact .inl h

/-- Lower-case hex of the bytes, with or without `0x`. -/
def IsHexOf (field : Str) (bytes : List UInt8) : Prop :=
  field = Hex.encode bytes ∨ field = '0' :: 'x' :: Hex.encode bytes

theorem IsHexOf.strip0xPrefix_eq {field : Str} {bytes : List UInt8}
    (h : IsHexOf field bytes) : strip0xPrefix field = Hex.encode bytes := by
  rcases h with rfl | rfl
  · exact strip0xPrefix_encode bytes
  · exact strip0xPrefix_prefixed _

theorem IsHexOf.decode_eq {field : Str} {bytes : List UInt8}
    (h : IsHexOf field bytes) :
    Hex.decode (strip0xPrefix field) = some bytes := by
  rw [h.strip0xPrefix_eq, Hex.decode_encode]

/-! ## Byte arrays -/

/-- `[u8; n]`, and `FixedVector<u8, n>`. -/
abbrev Bytes (n : ℕ) := List.Vector UInt8 n

/-- `FixedVector::from(Vec<u8>)`: truncate or pad with zeros to length `n`. -/
def fixedVectorFrom (n : ℕ) (v : List UInt8) : Bytes n :=
  ⟨v.take n ++ List.replicate (n - v.length) 0, by
    rw [List.length_append, List.length_take, List.length_replicate]
    omega⟩

theorem fixedVectorFrom_toList {n : ℕ} {v : List UInt8}
    (hv : v.length = n) : (fixedVectorFrom n v).toList = v := by
  subst hv
  simp [fixedVectorFrom, List.Vector.toList]

@[simp] theorem fixedVectorFrom_bytes {n : ℕ} (b : Bytes n) :
    fixedVectorFrom n b.toList = b :=
  List.Vector.toList_injective (fixedVectorFrom_toList b.toList_length)

/-- A slice converted to an array, refused when the length differs. -/
def toArray? (n : ℕ) (v : List UInt8) : Option (Bytes n) :=
  if h : v.length = n then some ⟨v, h⟩ else none

@[simp] theorem toArray?_bytes {n : ℕ} (b : Bytes n) :
    toArray? n b.toList = some b := by
  rw [toArray?, dif_pos b.toList_length]
  exact congrArg some (List.Vector.toList_injective rfl)

theorem toList_of_toArray? {n : ℕ} {v : List UInt8} {b : Bytes n}
    (h : toArray? n v = some b) : b.toList = v := by
  unfold toArray? at h
  split at h
  · exact (congrArg List.Vector.toList (Option.some.inj h)).symm
  · cases h

theorem toArray?_eq_some {n : ℕ} {v : List UInt8} {b : Bytes n} :
    toArray? n v = some b ↔ v = b.toList := by
  constructor
  · exact fun h => (toList_of_toArray? h).symm
  · rintro rfl
    exact toArray?_bytes b

/-! ## Errors -/

/-- What an `anyhow::Error` holds: a message, a message with another error
printed in it, a message in front of a cause, or an error of a library. -/
inductive Error where
  | text (s : String)
  | format (s : String) (arg : Error)
  | context (s : String) (cause : Error)
  | io
  | serdeJson
  | hex
  | fromSlice
  | sszTypes
  | blsttc
  | secp256k1
  | ecies
  | ethKeystore
  | ethers
  | alloy
  | cvmAgent
  | sessionRegistry
  | envVar
deriving DecidableEq, Repr

/-- A computation that does not return a value returns an error or panics. -/
inductive Failure where
  | err (e : Error)
  | panic
deriving DecidableEq, Repr

/-- The result of a fallible function that does not touch files. -/
abbrev Outcome (α : Type) := Except Failure α

namespace Outcome

variable {α β : Type}

def bail (s : String) : Outcome α := .error (.err (.text s))

def panic : Outcome α := .error .panic

/-- `if p { bail!(s) }`. -/
def bailIf (p : Prop) [Decidable p] (s : String) : Outcome Unit :=
  if p then bail s else .ok ()

/-- The value of a library call, or its error. -/
def okOr (e : Error) : Option α → Outcome α
  | some a => .ok a
  | none => .error (.err e)

/-- What `?` leaves of a method that changes its receiver. -/
def after (out : Outcome Unit × α) : Outcome α :=
  out.1.map fun _ => out.2

/-- Replace an error, as `map_err` or a `match` on it does. -/
def mapErr (f : Error → Error) : Outcome α → Outcome α
  | .error (.err e) => .error (.err (f e))
  | r => r

/-- `with_context`: put a message in front of an error. -/
def withContext (s : String) : Outcome α → Outcome α :=
  mapErr (.context s)

@[simp] theorem okOr_eq_ok {e : Error} {o : Option α} {a : α} :
    okOr e o = .ok a ↔ o = some a := by
  cases o <;> simp [okOr]

theorem error_ne_ok {f : Failure} {a : α} :
    (.error f : Outcome α) ≠ .ok a := by
  simp

/-- An error has no result to say anything about. -/
theorem forall_error {f : Failure} {P : α → Prop} :
    ∀ a, (.error f : Outcome α) = .ok a → P a :=
  fun _ h => absurd h error_ne_ok

@[simp] theorem bail_ne_ok {s : String} {a : α} :
    (bail s : Outcome α) ≠ .ok a := by
  simp [bail]

theorem bail_ne_panic {s : String} :
    (bail s : Outcome α) ≠ .error .panic := by
  simp [bail]

@[simp] theorem bailIf_eq_ok {p : Prop} [Decidable p] {s : String} {u : Unit} :
    bailIf p s = .ok u ↔ ¬ p := by
  unfold bailIf
  split <;> simp_all

theorem bailIf_ne_panic {p : Prop} [Decidable p] {s : String} :
    bailIf p s ≠ .error .panic := by
  unfold bailIf
  split <;> simp [bail]

@[simp] theorem panic_ne_ok {a : α} : (panic : Outcome α) ≠ .ok a := by
  simp [panic]

@[simp] theorem mapErr_eq_ok {f : Error → Error} {r : Outcome α} {a : α} :
    mapErr f r = .ok a ↔ r = .ok a := by
  unfold mapErr
  split <;> simp

@[simp] theorem withContext_eq_ok {s : String} {r : Outcome α} {a : α} :
    withContext s r = .ok a ↔ r = .ok a :=
  mapErr_eq_ok

theorem mapErr_ne_panic {f : Error → Error} {r : Outcome α}
    (h : r ≠ .error .panic) : mapErr f r ≠ .error .panic := by
  unfold mapErr
  split
  · simp
  · exact h

theorem withContext_ne_panic {s : String} {r : Outcome α}
    (h : r ≠ .error .panic) : withContext s r ≠ .error .panic :=
  mapErr_ne_panic h

@[simp] theorem toOption_eq_some {r : Outcome α} {a : α} :
    r.toOption = some a ↔ r = .ok a := by
  cases r <;> simp [Except.toOption]

theorem okOr_ne_panic {e : Error} {o : Option α} :
    okOr e o ≠ .error .panic := by
  cases o <;> simp [okOr]

@[simp] theorem mapErr_ok {f : Error → Error} {a : α} :
    mapErr f (.ok a) = .ok a := rfl

@[simp] theorem withContext_ok {s : String} {a : α} :
    withContext s (.ok a) = .ok a := rfl

/-- A sequence of two fallible steps returns a value exactly when both do. -/
theorem bind_eq_ok {r : Outcome α} {f : α → Outcome β} {b : β} :
    r >>= f = .ok b ↔ ∃ a, r = .ok a ∧ f a = .ok b := by
  cases r with
  | error e => simp [bind, Except.bind]
  | ok a => simp [bind, Except.bind]

theorem map_eq_ok {r : Outcome α} {f : α → β} {b : β} :
    r.map f = .ok b ↔ ∃ a, r = .ok a ∧ f a = b := by
  cases r with
  | error e => simp [Except.map]
  | ok a => simp [Except.map]

theorem after_eq_ok {out : Outcome Unit × α} {a : α} :
    after out = .ok a ↔ out = (.ok (), a) := by
  obtain ⟨r, a'⟩ := out
  rw [after, map_eq_ok, Prod.mk.injEq]
  constructor
  · rintro ⟨⟨⟩, hr, ha⟩
    exact ⟨hr, ha⟩
  · exact fun h => ⟨(), h⟩

theorem map_map {γ : Type} (r : Outcome α) (f : α → β) (g : β → γ) :
    (r.map f).map g = r.map fun a => g (f a) := by
  cases r <;> rfl

theorem map_eq_err {r : Outcome α} {f : α → β} {e : Failure} :
    r.map f = .error e ↔ r = .error e := by
  cases r with
  | error e => simp [Except.map]
  | ok a => simp [Except.map]

@[simp] theorem ok_bind {a : α} {f : α → Outcome β} :
    (.ok a : Outcome α) >>= f = f a := rfl

/-- A list of fallible steps returns the list of their values. -/
theorem mapM_eq_ok {f : α → Outcome β} {l : List α} {bs : List β} :
    l.mapM f = .ok bs ↔ List.Forall₂ (fun a b => f a = .ok b) l bs := by
  induction l generalizing bs with
  | nil =>
      rw [List.mapM_nil, List.forall₂_nil_left_iff]
      constructor
      · exact fun h => (Except.ok.inj h).symm
      · rintro rfl
        rfl
  | cons a l ih =>
      rw [List.mapM_cons, bind_eq_ok, List.forall₂_cons_left_iff]
      constructor
      · rintro ⟨b, hb, h⟩
        obtain ⟨bs', hbs', h⟩ := bind_eq_ok.mp h
        exact ⟨b, bs', hb, ih.mp hbs', (Except.ok.inj h).symm⟩
      · rintro ⟨b, bs', hb, hbs', rfl⟩
        exact ⟨b, hb, bind_eq_ok.mpr ⟨bs', ih.mpr hbs', rfl⟩⟩

theorem exists_mapM_eq_ok {f : α → Outcome β} {l : List α}
    (h : ∀ a ∈ l, ∃ b, f a = .ok b) : ∃ bs, l.mapM f = .ok bs := by
  induction l with
  | nil => exact ⟨[], rfl⟩
  | cons a l ih =>
      obtain ⟨b, hb⟩ := h a (List.mem_cons_self ..)
      obtain ⟨bs, hbs⟩ := ih fun a' ha' => h a' (List.mem_cons_of_mem _ ha')
      exact ⟨b :: bs, mapM_eq_ok.mpr (.cons hb (mapM_eq_ok.mp hbs))⟩

/-- A sequence panics when the first step does, or the second after it. -/
theorem bind_eq_panic {r : Outcome α} {f : α → Outcome β} :
    r >>= f = .error .panic ↔
      r = .error .panic ∨ ∃ a, r = .ok a ∧ f a = .error .panic := by
  cases r with
  | error e => simp [bind, Except.bind]
  | ok a => simp [bind, Except.bind]

theorem exists_of_bind_eq_panic {r : Outcome α} {f : α → Outcome β}
    (hr : r ≠ .error .panic) (h : r >>= f = .error .panic) :
    ∃ a, r = .ok a ∧ f a = .error .panic :=
  (bind_eq_panic.mp h).resolve_left hr

theorem bind_ne_panic {r : Outcome α} {f : α → Outcome β}
    (hr : r ≠ .error .panic) (hf : ∀ a, r = .ok a → f a ≠ .error .panic) :
    r >>= f ≠ .error .panic := by
  cases r with
  | error e => simpa [bind, Except.bind] using hr
  | ok a => exact hf a rfl

theorem map_ne_panic {r : Outcome α} {f : α → β} (hr : r ≠ .error .panic) :
    r.map f ≠ .error .panic := by
  cases r with
  | error e => simpa [Except.map] using hr
  | ok a => simp [Except.map]

theorem mapM_ne_panic {f : α → Outcome β} {l : List α}
    (hf : ∀ a ∈ l, f a ≠ .error .panic) : l.mapM f ≠ .error .panic := by
  induction l with
  | nil => simp [pure, Except.pure]
  | cons a l ih =>
      rw [List.mapM_cons]
      refine bind_ne_panic (hf a (List.mem_cons_self ..)) fun b _ => ?_
      refine bind_ne_panic (ih fun a' ha' =>
        hf a' (List.mem_cons_of_mem _ ha')) fun bs _ => ?_
      simp [pure, Except.pure]

end Outcome

/-- `copy_from_slice` into an array of length `n` panics on any other length. -/
def copyFromSlice (n : ℕ) (v : List UInt8) : Outcome (Bytes n) :=
  match toArray? n v with
  | some b => .ok b
  | none => Outcome.panic

@[simp] theorem copyFromSlice_eq_ok {n : ℕ} {v : List UInt8} {b : Bytes n} :
    copyFromSlice n v = .ok b ↔ toArray? n v = some b := by
  unfold copyFromSlice
  split <;> simp_all

@[simp] theorem copyFromSlice_eq_panic {n : ℕ} {v : List UInt8} :
    copyFromSlice n v = .error .panic ↔ v.length ≠ n := by
  unfold copyFromSlice toArray?
  by_cases hlength : v.length = n
  · simp [hlength]
  · simp [hlength, Outcome.panic]

/-- `hex::decode`. -/
def hexDecode (s : Str) : Outcome (List UInt8) :=
  Outcome.okOr .hex (Hex.decode s)

/-! ## Constants -/

def BLS_SIG_BYTES : ℕ := 96
def BLS_PUB_KEY_BYTES : ℕ := 48
def ETH_UNCOMPRESSED_PK_BYTES : ℕ := 65
def ALLOW_GROWABLE_SLASH_PROTECTION_DB : Bool := false
def FULL_DEPOSIT_AMOUNT : UInt64 := 32000000000
def WITHDRAWAL_CREDENTIALS_BYTES : ℕ := 32

end ValidatorGuardian
