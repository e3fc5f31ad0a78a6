import ValidatorGuardian.Crates.NumBigint
import ValidatorGuardian.Eth2.SlashProtection

/-!
# Decoders of hex and decimal fields

The fields of a request are decoded one by one.  A field of fixed length is
made from as many bytes as the hex stands for, by a conversion that truncates
or pads with zeros; only the decoder of lists refuses another length.  A
256-bit integer is decoded from its decimal string when it takes exactly four
limbs, so a small one is refused.
-/

namespace ValidatorGuardian

/-! ## Strings of a document -/

/-- The text of a JSON string, written with escapes or without. -/
def jsonText : Json.Value → Option Str
  | .str s | .escapedStr s => some s
  | _ => none

/-! ## Fields of fixed length -/

/-- What is decoded is the bytes, cut or filled up to length `N`. -/
theorem fromHexToSszVector_eq_ok {N : ℕ} {v : Json.Value} {x : Bytes N} :
    fromHexToSszVector N v = .ok x ↔
      ∃ s bytes, v = .str s ∧
        Hex.decode (strip0xPrefix s) = some bytes ∧
        fixedVectorFrom N bytes = x := by
  unfold fromHexToSszVector
  simp only [Outcome.bind_eq_ok, Outcome.okOr_eq_ok, Outcome.mapErr_eq_ok,
    hexDecode]
  constructor
  · rintro ⟨s, hs, bytes, hbytes, hx⟩
    cases v with
    | str s' =>
        cases hs
        exact ⟨s, bytes, rfl, hbytes, Except.ok.inj hx⟩
    | _ => cases hs
  · rintro ⟨s, bytes, rfl, hbytes, rfl⟩
    exact ⟨s, rfl, bytes, hbytes, rfl⟩

/-- Decoding a text takes place exactly when it is the hex of `N` bytes, which
are the value and are printed again. -/
structure DecodesExactly (N : ℕ) (v : Json.Value) (s : Str) : Prop where
  accepts : (∃ x, fromHexToSszVector N v = .ok x) ↔
    ∃ bytes, Hex.decode (strip0xPrefix s) = some bytes ∧ bytes.length = N
  value : ∀ x, fromHexToSszVector N v = .ok x →
    Hex.decode (strip0xPrefix s) = some x.toList
  prints : ∀ x, fromHexToSszVector N v = .ok x →
    toHexFromSszVector x = .str ('0' :: 'x' :: Hex.encode x.toList)

/-- A JSON string that is hex of another length, or hex of the right length
that cannot be borrowed. -/
def MisreadHex (N : ℕ) (v : Json.Value) : Prop :=
  (∃ s bytes, v = .str s ∧ Hex.decode (strip0xPrefix s) = some bytes ∧
    bytes.length ≠ N) ∨
  ∃ s bytes, v = .escapedStr s ∧
    Hex.decode (strip0xPrefix s) = some bytes ∧ bytes.length = N

/-- Every JSON string is decoded exactly, unless it is misread. -/
theorem decodesExactly_iff (N : ℕ) (v : Json.Value) :
    (∀ s, jsonText v = some s → DecodesExactly N v s) ↔
      ¬ MisreadHex N v := by
  constructor
  · rintro h (⟨s, bytes, rfl, hbytes, hlength⟩ |
      ⟨s, bytes, rfl, hbytes, hlength⟩)
    · have hok := fromHexToSszVector_eq_ok.mpr
        ⟨s, bytes, rfl, hbytes, (rfl : fixedVectorFrom N bytes = _)⟩
      obtain ⟨bytes', hbytes', hlength'⟩ := (h s rfl).accepts.mp ⟨_, hok⟩
      rw [hbytes] at hbytes'
      rw [Option.some.inj hbytes'] at hlength
      exact hlength hlength'
    · obtain ⟨x, hx⟩ := (h s rfl).accepts.mpr ⟨bytes, hbytes, hlength⟩
      obtain ⟨s', -, hv, -⟩ := fromHexToSszVector_eq_ok.mp hx
      cases hv
  · intro h s hs
    have hvalue : ∀ x, fromHexToSszVector N v = .ok x →
        Hex.decode (strip0xPrefix s) = some x.toList := by
      intro x hx
      obtain ⟨s', bytes, rfl, hbytes, rfl⟩ := fromHexToSszVector_eq_ok.mp hx
      obtain rfl : s' = s := Option.some.inj hs
      by_cases hlength : bytes.length = N
      · rw [fixedVectorFrom_toList hlength, hbytes]
      · exact absurd (.inl ⟨s', bytes, rfl, hbytes, hlength⟩) h
    refine ⟨⟨?_, ?_⟩, hvalue, fun x _ => rfl⟩
    · rintro ⟨x, hx⟩
      exact ⟨x.toList, hvalue x hx, x.toList_length⟩
    · rintro ⟨bytes, hbytes, hlength⟩
      cases v with
      | str s' =>
          obtain rfl : s' = s := Option.some.inj hs
          exact ⟨_, fromHexToSszVector_eq_ok.mpr
            ⟨s', bytes, rfl, hbytes, rfl⟩⟩
      | escapedStr s' =>
          obtain rfl : s' = s := Option.some.inj hs
          exact absurd (.inr ⟨s', bytes, rfl, hbytes, hlength⟩) h
      | _ => cases hs

/-- A fee recipient of one byte is filled up with zeros. -/
def oneByteAddress : Json.Value := .str "0xaa".toList

theorem not_decodesExactly_oneByteAddress :
    ¬ ∀ s, jsonText oneByteAddress = some s →
      DecodesExactly 20 oneByteAddress s := by
  intro h
  have hok := fromHexToSszVector_eq_ok.mpr ⟨_, [0xaa], rfl,
    (by decide : Hex.decode (strip0xPrefix "0xaa".toList) = some [0xaa]),
    (rfl : fixedVectorFrom 20 [0xaa] = _)⟩
  have hvalue := (h _ rfl).value _ hok
  exact absurd hvalue (by decide)

/-! ## Lists of commitments -/

/-- `MAX_BLOB_COMMITMENTS_PER_BLOCK`. -/
def MAX_BLOB_COMMITMENTS_PER_BLOCK : ℕ := 4096

/-- `from_hex_vec_to_ssz_type`: here the vector is made by `FixedVector::new`,
which refuses another length. -/
def fromHexVecToSszType (N : ℕ) (v : Json.Value) :
    Outcome (List (Bytes 48)) :=
  match Json.array jsonText v with
  | none => Outcome.panic
  | some hexStringVec => do
      let res ← hexStringVec.mapM fun hexStr => do
        let hexStr := strip0xPrefix hexStr
        let bytes ← Outcome.mapErr (.format "Not valid hex: ")
          (hexDecode hexStr)
        Outcome.mapErr (.format "Failed to create FixedVector: ")
          (Outcome.okOr .sszTypes (toArray? 48 bytes))
      if res.length ≤ N then return res else Outcome.panic

/-- `to_hex_vec_from_ssz_type`. -/
def toHexVecFromSszType (data : List (Bytes 48)) : Json.Value :=
  .arr (data.map fun d => .str ('0' :: 'x' :: Hex.encode d.toList))

/-- The texts and the commitments that they are the hex of. -/
abbrev AreHexOf (texts : List Str) (keys : List (Bytes 48)) : Prop :=
  List.Forall₂ (fun s key =>
    Hex.decode (strip0xPrefix s) = some key.toList) texts keys

/-- What becomes of an array of strings: one bad element is an error, and the
list is converted only when every element has been decoded. -/
theorem fromHexVecToSszType_of_texts {v : Json.Value} {texts : List Str}
    (N : ℕ) (htexts : Json.array jsonText v = some texts) :
    (∃ keys, AreHexOf texts keys ∧ fromHexVecToSszType N v =
        if keys.length ≤ N then .ok keys else Outcome.panic) ∨
      (¬ ∃ keys, AreHexOf texts keys) ∧
        ∃ e, fromHexVecToSszType N v = .error (.err e) := by
  let element : Str → Outcome (Bytes 48) := fun hexStr => do
    let bytes ← Outcome.mapErr (.format "Not valid hex: ")
      (hexDecode (strip0xPrefix hexStr))
    Outcome.mapErr (.format "Failed to create FixedVector: ")
      (Outcome.okOr .sszTypes (toArray? 48 bytes))
  have helement : ∀ s key, element s = .ok key ↔
      Hex.decode (strip0xPrefix s) = some key.toList := by
    intro s key
    simp only [element, Outcome.bind_eq_ok, Outcome.mapErr_eq_ok, hexDecode,
      Outcome.okOr_eq_ok, toArray?_eq_some]
    constructor
    · rintro ⟨bytes, hbytes, rfl⟩
      exact hbytes
    · exact fun h => ⟨_, h, rfl⟩
  have hpanic : texts.mapM element ≠ .error .panic := by
    refine Outcome.mapM_ne_panic fun s _ => ?_
    exact Outcome.bind_ne_panic
      (Outcome.mapErr_ne_panic Outcome.okOr_ne_panic)
      fun _ _ => Outcome.mapErr_ne_panic Outcome.okOr_ne_panic
  have hloop : ∀ keys, texts.mapM element = .ok keys ↔
      AreHexOf texts keys := by
    intro keys
    simp only [Outcome.mapM_eq_ok, helement]
  have hrun : fromHexVecToSszType N v = (do
      let res ← texts.mapM element
      if res.length ≤ N then return res else Outcome.panic) := by
    rw [fromHexVecToSszType, htexts]
  rw [hrun]
  rcases hres : texts.mapM element with (e | _) | keys
  · refine .inr ⟨?_, e, rfl⟩
    rintro ⟨keys, hkeys⟩
    rw [(hloop keys).mpr hkeys] at hres
    cases hres
  · exact absurd hres hpanic
  · exact .inl ⟨keys, (hloop keys).mp hres, rfl⟩

theorem AreHexOf.unique {texts : List Str} {keys keys' : List (Bytes 48)}
    (h : AreHexOf texts keys) (h' : AreHexOf texts keys') : keys = keys' := by
  refine List.right_unique_forall₂' ?_ h h'
  intro s key key' hkey hkey'
  rw [hkey] at hkey'
  exact List.Vector.toList_injective (Option.some.inj hkey')

/-- The elements of such a list are decoded exactly. -/
theorem fromHexVecToSszType_eq_ok {N : ℕ} {v : Json.Value}
    {keys : List (Bytes 48)} :
    fromHexVecToSszType N v = .ok keys ↔
      ∃ texts, Json.array jsonText v = some texts ∧ AreHexOf texts keys ∧
        keys.length ≤ N := by
  cases htexts : Json.array jsonText v with
  | none => simp [fromHexVecToSszType, htexts]
  | some texts =>
      simp only [Option.some.injEq, exists_eq_left']
      rcases fromHexVecToSszType_of_texts N htexts with
        ⟨keys', hkeys', hrun⟩ | ⟨hnone, e, hrun⟩
      · rw [hrun]
        constructor
        · intro h
          split at h
          · next hlength =>
              obtain rfl := Except.ok.inj h
              exact ⟨hkeys', hlength⟩
          · exact absurd h Outcome.panic_ne_ok
        · rintro ⟨hkeys, hlength⟩
          rw [hkeys'.unique hkeys, if_pos hlength]
      · rw [hrun]
        constructor
        · intro h
          cases h
        · exact fun h => absurd ⟨keys, h.1⟩ hnone

/-- The conversion of a list that is too long panics, as does the decoding of
anything but an array of strings. -/
theorem fromHexVecToSszType_eq_panic {N : ℕ} {v : Json.Value} :
    fromHexVecToSszType N v = Outcome.panic ↔
      Json.array jsonText v = none ∨
        ∃ texts keys, Json.array jsonText v = some texts ∧
          AreHexOf texts keys ∧ N < keys.length := by
  cases htexts : Json.array jsonText v with
  | none => simp [fromHexVecToSszType, htexts]
  | some texts =>
      simp only [reduceCtorEq, false_or, Option.some.injEq]
      rcases fromHexVecToSszType_of_texts N htexts with
        ⟨keys, hkeys, hrun⟩ | ⟨hnone, e, hrun⟩
      · rw [hrun]
        by_cases hlength : keys.length ≤ N
        · rw [if_pos hlength]
          constructor
          · exact fun h => absurd h.symm Outcome.panic_ne_ok
          · rintro ⟨_, keys', rfl, hkeys', hlong⟩
            rw [hkeys'.unique hkeys] at hlong
            exact absurd hlength (not_le.mpr hlong)
        · rw [if_neg hlength]
          exact iff_of_true rfl ⟨texts, keys, rfl, hkeys, not_le.mp hlength⟩
      · rw [hrun]
        constructor
        · intro h
          cases h
        · rintro ⟨_, keys, rfl, hkeys, -⟩
          exact absurd ⟨keys, hkeys⟩ hnone

/-- A JSON string that is the hex of a commitment. -/
def IsCommitment (item : Json.Value) : Prop :=
  ∃ s bytes, jsonText item = some s ∧
    Hex.decode (strip0xPrefix s) = some bytes ∧ bytes.length = 48

/-- Every item is a commitment exactly when all of them can be decoded. -/
theorem forall_isCommitment_iff (items : List Json.Value) :
    (∀ item ∈ items, IsCommitment item) ↔
      ∃ texts keys,
        List.Forall₂ (fun item s => jsonText item = some s) items texts ∧
          AreHexOf texts keys := by
  induction items with
  | nil =>
      refine iff_of_true ?_ ⟨[], [], .nil, .nil⟩
      exact fun item hitem => absurd hitem List.not_mem_nil
  | cons item items ih =>
      rw [List.forall_mem_cons, ih]
      constructor
      · rintro ⟨⟨s, bytes, hs, hbytes, hlength⟩, texts, keys, htexts, hkeys⟩
        exact ⟨s :: texts, ⟨bytes, hlength⟩ :: keys, .cons hs htexts,
          .cons hbytes hkeys⟩
      · rintro ⟨texts, keys, htexts, hkeys⟩
        cases htexts with
        | cons hs htexts =>
            cases hkeys with
            | @cons _ key _ keys hkey hkeys =>
                exact ⟨⟨_, key.toList, hs, hkey, key.toList_length⟩, _, keys,
                  htexts, hkeys⟩

/-- What decoding promises of a JSON value: no panic, a list exactly for an
array of at most `N` commitments, and the list that was encoded. -/
structure DecodesCommitments (N : ℕ) (v : Json.Value) : Prop where
  total : fromHexVecToSszType N v ≠ Outcome.panic
  accepts : (∃ keys, fromHexVecToSszType N v = .ok keys) ↔
    ∃ items, v = .arr items ∧ items.length ≤ N ∧
      ∀ item ∈ items, IsCommitment item
  back : ∀ keys : List (Bytes 48), keys.length ≤ N →
    fromHexVecToSszType N (toHexVecFromSszType keys) = .ok keys

/-- What is encoded is decoded again, in the same order. -/
theorem fromHexVecToSszType_toHexVecFromSszType {N : ℕ}
    {keys : List (Bytes 48)} (hlength : keys.length ≤ N) :
    fromHexVecToSszType N (toHexVecFromSszType keys) = .ok keys := by
  refine fromHexVecToSszType_eq_ok.mpr
    ⟨keys.map fun d => '0' :: 'x' :: Hex.encode d.toList, ?_, ?_, hlength⟩
  · rw [toHexVecFromSszType, Json.array_eq_some]
    refine ⟨_, rfl, ?_⟩
    rw [List.forall₂_map_left_iff, List.forall₂_map_right_iff,
      List.forall₂_same]
    exact fun key _ => rfl
  · rw [AreHexOf, List.forall₂_map_left_iff, List.forall₂_same]
    intro key _
    rw [strip0xPrefix_prefixed, Hex.decode_encode]

/-- A list is decoded exactly for an array of at most `N` commitments. -/
theorem exists_fromHexVecToSszType_iff (N : ℕ) (v : Json.Value) :
    (∃ keys, fromHexVecToSszType N v = .ok keys) ↔
      ∃ items, v = .arr items ∧ items.length ≤ N ∧
        ∀ item ∈ items, IsCommitment item := by
  constructor
  · rintro ⟨keys, hok⟩
    obtain ⟨texts, htexts, hkeys, hlength⟩ := fromHexVecToSszType_eq_ok.mp hok
    obtain ⟨items, rfl, hitems⟩ := Json.array_eq_some.mp htexts
    refine ⟨items, rfl, ?_, ?_⟩
    · rwa [hitems.length_eq, hkeys.length_eq]
    · exact (forall_isCommitment_iff items).mpr ⟨texts, keys, hitems, hkeys⟩
  · rintro ⟨items, rfl, hlength, hall⟩
    obtain ⟨texts, keys, hitems, hkeys⟩ :=
      (forall_isCommitment_iff items).mp hall
    refine ⟨keys, fromHexVecToSszType_eq_ok.mpr
      ⟨texts, Json.array_eq_some.mpr ⟨items, rfl, hitems⟩, hkeys, ?_⟩⟩
    rwa [← hkeys.length_eq, ← hitems.length_eq]

/-- An array of strings that is short enough to be converted, or that an
element keeps from being converted. -/
def ReachesNoPanic (N : ℕ) (v : Json.Value) : Prop :=
  ∃ items, v = .arr items ∧ (∀ item ∈ items, (jsonText item).isSome) ∧
    (items.length ≤ N ∨ ∃ item ∈ items, ¬ IsCommitment item)

/-- The promise is kept exactly where the decoder does not panic. -/
theorem decodesCommitments_iff (v : Json.Value) :
    DecodesCommitments MAX_BLOB_COMMITMENTS_PER_BLOCK v ↔
      ReachesNoPanic MAX_BLOB_COMMITMENTS_PER_BLOCK v := by
  constructor
  · intro h
    have hquiet := mt fromHexVecToSszType_eq_panic.mpr h.total
    obtain ⟨hsome, hshort⟩ := not_or.mp hquiet
    obtain ⟨texts, htexts⟩ := Option.ne_none_iff_exists'.mp hsome
    obtain ⟨items, rfl, hitems⟩ := Json.array_eq_some.mp htexts
    refine ⟨items, rfl, ?_, ?_⟩
    · exact Json.exists_array_eq_some.mp ⟨texts, htexts⟩
    · by_contra hneither
      push Not at hneither
      obtain ⟨hlong, hall⟩ := hneither
      obtain ⟨texts', keys, hitems', hkeys⟩ :=
        (forall_isCommitment_iff items).mp hall
      refine hshort ⟨texts', keys, Json.array_eq_some.mpr
        ⟨items, rfl, hitems'⟩, hkeys, ?_⟩
      rwa [← hkeys.length_eq, ← hitems'.length_eq]
  · rintro ⟨items, rfl, hsome, hcases⟩
    refine ⟨?_, exists_fromHexVecToSszType_iff _ _,
      fun keys => fromHexVecToSszType_toHexVecFromSszType⟩
    intro hpanic
    rcases fromHexVecToSszType_eq_panic.mp hpanic with
      hnone | ⟨texts, keys, htexts, hkeys, hlong⟩
    · obtain ⟨texts, htexts⟩ := Json.exists_array_eq_some.mpr hsome
      rw [hnone] at htexts
      cases htexts
    · obtain ⟨items', h, hitems⟩ := Json.array_eq_some.mp htexts
      obtain rfl := Json.Value.arr.inj h
      rcases hcases with hshort | ⟨item, hitem, hbad⟩
      · rw [hitems.length_eq, hkeys.length_eq] at hshort
        exact absurd hshort (not_le.mpr hlong)
      · exact hbad ((forall_isCommitment_iff items).mpr
          ⟨texts, keys, hitems, hkeys⟩ item hitem)

/-- A field that is no array panics instead of being refused. -/
theorem not_decodesCommitments_null :
    ¬ DecodesCommitments MAX_BLOB_COMMITMENTS_PER_BLOCK .null :=
  fun h => h.total rfl

/-! ## 256-bit integers -/

/-- `FixedVector::from(Vec<u64>)`: truncate or pad with zeros. -/
def u256From (v : List UInt64) : U256 :=
  ⟨v.take 4 ++ List.replicate (4 - v.length) 0, by
    rw [List.length_append, List.length_take, List.length_replicate]
    omega⟩

theorem u256From_toList {v : List UInt64} (hv : v.length = 4) :
    (u256From v).toList = v := by
  simp [u256From, List.Vector.toList, ← hv]

section Decimal

variable [NumBigint]

def fromU256String (v : Json.Value) : Outcome U256 := do
  let decimalStr ← Outcome.okOr .serdeJson (jsonText v)
  let bytes ← match NumBigint.parseBytes decimalStr with
    | some u => .ok (NumBigint.toU64Digits u)
    | none => Outcome.bail "Invalid decimal string for U256"
  Outcome.bailIf (bytes.length ≠ 4)
    "Decimal string doesn't match the required length for U256"
  return u256From bytes

def toU256String (num : U256) : Json.Value :=
  let out := NumBigint.fromBytesLe (Limbs.toBytes num.toList)
  .str (NumBigint.toStrRadix out)

variable {u : U256} {s : Str} {v : ℕ}

/-- A number is printed in its canonical form. -/
theorem toU256String_eq (hlaws : NumBigint.Laws) (u : U256) :
    toU256String u = .str (Nat.toDigits 10 (Limbs.value u.toList)) := by
  rw [toU256String, hlaws.bytes, hlaws.print, Limbs.ofDigits_toBytes]

/-- The numbers with exactly four minimal limbs. -/
theorem length_toU64Digits_iff (hlaws : NumBigint.Laws) :
    (NumBigint.toU64Digits v).length = 4 ↔ 2 ^ 192 ≤ v ∧ v < 2 ^ 256 := by
  rw [Limbs.length_eq_succ_iff (hlaws.minimal v) (k := 3), hlaws.limbs,
    ← pow_mul, ← pow_mul]

/-- A decimal string is decoded exactly when its number takes four limbs. -/
theorem fromU256String_of_isDecimal (hlaws : NumBigint.Laws)
    (hs : IsDecimal s v) :
    (2 ^ 192 ≤ v ∧ v < 2 ^ 256 ∧ ∃ u : U256,
        fromU256String (.str s) = .ok u ∧ Limbs.value u.toList = v) ∨
      (¬ (2 ^ 192 ≤ v ∧ v < 2 ^ 256) ∧ fromU256String (.str s) =
        Outcome.bail
          "Decimal string doesn't match the required length for U256") := by
  have hdecode : fromU256String (.str s) = (do
      Outcome.bailIf ((NumBigint.toU64Digits v).length ≠ 4)
        "Decimal string doesn't match the required length for U256"
      return u256From (NumBigint.toU64Digits v)) := by
    simp only [fromU256String, jsonText, Outcome.okOr, Outcome.ok_bind,
      hlaws.parse hs]
  by_cases hlength : (NumBigint.toU64Digits v).length = 4
  · obtain ⟨hlow, hhigh⟩ := (length_toU64Digits_iff hlaws).mp hlength
    refine .inl ⟨hlow, hhigh, u256From (NumBigint.toU64Digits v), ?_, ?_⟩
    · rw [hdecode, Outcome.bailIf, if_neg (not_not.mpr hlength)]
      rfl
    · rw [u256From_toList hlength, hlaws.limbs]
  · refine .inr ⟨fun h => hlength ((length_toU64Digits_iff hlaws).mpr h), ?_⟩
    rw [hdecode, Outcome.bailIf, if_pos hlength]
    rfl

/-- What the two functions promise of the number `v`. -/
structure DecimalRoundTrip (v : ℕ) : Prop where
  accepted : v < 2 ^ 256 → ∃ u : U256,
    fromU256String (.str (Nat.toDigits 10 v)) = .ok u ∧
      Limbs.value u.toList = v ∧
      toU256String u = .str (Nat.toDigits 10 v)
  rejected : 2 ^ 256 ≤ v → ∀ s, IsDecimal s v →
    ∃ e, fromU256String (.str s) = .error (.err e)
  back : ∀ u : U256, Limbs.value u.toList = v →
    fromU256String (toU256String u) = .ok u

/-- A number that takes fewer than four limbs has no decodable form. -/
theorem not_decimalRoundTrip (hlaws : NumBigint.Laws) (hv : v < 2 ^ 192) :
    ¬ DecimalRoundTrip v := by
  intro h
  have hsmall : v < 2 ^ 256 := hv.trans (by norm_num)
  obtain ⟨u, hu, -⟩ := h.accepted hsmall
  rcases fromU256String_of_isDecimal hlaws (isDecimal_toDigits v) with
    ⟨hlow, -⟩ | ⟨-, hbail⟩
  · exact absurd hlow (not_le.mpr hv)
  · rw [hbail] at hu
    exact Outcome.bail_ne_ok hu

/-- The promise is kept from `2 ^ 192` on. -/
theorem decimalRoundTrip_iff (hlaws : NumBigint.Laws) (v : ℕ) :
    DecimalRoundTrip v ↔ 2 ^ 192 ≤ v := by
  constructor
  · intro h
    by_contra hv
    exact not_decimalRoundTrip hlaws (not_le.mp hv) h
  · intro hlow
    refine ⟨?_, ?_, ?_⟩
    · intro hhigh
      rcases fromU256String_of_isDecimal hlaws (isDecimal_toDigits v) with
        ⟨-, -, u, hu, hvalue⟩ | ⟨hnot, -⟩
      · refine ⟨u, hu, hvalue, ?_⟩
        rw [toU256String_eq hlaws, hvalue]
      · exact absurd ⟨hlow, hhigh⟩ hnot
    · intro hhigh s hs
      rcases fromU256String_of_isDecimal hlaws hs with ⟨-, hlt, -⟩ |
        ⟨-, hbail⟩
      · exact absurd hlt (not_lt.mpr hhigh)
      · exact ⟨_, hbail⟩
    · intro u hvalue
      have hhigh : v < 2 ^ 256 := by
        have hlt := Limbs.value_lt u.toList
        rw [hvalue, u.toList_length, ← pow_mul] at hlt
        exact hlt
      rw [toU256String_eq hlaws, hvalue]
      rcases fromU256String_of_isDecimal hlaws (isDecimal_toDigits v) with
        ⟨-, -, u', hu', hvalue'⟩ | ⟨hnot, -⟩
      · have hlength : u'.toList.length = u.toList.length := by simp
        have hlimbs := Limbs.eq_of_value hlength (hvalue'.trans hvalue.symm)
        rw [hu', List.Vector.toList_injective hlimbs]
      · exact absurd ⟨hlow, hhigh⟩ hnot

end Decimal

section SampleDecimals

open Schoolbook

/-- The base fee of a block in the tests. -/
def testBaseFee : ℕ :=
  34591868959907565691726467724468583992047712261299446221682432921156757610262

theorem decimalRoundTrip_iff_testBaseFee : DecimalRoundTrip testBaseFee :=
  (decimalRoundTrip_iff laws _).mpr (by norm_num [testBaseFee])

/-- A base fee of 7 is refused. -/
theorem not_decimalRoundTrip_seven : ¬ DecimalRoundTrip 7 :=
  not_decimalRoundTrip laws (by norm_num)

end SampleDecimals

end ValidatorGuardian
