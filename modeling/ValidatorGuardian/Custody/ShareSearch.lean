import ValidatorGuardian.Custody.Malformed

/-!
# The search for a share is exact

A guardian tries the encrypted shares in order.  An entry that is no hex, that
does not open, or that opens to the share of another place is passed over, so
the share at the first place that holds its own is returned.  A key set without
a public key makes the search panic before it begins.
-/

namespace ValidatorGuardian

section Search

variable [Blsttc] [Secp256k1] {p : BlsKeygenPayload} {sk : EthSecretKey}

/-- The first place that holds the share of its own. -/
def FirstOwn (p : BlsKeygenPayload) (sk : EthSecretKey)
    (pkSet : Blsttc.PublicKeySet) (s : Blsttc.SecretKeyShare) : Prop :=
  ∃ i < p.blsEncPrivKeyShares.length, OpensToOwn p sk pkSet i s ∧
    ∀ j < i, ∀ s', ¬ OpensToOwn p sk pkSet j s'

/-- Where some place holds the share of its own, one of them is the first. -/
theorem exists_firstOwn {pkSet : Blsttc.PublicKeySet}
    (h : ∃ i < p.blsEncPrivKeyShares.length, ∃ s,
      OpensToOwn p sk pkSet i s) :
    ∃ s, FirstOwn p sk pkSet s := by
  classical
  have hexists : ∃ i, i < p.blsEncPrivKeyShares.length ∧ ∃ s,
      OpensToOwn p sk pkSet i s := h
  obtain ⟨hlt, s, hs⟩ := Nat.find_spec hexists
  refine ⟨s, Nat.find hexists, hlt, hs, ?_⟩
  intro j hj s' hs'
  exact Nat.find_min hexists hj ⟨hj.trans hlt, s', hs'⟩

/-- What the search promises of a payload and a guardian: it returns exactly
the first share that is in its own place, it returns one whenever there is
one, and it fails with an error otherwise. -/
structure SearchExact (p : BlsKeygenPayload) (sk : EthSecretKey) : Prop where
  returns : ∀ s, verifyCustody p sk = .ok s ↔
    ∃ pkSet, MatchesKeySet p pkSet ∧ FirstOwn p sk pkSet s
  accepts : (∃ s, verifyCustody p sk = .ok s) ↔
    ∃ pkSet, MatchesKeySet p pkSet ∧
      ∃ i < p.blsEncPrivKeyShares.length, ∃ s, OpensToOwn p sk pkSet i s
  refuses : (¬ ∃ s, verifyCustody p sk = .ok s) →
    ∃ e, verifyCustody p sk = .error (.err e)

/-- The shares are searched in the order of their places. -/
theorem verifyCustody_eq_ok_iff
    (hbytes : Function.Injective (Blsttc.publicKeyToBytes : _ → Bytes 48))
    {s : Blsttc.SecretKeyShare} :
    verifyCustody p sk = .ok s ↔
      ∃ pkSet, MatchesKeySet p pkSet ∧ FirstOwn p sk pkSet s := by
  rw [verifyCustody_eq_ok]
  refine exists_congr fun pkSet => and_congr_right fun hmatch => ?_
  rw [findShare_eq_ok hbytes hmatch.publicKeySet_eq List.pairwise_lt_range]
  simp only [List.mem_range]
  refine exists_congr fun i => and_congr_right fun hi => ?_
  refine and_congr_right fun _ => ?_
  constructor
  · exact fun hleast j hj => hleast j (hj.trans hi) hj
  · exact fun hleast j _ hj => hleast j hj

/-- The search panics exactly on a key set without a public key. -/
theorem verifyCustody_eq_panic :
    verifyCustody p sk = .error .panic ↔ ¬ p.Keyed := by
  constructor
  · exact fun hpanic hkeyed => verifyCustody_ne_panic hkeyed sk hpanic
  · intro hkeyed
    obtain ⟨pkSet, hset, hkey⟩ := by
      simpa [BlsKeygenPayload.Keyed] using hkeyed
    rw [verifyCustody, BlsKeygenPayload.verifyPublicKeysMatch, hset,
      Outcome.ok_bind, Blsttc.publicKeyOf_eq_panic.mpr hkey]
    rfl

theorem searchExact_of_keyed
    (hbytes : Function.Injective (Blsttc.publicKeyToBytes : _ → Bytes 48))
    (hkeyed : p.Keyed) (sk : EthSecretKey) : SearchExact p sk := by
  refine ⟨fun s => verifyCustody_eq_ok_iff hbytes, ?_, ?_⟩
  · constructor
    · rintro ⟨s, hs⟩
      obtain ⟨pkSet, hmatch, i, hi, hown, -⟩ :=
        (verifyCustody_eq_ok_iff hbytes).mp hs
      exact ⟨pkSet, hmatch, i, hi, s, hown⟩
    · rintro ⟨pkSet, hmatch, hplace⟩
      obtain ⟨s, hfirst⟩ := exists_firstOwn hplace
      exact ⟨s, (verifyCustody_eq_ok_iff hbytes).mpr
        ⟨pkSet, hmatch, hfirst⟩⟩
  · intro hnone
    match hresult : verifyCustody p sk with
    | .ok s => exact absurd ⟨s, hresult⟩ hnone
    | .error (.err e) => exact ⟨e, rfl⟩
    | .error .panic =>
        exact absurd hresult (verifyCustody_ne_panic hkeyed sk)

/-- For every payload and every guardian, the search is exact unless the key
set has no public key. -/
theorem searchExact_iff
    (hbytes : Function.Injective (Blsttc.publicKeyToBytes : _ → Bytes 48))
    (p : BlsKeygenPayload) (sk : EthSecretKey) :
    SearchExact p sk ↔ p.Keyed := by
  constructor
  · intro hexact
    by_contra hkeyed
    have hpanic : verifyCustody p sk = .error .panic :=
      verifyCustody_eq_panic.mpr hkeyed
    have hnone : ¬ ∃ s, verifyCustody p sk = .ok s := by simp [hpanic]
    obtain ⟨e, he⟩ := hexact.refuses hnone
    rw [hpanic] at he
    cases he
  · exact fun hkeyed => searchExact_of_keyed hbytes hkeyed sk

end Search

section SampleSearch

open Exponent

/-- A payload whose first entry is no hex, and whose second one is sealed for
the guardian that reads it. -/
def blemishedPayload : BlsKeygenPayload :=
  { payloadFor (line 5 7) [guardianKey 1, guardianKey 2] with
    blsEncPrivKeyShares := ["0xzz".toList, encryptedShare (line 5 7) 1
      (guardianKey 2)] }

theorem keyed_blemishedPayload : blemishedPayload.Keyed := by
  intro pkSet hset
  have hline : blemishedPayload.publicKeySet = .ok (line 5 7) :=
    publicKeySet_payloadFor (line 5 7) [guardianKey 1, guardianKey 2]
  rw [hline] at hset
  obtain rfl := Except.ok.inj hset
  exact show 0 < [(5 : Scalar), 7].length by decide

theorem searchExact_iff_blemished :
    SearchExact blemishedPayload (guardianKey 2) ∧
      (verifyCustody blemishedPayload (guardianKey 2)).toOption.isSome :=
  ⟨(searchExact_iff encodings.publicKeyToBytes_injective _ _).mpr
    keyed_blemishedPayload, by decide +kernel⟩

/-- A payload whose key set is the empty text. -/
def keylessPayload : BlsKeygenPayload :=
  { blemishedPayload with blsPubKeySet := [] }

/-- The search panics on it. -/
theorem not_searchExact_keyless :
    ¬ SearchExact keylessPayload (guardianKey 2) := by
  intro h
  have hpanic : verifyCustody keylessPayload (guardianKey 2) =
      .error .panic := by rfl
  obtain ⟨e, he⟩ := h.refuses (by simp [hpanic])
  rw [hpanic] at he
  cases he

end SampleSearch

end ValidatorGuardian
