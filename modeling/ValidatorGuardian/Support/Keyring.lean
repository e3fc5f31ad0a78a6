import ValidatorGuardian.Support.Watermark

/-!
# Watermarks of many keys

A keyring has a watermark for each name that it knows, holds the secrets of
some keys, and has a reason for what it lacks.  Asked for a duty, it refuses
what the watermark does not accept, raises the watermark otherwise, and only
then looks for the secret.  After any run a duty is acceptable exactly when it
was at the start and everything accepted in between precedes it.
-/

namespace Slashing

variable {κ α ε : Type} [DecidableEq κ] [LinearOrder α]

namespace Watermark

instance (w : Watermark α) : (d : Duty α) → Decidable (w.Accepts d)
  | .block _ => inferInstanceAs (Decidable (_ < _))
  | .vote _ _ => inferInstanceAs (Decidable (_ ∧ _))

/-- After a duty has been recorded, what precedes neither it nor what was
there before is no longer accepted. -/
theorem accepts_record_iff {w : Watermark α} {d e : Duty α}
    (hd : w.Accepts d) :
    (w.record d).Accepts e ↔ w.Accepts e ∧ d.Precedes e := by
  cases d with
  | block s =>
      cases e with
      | block s' =>
          exact ⟨fun h => ⟨lt_trans hd h, h⟩, fun h => h.2⟩
      | vote s' t' => exact ⟨fun h => ⟨h, trivial⟩, fun h => h.1⟩
  | vote s t =>
      cases e with
      | block s' => exact ⟨fun h => ⟨h, trivial⟩, fun h => h.1⟩
      | vote s' t' =>
          obtain ⟨hs, ht⟩ := hd
          constructor
          · rintro ⟨hs', ht'⟩
            exact ⟨⟨hs.trans hs', lt_trans ht ht'⟩, hs', ht'⟩
          · exact fun h => h.2

end Watermark

/-- What is known of the watermarks by name, and of the secrets by key. -/
@[ext] structure Keyring (κ α ε : Type) where
  mark : κ → Except ε (Watermark α)
  secret : κ → Except ε Unit

/-- The answer to a request: it is signed, it conflicts with what was accepted
before, or there is no watermark or no secret for it. -/
inductive Verdict (ε : Type) where
  | signed
  | conflicting
  | failed (reason : ε)

/-- A request under the name of a watermark, with a key, and a duty if what is
to be signed is one. -/
structure Ask (κ α : Type) where
  name : κ
  key : κ
  duty : Option (Duty α)

namespace Keyring

variable (R : Keyring κ α ε)

/-- Raise the watermark of a name. -/
def record (n : κ) (w : Watermark α) : Keyring κ α ε :=
  { R with mark := Function.update R.mark n (.ok w) }

/-- The secret is looked for last. -/
def sign (k : κ) : Verdict ε :=
  match R.secret k with
  | .ok () => .signed
  | .error e => .failed e

/-- Answer a request. -/
def answer (q : Ask κ α) : Verdict ε × Keyring κ α ε :=
  match R.mark q.name, q.duty with
  | .error e, _ => (.failed e, R)
  | .ok _, none => (R.sign q.key, R)
  | .ok w, some d =>
      if w.Accepts d then (R.sign q.key, R.record q.name (w.record d))
      else (.conflicting, R)

/-- Answer requests in order. -/
def answers (R : Keyring κ α ε) :
    List (Ask κ α) → List (Verdict ε) × Keyring κ α ε
  | [] => ([], R)
  | q :: qs =>
      let out := R.answer q
      let rest := answers out.2 qs
      (out.1 :: rest.1, rest.2)

/-- The duty that a request puts on record under the name `n`. -/
def accepted (n : κ) (q : Ask κ α) : List (Duty α) :=
  match R.mark n, q.duty with
  | .ok w, some d => if q.name = n ∧ w.Accepts d then [d] else []
  | _, _ => []

/-- The duties that a run puts on record under the name `n`, in order. -/
def acceptedAll (n : κ) (R : Keyring κ α ε) : List (Ask κ α) → List (Duty α)
  | [] => []
  | q :: qs => R.accepted n q ++ acceptedAll n (R.answer q).2 qs

variable {R} {q : Ask κ α} {n : κ} {w : Watermark α} {d : Duty α} {e : ε}

omit [DecidableEq κ] [LinearOrder α] in
theorem sign_eq_signed {k : κ} : R.sign k = .signed ↔ R.secret k = .ok () := by
  unfold sign
  split <;> simp_all

omit [DecidableEq κ] [LinearOrder α] in
theorem sign_eq_failed {k : κ} :
    R.sign k = .failed e ↔ R.secret k = .error e := by
  unfold sign
  split <;> simp_all

theorem answer_of_error (h : R.mark q.name = .error e) :
    R.answer q = (.failed e, R) := by
  simp [answer, h]

theorem answer_of_accepts (h : R.mark q.name = .ok w)
    (hd : q.duty = some d) (haccepts : w.Accepts d) :
    R.answer q = (R.sign q.key, R.record q.name (w.record d)) := by
  simp [answer, h, hd, haccepts]

theorem answer_of_not_accepts (h : R.mark q.name = .ok w)
    (hd : q.duty = some d) (hnot : ¬ w.Accepts d) :
    R.answer q = (.conflicting, R) := by
  simp [answer, h, hd, hnot]

theorem answer_of_no_duty (h : R.mark q.name = .ok w)
    (hd : q.duty = none) : R.answer q = (R.sign q.key, R) := by
  simp [answer, h, hd]

/-- A request changes the watermark of its own name, by the duty that it
records. -/
theorem mark_answer (h : R.mark n = .ok w) :
    ∃ w', (R.answer q).2.mark n = .ok w' ∧
      ∀ e, w'.Accepts e ↔
        w.Accepts e ∧ ∀ d ∈ R.accepted n q, d.Precedes e := by
  have hsame : R.accepted n q = [] → (R.answer q).2 = R →
      ∃ w', (R.answer q).2.mark n = .ok w' ∧ ∀ e, w'.Accepts e ↔
        w.Accepts e ∧ ∀ d ∈ R.accepted n q, d.Precedes e := by
    intro hnone hR
    refine ⟨w, by rw [hR, h], fun e => ?_⟩
    simp [hnone]
  cases hduty : q.duty with
  | none =>
      apply hsame
      · simp [accepted, h, hduty]
      · cases hmark : R.mark q.name with
        | error e => rw [answer_of_error hmark]
        | ok w₀ => rw [answer_of_no_duty hmark hduty]
  | some d =>
      by_cases hname : q.name = n
      · subst hname
        by_cases haccepts : w.Accepts d
        · refine ⟨w.record d, ?_, fun e => ?_⟩
          · rw [answer_of_accepts h hduty haccepts]
            simp [record]
          · simp [accepted, h, hduty, haccepts,
              Watermark.accepts_record_iff haccepts]
        · apply hsame
          · simp [accepted, h, hduty, haccepts]
          · rw [answer_of_not_accepts h hduty haccepts]
      · have hnone : R.accepted n q = [] := by
          simp [accepted, h, hduty, hname]
        refine ⟨w, ?_, fun e => by simp [hnone]⟩
        cases hmark : R.mark q.name with
        | error e => rw [answer_of_error hmark, h]
        | ok w₀ =>
            by_cases haccepts : w₀.Accepts d
            · rw [answer_of_accepts hmark hduty haccepts]
              simp [record, Ne.symm hname, h]
            · rw [answer_of_not_accepts hmark hduty haccepts, h]

/-- What has no watermark gets none. -/
theorem mark_answer_of_error (h : R.mark n = .error e) :
    (R.answer q).2.mark n = .error e := by
  cases hmark : R.mark q.name with
  | error e => rw [answer_of_error hmark, h]
  | ok w =>
      have hne : n ≠ q.name := by
        rintro rfl
        rw [h] at hmark
        cases hmark
      cases hduty : q.duty with
      | none => rw [answer_of_no_duty hmark hduty, h]
      | some d =>
          by_cases haccepts : w.Accepts d
          · rw [answer_of_accepts hmark hduty haccepts]
            simp [record, hne, h]
          · rw [answer_of_not_accepts hmark hduty haccepts, h]

@[simp] theorem secret_answer : (R.answer q).2.secret = R.secret := by
  unfold answer
  split
  · rfl
  · rfl
  · split <;> rfl

@[simp] theorem secret_answers (qs : List (Ask κ α)) :
    (R.answers qs).2.secret = R.secret := by
  induction qs generalizing R with
  | nil => rfl
  | cons q qs ih =>
      change ((R.answer q).2.answers qs).2.secret = R.secret
      rw [ih, secret_answer]

theorem sign_answers (qs : List (Ask κ α)) (k : κ) :
    (R.answers qs).2.sign k = R.sign k := by
  rw [sign, sign, secret_answers]

theorem mark_answers_of_error (h : R.mark n = .error e)
    (qs : List (Ask κ α)) : (R.answers qs).2.mark n = .error e := by
  induction qs generalizing R with
  | nil => exact h
  | cons q qs ih => exact ih (mark_answer_of_error h)

/-- After a run, what is accepted was accepted at the start and comes after
everything that the run has put on record. -/
theorem mark_answers (h : R.mark n = .ok w) (qs : List (Ask κ α)) :
    ∃ w', (R.answers qs).2.mark n = .ok w' ∧
      ∀ e, w'.Accepts e ↔
        w.Accepts e ∧ ∀ d ∈ acceptedAll n R qs, d.Precedes e := by
  induction qs generalizing R w with
  | nil => exact ⟨w, h, fun e => by simp [acceptedAll]⟩
  | cons q qs ih =>
      obtain ⟨w₁, hw₁, hfirst⟩ := mark_answer (q := q) h
      obtain ⟨w₂, hw₂, hrest⟩ := ih hw₁
      refine ⟨w₂, hw₂, fun e => ?_⟩
      rw [hrest, hfirst, acceptedAll, and_assoc, List.forall_mem_append]

variable (R q) in
/-- The name of a request has a watermark, and its duty, if it has one, was
acceptable at the start and comes after everything that the run has put on
record. -/
def Admits (qs : List (Ask κ α)) : Prop :=
  ∃ w, R.mark q.name = .ok w ∧ ∀ d, q.duty = some d → w.Accepts d ∧
    ∀ e ∈ acceptedAll q.name R qs, e.Precedes d

theorem answer_answers_of_error (h : R.mark q.name = .error e)
    (qs : List (Ask κ α)) : ((R.answers qs).2.answer q).1 = .failed e := by
  rw [answer_of_error (mark_answers_of_error h qs)]

/-- The secret is looked for exactly when the request is admitted. -/
theorem answer_answers_of_ok (h : R.mark q.name = .ok w)
    (qs : List (Ask κ α)) :
    (R.Admits q qs ∧ ((R.answers qs).2.answer q).1 = R.sign q.key) ∨
      (¬ R.Admits q qs ∧ ((R.answers qs).2.answer q).1 = .conflicting) := by
  obtain ⟨w', hw', hiff⟩ := mark_answers h qs
  have hadmits : R.Admits q qs ↔ ∀ d, q.duty = some d → w'.Accepts d := by
    constructor
    · rintro ⟨w₀, hw₀, hduty⟩ d hd
      obtain rfl := Except.ok.inj (h.symm.trans hw₀)
      exact (hiff d).mpr (hduty d hd)
    · exact fun hduty => ⟨w, h, fun d hd => (hiff d).mp (hduty d hd)⟩
  rw [hadmits]
  cases hduty : q.duty with
  | none =>
      refine .inl ⟨?_, ?_⟩
      · rintro _ ⟨⟩
      · rw [answer_of_no_duty hw' hduty, sign_answers]
  | some d =>
      by_cases haccepts : w'.Accepts d
      · refine .inl ⟨?_, ?_⟩
        · rintro _ ⟨⟩
          exact haccepts
        · rw [answer_of_accepts hw' hduty haccepts, sign_answers]
      · exact .inr ⟨fun hall => haccepts (hall d rfl),
          by rw [answer_of_not_accepts hw' hduty haccepts]⟩

/-- A request is signed after a run exactly when it is admitted and its secret
is held. -/
theorem answer_answers_signed_iff (qs : List (Ask κ α)) :
    ((R.answers qs).2.answer q).1 = .signed ↔
      R.secret q.key = .ok () ∧ R.Admits q qs := by
  cases hmark : R.mark q.name with
  | error e =>
      rw [answer_answers_of_error hmark]
      constructor
      · rintro ⟨⟩
      · rintro ⟨-, w, hw, -⟩
        cases hmark.symm.trans hw
  | ok w =>
      obtain ⟨hadmits, hv⟩ | ⟨hnot, hv⟩ := answer_answers_of_ok hmark qs
      · rw [hv, sign_eq_signed, and_iff_left hadmits]
      · rw [hv]
        constructor
        · rintro ⟨⟩
        · exact fun h => absurd h.2 hnot

/-- A request fails after a run exactly when its name has no watermark, or it
is admitted and its secret is not held. -/
theorem answer_answers_failed_iff (qs : List (Ask κ α)) :
    ((R.answers qs).2.answer q).1 = .failed e ↔
      R.mark q.name = .error e ∨
        R.secret q.key = .error e ∧ R.Admits q qs := by
  cases hmark : R.mark q.name with
  | error e' =>
      rw [answer_answers_of_error hmark]
      constructor
      · rintro ⟨⟩
        exact .inl rfl
      · rintro (⟨⟨⟩⟩ | ⟨-, w, hw, -⟩)
        · rfl
        · cases hmark.symm.trans hw
  | ok w =>
      obtain ⟨hadmits, hv⟩ | ⟨hnot, hv⟩ := answer_answers_of_ok hmark qs
      · rw [hv, sign_eq_failed, and_iff_left hadmits]
        exact ⟨.inr, fun h => h.resolve_left (by simp)⟩
      · rw [hv]
        constructor
        · rintro ⟨⟩
        · rintro (⟨⟨⟩⟩ | ⟨-, hadmits⟩)
          exact absurd hadmits hnot

end Keyring

end Slashing
