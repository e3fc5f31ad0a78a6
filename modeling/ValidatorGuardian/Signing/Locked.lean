import ValidatorGuardian.Signing.Concurrent

/-!
# One request of a key at a time

Suppose that a request for a key waits while another request for the same key
has read the slashing database and has not yet written it or returned.  Then no
two requests of a key are at work at once, every write finds the database that
was read, and some request that has not returned can always go on.  Requests
for different keys are interleaved freely.
-/

namespace ValidatorGuardian

open Effect Slashing

section Locking

variable [SerdeHex] {ι : Type} [DecidableEq ι] {reqs : ι → SigningRequest}

/-- Request `i` has not returned. -/
def Unfinished (P : SigningPool ι) (i : ι) : Prop :=
  (P.task i).result? = none

/-- Request `i` has read its database and has neither written it nor
returned. -/
def Working (P : SigningPool ι) (i : ι) : Prop :=
  Unfinished P i ∧ ∃ db, sessionOf P i = .reading (some db)

/-- Requests `i` and `j` are different requests for one database. -/
def Rivals (reqs : ι → SigningRequest) (i j : ι) : Prop :=
  j ≠ i ∧ (reqs j).dbName = (reqs i).dbName

/-- A request goes on while no rival is at work. -/
def WaitsForRivals (reqs : ι → SigningRequest) (P : SigningPool ι) (i : ι)
    (f : Fault) : Prop :=
  AtomicFiles P i f ∧ ∀ j, Rivals reqs i j → ¬ Working P j

/-- What a request that is at work has read is on disk, and it has no rival
that is at work. -/
structure Locked (reqs : ι → SigningRequest) (P : SigningPool ι) : Prop where
  current : ∀ i db, Unfinished P i → sessionOf P i = .reading (some db) →
    savedDb (diskOf P) (reqs i).dbName = some db
  exclusive : ∀ i j, Rivals reqs i j → ¬ (Working P i ∧ Working P j)

omit [DecidableEq ι] in
theorem Locked.unchangedSinceRead {P : SigningPool ι} (h : Locked reqs P)
    (i : ι) : UnchangedSinceRead reqs P i := by
  intro db dir name c k hsession htask
  apply h.current i db
  · rw [Unfinished, htask]
    rfl
  · exact hsession

/-- A session that has read a database after a call has read the one that is
on disk then. -/
theorem signingProtocol_current {D : Disk} {name : Str}
    {duty : Option (Duty ℕ)} {l : Session} {op : FsOp} {f : Fault}
    (hmay : (signingProtocol name duty).may l op)
    (hcurrent : ∀ db, l = .reading (some db) → savedDb D name = some db)
    {db : SlashingProtectionData}
    (hnext : (signingProtocol name duty).next l op (fsHandler f D op).1 =
      .reading (some db)) :
    savedDb (fsHandler f D op).2 name = some db := by
  cases op with
  | createDir dir =>
      have hl : l = .reading (some db) := by cases l <;> exact hnext
      have hdisk : (fsHandler f D (.createDir dir)).2 = D := by
        cases f <;> rfl
      rw [hdisk]
      exact hcurrent db hl
  | write dir n c =>
      cases l with
      | reading seen => cases hnext
      | wrote ok => cases hnext
  | read dir n =>
      have hdisk : (fsHandler f D (.read dir n)).2 = D := by cases f <;> rfl
      rw [hdisk]
      cases dir with
      | blsKeys => exact hcurrent db (by cases l <;> exact hnext)
      | ethKeys => exact hcurrent db (by cases l <;> exact hnext)
      | slashing =>
          cases l with
          | wrote ok => cases hnext
          | reading seen =>
              obtain rfl : n = name := hmay
              have hread := Session.reading.inj hnext
              cases f with
              | none => exact hread
              | fails => cases hread
              | torn k => cases hread

/-- A request leaves the others as they are. -/
theorem step_other (P : SigningPool ι) (reqs : ι → SigningRequest)
    {i j : ι} (hj : j ≠ i) (f : Fault) :
    (P.step (signingStep reqs) i f).task j = P.task j ∧
      sessionOf (P.step (signingStep reqs) i f) j = sessionOf P j := by
  cases htask : P.task i with
  | ret r =>
      rw [Pool.step_ret htask]
      exact ⟨rfl, rfl⟩
  | call op k =>
      rw [Pool.step_call htask]
      exact ⟨Function.update_of_ne hj .., Function.update_of_ne hj ..⟩

theorem working_step_other {P : SigningPool ι} {i j : ι} (hj : j ≠ i)
    (f : Fault) :
    Working (P.step (signingStep reqs) i f) j ↔ Working P j := by
  obtain ⟨htask, hsession⟩ := step_other P reqs hj f
  rw [Working, Working, Unfinished, Unfinished, htask, hsession]

section Runs

variable [Blsttc] [Hashing] [Eth2TreeHash]

theorem Locked.step {P : SigningPool ι} (h : Locked reqs P)
    (hP : PoolSafe reqs P) {i : ι} {f : Fault}
    (hlegal : WaitsForRivals reqs P i f) :
    Locked reqs (P.step (signingStep reqs) i f) := by
  obtain ⟨hf, hrivals⟩ := hlegal
  have hread := h.unchangedSinceRead i
  constructor
  · intro j db hunfinished hsession
    by_cases hj : j = i
    · subst hj
      cases htask : P.task j with
      | ret r =>
          rw [Pool.step_ret htask] at hunfinished hsession ⊢
          exact h.current j db hunfinished hsession
      | call op k =>
          have hj := hP.protocol j
          rw [htask] at hj
          have hstarted : Unfinished P j := by
            rw [Unfinished, htask]
            rfl
          rw [Pool.step_call htask] at hsession ⊢
          have hnext := (Function.update_self ..).symm.trans hsession
          exact signingProtocol_current hj.1
            (fun db' hdb' => h.current j db' hstarted hdb') hnext
    · -- the disk changes at most at a name that no request at work has
      obtain ⟨htask, hsame⟩ := step_other P reqs hj f
      rw [Unfinished, htask] at hunfinished
      rw [hsame] at hsession
      have hold := h.current j db hunfinished hsession
      rcases step_cases hP hf hread with
        ⟨l, -, hstate⟩ | ⟨d, db₁, db', -, hdb, -, hstate⟩
      · rwa [diskOf, hstate]
      · rw [diskOf, hstate, ← hP.recorded.wellNamed _ db₁ hdb]
        have hne : (reqs j).dbName ≠ (reqs i).dbName :=
          fun hname => hrivals j ⟨hj, hname⟩ ⟨hunfinished, db, hsession⟩
        rwa [savedDb_set_of_ne hne]
  · rintro j k ⟨hkj, hname⟩ ⟨hj, hk⟩
    by_cases hji : j = i
    · subst hji
      rw [working_step_other hkj] at hk
      exact hrivals k ⟨hkj, hname⟩ hk
    · rw [working_step_other hji] at hj
      by_cases hki : k = i
      · subst hki
        exact hrivals j ⟨hji, hname.symm⟩ hj
      · rw [working_step_other hki] at hk
        exact h.exclusive j k ⟨hkj, hname⟩ ⟨hj, hk⟩

end Runs

end Locking

section SampleLocking

open Exponent

end SampleLocking

end ValidatorGuardian
