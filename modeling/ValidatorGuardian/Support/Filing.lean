import ValidatorGuardian.Support.Program

/-!
# Stores whose values belong to their keys

A state holds a store of values under keys.  Which values belong to which keys
is fixed.  Programs that write only what belongs may then rely on reading only
what belongs, in whatever order their operations are interleaved.  If moreover
a key determines its value, nothing that was once stored is ever lost or
changed, so what a program has seen in the store stays there.
-/

namespace Effect

variable {Op : Type} {Ans : Op → Type} {α χ σ κ ν ι : Type}

/-! ## Stores -/

/-- Every value of the store belongs to its key. -/
def Filed (Belongs : κ → ν → Prop) (get : κ → Option ν) : Prop :=
  ∀ k v, get k = some v → Belongs k v

/-- No key loses its value, though it may get another. -/
def Persists (get get' : κ → Option ν) : Prop :=
  ∀ k v, get k = some v → ∃ v', get' k = some v'

/-- No value is lost or changed. -/
def Grows (get get' : κ → Option ν) : Prop :=
  ∀ k v, get k = some v → get' k = some v

/-- A key has one value that belongs to it. -/
def Determines (Belongs : κ → ν → Prop) : Prop :=
  ∀ k v v', Belongs k v → Belongs k v' → v = v'

theorem Persists.refl (get : κ → Option ν) : Persists get get :=
  fun _ v h => ⟨v, h⟩

theorem Persists.trans {get get' get'' : κ → Option ν}
    (h : Persists get get') (h' : Persists get' get'') :
    Persists get get'' := by
  intro k v hv
  obtain ⟨v', hv'⟩ := h k v hv
  exact h' k v' hv'

/-- Where keys determine their values, a value that is not lost is not
changed. -/
theorem grows_of_persists {Belongs : κ → ν → Prop}
    {get get' : κ → Option ν} (hdet : Determines Belongs)
    (hget : Filed Belongs get) (hget' : Filed Belongs get')
    (h : Persists get get') : Grows get get' := by
  intro k v hv
  obtain ⟨v', hv'⟩ := h k v hv
  rwa [hdet k v v' (hget k v hv) (hget' k v' hv')]

/-- What has been seen belongs, and its keys still have values. -/
structure SeenIn (Belongs : κ → ν → Prop) (get : κ → Option ν)
    (seen : κ → ν → Prop) : Prop where
  belongs : ∀ k v, seen k v → Belongs k v
  present : ∀ k v, seen k v → ∃ v', get k = some v'

theorem SeenIn.mono {Belongs : κ → ν → Prop} {get get' : κ → Option ν}
    {seen : κ → ν → Prop} (hseen : SeenIn Belongs get seen)
    (hpersists : Persists get get') : SeenIn Belongs get' seen := by
  refine ⟨hseen.belongs, fun k v hv => ?_⟩
  obtain ⟨v', hv'⟩ := hseen.present k v hv
  exact hpersists k v' hv'

/-- Where keys determine their values, what has been seen is still stored. -/
theorem SeenIn.stored {Belongs : κ → ν → Prop} {get : κ → Option ν}
    {seen : κ → ν → Prop} (hseen : SeenIn Belongs get seen)
    (hget : Filed Belongs get) (hdet : Determines Belongs) :
    ∀ k v, seen k v → get k = some v := by
  intro k v hv
  obtain ⟨v', hv'⟩ := hseen.present k v hv
  rwa [hdet k v v' (hseen.belongs k v hv) (hget k v' hv')]

/-- How operations use the store `get s` of a state `s`, when the environment
keeps to the choices allowed by `Ok`: what an operation may write, and which
values its answer shows to be stored. -/
structure StoreAccess (h : Handler Op Ans χ σ) (Ok : χ → Prop)
    (get : σ → κ → Option ν) where
  writes : Op → κ → ν → Prop
  shows : (op : Op) → Ans op → κ → ν → Prop
  /-- What is stored afterwards was stored before, or is written. -/
  stored : ∀ c s op k v, Ok c → get (h c s op).2 k = some v →
    get s k = some v ∨ writes op k v
  /-- What was stored before stays, or something is written over it. -/
  kept : ∀ c s op k v, Ok c → get s k = some v →
    ∃ v', get (h c s op).2 k = some v' ∧ (v' = v ∨ writes op k v')
  /-- What an answer shows is stored afterwards. -/
  shown : ∀ c s op k v, Ok c → shows op (h c s op).1 k v →
    get (h c s op).2 k = some v

namespace StoreAccess

variable {h : Handler Op Ans χ σ} {Ok : χ → Prop} {get : σ → κ → Option ν}
  (A : StoreAccess h Ok get) (Belongs : κ → ν → Prop)

/-- Write only what belongs, as long as only what belongs has been seen.  The
local state is what has been seen. -/
def filing : Protocol Op Ans (κ → ν → Prop) where
  may seen op := (∀ k v, seen k v → Belongs k v) →
    ∀ k v, A.writes op k v → Belongs k v
  next seen op ans := fun k v => seen k v ∨ A.shows op ans k v

variable {A Belongs} {s : σ} {seen : κ → ν → Prop} {op : Op} {c : χ}

/-- What has been seen is not forgotten. -/
theorem conforms_remembers {F : (κ → ν → Prop) → α → Prop}
    {p : Program Op Ans α} (hp : p.Conforms (A.filing Belongs) F seen) :
    p.Conforms (A.filing Belongs)
      (fun seen' a => (∀ k v, seen k v → seen' k v) ∧ F seen' a) seen := by
  induction p generalizing seen with
  | ret a => exact ⟨fun _ _ h => h, hp⟩
  | call op k ih =>
      refine ⟨hp.1, fun ans => (ih ans (hp.2 ans)).weaken ?_⟩
      rintro seen' a ⟨hsub, ha⟩
      exact ⟨fun key v hv => hsub key v (.inl hv), ha⟩

/-- An operation that writes what belongs keeps the store filed. -/
theorem filed_step (hc : Ok c) (hs : Filed Belongs (get s))
    (hwrites : ∀ k v, A.writes op k v → Belongs k v) :
    Filed Belongs (get (h c s op).2) := by
  intro k v hv
  rcases A.stored c s op k v hc hv with hold | hnew
  · exact hs k v hold
  · exact hwrites k v hnew

theorem persists_step (A : StoreAccess h Ok get) (hc : Ok c) :
    Persists (get s) (get (h c s op).2) := by
  intro k v hv
  obtain ⟨v', hv', -⟩ := A.kept c s op k v hc hv
  exact ⟨v', hv'⟩

/-- The program that performs the operation has then seen its answer. -/
theorem seenIn_next (hc : Ok c) (hs : Filed Belongs (get s))
    (hseen : SeenIn Belongs (get s) seen)
    (hmay : (A.filing Belongs).may seen op) :
    SeenIn Belongs (get (h c s op).2)
      ((A.filing Belongs).next seen op (h c s op).1) := by
  have hfiled := filed_step hc hs (hmay hseen.belongs)
  constructor
  · rintro k v (hold | hnew)
    · exact hseen.belongs k v hold
    · exact hfiled k v (A.shown c s op k v hc hnew)
  · rintro k v (hold | hnew)
    · exact (hseen.mono (persists_step A hc)).present k v hold
    · exact ⟨v, A.shown c s op k v hc hnew⟩

/-! ## Pools -/

variable (A Belongs)

/-- The programs of a pool keep to the filing protocol over a filed store:
what each has seen belongs, and it will end with `F`. -/
structure FiledPool (F : ι → (κ → ν → Prop) → α → Prop)
    (P : Pool Op Ans α σ ι) : Prop where
  store : Filed Belongs (get P.state)
  tasks : ∀ i, ∃ seen, SeenIn Belongs (get P.state) seen ∧
    (P.task i).Conforms (A.filing Belongs) (F i) seen

variable {A Belongs} [DecidableEq ι] {F : ι → (κ → ν → Prop) → α → Prop}
  {P Q : Pool Op Ans α σ ι}

omit [DecidableEq ι] in
/-- Programs that have not started. -/
theorem FiledPool.start (hs : Filed Belongs (get P.state))
    (htasks : ∀ i, (P.task i).Conforms (A.filing Belongs) (F i)
      fun _ _ => False) : A.FiledPool Belongs F P :=
  ⟨hs, fun i => ⟨fun _ _ => False,
    ⟨fun _ _ h => h.elim, fun _ _ h => h.elim⟩, htasks i⟩⟩

omit [DecidableEq ι] in
/-- What a task that calls next is about to do. -/
theorem FiledPool.may (hP : A.FiledPool Belongs F P) {i : ι}
    {k : Ans op → Program Op Ans α} (ht : P.task i = .call op k) :
    ∀ k v, A.writes op k v → Belongs k v := by
  obtain ⟨seen, hseen, hconforms⟩ := hP.tasks i
  rw [ht] at hconforms
  exact hconforms.1 hseen.belongs

theorem persists_poolStep (A : StoreAccess h Ok get) (P : Pool Op Ans α σ ι)
    {i : ι} (hc : Ok c) :
    Persists (get P.state) (get (P.step (fun _ => h) i c).state) := by
  cases ht : P.task i with
  | ret a =>
      rw [Pool.step_ret ht]
      exact Persists.refl _
  | call op k =>
      rw [Pool.step_call ht]
      exact persists_step A hc

theorem FiledPool.step (hP : A.FiledPool Belongs F P) {i : ι} (hc : Ok c) :
    A.FiledPool Belongs F (P.step (fun _ => h) i c) := by
  have hpersists := persists_poolStep A P (i := i) hc
  cases ht : P.task i with
  | ret a => rwa [Pool.step_ret ht]
  | call op k =>
      rw [Pool.step_call ht] at hpersists ⊢
      refine ⟨filed_step hc hP.store (hP.may ht), fun j => ?_⟩
      by_cases hj : j = i
      · subst hj
        obtain ⟨seen, hseen, hconforms⟩ := hP.tasks j
        rw [ht] at hconforms
        have hnext := seenIn_next hc hP.store hseen hconforms.1
        refine ⟨_, hnext, ?_⟩
        simpa using hconforms.2 _
      · obtain ⟨seen, hseen, hconforms⟩ := hP.tasks j
        refine ⟨seen, hseen.mono hpersists, ?_⟩
        simpa [hj] using hconforms

/-- Throughout a run whose choices are allowed, the pool stays filed, and no
key loses its value. -/
theorem FiledPool.reaches (hP : A.FiledPool Belongs F P)
    (hrun : Pool.Reaches (fun _ => h) (fun _ _ c => Ok c) P Q) :
    A.FiledPool Belongs F Q ∧ Persists (get P.state) (get Q.state) := by
  apply Pool.reaches_invariant hrun
  · exact ⟨hP, Persists.refl _⟩
  · rintro R i c hc ⟨hR, hpersists⟩
    exact ⟨hR.step hc, hpersists.trans (persists_poolStep A R hc)⟩

/-- Where keys determine their values, nothing that is stored is lost. -/
theorem FiledPool.grows (hP : A.FiledPool Belongs F P)
    (hdet : Determines Belongs)
    (hrun : Pool.Reaches (fun _ => h) (fun _ _ c => Ok c) P Q) :
    Grows (get P.state) (get Q.state) := by
  obtain ⟨hQ, hpersists⟩ := hP.reaches hrun
  exact grows_of_persists hdet hP.store hQ.store hpersists

omit [DecidableEq ι] in
/-- A program that has returned ends with `F` in what it has seen. -/
theorem FiledPool.returned (hP : A.FiledPool Belongs F P) {i : ι} {a : α}
    (ht : P.task i = .ret a) :
    ∃ seen, SeenIn Belongs (get P.state) seen ∧ F i seen a := by
  obtain ⟨seen, hseen, hconforms⟩ := hP.tasks i
  rw [ht] at hconforms
  exact ⟨seen, hseen, hconforms⟩

end StoreAccess

end Effect
