import Mathlib.Logic.Function.Basic
import Mathlib.Logic.Relation

/-!
# Programs over an effect signature

A program is a tree of calls: each call names an operation and continues with
the answer it receives.  The same tree is read in two ways.  Run alone, a
program performs its calls one after another against a state, the environment
choosing the outcome of each call; triples state what holds after every such
run.  Run in a pool, the calls of several
programs over one shared state are interleaved by an arbitrary schedule, one
call being one atomic step.

Invariants of interleaved runs are proved by looking at one step, under
whatever legality condition the schedule is assumed to respect.
-/

namespace Effect

variable {Op : Type} {Ans : Op → Type} {α β χ σ ι : Type}

/-- A program that calls operations of the signature `(Op, Ans)` and finally
returns a value of type `α`. -/
inductive Program (Op : Type) (Ans : Op → Type) (α : Type) : Type
  | ret (a : α) : Program Op Ans α
  | call (op : Op) (k : Ans op → Program Op Ans α) : Program Op Ans α

namespace Program

/-- Continue with `f` wherever the program returns. -/
def bind : Program Op Ans α → (α → Program Op Ans β) → Program Op Ans β
  | .ret a, f => f a
  | .call op k, f => .call op fun ans => (k ans).bind f

instance : Monad (Program Op Ans) where
  pure := .ret
  bind := bind

/-- The value that a program has returned. -/
def result? : Program Op Ans α → Option α
  | .ret a => some a
  | .call _ _ => none

theorem eq_ret_of_result? {p : Program Op Ans α} {a : α}
    (h : p.result? = some a) : p = .ret a := by
  cases p with
  | ret b => rw [Option.some.inj h]
  | call op k => cases h

/-- The program that performs one operation and returns its answer. -/
def perform (op : Op) : Program Op Ans (Ans op) :=
  .call op .ret

@[simp] theorem pure_eq_ret (a : α) :
    (pure a : Program Op Ans α) = .ret a := rfl

@[simp] theorem ret_bind (a : α) (f : α → Program Op Ans β) :
    (Program.ret a : Program Op Ans α) >>= f = f a := rfl

@[simp] theorem call_bind
    (op : Op) (k : Ans op → Program Op Ans α) (f : α → Program Op Ans β) :
    Program.call op k >>= f = .call op fun ans => k ans >>= f := rfl

@[simp] theorem perform_bind
    (op : Op) (f : Ans op → Program Op Ans β) :
    perform op >>= f = .call op f := rfl

theorem bind_assoc (p : Program Op Ans α) (f : α → Program Op Ans β)
    {γ : Type} (g : β → Program Op Ans γ) :
    p >>= f >>= g = p >>= fun a => f a >>= g := by
  induction p with
  | ret a => rfl
  | call op k ih => exact congrArg (Program.call op) (funext ih)

end Program

/-- A handler answers one operation in a state.  The choice of type `χ` is
the environment's: which of the possible outcomes happens. -/
abbrev Handler (Op : Type) (Ans : Op → Type) (χ σ : Type) :=
  χ → σ → (op : Op) → Ans op × σ

/-! ## Sequential runs -/

/-- Run a program to its end.  The environment's choices are consumed one for
each call, and the default choice is made when they are used up. -/
def Program.run [Inhabited χ] (h : Handler Op Ans χ σ) :
    Program Op Ans α → List χ × σ → α × (List χ × σ)
  | .ret a, s => (a, s)
  | .call op k, s =>
      let r := h (s.1.headD default) s.2 op
      (k r.1).run h (s.1.tail, r.2)

@[simp] theorem Program.run_ret [Inhabited χ]
    (h : Handler Op Ans χ σ) (a : α) (s : List χ × σ) :
    (Program.ret a : Program Op Ans α).run h s = (a, s) := rfl

@[simp] theorem Program.run_call [Inhabited χ]
    (h : Handler Op Ans χ σ) (op : Op)
    (k : Ans op → Program Op Ans α) (s : List χ × σ) :
    (Program.call op k).run h s =
      (k (h (s.1.headD default) s.2 op).1).run h
        (s.1.tail, (h (s.1.headD default) s.2 op).2) := rfl

theorem Program.run_bind [Inhabited χ]
    (h : Handler Op Ans χ σ) (p : Program Op Ans α)
    (f : α → Program Op Ans β) (s : List χ × σ) :
    (p >>= f).run h s = (f (p.run h s).1).run h (p.run h s).2 := by
  induction p generalizing s with
  | ret a => rfl
  | call op k ih => exact ih _ _

/-- The choices left over after a run are among those supplied. -/
theorem Program.run_choices_subset [Inhabited χ]
    (h : Handler Op Ans χ σ) (p : Program Op Ans α) (s : List χ × σ) :
    (p.run h s).2.1 ⊆ s.1 := by
  induction p generalizing s with
  | ret a => exact List.Subset.refl _
  | call op k ih =>
      exact fun c hc => List.mem_of_mem_tail (ih _ _ hc)

/-! ## Triples

A triple speaks about every run whose environment keeps to the choices
allowed by `Ok`. -/

/-- From every state with `P`, whatever allowed choices the environment makes,
the run of `p` ends in a result and a state with `Q`. -/
def Program.Triple [Inhabited χ] (h : Handler Op Ans χ σ) (Ok : χ → Prop)
    (P : σ → Prop) (p : Program Op Ans α) (Q : α → σ → Prop) : Prop :=
  ∀ cs s, (∀ c ∈ cs, Ok c) → P s →
    Q (p.run h (cs, s)).1 (p.run h (cs, s)).2.2

namespace Program.Triple

variable [Inhabited χ] {h : Handler Op Ans χ σ} {Ok : χ → Prop}
  {P P' : σ → Prop} {Q : β → σ → Prop} {R R' : α → σ → Prop}

theorem ret {a : α} (hP : ∀ s, P s → R a s) :
    Triple h Ok P (Program.ret a : Program Op Ans α) R :=
  fun _ s _ hs => hP s hs

/-- A single operation: look at each allowed outcome. -/
theorem perform (op : Op) {R : Ans op → σ → Prop} (hdefault : Ok default)
    (hP : ∀ c s, Ok c → P s → R (h c s op).1 (h c s op).2) :
    Triple h Ok P (Program.perform op) R := by
  intro cs s hcs hs
  cases cs with
  | nil => exact hP default s hdefault hs
  | cons c cs => exact hP c s (hcs c (List.mem_cons_self ..)) hs

/-- Sequencing: the postcondition of the first program is the precondition of
the second. -/
theorem bind {p : Program Op Ans α} {f : α → Program Op Ans β}
    (hp : Triple h Ok P p R) (hf : ∀ a, Triple h Ok (R a) (f a) Q) :
    Triple h Ok P (p >>= f) Q := by
  intro cs s hcs hs
  rw [Program.run_bind]
  have hleft : ∀ c ∈ (p.run h (cs, s)).2.1, Ok c := fun c hc =>
    hcs c (Program.run_choices_subset h p (cs, s) hc)
  exact hf _ _ _ hleft (hp cs s hcs hs)

theorem weaken {p : Program Op Ans α} (hp : Triple h Ok P p R)
    (hP : ∀ s, P' s → P s) (hR : ∀ a s, R a s → R' a s) :
    Triple h Ok P' p R' :=
  fun cs s hcs hs => hR _ _ (hp cs s hcs (hP s hs))

end Program.Triple

/-! ## Protocols of calls

A protocol speaks about each call as it is made, so it applies to a program
that has not finished and to a program that runs among others. -/

/-- In a local state of type `Λ`, which operations may be called, and how the
answer to a call changes the local state. -/
structure Protocol (Op : Type) (Ans : Op → Type) (Λ : Type) where
  may : Λ → Op → Prop
  next : Λ → (op : Op) → Ans op → Λ

/-- From local state `l`, whatever is answered, `p` calls only what the
protocol allows, and returns a value and ends in a local state with `F`. -/
def Program.Conforms {Λ : Type} (N : Protocol Op Ans Λ) (F : Λ → α → Prop) :
    Λ → Program Op Ans α → Prop
  | l, .ret a => F l a
  | l, .call op k => N.may l op ∧ ∀ ans, Conforms N F (N.next l op ans) (k ans)

namespace Program.Conforms

variable {Λ : Type} {N : Protocol Op Ans Λ} {F : Λ → β → Prop}
  {G G' : Λ → α → Prop} {l : Λ}

theorem perform (op : Op) {F : Λ → Ans op → Prop} (hmay : N.may l op)
    (hF : ∀ ans, F (N.next l op ans) ans) :
    Conforms N F l (Program.perform op) :=
  ⟨hmay, hF⟩

theorem bind {p : Program Op Ans α} {f : α → Program Op Ans β}
    (hp : Conforms N G l p)
    (hf : ∀ l' a, G l' a → Conforms N F l' (f a)) :
    Conforms N F l (p >>= f) := by
  induction p generalizing l with
  | ret a => exact hf l a hp
  | call op k ih => exact ⟨hp.1, fun ans => ih ans (hp.2 ans)⟩

theorem weaken {p : Program Op Ans α} (hp : Conforms N G l p)
    (hG : ∀ l' a, G l' a → G' l' a) : Conforms N G' l p := by
  induction p generalizing l with
  | ret a => exact hG l a hp
  | call op k ih => exact ⟨hp.1, fun ans => ih ans (hp.2 ans)⟩

/-- A program keeps to a protocol that allows whatever another one does that it
keeps to. -/
theorem allow {Λ' : Type} {N' : Protocol Op Ans Λ'} {l' : Λ'}
    {p : Program Op Ans α} (hp : Conforms N G l p)
    (hmay : ∀ l l' op, N.may l op → N'.may l' op) :
    Conforms N' (fun _ a => ∃ l, G l a) l' p := by
  induction p generalizing l l' with
  | ret a => exact ⟨l, hp⟩
  | call op k ih => exact ⟨hmay l l' op hp.1, fun ans => ih ans (hp.2 ans)⟩

/-- In a sequential run, a relation between local state and shared state that
every allowed call keeps holds at the end. -/
theorem run [Inhabited χ] {h : Handler Op Ans χ σ} {J : Λ → σ → Prop}
    {p : Program Op Ans α} (hp : Conforms N G l p)
    (hstep : ∀ l s op c, N.may l op → J l s →
      J (N.next l op (h c s op).1) (h c s op).2)
    {cs : List χ} {s : σ} (hJ : J l s) :
    ∃ l', J l' (p.run h (cs, s)).2.2 ∧ G l' (p.run h (cs, s)).1 := by
  induction p generalizing l cs s with
  | ret a => exact ⟨l, hJ, hp⟩
  | call op k ih => exact ih _ (hp.2 _) (hstep l s op _ hp.1 hJ)

/-- Two sequential runs under the same choices: a relation between their states
that every allowed call keeps, with the same answer on both sides, holds at the
end, and the results are the same. -/
theorem run_related [Inhabited χ] {h : Handler Op Ans χ σ}
    {R : σ → σ → Prop} {p : Program Op Ans α} (hp : Conforms N G l p)
    (hstep : ∀ l op c s s', N.may l op → R s s' →
      (h c s op).1 = (h c s' op).1 ∧ R (h c s op).2 (h c s' op).2)
    {cs : List χ} {s s' : σ} (hR : R s s') :
    (p.run h (cs, s)).1 = (p.run h (cs, s')).1 ∧
      R (p.run h (cs, s)).2.2 (p.run h (cs, s')).2.2 := by
  induction p generalizing l cs s s' with
  | ret a => exact ⟨rfl, hR⟩
  | call op k ih =>
      obtain ⟨hans, hnext⟩ :=
        hstep l op (cs.headD default) s s' hp.1 hR
      rw [Program.run_call, Program.run_call, hans]
      exact ih _ (hp.2 _) hnext

end Program.Conforms

/-! ## Interleaved runs -/

/-- Programs running concurrently, one for each task, over a shared state. -/
structure Pool (Op : Type) (Ans : Op → Type) (α σ ι : Type) where
  state : σ
  task : ι → Program Op Ans α

namespace Pool

variable [DecidableEq ι]

/-- Task `i` performs its next call as one atomic step.  A task that has
returned stays as it is. -/
def step (h : ι → Handler Op Ans χ σ)
    (P : Pool Op Ans α σ ι) (i : ι) (c : χ) : Pool Op Ans α σ ι :=
  match P.task i with
  | .ret _ => P
  | .call op k =>
      let r := h i c P.state op
      { state := r.2, task := Function.update P.task i (k r.1) }

theorem step_ret {h : ι → Handler Op Ans χ σ}
    {P : Pool Op Ans α σ ι} {i : ι} {a : α}
    (ht : P.task i = .ret a) (c : χ) :
    P.step h i c = P := by
  simp [step, ht]

theorem step_call {h : ι → Handler Op Ans χ σ}
    {P : Pool Op Ans α σ ι} {i : ι} {op : Op}
    {k : Ans op → Program Op Ans α}
    (ht : P.task i = .call op k) (c : χ) :
    P.step h i c =
      { state := (h i c P.state op).2,
        task := Function.update P.task i (k (h i c P.state op).1) } := by
  simp [step, ht]

/-- Perform the steps of a schedule in order. -/
def runSchedule (h : ι → Handler Op Ans χ σ)
    (P : Pool Op Ans α σ ι) (schedule : List (ι × χ)) : Pool Op Ans α σ ι :=
  schedule.foldl (fun Q e => Q.step h e.1 e.2) P

/-- `Q` is reached from `P` by steps that are all legal. -/
def Reaches (h : ι → Handler Op Ans χ σ)
    (Legal : Pool Op Ans α σ ι → ι → χ → Prop) :
    Pool Op Ans α σ ι → Pool Op Ans α σ ι → Prop :=
  Relation.ReflTransGen fun P Q => ∃ i c, Legal P i c ∧ Q = P.step h i c

/-- Every step of a schedule is legal where it is made. -/
def LegalSchedule (h : ι → Handler Op Ans χ σ)
    (Legal : Pool Op Ans α σ ι → ι → χ → Prop) :
    Pool Op Ans α σ ι → List (ι × χ) → Prop
  | _, [] => True
  | P, e :: rest =>
      Legal P e.1 e.2 ∧ LegalSchedule h Legal (P.step h e.1 e.2) rest

instance LegalSchedule.decidable (h : ι → Handler Op Ans χ σ)
    (Legal : Pool Op Ans α σ ι → ι → χ → Prop)
    [∀ P i c, Decidable (Legal P i c)] :
    ∀ (P : Pool Op Ans α σ ι) (schedule : List (ι × χ)),
      Decidable (LegalSchedule h Legal P schedule)
  | _, [] => inferInstanceAs (Decidable True)
  | P, e :: rest =>
      have := decidable h Legal (P.step h e.1 e.2) rest
      inferInstanceAs (Decidable (_ ∧ _))

/-- A legal schedule is a legal run. -/
theorem LegalSchedule.reaches {h : ι → Handler Op Ans χ σ}
    {Legal : Pool Op Ans α σ ι → ι → χ → Prop} {schedule : List (ι × χ)}
    {P : Pool Op Ans α σ ι} (hlegal : LegalSchedule h Legal P schedule) :
    Reaches h Legal P (P.runSchedule h schedule) := by
  induction schedule generalizing P with
  | nil => exact .refl
  | cons e rest ih => exact .head ⟨e.1, e.2, hlegal.1, rfl⟩ (ih hlegal.2)

/-- A schedule whose steps are legal in every pool is a legal run. -/
theorem reaches_runSchedule {h : ι → Handler Op Ans χ σ}
    {Legal : Pool Op Ans α σ ι → ι → χ → Prop} {schedule : List (ι × χ)}
    (hlegal : ∀ e ∈ schedule, ∀ Q, Legal Q e.1 e.2)
    (P : Pool Op Ans α σ ι) :
    Reaches h Legal P (P.runSchedule h schedule) := by
  apply LegalSchedule.reaches
  induction schedule generalizing P with
  | nil => trivial
  | cons e rest ih =>
      exact ⟨hlegal e (List.mem_cons_self ..) P,
        ih (fun e' he' => hlegal e' (List.mem_cons_of_mem _ he')) _⟩

/-- An invariant kept by every legal step holds throughout a legal run. -/
theorem reaches_invariant {h : ι → Handler Op Ans χ σ}
    {Legal : Pool Op Ans α σ ι → ι → χ → Prop}
    {Inv : Pool Op Ans α σ ι → Prop} {P Q : Pool Op Ans α σ ι}
    (hrun : Reaches h Legal P Q) (hP : Inv P)
    (hstep : ∀ R i c, Legal R i c → Inv R → Inv (R.step h i c)) :
    Inv Q := by
  induction hrun with
  | refl => exact hP
  | tail _ hlast ih =>
      obtain ⟨i, c, hlegal, rfl⟩ := hlast
      exact hstep _ i c hlegal ih

/-! ### Local states of the tasks -/

section Track

variable {Λ : Type}

/-- Keep the local state of every task next to the shared state. -/
def track (N : ι → Protocol Op Ans Λ) (h : Handler Op Ans χ σ) :
    ι → Handler Op Ans χ (σ × (ι → Λ)) :=
  fun i c s op =>
    let r := h c s.1 op
    (r.1, r.2, Function.update s.2 i ((N i).next (s.2 i) op r.1))

/-- Every task keeps to its protocol. -/
def Conforms (N : ι → Protocol Op Ans Λ) (F : ι → Λ → α → Prop)
    (P : Pool Op Ans α (σ × (ι → Λ)) ι) : Prop :=
  ∀ i, (P.task i).Conforms (N i) (F i) (P.state.2 i)

theorem Conforms.step {N : ι → Protocol Op Ans Λ} {F : ι → Λ → α → Prop}
    {h : Handler Op Ans χ σ} {P : Pool Op Ans α (σ × (ι → Λ)) ι}
    (hP : P.Conforms N F) (i : ι) (c : χ) :
    (P.step (track N h) i c).Conforms N F := by
  cases ht : P.task i with
  | ret a => rwa [step_ret ht]
  | call op k =>
      have hi := hP i
      rw [ht] at hi
      rw [step_call ht]
      intro j
      by_cases hj : j = i
      · subst hj
        simpa [track] using hi.2 _
      · simpa [track, hj] using hP j

end Track

end Pool

end Effect
