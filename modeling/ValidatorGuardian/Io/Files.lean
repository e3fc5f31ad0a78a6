import ValidatorGuardian.Basic
import ValidatorGuardian.Support.Json
import ValidatorGuardian.Support.Program

/-!
# The files of an enclave

An enclave keeps its state in three directories of files addressed by name.
Code reads a file, creates a directory, and writes a file; each may fail, and a
failed write leaves the old file or a beginning of the new one.  Code that uses
files is a program over these operations that returns a value, fails with an
error, or panics.
-/

namespace ValidatorGuardian

open Effect

/-- `BLS_KEYS_DIR`, `ETH_KEYS_DIR` and `SLASHING_PROTECTION_DIR`. -/
inductive Dir where
  | blsKeys
  | ethKeys
  | slashing
deriving DecidableEq

/-- What a file holds: text, a JSON document, the text of a document that goes
wrong after `doc` has been read, or nothing readable. -/
inductive Contents where
  | text (s : Str)
  | json (doc : Json.Value)
  | malformed (doc : Json.Value)
  | garbage

/-- What is left of a file when its write breaks off: at most `n` characters of
the text, and never all of it.  The beginning of a document cannot be read. -/
def Contents.tornAt (n : ℕ) : Contents → Contents
  | .text s => .text (s.dropLast.take n)
  | _ => .garbage

/-- Contents with `F`; or, if writes may be torn, what is left of such. -/
def OrTorn (torn : Prop) (F : Contents → Prop) (c : Contents) : Prop :=
  F c ∨ torn ∧ ∃ c' n, F c' ∧ c = c'.tornAt n

theorem OrTorn.of_not {torn : Prop} {F : Contents → Prop} {c : Contents}
    (h : OrTorn torn F c) (hatomic : ¬ torn) : F c :=
  h.resolve_right fun h => hatomic h.1

theorem OrTorn.tornAt {torn : Prop} {F : Contents → Prop} {c : Contents}
    (ht : torn) (h : F c) (n : ℕ) : OrTorn torn F (c.tornAt n) :=
  .inr ⟨ht, c, n, h, rfl⟩

/-- The files that exist, by directory and exact name. -/
abbrev Disk := Dir → Str → Option Contents

def Disk.empty : Disk := fun _ _ => none

/-- Create or replace one file. -/
def Disk.set (D : Disk) (dir : Dir) (name : Str) (c : Contents) : Disk :=
  fun d n => if d = dir ∧ n = name then some c else D d n

@[simp] theorem Disk.set_same
    (D : Disk) (dir : Dir) (name : Str) (c : Contents) :
    D.set dir name c dir name = some c := by
  simp [Disk.set]

theorem Disk.set_of_ne {D : Disk} {dir d : Dir} {name n : Str}
    {c : Contents} (h : ¬ (d = dir ∧ n = name)) :
    D.set dir name c d n = D d n := by
  simp [Disk.set, h]

/-- The file a write is about, or one of the others. -/
theorem Disk.set_cases {D : Disk} {dir d : Dir} {name n : Str}
    {c c' : Contents} (h : D.set dir name c d n = some c') :
    (d = dir ∧ n = name ∧ c' = c) ∨ D d n = some c' := by
  by_cases hfile : d = dir ∧ n = name
  · obtain ⟨rfl, rfl⟩ := hfile
    exact .inl ⟨rfl, rfl, by simpa using h.symm⟩
  · exact .inr (by rwa [Disk.set_of_ne hfile] at h)

/-- `fs::read`, `fs::create_dir_all` and `fs::write`. -/
inductive FsOp where
  | read (dir : Dir) (name : Str)
  | createDir (dir : Dir)
  | write (dir : Dir) (name : Str) (c : Contents)

/-- A read answers the contents, or nothing; the others answer whether they
succeeded. -/
def FsOp.Ans : FsOp → Type
  | .read _ _ => Option Contents
  | .createDir _ => Bool
  | .write _ _ _ => Bool

/-- What may happen to one operation; a torn write breaks off. -/
inductive Fault where
  | none
  | fails
  | torn (n : ℕ)
deriving DecidableEq

def Fault.tears : Fault → Bool
  | .torn _ => true
  | _ => false

/-- A fault that is allowed when writes may be torn. -/
def TearsOnly (torn : Prop) (f : Fault) : Prop := f.tears → torn

theorem tearsOnly_false {f : Fault} :
    TearsOnly False f ↔ f.tears = false := by
  simp [TearsOnly]

instance : Inhabited Fault := ⟨.none⟩

/-- Perform one operation under one fault. -/
def fsHandler : Handler FsOp FsOp.Ans Fault Disk
  | .none, D, .read dir name => (D dir name, D)
  | _, D, .read _ _ => (Option.none, D)
  | .none, D, .createDir _ => (true, D)
  | _, D, .createDir _ => (false, D)
  | .none, D, .write dir name c => (true, D.set dir name c)
  | .fails, D, .write _ _ _ => (false, D)
  | .torn n, D, .write dir name c => (false, D.set dir name (c.tornAt n))

/-- Code that works on files. -/
abbrev Enclave (α : Type) := ExceptT Failure (Program FsOp FsOp.Ans) α

/-- The faults still to come, and the files. -/
abbrev World := List Fault × Disk

variable {α β : Type}

/-- Run to the end. -/
def exec (x : Enclave α) (w : World) : Outcome α × World :=
  Program.run fsHandler x.run w

/-- Read one file. -/
def readFile (dir : Dir) (name : Str) : Enclave Contents :=
  ExceptT.mk (.call (.read dir name) fun ans => .ret (Outcome.okOr .io ans))

/-- What an operation without an answer reports. -/
def ioResult : Bool → Outcome Unit
  | true => .ok ()
  | false => .error (.err .io)

/-- Create a directory if it does not exist. -/
def createDirAll (dir : Dir) : Enclave Unit :=
  ExceptT.mk (.call (.createDir dir) fun ok => .ret (ioResult ok))

/-- Write one file. -/
def writeFile (dir : Dir) (name : Str) (c : Contents) : Enclave Unit :=
  ExceptT.mk (.call (.write dir name c) fun ok => .ret (ioResult ok))

/-- `with_context` on code that works on files. -/
def withContext (s : String) (x : Enclave α) : Enclave α :=
  ExceptT.mk (x.run >>= fun r => .ret (Outcome.withContext s r))

/-- `match` on the result of a call: an error is handed to the caller, a panic
is not. -/
def attempt (x : Enclave α) : Enclave (Except Error α) :=
  ExceptT.mk (x.run >>= fun r => .ret (match r with
    | .ok a => .ok (.ok a)
    | .error (.err e) => .ok (.error e)
    | .error .panic => .error .panic))

/-- Create the directory, then write the file, with a message for either
failure. -/
def writeFileIn (dirMsg fileMsg : String) (dir : Dir) (name : Str)
    (c : Contents) : Enclave Unit := do
  withContext dirMsg (createDirAll dir)
  withContext fileMsg (writeFile dir name c)

/-! ## Running the combinators -/

@[simp] theorem exec_pure (a : α) (w : World) :
    exec (pure a) w = (.ok a, w) := rfl

@[simp] theorem exec_monadLift (r : Outcome α) (w : World) :
    exec (monadLift r) w = (r, w) := rfl

@[simp] theorem exec_liftM (r : Outcome α) (w : World) :
    exec (liftM r) w = (r, w) := rfl

theorem exec_bind (x : Enclave α) (f : α → Enclave β) (w : World) :
    exec (x >>= f) w =
      match exec x w with
      | (.ok a, w') => exec (f a) w'
      | (.error e, w') => (.error e, w') := by
  simp only [exec, ExceptT.run_bind, Program.run_bind]
  rcases hx : Program.run fsHandler x.run w with ⟨r, w'⟩
  cases r <;> rfl

theorem exec_bind_of_ok {x : Enclave α} {f : α → Enclave β}
    {w w' : World} {a : α} (hx : exec x w = (.ok a, w')) :
    exec (x >>= f) w = exec (f a) w' := by
  rw [exec_bind, hx]

theorem exec_bind_of_error {x : Enclave α} {f : α → Enclave β}
    {w w' : World} {e : Failure} (hx : exec x w = (.error e, w')) :
    exec (x >>= f) w = (.error e, w') := by
  rw [exec_bind, hx]

/-- A sequence returns a value exactly when both of its parts do. -/
theorem exec_bind_eq_ok {x : Enclave α} {f : α → Enclave β}
    {w : World} {b : β} :
    (exec (x >>= f) w).1 = .ok b ↔
      ∃ a w', exec x w = (.ok a, w') ∧ (exec (f a) w').1 = .ok b := by
  rw [exec_bind]
  rcases exec x w with ⟨r, w'⟩
  cases r with
  | error e => simp
  | ok a =>
      constructor
      · intro h
        exact ⟨a, w', rfl, h⟩
      · rintro ⟨a', w₁, heq, h⟩
        cases heq
        exact h

theorem exec_withContext (s : String) (x : Enclave α) (w : World) :
    exec (withContext s x) w =
      (Outcome.withContext s (exec x w).1, (exec x w).2) := by
  simp only [exec, withContext, ExceptT.run_mk, Program.run_bind,
    Program.run_ret]

theorem exec_withContext_eq_ok {s : String} {x : Enclave α}
    {w w' : World} {a : α} :
    exec (withContext s x) w = (.ok a, w') ↔ exec x w = (.ok a, w') := by
  rw [exec_withContext]
  simp only [Prod.ext_iff, Outcome.withContext_eq_ok]

theorem exec_attempt_of_ok {x : Enclave α} {w w' : World} {a : α}
    (hx : exec x w = (.ok a, w')) :
    exec (attempt x) w = (.ok (.ok a), w') := by
  simp only [exec, attempt, ExceptT.run_mk, Program.run_bind,
    Program.run_ret] at hx ⊢
  rw [hx]

theorem exec_attempt_of_err {x : Enclave α} {w w' : World} {e : Error}
    (hx : exec x w = (.error (.err e), w')) :
    exec (attempt x) w = (.ok (.error e), w') := by
  simp only [exec, attempt, ExceptT.run_mk, Program.run_bind,
    Program.run_ret] at hx ⊢
  rw [hx]

theorem exec_attempt_of_panic {x : Enclave α} {w w' : World}
    (hx : exec x w = (.error .panic, w')) :
    exec (attempt x) w = (.error .panic, w') := by
  simp only [exec, attempt, ExceptT.run_mk, Program.run_bind,
    Program.run_ret] at hx ⊢
  rw [hx]

theorem exec_writeFileIn_nil {dirMsg fileMsg : String} {D : Disk}
    {dir : Dir} {name : Str} {c : Contents} :
    exec (writeFileIn dirMsg fileMsg dir name c) ([], D) =
      (.ok (), ([], D.set dir name c)) := by
  rw [writeFileIn, exec_bind, exec_withContext]
  have hdir : exec (createDirAll dir) ([], D) = (.ok (), ([], D)) := rfl
  have hfile : exec (writeFile dir name c) ([], D) =
      (.ok (), ([], D.set dir name c)) := rfl
  simp only [hdir, Outcome.withContext_ok, exec_withContext, hfile]

/-! Steps without files may be grouped. -/

namespace Enclave

theorem liftM_ok_bind (a : α) (f : α → Enclave β) :
    (liftM (.ok a : Outcome α) >>= f) = f a := rfl

theorem liftM_bind (r : Outcome α) (f : α → Outcome β) :
    (liftM (r >>= f) : Enclave β) = liftM r >>= fun a => liftM (f a) := by
  cases r with
  | ok a => rfl
  | error e => rfl

theorem liftM_bind_bind {γ : Type} (r : Outcome α) (f : α → Outcome β)
    (g : β → Enclave γ) :
    (liftM (r >>= f) >>= g) = liftM r >>= fun a => liftM (f a) >>= g := by
  cases r with
  | ok a => rfl
  | error e => rfl

end Enclave

/-! ## Code that returns a value -/

def Returns (x : Enclave α) (w : World) : Prop :=
  ∃ a, (exec x w).1 = .ok a

namespace Returns

variable {w w' : World} {a : α}

theorem pure : Returns (Pure.pure a : Enclave α) w := ⟨a, rfl⟩

theorem bind {x : Enclave α} {f : α → Enclave β}
    (hx : exec x w = (.ok a, w')) (hf : Returns (f a) w') :
    Returns (x >>= f) w := by
  rw [Returns, exec_bind_of_ok hx]
  exact hf

theorem bindLift {r : Outcome α} {f : α → Enclave β} (hr : r = .ok a)
    (hf : Returns (f a) w) : Returns (liftM r >>= f) w := by
  subst hr
  exact bind (exec_liftM _ _) hf

theorem lift {r : Outcome α} (hr : r = .ok a) :
    Returns (liftM r : Enclave α) w :=
  ⟨a, by rw [exec_liftM, hr]⟩

end Returns

/-! ## Triples for code that works on files -/

/-- From every disk with `P`, whatever allowed faults occur, `x` ends with a
result and a disk with `Q`. -/
def Triple (Ok : Fault → Prop) (P : Disk → Prop) (x : Enclave α)
    (Q : Outcome α → Disk → Prop) : Prop :=
  Program.Triple fsHandler Ok P x.run Q

namespace Triple

variable {Ok : Fault → Prop} {P P' : Disk → Prop}
  {Q Q' : Outcome α → Disk → Prop} {R : Outcome β → Disk → Prop}

theorem exec_spec {x : Enclave α} (h : Triple Ok P x Q)
    {faults : List Fault} {D : Disk} (hfaults : ∀ f ∈ faults, Ok f)
    (hD : P D) :
    Q (exec x (faults, D)).1 (exec x (faults, D)).2.2 :=
  h faults D hfaults hD

theorem weaken {x : Enclave α} (h : Triple Ok P x Q)
    (hP : ∀ D, P' D → P D) (hQ : ∀ r D, Q r D → Q' r D) :
    Triple Ok P' x Q' :=
  Program.Triple.weaken h hP hQ

/-- What holds apart from the disk may be assumed. -/
theorem assume {p : Prop} {x : Enclave α} (h : p → Triple Ok P x Q) :
    Triple Ok (fun D => P D ∧ p) x Q :=
  fun faults D hfaults hD => h hD.2 faults D hfaults hD.1

theorem lift {r : Outcome α} (h : ∀ D, P D → Q r D) :
    Triple Ok P (monadLift r) Q :=
  Program.Triple.ret h

theorem pure {a : α} (h : ∀ D, P D → Q (.ok a) D) :
    Triple Ok P (Pure.pure a) Q :=
  Program.Triple.ret h

/-- Sequencing: a failure of the first part is a failure of the whole. -/
theorem bind {x : Enclave α} {f : α → Enclave β}
    (hx : Triple Ok P x Q)
    (hf : ∀ a, Triple Ok (Q (.ok a)) (f a) R)
    (herr : ∀ e D, Q (.error e) D → R (.error e) D) :
    Triple Ok P (x >>= f) R := by
  unfold Triple
  rw [ExceptT.run_bind]
  refine Program.Triple.bind hx ?_
  intro r
  cases r with
  | ok a => exact hf a
  | error e => exact Program.Triple.ret (herr e)

/-- A step without files. -/
theorem bindLift {r : Outcome α} {f : α → Enclave β}
    (hf : ∀ a, r = .ok a → Triple Ok P (f a) R)
    (herr : ∀ e D, r = .error e → P D → R (.error e) D) :
    Triple Ok P (liftM r >>= f) R := by
  refine Triple.bind (Q := fun r' D => P D ∧ r = r')
    (Triple.lift fun D hD => ⟨hD, rfl⟩) ?_ fun e D hD => herr e D hD.2 hD.1
  intro a faults D hfaults hD
  exact hf a hD.2 faults D hfaults hD.1

theorem withContext {s : String} {x : Enclave α} (hx : Triple Ok P x Q)
    (hQ : ∀ r D, Q r D → Q' (Outcome.withContext s r) D) :
    Triple Ok P (ValidatorGuardian.withContext s x) Q' :=
  Program.Triple.bind hx fun _ => Program.Triple.ret (hQ _)

/-- A step that reports success or failure and leaves the files alone. -/
theorem createDirAll {dir : Dir} {Q : Outcome Unit → Disk → Prop}
    (hdefault : Ok default)
    (hok : ∀ D, P D → Q (.ok ()) D)
    (herr : ∀ D, P D → Q (.error (.err .io)) D) :
    Triple Ok P (ValidatorGuardian.createDirAll dir) Q := by
  refine Program.Triple.bind
    (Program.Triple.perform (FsOp.createDir dir)
      (R := fun ans D => Q (ioResult ans) D)
      hdefault ?_) ?_
  · intro f D _ hD
    cases f with
    | none => exact hok D hD
    | fails => exact herr D hD
    | torn n => exact herr D hD
  · intro ans
    exact Program.Triple.ret fun D hD => hD

/-- A write replaces the file, or fails and leaves the old file, or fails and
leaves a beginning of the new one. -/
theorem writeFile {dir : Dir} {name : Str} {c : Contents}
    {Q : Outcome Unit → Disk → Prop} (hdefault : Ok default)
    (hok : ∀ D, P D → Q (.ok ()) (D.set dir name c))
    (hfails : ∀ D, P D → Q (.error (.err .io)) D)
    (htorn : ∀ n, Ok (.torn n) →
      ∀ D, P D → Q (.error (.err .io)) (D.set dir name (c.tornAt n))) :
    Triple Ok P (ValidatorGuardian.writeFile dir name c) Q := by
  refine Program.Triple.bind
    (Program.Triple.perform (FsOp.write dir name c)
      (R := fun ans D => Q (ioResult ans) D)
      hdefault ?_) ?_
  · intro f D hf hD
    cases f with
    | none => exact hok D hD
    | fails => exact hfails D hD
    | torn n => exact htorn n hf D hD
  · intro ans
    exact Program.Triple.ret fun D hD => hD

/-- The same for a write that creates the directory first: each failure is
reported with its own message. -/
theorem writeFileIn_reports {dirMsg fileMsg : String} {dir : Dir} {name : Str}
    {c : Contents} {Q : Outcome Unit → Disk → Prop} (hdefault : Ok default)
    (hok : ∀ D, P D → Q (.ok ()) (D.set dir name c))
    (hdir : ∀ D, P D → Q (.error (.err (.context dirMsg .io))) D)
    (hfails : ∀ D, P D → Q (.error (.err (.context fileMsg .io))) D)
    (htorn : ∀ n, Ok (.torn n) → ∀ D, P D →
      Q (.error (.err (.context fileMsg .io)))
        (D.set dir name (c.tornAt n))) :
    Triple Ok P
      (ValidatorGuardian.writeFileIn dirMsg fileMsg dir name c) Q := by
  refine Triple.bind (Q := fun r D => P D ∧ (r = .ok () ∨
    r = .error (.err (.context dirMsg .io)))) ?_ ?_ ?_
  · refine Triple.withContext
      (Triple.createDirAll (Q := fun r D => P D ∧ (r = .ok () ∨
        r = .error (.err .io))) hdefault ?_ ?_) ?_
    · exact fun D hD => ⟨hD, .inl rfl⟩
    · exact fun D hD => ⟨hD, .inr rfl⟩
    · rintro r D ⟨hD, rfl | rfl⟩
      · exact ⟨hD, .inl rfl⟩
      · exact ⟨hD, .inr rfl⟩
  · intro _
    refine Triple.withContext
      (Triple.writeFile
        (Q := fun r D => Q (Outcome.withContext fileMsg r) D)
        hdefault ?_ ?_ ?_)
      (fun _ _ hD => hD)
    · exact fun D hD => hok D hD.1
    · exact fun D hD => hfails D hD.1
    · exact fun n ht D hD => htorn n ht D hD.1
  · rintro e D ⟨hD, h | h⟩
    · cases h
    · rw [h]
      exact hdir D hD

/-- The same where the messages do not matter. -/
theorem writeFileIn {dirMsg fileMsg : String} {dir : Dir} {name : Str}
    {c : Contents} {Q : Outcome Unit → Disk → Prop} (hdefault : Ok default)
    (hok : ∀ D, P D → Q (.ok ()) (D.set dir name c))
    (hfails : ∀ e D, P D → Q (.error e) D)
    (htorn : ∀ n, Ok (.torn n) →
      ∀ e D, P D → Q (.error e) (D.set dir name (c.tornAt n))) :
    Triple Ok P
      (ValidatorGuardian.writeFileIn dirMsg fileMsg dir name c) Q :=
  writeFileIn_reports hdefault hok (hfails _) (hfails _)
    fun n ht => htorn n ht _

/-! Code without a panic is made of parts without one. -/

theorem bind_ne_panic {x : Enclave α} {f : α → Enclave β}
    (hx : Triple Ok P x fun r _ => r ≠ .error .panic)
    (hf : ∀ a, Triple Ok (fun _ => True) (f a)
      fun r _ => r ≠ .error .panic) :
    Triple Ok P (x >>= f) fun r _ => r ≠ .error .panic := by
  refine Triple.bind hx (fun a => ?_) fun e D h => by simpa using h
  exact (hf a).weaken (fun _ _ => trivial) fun _ _ h => h

theorem bindLift_ne_panic {r : Outcome α} {f : α → Enclave β}
    (hr : r ≠ .error .panic)
    (hf : ∀ a, r = .ok a → Triple Ok P (f a)
      fun r _ => r ≠ .error .panic) :
    Triple Ok P (liftM r >>= f) fun r _ => r ≠ .error .panic := by
  refine Triple.bindLift hf fun e _ he _ hpanic => hr ?_
  rw [he, Except.error.inj hpanic]

theorem withContext_ne_panic {s : String} {x : Enclave α}
    (hx : Triple Ok P x fun r _ => r ≠ .error .panic) :
    Triple Ok P (ValidatorGuardian.withContext s x)
      fun r _ => r ≠ .error .panic :=
  Triple.withContext hx fun _ _ => Outcome.withContext_ne_panic

/-- A file system that fails is an error, not a panic. -/
theorem writeFileIn_ne_panic {dirMsg fileMsg : String} {dir : Dir} {name : Str}
    {c : Contents} (hdefault : Ok default) :
    Triple Ok P (ValidatorGuardian.writeFileIn dirMsg fileMsg dir name c)
      fun r _ => r ≠ .error .panic := by
  refine Triple.bind_ne_panic (Triple.withContext_ne_panic ?_) fun _ =>
    Triple.withContext_ne_panic ?_
  · exact Triple.createDirAll hdefault (by simp) (by simp)
  · exact Triple.writeFile hdefault (by simp) (by simp) (by simp)

/-- An error that is caught is a value; a panic is not caught. -/
theorem attempt {x : Enclave α} {Q' : Outcome (Except Error α) → Disk → Prop}
    (hx : Triple Ok P x Q)
    (hok : ∀ a D, Q (.ok a) D → Q' (.ok (.ok a)) D)
    (herr : ∀ e D, Q (.error (.err e)) D → Q' (.ok (.error e)) D)
    (hpanic : ∀ D, Q (.error .panic) D → Q' (.error .panic) D) :
    Triple Ok P (ValidatorGuardian.attempt x) Q' := by
  refine Program.Triple.bind hx fun r => Program.Triple.ret ?_
  cases r with
  | ok a => exact hok a
  | error f =>
      cases f with
      | err e => exact herr e
      | panic => exact hpanic

end Triple

/-! ## Protocols for code that works on files -/

/-- From local state `l`, every operation of `x` is one that the protocol
allows, and `x` ends with `F`. -/
def Conforms {Λ : Type} (N : Protocol FsOp FsOp.Ans Λ)
    (F : Λ → Outcome α → Prop) (l : Λ) (x : Enclave α) : Prop :=
  Program.Conforms N F l x.run

namespace Conforms

variable {Λ : Type} {N : Protocol FsOp FsOp.Ans Λ} {l : Λ}
  {F F' : Λ → Outcome α → Prop} {G : Λ → Outcome β → Prop}

theorem weaken {x : Enclave α} (hx : Conforms N F l x)
    (hF : ∀ l' r, F l' r → F' l' r) : Conforms N F' l x :=
  Program.Conforms.weaken hx hF

theorem lift {r : Outcome α} (h : F l r) : Conforms N F l (liftM r) := h

theorem pure {a : α} (h : F l (.ok a)) : Conforms N F l (Pure.pure a) := h

theorem bind {x : Enclave α} {f : α → Enclave β} (hx : Conforms N F l x)
    (hf : ∀ l' a, F l' (.ok a) → Conforms N G l' (f a))
    (herr : ∀ l' e, F l' (.error e) → G l' (.error e)) :
    Conforms N G l (x >>= f) := by
  unfold Conforms
  rw [ExceptT.run_bind]
  refine Program.Conforms.bind hx ?_
  intro l' r
  cases r with
  | ok a => exact hf l' a
  | error e => exact herr l' e

/-- A step without files. -/
theorem bindLift {r : Outcome α} {f : α → Enclave β}
    (hf : ∀ a, r = .ok a → Conforms N G l (f a))
    (herr : ∀ e, r = .error e → G l (.error e)) :
    Conforms N G l (liftM r >>= f) := by
  cases r with
  | ok a => exact hf a rfl
  | error e => exact herr e rfl

theorem withContext {s : String} {x : Enclave α}
    (hx : Conforms N (fun l' r => F l' (Outcome.withContext s r)) l x) :
    Conforms N F l (ValidatorGuardian.withContext s x) :=
  Program.Conforms.bind hx fun _ _ h => h

theorem attempt {x : Enclave α} {F : Λ → Outcome (Except Error α) → Prop}
    (hx : Conforms N (fun l' r => F l' (match r with
      | .ok a => .ok (.ok a)
      | .error (.err e) => .ok (.error e)
      | .error .panic => .error .panic)) l x) :
    Conforms N F l (ValidatorGuardian.attempt x) :=
  Program.Conforms.bind hx fun _ _ h => h

/-- Go on with the value of a call, or with the error that it ended in. -/
theorem attemptBind {x : Enclave α} {f : Except Error α → Enclave β}
    (hx : Conforms N F l x)
    (hok : ∀ l' a, F l' (.ok a) → Conforms N G l' (f (.ok a)))
    (herr : ∀ l' e, F l' (.error (.err e)) → Conforms N G l' (f (.error e)))
    (hpanic : ∀ l', F l' (.error .panic) → G l' (.error .panic)) :
    Conforms N G l (ValidatorGuardian.attempt x >>= f) := by
  refine Conforms.bind (F := fun l' r =>
    (∀ a, r = .ok (.ok a) → F l' (.ok a)) ∧
    (∀ e, r = .ok (.error e) → F l' (.error (.err e))) ∧
    ∀ e, r = .error e → e = .panic ∧ F l' (.error .panic))
    (Conforms.attempt (hx.weaken ?_)) ?_ ?_
  · rintro l' (_ | _) h
    · next failure => cases failure <;> simpa using h
    · simpa using h
  · rintro l' (e | a) ⟨hvalue, herror, -⟩
    · exact herr l' e (herror e rfl)
    · exact hok l' a (hvalue a rfl)
  · rintro l' e ⟨-, -, hfail⟩
    obtain ⟨rfl, h⟩ := hfail e rfl
    exact hpanic l' h

theorem readFile {dir : Dir} {name : Str} {F : Λ → Outcome Contents → Prop}
    (hmay : N.may l (.read dir name))
    (hF : ∀ ans, F (N.next l (.read dir name) ans) (Outcome.okOr .io ans)) :
    Conforms N F l (ValidatorGuardian.readFile dir name) :=
  ⟨hmay, hF⟩

theorem createDirAll {dir : Dir} {F : Λ → Outcome Unit → Prop}
    (hmay : N.may l (.createDir dir))
    (hF : ∀ ans, F (N.next l (.createDir dir) ans) (ioResult ans)) :
    Conforms N F l (ValidatorGuardian.createDirAll dir) :=
  ⟨hmay, hF⟩

theorem writeFile {dir : Dir} {name : Str} {c : Contents}
    {F : Λ → Outcome Unit → Prop} (hmay : N.may l (.write dir name c))
    (hF : ∀ ans, F (N.next l (.write dir name c) ans) (ioResult ans)) :
    Conforms N F l (ValidatorGuardian.writeFile dir name c) :=
  ⟨hmay, hF⟩

end Conforms

/-! ## Code that only reads -/

/-- `x` looks up `g` on disk: without faults it ends as `g` does, whatever
faults occur it ends so or in an error, and it never changes a file. -/
structure Query (x : Enclave α) (g : Disk → Outcome α) : Prop where
  exec_nil : ∀ D, exec x ([], D) = (g D, ([], D))
  sound : ∀ faults D,
    (exec x (faults, D)).2.2 = D ∧
      ((exec x (faults, D)).1 = g D ∨
        ∃ e, (exec x (faults, D)).1 = .error (.err e))

namespace Query

variable {x : Enclave α} {g : Disk → Outcome α}

/-- A value that is returned is the one there is. -/
theorem eq_of_ok (hx : Query x g) {faults : List Fault} {D : Disk} {a : α}
    (h : (exec x (faults, D)).1 = .ok a) : g D = .ok a := by
  obtain ⟨-, hsame | ⟨e, he⟩⟩ := hx.sound faults D
  · rw [← hsame, h]
  · rw [he] at h
    cases h

theorem returns (hx : Query x g) {D : Disk} {a : α} (ha : g D = .ok a) :
    exec x ([], D) = (.ok a, ([], D)) := by
  rw [hx.exec_nil, ha]

/-- What a query contributes to a triple. -/
theorem triple {Ok : Fault → Prop} {P : Disk → Prop}
    {Q : Outcome α → Disk → Prop} (hx : Query x g)
    (hsame : ∀ D, P D → Q (g D) D)
    (herr : ∀ e D, P D → Q (.error (.err e)) D) :
    Triple Ok P x Q := by
  intro faults D _ hD
  obtain ⟨hdisk, hresult⟩ := hx.sound faults D
  change Q (exec x (faults, D)).1 (exec x (faults, D)).2.2
  rw [hdisk]
  rcases hresult with hresult | ⟨e, hresult⟩
  · rw [hresult]
    exact hsame D hD
  · rw [hresult]
    exact herr e D hD

/-- Go on with the value of a query. -/
theorem tripleBind {Ok : Fault → Prop} {P : Disk → Prop} {f : α → Enclave β}
    {R : Outcome β → Disk → Prop} (hx : Query x g)
    (hf : ∀ a, Triple Ok (fun D => P D ∧ g D = .ok a) (f a) R)
    (herr : ∀ e D, P D → R (.error (.err e)) D)
    (hpanic : ∀ D, P D → g D = .error .panic → R (.error .panic) D) :
    Triple Ok P (x >>= f) R := by
  refine Triple.bind (Q := fun r D => P D ∧
    (r = g D ∨ ∃ e, r = .error (.err e)))
    (hx.triple (fun D hD => ⟨hD, .inl rfl⟩)
      fun e D hD => ⟨hD, .inr ⟨e, rfl⟩⟩) ?_ ?_
  · intro a
    refine (hf a).weaken ?_ fun _ _ h => h
    rintro D ⟨hD, ha | ⟨e, ⟨⟩⟩⟩
    exact ⟨hD, ha.symm⟩
  · rintro (e | _) D ⟨hD, hresult⟩
    · exact herr e D hD
    · rcases hresult with hsame | ⟨e, ⟨⟩⟩
      exact hpanic D hD hsame.symm

/-- Go on with the value of a query, or with the error that it ended in. -/
theorem attemptBind {Ok : Fault → Prop} {P : Disk → Prop}
    {f : Except Error α → Enclave β} {R : Outcome β → Disk → Prop}
    (hx : Query x g)
    (hok : ∀ a, Triple Ok (fun D => P D ∧ g D = .ok a) (f (.ok a)) R)
    (herr : ∀ e, Triple Ok P (f (.error e)) R)
    (hpanic : ∀ D, P D → g D = .error .panic → R (.error .panic) D) :
    Triple Ok P (attempt x >>= f) R := by
  refine Triple.bind (Q := fun r D => P D ∧
    (∀ a, r = .ok (.ok a) → g D = .ok a) ∧
      ∀ failure, r = .error failure →
        failure = .panic ∧ g D = .error .panic)
    (Triple.attempt (Q := fun r D => P D ∧
      (r = g D ∨ ∃ e, r = .error (.err e)))
      (hx.triple (fun D hD => ⟨hD, .inl rfl⟩)
        fun e D hD => ⟨hD, .inr ⟨e, rfl⟩⟩) ?_ ?_ ?_) ?_ ?_
  · rintro a D ⟨hD, ha | ⟨e, ⟨⟩⟩⟩
    exact ⟨hD, by rintro _ ⟨⟩; exact ha.symm, by simp⟩
  · exact fun e D hD => ⟨hD.1, by simp, by simp⟩
  · rintro D ⟨hD, hsame | ⟨e, ⟨⟩⟩⟩
    exact ⟨hD, by simp, by rintro _ ⟨⟩; exact ⟨rfl, hsame.symm⟩⟩
  · intro o
    cases o with
    | ok a =>
        refine (hok a).weaken (fun D hD => ?_) fun _ _ h => h
        exact ⟨hD.1, hD.2.1 a rfl⟩
    | error e => exact (herr e).weaken (fun D hD => hD.1) fun _ _ h => h
  · rintro failure D ⟨hD, -, hfail⟩
    obtain ⟨rfl, hsame⟩ := hfail failure rfl
    exact hpanic D hD hsame

/-- Without faults, an attempt at a query whose value is there returns it. -/
theorem attempt_returns (hx : Query x g) {D : Disk} {a : α}
    (ha : g D = .ok a) : exec (attempt x) ([], D) = (.ok (.ok a), ([], D)) :=
  exec_attempt_of_ok (hx.returns ha)

theorem attempt_err (hx : Query x g) {D : Disk} {e : Error}
    (he : g D = .error (.err e)) :
    exec (attempt x) ([], D) = (.ok (.error e), ([], D)) :=
  exec_attempt_of_err (by rw [hx.exec_nil, he])

theorem attempt_panic (hx : Query x g) {D : Disk}
    (hpanic : g D = .error .panic) :
    exec (attempt x) ([], D) = (.error .panic, ([], D)) :=
  exec_attempt_of_panic (by rw [hx.exec_nil, hpanic])

theorem readFile (dir : Dir) (name : Str) :
    Query (ValidatorGuardian.readFile dir name)
      fun D => Outcome.okOr .io (D dir name) where
  exec_nil D := rfl
  sound faults D := by
    simp only [exec, ValidatorGuardian.readFile, ExceptT.run_mk,
      Program.run_call, Program.run_ret]
    cases faults.headD default with
    | none => exact ⟨rfl, .inl rfl⟩
    | fails => exact ⟨rfl, .inr ⟨.io, rfl⟩⟩
    | torn n => exact ⟨rfl, .inr ⟨.io, rfl⟩⟩

/-- A computation without files. -/
theorem lift (r : Outcome α) : Query (liftM r) fun _ => r where
  exec_nil D := exec_liftM _ _
  sound faults D := by
    rw [exec_liftM]
    exact ⟨rfl, .inl rfl⟩

theorem withContext (s : String) (hx : Query x g) :
    Query (ValidatorGuardian.withContext s x)
      fun D => Outcome.withContext s (g D) where
  exec_nil D := by rw [exec_withContext, hx.exec_nil]
  sound faults D := by
    obtain ⟨hdisk, hresult⟩ := hx.sound faults D
    rw [exec_withContext]
    refine ⟨hdisk, hresult.imp (fun h => by rw [h]) ?_⟩
    rintro ⟨e, he⟩
    exact ⟨.context s e, by rw [he]; rfl⟩

/-- One query after another. -/
theorem bind {f : α → Enclave β} {k : α → Disk → Outcome β}
    (hx : Query x g) (hf : ∀ a, Query (f a) (k a)) :
    Query (x >>= f) fun D => g D >>= fun a => k a D where
  exec_nil D := by
    rw [exec_bind, hx.exec_nil]
    cases g D with
    | error e => rfl
    | ok a => exact (hf a).exec_nil D
  sound faults D := by
    obtain ⟨hdisk, hresult⟩ := hx.sound faults D
    rw [exec_bind]
    rcases hr : exec x (faults, D) with ⟨r, faults', D'⟩
    rw [hr] at hdisk hresult
    obtain rfl : D' = D := hdisk
    rcases hresult with rfl | ⟨e, rfl⟩
    · cases g D' with
      | error e => exact ⟨rfl, .inl rfl⟩
      | ok a => exact (hf a).sound faults' D'
    · exact ⟨rfl, .inr ⟨e, rfl⟩⟩

/-- A function of the value of a query. -/
theorem map (hx : Query x g) (f : α → β) :
    Query (x >>= fun a => pure (f a)) fun D => (g D).map f := by
  have hpure : ∀ a, Query (pure (f a)) fun _ => .ok (f a) :=
    fun a => lift (.ok (f a))
  refine (congrArg (Query _) (funext fun D => ?_)).mp (hx.bind hpure)
  cases g D <;> rfl

end Query

end ValidatorGuardian
