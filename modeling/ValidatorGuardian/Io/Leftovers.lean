import ValidatorGuardian.Io.Files

/-!
# What code leaves on disk

Code that saves a few files and then goes on without files leaves these files
behind, whether it succeeds or not.  Whatever the file system does meanwhile,
no other file is concerned.
-/

namespace ValidatorGuardian

/-- A file with its directory and its name. -/
structure NamedFile where
  dir : Dir
  name : Str
  contents : Contents

/-- `dir` and `name` are the place of the file. -/
def NamedFile.IsAt (f : NamedFile) (dir : Dir) (name : Str) : Prop :=
  dir = f.dir ∧ name = f.name

/-! ## Disks with files added -/

namespace Disk

/-- Create or replace the files in order. -/
def store (D : Disk) (files : List NamedFile) : Disk :=
  files.foldl (fun D f => D.set f.dir f.name f.contents) D

theorem store_cons (D : Disk) (f : NamedFile) (files : List NamedFile) :
    D.store (f :: files) = (D.set f.dir f.name f.contents).store files := rfl

/-- The files there are then: those there were, and those that are added. -/
theorem isSome_store {files : List NamedFile} {D : Disk} {dir : Dir}
    {name : Str} :
    (D.store files dir name).isSome ↔
      (D dir name).isSome ∨ ∃ f ∈ files, f.IsAt dir name := by
  induction files generalizing D with
  | nil => simp [store]
  | cons f files ih =>
      rw [store_cons, ih, List.exists_mem_cons_iff]
      by_cases hplace : f.IsAt dir name
      · obtain ⟨rfl, rfl⟩ := hplace
        simp [NamedFile.IsAt]
      · rw [Disk.set_of_ne hplace]
        simp [hplace]

end Disk

/-! ## Code that saves one file -/

/-- Without faults `x` returns `a` and leaves the file `f`; whatever faults
occur, it changes no other file. -/
structure Saves {α : Type} (x : Enclave α) (a : α) (f : NamedFile) :
    Prop where
  returns : ∀ D, exec x ([], D) =
    (.ok a, ([], D.set f.dir f.name f.contents))
  frame : ∀ w dir name, ¬ f.IsAt dir name →
    (exec x w).2.2 dir name = w.2 dir name

namespace Saves

variable {α β : Type} {x : Enclave α} {a : α} {f : NamedFile}

theorem writeFileIn (dirMsg fileMsg : String) (f : NamedFile) :
    Saves (ValidatorGuardian.writeFileIn dirMsg fileMsg f.dir f.name
      f.contents) () f where
  returns _ := exec_writeFileIn_nil
  frame w dir name hplace := by
    have htriple : Triple (fun _ => True) (fun D => D dir name = w.2 dir name)
        (ValidatorGuardian.writeFileIn dirMsg fileMsg f.dir f.name f.contents)
        fun _ D => D dir name = w.2 dir name := by
      refine Triple.writeFileIn trivial ?_ (fun _ _ hD => hD) ?_
      · intro D hD
        rw [Disk.set_of_ne hplace, hD]
      · intro _ _ _ D hD
        rw [Disk.set_of_ne hplace, hD]
    exact htriple.exec_spec (fun _ _ => trivial) rfl

theorem withContext (h : Saves x a f) (s : String) :
    Saves (ValidatorGuardian.withContext s x) a f where
  returns D := exec_withContext_eq_ok.mpr (h.returns D)
  frame w dir name hplace := by
    rw [exec_withContext]
    exact h.frame w dir name hplace

theorem bindPure (h : Saves x a f) (g : α → β) :
    Saves (x >>= fun a => pure (g a)) (g a) f where
  returns D := by rw [exec_bind_of_ok (h.returns D), exec_pure]
  frame w dir name hplace := by
    have hframe := h.frame w dir name hplace
    rw [exec_bind]
    rcases hx : exec x w with ⟨r, w'⟩
    rw [hx] at hframe
    cases r with
    | ok b => exact hframe
    | error e => exact hframe

end Saves

/-! ## Code that leaves files behind -/

/-- A run of `x` leaves the files if it is `prepared` for saving them, and
nothing otherwise; whatever faults occur, it changes no other file. -/
structure Leaves {α : Type} (x : Enclave α) (prepared : Prop)
    (files : List NamedFile) : Prop where
  stored : prepared → ∀ D, (exec x ([], D)).2.2 = D.store files
  unprepared : ¬ prepared → ∀ w, (exec x w).2.2 = w.2
  frame : ∀ w dir name, (∀ f ∈ files, ¬ f.IsAt dir name) →
    (exec x w).2.2 dir name = w.2 dir name

namespace Leaves

variable {α β : Type} {x : Enclave α} {prepared : Prop}
  {files : List NamedFile}

/-- Code that touches no files leaves none. -/
theorem nil (h : ∀ w, (exec x w).2.2 = w.2) : Leaves x True [] where
  stored _ D := h ([], D)
  unprepared hprepared := absurd trivial hprepared
  frame w dir name _ := by rw [h w]

theorem pure (a : α) : Leaves (Pure.pure a : Enclave α) True [] :=
  nil fun _ => rfl

theorem of_prepared (h : Leaves x True files) (hprepared : prepared) :
    Leaves x prepared files where
  stored _ := h.stored trivial
  unprepared hnot := absurd hprepared hnot
  frame := h.frame

/-- A step without files, before or after the files are saved. -/
theorem bindLift {r : Outcome β} {k : β → Enclave α}
    (hok : ∀ b, r = .ok b → Leaves (k b) prepared files)
    (herr : ∀ e, r = .error e → ¬ prepared ∨ files = []) :
    Leaves (liftM r >>= k) prepared files := by
  cases r with
  | ok b => exact hok b rfl
  | error e =>
      have hrun : ∀ w, (exec (liftM (.error e : Outcome β) >>= k) w).2.2 =
          w.2 := fun _ => rfl
      refine ⟨fun hprepared D => ?_, fun _ => hrun, fun w dir name _ => ?_⟩
      · rcases herr e rfl with hnot | rfl
        · exact absurd hprepared hnot
        · exact hrun _
      · rw [hrun]

/-- A step without files that succeeds. -/
theorem bindOk {r : Outcome β} {b : β} {k : β → Enclave α} (hr : r = .ok b)
    (hk : Leaves (k b) prepared files) :
    Leaves (liftM r >>= k) prepared files := by
  rw [hr]
  exact hk

/-- A file is saved, and then the others. -/
theorem bindSaves {y : Enclave β} {b : β} {f : NamedFile} {k : β → Enclave α}
    (hy : Saves y b f) (hk : ∀ b, Leaves (k b) True files) :
    Leaves (y >>= k) True (f :: files) where
  stored _ D := by
    rw [exec_bind_of_ok (hy.returns D), (hk b).stored trivial,
      Disk.store_cons]
  unprepared hprepared := absurd trivial hprepared
  frame w dir name hplaces := by
    have hframe := hy.frame w dir name (hplaces f (List.mem_cons_self ..))
    rw [exec_bind]
    rcases hx : exec y w with ⟨r, w'⟩
    rw [hx] at hframe
    cases r with
    | error e => exact hframe
    | ok b' =>
        have hrest := (hk b').frame w' dir name
          fun g hg => hplaces g (List.mem_cons_of_mem _ hg)
        exact hrest.trans hframe

/-- The value of a run does not matter. -/
theorem bindPure (h : Leaves x prepared files) (g : α → β) :
    Leaves (x >>= fun a => Pure.pure (g a)) prepared files := by
  have hsame : ∀ w, (exec (x >>= fun a => Pure.pure (g a)) w).2.2 =
      (exec x w).2.2 := by
    intro w
    rw [exec_bind]
    rcases exec x w with ⟨_ | _, w'⟩
    · rfl
    · rfl
  constructor
  · intro hprepared D
    rw [hsame, h.stored hprepared]
  · intro hprepared w
    rw [hsame, h.unprepared hprepared]
  · intro w dir name hplaces
    rw [hsame, h.frame w dir name hplaces]

end Leaves

end ValidatorGuardian
