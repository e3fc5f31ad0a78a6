import ValidatorGuardian.Crypto.BlsKeys
import ValidatorGuardian.Crypto.EthKeys
import ValidatorGuardian.Support.Filing

/-!
# Code that files what belongs

The files of an enclave are a store under directories and names.  Reads show
what is stored, and so does a write that has succeeded.  What code has found in
a file, or written to one, it has seen.
-/

namespace ValidatorGuardian

open Effect

/-- The key of a file. -/
abbrev FileKey := Dir × Str

/-- The file under a key. -/
def Disk.at (D : Disk) (k : FileKey) : Option Contents := D k.1 k.2

/-- What an operation may leave in a file: what it writes, or a beginning of it
if writes may be torn. -/
def FsOp.Writes (torn : Prop) : FsOp → FileKey → Contents → Prop
  | .write dir name c, k, c' =>
      k = (dir, name) ∧ (c' = c ∨ torn ∧ ∃ n, c' = c.tornAt n)
  | _, _, _ => False

/-- What an answer shows: the contents that are read, or written. -/
def FsOp.Shows : (op : FsOp) → op.Ans → FileKey → Contents → Prop
  | .read dir name, ans, k, c => k = (dir, name) ∧ ans = some c
  | .createDir _, _, _, _ => False
  | .write dir name c, ok, k, c' => ok = true ∧ k = (dir, name) ∧ c' = c

theorem Disk.at_set_cases {D : Disk} {dir : Dir} {name : Str}
    {c c' : Contents} {k : FileKey} (h : (D.set dir name c).at k = some c') :
    D.at k = some c' ∨ k = (dir, name) ∧ c' = c := by
  obtain ⟨d, n⟩ := k
  rcases Disk.set_cases h with ⟨rfl, rfl, rfl⟩ | hold
  · exact .inr ⟨rfl, rfl⟩
  · exact .inl hold

theorem Disk.at_set_kept {D : Disk} {dir : Dir} {name : Str} {c c' : Contents}
    {k : FileKey} (h : D.at k = some c') :
    ∃ c'', (D.set dir name c).at k = some c'' ∧
      (c'' = c' ∨ k = (dir, name) ∧ c'' = c) := by
  obtain ⟨d, n⟩ := k
  by_cases hfile : d = dir ∧ n = name
  · obtain ⟨rfl, rfl⟩ := hfile
    exact ⟨c, Disk.set_same .., .inr ⟨rfl, rfl⟩⟩
  · exact ⟨c', (Disk.set_of_ne hfile).trans h, .inl rfl⟩

/-- The files as a store. -/
def files (torn : Prop) : StoreAccess fsHandler (TearsOnly torn) Disk.at where
  writes := FsOp.Writes torn
  shows := FsOp.Shows
  stored := by
    rintro f D (⟨dir, name⟩ | dir | ⟨dir, name, c⟩) k c' hf h
    · exact .inl (by cases f <;> exact h)
    · exact .inl (by cases f <;> exact h)
    · cases f with
      | fails => exact .inl h
      | none =>
          exact (Disk.at_set_cases h).imp_right fun h => ⟨h.1, .inl h.2⟩
      | torn n =>
          exact (Disk.at_set_cases h).imp_right fun h =>
            ⟨h.1, .inr ⟨hf rfl, n, h.2⟩⟩
  kept := by
    rintro f D (⟨dir, name⟩ | dir | ⟨dir, name, c⟩) k c' hf h
    · exact ⟨c', by cases f <;> exact h, .inl rfl⟩
    · exact ⟨c', by cases f <;> exact h, .inl rfl⟩
    · cases f with
      | fails => exact ⟨c', h, .inl rfl⟩
      | none =>
          obtain ⟨c'', hset, hc''⟩ := Disk.at_set_kept h
          exact ⟨c'', hset, hc''.imp_right fun h => ⟨h.1, .inl h.2⟩⟩
      | torn n =>
          obtain ⟨c'', hset, hc''⟩ := Disk.at_set_kept h
          exact ⟨c'', hset, hc''.imp_right fun h =>
            ⟨h.1, .inr ⟨hf rfl, n, h.2⟩⟩⟩
  shown := by
    rintro f D (⟨dir, name⟩ | dir | ⟨dir, name, c⟩) k c' hf h
    · obtain ⟨rfl, hans⟩ := h
      cases f with
      | none => exact hans
      | fails => cases hans
      | torn n => cases hans
    · exact h.elim
    · obtain ⟨hok, rfl, rfl⟩ := h
      cases f with
      | none => exact Disk.set_same ..
      | fails => cases hok
      | torn n => cases hok

/-! ## What code has seen -/

variable {α β : Type} {torn : Prop} {Belongs : FileKey → Contents → Prop}
  {seen : FileKey → Contents → Prop}

/-- The value returned is found with `f` in the file under `k`. -/
def Found (k : FileKey) (f : Contents → Option α)
    (seen : FileKey → Contents → Prop) (r : Outcome α) : Prop :=
  ∀ a, r = .ok a → ∃ c, seen k c ∧ f c = some a

namespace Conforms

theorem remembers {x : Enclave α}
    {F : (FileKey → Contents → Prop) → Outcome α → Prop}
    (hx : Conforms ((files torn).filing Belongs) F seen x) :
    Conforms ((files torn).filing Belongs)
      (fun seen' r => (∀ k c, seen k c → seen' k c) ∧ F seen' r) seen x :=
  StoreAccess.conforms_remembers hx

section Results

variable {Λ : Type} {N : Protocol FsOp FsOp.Ans Λ} {l : Λ}
  {P : Λ → α → Prop} {Q : Λ → β → Prop}

/-- What is shown of results only holds of every error. -/
theorem bindResult {F : Λ → Outcome α → Prop} {x : Enclave α}
    {f : α → Enclave β} (hx : Conforms N F l x)
    (hf : ∀ l' a, F l' (.ok a) →
      Conforms N (fun l'' r => ∀ b, r = .ok b → Q l'' b) l' (f a)) :
    Conforms N (fun l' r => ∀ b, r = .ok b → Q l' b) l (x >>= f) :=
  Conforms.bind hx hf fun _ _ _ => Outcome.forall_error

theorem bindLiftResult {r : Outcome α} {f : α → Enclave β}
    (hf : ∀ a, r = .ok a →
      Conforms N (fun l' r' => ∀ b, r' = .ok b → Q l' b) l (f a)) :
    Conforms N (fun l' r' => ∀ b, r' = .ok b → Q l' b) l (liftM r >>= f) :=
  bindLift hf fun _ _ => Outcome.forall_error

/-- A result that is only put in another form. -/
theorem mapResult {x : Enclave α} {g : α → β}
    (hx : Conforms N (fun l' r => ∀ a, r = .ok a → P l' a) l x)
    (hg : ∀ l' a, P l' a → Q l' (g a)) :
    Conforms N (fun l' r => ∀ b, r = .ok b → Q l' b) l
      (x >>= fun a => Pure.pure (g a)) := by
  refine bindResult hx fun l' a ha => ?_
  apply Conforms.pure
  rintro b ⟨⟩
  exact hg l' a (ha a rfl)

end Results

theorem foundFile (dir : Dir) (name : Str) :
    Conforms ((files torn).filing Belongs) (Found (dir, name) some) seen
      (ValidatorGuardian.readFile dir name) := by
  apply Conforms.readFile
  · rintro - k c ⟨⟩
  · intro ans c hc
    exact ⟨c, .inr ⟨rfl, Outcome.okOr_eq_ok.mp hc⟩, rfl⟩

/-- A computation on what is found. -/
theorem foundBind {k : FileKey} {f : Contents → Option α} {g : α → Option β}
    {x : Enclave α} {r : α → Outcome β}
    (hx : Conforms ((files torn).filing Belongs) (Found k f) seen x)
    (hr : ∀ a b, r a = .ok b → g a = some b) :
    Conforms ((files torn).filing Belongs)
      (Found k fun c => (f c).bind g) seen
      (x >>= fun a => liftM (r a)) := by
  refine bindResult hx ?_
  intro seen' a ha
  apply Conforms.lift
  intro b hb
  obtain ⟨c, hc, hfc⟩ := ha a rfl
  exact ⟨c, hc, Option.bind_eq_some_iff.mpr ⟨a, hfc, hr a b hb⟩⟩

theorem foundContext {k : FileKey} {f : Contents → Option α} {s : String}
    {x : Enclave α}
    (hx : Conforms ((files torn).filing Belongs) (Found k f) seen x) :
    Conforms ((files torn).filing Belongs) (Found k f) seen
      (ValidatorGuardian.withContext s x) :=
  Conforms.withContext (hx.weaken fun _ _ h a ha =>
    h a (Outcome.withContext_eq_ok.mp ha))

theorem foundKey (dir : Dir) (name : Str) :
    Conforms ((files torn).filing Belongs) (Found (dir, name) Contents.key)
      seen (readKey dir name) := by
  refine foundBind (f := some) (g := Contents.key)
    (foundContext (foundFile dir name)) ?_
  intro c bs hbs
  exact hexDecodeContents_eq_ok.mp (Outcome.withContext_eq_ok.mp hbs)

/-- A file is written, or reported as not written. -/
theorem writeFileIn {dirMsg fileMsg : String} {dir : Dir} {name : Str}
    {c : Contents}
    (hc : Belongs (dir, name) c)
    (htorn : torn → ∀ n, Belongs (dir, name) (c.tornAt n)) :
    Conforms ((files torn).filing Belongs)
      (fun seen' r => r = .ok () → seen' (dir, name) c) seen
      (ValidatorGuardian.writeFileIn dirMsg fileMsg dir name c) := by
  refine Conforms.bind (F := fun _ _ => True)
    (Conforms.withContext (Conforms.createDirAll ?_ fun _ => trivial)) ?_
    (fun _ _ _ h => absurd h Outcome.error_ne_ok)
  · rintro - k c' ⟨⟩
  · intro seen' _ _
    apply Conforms.withContext
    apply Conforms.writeFile
    · rintro - k c' ⟨rfl, rfl | ⟨ht, n, rfl⟩⟩
      · exact hc
      · exact htorn ht n
    · intro ok hok
      rw [Outcome.withContext_eq_ok] at hok
      cases ok with
      | true => exact .inr ⟨rfl, rfl, rfl⟩
      | false => cases hok

/-- A generated key is stored when its public key is returned. -/
theorem ethKeyGen [Secp256k1] {random : EthSecretKey} {name text : Str}
    (hname : name = Hex.encode (Secp256k1.publicKeySerializeCompressed
      (Secp256k1.publicKeyFromSecretKey random)).toList)
    (htext : text = Hex.encode (Secp256k1.secretKeySerialize random).toList)
    (hc : Belongs (.ethKeys, name) (.text text))
    (htorn : torn → ∀ n,
      Belongs (.ethKeys, name) ((Contents.text text).tornAt n)) :
    Conforms ((files torn).filing Belongs)
      (fun seen' r => ∀ pk, r = .ok pk →
        pk = Secp256k1.publicKeyFromSecretKey random ∧
          seen' (.ethKeys, name) (.text text))
      seen (ValidatorGuardian.ethKeyGen random) := by
  apply Conforms.withContext
  have hwrite : Conforms ((files torn).filing Belongs)
      (fun seen' r => r = .ok () → seen' (.ethKeys, name) (.text text)) seen
      (ValidatorGuardian.writeFileIn "Failed to create keys dir"
        "failed to write sk" .ethKeys name (.text text)) :=
    writeFileIn hc htorn
  refine Conforms.bind (F := fun seen' r => r = .ok () →
      seen' (.ethKeys, name) (.text text)) (Conforms.withContext ?_) ?_ ?_
  · subst hname htext
    simp only [writeEthKey, writeKey, ethPkToHex_eq, ethSkToHex_eq,
      strip0xPrefix_encode]
    exact hwrite.weaken fun _ _ h hr => h (Outcome.withContext_eq_ok.mp hr)
  · intro seen' _ hseen'
    apply Conforms.pure
    intro pk hpk
    rw [Outcome.withContext_eq_ok] at hpk
    exact ⟨(Except.ok.inj hpk).symm, hseen' rfl⟩
  · intro seen' e _ pk hpk
    rw [Outcome.withContext_eq_ok] at hpk
    cases hpk

end Conforms

end ValidatorGuardian
