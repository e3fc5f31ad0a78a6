import Mathlib.Data.List.Basic

/-!
# Records without delimiters

A record is a body of any length and a trailer, which belongs to the tag of the
record and to its place in the list.  Records are written one after the other
with nothing in between.  When the trailers possible at one place have one
length, a list of records can be mistaken for another one in one way only: up
to some place the lists agree, and there the body of one record goes on where
the other record has its trailer already.
-/

namespace Records

variable {α γ : Type} (trailer : ℕ → γ → List α)

/-- The records from place `i` on, written one after the other. -/
def text : ℕ → List (List α × γ) → List α
  | _, [] => []
  | i, (body, tag) :: rest =>
      body ++ (trailer i tag ++ text (i + 1) rest)

/-- From place `i` on, the lists agree up to a record whose body is longer by
`d` in the second list; and the text after the shorter body begins with `d`
and goes on like the text after the longer one. -/
inductive Swallows : ℕ → List (List α × γ) → List (List α × γ) → Prop
  | here {i : ℕ} {body d : List α} {tag tag' : γ}
      {rest rest' : List (List α × γ)} (hd : d ≠ [])
      (htext : trailer i tag ++ text trailer (i + 1) rest =
        d ++ (trailer i tag' ++ text trailer (i + 1) rest')) :
      Swallows i ((body, tag) :: rest) ((body ++ d, tag') :: rest')
  | there {i : ℕ} (e : List α × γ) {rest rest' : List (List α × γ)}
      (hrest : Swallows (i + 1) rest rest') :
      Swallows i (e :: rest) (e :: rest')

variable {trailer} {i : ℕ} {es es' : List (List α × γ)}

namespace Swallows

theorem text_eq (h : Swallows trailer i es es') :
    text trailer i es = text trailer i es' := by
  induction h with
  | here hd htext => simp only [text, htext, List.append_assoc]
  | there e hrest ih => simp only [text, ih]

theorem ne (h : Swallows trailer i es es') : es ≠ es' := by
  induction h with
  | here hd htext => simp [hd]
  | there e hrest ih => simp [ih]

/-- The longer body and the shorter one. -/
theorem exists_bodies (h : Swallows trailer i es es') :
    ∃ e ∈ es, ∃ e' ∈ es', e.1.length < e'.1.length := by
  induction h with
  | @here i body d tag tag' rest rest' hd htext =>
      refine ⟨_, List.mem_cons_self .., _, List.mem_cons_self .., ?_⟩
      have hpos : 0 < d.length := List.length_pos_of_ne_nil hd
      simpa using hpos
  | there e hrest ih =>
      obtain ⟨a, ha, a', ha', hlt⟩ := ih
      exact ⟨a, List.mem_cons_of_mem _ ha, a', List.mem_cons_of_mem _ ha', hlt⟩

end Swallows

/-- The lists are the same, or one of them swallows a part of the other. -/
def Alike (trailer : ℕ → γ → List α) (i : ℕ) (es es' : List (List α × γ)) :
    Prop :=
  es = es' ∨ Swallows trailer i es es' ∨ Swallows trailer i es' es

theorem Alike.symm (h : Alike trailer i es es') : Alike trailer i es' es := by
  rcases h with heq | hswallows | hswallows
  · exact .inl heq.symm
  · exact .inr (.inr hswallows)
  · exact .inr (.inl hswallows)

theorem Alike.cons (e : List α × γ) (h : Alike trailer (i + 1) es es') :
    Alike trailer i (e :: es) (e :: es') := by
  rcases h with heq | hswallows | hswallows
  · exact .inl (congrArg (List.cons e) heq)
  · exact .inr (.inl (.there e hswallows))
  · exact .inr (.inr (.there e hswallows))

/-- The trailers possible at one place are told apart, and they all have one
length, which is not zero. -/
structure Trailers (trailer : ℕ → γ → List α) : Prop where
  length_eq : ∀ i tag tag',
    (trailer i tag).length = (trailer i tag').length
  injective : ∀ i, Function.Injective (trailer i)
  ne_nil : ∀ i tag, trailer i tag ≠ []

theorem text_cons_ne_nil (ht : Trailers trailer) (e : List α × γ) :
    text trailer i (e :: es) ≠ [] := by
  have htrailer := ht.ne_nil i e.2
  simp [text, htrailer]

/-- One record, whose body in the second list is that of the first with `d`
behind it. -/
theorem alike_cons_of_text (ht : Trailers trailer) {body d : List α}
    {tag tag' : γ}
    (htext : trailer i tag ++ text trailer (i + 1) es =
      d ++ (trailer i tag' ++ text trailer (i + 1) es'))
    (hrest : text trailer (i + 1) es = text trailer (i + 1) es' →
      Alike trailer (i + 1) es es') :
    Alike trailer i ((body, tag) :: es) ((body ++ d, tag') :: es') := by
  by_cases hd : d = []
  · -- equal bodies: the trailers are cut off, and the rest agrees
    subst hd
    rw [List.nil_append] at htext
    obtain ⟨htag, htext⟩ := List.append_inj htext (ht.length_eq i tag tag')
    rw [ht.injective i htag, List.append_nil]
    exact (hrest htext).cons _
  · exact .inr (.inl (.here hd htext))

/-- Lists of records are written as one text exactly when they are alike. -/
theorem text_eq_iff (ht : Trailers trailer) :
    text trailer i es = text trailer i es' ↔ Alike trailer i es es' := by
  constructor
  · intro h
    induction es generalizing i es' with
    | nil =>
        cases es' with
        | nil => exact .inl rfl
        | cons e' rest' => exact absurd h.symm (text_cons_ne_nil ht e')
    | cons e rest ih =>
        cases es' with
        | nil => exact absurd h (text_cons_ne_nil ht e)
        | cons e' rest' =>
            obtain ⟨body, tag⟩ := e
            obtain ⟨body', tag'⟩ := e'
            rcases List.append_eq_append_iff.mp h with
              ⟨d, rfl, htext⟩ | ⟨d, rfl, htext⟩
            · exact alike_cons_of_text ht htext ih
            · exact (alike_cons_of_text ht htext
                fun hrest => (ih hrest.symm).symm).symm
  · rintro (rfl | h | h)
    · rfl
    · exact h.text_eq
    · exact h.text_eq.symm

/-- Records whose bodies all have one length are not mistaken for others of
that kind. -/
theorem Alike.eq_of_length {n : ℕ} (h : Alike trailer i es es')
    (hes : ∀ e ∈ es, e.1.length = n) (hes' : ∀ e ∈ es', e.1.length = n) :
    es = es' := by
  have hnot : ∀ {l l' : List (List α × γ)}, (∀ e ∈ l, e.1.length = n) →
      (∀ e ∈ l', e.1.length = n) → ¬ Swallows trailer i l l' := by
    intro l l' hl hl' hswallows
    obtain ⟨e, he, e', he', hlt⟩ := hswallows.exists_bodies
    rw [hl e he, hl' e' he'] at hlt
    exact Nat.lt_irrefl n hlt
  rcases h with heq | hswallows | hswallows
  · exact heq
  · exact absurd hswallows (hnot hes hes')
  · exact absurd hswallows (hnot hes' hes)

end Records
