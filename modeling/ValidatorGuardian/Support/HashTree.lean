import Mathlib.Data.Vector.Basic
import Mathlib.Logic.Function.Basic

/-!
# Hash trees

A value is committed to by the root of a tree of digests.  Two trees of one
shape that have the same root are the same, or hashing them exhibits a
collision: two different pairs, each of them hashed on the way to one of the
roots, with the same digest.  A type whose values are laid out as trees of one
shape, different values as different trees, is therefore bound by its roots,
and such layouts are put together from those of the parts.
-/

/-- A tree with digests at its leaves. -/
inductive HashTree (δ : Type) where
  | leaf (d : δ)
  | node (left right : HashTree δ)

namespace HashTree

variable {δ α β γ ε ζ : Type}

/-- Hash the tree from its leaves up. -/
def root (hash : δ × δ → δ) : HashTree δ → δ
  | leaf d => d
  | node l r => hash (l.root hash, r.root hash)

/-- The pairs that are hashed. -/
def inputs (hash : δ × δ → δ) : HashTree δ → List (δ × δ)
  | leaf _ => []
  | node l r => (l.root hash, r.root hash) :: (l.inputs hash ++ r.inputs hash)

/-- The tree without its digests. -/
def shape : HashTree δ → HashTree Unit
  | leaf _ => leaf ()
  | node l r => node l.shape r.shape

/-- Two different pairs, one hashed for each tree, have the same digest. -/
def Clash (hash : δ × δ → δ) (t t' : HashTree δ) : Prop :=
  ∃ p ∈ t.inputs hash, ∃ q ∈ t'.inputs hash, p ≠ q ∧ hash p = hash q

theorem Clash.left {hash : δ × δ → δ} {l l' : HashTree δ} (h : Clash hash l l')
    (r r' : HashTree δ) : Clash hash (node l r) (node l' r') := by
  obtain ⟨p, hp, q, hq, hpq⟩ := h
  refine ⟨p, ?_, q, ?_, hpq⟩
  · exact List.mem_cons_of_mem _ (List.mem_append_left _ hp)
  · exact List.mem_cons_of_mem _ (List.mem_append_left _ hq)

theorem Clash.right {hash : δ × δ → δ} {r r' : HashTree δ} (h : Clash hash r r')
    (l l' : HashTree δ) : Clash hash (node l r) (node l' r') := by
  obtain ⟨p, hp, q, hq, hpq⟩ := h
  refine ⟨p, ?_, q, ?_, hpq⟩
  · exact List.mem_cons_of_mem _ (List.mem_append_right _ hp)
  · exact List.mem_cons_of_mem _ (List.mem_append_right _ hq)

/-- The root binds the leaves of a tree of known shape. -/
theorem eq_or_clash {hash : δ × δ → δ} {t t' : HashTree δ}
    (hshape : t.shape = t'.shape) (hroot : t.root hash = t'.root hash) :
    t = t' ∨ Clash hash t t' := by
  induction t generalizing t' with
  | leaf d =>
      cases t' with
      | leaf d' => exact .inl (congrArg leaf hroot)
      | node l' r' => cases hshape
  | node l r ihl ihr =>
      cases t' with
      | leaf d' => cases hshape
      | node l' r' =>
          obtain ⟨hl, hr⟩ := HashTree.node.inj hshape
          by_cases hpair : (l.root hash, r.root hash) =
              (l'.root hash, r'.root hash)
          · obtain ⟨hleft, hright⟩ := Prod.mk.inj hpair
            rcases ihl hl hleft with rfl | hclash
            · rcases ihr hr hright with rfl | hclash
              · exact .inl rfl
              · exact .inr (hclash.right l l)
            · exact .inr (hclash.left r r')
          · exact .inr ⟨_, List.mem_cons_self .., _, List.mem_cons_self ..,
              hpair, hroot⟩

/-! ## Layouts -/

/-- A layout of the values of a type as trees of one shape. -/
structure Layout (δ α : Type) where
  tree : α → HashTree δ
  shape : HashTree Unit
  shape_tree : ∀ a, (tree a).shape = shape
  injective : Function.Injective tree

namespace Layout

/-- The root of the tree of a value. -/
def root (L : Layout δ α) (hash : δ × δ → δ) (a : α) : δ :=
  (L.tree a).root hash

/-- The root binds the value. -/
theorem eq_or_clash (L : Layout δ α) {hash : δ × δ → δ} {a b : α}
    (h : L.root hash a = L.root hash b) :
    a = b ∨ HashTree.Clash hash (L.tree a) (L.tree b) := by
  have hshape : (L.tree a).shape = (L.tree b).shape := by
    rw [L.shape_tree, L.shape_tree]
  exact (HashTree.eq_or_clash hshape h).imp_left fun h => L.injective h

/-- A value that is a digest. -/
def leaf : Layout δ δ where
  tree := .leaf
  shape := .leaf ()
  shape_tree _ := rfl
  injective _ _ h := HashTree.leaf.inj h

/-- Two values side by side. -/
def pair (L : Layout δ α) (M : Layout δ β) : Layout δ (α × β) where
  tree x := .node (L.tree x.1) (M.tree x.2)
  shape := .node L.shape M.shape
  shape_tree x := by rw [HashTree.shape, L.shape_tree, M.shape_tree]
  injective x y h := by
    obtain ⟨hleft, hright⟩ := HashTree.node.inj h
    exact Prod.ext (L.injective hleft) (M.injective hright)

/-- A value beside a fixed tree. -/
def beside (L : Layout δ α) (t : HashTree δ) : Layout δ α where
  tree a := .node (L.tree a) t
  shape := .node L.shape t.shape
  shape_tree a := by rw [HashTree.shape, L.shape_tree]
  injective a b h := L.injective (HashTree.node.inj h).1

/-- A value that is written as another one. -/
def comap (L : Layout δ β) (f : α → β) (hf : Function.Injective f) :
    Layout δ α where
  tree a := L.tree (f a)
  shape := L.shape
  shape_tree _ := L.shape_tree _
  injective _ _ h := hf (L.injective h)

/-! ### Records, filled up to a power of two -/

section Records

variable (z : δ) (A : Layout δ α) (B : Layout δ β) (C : Layout δ γ)
  (D : Layout δ ε) (E : Layout δ ζ)

def three : Layout δ (α × β × γ) :=
  ((A.pair B).pair (C.beside (.leaf z))).comap
    (fun x => ((x.1, x.2.1), x.2.2)) fun x y h => by
      simp only [Prod.mk.injEq] at h
      exact Prod.ext h.1.1 (Prod.ext h.1.2 h.2)

def four : Layout δ (α × β × γ × ε) :=
  ((A.pair B).pair (C.pair D)).comap
    (fun x => ((x.1, x.2.1), x.2.2)) fun x y h => by
      simp only [Prod.mk.injEq] at h
      exact Prod.ext h.1.1 (Prod.ext h.1.2 h.2)

def five : Layout δ (α × β × γ × ε × ζ) :=
  (((A.pair B).pair (C.pair D)).pair
    ((E.beside (.leaf z)).beside (.node (.leaf z) (.leaf z)))).comap
    (fun x => (((x.1, x.2.1), (x.2.2.1, x.2.2.2.1)), x.2.2.2.2))
    fun x y h => by
      simp only [Prod.mk.injEq] at h
      obtain ⟨⟨⟨ha, hb⟩, hc, hd⟩, he⟩ := h
      exact Prod.ext ha (Prod.ext hb (Prod.ext hc (Prod.ext hd he)))

end Records

/-! ### Blocks -/

/-- The two halves of a vector. -/
def halves {k : ℕ} (v : List.Vector α (k + k)) :
    List.Vector α k × List.Vector α k :=
  (⟨v.toList.take k, by simp⟩, ⟨v.toList.drop k, by simp⟩)

theorem halves_injective {k : ℕ} :
    Function.Injective (halves : List.Vector α (k + k) → _) := by
  intro v w h
  have hfirst := congrArg (fun x => x.1.toList) h
  have hlast := congrArg (fun x => x.2.toList) h
  change v.toList.take k = w.toList.take k at hfirst
  change v.toList.drop k = w.toList.drop k at hlast
  apply List.Vector.toList_injective
  rw [← List.take_append_drop k v.toList, hfirst, hlast,
    List.take_append_drop]

/-- The size of `2 ^ d` digests of `k` elements. -/
def blockSize (k : ℕ) : ℕ → ℕ
  | 0 => k
  | d + 1 => blockSize k d + blockSize k d

/-- A vector, cut into digests that are vectors themselves. -/
def blocks (k : ℕ) : (d : ℕ) →
    Layout (List.Vector α k) (List.Vector α (blockSize k d))
  | 0 => leaf
  | d + 1 => ((blocks k d).pair (blocks k d)).comap halves halves_injective

end Layout

end HashTree
