import Mathlib.Order.Basic
import Mathlib.Order.Lattice
import Mathlib.Data.List.Pairwise
import Mathlib.Tactic.Order

/-!
# Watermarks for slashable duties

A validator key performs two kinds of slashable duty: it proposes a block in a
slot, and it votes for a link from a source epoch to a target epoch.  A signer
is safe when no two of the duties it has signed conflict: two blocks in one
slot, two votes for one target, or one vote surrounding the other.

A watermark remembers the highest slot, source and target seen.  A signer that
only signs duties its watermark accepts, and that raises the watermark over a
duty before signing it, signs a list of duties in which every earlier one
precedes every later one; such a list has no conflicts.  The epochs and slots
may be taken from any linear order.
-/

namespace Slashing

variable {α : Type} [LinearOrder α]

/-- A slashable duty of a validator. -/
inductive Duty (α : Type) where
  | block (slot : α)
  | vote (source target : α)

/-- The highest slot, source epoch and target epoch seen so far. -/
structure Watermark (α : Type) where
  slot : α
  source : α
  target : α

namespace Watermark

/-- `w` is below `w'` in every component. -/
def Below (w w' : Watermark α) : Prop :=
  w.slot ≤ w'.slot ∧ w.source ≤ w'.source ∧ w.target ≤ w'.target

theorem Below.refl (w : Watermark α) : w.Below w :=
  ⟨le_rfl, le_rfl, le_rfl⟩

theorem Below.trans {u v w : Watermark α}
    (huv : u.Below v) (hvw : v.Below w) : u.Below w :=
  ⟨huv.1.trans hvw.1, huv.2.1.trans hvw.2.1, huv.2.2.trans hvw.2.2⟩

/-- The duty lies at or below the watermark. -/
def Covers (w : Watermark α) : Duty α → Prop
  | .block slot => slot ≤ w.slot
  | .vote source target => source ≤ w.source ∧ target ≤ w.target

/-- The duty may be signed: a new block is above the watermark, a new vote has
a target above it and a source not below it. -/
def Accepts (w : Watermark α) : Duty α → Prop
  | .block slot => w.slot < slot
  | .vote source target => w.source ≤ source ∧ w.target < target

/-- Raise the watermark to an accepted duty. -/
def record (w : Watermark α) : Duty α → Watermark α
  | .block slot => { w with slot := slot }
  | .vote source target => { w with source := source, target := target }

theorem Covers.mono {w w' : Watermark α} {d : Duty α}
    (hd : w.Covers d) (hw : w.Below w') : w'.Covers d := by
  cases d with
  | block slot => exact le_trans hd hw.1
  | vote source target => exact ⟨hd.1.trans hw.2.1, hd.2.trans hw.2.2⟩

theorem record_covers (w : Watermark α) (d : Duty α) :
    (w.record d).Covers d := by
  cases d with
  | block slot => exact le_rfl
  | vote source target => exact ⟨le_rfl, le_rfl⟩

theorem below_record {w : Watermark α} {d : Duty α}
    (hd : w.Accepts d) : w.Below (w.record d) := by
  cases d with
  | block slot => exact ⟨le_of_lt hd, le_rfl, le_rfl⟩
  | vote source target => exact ⟨le_rfl, hd.1, le_of_lt hd.2⟩

end Watermark

/-! ## Order and conflicts of duties -/

/-- `a` was signed before `b` by a signer with a watermark.  Blocks and votes
do not constrain each other. -/
def Duty.Precedes : Duty α → Duty α → Prop
  | .block s, .block s' => s < s'
  | .vote s t, .vote s' t' => s ≤ s' ∧ t < t'
  | _, _ => True

/-- `a` surrounds `b`: its source is earlier and its target later. -/
def Duty.Surrounds : Duty α → Duty α → Prop
  | .vote s t, .vote s' t' => s < s' ∧ t' < t
  | _, _ => False

/-- Two duties of one kind for one slot, or for one target epoch. -/
def Duty.Doubles : Duty α → Duty α → Prop
  | .block s, .block s' => s = s'
  | .vote _ t, .vote _ t' => t = t'
  | _, _ => False

/-- Signing both duties is a slashable offense. -/
def Duty.Conflicts (a b : Duty α) : Prop :=
  a.Doubles b ∨ a.Surrounds b ∨ b.Surrounds a

theorem Duty.Conflicts.symm {a b : Duty α}
    (h : a.Conflicts b) : b.Conflicts a := by
  rcases h with hdouble | hsurr | hsurr
  · left
    cases a <;> cases b <;> first | exact Eq.symm hdouble | exact hdouble
  · exact .inr (.inr hsurr)
  · exact .inr (.inl hsurr)

theorem Duty.Precedes.not_conflicts {a b : Duty α}
    (h : a.Precedes b) : ¬ a.Conflicts b := by
  cases a with
  | block s =>
      cases b with
      | block s' => simpa [Conflicts, Doubles, Surrounds] using ne_of_lt h
      | vote s' t' => simp [Conflicts, Doubles, Surrounds]
  | vote s t =>
      cases b with
      | block s' => simp [Conflicts, Doubles, Surrounds]
      | vote s' t' =>
          obtain ⟨hs, ht⟩ := h
          rintro (hdouble | hsurr | hsurr)
          · exact (ne_of_lt ht) hdouble
          · exact lt_asymm ht hsurr.2
          · exact not_lt_of_ge hs hsurr.1

/-- What the watermark covers precedes what it accepts. -/
theorem Watermark.precedes_of_covers_accepts
    {w : Watermark α} {a b : Duty α}
    (ha : w.Covers a) (hb : w.Accepts b) : a.Precedes b := by
  cases a with
  | block s =>
      cases b with
      | block s' => exact lt_of_le_of_lt ha hb
      | vote s' t' => trivial
  | vote s t =>
      cases b with
      | block s' => trivial
      | vote s' t' => exact ⟨ha.1.trans hb.1, lt_of_le_of_lt ha.2 hb.2⟩

/-! ## The signer as an abstract machine -/

/-- A signer with a watermark, unless it has lost it or has none yet; the
duties it was told of at the start; and the duties it has signed, in order. -/
structure Signer (α : Type) where
  mark : Option (Watermark α)
  imported : List (Duty α)
  signed : List (Duty α)

namespace Signer

/-- The signer's invariant: the watermark covers everything it knows of, and
earlier duties precede later ones. -/
structure Safe (S : Signer α) : Prop where
  imported_covered : ∀ w, S.mark = some w → ∀ d ∈ S.imported, w.Covers d
  signed_covered : ∀ w, S.mark = some w → ∀ d ∈ S.signed, w.Covers d
  after_imported : ∀ d ∈ S.imported, ∀ e ∈ S.signed, d.Precedes e
  ordered : S.signed.Pairwise Duty.Precedes

/-- A signer without a watermark signs nothing. -/
def lose (S : Signer α) : Signer α :=
  { S with mark := none }

/-- Set the watermark without signing anything. -/
def setMark (S : Signer α) (w : Watermark α) : Signer α :=
  { S with mark := some w }

/-- Sign a duty and set the watermark to `w`. -/
def sign (S : Signer α) (d : Duty α) (w : Watermark α) : Signer α :=
  { S with mark := some w, signed := S.signed ++ [d] }

variable {S : Signer α} {d : Duty α} {u w : Watermark α}

theorem Safe.lose (hS : S.Safe) : S.lose.Safe where
  imported_covered _ h := by cases h
  signed_covered _ h := by cases h
  after_imported := hS.after_imported
  ordered := hS.ordered

/-- Any watermark will do for a signer that knows of no duty. -/
theorem Safe.start (himported : S.imported = []) (hsigned : S.signed = [])
    (w : Watermark α) : (S.setMark w).Safe where
  imported_covered _ _ d hd := by
    rw [setMark, himported] at hd
    cases hd
  signed_covered _ _ d hd := by
    rw [setMark, hsigned] at hd
    cases hd
  after_imported d hd := by
    rw [setMark, himported] at hd
    cases hd
  ordered := by
    rw [setMark, hsigned]
    exact List.Pairwise.nil

theorem Safe.raise (hS : S.Safe) (hu : S.mark = some u) (hw : u.Below w) :
    (S.setMark w).Safe where
  imported_covered v hv d hd := by
    obtain rfl := Option.some.inj hv
    exact (hS.imported_covered u hu d hd).mono hw
  signed_covered v hv d hd := by
    obtain rfl := Option.some.inj hv
    exact (hS.signed_covered u hu d hd).mono hw
  after_imported := hS.after_imported
  ordered := hS.ordered

theorem Safe.sign (hS : S.Safe) (hu : S.mark = some u) (hd : u.Accepts d)
    (hw : u.Below w) (hcovers : w.Covers d) : (S.sign d w).Safe where
  imported_covered v hv e he := by
    obtain rfl := Option.some.inj hv
    exact (hS.imported_covered u hu e he).mono hw
  signed_covered v hv e he := by
    obtain rfl := Option.some.inj hv
    rcases List.mem_append.mp he with hold | hnew
    · exact (hS.signed_covered u hu e hold).mono hw
    · obtain rfl := List.mem_singleton.mp hnew
      exact hcovers
  after_imported e he e' he' := by
    rcases List.mem_append.mp he' with hold | hnew
    · exact hS.after_imported e he e' hold
    · obtain rfl := List.mem_singleton.mp hnew
      exact Watermark.precedes_of_covers_accepts
        (hS.imported_covered u hu e he) hd
  ordered := by
    refine List.pairwise_append.mpr ⟨hS.ordered, by simp, ?_⟩
    intro e he e' he'
    obtain rfl := List.mem_singleton.mp he'
    exact Watermark.precedes_of_covers_accepts
      (hS.signed_covered u hu e he) hd

/-- No two duties signed by a safe signer conflict, nor one it signed with one
it was told of. -/
theorem Safe.no_conflict (hS : S.Safe) :
    (S.signed.Pairwise fun a b => ¬ a.Conflicts b) ∧
      ∀ a ∈ S.imported, ∀ b ∈ S.signed, ¬ a.Conflicts b :=
  ⟨hS.ordered.imp Duty.Precedes.not_conflicts,
    fun a ha b hb => (hS.after_imported a ha b hb).not_conflicts⟩

end Signer

end Slashing
