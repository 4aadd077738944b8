import Ansisop.Lib.Dialog

/-!
Threads that hold locks and wait for others.

`holder l` is the thread that holds the lock `l`, `waits t l` says that `t` waits for it, and
`later t l l'` that `t` may still ask for `l'` before it gives `l` back. A lock *leads* to another
when the thread that holds it may still ask for that one. While no lock leads back to itself there
is no deadlock (`Acyclic.not_deadlock`); and a lock can be taken without one when none of those its
new holder may still ask for leads to it (`Acyclic.take`).
-/

namespace Ansisop.Lib

universe u v w

open Relation

namespace Locks

variable {ι κ : Type*}

/-- Two or more threads, each of which waits for a lock that another one of them holds. -/
def Deadlock (holder : κ → Option ι) (waits : ι → κ → Prop) (S : Finset ι) : Prop :=
  2 ≤ S.card ∧ ∀ t ∈ S, ∃ l, waits t l ∧ ∃ u ∈ S, u ≠ t ∧ holder l = some u

/-- The thread that holds the one lock may still ask for the other one. -/
def Leads (holder : κ → Option ι) (later : ι → κ → κ → Prop) (l l' : κ) : Prop :=
  l ≠ l' ∧ ∃ t, holder l = some t ∧ later t l l'

/-- Nothing leads back to itself. -/
def Acyclic (r : κ → κ → Prop) : Prop := ∀ l, ¬ TransGen r l l

section Deadlock

variable {holder : κ → Option ι} {waits : ι → κ → Prop} {later : ι → κ → κ → Prop}

/-- **No cycle, no deadlock.** -/
theorem Acyclic.not_deadlock [Finite κ] (h : Acyclic (Leads holder later))
    (hlater : ∀ t l l', holder l = some t → waits t l' → later t l l') (S : Finset ι) :
    ¬ Deadlock holder waits S := by
  rintro ⟨hcard, hS⟩
  obtain ⟨t, ht⟩ := Finset.card_pos.1 (by omega : 0 < S.card)
  obtain ⟨l, hl, u, hu, hut, hlu⟩ := hS t ht
  -- a lock that leads nowhere further among those that are waited for and held in `S`
  have : Std.Irrefl (flip (TransGen (Leads holder later))) := ⟨h⟩
  have : IsTrans κ (flip (TransGen (Leads holder later))) := ⟨fun _ _ _ h₁ h₂ => h₂.trans h₁⟩
  have hwf := Finite.wellFounded_of_trans_of_irrefl (flip (TransGen (Leads holder later)))
  obtain ⟨l, ⟨u, hu, hlu⟩, hmin⟩ := hwf.has_min {l | ∃ u ∈ S, holder l = some u} ⟨l, u, hu, hlu⟩
  obtain ⟨l', hl', u', hu', huu', hlu'⟩ := hS u hu
  have hne : l ≠ l' := by
    rintro rfl
    exact huu' (Option.some.inj (hlu'.symm.trans hlu))
  exact hmin l' ⟨u', hu', hlu'⟩ (.single ⟨hne, u, hlu, hlater u l l' hlu hl'⟩)

end Deadlock

section Take

variable {r r' : κ → κ → Prop} {l : κ} {N : κ → Prop}

/-- A path along old edges and new ones out of `l`: it is an old one, or it comes to `l` and leaves
it for the last time. -/
lemma transGen_take (hr : ∀ x y, r' x y → r x y ∨ x = l ∧ N y) {x y : κ} (h : TransGen r' x y) :
    TransGen r x y ∨ ReflTransGen r x l ∧ ∃ z, N z ∧ ReflTransGen r z y := by
  induction h with
  | single hxy =>
    rcases hr _ _ hxy with h | ⟨rfl, hN⟩
    · exact .inl (.single h)
    · exact .inr ⟨.refl, _, hN, .refl⟩
  | tail _ hyz ih =>
    rcases hr _ _ hyz with h | ⟨rfl, hN⟩
    · exact ih.imp (·.tail h) fun ⟨hl, z, hz, hzy⟩ => ⟨hl, z, hz, hzy.tail h⟩
    · rcases ih with ih | ⟨hl, -⟩
      · exact .inr ⟨ih.to_reflTransGen, _, hN, .refl⟩
      · exact .inr ⟨hl, _, hN, .refl⟩

/-- **A lock is taken.** The edges that are new go out of it, to locks that do not lead to it. -/
theorem Acyclic.take (h : Acyclic r) (hr : ∀ x y, r' x y → r x y ∨ x = l ∧ N y)
    (hN : ∀ y, N y → ¬ ReflTransGen r y l) : Acyclic r' := by
  intro x hx
  rcases transGen_take hr hx with hx | ⟨hl, z, hz, hzx⟩
  · exact h x hx
  · exact hN z hz (hzx.trans hl)

/-- Edges may go away. -/
lemma Acyclic.mono (h : Acyclic r) (hr : ∀ x y, r' x y → r x y) : Acyclic r' :=
  fun x hx => h x (TransGen.mono hr x x hx)

end Take

end Locks

/-! ### What a program may still do -/

namespace Dialog

variable {E : Type u} {R : E → Type v} {α : Type w}

/-- Some run of the program puts an event of the kind `here`, and none of the kind `stop` before
it. -/
inductive Later (stop here : E → Prop) : Dialog E R α → Prop
  | here {e : E} {next : R e → Dialog E R α} (h : here e) : Later stop here (ask e next)
  | next {e : E} {next : R e → Dialog E R α} (r : R e) (hs : ¬ stop e)
      (h : Later stop here (next r)) : Later stop here (ask e next)

end Dialog

end Ansisop.Lib
