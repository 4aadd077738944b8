import Mathlib.Tactic

/-!
Programs that talk to their surroundings, as trees: a program has finished, or it puts an event
and goes on with the answer. A tree says what a program does for every answer it may get, before
anything is said about who answers.

`interp` runs a tree against an answering machine with a state of its own; a run of `x >>= f` is a
run of `x` followed by one of `f`.
-/

namespace Ansisop.Lib

universe u v w

/-- A program over the events `E`, with the answers `R e` to the event `e` and a result in `α`. -/
inductive Dialog (E : Type u) (R : E → Type v) (α : Type w) : Type (max u v w)
  | ret (a : α)
  | ask (e : E) (next : R e → Dialog E R α)

namespace Dialog

variable {E : Type u} {R : E → Type v} {α β γ : Type w}

/-- Sequencing: the second program starts where the first one has finished. -/
def bind : Dialog E R α → (α → Dialog E R β) → Dialog E R β
  | ret a, f => f a
  | ask e next, f => ask e fun r => (next r).bind f

instance : Monad (Dialog E R) where
  pure := ret
  bind := bind

@[simp] lemma ret_bind (a : α) (f : α → Dialog E R β) : (ret a >>= f) = f a := rfl

@[simp] lemma ask_bind (e : E) (next : R e → Dialog E R α) (f : α → Dialog E R β) :
    (ask e next >>= f) = ask e fun r => next r >>= f := rfl

@[simp] lemma pure_eq_ret (a : α) : (pure a : Dialog E R α) = ret a := rfl

lemma bind_ret : ∀ x : Dialog E R α, (x >>= ret) = x
  | ret _ => rfl
  | ask e next => congrArg (ask e) (funext fun r => bind_ret (next r))

lemma bind_assoc (f : α → Dialog E R β) (g : β → Dialog E R γ) :
    ∀ x : Dialog E R α, (x >>= f) >>= g = x >>= fun a => f a >>= g
  | ret _ => rfl
  | ask e next => congrArg (ask e) (funext fun r => bind_assoc f g (next r))

instance : LawfulMonad (Dialog E R) :=
  LawfulMonad.mk' _ bind_ret (fun _ _ => rfl) fun x f g => bind_assoc f g x

/-! ### Running a tree -/

section Interp

variable {σ : Type*} (h : (e : E) → σ → Option (R e × σ))

/-- The run of a tree whose events `h` answers. There is no result where `h` has no answer. -/
def interp : Dialog E R α → σ → Option (α × σ)
  | ret a, s => some (a, s)
  | ask e next, s => (h e s).bind fun r => interp (next r.1) r.2

@[simp] lemma interp_ret (a : α) (s : σ) : interp h (ret a) s = some (a, s) := rfl

@[simp] lemma interp_ask (e : E) (next : R e → Dialog E R α) (s : σ) :
    interp h (ask e next) s = (h e s).bind fun r => interp h (next r.1) r.2 := rfl

/-- **A run of a sequence is a run of its parts.** -/
theorem interp_bind (f : α → Dialog E R β) : ∀ (x : Dialog E R α) (s : σ),
    interp h (x >>= f) s = (interp h x s).bind fun r => interp h (f r.1) r.2
  | ret _, _ => rfl
  | ask e next, s => by
    rw [ask_bind, interp_ask, interp_ask, Option.bind_assoc]
    exact congrArg _ (funext fun r => interp_bind f (next r.1) r.2)

end Interp

end Dialog

end Ansisop.Lib
