import Mathlib.Tactic

/-!
Registers that are read and written by name, as one map: what a sequence of accesses leaves in them
is the value last written into each (`foldr_apply`).
-/

namespace Ansisop.Lib

variable {K V : Type*}

/-- An access to the register of a name. -/
inductive Access (K V : Type*)
  | read (x : K)
  | write (x : K) (v : V)
  deriving DecidableEq

namespace Access

def key : Access K V → K
  | read x => x
  | write x _ => x

variable [DecidableEq K]

/-- The registers after the access, which makes no new one. -/
def apply : Access K V → (K → Option V) → K → Option V
  | read _, d => d
  | write x v, d => if (d x).isSome then Function.update d x (some v) else d

/-- The value last written under the name, the last access first. -/
def lastWrite (x : K) : List (Access K V) → Option V
  | [] => none
  | read _ :: l => lastWrite x l
  | write y v :: l => if y = x then some v else lastWrite x l

lemma apply_of_ne {a : Access K V} {y : K} (d : K → Option V) (h : y ≠ a.key) :
    a.apply d y = d y := by
  cases a with
  | read x => rfl
  | write x v =>
    rw [apply]
    split
    · exact Function.update_of_ne h _ _
    · rfl

lemma apply_of_none {a : Access K V} {d : K → Option V} (h : d a.key = none) : a.apply d = d := by
  cases a with
  | read x => rfl
  | write x v =>
    have hx : d x = none := h
    rw [apply, hx]
    rfl

/-- **Each register holds the last write of its name**, or what it held at first. -/
theorem foldr_apply (d : K → Option V) (l : List (Access K V)) (x : K) :
    l.foldr apply d x = (d x).map (lastWrite x l).getD := by
  induction l with
  | nil => cases hd : d x <;> simp [lastWrite, hd]
  | cons a l ih =>
    cases a with
    | read y => exact ih
    | write y v =>
      rw [List.foldr_cons, apply, lastWrite]
      rcases eq_or_ne y x with rfl | hyx
      · cases hd : d y <;> simp [ih, hd]
      · rw [if_neg hyx]
        split
        · rw [Function.update_of_ne hyx.symm, ih]
        · exact ih

end Access

end Ansisop.Lib
