import Mathlib.Tactic

/-!
A stack of activation records. A record has cells with names, and every record but the one at the
bottom has what was saved when it was entered. A pointer is a record, counted from the bottom, and a
place in it, so that it stays the same pointer while records come and go above.
-/

namespace Ansisop.Lib.Activation

variable {N V L : Type*}

/-! ### Names -/

section Names

variable [DecidableEq N] {n : N} {l : List (N × V)} {i : ℕ}

/-- The place of the last cell with the name. -/
def lookup (n : N) : List (N × V) → Option ℕ
  | [] => none
  | x :: l =>
    match lookup n l with
    | some i => some (i + 1)
    | none => if x.1 = n then some 0 else none

lemma lookup_cons (x : N × V) : lookup n (x :: l) = match lookup n l with
    | some i => some (i + 1)
    | none => if x.1 = n then some 0 else none := rfl

lemma lookup_eq_none : lookup n l = none ↔ ∀ x ∈ l, x.1 ≠ n := by
  induction l with
  | nil => simp [lookup]
  | cons x l ih =>
    rw [List.forall_mem_cons, ← ih, lookup_cons]
    cases lookup n l <;> simp

/-- **What a name finds**: a cell that has it, and none behind it does. -/
lemma lookup_eq_some : lookup n l = some i ↔
    (∃ v, l[i]? = some (n, v)) ∧ ∀ j, i < j → ∀ v, l[j]? ≠ some (n, v) := by
  induction l generalizing i with
  | nil => simp [lookup]
  | cons x l ih =>
    cases hl : lookup n l with
    | some k =>
      obtain ⟨⟨v, hv⟩, hlast⟩ := ih.1 hl
      have hcons : lookup n (x :: l) = some (k + 1) := by rw [lookup_cons, hl]
      rw [hcons]
      constructor
      · intro h
        obtain rfl := Option.some.inj h
        refine ⟨⟨v, by simpa using hv⟩, fun j hj w => ?_⟩
        obtain ⟨j, rfl⟩ : ∃ j', j = j' + 1 := ⟨j - 1, by omega⟩
        simpa using hlast j (by omega) w
      · rintro ⟨⟨w, hw⟩, hlast'⟩
        by_contra hne
        have hne : k + 1 ≠ i := fun h => hne (congrArg some h)
        rcases Nat.lt_or_ge i (k + 1) with hlt | hge
        · exact hlast' (k + 1) hlt v (by simpa using hv)
        · obtain ⟨j, rfl⟩ : ∃ j, i = j + 1 := ⟨i - 1, by omega⟩
          exact hlast j (by omega) w (by simpa using hw)
    | none =>
      have hno := lookup_eq_none.1 hl
      have hcons : lookup n (x :: l) = if x.1 = n then some 0 else none := by
        rw [lookup_cons, hl]
      have hpos : ∀ j w, (x :: l)[j + 1]? ≠ some (n, w) := by
        intro j w hw
        exact hno (n, w) (List.mem_of_getElem? (i := j) (by simpa using hw)) rfl
      rw [hcons]
      constructor
      · intro h
        obtain ⟨hx, rfl⟩ := by simpa using h
        refine ⟨⟨x.2, by simp [← hx]⟩, fun j hj w => ?_⟩
        obtain ⟨j, rfl⟩ : ∃ j', j = j' + 1 := ⟨j - 1, by omega⟩
        exact hpos j w
      · rintro ⟨⟨v, hv⟩, -⟩
        cases i with
        | zero =>
          obtain rfl : x = (n, v) := by simpa using hv
          rw [if_pos rfl]
        | succ i => exact absurd hv (hpos i v)

end Names

/-! ### Records -/

/-- A cell: a record, counted from the bottom, and a place in it. -/
structure Ptr where
  record : ℕ
  slot : ℕ
  deriving DecidableEq, Repr

/-- Records of cells with names in `N` and values in `V`. A call saves an `L`. -/
inductive Stack (N V L : Type*)
  | bottom (cells : List (N × V))
  | call (below : Stack N V L) (link : L) (cells : List (N × V))

namespace Stack

/-- How many records are below the last one. -/
def depth : Stack N V L → ℕ
  | bottom _ => 0
  | call b _ _ => b.depth + 1

/-- The cells of the last record. -/
def cells : Stack N V L → List (N × V)
  | bottom xs => xs
  | call _ _ xs => xs

/-- What a pointer leads to. -/
def cell? : Stack N V L → Ptr → Option (N × V)
  | bottom xs, p => if p.record = 0 then xs[p.slot]? else none
  | call b _ xs, p => if p.record = b.depth + 1 then xs[p.slot]? else b.cell? p

/-- There is a cell there. -/
def Live (s : Stack N V L) (p : Ptr) : Prop := (s.cell? p).isSome

/-- The cell of the last record that has the name. -/
def find [DecidableEq N] (n : N) (s : Stack N V L) : Option Ptr :=
  (lookup n s.cells).map fun i => ⟨s.depth, i⟩

/-- A new cell in the last record. -/
def define (n : N) (v : V) : Stack N V L → Stack N V L
  | bottom xs => bottom (xs ++ [(n, v)])
  | call b l xs => call b l (xs ++ [(n, v)])

/-- A cell with another value. -/
def set (p : Ptr) (v : V) : Stack N V L → Stack N V L
  | bottom xs => bottom (if p.record = 0 then xs.modify p.slot fun x => (x.1, v) else xs)
  | call b l xs =>
    if p.record = b.depth + 1 then call b l (xs.modify p.slot fun x => (x.1, v))
    else call (b.set p v) l xs

/-! Pointers and the operations. -/

variable {s : Stack N V L} {p q : Ptr} {n : N} {v : V}

lemma cell?_bottom (xs : List (N × V)) (p : Ptr) :
    (bottom xs : Stack N V L).cell? p = if p.record = 0 then xs[p.slot]? else none := rfl

lemma cell?_call (b : Stack N V L) (l : L) (xs : List (N × V)) (p : Ptr) :
    (call b l xs).cell? p = if p.record = b.depth + 1 then xs[p.slot]? else b.cell? p := rfl

lemma set_call (b : Stack N V L) (l : L) (xs : List (N × V)) (p : Ptr) (v : V) :
    (call b l xs).set p v = if p.record = b.depth + 1
      then call b l (xs.modify p.slot fun x => (x.1, v)) else call (b.set p v) l xs := rfl

lemma cell?_top (s : Stack N V L) (i : ℕ) : s.cell? ⟨s.depth, i⟩ = s.cells[i]? := by
  cases s <;> exact if_pos rfl

@[simp] lemma depth_define (s : Stack N V L) : (s.define n v).depth = s.depth := by
  cases s <;> rfl

@[simp] lemma cells_define (s : Stack N V L) : (s.define n v).cells = s.cells ++ [(n, v)] := by
  cases s <;> rfl

@[simp] lemma depth_set (s : Stack N V L) : (s.set p v).depth = s.depth := by
  induction s with
  | bottom xs => rfl
  | call b l xs ih =>
    unfold set
    split
    · rfl
    · exact congrArg (· + 1) ih

@[simp] lemma cells_set_length (s : Stack N V L) : (s.set p v).cells.length = s.cells.length := by
  cases s with
  | bottom xs =>
    unfold set
    split <;> simp [cells]
  | call b l xs =>
    unfold set
    split <;> simp [cells]

/-- **What is read after a write.** -/
lemma cell?_set (s : Stack N V L) (p q : Ptr) (v : V) : (s.set p v).cell? q =
    if q = p then (s.cell? p).map fun x => (x.1, v) else s.cell? q := by
  have hget : ∀ xs : List (N × V), q.record = p.record → (xs.modify p.slot fun x => (x.1, v))[q.slot]?
      = if q = p then xs[p.slot]?.map fun x => (x.1, v) else xs[q.slot]? := by
    intro xs hrec
    rw [List.getElem?_modify]
    by_cases hslot : p.slot = q.slot
    · have hqp : q = p := by
        cases p
        cases q
        simp only at hrec hslot
        rw [hrec, hslot]
      simp [hqp]
    · have hqp : q ≠ p := fun h => hslot (by rw [h])
      simp [hqp, hslot]
  induction s with
  | bottom xs =>
    unfold set cell?
    by_cases hp : p.record = 0
    · rw [if_pos hp, if_pos hp]
      by_cases hq : q.record = 0
      · rw [if_pos hq, hget xs (hq.trans hp.symm)]
        simp [hq]
      · have hqp : q ≠ p := fun h => hq (h ▸ hp)
        simp [hq, hqp]
    · rw [if_neg hp]
      by_cases hqp : q = p
      · subst hqp
        simp [hp]
      · simp [hqp]
  | call b l xs ih =>
    rw [set_call, cell?_call b l xs p, cell?_call b l xs q]
    by_cases hp : p.record = b.depth + 1
    · rw [if_pos hp, if_pos hp, cell?_call]
      by_cases hq : q.record = b.depth + 1
      · rw [if_pos hq, if_pos hq, hget xs (hq.trans hp.symm)]
      · have hqp : q ≠ p := fun h => hq (h ▸ hp)
        rw [if_neg hq, if_neg hqp, if_neg hq]
    · rw [if_neg hp, if_neg hp, cell?_call, depth_set]
      by_cases hq : q.record = b.depth + 1
      · have hqp : q ≠ p := fun h => hp (h ▸ hq)
        rw [if_pos hq, if_neg hqp, if_pos hq]
      · rw [if_neg hq, if_neg hq]
        exact ih

@[simp] lemma live_set : (s.set p v).Live q ↔ s.Live q := by
  unfold Live
  rw [cell?_set]
  by_cases hqp : q = p
  · subst hqp
    simp
  · rw [if_neg hqp]

end Stack

end Ansisop.Lib.Activation
