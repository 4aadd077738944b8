import Mathlib.Tactic

/-!
Searching a queue by turning it: an element is taken from the front and, when it is not the one
looked for, put back at the end. After as many turns as there are elements the queue is as it was;
a search that stops when it has found its element leaves the queue turned (`rotateFind_sublist_iff`).
-/

namespace Ansisop.Lib

variable {α : Type*}

/-- At most `n` turns of the queue in search of an element that satisfies `p`: the element found,
and the queue without it. There is no result when the queue runs out of elements, or when `p`
cannot be asked of one. -/
def rotateFind (p : α → Option Bool) : ℕ → List α → Option (Option α × List α)
  | 0, q => some (none, q)
  | _ + 1, [] => none
  | n + 1, x :: q =>
    match p x with
    | none => none
    | some true => some (some x, q)
    | some false => rotateFind p n (q ++ [x])

variable {p : α → Option Bool}

lemma rotateFind_append : ∀ (l r : List α) (res : Option α × List α),
    rotateFind p l.length (l ++ r) = some res →
    (∃ pre x post, l = pre ++ x :: post ∧ (∀ y ∈ pre, p y = some false) ∧ p x = some true ∧
      res = (some x, post ++ r ++ pre)) ∨
    ((∀ y ∈ l, p y = some false) ∧ res = (none, r ++ l))
  | [], r, res, h => by
    right
    simpa [rotateFind, eq_comm] using h
  | x :: l, r, res, h => by
    rw [List.length_cons, List.cons_append, rotateFind] at h
    split at h
    · exact absurd h (by simp)
    · rename_i hx
      exact .inl ⟨[], x, l, rfl, by simp, hx, by simpa [eq_comm] using h⟩
    · rename_i hx
      rw [List.append_assoc] at h
      rcases rotateFind_append l _ res h with ⟨pre, z, post, rfl, hpre, hz, rfl⟩ | ⟨hl, rfl⟩
      · exact .inl ⟨x :: pre, z, post, rfl, by simpa [hx] using hpre, hz, by simp⟩
      · exact .inr ⟨by simpa [hx] using hl, by simp⟩

/-- **A whole turn of the search**: the first element that satisfies `p` leaves, those before it
end up behind those after it; or nothing satisfies `p` and the queue is as before. -/
theorem rotateFind_length {q : List α} {res : Option α × List α}
    (h : rotateFind p q.length q = some res) :
    (∃ pre x post, q = pre ++ x :: post ∧ (∀ y ∈ pre, p y = some false) ∧ p x = some true ∧
      res = (some x, post ++ pre)) ∨
    ((∀ y ∈ q, p y = some false) ∧ res = (none, q)) := by
  have h' := rotateFind_append q [] res (by simpa using h)
  simpa using h'

/-- A search of no more turns than there are elements has a result, if `p` can be asked of each. -/
theorem rotateFind_isSome : ∀ (n : ℕ) (q : List α), n ≤ q.length → (∀ x ∈ q, (p x).isSome) →
    (rotateFind p n q).isSome
  | 0, _, _, _ => rfl
  | n + 1, [], hn, _ => absurd hn (by simp)
  | n + 1, x :: q, hn, hp => by
    obtain ⟨b, hb⟩ := Option.isSome_iff_exists.1 (hp x (List.mem_cons_self ..))
    rw [rotateFind, hb]
    cases b with
    | true => rfl
    | false =>
      have hn : n ≤ q.length := by simpa using hn
      refine rotateFind_isSome n (q ++ [x]) (by simp; omega) fun y hy => hp y ?_
      simpa [or_comm] using hy

/-- The search finds the first element that satisfies `p`. -/
theorem rotateFind_found : ∀ {pre post : List α} {x : α} (n : ℕ), (∀ y ∈ pre, p y = some false) →
    p x = some true → rotateFind p (pre.length + 1 + n) (pre ++ x :: post) = some (some x, post ++ pre)
  | [], post, x, n, _, hx => by
    rw [List.length_nil, Nat.zero_add, Nat.add_comm, List.nil_append, rotateFind, hx,
      List.append_nil]
  | y :: pre, post, x, n, hpre, hx => by
    have hy : p y = some false := hpre y (by simp)
    rw [List.length_cons, show pre.length + 1 + 1 + n = (pre.length + 1 + n) + 1 by omega,
      List.cons_append, rotateFind, hy, List.append_assoc, List.cons_append,
      rotateFind_found n (fun z hz => hpre z (by simp [hz])) hx]
    simp

/-! ### The order of the rest -/

/-- The first element that satisfies `q` stands at an end of the list. -/
def FirstAtEnd (q : α → Prop) (l : List α) : Prop :=
  ∀ pre x post, l = pre ++ x :: post → (∀ y ∈ pre, ¬ q y) → q x → pre = [] ∨ post = []

/-- There is one first element that satisfies `q`. -/
lemma first_unique {q : α → Prop} : ∀ {pre pre' : List α} {x x' : α} {post post' : List α},
    pre ++ x :: post = pre' ++ x' :: post' → (∀ y ∈ pre, ¬ q y) → q x → (∀ y ∈ pre', ¬ q y) →
      q x' → pre = pre' ∧ post = post'
  | [], [], _, _, _, _, h, _, _, _, _ => ⟨rfl, (List.cons.inj h).2⟩
  | [], y :: pre', x, _, _, _, h, _, hx, hpre', _ => by
    obtain ⟨rfl, -⟩ := List.cons.inj h
    exact absurd hx (hpre' x (List.mem_cons_self ..))
  | y :: pre, [], _, x', _, _, h, hpre, _, _, hx' => by
    obtain ⟨rfl, -⟩ := List.cons.inj h
    exact absurd hx' (hpre y (List.mem_cons_self ..))
  | y :: pre, y' :: pre', _, _, _, _, h, hpre, hx, hpre', hx' => by
    obtain ⟨rfl, ht⟩ := List.cons.inj h
    obtain ⟨rfl, rfl⟩ := first_unique ht (fun z hz => hpre z (List.mem_cons_of_mem _ hz)) hx
      (fun z hz => hpre' z (List.mem_cons_of_mem _ hz)) hx'
    exact ⟨rfl, rfl⟩

lemma firstAtEnd_iff {q : α → Prop} {pre post : List α} {x : α} (hpre : ∀ y ∈ pre, ¬ q y)
    (hx : q x) : FirstAtEnd q (pre ++ x :: post) ↔ pre = [] ∨ post = [] := by
  refine ⟨fun h => h pre x post rfl hpre hx, fun h pre' x' post' he hpre' hx' => ?_⟩
  obtain ⟨rfl, rfl⟩ := first_unique he hpre hx hpre' hx'
  exact h

lemma firstAtEnd_cons {q : α → Prop} {post : List α} {x : α} (hx : q x) :
    FirstAtEnd q (x :: post) :=
  (firstAtEnd_iff (fun _ hy => absurd hy List.not_mem_nil) hx).2 (.inl rfl)

/-- Two elements of a list without repetitions stand in one order. -/
lemma not_sublist_swap {a b : α} : ∀ {l : List α}, l.Nodup → [a, b].Sublist l →
    ¬ [b, a].Sublist l
  | [], _, h, _ => by cases h
  | c :: l, hl, h, h' => by
    obtain ⟨hc, hl⟩ := List.nodup_cons.1 hl
    cases h with
    | cons _ h =>
      cases h' with
      | cons _ h' => exact not_sublist_swap hl h h'
      | cons_cons _ h' => exact hc (h.subset (List.mem_cons_of_mem _ (List.mem_singleton_self _)))
    | cons_cons _ h =>
      cases h' with
      | cons _ h' => exact hc (h'.subset (List.mem_cons_of_mem _ (List.mem_singleton_self _)))
      | cons_cons _ h' => exact hc (List.singleton_sublist.1 h')

/-- The two parts of a list change places in the order of the list only when one of them is empty. -/
lemma append_swap_sublist_iff {pre post : List α} {x : α} (hl : (pre ++ x :: post).Nodup) :
    (post ++ pre).Sublist (pre ++ x :: post) ↔ pre = [] ∨ post = [] := by
  constructor
  · intro h
    rcases pre with _ | ⟨a, pre⟩
    · exact .inl rfl
    rcases post with _ | ⟨b, post⟩
    · exact .inr rfl
    have ha : [a].Sublist (a :: pre) := List.singleton_sublist.2 (List.mem_cons_self ..)
    have hb : [b].Sublist (b :: post) := List.singleton_sublist.2 (List.mem_cons_self ..)
    have hba : [b, a].Sublist (a :: pre ++ x :: b :: post) := (hb.append ha).trans h
    have hab : [a, b].Sublist (a :: pre ++ x :: b :: post) :=
      ha.append (hb.trans (List.sublist_cons_self x _))
    exact absurd hba (not_sublist_swap hl hab)
  · rintro (rfl | rfl)
    · simp
    · simp

/-- **What a search does to the order of the rest**: it keeps it exactly when the element found stood
at an end. -/
theorem rotateFind_sublist_iff {q : List α} {res : Option α × List α} (hq : q.Nodup)
    (h : rotateFind p q.length q = some res) :
    res.2.Sublist q ↔ FirstAtEnd (fun x => p x = some true) q := by
  rcases rotateFind_length h with ⟨pre, x, post, rfl, hpre, hx, rfl⟩ | ⟨hno, rfl⟩
  · have hpre' : ∀ y ∈ pre, ¬ p y = some true := fun y hy => by rw [hpre y hy]; simp
    rw [append_swap_sublist_iff hq, firstAtEnd_iff (q := fun x => p x = some true) hpre' hx]
  · refine iff_of_true (List.Sublist.refl _) fun pre x post he _ hx => ?_
    have hfalse := hno x (by rw [he]; simp)
    exact absurd (hfalse.symm.trans hx) (by simp)

end Ansisop.Lib
