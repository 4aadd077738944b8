import Ansisop.Lib.Dialog

/-!
Programs under watch. A monitor has a state of its own: it says which events a program may put, and
how it goes on with each answer it takes as possible.

`Keeps μ t m Q` says that the program `t` puts only events that the monitor `μ` allows from its
state `m` on, whatever the possible answers, and that `Q` holds of the result and the monitor's
state when it finishes. The rules follow the programs: `Keeps.bind` for sequences, and for programs
that carry a state as well, `Safe` with the rules of the same names.

`Keeps.goes` turns this into a statement about the runs of a program. `EachStep P l` says of a list
of actions that each one is as `P` wants it after those before it.
-/

namespace Ansisop.Lib

universe u v w

/-- Each member of the list is as `P` wants it after those before it. -/
def EachStep {β : Type*} (P : List β → β → Prop) (l : List β) : Prop :=
  ∀ pre x post, l = pre ++ x :: post → P pre x

/-- Some member of the list is as `P` wants it after those before it. -/
def SomeStep {β : Type*} (P : List β → β → Prop) (l : List β) : Prop :=
  ∃ pre x post, l = pre ++ x :: post ∧ P pre x

section EachStep

variable {β : Type*} {P P' : List β → β → Prop} {l : List β} {x : β}

@[simp] lemma eachStep_nil : EachStep P [] := fun pre _ _ h => by cases pre <;> exact absurd h nofun

lemma EachStep.mono (h : EachStep P l) (hP : ∀ pre x, P pre x → P' pre x) : EachStep P' l :=
  fun pre x post hl => hP _ _ (h pre x post hl)

lemma EachStep.take {l' : List β} (h : EachStep P (l ++ l')) : EachStep P l :=
  fun pre x post hl => h pre x (post ++ l') (by simp [hl])

lemma eachStep_concat : EachStep P (l ++ [x]) ↔ EachStep P l ∧ P l x := by
  refine ⟨fun h => ⟨h.take, h l x [] rfl⟩, fun h pre y post hl => ?_⟩
  rcases List.eq_nil_or_concat post with rfl | ⟨post, z, rfl⟩
  · obtain ⟨rfl, hxy⟩ := List.append_inj' hl rfl
    obtain rfl := by simpa using hxy
    exact h.2
  · rw [List.concat_eq_append, ← List.cons_append, ← List.append_assoc] at hl
    exact h.1 pre y post (List.append_inj' hl rfl).1

lemma SomeStep.append {l' : List β} (h : SomeStep P l) : SomeStep P (l ++ l') := by
  obtain ⟨pre, x, post, rfl, hx⟩ := h
  exact ⟨pre, x, post ++ l', by simp, hx⟩

end EachStep

/-- Which events are allowed, and how to go on with an answer. -/
structure Monitor (E : Type u) (R : E → Type v) (M : Type*) where
  allows : M → E → Prop
  next : M → (e : E) → R e → M → Prop

namespace Dialog

variable {E : Type u} {R : E → Type v} {M : Type*} {α β : Type w} (μ : Monitor E R M)

/-- The program puts only allowed events, and finishes with `Q`. -/
def Keeps : Dialog E R α → M → (α → M → Prop) → Prop
  | ret a, m, Q => Q a m
  | ask e next, m, Q => μ.allows m e ∧ ∀ r m', μ.next m e r m' → Keeps (next r) m' Q

variable {μ}

@[simp] lemma keeps_ret {a : α} {m : M} {Q : α → M → Prop} : Keeps μ (ret a) m Q ↔ Q a m := Iff.rfl

lemma Keeps.mono {P Q : α → M → Prop} (h : ∀ a m, P a m → Q a m) :
    ∀ {t : Dialog E R α} {m : M}, Keeps μ t m P → Keeps μ t m Q
  | ret _, _, ht => h _ _ ht
  | ask _ _, _, ht => ⟨ht.1, fun r m' hm => (ht.2 r m' hm).mono h⟩

/-- **Sequences.** -/
theorem Keeps.bind {P : α → M → Prop} {Q : β → M → Prop} {f : α → Dialog E R β}
    (hf : ∀ a m, P a m → Keeps μ (f a) m Q) :
    ∀ {t : Dialog E R α} {m : M}, Keeps μ t m P → Keeps μ (t >>= f) m Q
  | ret _, _, ht => hf _ _ ht
  | ask _ _, _, ht => ⟨ht.1, fun r m' hm => (ht.2 r m' hm).bind hf⟩

/-! ### Runs -/

/-- The program goes through the actions of the list, to what is left of it. -/
inductive Goes : Dialog E R α → List (Σ e, R e) → Dialog E R α → Prop
  | nil (t) : Goes t [] t
  | cons {e next r l t} : Goes (next r) l t → Goes (ask e next) (⟨e, r⟩ :: l) t

/-- The monitor follows the actions of the list. -/
inductive Follows (μ : Monitor E R M) : M → List (Σ e, R e) → M → Prop
  | nil (m) : Follows μ m [] m
  | cons {m e r m' l m''} : μ.next m e r m' → Follows μ m' l m'' → Follows μ m (⟨e, r⟩ :: l) m''

/-- **What is left of a program under watch is under watch.** -/
theorem Keeps.goes {Q : α → M → Prop} {t t' : Dialog E R α} {l : List (Σ e, R e)} (ht : Goes t l t') :
    ∀ {m m' : M}, Keeps μ t m Q → Follows μ m l m' → Keeps μ t' m' Q := by
  induction ht with
  | nil t => exact fun h hm => by cases hm; exact h
  | cons _ ih => exact fun h hm => by cases hm with | cons hn hm => exact ih (h.2 _ _ hn) hm

/-- **Every event of a run is allowed** where it is put. -/
theorem Keeps.allows {Q : α → M → Prop} {t t' : Dialog E R α} :
    ∀ {pre post : List (Σ e, R e)} {e : E} {r : R e} {m m' : M}, Keeps μ t m Q →
      Goes t (pre ++ ⟨e, r⟩ :: post) t' → Follows μ m pre m' → μ.allows m' e
  | [], _, _, _, _, _, h, .cons _, .nil _ => h.1
  | _ :: _, _, _, _, _, _, h, .cons ht, .cons hn hm => (h.2 _ _ hn).allows ht hm

section Logged

variable {σ : Type*} (h : (e : E) → σ → Option (R e × σ))

/-- The answering machine that also writes down the actions. -/
def logged (e : E) (s : σ × List (Σ e, R e)) : Option (R e × σ × List (Σ e, R e)) :=
  (h e s.1).map fun r => (r.1, r.2, s.2 ++ [⟨e, r.1⟩])

/-- **What an answering machine writes down is a run.** -/
theorem goes_of_interp : ∀ {t : Dialog E R α} {s s' : σ} {l₀ l : List (Σ e, R e)} {a : α},
    interp (logged h) t (s, l₀) = some (a, s', l) → ∃ l', l = l₀ ++ l' ∧ Goes t l' (ret a)
  | ret _, _, _, l₀, _, _, hr => by
    obtain ⟨rfl, rfl, rfl⟩ := by simpa using hr
    exact ⟨[], by simp, .nil _⟩
  | ask e next, s, s', l₀, l, a, hr => by
    obtain ⟨⟨r, s₁, l₁⟩, h₁, h₂⟩ := Option.bind_eq_some_iff.1 hr
    obtain ⟨⟨r', s₁'⟩, -, he⟩ := Option.map_eq_some_iff.1 h₁
    obtain ⟨rfl, rfl, rfl⟩ := by simpa using he
    obtain ⟨l', rfl, hg⟩ := goes_of_interp h₂
    exact ⟨⟨e, r'⟩ :: l', by simp, .cons hg⟩

end Logged

/-! ### Programs with a state -/

section Safe

variable {σ : Type w}

/-- The program puts only allowed events from the state `s` on, and finishes with `Q`. -/
def Safe (μ : Monitor E R M) (x : StateT σ (Dialog E R) α) (s : σ) (m : M)
    (Q : α → σ → M → Prop) : Prop :=
  Keeps μ (x s) m fun r m' => Q r.1 r.2 m'

variable {s : σ} {m : M} {Q : α → σ → M → Prop}

lemma safe_pure {a : α} (h : Q a s m) : Safe μ (pure a) s m Q := h

lemma safe_modify {f : σ → σ} {Q : PUnit → σ → M → Prop} (h : Q ⟨⟩ (f s) m) :
    Safe μ (modify f) s m Q := h

lemma Safe.mono {x : StateT σ (Dialog E R) α} {P : α → σ → M → Prop} (h : Safe μ x s m P)
    (hPQ : ∀ a s m, P a s m → Q a s m) : Safe μ x s m Q :=
  Keeps.mono (fun r m' hr => hPQ r.1 r.2 m' hr) h

lemma Safe.bind {x : StateT σ (Dialog E R) α} {f : α → StateT σ (Dialog E R) β}
    {P : α → σ → M → Prop} {Q : β → σ → M → Prop} (h : Safe μ x s m P)
    (hf : ∀ a s m, P a s m → Safe μ (f a) s m Q) : Safe μ (x >>= f) s m Q :=
  Keeps.bind (fun (r : α × σ) m' hr => hf r.1 r.2 m' hr) h

lemma safe_get_bind {f : σ → StateT σ (Dialog E R) α} (h : Safe μ (f s) s m Q) :
    Safe μ (get >>= f) s m Q := h

lemma safe_modify_bind {g : σ → σ} {f : PUnit → StateT σ (Dialog E R) α}
    (h : Safe μ (f ⟨⟩) (g s) m Q) : Safe μ (modify g >>= f) s m Q := h

end Safe

end Dialog

end Ansisop.Lib
