import Mathlib.Tactic

/-!
Runs of a machine whose steps may have no result, and the rule that a property every step keeps
holds after every run. `Along cond` says that each step of a run meets a condition in the state it
is made in.
-/

namespace Ansisop.Lib

variable {σ ι : Type*} (step : ι → σ → Option σ)

/-- The state after a list of steps, the first one first. -/
def run : List ι → σ → Option σ
  | [], s => some s
  | i :: l, s => (step i s).bind (run l)

/-- Each step of the run meets the condition where it is made. -/
def Along (cond : σ → ι → Prop) : List ι → σ → Prop
  | [], _ => True
  | i :: l, s => cond s i ∧ ∀ s', step i s = some s' → Along cond l s'

variable {step}

@[simp] lemma run_nil (s : σ) : run step [] s = some s := rfl

lemma run_cons {i : ι} {l : List ι} {s s' : σ} (h : run step (i :: l) s = some s') :
    ∃ s₁, step i s = some s₁ ∧ run step l s₁ = some s' := Option.bind_eq_some_iff.1 h

lemma run_append (l l' : List ι) (s : σ) :
    run step (l ++ l') s = (run step l s).bind (run step l') := by
  induction l generalizing s with
  | nil => rfl
  | cons i l ih =>
    rw [List.cons_append, run, run, Option.bind_assoc]
    exact congrArg _ (funext ih)

lemma Along.cons {cond : σ → ι → Prop} {i : ι} {l : List ι} {s s₁ : σ} (hs : step i s = some s₁)
    (hc : cond s i) (hl : Along step cond l s₁) : Along step cond (i :: l) s :=
  ⟨hc, fun _ hs' => Option.some.inj (hs.symm.trans hs') ▸ hl⟩

lemma Along.mono {cond cond' : σ → ι → Prop} (hc : ∀ s i, cond s i → cond' s i) :
    ∀ {l : List ι} {s : σ}, Along step cond l s → Along step cond' l s
  | [], _, _ => trivial
  | _ :: _, _, h => ⟨hc _ _ h.1, fun s' hs => (h.2 s' hs).mono hc⟩

/-- Along a run that starts in an invariant, a condition that with it gives another one, under which
the steps keep it. -/
lemma Along.strengthen {cond cond' : σ → ι → Prop} {I : σ → Prop}
    (hI : ∀ s i s', I s → cond' s i → step i s = some s' → I s')
    (hc : ∀ s i, I s → cond s i → cond' s i) :
    ∀ {l : List ι} {s : σ}, I s → Along step cond l s → Along step cond' l s
  | [], _, _, _ => trivial
  | i :: _, s, hs, h =>
    have hi := hc s i hs h.1
    ⟨hi, fun s' hs' => (h.2 s' hs').strengthen hI hc (hI s i s' hs hi hs')⟩

/-- A condition that can be decided can be decided along a run. -/
instance Along.decidable {cond : σ → ι → Prop} [∀ s i, Decidable (cond s i)] :
    ∀ (l : List ι) (s : σ), Decidable (Along step cond l s)
  | [], _ => isTrue trivial
  | i :: l, s =>
    match hs : step i s with
    | none => decidable_of_iff (cond s i) ⟨fun h => ⟨h, by simp [hs]⟩, fun h => h.1⟩
    | some s' =>
      have : Decidable (Along step cond l s') := Along.decidable l s'
      decidable_of_iff (cond s i ∧ Along step cond l s')
        ⟨fun h => .cons hs h.1 h.2, fun h => ⟨h.1, h.2 s' hs⟩⟩

/-- **The invariant rule.** What every step that meets the condition keeps holds after every run
whose steps meet it. -/
theorem run_invariant {cond : σ → ι → Prop} {I : σ → Prop}
    (hstep : ∀ s i s', I s → cond s i → step i s = some s' → I s') :
    ∀ {l : List ι} {s s' : σ}, I s → Along step cond l s → run step l s = some s' → I s'
  | [], s, s', hs, _, h => by
    obtain rfl := Option.some.inj h
    exact hs
  | i :: l, s, s', hs, hl, h => by
    obtain ⟨s₁, h₁, h₂⟩ := run_cons h
    exact run_invariant hstep (hstep s i s₁ hs hl.1 h₁) (hl.2 s₁ h₁) h₂

/-- **The invariant at every point of a run.** Where a step keeps the invariant exactly when it
meets the condition, the invariant holds after every beginning of a run exactly when each step meets
the condition where it is made. `J` is what the steps keep on any condition. -/
theorem forall_prefix_iff {J I : σ → Prop} {cond : σ → ι → Prop} {ok : ι → Prop}
    (hJ : ∀ s i s', J s → ok i → step i s = some s' → J s')
    (hI : ∀ s i s', J s → I s → ok i → step i s = some s' → (I s' ↔ cond s i))
    (hnone : ∀ s i, step i s = none → cond s i) :
    ∀ (l : List ι) (s : σ), (∀ i ∈ l, ok i) → J s → I s →
      ((∀ l₁ l₂ s', l = l₁ ++ l₂ → run step l₁ s = some s' → I s') ↔ Along step cond l s)
  | [], s, _, _, hs => by
    refine ⟨fun _ => trivial, fun _ l₁ l₂ s' hl h => ?_⟩
    obtain ⟨rfl, rfl⟩ := List.append_eq_nil_iff.1 hl.symm
    obtain rfl := Option.some.inj h
    exact hs
  | i :: l, s, hok, hj, hs => by
    have hi := hok i (List.mem_cons_self ..)
    have hl := fun k hk => hok k (List.mem_cons_of_mem i hk)
    constructor
    · intro h
      refine ⟨?_, fun s₁ h₁ => ?_⟩
      · cases h₁ : step i s with
        | none => exact hnone s i h₁
        | some s₁ => exact (hI s i s₁ hj hs hi h₁).1 (h [i] l s₁ rfl (by simp [run, h₁]))
      · have hs₁ : I s₁ := h [i] l s₁ rfl (by simp [run, h₁])
        refine (forall_prefix_iff hJ hI hnone l s₁ hl (hJ s i s₁ hj hi h₁) hs₁).1 ?_
        intro l₁ l₂ s' he hr
        exact h (i :: l₁) l₂ s' (by rw [he]; rfl) (by simp [run, h₁, hr])
    · rintro ⟨hc, ha⟩ l₁ l₂ s' he hr
      rcases l₁ with _ | ⟨k, l₁⟩
      · obtain rfl := Option.some.inj hr
        exact hs
      · obtain ⟨rfl, rfl⟩ := List.cons.inj he
        obtain ⟨s₁, h₁, hr⟩ := run_cons hr
        have hs₁ : I s₁ := (hI s _ s₁ hj hs hi h₁).2 hc
        exact (forall_prefix_iff hJ hI hnone _ s₁ hl (hJ s _ s₁ hj hi h₁) hs₁).2 (ha s₁ h₁)
          l₁ l₂ s' rfl hr

end Ansisop.Lib
