import Ansisop.Lib.Clients

/-!
One client by itself. A client counts on a part of the store that all clients share, its view. A
`View` says how the messages of the client are served in terms of the view, and that nobody else
touches it. Then in every run the client goes on as if it had the server and that part of the store
for itself: what its program does against the view alone is what it does among the others
(`mirrors_run`), and once it has finished the view stays as the program left it (`shows_run`).
-/

namespace Ansisop.Lib.Clients

open Dialog

universe u v w

variable {E : Type u} {R : E → Type v} {α : Type w} {X Msg Rep C σ V ι : Type*}
  {via : (e : E) → Via Msg Rep (R e)} {μ : X → Monitor E R C}

/-- What a client with the work `x` counts on, when the works of the others are those of `D`: a
monitor whose state is the view, and what the view shows of the store. -/
structure View (V : Type*) (K : Contract via μ) (serve : σ → C → Msg → σ → C → Option Rep → Prop)
    (other : σ → σ → Prop) (x : X) (D : X → Prop) where
  ν : Monitor E R V
  shows : σ → V → Prop
  away : ∀ {m e ok}, ν.allows m e → via e = .away ok → ∀ r, ok r →
    ∃ m', ν.next m e r m' ∧ ∀ s, shows s m → shows s m'
  send : ∀ {m e msg r}, ν.allows m e → via e = .send msg r →
    ∃ m', ν.next m e r m' ∧ ∀ s, shows s m → shows s m'
  ask : ∀ {m e msg take s c s' c' rep}, ν.allows m e → via e = .ask msg take → K.allowed x c msg →
    shows s m → serve s c msg s' c' rep →
      ∃ r m', rep = some r ∧ ν.next m e (take r) m' ∧ shows s' m'
  sent : ∀ {m msg s c s' c' rep}, ¬ K.asks msg → shows s m → serve s c msg s' c' rep → shows s' m
  others : ∀ {m y msg s c s' c' rep}, D y → K.asks msg → K.allowed y c msg → shows s m →
    serve s c msg s' c' rep → shows s' m
  rest : ∀ {m s s'}, shows s m → other s s' → shows s' m

/-! ### What programs finish with -/

/-- Whatever it is answered, the program finishes with `P`. -/
def Ends (P : α → Prop) : Dialog E R α → Prop
  | .ret a => P a
  | .ask _ next => ∀ r, Ends P (next r)

lemma Ends.bind {β : Type w} {P : β → Prop} {f : α → Dialog E R β} (hf : ∀ a, Ends P (f a)) :
    ∀ t : Dialog E R α, Ends P (t >>= f)
  | .ret a => hf a
  | .ask _ next => fun r => Ends.bind hf (next r)

/-- In a run every client finishes as the programs that it is given do. -/
theorem ends_run [DecidableEq ι] {P : α → Prop} {D : X → Prop} {other : σ → σ → Prop}
    {serve : σ → C → Msg → σ → C → Option Rep → Prop} {start : X → α → Dialog E R α}
    {z z' : (ι → Client E R α X Msg Rep C) × σ} (hstart : ∀ x a, P a → Ends P (start x a))
    (h : Relation.ReflTransGen (Turn via serve start D other) z z')
    (hz : ∀ i, Ends P (z.1 i).prog) : ∀ i, Ends P (z'.1 i).prog := by
  induction h with
  | refl => exact hz
  | tail _ hlast ih =>
    intro j
    cases hlast with
    | @client cs _ i c' _ hstep =>
      dsimp only
      rcases eq_or_ne j i with rfl | hne
      · rw [Function.update_self]
        have hj := ih j
        dsimp only at hj
        cases hstep with
        | away r hprog | receive hprog =>
          rw [hprog] at hj
          exact hj _
        | send hprog =>
          rw [hprog] at hj
          exact hj _
        | ask | serve => exact hj
      · rw [Function.update_of_ne hne]
        exact ih j
    | @start cs _ i a x hret =>
      dsimp only
      rcases eq_or_ne j i with rfl | hne
      · rw [Function.update_self]
        have hj := ih j
        dsimp only at hj
        rw [hret] at hj
        exact hstart x a hj
      · rw [Function.update_of_ne hne]
        exact ih j
    | other => exact ih j

section View

variable {K : Contract via μ} {serve : σ → C → Msg → σ → C → Option Rep → Prop}
  {other : σ → σ → Prop} {x : X} {D D₀ : X → Prop} {Q₀ : X → α → C → Prop} {I : σ → Prop}
  {Q : α → V → Prop} {c c' : Client E R α X Msg Rep C} {s s' : σ}

/-- The client is where its program is against the view alone; a reply that has not been taken is the
one the view gives. -/
inductive Mirrors (W : View V K serve other x D) (Q : α → V → Prop)
    (c : Client E R α X Msg Rep C) (s : σ) : Prop
  | idle {m} : Keeps W.ν c.prog m Q → W.shows s m → c.replies = [] → Mirrors W Q c s
  | answered {m m' e next msg take rep} : Keeps W.ν c.prog m Q → c.prog = .ask e next →
      via e = .ask msg take → W.ν.next m e (take rep) m' → W.shows s m' → c.replies = [rep] →
      Mirrors W Q c s

variable {W : View V K serve other x D}

/-- What leaves the view alone. -/
lemma Mirrors.store (h : Mirrors W Q c s) (hs : ∀ m, W.shows s m → W.shows s' m) :
    Mirrors W Q c s' := by
  cases h with
  | idle hk hshow hr => exact .idle hk (hs _ hshow) hr
  | answered hk hprog hvia hnext hshow hr => exact .answered hk hprog hvia hnext (hs _ hshow) hr

/-- The server takes the first message of the client. -/
lemma Mirrors.served {msg : Msg} {queue : List Msg} {conn : C} {rep : Option Rep}
    (h : Mirrors W Q c s) (hc : Held K Q₀ D₀ c) (hx : c.work = x) (hK : Honours K D₀ I serve)
    (hI : I s) (hq : c.queue = msg :: queue) (hs : serve s c.conn msg s' conn rep) :
    Mirrors W Q { c with queue := queue, conn := conn, replies := c.replies ++ rep.toList } s' := by
  have hallowed : K.asks msg → K.allowed x c.conn msg := fun hmsg => hx ▸ (hc.allowed hq hmsg).2
  -- a message that nobody waits for leaves the view alone and has no reply
  have hsent : ¬ K.asks msg → Mirrors W Q
      { c with queue := queue, conn := conn, replies := c.replies ++ rep.toList } s' := by
    intro hno
    obtain ⟨-, -, rfl⟩ := hK.sent hI hno hs
    have h' : Mirrors W Q c s' := h.store fun m hm => W.sent hno hm hs
    rw [show c.replies ++ (none : Option Rep).toList = c.replies by simp]
    cases h' with
    | idle hk hshow hr => exact .idle hk hshow hr
    | answered hk hprog hvia hnext hshow hr => exact .answered hk hprog hvia hnext hshow hr
  obtain ⟨-, m₀, hk₀, hp⟩ := hc
  cases hp with
  | free _ _ hno _ => exact hsent (hno msg (by simp [hq]))
  | @asked e next msg' take sent _ hr hprog hvia hqueue hno _ =>
    rw [hqueue] at hq
    cases sent with
    | nil =>
      obtain ⟨rfl, rfl⟩ := List.cons.inj hq
      have hask : K.asks msg' := (K.ask (hprog ▸ hk₀ : Keeps _ (Dialog.ask _ _) _ _).1 hvia).1
      cases h with
      | idle hk hshow _ =>
        have hk' := hk
        rw [hprog] at hk'
        obtain ⟨r, m', rfl, hnext, hshow'⟩ := W.ask hk'.1 hvia (hallowed hask) hshow hs
        exact .answered hk hprog hvia hnext hshow' (by simp [hr])
      | answered _ _ _ _ _ hr' => exact absurd (hr.symm.trans hr') nofun
    | cons y l =>
      obtain ⟨rfl, rfl⟩ := List.cons.inj hq
      exact hsent (hno _ List.mem_cons_self)
  | answered _ _ _ _ hqueue _ _ => exact absurd (hqueue.symm.trans hq) nofun

/-- **A step of the client.** -/
theorem Mirrors.step (h : Mirrors W Q c s) (hc : Held K Q₀ D₀ c) (hx : c.work = x)
    (hK : Honours K D₀ I serve) (hI : I s) (hstep : Step via serve c s c' s') :
    Mirrors W Q c' s' := by
  cases hstep with
  | away r hprog hvia hok =>
    cases h with
    | idle hk hshow hr =>
      rw [hprog] at hk
      obtain ⟨m', hnext, hm'⟩ := W.away hk.1 hvia r hok
      exact .idle (hk.2 r m' hnext) (hm' _ hshow) hr
    | answered _ hprog' hvia' =>
      obtain ⟨rfl, -⟩ := Dialog.ask.inj (hprog.symm.trans hprog')
      exact absurd (hvia.symm.trans hvia') nofun
  | send hprog hvia =>
    cases h with
    | idle hk hshow hr =>
      rw [hprog] at hk
      obtain ⟨m', hnext, hm'⟩ := W.send hk.1 hvia
      exact .idle (hk.2 _ m' hnext) (hm' _ hshow) hr
    | answered _ hprog' hvia' =>
      obtain ⟨rfl, -⟩ := Dialog.ask.inj (hprog.symm.trans hprog')
      exact absurd (hvia.symm.trans hvia') nofun
  | ask hprog hvia hwait =>
    cases h with
    | idle hk hshow hr => exact .idle hk hshow hr
    | answered hk hprog' hvia' hnext hshow hr => exact .answered hk hprog' hvia' hnext hshow hr
  | receive hprog hvia hwait hrep =>
    cases h with
    | idle _ _ hr => exact absurd (hr.symm.trans hrep) nofun
    | answered hk hprog' hvia' hnext hshow hr =>
      obtain ⟨rfl, hnext'⟩ := Dialog.ask.inj (hprog.symm.trans hprog')
      obtain rfl := eq_of_heq hnext'
      obtain ⟨rfl, rfl⟩ := Via.ask.inj (hvia.symm.trans hvia')
      obtain ⟨rfl, rfl⟩ := List.cons.inj (hr.symm.trans hrep)
      rw [hprog] at hk
      exact .idle (hk.2 _ _ hnext) hshow rfl
  | serve hq hs => exact h.served hc hx hK hI hq hs

/-- **A step of another client** leaves the view alone. -/
theorem Held.shows {m : V} (W : View V K serve other x D) (hc : Held K Q₀ D₀ c)
    (hD : ∀ {e next}, c.prog = .ask e next → D c.work) (hstep : Step via serve c s c' s')
    (hshow : W.shows s m) : W.shows s' m := by
  cases hstep with
  | away | send | ask | receive => exact hshow
  | @serve _ msg _ _ _ hq hs =>
    by_cases hask : K.asks msg
    · have hallowed := (hc.allowed hq hask).2
      obtain ⟨-, m₀, -, hp⟩ := hc
      cases hp with
      | free _ _ hno _ => exact absurd hask (hno msg (by simp [hq]))
      | asked _ _ hprog => exact W.others (hD hprog) hask hallowed hshow hs
      | answered _ _ _ _ hqueue => exact absurd (hqueue.symm.trans hq) nofun
    · exact W.sent hask hshow hs

/-! ### Runs -/

variable {start : X → α → Dialog E R α} [DecidableEq ι]
  {z z' : (ι → Client E R α X Msg Rep C) × σ}

/-- A program goes on with the work it has been started with. -/
lemma Step.prog_ask (hstep : Step via serve c s c' s') :
    c'.work = c.work ∧ ∀ {e next}, c'.prog = .ask e next → ∃ e₀ next₀, c.prog = .ask e₀ next₀ := by
  cases hstep with
  | away _ hprog | send hprog | receive hprog => exact ⟨rfl, fun _ => ⟨_, _, hprog⟩⟩
  | ask | serve => exact ⟨rfl, fun h => ⟨_, _, h⟩⟩

/-- Every client that runs a program, but for the `i`-th one, has a work of `D`. -/
def Rest (D : X → Prop) (p : ι → Prop) (z : (ι → Client E R α X Msg Rep C) × σ) : Prop :=
  ∀ j, p j → ∀ {e next}, (z.1 j).prog = .ask e next → D (z.1 j).work

lemma Rest.turn {p : ι → Prop} (hz : Rest D p z) (h : Turn via serve start D other z z') :
    Rest D p z' := by
  intro j hj e next hprog
  cases h with
  | @client cs _ i c' _ hstep =>
    dsimp only at hprog ⊢
    rcases eq_or_ne j i with rfl | hne
    · rw [Function.update_self] at hprog ⊢
      obtain ⟨hwork, hask⟩ := hstep.prog_ask
      obtain ⟨e₀, next₀, h₀⟩ := hask hprog
      rw [hwork]
      exact hz j hj h₀
    · rw [Function.update_of_ne hne] at hprog ⊢
      exact hz j hj hprog
  | @start cs _ i a y hret hy =>
    dsimp only at hprog ⊢
    rcases eq_or_ne j i with rfl | hne
    · rw [Function.update_self]
      exact hy
    · rw [Function.update_of_ne hne] at hprog ⊢
      exact hz j hj hprog
  | other => exact hz j hj hprog

variable (hK : Honours K D₀ I serve)
  (hstart : ∀ x' a m x, Q₀ x a m → D₀ x' → Keeps (μ x') (start x' a) m (Q₀ x'))
  (hother : ∀ s s', I s → other s s' → I s') (hD : ∀ y, D y → D₀ y)

include hK hstart hother hD in
lemma sound_run_of (h : Relation.ReflTransGen (Turn via serve start D other) z z')
    (hz : Sound K Q₀ D₀ I z) : Sound K Q₀ D₀ I z' := by
  have hmono : Relation.ReflTransGen (Turn via serve start D₀ other) z z' := by
    refine Relation.ReflTransGen.mono (fun a b hab => ?_) _ _ h
    cases hab with
    | client i hstep => exact .client i hstep
    | start i y hret hy => exact .start i y hret (hD y hy)
    | other ho => exact .other ho
  exact sound_run hK hstart hother hmono hz

include hK hstart hother hD in
/-- **A client among others** does what its program does against its view alone, until it is given
other work. -/
theorem mirrors_run (W : View V K serve other x D) (hx : ¬ D x) {i : ι}
    (h : Relation.ReflTransGen (Turn via serve start D other) z z') (hz : Sound K Q₀ D₀ I z)
    (hrest : Rest D (· ≠ i) z) (hm : (z.1 i).work = x → Mirrors W Q (z.1 i) z.2) :
    Rest D (· ≠ i) z' ∧ ((z'.1 i).work = x → Mirrors W Q (z'.1 i) z'.2) := by
  induction h with
  | refl => exact ⟨hrest, hm⟩
  | @tail z₁ z₂ hrun hlast ih =>
    obtain ⟨hrest₁, hm₁⟩ := ih
    have hsound := sound_run_of hK hstart hother hD hrun hz
    refine ⟨hrest₁.turn hlast, ?_⟩
    cases hlast with
    | @client cs s₁ j c' s₂ hstep =>
      dsimp only
      rcases eq_or_ne i j with rfl | hne
      · rw [Function.update_self]
        intro hwork
        have hwork₁ := hstep.prog_ask.1.symm.trans hwork
        exact (hm₁ hwork₁).step (hsound.held i) hwork₁ hK hsound.store hstep
      · rw [Function.update_of_ne hne]
        intro hwork
        exact (hm₁ hwork).store fun m hshow =>
          (hsound.held j).shows W (hrest₁ j hne.symm) hstep hshow
    | @start cs s₁ j a y hret hy =>
      dsimp only
      rcases eq_or_ne i j with rfl | hne
      · rw [Function.update_self]
        intro hwork
        exact absurd (hwork ▸ hy) hx
      · rw [Function.update_of_ne hne]
        exact hm₁
    | @other cs s₁ s₂ ho => exact fun hwork => (hm₁ hwork).store fun m hshow => W.rest hshow ho

include hK hstart hother hD in
/-- While none of the clients has that work, the view stays as it is. -/
theorem shows_run {m : V} (W : View V K serve other x D)
    (h : Relation.ReflTransGen (Turn via serve start D other) z z') (hz : Sound K Q₀ D₀ I z)
    (hrest : Rest D (fun _ => True) z) (hshow : W.shows z.2 m) :
    Rest D (fun _ => True) z' ∧ W.shows z'.2 m := by
  induction h with
  | refl => exact ⟨hrest, hshow⟩
  | @tail z₁ z₂ hrun hlast ih =>
    obtain ⟨hrest₁, hshow₁⟩ := ih
    have hsound := sound_run_of hK hstart hother hD hrun hz
    refine ⟨hrest₁.turn hlast, ?_⟩
    cases hlast with
    | client j hstep => exact (hsound.held j).shows W (hrest₁ j trivial) hstep hshow₁
    | start => exact hshow₁
    | other ho => exact W.rest hshow₁ ho

end View

end Ansisop.Lib.Clients
