import Ansisop.Lib.Dialog

/-!
A client and a server that talk over two channels, first in first out.

Both are programs (`Dialog`); how the events of one of them are answered is its `Party`, which may
take messages from the front of those that have come and send others, and which does not mind
messages that come later. The server waits while nothing has come, and then serves.

A client and a server meet in any order of steps, and it makes no difference: when one run comes to
a place from which there are no steps, every run is the beginning of one of the same length that
ends in the same place (`ends_of_steps`).
-/

namespace Ansisop.Lib

/-! ### Runs that must end -/

section Steps

variable {α : Type*} {r : α → α → Prop}

/-- A run of so many steps. -/
def Steps (r : α → α → Prop) : ℕ → α → α → Prop
  | 0, a, b => a = b
  | n + 1, a, c => ∃ b, r a b ∧ Steps r n b c

lemma Steps.append {n : ℕ} {b c : α} : ∀ {m : ℕ} {a : α}, Steps r m a b → Steps r n b c →
    Steps r (m + n) a c
  | 0, _, rfl, h => by rwa [Nat.zero_add]
  | m + 1, _, ⟨x, hx, h⟩, h' => by
    rw [Nat.add_right_comm]
    exact ⟨x, hx, h.append h'⟩

lemma steps_of_reflTransGen {a b : α} (h : Relation.ReflTransGen r a b) : ∃ n, Steps r n a b := by
  induction h using Relation.ReflTransGen.head_induction_on with
  | refl => exact ⟨0, rfl⟩
  | head hab _ ih =>
    obtain ⟨n, hn⟩ := ih
    exact ⟨n + 1, _, hab, hn⟩

lemma Steps.reflTransGen : ∀ {n : ℕ} {a b : α}, Steps r n a b → Relation.ReflTransGen r a b
  | 0, _, _, rfl => .refl
  | _ + 1, _, _, ⟨_, hab, h⟩ => .head hab h.reflTransGen

/-- Two different steps from one place can be made up for by one step each. -/
def Diamond (r : α → α → Prop) : Prop :=
  ∀ {a b c}, r a b → r a c → b = c ∨ ∃ d, r b d ∧ r c d

/-- Every run from `a` is the beginning of one that ends in `d`, and they all have one length. -/
def Ends (r : α → α → Prop) (a d : α) : Prop :=
  ∃ n, ∀ m b, Steps r m a b → ∃ j, m + j = n ∧ Steps r j b d

variable {d : α}

lemma Diamond.strip (hr : Diamond r) (hd : ∀ x, ¬ r d x) : ∀ {n : ℕ} {a b : α}, Steps r n a d →
    r a b → ∃ m, n = m + 1 ∧ Steps r m b d
  | 0, _, b, rfl, hb => absurd hb (hd b)
  | n + 1, _, b, ⟨c, hc, hn⟩, hb => by
    rcases hr hb hc with rfl | ⟨x, hbx, hcx⟩
    · exact ⟨n, rfl, hn⟩
    · obtain ⟨m, rfl, hm⟩ := hr.strip hd hn hcx
      exact ⟨m + 1, rfl, x, hbx, hm⟩

/-- **One run that ends is enough**: all the others end with it. -/
theorem ends_of_steps (hr : Diamond r) {n : ℕ} {a : α} (h : Steps r n a d) (hd : ∀ x, ¬ r d x) :
    Ends r a d := by
  refine ⟨n, fun m => ?_⟩
  induction m generalizing n a with
  | zero =>
    rintro b rfl
    exact ⟨n, Nat.zero_add n, h⟩
  | succ m ih =>
    rintro b ⟨c, hc, hb⟩
    obtain ⟨k, rfl, hk⟩ := hr.strip hd h hc
    obtain ⟨j, rfl, hj⟩ := ih hk b hb
    exact ⟨j, by omega, hj⟩

lemma Ends.steps {a : α} (h : Ends r a d) : ∃ n, Steps r n a d := by
  obtain ⟨n, hn⟩ := h
  obtain ⟨j, -, hj⟩ := hn 0 a rfl
  exact ⟨j, hj⟩

/-- There is one end. -/
theorem Ends.unique {a d' : α} (h : Ends r a d) (h' : Ends r a d') : d = d' := by
  obtain ⟨n, hn⟩ := h
  obtain ⟨n', hn'⟩ := h'
  obtain ⟨m, hm, hd⟩ := hn 0 a rfl
  obtain ⟨m', hm', hd'⟩ := hn' 0 a rfl
  obtain ⟨i, hi, -⟩ := hn m' d' hd'
  obtain ⟨j, hj, hdd⟩ := hn' m d hd
  obtain rfl : j = 0 := by omega
  exact hdd

end Steps

/-! ### The two parties -/

universe u u' v v' w w'

/-- How the events of a party are answered: from its surroundings and the messages that have come,
the answer, the surroundings, the messages that are left and those that are sent. -/
structure Party (E : Type*) (R : E → Type*) (W M : Type*) where
  answer : (e : E) → W → List M → Option (R e × W × List M × List M)
  mono : ∀ {e : E} {w : W} {q : List M} {r : R e × W × List M × List M} (l : List M),
    answer e w q = some r → answer e w (q ++ l) = some (r.1, r.2.1, r.2.2.1 ++ l, r.2.2.2)

/-- The party by itself, with the messages it has sent. -/
def Party.solo {E R W M} (P : Party E R W M) (e : E) (s : W × List M × List M) :
    Option (R e × W × List M × List M) :=
  (P.answer e s.1 s.2.1).map fun x => (x.1, x.2.1, x.2.2.1, s.2.2 ++ x.2.2.2)

/-- A client and a server, each with its surroundings and the messages that have come for it. -/
structure Duet (E : Type u) (R : E → Type v) (E' : Type u') (R' : E' → Type v') (V W M : Type*)
    (α : Type w) (β : Type w') where
  client : Dialog E R α
  aside : V
  inbox : List M
  server : Dialog E' R' β
  behind : W
  requests : List M

namespace Duet

section

variable {E : Type u} {R : E → Type v} {E' : Type u'} {R' : E' → Type v'} {V W M : Type*}
  {α : Type w} {β : Type w'} (P : Party E R V M) (Q : Party E' R' W M) (serve : β → Dialog E' R' β)

/-- A step of one of the two, or the server turning to a message that has come. -/
inductive Step : Duet E R E' R' V W M α β → Duet E R E' R' V W M α β → Prop
  | client {e next a b s t c} {x : R e × V × List M × List M} : P.answer e a b = some x →
      Step ⟨.ask e next, a, b, s, t, c⟩ ⟨next x.1, x.2.1, x.2.2.1, s, t, c ++ x.2.2.2⟩
  | server {p a b e next t c} {x : R' e × W × List M × List M} : Q.answer e t c = some x →
      Step ⟨p, a, b, .ask e next, t, c⟩ ⟨p, a, b ++ x.2.2.2, next x.1, x.2.1, x.2.2.1⟩
  | turn {p a b y t c} : c ≠ [] → Step ⟨p, a, b, .ret y, t, c⟩ ⟨p, a, b, serve y, t, c⟩

/-- **Client and server do not get in each other's way.** -/
theorem diamond : Diamond (Step (α := α) P Q serve) := by
  intro a b c h h'
  cases h with
  | client hx =>
    cases h' with
    | client hy =>
      obtain rfl := Option.some.inj (hx.symm.trans hy)
      exact .inl rfl
    | server hy => exact .inr ⟨_, .server (Q.mono _ hy), .client (P.mono _ hx)⟩
    | turn hc => exact .inr ⟨_, .turn (List.append_ne_nil_of_left_ne_nil hc _), .client hx⟩
  | server hx =>
    cases h' with
    | client hy => exact .inr ⟨_, .client (P.mono _ hy), .server (Q.mono _ hx)⟩
    | server hy =>
      obtain rfl := Option.some.inj (hx.symm.trans hy)
      exact .inl rfl
  | turn hc =>
    cases h' with
    | client hy => exact .inr ⟨_, .client hy, .turn (List.append_ne_nil_of_left_ne_nil hc _)⟩
    | turn => exact .inl rfl

/-- Nothing can go on: an event is waiting for a message, and nothing has come for the server. -/
structure Idle (d : Duet E R E' R' V W M α β) : Prop where
  client : ∀ e next, d.client = .ask e next → P.answer e d.aside d.inbox = none
  server : ∀ e next, d.server = .ask e next → Q.answer e d.behind d.requests = none
  requests : ∀ y, d.server = .ret y → d.requests = []

lemma Idle.not_step {d d' : Duet E R E' R' V W M α β} (h : d.Idle P Q) : ¬ Step P Q serve d d' := by
  intro hs
  cases hs with
  | client hx => exact absurd (hx.symm.trans (h.client _ _ rfl)) nofun
  | server hx => exact absurd (hx.symm.trans (h.server _ _ rfl)) nofun
  | turn hc => exact hc (h.requests _ rfl)

variable {γ : Type w} {γ' : Type w'}

/-- **A client that is not kept waiting** runs by itself. -/
theorem client_solo {f : γ → Dialog E R α} {s : Dialog E' R' β} {t : W} :
    ∀ {x : Dialog E R γ} {a a' : V} {b b' l₀ l : List M} {y : γ},
    x.interp P.solo (a, b, l₀) = some (y, a', b', l) → ∃ l', l = l₀ ++ l' ∧ ∀ c,
      Relation.ReflTransGen (Step P Q serve) ⟨x >>= f, a, b, s, t, c⟩ ⟨f y, a', b', s, t, c ++ l'⟩
  | .ret y, a, _, b, _, l₀, _, _, h => by
    obtain ⟨rfl, rfl, rfl, rfl⟩ := by simpa using h
    exact ⟨[], by simp, fun c => by rw [List.append_nil]; exact .refl⟩
  | .ask e next, a, a', b, b', l₀, l, y, h => by
    obtain ⟨⟨r, a₁, b₁, l₁⟩, h₁, h₂⟩ := Option.bind_eq_some_iff.1 h
    obtain ⟨x, hx, he⟩ := Option.map_eq_some_iff.1 h₁
    obtain ⟨rfl, rfl, rfl, rfl⟩ := by simpa using he
    obtain ⟨l', rfl, hrun⟩ := client_solo (f := f) (s := s) (t := t) h₂
    refine ⟨x.2.2.2 ++ l', by simp, fun c => ?_⟩
    rw [← List.append_assoc]
    exact .head (.client hx) (hrun _)

/-- **A server that is not kept waiting** runs by itself. -/
theorem server_solo {p : Dialog E R α} {a : V} {f : γ' → Dialog E' R' β} :
    ∀ {x : Dialog E' R' γ'} {t t' : W} {c c' l₀ l : List M} {y : γ'},
    x.interp Q.solo (t, c, l₀) = some (y, t', c', l) → ∃ l', l = l₀ ++ l' ∧ ∀ b,
      Relation.ReflTransGen (Step P Q serve) ⟨p, a, b, x >>= f, t, c⟩ ⟨p, a, b ++ l', f y, t', c'⟩
  | .ret y, t, _, c, _, l₀, _, _, h => by
    obtain ⟨rfl, rfl, rfl, rfl⟩ := by simpa using h
    exact ⟨[], by simp, fun b => by rw [List.append_nil]; exact .refl⟩
  | .ask e next, t, t', c, c', l₀, l, y, h => by
    obtain ⟨⟨r, t₁, c₁, l₁⟩, h₁, h₂⟩ := Option.bind_eq_some_iff.1 h
    obtain ⟨x, hx, he⟩ := Option.map_eq_some_iff.1 h₁
    obtain ⟨rfl, rfl, rfl, rfl⟩ := by simpa using he
    obtain ⟨l', rfl, hrun⟩ := server_solo (f := f) h₂
    refine ⟨x.2.2.2 ++ l', by simp, fun b => ?_⟩
    rw [← List.append_assoc]
    exact .head (.server hx) (hrun _)

end

end Duet

end Ansisop.Lib
