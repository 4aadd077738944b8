import Ansisop.Lib.Monitor
import Mathlib.Logic.Function.Basic
import Mathlib.Logic.Relation

/-!
Clients of one server. Each client is a program (`Dialog`) with a connection of its own: a queue of
the messages it has sent, the replies it has not taken yet, and what the server remembers for the
connection. The server takes the messages of a connection in the order they were sent, and works on
a store that all connections share. The steps of the clients, those of the server and those of
anybody else who uses the store come in any order.

A monitor that watches each program by itself says what the programs send. `Contract` relates it to
the messages, `Honours` says what the server does with messages that keep the contract, and
`sound_run` concludes, for every order of the steps, that each message is served in the state of the
connection its sender counts on.
-/

namespace Ansisop.Lib.Clients

open Dialog

universe u v w

variable {E : Type u} {R : E → Type v} {α : Type w} {X Msg Rep C σ ι : Type*}

/-- How an event that is answered in `ρ` goes to the server: not at all, and somebody else answers
it, as a message nobody waits for, or as a message whose reply is awaited. -/
inductive Via (Msg Rep : Type*) (ρ : Type v)
  | away (ok : ρ → Prop)
  | send (msg : Msg) (r : ρ)
  | ask (msg : Msg) (take : Rep → ρ)

/-- A client and its connection. `work` is what the program has been started with. -/
structure Client (E : Type u) (R : E → Type v) (α : Type w) (X Msg Rep C : Type*) where
  work : X
  prog : Dialog E R α
  queue : List Msg
  waiting : Bool
  replies : List Rep
  conn : C

/-! ### Steps -/

section Steps

variable (via : (e : E) → Via Msg Rep (R e)) (serve : σ → C → Msg → σ → C → Option Rep → Prop)

/-- One step of a client, or of the server on its connection, in a store. -/
inductive Step : Client E R α X Msg Rep C → σ → Client E R α X Msg Rep C → σ → Prop
  | away {c s e next ok} (r : R e) : c.prog = ask e next → via e = .away ok → ok r →
      Step c s { c with prog := next r } s
  | send {c s e next msg r} : c.prog = ask e next → via e = .send msg r →
      Step c s { c with prog := next r, queue := c.queue ++ [msg] } s
  | ask {c s e next msg take} : c.prog = ask e next → via e = .ask msg take → c.waiting = false →
      Step c s { c with queue := c.queue ++ [msg], waiting := true } s
  | receive {c s e next msg take rep replies} : c.prog = ask e next → via e = .ask msg take →
      c.waiting = true → c.replies = rep :: replies →
      Step c s { c with prog := next (take rep), waiting := false, replies := replies } s
  | serve {c s s' msg queue conn rep} : c.queue = msg :: queue → serve s c.conn msg s' conn rep →
      Step c s { c with queue := queue, conn := conn, replies := c.replies ++ rep.toList } s'

variable (start : X → α → Dialog E R α) (D : X → Prop) (other : σ → σ → Prop) [DecidableEq ι]

/-- One step of the whole: a step of a client, the start of a program where one has finished, with a
work that `D` holds of, or a use of the store by somebody else. -/
inductive Turn : (ι → Client E R α X Msg Rep C) × σ → (ι → Client E R α X Msg Rep C) × σ → Prop
  | client {cs s} (i : ι) {c s'} : Step via serve (cs i) s c s' →
      Turn (cs, s) (Function.update cs i c, s')
  | start {cs s} (i : ι) {a} (x : X) : (cs i).prog = ret a → D x →
      Turn (cs, s) (Function.update cs i { cs i with work := x, prog := start x a }, s)
  | other {cs s s'} : other s s' → Turn (cs, s) (cs, s')

end Steps

/-! ### Contracts -/

/-- What a monitor whose state is the state of the connection, as the program takes it to be, has to
do with the messages. -/
structure Contract (via : (e : E) → Via Msg Rep (R e)) (μ : X → Monitor E R C) where
  after : C → Msg → C
  asks : Msg → Prop
  allowed : X → C → Msg → Prop
  good : X → Msg → Rep → Prop
  away : ∀ {x c e ok}, (μ x).allows c e → via e = .away ok → ∀ r, ok r → (μ x).next c e r c
  send : ∀ {x c e msg r}, (μ x).allows c e → via e = .send msg r →
    ¬ asks msg ∧ (μ x).next c e r (after c msg)
  ask : ∀ {x c e msg take}, (μ x).allows c e → via e = .ask msg take →
    asks msg ∧ allowed x c msg ∧ ∀ rep, good x msg rep → (μ x).next c e (take rep) (after c msg)

/-- The server keeps `I`, replies to the messages that ask for it only, and its replies are good, as
long as the works are those of `D`. -/
structure Honours {via : (e : E) → Via Msg Rep (R e)} {μ : X → Monitor E R C}
    (K : Contract via μ) (D : X → Prop) (I : σ → Prop)
    (serve : σ → C → Msg → σ → C → Option Rep → Prop) : Prop where
  sent : ∀ {s c msg s' c' rep}, I s → ¬ K.asks msg → serve s c msg s' c' rep →
    I s' ∧ c' = K.after c msg ∧ rep = none
  asked : ∀ {x s c msg s' c' rep}, D x → I s → K.asks msg → K.allowed x c msg →
    serve s c msg s' c' rep → I s' ∧ c' = K.after c msg ∧ ∃ r, rep = some r ∧ K.good x msg r

section Contract

variable {via : (e : E) → Via Msg Rep (R e)} {μ : X → Monitor E R C} (K : Contract via μ)

/-- Where a client and its connection are: the program runs, with the messages nobody waits for
under way; a message that asks is under way behind them; or its reply is. `m` is the state of the
connection once they are all served. -/
inductive Phase (c : Client E R α X Msg Rep C) (m : C) : Prop
  | free : c.waiting = false → c.replies = [] → (∀ msg ∈ c.queue, ¬ K.asks msg) →
      c.queue.foldl K.after c.conn = m → Phase c m
  | asked {e next msg take sent} : c.waiting = true → c.replies = [] → c.prog = .ask e next →
      via e = .ask msg take → c.queue = sent ++ [msg] → (∀ msg ∈ sent, ¬ K.asks msg) →
      sent.foldl K.after c.conn = m → Phase c m
  | answered {e next msg take rep} : c.waiting = true → c.replies = [rep] →
      c.prog = .ask e next → via e = .ask msg take → c.queue = [] → K.good c.work msg rep →
      c.conn = K.after m msg → Phase c m

/-- The client is under watch, in the state its connection will be in, and its program, unless it
has finished, has been started with a work of `D`. -/
structure Held (Q : X → α → C → Prop) (D : X → Prop) (c : Client E R α X Msg Rep C) : Prop where
  started : ∀ {e next}, c.prog = .ask e next → D c.work
  watched : ∃ m, Keeps (μ c.work) c.prog m (Q c.work) ∧ Phase K c m

variable {K} {Q : X → α → C → Prop} {D : X → Prop} {c c' : Client E R α X Msg Rep C}
  {serve : σ → C → Msg → σ → C → Option Rep → Prop} {I : σ → Prop} {s s' : σ}

/-- A client that has not been started yet. -/
lemma held_ret {x : X} {a : α} {m : C} (h : Q x a m) :
    Held K Q D ⟨x, .ret a, [], false, [], m⟩ :=
  ⟨nofun, m, h, .free rfl rfl (fun _ hmsg => absurd hmsg List.not_mem_nil) rfl⟩

/-- **A message that asks is served in the state its sender counts on.** -/
theorem Held.allowed {msg : Msg} {queue : List Msg} (h : Held K Q D c)
    (hq : c.queue = msg :: queue) (hmsg : K.asks msg) :
    D c.work ∧ K.allowed c.work c.conn msg := by
  obtain ⟨hD, m, hk, hp⟩ := h
  cases hp with
  | free _ _ hsent _ => exact absurd hmsg (hsent msg (by simp [hq]))
  | @asked _ _ _ _ sent _ _ hprog hvia hqueue hsent hm =>
    rw [hqueue] at hq
    rw [hprog] at hk
    cases sent with
    | nil =>
      obtain ⟨rfl, -⟩ := List.cons.inj hq
      obtain rfl : c.conn = m := hm
      exact ⟨hD hprog, (K.ask hk.1 hvia).2.1⟩
    | cons y l =>
      obtain ⟨rfl, -⟩ := List.cons.inj hq
      exact absurd hmsg (hsent _ List.mem_cons_self)
  | answered _ _ _ _ hqueue _ _ => exact absurd (hqueue.symm.trans hq) nofun

/-- The server takes the first message of the connection. -/
lemma Held.served {msg : Msg} {queue : List Msg} {conn : C} {rep : Option Rep} (h : Held K Q D c)
    (hK : Honours K D I serve) (hI : I s) (hq : c.queue = msg :: queue)
    (hs : serve s c.conn msg s' conn rep) :
    I s' ∧ Held K Q D
      { c with queue := queue, conn := conn, replies := c.replies ++ rep.toList } := by
  have hallowed : K.asks msg → K.allowed c.work c.conn msg := fun hmsg => (h.allowed hq hmsg).2
  obtain ⟨hD, m, hk, hp⟩ := h
  cases hp with
  | free hw hr hsent hm =>
    rw [hq] at hm
    obtain ⟨hI', rfl, rfl⟩ := hK.sent hI (hsent msg (by simp [hq])) hs
    refine ⟨hI', hD, m, hk, .free hw (by simpa using hr) (fun x hx => hsent x ?_) hm⟩
    rw [hq]
    exact List.mem_cons_of_mem _ hx
  | @asked _ _ _ _ sent hw hr hprog hvia hqueue hsent hm =>
    rw [hqueue] at hq
    cases sent with
    | nil =>
      obtain ⟨rfl, rfl⟩ := List.cons.inj hq
      obtain rfl : c.conn = m := hm
      have hask := (K.ask (hprog ▸ hk : Keeps _ (Dialog.ask _ _) _ _).1 hvia).1
      obtain ⟨hI', rfl, r, rfl, hgood⟩ := hK.asked (hD hprog) hI hask (hallowed hask) hs
      exact ⟨hI', hD, _, hk, .answered hw (by simp [hr]) hprog hvia rfl hgood rfl⟩
    | cons y l =>
      obtain ⟨rfl, rfl⟩ := List.cons.inj hq
      obtain ⟨hI', rfl, rfl⟩ := hK.sent hI (hsent _ List.mem_cons_self) hs
      exact ⟨hI', hD, m, hk, .asked hw (by simpa using hr) hprog hvia rfl
        (fun x hx => hsent x (List.mem_cons_of_mem _ hx)) hm⟩
  | answered _ _ _ _ hqueue _ _ => exact absurd (hqueue.symm.trans hq) nofun

/-- **A step of a client** leaves it under watch. -/
theorem Held.step (hK : Honours K D I serve) (h : Step via serve c s c' s')
    (hc : Held K Q D c) (hI : I s) : I s' ∧ Held K Q D c' := by
  cases h with
  | away r hprog hvia hok =>
    obtain ⟨hD, m, hk, hp⟩ := hc
    rw [hprog] at hk
    refine ⟨hI, fun _ => hD hprog, m, hk.2 r m (K.away hk.1 hvia r hok), ?_⟩
    cases hp with
    | free hw hr hsent hm => exact .free hw hr hsent hm
    | asked _ _ hprog' hvia' =>
      obtain ⟨rfl, -⟩ := Dialog.ask.inj (hprog.symm.trans hprog')
      exact absurd (hvia.symm.trans hvia') nofun
    | answered _ _ hprog' hvia' =>
      obtain ⟨rfl, -⟩ := Dialog.ask.inj (hprog.symm.trans hprog')
      exact absurd (hvia.symm.trans hvia') nofun
  | send hprog hvia =>
    obtain ⟨hD, m, hk, hp⟩ := hc
    rw [hprog] at hk
    obtain ⟨hno, hnext⟩ := K.send hk.1 hvia
    refine ⟨hI, fun _ => hD hprog, _, hk.2 _ _ hnext, ?_⟩
    cases hp with
    | free hw hr hsent hm =>
      refine .free hw hr (fun x hx => ?_) (by simp [hm])
      rcases List.mem_append.1 hx with hx | hx
      · exact hsent x hx
      · exact List.mem_singleton.1 hx ▸ hno
    | asked _ _ hprog' hvia' =>
      obtain ⟨rfl, -⟩ := Dialog.ask.inj (hprog.symm.trans hprog')
      exact absurd (hvia.symm.trans hvia') nofun
    | answered _ _ hprog' hvia' =>
      obtain ⟨rfl, -⟩ := Dialog.ask.inj (hprog.symm.trans hprog')
      exact absurd (hvia.symm.trans hvia') nofun
  | ask hprog hvia hwait =>
    obtain ⟨hD, m, hk, hp⟩ := hc
    refine ⟨hI, hD, m, hk, ?_⟩
    cases hp with
    | free _ hr hsent hm => exact .asked rfl hr hprog hvia rfl hsent hm
    | asked hw => exact absurd (hwait.symm.trans hw) nofun
    | answered hw => exact absurd (hwait.symm.trans hw) nofun
  | receive hprog hvia hwait hrep =>
    obtain ⟨hD, m, hk, hp⟩ := hc
    cases hp with
    | free hw => exact absurd (hw.symm.trans hwait) nofun
    | asked _ hr => exact absurd (hr.symm.trans hrep) nofun
    | answered _ hr hprog' hvia' hqueue hgood hconn =>
      obtain ⟨rfl, hnext⟩ := Dialog.ask.inj (hprog.symm.trans hprog')
      obtain rfl := eq_of_heq hnext
      obtain ⟨rfl, rfl⟩ := Via.ask.inj (hvia.symm.trans hvia')
      obtain ⟨rfl, rfl⟩ := List.cons.inj (hr.symm.trans hrep)
      rw [hprog] at hk
      refine ⟨hI, fun _ => hD hprog, _, hk.2 _ _ ((K.ask hk.1 hvia).2.2 _ hgood), .free rfl rfl ?_ ?_⟩
      · exact fun x hx => absurd (hqueue ▸ hx) List.not_mem_nil
      · simp only [hqueue, List.foldl_nil]
        exact hconn
  | serve hq hs => exact hc.served hK hI hq hs

/-- A program that is started where another one has finished. -/
lemma Held.start {start : X → α → Dialog E R α}
    (hstart : ∀ x' a m x, Q x a m → D x' → Keeps (μ x') (start x' a) m (Q x')) {a : α} {x : X}
    (h : Held K Q D c) (hprog : c.prog = ret a) (hx : D x) :
    Held K Q D { c with work := x, prog := start x a } := by
  obtain ⟨-, m, hk, hp⟩ := h
  rw [hprog] at hk
  refine ⟨fun _ => hx, m, hstart x a m _ hk hx, ?_⟩
  cases hp with
  | free hw hr hsent hm => exact .free hw hr hsent hm
  | asked _ _ hprog' => exact absurd (hprog.symm.trans hprog') nofun
  | answered _ _ hprog' => exact absurd (hprog.symm.trans hprog') nofun

/-! ### Runs -/

/-- Every client is under watch, and the store is as it should be. -/
structure Sound (K : Contract via μ) (Q : X → α → C → Prop) (D : X → Prop) (I : σ → Prop)
    (z : (ι → Client E R α X Msg Rep C) × σ) : Prop where
  store : I z.2
  held : ∀ i, Held K Q D (z.1 i)

variable {start : X → α → Dialog E R α} {other : σ → σ → Prop} [DecidableEq ι]
  {z z' : (ι → Client E R α X Msg Rep C) × σ}

lemma Sound.turn (hK : Honours K D I serve)
    (hstart : ∀ x' a m x, Q x a m → D x' → Keeps (μ x') (start x' a) m (Q x'))
    (hother : ∀ s s', I s → other s s' → I s') (h : Turn via serve start D other z z')
    (hz : Sound K Q D I z) : Sound K Q D I z' := by
  have hupd : ∀ {cs : ι → Client E R α X Msg Rep C} {i c}, (∀ j, Held K Q D (cs j)) →
      Held K Q D c → ∀ j, Held K Q D (Function.update cs i c j) := by
    intro cs i c hcs hc j
    rcases eq_or_ne j i with rfl | hj
    · rw [Function.update_self]
      exact hc
    · rw [Function.update_of_ne hj]
      exact hcs j
  cases h with
  | client i hs =>
    obtain ⟨hI, hc⟩ := (hz.held i).step hK hs hz.store
    exact ⟨hI, hupd hz.held hc⟩
  | start i x hprog hD => exact ⟨hz.store, hupd hz.held ((hz.held i).start hstart hprog hD)⟩
  | other ho => exact ⟨hother _ _ hz.store ho, hz.held⟩

/-- **Whatever the order of the steps**, the clients stay under watch and the store as it should
be. -/
theorem sound_run (hK : Honours K D I serve)
    (hstart : ∀ x' a m x, Q x a m → D x' → Keeps (μ x') (start x' a) m (Q x'))
    (hother : ∀ s s', I s → other s s' → I s')
    (h : Relation.ReflTransGen (Turn via serve start D other) z z') (hz : Sound K Q D I z) :
    Sound K Q D I z' := by
  induction h with
  | refl => exact hz
  | tail _ hlast ih => exact ih.turn hK hstart hother hlast

end Contract

end Ansisop.Lib.Clients
