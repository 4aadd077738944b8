import Ansisop.Kernel.Dispatch

/-!
The order of the queues. `buscar_pcb` and the second loop of `get_peso_min` turn the queue and stop
when they have found their process; the first loop of `get_peso_min` makes the whole turn. What stood
before the process is then behind what stood after it, unless it was the first or the last.
-/

namespace Ansisop.Kernel

open Ansisop.Sockets Ansisop.Lib Hilo

variable {k k' : Estado} {io io' : Bandeja}

/-- The process has the program of the socket. -/
def EsDe (soc : ℤ) (y : Option PcbOtros) : Prop := ∃ x, y = some x ∧ x.nSocket = soc

/-- The process is one that `get_peso_min` may take: as light as any of the queue, and not over the
weight it starts from. -/
def EsMinimo (k : Estado) (y : Option PcbOtros) : Prop :=
  ∃ x, y = some x ∧ x.peso ≤ 1000000 ∧ ∀ z, some z ∈ k.colas .new → x.peso ≤ z.peso

/-! ### Searches -/

/-- The queue that a process has been taken from keeps the order of the rest exactly when the process
stood at an end. -/
lemma Estado.Saca.sublist_iff {c : Cola} {p : PcbOtros → Bool} {x : PcbOtros}
    {q : Option PcbOtros → Prop} (h : k.Saca c p x k') (hd : (k.colas c).Nodup) (hx : q (some x))
    (hq : ∀ z, some z ∈ k.colas c → q (some z) → p z = true) :
    (k'.colas c).Sublist (k.colas c) ↔ FirstAtEnd q (k.colas c) := by
  obtain ⟨pre, post, hcola, hpre, -, rfl⟩ := h
  have hpre' : ∀ y ∈ pre, ¬ q y := by
    intro y hy hqy
    obtain ⟨z, rfl, hz⟩ := hpre y hy
    have hmem : some z ∈ k.colas c := by
      rw [hcola]
      exact List.mem_append_left _ hy
    exact absurd (hq z hmem hqy) (by simp [hz])
  have hcola' : (k.conCola c (post ++ pre)).colas c = post ++ pre := by simp
  rw [hcola] at hd ⊢
  rw [hcola', append_swap_sublist_iff hd, firstAtEnd_iff hpre' hx]

/-! ### `mover_pcb_exit` -/

/-- A step of `mover_pcb_exit` on a queue of processes. -/
lemma desconecta_hay {α : Type} {c : Cola} (soc : ℤ) (f : Hilo α) (io : Bandeja)
    (hn : none ∉ k.colas c) : ∃ k₁, k.Desconecta c soc k₁ ∧
      correr (buscarPcb c soc >>= fun r => pasarPcbExit r >>= fun _ => f) k io = correr f k₁ io := by
  obtain ⟨r, k₁, hr⟩ := queueRotar_isSome io (fun x => x.nSocket == soc) hn
  have hb : correr (buscarPcb c soc) k io = some ((r, k₁), io) := hr
  obtain ⟨-, ⟨x, rfl, hs⟩ | ⟨rfl, hno, rfl⟩⟩ := queueRotar_some hr
  · refine ⟨_, .inl ⟨x, k₁, hs, rfl⟩, ?_⟩
    rw [correr_bind, hb, Option.bind_some, correr_bind, correr_pasarPcbExit_some, Option.bind_some]
  · refine ⟨_, .inr ⟨hno, rfl⟩, ?_⟩
    rw [correr_bind, hb, Option.bind_some, correr_bind, correr_pasarPcbExit_none, Option.bind_some]

lemma Estado.encolarExit_colas {c : Cola} (x : PcbOtros) (hc : c ≠ .exit) :
    (k.encolarExit x).colas c = k.colas c := by
  simp [Estado.encolarExit, Estado.encolar, Estado.sumar, hc]

/-- It leaves the other queues, the one of the finished processes apart. -/
lemma Estado.Desconecta.colas {c d : Cola} {soc : ℤ} (h : k.Desconecta c soc k') (hc : d ≠ c)
    (he : d ≠ .exit) : k'.colas d = k.colas d := by
  rcases h with ⟨x, k₁, ⟨pre, post, -, -, -, rfl⟩, rfl⟩ | ⟨-, rfl⟩
  · rw [Estado.encolarExit_colas x he]
    simp [hc]
  · rfl

/-- What `mover_pcb_exit` does to the order of a queue it searches. -/
lemma Estado.Desconecta.sublist_iff {c : Cola} {soc : ℤ} (h : k.Desconecta c soc k')
    (he : c ≠ .exit) (hd : (k.colas c).Nodup) :
    (k'.colas c).Sublist (k.colas c) ↔ FirstAtEnd (EsDe soc) (k.colas c) := by
  rcases h with ⟨x, k₁, hs, rfl⟩ | ⟨hno, rfl⟩
  · have hx : x.nSocket = soc := by
      obtain ⟨pre, post, -, -, hx, -⟩ := hs
      simpa using hx
    rw [Estado.encolarExit_colas x he]
    refine hs.sublist_iff hd ⟨x, rfl, hx⟩ ?_
    rintro z - ⟨y, hy, hsoc⟩
    obtain rfl := Option.some.inj hy
    simpa using hsoc
  · refine iff_of_true (List.Sublist.refl _) ?_
    rintro pre y post hcola - ⟨x, rfl, hx⟩
    obtain ⟨z, hz, hne⟩ := hno (some x) (by rw [hcola]; simp)
    obtain rfl := Option.some.inj hz
    exact absurd hx (by simpa using hne)

/-- `mover_pcb_exit` searches the four queues one after the other. -/
lemma moverPcbExit_hay (soc : ℤ) (io : Bandeja) (hn : ∀ c, none ∉ k.colas c) :
    ∃ k₁ k₂ k', k.Desconecta .new soc k₁ ∧ k₁.Desconecta .ready soc k₂ ∧
      k'.colas .ready = k₂.colas .ready ∧
      correr (moverPcbExit soc) k io = some (((), k'), io) := by
  obtain ⟨k₁, h₁, hk₁⟩ := desconecta_hay (c := .new) soc (do
    pasarPcbExit (← buscarPcb .ready soc)
    pasarPcbExit (← buscarPcb .block soc)
    pasarPcbExit (← buscarPcb .exec soc)
    unlock .new; unlock .ready; unlock .block; unlock .exec) io (hn .new)
  have hn₁ : ∀ d, d ≠ .new → d ≠ .exit → none ∉ k₁.colas d := by
    intro d hd he
    rw [h₁.colas hd he]
    exact hn d
  obtain ⟨k₂, h₂, hk₂⟩ := desconecta_hay (c := .ready) soc (do
    pasarPcbExit (← buscarPcb .block soc)
    pasarPcbExit (← buscarPcb .exec soc)
    unlock .new; unlock .ready; unlock .block; unlock .exec) io (hn₁ .ready (by decide) (by decide))
  have hn₂ : ∀ d, d ≠ .new → d ≠ .ready → d ≠ .exit → none ∉ k₂.colas d := by
    intro d hd hr he
    rw [h₂.colas hr he]
    exact hn₁ d hd he
  obtain ⟨k₃, h₃, hk₃⟩ := desconecta_hay (c := .block) soc (do
    pasarPcbExit (← buscarPcb .exec soc)
    unlock .new; unlock .ready; unlock .block; unlock .exec) io
    (hn₂ .block (by decide) (by decide) (by decide))
  have hexec : none ∉ k₃.colas .exec := by
    rw [h₃.colas (by decide) (by decide)]
    exact hn₂ .exec (by decide) (by decide) (by decide)
  obtain ⟨k₄, h₄, hk₄⟩ := desconecta_hay (c := .exec) soc (do
    unlock .new; unlock .ready; unlock .block; unlock .exec) io hexec
  refine ⟨k₁, k₂, k₄, h₁, h₂, ?_, ?_⟩
  · rw [h₄.colas (by decide) (by decide), h₃.colas (by decide) (by decide)]
  · exact hk₁.trans (hk₂.trans (hk₃.trans hk₄))

/-! ### The theorem -/

/-- **The order of the queues is kept exactly when the process that leaves stood at an end**: in
`cola_ready` for `mover_pcb_exit`, and in `cola_new` for `get_peso_min`, where it is the first of the
lightest ones. -/
theorem orden_colas_iff (k : Estado) (io : Bandeja) (hn : ∀ c, none ∉ k.colas c)
    (hd : ∀ c, (k.colas c).Nodup) (soc : ℤ) :
    ((∃ k', correr (moverPcbExit soc) k io = some (((), k'), io) ∧
          (k'.colas .ready).Sublist (k.colas .ready)) ↔
        FirstAtEnd (EsDe soc) (k.colas .ready)) ∧
      ((∃ r k', correr getPesoMin k io = some ((r, k'), io) ∧
          (k'.colas .new).Sublist (k.colas .new)) ↔
        FirstAtEnd (EsMinimo k) (k.colas .new)) := by
  constructor
  · obtain ⟨k₁, k₂, k₃, h₁, h₂, hready, hcorre⟩ := moverPcbExit_hay soc io hn
    have hready₁ : k₁.colas .ready = k.colas .ready := h₁.colas (by decide) (by decide)
    have hiff := h₂.sublist_iff (by decide) (by rw [hready₁]; exact hd .ready)
    rw [hready₁] at hiff
    rw [← hiff, ← hready]
    constructor
    · rintro ⟨k', hk', hs⟩
      obtain ⟨⟨-, rfl⟩, -⟩ := by simpa using hk'.symm.trans hcorre
      exact hs
    · intro hs
      exact ⟨k₃, hcorre, hs⟩
  · have hsome : ∃ r k₁, correr getPesoMin k io = some ((r, k₁), io) :=
      getPesoMin_isSome fun y hy => by
        cases y with
        | none => exact absurd hy (hn .new)
        | some y => rfl
    obtain ⟨r, k₁, hcorre⟩ := hsome
    have hiff : (k₁.colas .new).Sublist (k.colas .new) ↔
        FirstAtEnd (EsMinimo k) (k.colas .new) := by
      obtain ⟨-, ⟨x, rfl, hs, hle, hmin⟩ | ⟨rfl, rfl, hall⟩⟩ := getPesoMin_some hcorre
      · refine hs.sublist_iff (hd .new) ⟨x, rfl, hle, hmin⟩ ?_
        rintro z hz ⟨y, hy, -, hminz⟩
        obtain rfl := Option.some.inj hy
        obtain ⟨pre, post, hcola, -, -, -⟩ := hs
        have hzx := hminz x (by rw [hcola]; simp)
        have hxz := hmin z hz
        simpa using le_antisymm hxz hzx
      · refine iff_of_true (List.Sublist.refl _) ?_
        rintro pre y post hcola - ⟨x, rfl, hle, -⟩
        obtain ⟨z, hz, hlt⟩ := hall (some x) (by rw [hcola]; simp)
        obtain rfl := Option.some.inj hz
        omega
    rw [← hiff]
    constructor
    · rintro ⟨r', k', hk', hs⟩
      have heq : (r', k') = (r, k₁) := (Prod.mk.inj (Option.some.inj (hk'.symm.trans hcorre))).1
      obtain ⟨rfl, rfl⟩ := Prod.mk.inj heq
      exact hs
    · intro hs
      exact ⟨r, k₁, hcorre, hs⟩

/-- A process of the program of a socket, with an id and a weight. -/
def proceso (id socProg peso : ℤ) : PcbOtros := ⟨⟨0, 0, 0, 0, 0, 0, id, 0, 0, 0⟩, socProg, peso, -1⟩

/-- Three processes in `cola_new` and three in `cola_ready`; the weights of the new ones are given. -/
def tresYTres (peso₁ peso₂ peso₃ : ℤ) : Estado :=
  { conPesos [] with
    colas
      | .new => [some (proceso 4 10 peso₁), some (proceso 5 11 peso₂), some (proceso 6 12 peso₃)]
      | .ready => [some (proceso 1 7 2), some (proceso 2 8 2), some (proceso 3 9 2)]
      | _ => [] }

/-- The first program of `cola_ready` leaves, and the first of `cola_new` is the lightest. -/
theorem orden_colas_extremos :
    (∃ k', correr (moverPcbExit 7) (tresYTres 1 3 3) ⟨[], []⟩ = some (((), k'), ⟨[], []⟩) ∧
      (k'.colas .ready).Sublist ((tresYTres 1 3 3).colas .ready)) ∧
    ∃ r k', correr getPesoMin (tresYTres 1 3 3) ⟨[], []⟩ = some ((r, k'), ⟨[], []⟩) ∧
      (k'.colas .new).Sublist ((tresYTres 1 3 3).colas .new) := by
  have hiff := orden_colas_iff (tresYTres 1 3 3) ⟨[], []⟩ (by intro c; cases c <;> decide)
    (by intro c; cases c <;> decide) 7
  refine ⟨hiff.1.2 ?_, hiff.2.2 ?_⟩
  · exact firstAtEnd_cons ⟨_, rfl, rfl⟩
  · refine firstAtEnd_cons ⟨_, rfl, by decide, fun z hz => ?_⟩
    have hz : z = proceso 4 10 1 ∨ z = proceso 5 11 3 ∨ z = proceso 6 12 3 := by
      simpa [tresYTres] using hz
    rcases hz with rfl | rfl | rfl <;> decide

/-- The second one leaves `cola_ready`, or is the lightest of `cola_new`: the third comes before the
first. -/
theorem orden_colas_en_medio :
    (∃ k', correr (moverPcbExit 8) (tresYTres 3 1 3) ⟨[], []⟩ = some (((), k'), ⟨[], []⟩) ∧
      k'.colas .ready = [some (proceso 3 9 2), some (proceso 1 7 2)] ∧
      ¬ (k'.colas .ready).Sublist ((tresYTres 3 1 3).colas .ready)) ∧
    ∃ r k', correr getPesoMin (tresYTres 3 1 3) ⟨[], []⟩ = some ((r, k'), ⟨[], []⟩) ∧
      k'.colas .new = [some (proceso 6 12 3), some (proceso 4 10 3)] ∧
      ¬ (k'.colas .new).Sublist ((tresYTres 3 1 3).colas .new) :=
  ⟨⟨_, rfl, by decide, by decide⟩, _, _, rfl, by decide, by decide⟩

end Ansisop.Kernel
