import Ansisop.Cpu.Progress

/-!
A dispatch against its own memory. The monitor `Entorno.solo` has the memory for its state: it allows
the requests that the memory answers, and takes any answer of the kernel as possible. A program that
has a run without a fault, whatever the kernel answers, keeps to it (`keeps_solo`).

The dispatch of a process that stays within its segment keeps to it, and finishes with what its lines
mean (`Ejecutable.keeps_despacho`). All that is left to the kernel is to let a CPU crash, with an
answer without a value where it is asked for one.
-/

namespace Ansisop.Cpu

open Ansisop.Sockets Ansisop.Lib Ansisop.Lib.Memory Ansisop.Lib.Activation Dialog Prog
open TipoDatos hiding signal wait imprimirTexto cambioPA finQuantum finEjecucion

/-! ### The monitor -/

/-- The same surroundings with other answers of the kernel and other unwritten bytes. -/
def Entorno.con (e : Entorno) (kernel : ℕ → MenComun) (basura : ℕ → ℕ → Byte) : Entorno :=
  { e with kernel := kernel, basura := basura }

/-- The memory as a monitor: it allows the requests that meet no fault, and takes as possible any
answer of the kernel and any unwritten byte, but no request to close. -/
def Entorno.solo (e : Entorno) : Monitor Evento Evento.Respuesta Memoria where
  allows m
    | .pedirUmv men => (e.atender men m).isSome
    | _ => True
  next m
    | .pedirUmv men, r, m' => e.atender men m = some (r, m')
    | .recvKernel, _, m' => m' = { m with turno := m.turno + 1 }
    | .basura _, _, m' => m' = { m with turno := m.turno + 1 }
    | .quitSistema, r, m' => r = true ∧ m' = m
    | .buscarEtiqueta nombre etiquetas tam, r, m' => r = e.buscar nombre etiquetas tam ∧ m' = m
    | _, _, m' => m' = m

section Solo

variable {e : Entorno} {kernel kernel' : ℕ → MenComun} {basura basura' : ℕ → ℕ → Byte}
  {m m' : Memoria} {α : Type}

lemma atender_turno {men : MenCpuUmv} {r : MenComun} (h : e.atender men m = some (r, m')) :
    m'.turno = m.turno := by
  unfold Entorno.atender at h
  split at h
  · split at h
    · split at h
      · obtain ⟨-, rfl⟩ := Prod.mk.inj (Option.some.inj h)
        rfl
      · split at h
        · obtain ⟨-, rfl⟩ := Prod.mk.inj (Option.some.inj h)
          rfl
        · cases h
    · cases h
  · split at h
    · obtain ⟨l, -, hl⟩ := Option.map_eq_some_iff.1 h
      obtain ⟨-, rfl⟩ := Prod.mk.inj hl
      rfl
    · cases h

/-- A run does not depend on the answers that have been used up. -/
lemma interp_con (t : Dialog Evento Evento.Respuesta α) : ∀ m : Memoria,
    (∀ n, m.turno ≤ n → kernel n = kernel' n ∧ basura n = basura' n) →
      interp (e.con kernel basura).responder t m = interp (e.con kernel' basura').responder t m := by
  induction t with
  | ret a => exact fun _ _ => rfl
  | ask ev next ih =>
    intro m hm
    have hnext : ∀ r m', m.turno ≤ m'.turno → interp (e.con kernel basura).responder (next r) m' =
        interp (e.con kernel' basura').responder (next r) m' :=
      fun r m' hle => ih r m' fun n hn => hm n (hle.trans hn)
    rw [interp_ask, interp_ask]
    cases ev with
    | pedirUmv men =>
      show (e.atender men m).bind _ = (e.atender men m).bind _
      cases hr : e.atender men m with
      | none => rfl
      | some r => exact hnext r.1 r.2 (atender_turno hr).ge
    | recvKernel =>
      show interp _ (next (kernel m.turno)) _ = interp _ (next (kernel' m.turno)) _
      rw [← (hm m.turno le_rfl).1]
      exact hnext _ _ (Nat.le_succ _)
    | basura n =>
      show interp _ (next fun i => basura m.turno i) _ = interp _ (next fun i => basura' m.turno i) _
      rw [← (hm m.turno le_rfl).2]
      exact hnext _ _ (Nat.le_succ _)
    | caida => rfl
    | buscarEtiqueta | quitSistema | enviarKernel | enviarUmv | analizar | primitiva =>
      exact hnext _ m le_rfl

/-- **A program that meets no fault**, whatever the kernel answers, keeps to its memory. -/
theorem keeps_solo {Q : α → Memoria → Prop} (t : Dialog Evento Evento.Respuesta α) : ∀ m : Memoria,
    (∀ kernel basura, ∃ a m', interp (e.con kernel basura).responder t m = some (a, m') ∧ Q a m') →
      Keeps e.solo t m Q := by
  induction t with
  | ret a =>
    intro m h
    obtain ⟨a', m', hr, hQ⟩ := h e.kernel e.basura
    obtain ⟨rfl, rfl⟩ := Prod.mk.inj (Option.some.inj hr)
    exact hQ
  | ask ev next ih =>
    intro m h
    have hresp : ∀ kernel basura, ∃ r a m', (e.con kernel basura).responder ev m = some r ∧
        interp (e.con kernel basura).responder (next r.1) r.2 = some (a, m') ∧ Q a m' := by
      intro kernel basura
      obtain ⟨a, m', hr, hQ⟩ := h kernel basura
      rw [interp_ask] at hr
      obtain ⟨r, hev, hr⟩ := Option.bind_eq_some_iff.1 hr
      exact ⟨r, a, m', hev, hr, hQ⟩
    -- an answer that the surroundings give for sure
    have hfijo : ∀ r m', (∀ kernel basura, (e.con kernel basura).responder ev m = some (r, m')) →
        Keeps e.solo (next r) m' Q := by
      intro r m' hr
      refine ih r m' fun kernel basura => ?_
      obtain ⟨r₁, a, m₁, hev, hrun, hQ⟩ := hresp kernel basura
      obtain rfl := Option.some.inj ((hr kernel basura).symm.trans hev)
      exact ⟨a, m₁, hrun, hQ⟩
    obtain ⟨r₀, a₀, m₀, hev₀, -, -⟩ := hresp e.kernel e.basura
    cases ev with
    | pedirUmv men =>
      refine ⟨?_, fun r m' hr => hfijo r m' fun _ _ => hr⟩
      have hev₀ : e.atender men m = some r₀ := hev₀
      show (e.atender men m).isSome
      rw [hev₀]
      rfl
    | recvKernel =>
      refine ⟨trivial, ?_⟩
      rintro r _ rfl
      refine ih r _ fun kernel basura => ?_
      -- the kernel that answers `r` now and goes on as before
      obtain ⟨r₁, a, m₁, hev, hrun, hQ⟩ := hresp (Function.update kernel m.turno r) basura
      obtain rfl := Option.some.inj hev
      refine ⟨a, m₁, ?_, hQ⟩
      rw [← hrun]
      dsimp only [Entorno.con]
      rw [Function.update_self]
      refine interp_con (next r) _ fun n hn => ⟨?_, rfl⟩
      have hn : m.turno + 1 ≤ n := hn
      rw [Function.update_of_ne (by omega)]
    | basura k =>
      refine ⟨trivial, ?_⟩
      rintro r _ rfl
      refine ih r _ fun kernel basura => ?_
      obtain ⟨r₁, a, m₁, hev, hrun, hQ⟩ := hresp kernel
        (Function.update basura m.turno fun i => if h : i < k then r ⟨i, h⟩ else 0)
      obtain rfl := Option.some.inj hev
      refine ⟨a, m₁, ?_, hQ⟩
      rw [← hrun]
      have hr : (fun i : Fin k => Function.update basura m.turno
          (fun i => if h : i < k then r ⟨i, h⟩ else 0) m.turno i) = r := by
        funext i
        rw [Function.update_self, dif_pos i.isLt]
      dsimp only [Entorno.con]
      rw [hr]
      refine interp_con (next r) _ fun n hn => ⟨rfl, ?_⟩
      have hn : m.turno + 1 ≤ n := hn
      rw [Function.update_of_ne (by omega)]
    | caida => cases hev₀
    | buscarEtiqueta nombre etiquetas tam =>
      refine ⟨trivial, ?_⟩
      rintro r _ ⟨rfl, rfl⟩
      exact hfijo _ _ fun _ _ => rfl
    | quitSistema =>
      refine ⟨trivial, ?_⟩
      rintro r _ ⟨rfl, rfl⟩
      exact hfijo _ _ fun _ _ => rfl
    | enviarKernel | enviarUmv | analizar | primitiva =>
      refine ⟨trivial, ?_⟩
      rintro r _ rfl
      exact hfijo _ _ fun _ _ => rfl

end Solo

/-! ### The machine in its memory -/

section Maquina

variable {e : Entorno} {stringTrim : List Byte → List Byte} {G : Guion} {q : Pcb} {M : Maquina}
  {s : Estado} {m : Memoria} {α : Type}

lemma safe_solo {x : Prog α} {Q : α → Estado → Memoria → Prop}
    (h : ∀ kernel basura, ∃ a s' m', correr (e.con kernel basura) x s m = some ((a, s'), m') ∧
      Q a s' m') : Safe e.solo x s m Q := by
  refine keeps_solo (x s) m fun kernel basura => ?_
  obtain ⟨a, s', m', hr, hQ⟩ := h kernel basura
  exact ⟨(a, s'), m', hr, hQ⟩

lemma solo_hacer_bind {ev : Evento} {f : ev.Respuesta → Prog α} {Q : α → Estado → Memoria → Prop}
    (hev : e.solo.allows m ev) (h : ∀ r m', e.solo.next m ev r m' → Safe e.solo (f r) s m' Q) :
    Safe e.solo (hacer ev >>= f) s m Q := ⟨hev, h⟩

/-- Neither the answers of the kernel nor unwritten bytes are part of a machine. -/
lemma Representa.con (h : Representa e G q M (s, m)) (kernel : ℕ → MenComun)
    (basura : ℕ → ℕ → Byte) : Representa (e.con kernel basura) G q M (s, m) :=
  ⟨⟨h.marco.base, h.marco.dir, h.marco.cant, h.marco.dic, h.marco.abajo, h.marco.base_int32,
    h.marco.dir_int32, h.marco.pc_int32, h.marco.alto⟩, h.bytes, h.cant, h.pc, h.fin, h.sinFalta,
    ⟨h.ejecuta.proceso, h.ejecuta.etiqueta, h.ejecuta.sinLiberar⟩⟩

lemma Representa.sin {kernel : ℕ → MenComun} {basura : ℕ → ℕ → Byte}
    (h : Representa (e.con kernel basura) G q M (s, m)) : Representa e G q M (s, m) :=
  h.con e.kernel e.basura

lemma Entorno.Normal.con (he : e.Normal) (kernel : ℕ → MenComun) (basura : ℕ → ℕ → Byte) :
    (e.con kernel basura).Normal := ⟨he.base_nonneg, he.fin⟩

lemma ConGuion.con (hg : ConGuion e stringTrim G q) (kernel : ℕ → MenComun)
    (basura : ℕ → ℕ → Byte) : ConGuion (e.con kernel basura) stringTrim G q :=
  ⟨hg.indiceAparte, hg.codigoAparte, hg.etiquetasAparte, hg.linea, hg.etiqueta⟩

/-- A value that the kernel is asked for: with an answer that has none the CPU crashes. -/
lemma Representa.safe_obtenerValor (h : Representa e G q M (s, m)) (hM : M.EnSegmento e)
    (x : List Byte) : Safe e.solo (Cpu.obtenerValorCompartida x) s m fun v s' m' =>
      ∃ M', M.Paso e.base stringTrim G (.obtenerValorCompartida x) v M' ∧
        Representa e G q M' (s', m') ∧ M'.EnSegmento e := by
  refine solo_hacer_bind trivial ?_
  rintro - m₁ rfl
  refine solo_hacer_bind trivial ?_
  rintro r _ rfl
  split
  · exact ⟨M.conFin, .inr ⟨rfl, rfl, rfl, rfl⟩, h.conFin.memoria rfl, hM⟩
  · cases cadena r.dato with
    | none => exact ⟨trivial, nofun⟩
    | some l => exact ⟨M, .inl rfl, h.memoria rfl, hM⟩

/-- **A primitive** that has a meaning and for which there is room. -/
lemma Representa.safe_primitiva (he : e.Normal) (h : Representa e G q M (s, m))
    (hM : M.EnSegmento e) {p : Primitiva} (hp : M.Puede e p) :
    Safe e.solo (p.ejecutar stringTrim) s m fun v s' m' =>
      ∃ M', M.Paso e.base stringTrim G p v M' ∧ Representa e G q M' (s', m') ∧ M'.EnSegmento e := by
  obtain ⟨hadm, hcabe⟩ := hp
  -- a primitive that asks for no value
  have hsolo : (∀ kernel basura, p.Contesta (e.con kernel basura) m) →
      Safe e.solo (p.ejecutar stringTrim) s m fun v s' m' =>
        ∃ M', M.Paso e.base stringTrim G p v M' ∧ Representa e G q M' (s', m') ∧
          M'.EnSegmento e := by
    intro hk
    refine safe_solo fun kernel basura => ?_
    have hok : (correr (e.con kernel basura) (p.ejecutar stringTrim) s m).isSome := by
      have hcabe' : M.Cabe (e.con kernel basura) p := by cases p <;> exact hcabe
      exact (h.con kernel basura).progresa (he.con kernel basura) hM hadm hcabe' (hk kernel basura)
    obtain ⟨⟨⟨v, s'⟩, m'⟩, hr⟩ := Option.isSome_iff_exists.1 hok
    obtain ⟨M', hpaso, h'⟩ := (h.con kernel basura).primitiva hadm hr
    exact ⟨v, s', m', hr, M', hpaso, h'.sin, hM.paso hcabe hpaso⟩
  cases p with
  | obtenerValorCompartida x => exact h.safe_obtenerValor hM x
  | _ => exact hsolo fun _ _ => trivial

/-- **A line.** -/
lemma Representa.safe_ejecutar (he : e.Normal) {a : Analisis} (h : Representa e G q M (s, m))
    (hM : M.EnSegmento e) (ha : M.LineaCumple e.base stringTrim G (Maquina.Puede e) a) :
    Safe e.solo (Cpu.ejecutar stringTrim a) s m fun _ s' m' =>
      ∃ M', Maquina.Linea e.base stringTrim G a M M' ∧ Representa e G q M' (s', m') ∧
        M'.EnSegmento e := by
  induction a generalizing M s m with
  | ret x => exact ⟨M, rfl, h, hM⟩
  | ask p sigue ih =>
    obtain ⟨hp, hsigue⟩ := ha
    refine safe_get_bind (solo_hacer_bind trivial ?_)
    rintro - _ rfl
    refine Safe.bind (h.safe_primitiva he hM hp) fun v s₁ m₁ => ?_
    rintro ⟨M₁, hpaso, h₁, hseg₁⟩
    refine Safe.mono (ih v h₁ hseg₁ (hsigue v M₁ hpaso)) fun _ s' m' => ?_
    rintro ⟨M', hM', h', hseg'⟩
    exact ⟨M', ⟨v, M₁, hpaso, hM'⟩, h', hseg'⟩

/-- **A quantum.** -/
lemma Representa.safe_cicloQuantum {n : ℕ} (he : e.Normal) (hg : ConGuion e stringTrim G q)
    (h : Representa e G q M (s, m)) (hM : M.EnSegmento e)
    {analizadorLinea : Option (List Byte) → Analisis}
    (ha : M.TurnosCumplen e.base stringTrim G analizadorLinea (Maquina.Puede e)
      (Maquina.EnGuion G) n) :
    Safe e.solo (Cpu.cicloQuantum stringTrim analizadorLinea n) s m fun _ s' m' =>
      ∃ M', M.Turnos e.base stringTrim G analizadorLinea n M' ∧ Representa e G q M' (s', m') ∧
        M'.EnSegmento e := by
  induction n generalizing M s m with
  | zero => exact ⟨M, rfl, h, hM⟩
  | succ n ih =>
    have hfin : s.fueFinEjecucion = M.fin := h.fin
    refine safe_get_bind ?_
    rw [hfin]
    cases hno : M.fin with
    | true => exact ⟨M, .inl ⟨hno, rfl⟩, h, hM⟩
    | false =>
      obtain ⟨⟨hlinea, hpc⟩, hresto⟩ := ha hno
      obtain ⟨l, hl⟩ := Option.isSome_iff_exists.1 hlinea
      obtain ⟨hcumple, hresto⟩ := hresto l hl
      have hint : EsInt32 (s.pcb.programCounter + 1) := (h.solicitar_ok hg hl hpc).1
      have hsol : Safe e.solo (solicitarProxSentenciaAUmv stringTrim) s m fun r s' m' =>
          r = some l ∧ s' = s.conPcb { s.pcb with programCounter := s.pcb.programCounter + 1 } ∧
            m' = m :=
        safe_solo fun kernel basura => ⟨_, _, _,
          ((h.con kernel basura).solicitar_ok (hg.con kernel basura) hl hpc).2, rfl, rfl, rfl⟩
      rw [if_neg Bool.false_ne_true]
      refine Safe.bind hsol fun r s₁ m₁ => ?_
      rintro ⟨rfl, rfl, rfl⟩
      refine solo_hacer_bind trivial ?_
      rintro - _ rfl
      refine Safe.bind ((h.avanza hint).safe_ejecutar he hM hcumple) fun _ s₂ m₂ => ?_
      rintro ⟨M₂, hM₂, h₂, hseg₂⟩
      refine Safe.mono (ih h₂ hseg₂ (hresto M₂ hM₂)) fun _ s' m' => ?_
      rintro ⟨M', hM', h', hseg'⟩
      exact ⟨M', .inr ⟨hno, l, M₂, hl, hM₂, hM'⟩, h', hseg'⟩

end Maquina

/-! ### Dispatches -/

namespace Maquina

/-- The process comes to a CPU. -/
def sinFin (M : Maquina) : Maquina := ⟨M.pila, M.pc, false, M.enOrden⟩

section Jornadas

variable (base : ℤ) (stringTrim : List Byte → List Byte) (G : Guion)
  (analizadorLinea : Option (List Byte) → Analisis)

/-- **Dispatches** with these quanta, one after the other. -/
def Jornadas : List ℤ → Maquina → Maquina → Prop
  | [], M, M' => M' = M
  | cant :: l, M, M' => ∃ M₁, M.sinFin.Turnos base stringTrim G analizadorLinea cant.toNat M₁ ∧
    Jornadas l M₁ M'

/-- Each call meets `C`, and the machine meets `D` at the start of each line. -/
def JornadasCumplen (C : Maquina → Primitiva → Prop) (D : Maquina → Prop) : List ℤ → Maquina → Prop
  | [], _ => True
  | cant :: l, M => M.sinFin.TurnosCumplen base stringTrim G analizadorLinea C D cant.toNat ∧
    ∀ M₁, M.sinFin.Turnos base stringTrim G analizadorLinea cant.toNat M₁ → JornadasCumplen C D l M₁

end Jornadas

end Maquina

section Despacho

variable {e : Entorno} {stringTrim : List Byte → List Byte} {G : Guion} {q pcb : Pcb} {M : Maquina}
  {s : Estado} {m : Memoria}

/-- A CPU between two dispatches. -/
def Estado.EnReposo (s : Estado) : Prop := s.fueFinEjecucion = false ∧ s.huboSegFault = false

/-- **A dispatch** of a process that stays within its segment leaves in the pcb and in the memory what
the lines of its quantum mean, whatever the kernel answers. -/
theorem Ejecutable.keeps_despacho (hg : Ejecutable e stringTrim G q) {cant : ℤ}
    {analizadorLinea : Option (List Byte) → Analisis} (h : EnPcb e M pcb m) (hM : M.EnSegmento e)
    (hproc : MismoProceso q pcb) (hs : s.EnReposo)
    (ha : M.sinFin.TurnosCumplen e.base stringTrim G analizadorLinea (Maquina.Puede e)
      (Maquina.EnGuion G) cant.toNat) :
    Keeps e.solo (Cpu.despacho stringTrim analizadorLinea ⟨pcbYQuantum, cant, pcb⟩ s) m fun r m' =>
      ∃ M', M.sinFin.Turnos e.base stringTrim G analizadorLinea cant.toNat M' ∧
        EnPcb e M' r.2.pcb m' ∧ M'.EnSegmento e ∧ MismoProceso q r.2.pcb := by
  have hreanudar : Safe e.solo (Cpu.reanudar ⟨pcbYQuantum, cant, pcb⟩) s m fun _ s' m' =>
      Representa e G q M.sinFin (s', m') ∧ s'.quantumMax = cant := by
    refine safe_solo fun kernel basura => ?_
    have hg' : Ejecutable (e.con kernel basura) stringTrim G q :=
      ⟨hg.normal.con kernel basura, hg.guion.con kernel basura, hg.etiquetas⟩
    have h' : EnPcb (e.con kernel basura) M.sinFin pcb m :=
      ⟨h.base, h.dir, h.cant, h.pc, h.bytes, h.int32⟩
    have hcorre : ∃ s', correr (e.con kernel basura) (Cpu.reanudar ⟨pcbYQuantum, cant, pcb⟩) s m =
        some (((), s'), m) ∧ Representa (e.con kernel basura) G q M.sinFin (s', m) ∧
          s'.quantumMax = cant := hg'.reanudar h' hM hproc hs.1 hs.2
    obtain ⟨s', hr, hrep, hmax⟩ := hcorre
    exact ⟨(), s', m, hr, hrep.sin, hmax⟩
  show Safe e.solo (Cpu.despacho stringTrim analizadorLinea ⟨pcbYQuantum, cant, pcb⟩) s m
    fun _ s' m' => ∃ M', M.sinFin.Turnos e.base stringTrim G analizadorLinea cant.toNat M' ∧
      EnPcb e M' s'.pcb m' ∧ M'.EnSegmento e ∧ MismoProceso q s'.pcb
  rw [despacho_reanudar]
  refine Safe.bind hreanudar fun _ s₁ m₁ => ?_
  rintro ⟨h₁, hmax⟩
  refine safe_get_bind ?_
  rw [hmax]
  refine Safe.bind (h₁.safe_cicloQuantum hg.normal hg.guion hM ha) fun _ s₂ m₂ => ?_
  rintro ⟨M', hM', h₂, hseg⟩
  refine safe_solo fun kernel basura => ?_
  obtain ⟨s', hr, hpcb⟩ := correr_terminar (e := e.con kernel basura) (m := m₂)
    h₂.ejecuta.sinLiberar
  refine ⟨(), s', m₂, hr, M', hM', ?_, hseg, ?_⟩
  · rw [hpcb]
    exact h₂.enPcb
  · rw [hpcb]
    exact h₂.ejecuta.proceso

end Despacho

end Ansisop.Cpu
