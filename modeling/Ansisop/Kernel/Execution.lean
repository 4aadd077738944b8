import Ansisop.Kernel.Preemption
import Ansisop.Cpu.Progress

/-!
# A script over many quanta

A process that the kernel dispatches, and at the end of each quantum takes back and dispatches again,
to whatever CPU is free then. If the process stays within its stack segment, all its quanta run to
their end, and after them the CPU and the segment hold what the lines of the script, one after the
other, leave (`porQuantums_total`). Neither the places where the quanta end, nor the kernel and the CPUs
there, appear in that: the machine runs so many lines.
-/

namespace Ansisop.Kernel

open Ansisop.Sockets Ansisop.Lib
open TipoDatos (pcbYQuantum)
open Ansisop.Cpu (Representa EnPcb Maquina MismoProceso Ejecutable)

/-! ### Quanta -/

section Quantums

variable (e : Cpu.Entorno) (stringTrim : List Byte → List Byte)
  (analizadorLinea : Option (List Byte) → Cpu.Analisis) {id q : ℤ}

/-- The loop of `main` over the quantum that the CPU has been sent. -/
def Proceso.cicloQuantum (w : Proceso) : Option Proceso :=
  (Cpu.correr e (Cpu.cicloQuantum stringTrim analizadorLinea w.cpu.quantumMax.toNat)
    w.cpu w.mem).map fun r => { w with cpu := r.1.2, mem := r.2 }

/-- A quantum, and one more after each of the ends of quanta. A process that leaves the CPU in another
way has no end of a quantum. -/
def porQuantums : List (Corte id q) → Proceso × PcbOtros → Option (Proceso × PcbOtros)
  | [], w => (w.1.cicloQuantum e stringTrim analizadorLinea).map fun p => (p, w.2)
  | c :: l, w => do
    let p ← w.1.cicloQuantum e stringTrim analizadorLinea
    if p.cpu.fueFinEjecucion then some (p, w.2)
    else
      let w' ← c.hacer e (p, w.2)
      porQuantums l w'

end Quantums

/-! ### The machine over the quanta -/

section Maquina

variable {e : Cpu.Entorno} {stringTrim : List Byte → List Byte} {G : Cpu.Guion}
  {analizadorLinea : Option (List Byte) → Cpu.Analisis} {id q : ℤ} {M : Maquina} {p : Pcb}
  {w : Proceso} {x : PcbOtros}

/-- The context of a process on the record of the same process. -/
lemma actualizar_mismo {a b : Pcb} (ha : MismoProceso p a) (hb : MismoProceso p b) :
    actualizar a b = b := by
  obtain ⟨h₁, h₂, h₃, h₄, h₅, h₆, h₇⟩ := ha
  obtain ⟨k₁, k₂, k₃, k₄, k₅, k₆, k₇⟩ := hb
  unfold actualizar
  rw [h₁, h₂, h₃, h₄, h₅, h₆, h₇, ← k₁, ← k₂, ← k₃, ← k₄, ← k₅, ← k₆, ← k₇]

/-- The fields of the pcb on a CPU that holds a machine. -/
lemma campos_representa (h : Representa e G p M (w.cpu, w.mem))
    (hp : ∀ y ∈ camposPcb p, EsInt32 y) : ∀ y ∈ camposPcb w.cpu.pcb, EsInt32 y := by
  have hproc : MismoProceso p w.cpu.pcb := h.ejecuta.proceso
  have hdir : EsInt32 w.cpu.pcb.dirContActual := by
    rw [show w.cpu.pcb.dirContActual = _ from h.marco.dir]
    exact h.marco.dir_int32
  simp only [camposPcb, List.forall_mem_cons, List.not_mem_nil, false_implies, implies_true,
    and_true] at hp ⊢
  rw [hproc.dirIndiceCodigo, hproc.dirIndiceEtiquetas, hproc.dirSegCodigo, hproc.dirSegStack,
    hproc.id, hproc.tamIndiceEtiquetas, hproc.cantInstrucciones]
  exact ⟨h.cant, hdir, h.marco.pc_int32, hp.2.2.2⟩

/-- **The end of a quantum** takes the machine to another CPU. -/
lemma corte_representa (hg : Ejecutable e stringTrim G p) (hp : ∀ y ∈ camposPcb p, EsInt32 y)
    (hq : EsInt32 q)
    (h : Representa e G p M (w.cpu, w.mem)) (hseg : M.EnSegmento e) (hM : M.fin = false)
    (hx : MismoProceso p x.pcb) (c : Corte p.id q) :
    ∃ w' x', c.hacer e (w, x) = some (w', x') ∧ Representa e G p M (w'.cpu, w'.mem) ∧
      w'.cpu.quantumMax = q ∧ MismoProceso p x'.pcb := by
  have hproc : MismoProceso p w.cpu.pcb := h.ejecuta.proceso
  have hcampos := campos_representa h hp
  have hfin : w.cpu.fueFinEjecucion = false := h.fin.trans hM
  have hdevuelto := c.devuelto_eq (x := x) (s := w.cpu) hx.id
    (enMensaje (show EsInt32 0 by decide) hcampos)
  rw [actualizar_mismo hx hproc] at hdevuelto
  have hdespachado := c.despachado_eq (x := { x with pcb := w.cpu.pcb }) (enMensaje hq hcampos)
  have hcorre : ∃ s', Cpu.correr e (Cpu.reanudar ⟨pcbYQuantum, q, w.cpu.pcb⟩) c.cpu w.mem =
      some (((), s'), w.mem) ∧ Representa e G p M (s', w.mem) ∧ s'.quantumMax = q :=
    hg.reanudar h.enPcb hseg hproc (c.enEspera.1.trans hM.symm) c.enEspera.2
  obtain ⟨s', hr, h', hmax⟩ := hcorre
  refine ⟨{ w with cpu := s', mem := w.mem }, { x with pcb := w.cpu.pcb }, ?_, h', hmax, hproc⟩
  unfold Corte.hacer
  dsimp only
  rw [hfin, if_neg Bool.false_ne_true, hdevuelto, Option.bind_eq_bind, Option.bind_some,
    hdespachado, Option.bind_eq_bind, Option.bind_some, hr]
  rfl

/-- A quantum that stays within the segment. -/
lemma cicloQuantum_representa (hg : Ejecutable e stringTrim G p)
    (h : Representa e G p M (w.cpu, w.mem)) (hseg : M.EnSegmento e) (hq : w.cpu.quantumMax = q)
    (ha : M.TurnosCumplen e.base stringTrim G analizadorLinea (Maquina.Atendida e)
      (Maquina.EnGuion G) q.toNat) :
    ∃ w' M', w.cicloQuantum e stringTrim analizadorLinea = some w' ∧
      M.Turnos e.base stringTrim G analizadorLinea q.toNat M' ∧
      Representa e G p M' (w'.cpu, w'.mem) ∧ M'.EnSegmento e := by
  obtain ⟨s', m', M', hr, hM', h', hseg'⟩ := h.cicloQuantum_total hg.normal hg.guion hseg ha
  refine ⟨{ w with cpu := s', mem := m' }, M', ?_, hM', h', hseg'⟩
  rw [Proceso.cicloQuantum, hq, hr]
  rfl

/-- The quanta of a process that has been dispatched. -/
lemma porQuantums_representa (hg : Ejecutable e stringTrim G p)
    (hp : ∀ y ∈ camposPcb p, EsInt32 y) (hq : EsInt32 q) (l : List (Corte p.id q)) :
    ∀ {M : Maquina} {w : Proceso} {x : PcbOtros}, Representa e G p M (w.cpu, w.mem) →
    M.EnSegmento e → w.cpu.quantumMax = q → MismoProceso p x.pcb →
    M.TurnosCumplen e.base stringTrim G analizadorLinea (Maquina.Atendida e)
      (Maquina.EnGuion G) ((l.length + 1) * q.toNat) →
    ∃ w' x' M', porQuantums e stringTrim analizadorLinea l (w, x) = some (w', x') ∧
      M.Turnos e.base stringTrim G analizadorLinea ((l.length + 1) * q.toNat) M' ∧
      Representa e G p M' (w'.cpu, w'.mem) := by
  induction l with
  | nil =>
    intro M w x h hseg hmax hx ha
    rw [List.length_nil, Nat.zero_add, Nat.one_mul] at ha ⊢
    obtain ⟨w', M', hw, hM', h', -⟩ := cicloQuantum_representa hg h hseg hmax ha
    exact ⟨w', x, M', by rw [porQuantums, hw]; rfl, hM', h'⟩
  | cons c l ih =>
    intro M w x h hseg hmax hx ha
    have hlineas : ((c :: l).length + 1) * q.toNat = q.toNat + (l.length + 1) * q.toNat := by
      rw [List.length_cons]
      ring
    rw [hlineas] at ha ⊢
    obtain ⟨w₁, M₁, hw, hM₁, h₁, hseg₁⟩ := cicloQuantum_representa hg h hseg hmax ha.menos
    have hfin : w₁.cpu.fueFinEjecucion = M₁.fin := h₁.fin
    rw [porQuantums]
    dsimp only
    rw [hw, Option.bind_eq_bind, Option.bind_some, hfin]
    cases hno : M₁.fin with
    | true =>
      refine ⟨w₁, x, M₁, if_pos rfl, Maquina.turnos_add hM₁ (Maquina.turnos_of_fin hno), h₁⟩
    | false =>
      obtain ⟨w₂, x₂, hc, h₂, hmax₂, hx₂⟩ := corte_representa hg hp hq h₁ hseg₁ hno hx c
      obtain ⟨w', x', M', hw', hM', h'⟩ := ih h₂ hseg₁ hmax₂ hx₂ (ha.resto hM₁)
      refine ⟨w', x', M', ?_, Maquina.turnos_add hM₁ hM', h'⟩
      rw [if_neg Bool.false_ne_true, hc, Option.bind_eq_bind, Option.bind_some, hw']

/-- **A script over its quanta.** The process of the record `x`, whose pcb and segment hold the
machine `M`, is dispatched, and dispatched again after each of the ends of quanta in `l`. If what the
script does in so many lines has a meaning and fits in the segment, all its quanta run to their end,
and what they leave is what so many lines of the script may leave. -/
theorem porQuantums_total {m : Cpu.Memoria} {s : Cpu.Estado} (hg : Ejecutable e stringTrim G x.pcb)
    (hp : ∀ y ∈ camposPcb x.pcb, EsInt32 y) (hq : EsInt32 q) (h : EnPcb e M x.pcb m)
    (hseg : M.EnSegmento e) (hM : M.fin = false)
    (hfin : s.fueFinEjecucion = false) (hfault : s.huboSegFault = false)
    (l : List (Corte x.pcb.id q))
    (ha : M.TurnosCumplen e.base stringTrim G analizadorLinea (Maquina.Atendida e)
      (Maquina.EnGuion G) ((l.length + 1) * q.toNat)) :
    ∃ w w' x' M', despachar e q x s m = some w ∧
      porQuantums e stringTrim analizadorLinea l (w, x) = some (w', x') ∧
      M.Turnos e.base stringTrim G analizadorLinea ((l.length + 1) * q.toNat) M' ∧
      Representa e G x.pcb M' (w'.cpu, w'.mem) := by
  have hcorre : ∃ s', Cpu.correr e (Cpu.reanudar ⟨pcbYQuantum, q, x.pcb⟩) s m =
      some (((), s'), m) ∧ Representa e G x.pcb M (s', m) ∧ s'.quantumMax = q :=
    hg.reanudar h hseg (MismoProceso.refl _) (hfin.trans hM.symm) hfault
  obtain ⟨s', hr, h', hmax⟩ := hcorre
  obtain ⟨w', x', M', hw, hM', hrep⟩ := porQuantums_representa hg hp hq l (w := ⟨s', m, []⟩) h' hseg hmax
    (MismoProceso.refl _) ha
  refine ⟨⟨s', m, []⟩, w', x', M', ?_, hw, hM', hrep⟩
  rw [despachar, hr]
  rfl

end Maquina

/-! ### A variable in each line -/

lemma ejecutable_enPila : Ejecutable Cpu.entornoNormal id Cpu.unGuion (registroEnPila 5).pcb :=
  ⟨Cpu.normal_entornoNormal, Cpu.conGuion_normal, rfl⟩

/-- Two quanta of two lines, on two CPUs. -/
theorem porQuantums_corteSolo : ∃ w w' x' M',
    despachar Cpu.entornoNormal 2 (registroEnPila 5) cpuEnEspera Cpu.memoriaEnPila = some w ∧
      porQuantums Cpu.entornoNormal id Cpu.definePorLinea [corteSolo] (w, registroEnPila 5) =
        some (w', x') ∧
      Cpu.maquinaEnPila.Turnos 1000 id Cpu.unGuion Cpu.definePorLinea 4 M' ∧
      Representa Cpu.entornoNormal Cpu.unGuion (registroEnPila 5).pcb M' (w'.cpu, w'.mem) :=
  porQuantums_total ejecutable_enPila (by decide) (by decide) Cpu.enPcb_enPila
    Cpu.enSegmento_enPila rfl rfl rfl [corteSolo] (Cpu.cumplen_definePorLinea 4 _ (by decide) (by decide) (by decide))

end Ansisop.Kernel
