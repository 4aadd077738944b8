import Ansisop.Kernel.Handback
import Ansisop.Cpu.Rebuild

/-!
# Preemption

The end of a quantum, as the process sees it: the CPU sends its pcb (`salirPorQuantum`), the kernel
takes three fields of it over into the record it has (`fin_quantum`), dispatches the record when its
turn comes (`manejador_ready_exec`), and a CPU that may be another one rebuilds labels and variables
from the memory (`reanudar`). On a state whose dictionary is the one of its frame all this is the
identity (`corte_id`), so a run does not show where its quanta end (`run_sinCortes`).

The dictionary is that of the frame as long as nobody writes over the name of a variable of it, and
its number of variables is not negative when one is added.
-/

namespace Ansisop.Kernel

open Ansisop.Sockets Ansisop.Lib Hilo
open TipoDatos hiding signal wait

/-! ### The end of a quantum -/

/-- What surrounds the end of a quantum of the process `id`, with quanta of `q`: the kernel when the
messages of the CPU come, apart from the CPU and the process; the kernel when the turn of the process
comes; and the globals of the CPU it then goes to. -/
structure Corte (id q : ℤ) where
  antes : Estado
  cpus : List Cpu
  exec : List PcbOtros
  socCpu : ℤ
  otraCpu : ∀ cpu ∈ cpus, cpu.socCpu ≠ socCpu
  otroProceso : ∀ x ∈ exec, x.pcb.id ≠ id
  despues : Estado
  ocupadas : List Cpu
  ocupada : ∀ cpu ∈ ocupadas, cpu.idProgExec ≠ 0
  quantum : despues.quantumMax = q
  libre : Cpu
  esLibre : libre.idProgExec = 0
  cpu : Cpu.Estado
  enEspera : cpu.fueFinEjecucion = false ∧ cpu.huboSegFault = false
  mem : Memoria

namespace Corte

variable {id q : ℤ} (c : Corte id q)

/-- The kernel while the process `x` runs. -/
def ejecutando (x : PcbOtros) : Estado :=
  (c.antes.conCpus (c.cpus ++ ⟨c.socCpu, x.nSocket, x.pcb.id⟩ :: c.antes.listaCpu)).conCola .exec
    (c.exec.map some ++ some x :: c.antes.colas .exec)

/-- The kernel when the process `x` is the first of the ready ones and a CPU is free. -/
def listo (x : PcbOtros) : Estado :=
  (((c.despues.conCpus (c.ocupadas ++ c.libre :: c.despues.listaCpu)).conCola .ready
    (some x :: c.despues.colas .ready)).conSem .cantReady (c.despues.sem .cantReady + 1)).conSem
      .cantCpuLibres (c.despues.sem .cantCpuLibres + 1)

/-- `fin_quantum`: the record of the process `x` in the queue of the ready ones after the messages of
a CPU in the state `s`. -/
def devuelto (x : PcbOtros) (s : Cpu.Estado) : Option PcbOtros := do
  let mensajes ← (Entrega.quantum.mensajes false s).mapM (Sockets.llega c.mem)
  let r ← correr (administrarMenCpus c.socCpu) (c.ejecutando x) ⟨mensajes, []⟩
  (r.1.2.colas .ready).getLast?.join

/-- `manejador_ready_exec`: what the CPU receives when it is the turn of the record `x`. -/
def despachado (x : PcbOtros) : Option MenQuantumPcb := do
  let r ← correr manejadorReadyExec (c.listo x) ⟨[], []⟩
  match r.2.salida with
  | [.enviado _ men] =>
    match ← Sockets.llega c.mem men with
    | .quantumPcb men => some men
    | _ => none
  | _ => none

end Corte

section Corte

variable {id q : ℤ} (c : Corte id q) {x : PcbOtros} {s : Cpu.Estado}

/-- A record that fits in the messages. -/
def EnMensaje (q : ℤ) (pcb : Pcb) : Prop := (Mensaje.quantumPcb ⟨pcbYQuantum, q, pcb⟩).EnRango

lemma ejecuta_ejecutando (hid : x.pcb.id = id) :
    Ejecuta (c.ejecutando x) c.socCpu ⟨c.socCpu, x.nSocket, x.pcb.id⟩ x := by
  have hno : ∀ cpu ∈ c.cpus, ¬ (cpu.socCpu == c.socCpu) = true := by
    intro cpu hcpu
    simpa using c.otraCpu cpu hcpu
  refine ⟨?_, c.exec.map some, c.antes.colas .exec, rfl, ?_, rfl⟩
  · show (c.cpus ++ _ :: _).find? _ = _
    rw [List.find?_append, List.find?_eq_none.2 hno, Option.none_or, List.find?_cons_of_pos (by simp)]
  · intro y hy
    obtain ⟨z, hz, rfl⟩ := List.mem_map.1 hy
    refine ⟨z, rfl, ?_⟩
    dsimp only
    rw [hid]
    exact c.otroProceso z hz

/-- The record comes back with the context that the CPU sent. -/
lemma Corte.devuelto_eq (hid : x.pcb.id = id) (hs : EnMensaje 0 s.pcb) :
    c.devuelto x s = some { x with pcb := actualizar x.pcb s.pcb } := by
  have haviso : Mensaje.EnRango (.comun (Entrega.aviso TipoDatos.finQuantum false)) :=
    ⟨by decide, rfl, by decide⟩
  obtain ⟨k', io', hrun, hready⟩ := finQuantum_found (m := ⟨pcbYQuantum, 0, s.pcb⟩) []
    (ejecuta_ejecutando c hid) false
  have hcorrer : correr (administrarMenCpus c.socCpu) (c.ejecutando x)
      ⟨[.comun (Entrega.aviso TipoDatos.finQuantum false), .quantumPcb ⟨pcbYQuantum, 0, s.pcb⟩], []⟩ =
        some (((), k'), io') := hrun
  rw [Corte.devuelto, Entrega.mensajes_quantum]
  simp only [List.mapM_cons, List.mapM_nil, llega_eq c.mem haviso, llega_eq c.mem hs, Option.pure_def,
    Option.bind_eq_bind, Option.bind_some, hcorrer, hready]
  simp

lemma correr_semDecre {k : Estado} {io : Bandeja} {y : Sem} (h : k.sem y ≠ 0) :
    correr (semDecre y) k io = some (((), k.conSem y (k.sem y - 1)), io) := by
  unfold correr semDecre
  rw [Dialog.interp_ask, respuestaAtomica, if_neg h]
  rfl

/-- The CPU is sent the record as it is. -/
lemma Corte.despachado_eq (hx : EnMensaje q x.pcb) :
    c.despachado x = some ⟨pcbYQuantum, q, x.pcb⟩ := by
  have hno : ∀ cpu ∈ c.ocupadas, ¬ (cpu.idProgExec == 0) = true := by
    intro cpu hcpu
    simpa using c.ocupada cpu hcpu
  have hlibre : (c.ocupadas ++ c.libre :: c.despues.listaCpu).find? (fun cpu => cpu.idProgExec == 0) =
      some c.libre := by
    rw [List.find?_append, List.find?_eq_none.2 hno, Option.none_or,
      List.find?_cons_of_pos (by simp [c.esLibre])]
  have hlista : (c.listo x).listaCpu = c.ocupadas ++ c.libre :: c.despues.listaCpu := rfl
  have hready : (c.listo x).colas .ready = some x :: c.despues.colas .ready := rfl
  have hq : (c.listo x).quantumMax = q := c.quantum
  have h₁ : (c.listo x).sem .cantReady ≠ 0 := by simp [Corte.listo]
  have h₂ : ((c.listo x).conSem .cantReady ((c.listo x).sem .cantReady - 1)).sem .cantCpuLibres ≠ 0 := by
    simp [Corte.listo]
  rw [Corte.despachado]
  simp only [manejadorReadyExec, getCpuLibreRemove, enviarCpuPcb, correr_bind, correr_semDecre h₁,
    Option.bind_some, correr_semDecre h₂, correr_lock, correr_listaCpuRemove, correr_queuePop,
    Estado.conSem_listaCpu, hlista, hlibre, Estado.conCpus_colas, Estado.conSem_colas, hready,
    List.head?_cons, Option.join_some, correr_deref, correr_get, correr_enviar, correr_listaCpuAdd,
    correr_queuePush, correr_unlock, Estado.conCola_quantumMax, Estado.conCpus_quantumMax,
    Estado.conSem_quantumMax, hq, List.nil_append, Option.bind_eq_bind, llega_eq c.mem hx]

end Corte

/-- The pcb that the kernel makes for a script is a valid one of its stack. -/
lemma pcbValido_nuevo {metadata : List Byte → MetadataProgram} {basura : ℤ} {men : MenComun}
    {resp : RespSolMem} {k k' : Estado} {io io' : Bandeja} {pcb : Pcb} {e : Cpu.Entorno}
    (h : correr (crearPcbEscribirSegUmv metadata basura men resp) k io = some ((pcb, k'), io'))
    (hbase : resp.dirSegStack = e.base) (hint : EsInt32 resp.dirSegStack)
    (hpc : EsInt32 (metadata men.dato).instruccionInicio) : Cpu.PcbValido e pcb := by
  obtain ⟨_, k₁, io₁, h₁, hr⟩ := correr_bind_some h
  obtain ⟨_, k₂, io₂, h₂, hr₂⟩ := correr_bind_some hr
  obtain ⟨_, k₃, io₃, h₃, hr₃⟩ := correr_bind_some hr₂
  obtain ⟨rfl, -, -⟩ := correr_some rfl hr₃
  refine ⟨hbase, le_rfl, ?_⟩
  simp only [List.forall_mem_cons, List.not_mem_nil, false_implies, implies_true, and_true]
  exact ⟨hint, hint, hpc⟩

/-! ### A process over its quanta -/

/-- A process as its program sees it: the CPU it is on, its stack, and what the primitives have
returned. -/
structure Proceso where
  cpu : Cpu.Estado
  mem : Cpu.Memoria
  valores : List (Σ p : Cpu.Primitiva, p.Valor)

/-- What the program does: the fetch of an instruction, or a call of a primitive. -/
inductive Accion where
  | sentencia
  | llamada (p : Cpu.Primitiva)

section Marcha

variable (e : Cpu.Entorno) (stringTrim : List Byte → List Byte) {id q : ℤ}

/-- An action without a fault. -/
def Accion.hacer : Accion → Proceso → Option Proceso
  | sentencia, w =>
    (Cpu.correr e (Cpu.solicitarProxSentenciaAUmv stringTrim) w.cpu w.mem).map fun r =>
      { w with cpu := r.1.2, mem := r.2 }
  | llamada p, w =>
    (Cpu.correr e (p.ejecutar stringTrim) w.cpu w.mem).map fun r =>
      ⟨r.1.2, r.2, w.valores ++ [⟨p, r.1.1⟩]⟩

/-- The end of a quantum and the next dispatch, with the record the kernel has of the process. None
takes place once the process has ended. -/
def Corte.hacer (c : Corte id q) (w : Proceso × PcbOtros) : Option (Proceso × PcbOtros) :=
  if w.1.cpu.fueFinEjecucion then some w
  else do
    let x ← c.devuelto w.2 w.1.cpu
    let men ← c.despachado x
    let r ← Cpu.correr e (Cpu.reanudar men) c.cpu w.1.mem
    some ({ w.1 with cpu := r.1.2, mem := r.2 }, x)

/-- A step of an execution with ends of quanta in it. -/
def marcha : Accion ⊕ Corte id q → Proceso × PcbOtros → Option (Proceso × PcbOtros)
  | .inl a, w => (a.hacer e stringTrim w.1).map fun p => (p, w.2)
  | .inr c, w => c.hacer e w

/-- The actions of an execution, the ends of quanta left out. -/
def acciones (l : List (Accion ⊕ Corte id q)) : List Accion := l.filterMap Sum.getLeft?

/-- `asignar` and `dereferenciar` get the address of a variable. -/
def Accion.DeVariable (w : Proceso) : Accion → Prop
  | sentencia => True
  | llamada p => p.DeVariable w.cpu

/-- No variable is added to a frame with a negative number of them. -/
def Accion.CuentaBien (w : Proceso) : Accion → Prop
  | sentencia => True
  | llamada p => p.CuentaBien w.cpu

/-- What `retornar` writes is a variable. -/
def Accion.RetornaBien (w : Proceso) : Accion → Prop
  | sentencia => True
  | llamada p => p.RetornaBien w.cpu w.mem

instance (w : Proceso) (a : Accion) : Decidable (a.DeVariable w) := by
  cases a <;> unfold Accion.DeVariable <;> infer_instance

instance (w : Proceso) (a : Accion) : Decidable (a.CuentaBien w) := by
  cases a <;> unfold Accion.CuentaBien <;> infer_instance

instance (w : Proceso) (a : Accion) : Decidable (a.RetornaBien w) := by
  cases a <;> unfold Accion.RetornaBien <;> infer_instance

/-- The three conditions on an action. -/
def Accion.Admitida (w : Proceso) (a : Accion) : Prop :=
  a.DeVariable w ∧ a.CuentaBien w ∧ a.RetornaBien w

instance (w : Proceso) (a : Accion) : Decidable (a.Admitida w) :=
  inferInstanceAs (Decidable (_ ∧ _ ∧ _))

end Marcha

/-! ### The invariant -/

/-- The fields of a pcb. -/
def camposPcb (pcb : Pcb) : List ℤ :=
  [pcb.cantVarContActual, pcb.dirContActual, pcb.programCounter, pcb.dirIndiceCodigo,
    pcb.dirIndiceEtiquetas, pcb.dirSegCodigo, pcb.dirSegStack, pcb.id, pcb.tamIndiceEtiquetas,
    pcb.cantInstrucciones]

lemma enMensaje {q : ℤ} {pcb : Pcb} (hq : EsInt32 q) (h : ∀ x ∈ camposPcb pcb, EsInt32 x) :
    EnMensaje q pcb := by
  simp only [camposPcb, List.forall_mem_cons, List.not_mem_nil, false_implies, implies_true,
    and_true] at h
  obtain ⟨h₁, h₂, h₃, h₄, h₅, h₆, h₇, h₈, h₉, h₁₀⟩ := h
  refine ⟨?_, trivial, show (4 * (((12 : ℕ) : ℤ) + 1) + (0 : ℕ) : ℤ) < 2 ^ 31 by norm_num⟩
  simp only [Mensaje.campos, List.forall_mem_cons, List.not_mem_nil, false_implies, implies_true,
    and_true]
  exact ⟨by decide, hq, h₁, h₂, h₄, h₅, h₆, h₇, h₈, h₃, h₉, h₁₀⟩

/-- The process of the record `x` is on the CPU with its labels and its variables. -/
structure Regular (e : Cpu.Entorno) (q : ℤ) (w : Proceso) (x : PcbOtros) : Prop where
  regenerada : Cpu.Regenerada e w.cpu w.mem
  etiquetasAparte : w.cpu.pcb.dirIndiceEtiquetas ≠ e.base
  etiquetas : ∃ l, w.cpu.etiquetas = .datos l ∧
    e.otros w.cpu.pcb.dirIndiceEtiquetas 0 w.cpu.pcb.tamIndiceEtiquetas = some l
  quantumMax : w.cpu.quantumMax = q
  huboSegFault : w.cpu.huboSegFault = false
  registro : actualizar x.pcb w.cpu.pcb = w.cpu.pcb
  campos : ∀ y ∈ camposPcb w.cpu.pcb, EsInt32 y

section Regular

variable {e : Cpu.Entorno} {stringTrim : List Byte → List Byte} {id q : ℤ} {w w' : Proceso}
  {x : PcbOtros}

/-- Nothing but the frame and the line has changed, and they are those of the dictionary. -/
lemma Regular.mantiene (h : Regular e q w x) (hm : Cpu.Mantiene w.cpu w'.cpu)
    (hr : Cpu.Regenerada e w'.cpu w'.mem) : Regular e q w' x := by
  obtain ⟨l, hl, hotros⟩ := h.etiquetas
  have hpcb := hm.pcb
  have hregistro : actualizar x.pcb w'.cpu.pcb = w'.cpu.pcb := by
    have hx := h.registro
    rw [hpcb]
    rw [← hx]
    rfl
  have hint := hr.int32
  have hcampos := h.campos
  refine ⟨hr, ?_, ⟨l, hm.etiquetas.trans hl, ?_⟩, hm.quantumMax.trans h.quantumMax,
    hm.huboSegFault.trans h.huboSegFault, hregistro, ?_⟩
  · rw [hpcb]
    exact h.etiquetasAparte
  · rw [hpcb]
    exact hotros
  · simp only [camposPcb, List.forall_mem_cons, List.not_mem_nil, false_implies, implies_true,
      and_true] at hcampos hint ⊢
    rw [hpcb]
    exact ⟨hint.1, hint.2.1, hint.2.2, hcampos.2.2.2⟩

/-- **An action keeps it.** -/
theorem Regular.accion (h : Regular e q w x) {a : Accion} (ha : a.Admitida w)
    (hw : a.hacer e stringTrim w = some w') : Regular e q w' x := by
  cases a with
  | sentencia =>
    obtain ⟨⟨⟨v, s⟩, m⟩, hr, rfl⟩ := Option.map_eq_some_iff.1 hw
    obtain ⟨hpc, rfl, rfl⟩ := Cpu.correr_solicitarProxSentenciaAUmv hr
    exact h.mantiene ⟨rfl, rfl, rfl, rfl⟩ (h.regenerada.conPc hpc)
  | llamada p =>
    obtain ⟨⟨⟨v, s⟩, m⟩, hr, rfl⟩ := Option.map_eq_some_iff.1 hw
    obtain ⟨hm, hreg⟩ := h.regenerada.primitiva ha.1 ha.2.1 ha.2.2 hr
    exact h.mantiene hm hreg

/-- **The end of a quantum changes nothing** that the program sees. -/
theorem Regular.corte (h : Regular e q w x) (c : Corte id q) (hid : x.pcb.id = id) (hq : EsInt32 q) :
    ∃ x', c.hacer e (w, x) = some (w, x') ∧ Regular e q w x' ∧ x'.pcb.id = id := by
  unfold Corte.hacer
  by_cases hfin : w.cpu.fueFinEjecucion = true
  · rw [if_pos hfin]
    exact ⟨x, rfl, h, hid⟩
  · obtain ⟨l, hl, hotros⟩ := h.etiquetas
    obtain ⟨hfin₀, hfault₀⟩ := c.enEspera
    have hdevuelto := c.devuelto_eq hid (enMensaje (show EsInt32 0 by decide) h.campos)
    rw [h.registro] at hdevuelto
    have hdespachado := c.despachado_eq (x := { x with pcb := w.cpu.pcb }) (enMensaje hq h.campos)
    have hreanudar := h.regenerada.reanudar h.etiquetasAparte hl hotros
      (hfin₀.trans (Bool.not_eq_true _ ▸ hfin).symm) (hfault₀.trans h.huboSegFault.symm)
    rw [h.quantumMax] at hreanudar
    refine ⟨{ x with pcb := w.cpu.pcb }, ?_, ?_, ?_⟩
    · rw [if_neg hfin, hdevuelto, Option.bind_eq_bind, Option.bind_some, hdespachado,
        Option.bind_eq_bind, Option.bind_some, hreanudar]
      rfl
    · exact ⟨h.regenerada, h.etiquetasAparte, h.etiquetas, h.quantumMax, h.huboSegFault, rfl, h.campos⟩
    · rw [← h.registro]
      exact hid

/-- From a regular state on, what the program sees does not depend on the ends of quanta. -/
theorem Regular.run (hq : EsInt32 q) (l : List (Accion ⊕ Corte id q)) :
    ∀ {w : Proceso} {x : PcbOtros}, Regular e q w x → x.pcb.id = id →
      Along (Accion.hacer e stringTrim) Accion.Admitida (acciones l) w →
      (Lib.run (marcha e stringTrim) l (w, x)).map Prod.fst =
        Lib.run (Accion.hacer e stringTrim) (acciones l) w := by
  induction l with
  | nil => intro w x _ _ _; rfl
  | cons i l ih =>
    intro w x h hid ha
    cases i with
    | inl a =>
      obtain ⟨hc, ha⟩ := ha
      cases hw : a.hacer e stringTrim w with
      | none => simp [Lib.run, marcha, acciones, hw]
      | some w' =>
        have hl := ih (h.accion hc hw) hid (ha w' hw)
        simpa only [Lib.run, marcha, acciones, hw, List.filterMap_cons, Sum.getLeft?_inl,
          Option.map_some, Option.bind_some] using hl
    | inr c =>
      obtain ⟨x', hw, h', hid'⟩ := h.corte c hid hq
      have hl := ih h' hid' ha
      simpa only [Lib.run, marcha, acciones, hw, List.filterMap_cons, Sum.getLeft?_inr,
        Option.bind_some] using hl

end Regular

/-! ### Dispatches -/

/-- The process of the record `x` on a CPU with the globals `s`, over the stack `m`. -/
def despachar (e : Cpu.Entorno) (q : ℤ) (x : PcbOtros) (s : Cpu.Estado) (m : Cpu.Memoria) :
    Option Proceso :=
  (Cpu.correr e (Cpu.reanudar ⟨pcbYQuantum, q, x.pcb⟩) s m).map fun r => ⟨r.1.2, r.2, []⟩

section Despacho

variable {e : Cpu.Entorno} {stringTrim : List Byte → List Byte} {q : ℤ} {w : Proceso} {x : PcbOtros}
  {s : Cpu.Estado} {m : Cpu.Memoria}

end Despacho

/-! ### A variable and a call -/

/-- The process of `pcbEnPila` at the line `pc`. -/
def registroEnPila (pc : ℤ) : PcbOtros := ⟨{ Cpu.pcbEnPila with programCounter := pc }, 9, 1, -1⟩

/-- A CPU that waits for its first process. -/
def cpuEnEspera : Cpu.Estado := ⟨Cpu.pcbEnPila, 0, .nulo, false, false, fun _ => none⟩

/-- The end of a quantum in a kernel that runs nothing else, from the CPU 5 to the CPU 6. -/
def corteSolo : Corte 7 2 where
  antes := inicial unLugar 4
  cpus := []
  exec := []
  socCpu := 5
  otraCpu := by simp
  otroProceso := by simp
  despues := inicial unLugar 4
  ocupadas := []
  ocupada := by simp
  quantum := rfl
  libre := ⟨6, 0, 0⟩
  esLibre := rfl
  cpu := cpuEnEspera
  enEspera := ⟨rfl, rfl⟩
  mem := ⟨fun _ => 7, fun _ => 9⟩

section Muestra

variable {pc : ℤ} {l : List (Accion ⊕ Corte 7 2)} {cond : Proceso → Accion → Prop}
  [∀ w a, Decidable (cond w a)] {c : Byte} {u v : Option (Option ℤ)}

end Muestra

end Ansisop.Kernel
