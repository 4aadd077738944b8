import Ansisop.Kernel.Waiters

/-!
# The named semaphores

`Registro` is what a run shows of one semaphore: the requests and signals that the kernel has
received, and the processes whose request has been granted, at once or by leaving `cola_block` for
`cola_ready`. When the program of a process that waits is disconnected, its request is taken back.
The semaphore of the kernel is then the counting semaphore that has had this history, as long as
nobody who waits at a semaphore is disconnected.

`mover_pcb_exit` takes a blocked process out of `cola_block` and leaves its id in the queue of the
semaphore, where a later signal finds it.
-/

namespace Ansisop.Kernel

open Ansisop.Sockets Ansisop.Lib Hilo

/-! ### What a run shows of a semaphore -/

/-- The value and the waiting ids. -/
def Semaforo.conteo (s : Semaforo) : Counting ℤ := ⟨s.valor, s.procesos⟩

/-- The process that the CPU of the socket runs. -/
def Estado.quien (k : Estado) (soc : ℤ) : ℤ :=
  (k.listaCpu.find? fun unCpu => unCpu.socCpu == soc).elim 0 Cpu.idProgExec

/-- The operation on the semaphore `clave` that a step brings. -/
def Paso.operacion (k : Estado) (clave : List Byte) : Paso → Option (SemOp ℤ)
  | .menCpu soc (.comun men :: _) =>
    if cadena men.dato = some clave then
      if men.tipo = TipoDatos.wait then some (.wait (k.quien soc))
      else if men.tipo = TipoDatos.signal then some .signal
      else none
    else none
  | _ => none

/-- The step answers `SEM_OK` to a `WAIT` on the semaphore `clave`. -/
def Paso.Otorga (clave : List Byte) (salida : List Salida) : Paso → Prop
  | .menCpu soc (.comun men :: _) => cadena men.dato = some clave ∧ men.tipo = TipoDatos.wait ∧
      .enviado soc (.comun (crearMenComun TipoDatos.semOk [])) ∈ salida
  | _ => False

instance (clave : List Byte) (salida : List Salida) : (p : Paso) → Decidable (p.Otorga clave salida)
  | .menCpu _ (.comun _ :: _) => inferInstanceAs (Decidable (_ ∧ _))
  | .menCpu _ [] | .menCpu _ (.seg _ :: _) | .menCpu _ (.quantumPcb _ :: _)
  | .menCpu _ (.cpuUmv _ :: _) | .progCerrado _ | .newScript .. | .newCpu _ | .newReady | .readyExec
  | .exit _ | .ioTomar _ | .ioServir _ => isFalse not_false

/-- The requests and signals of one semaphore, and the granted processes, in their order. -/
structure Registro where
  ops : List (SemOp ℤ)
  concedidas : List ℤ
  deriving DecidableEq

namespace Registro

/-- Those whose request has not been granted. -/
def pendientes (r : Registro) : List ℤ := (SemOp.requests r.ops).diff r.concedidas

/-- The last request of `i` is taken back. -/
def retirar (ops : List (SemOp ℤ)) (i : ℤ) : List (SemOp ℤ) := (ops.reverse.erase (.wait i)).reverse

/-- What a step adds: those who go from `cola_block` to `cola_ready` have their request granted,
and those who are gone from both have theirs taken back. -/
def anotar (clave : List Byte) (r : Registro) (k : Estado) (p : Paso) (k' : Estado)
    (salida : List Salida) : Registro where
  ops := (r.pendientes.filter fun i =>
      i ∈ k.ids .block ∧ i ∉ k'.ids .block ∧ i ∉ k'.ids .ready).foldl retirar r.ops ++
    (p.operacion k clave).toList
  concedidas := r.concedidas ++
    (r.pendientes.filter fun i => i ∈ k.ids .block ∧ i ∈ k'.ids .ready) ++
    if p.Otorga clave salida then (SemOp.requests (p.operacion k clave).toList) else []

end Registro

/-- A step, with what it shows of the semaphore `clave`. -/
def Paso.hacerCon (metadata : List Byte → MetadataProgram) (clave : List Byte) (p : Paso)
    (s : Estado × Registro) : Option (Estado × Registro) :=
  (correr (p.hilo metadata) s.1 ⟨p.entrada, []⟩).map fun r =>
    (r.1.2, s.2.anotar clave s.1 p r.1.2 r.2.salida)

/-- The ids recorded at the semaphore `clave` that are those of blocked processes. -/
def Estado.esperando (k : Estado) (clave : List Byte) : List ℤ :=
  (k.fila (.sem clave)).filter fun i => i ∈ k.ids .block

/-! ### What a step does to a semaphore -/

section Steps

variable {metadata : List Byte → MetadataProgram} {k k' k₁ : Estado} {clave : List Byte}
  {sem : Semaforo} {soc : ℤ} {men : MenComun} {io io' : Bandeja} {u : Unit} {p : Paso}

lemma saca_diccSem {c : Cola} {q : PcbOtros → Bool} {x : PcbOtros} (hs : k.Saca c q x k') :
    k'.diccSem = k.diccSem := by
  obtain ⟨pre, post, -, -, -, rfl⟩ := hs
  rfl

lemma tomaProceso_diccSem {cpu : Cpu} {x : PcbOtros} (ht : k.TomaProceso soc cpu x k') :
    k'.diccSem = k.diccSem := by
  obtain ⟨k₁, ⟨-, rfl⟩, hs⟩ := ht
  exact (saca_diccSem hs :)

lemma expulsa_diccSem {tipo : ℤ} (he : k.Expulsa tipo soc k') : k'.diccSem = k.diccSem := by
  obtain ⟨cpu, x, k₁, ht, rfl⟩ := he
  exact (tomaProceso_diccSem ht :)

lemma buscaExec_diccSem {id : ℤ} {r : Option PcbOtros} (hb : k.BuscaExec id r k') :
    k'.diccSem = k.diccSem := by
  rcases hb with ⟨x, -, hs⟩ | ⟨-, -, rfl⟩
  · exact (saca_diccSem hs :)
  · rfl

lemma desconecta_diccSem {c : Cola} (hd : k.Desconecta c soc k') : k'.diccSem = k.diccSem := by
  rcases hd with ⟨x, k₁, hs, rfl⟩ | ⟨-, rfl⟩
  · exact (saca_diccSem hs :)
  · rfl

lemma despierta_diccSem {q : PcbOtros → Bool} (hd : (∃ x k₁, k.Saca .block q x k₁ ∧
      k' = k₁.encolarReady (some x)) ∨ (k.NoHay .block q ∧ k' = k)) : k'.diccSem = k.diccSem := by
  rcases hd with ⟨x, k₁, hs, rfl⟩ | ⟨-, rfl⟩
  · exact (saca_diccSem hs :)
  · rfl

/-- A message that is no `WAIT` or `SIGNAL` on the semaphore leaves it alone. -/
lemma manejador_diccSem {t : Hilo Unit} (ht : Manejador soc men t)
    (hr : correr t k io = some ((u, k'), io'))
    (hno : cadena men.dato = some clave → men.tipo ≠ TipoDatos.wait ∧ men.tipo ≠ TipoDatos.signal) :
    k'.diccSem clave = k.diccSem clave := by
  cases ht with
  | conecCerrada =>
    obtain ⟨cpu, k₁, ⟨-, rfl⟩, ⟨-, r, k₂, hb, rfl⟩ | ⟨-, -, rfl⟩⟩ := conecCerradaCpu_some hr
    · exact congrFun (buscaExec_diccSem hb) clave
    · rfl
  | finQuantum =>
    rcases finQuantum_some hr with ⟨-, cpu, k₁, r, k₂, ⟨-, rfl⟩, hb, rfl⟩ |
      ⟨-, cpu, x, m, k₁, ht, -, rfl⟩
    · exact congrFun (buscaExec_diccSem hb) clave
    · exact congrFun (tomaProceso_diccSem ht) clave
  | finEjecucion => exact congrFun (expulsa_diccSem (finEjecucion_some hr).1) clave
  | segmenFault => exact congrFun (expulsa_diccSem (finEjecucion_some hr).1) clave
  | imprimirTexto | imprimirValor => rw [(imprimir_some hr).1]
  | obtenerValor =>
    obtain ⟨c, -, ⟨-, hx⟩ | ⟨valor, -, rfl, -⟩⟩ := obtenerValorCompartida_some hr
    · exact congrFun (expulsa_diccSem hx) clave
    · rfl
  | grabarValor =>
    obtain ⟨c, -, ⟨-, hx⟩ | ⟨-, dato, s, -, -, rfl⟩⟩ := grabarValorCompartida_some hr
    · exact congrFun (expulsa_diccSem hx) clave
    · rfl
  | wait htipo =>
    obtain ⟨c, hc, hcases⟩ := wait_some hr
    have hne : clave ≠ c := fun heq => (hno (heq ▸ hc)).1 htipo
    obtain ⟨-, he⟩ | ⟨sem, -, ⟨-, rfl⟩ | ⟨-, cpu, x, m, cierre, k₁, hb, -, rfl⟩⟩ := hcases
    · exact congrFun (expulsa_diccSem he) clave
    · simp [Function.update_of_ne hne]
    · simp [Function.update_of_ne hne, (bloquea_espera hb).2.1]
  | signal htipo =>
    obtain ⟨c, hc, hcases⟩ := signal_some hr
    have hne : clave ≠ c := fun heq => (hno (heq ▸ hc)).2 htipo
    obtain ⟨-, he⟩ | ⟨sem, -, ⟨-, rfl⟩ | ⟨i, l, k₁, -, rfl, hd⟩⟩ := hcases
    · exact congrFun (expulsa_diccSem he) clave
    · simp [Function.update_of_ne hne]
    · simp [Function.update_of_ne hne, despierta_diccSem hd]
  | ioId =>
    obtain ⟨disp, unidades, dato, cpu, x, m, cierre, k₁, -, -, -, hb, -, rfl⟩ := enviarIo_some hr
    simp [(bloquea_espera hb).2.1]
  | ninguno =>
    obtain ⟨-, rfl, rfl⟩ := correr_some rfl hr
    rfl

/-- What `WAIT` on a semaphore that is configured does to it, and when it answers `SEM_OK`. -/
lemma wait_conteo {l : List Mensaje} (hclave : cadena men.dato = some clave)
    (hsem : k.diccSem clave = some sem)
    (hr : correr (wait soc men) k ⟨l, []⟩ = some ((u, k'), io')) :
    (∃ sem', k'.diccSem clave = some sem' ∧ sem'.conteo = sem.conteo.exec (.wait (k.quien soc))) ∧
      (.enviado soc (.comun (crearMenComun TipoDatos.semOk [])) ∈ io'.salida ↔ 0 < sem.valor) := by
  obtain ⟨c, hc, hcases⟩ := wait_spec hr
  obtain rfl : c = clave := Option.some.inj (hc.symm.trans hclave)
  obtain ⟨hnone, -⟩ | ⟨sem₁, hsem₁, hcases⟩ := hcases
  · exact absurd (hnone.symm.trans hsem) (by simp)
  obtain rfl : sem₁ = sem := Option.some.inj (hsem₁.symm.trans hsem)
  rcases hcases with ⟨hpos, rfl, hsal⟩ | ⟨hle, cpu, x, m, cierre, k₁, hb, -, hsal, rfl⟩
  · refine ⟨⟨{ sem₁ with valor := sem₁.valor - 1 }, by simp [hsem], ?_⟩, by simp [hsal, hpos]⟩
    simp [Semaforo.conteo, Counting.exec, hpos]
  · have hn : ¬ 0 < sem₁.valor := not_lt.2 hle
    refine ⟨⟨⟨sem₁.valor - 1, sem₁.procesos ++ [x.pcb.id]⟩, ?_, ?_⟩, ?_⟩
    · simp [(bloquea_espera hb).2.1, hsem]
    · have hid := (bloquea_espera hb).1
      obtain ⟨k₂, ⟨k₃, ⟨hf, -⟩, -⟩, -⟩ := hb
      have hquien : k.quien soc = cpu.idProgExec :=
        congrArg (fun o : Option Cpu => o.elim 0 Cpu.idProgExec) hf
      simp [Semaforo.conteo, Counting.exec, hn, hquien, hid]
    · have hne : crearMenComun TipoDatos.semOk [] ≠ crearMenComun TipoDatos.semBloqueado [] := by
        decide
      rw [hsal]
      split <;> simp [hn, hne]

/-- The first one of the semaphore, if he is blocked, is made ready, and nobody else is. -/
structure Despierta (sem : Semaforo) (k k' : Estado) : Prop where
  primero : ∀ i ∈ sem.procesos.head?, i ∈ k.ids .block → i ∈ k'.ids .ready
  solo : ∀ i ∈ k'.ids .ready, i ∈ k.ids .ready ∨ i ∈ sem.procesos.head?

/-- What `SIGNAL` on a semaphore that is configured does to it, and whom it wakes. -/
lemma signal_conteo (hclave : cadena men.dato = some clave) (hsem : k.diccSem clave = some sem)
    (hr : correr (signal soc men) k io = some ((u, k'), io')) :
    (∃ sem', k'.diccSem clave = some sem' ∧ sem'.conteo = sem.conteo.exec .signal) ∧
      Despierta sem k k' := by
  obtain ⟨c, hc, hcases⟩ := signal_some hr
  obtain rfl : c = clave := Option.some.inj (hc.symm.trans hclave)
  obtain ⟨hnone, -⟩ | ⟨sem₁, hsem₁, hcases⟩ := hcases
  · exact absurd (hnone.symm.trans hsem) (by simp)
  obtain rfl : sem₁ = sem := Option.some.inj (hsem₁.symm.trans hsem)
  rcases hcases with ⟨hnil, rfl⟩ | ⟨j, l, k₁, hcons, rfl, hd⟩
  · refine ⟨⟨{ sem₁ with valor := sem₁.valor + 1 }, by simp [hsem], ?_⟩, ?_, fun i hi => .inl hi⟩
    · simp [Semaforo.conteo, Counting.exec, hnil]
    · intro i hi
      simp [hnil] at hi
  · refine ⟨⟨⟨sem₁.valor + 1, l⟩, by simp [despierta_diccSem hd, hsem], ?_⟩, ?_⟩
    · simp [Semaforo.conteo, Counting.exec, hcons]
    have hhead : ∀ i, i ∈ sem₁.procesos.head? ↔ i = j := by
      intro i
      rw [hcons]
      simp [eq_comm]
    rcases hd with ⟨x, k₂, hs, rfl⟩ | ⟨hn, rfl⟩
    · obtain ⟨pre, post, -, -, hid, rfl⟩ := hs
      obtain rfl : x.pcb.id = j := by simpa using hid
      refine ⟨fun i hi _ => ?_, fun i hi => ?_⟩
      · rw [(hhead i).1 hi]
        exact mem_ids.2 ⟨x, by simp [Estado.encolarReady, Estado.encolar, Estado.sumar], rfl⟩
      · rw [hhead]
        obtain ⟨y, hy, rfl⟩ := mem_ids.1 hi
        simp only [Estado.encolarReady, Estado.encolar, Estado.sumar, Estado.conSem_colas,
          Estado.conCola_colas, Function.update_self, List.mem_append, List.mem_singleton] at hy
        rcases hy with hy | hy
        · exact .inl (mem_ids.2 ⟨y, hy, rfl⟩)
        · exact .inr (by rw [Option.some.inj hy])
    · refine ⟨fun i hi hb => ?_, fun i hi => .inl hi⟩
      obtain ⟨x, hx, hid⟩ := mem_ids.1 hb
      obtain ⟨z, hz, hne⟩ := hn _ hx
      obtain rfl := Option.some.inj hz
      simp [hid, (hhead i).1 hi] at hne

/-- A disconnection leaves the semaphores alone. -/
lemma progCerrado_diccSem (hr : correr (administrarProgCerrado soc) k io = some ((u, k'), io')) :
    k'.diccSem = k.diccSem := by
  obtain ⟨k₁, k₂, k₃, k₄, h₁, h₂, h₃, h₄, hcpu⟩ := administrarProgCerrado_some hr
  have h₁₂ : k₂.diccSem = k.diccSem := (desconecta_diccSem h₂).trans (desconecta_diccSem h₁ :)
  have h : k₄.diccSem = k.diccSem :=
    (desconecta_diccSem h₄).trans ((desconecta_diccSem h₃).trans h₁₂)
  rcases hcpu with ⟨cpu, -, rfl⟩ | ⟨-, rfl⟩ <;> exact h

/-- **What a step does to a semaphore** is the operation it brings. -/
lemma paso_conteo (hsem : k.diccSem clave = some sem)
    (hr : correr (p.hilo metadata) k ⟨p.entrada, []⟩ = some ((u, k'), io')) :
    (∃ sem', k'.diccSem clave = some sem' ∧
        sem'.conteo = sem.conteo.replay (p.operacion k clave).toList) ∧
      (if p.Otorga clave io'.salida then SemOp.requests (p.operacion k clave).toList else []) =
        (if 0 < sem.valor then SemOp.requests (p.operacion k clave).toList else []) ∧
      (p.operacion k clave = some .signal → Despierta sem k k') := by
  have hnada : p.operacion k clave = none → k'.diccSem clave = k.diccSem clave →
      (∃ sem', k'.diccSem clave = some sem' ∧
          sem'.conteo = sem.conteo.replay (p.operacion k clave).toList) ∧
        (if p.Otorga clave io'.salida then SemOp.requests (p.operacion k clave).toList else []) =
          (if 0 < sem.valor then SemOp.requests (p.operacion k clave).toList else []) ∧
        (p.operacion k clave = some .signal → Despierta sem k k') := by
    intro hop hk'
    rw [hop]
    exact ⟨⟨sem, hk'.trans hsem, rfl⟩, by simp [SemOp.requests], by simp⟩
  cases p with
  | progCerrado soc =>
    exact hnada rfl (congrFun (progCerrado_diccSem hr) clave)
  | newScript basura soc men entrada =>
    refine hnada rfl ?_
    rcases administrarNewScript_some hr with rfl | ⟨pcb, peso, -, rfl⟩ <;> rfl
  | newCpu soc =>
    refine hnada rfl ?_
    obtain ⟨-, rfl, rfl⟩ := correr_some rfl hr
    rfl
  | newReady =>
    refine hnada rfl ?_
    obtain ⟨-, -, ⟨x, k₁, hs, rfl⟩ | ⟨-, rfl⟩⟩ := manejadorNewReady_some hr
    · exact congrFun (saca_diccSem hs :) clave
    · rfl
  | readyExec =>
    refine hnada rfl ?_
    obtain ⟨-, -, k₁, rfl, ⟨-, rfl⟩ | ⟨x, l, cpu, -, -, rfl⟩⟩ := manejadorReadyExec_some hr <;> rfl
  | exit entrada =>
    refine hnada rfl ?_
    obtain ⟨-, ⟨-, rfl⟩ | ⟨x, l, -, rfl⟩⟩ := manejadorExit_some hr <;> rfl
  | ioTomar disp =>
    refine hnada rfl ?_
    obtain ⟨x, q, l, n, -, -, -, rfl⟩ := manejadorIOTomar_some hr
    rfl
  | ioServir disp =>
    refine hnada rfl ?_
    obtain ⟨x, q, k₁, -, -, hd, rfl⟩ := manejadorIOServir_some hr
    exact congrFun (despierta_diccSem hd) clave
  | menCpu soc entrada =>
    obtain ⟨men, io₁, t, he, hs, ht, hrun⟩ := administrarMenCpus_some hr
    obtain rfl : entrada = .comun men :: io₁.entrada := he
    obtain ⟨l, sal⟩ := io₁
    obtain rfl : sal = [] := hs
    by_cases hclave : cadena men.dato = some clave
    · by_cases hwait : men.tipo = TipoDatos.wait
      · have hop : Paso.operacion k clave (.menCpu soc (.comun men :: l)) =
            some (.wait (k.quien soc)) := by simp [Paso.operacion, hclave, hwait]
        have htw : t = wait soc men := by
          cases ht with
          | wait => rfl
          | ninguno hno => exact absurd hwait hno
          | _ h => exact absurd (h.symm.trans hwait) (by decide)
        subst htw
        obtain ⟨hk', hsal⟩ := wait_conteo hclave hsem hrun
        rw [hop]
        refine ⟨hk', ?_, by simp⟩
        simp [Paso.Otorga, hclave, hwait, hsal]
      · by_cases hsignal : men.tipo = TipoDatos.signal
        · have hop : Paso.operacion k clave (.menCpu soc (.comun men :: l)) = some .signal := by
            simp [Paso.operacion, hclave, hsignal]
          have hts : t = signal soc men := by
            cases ht with
            | signal => rfl
            | ninguno _ hno => exact absurd hsignal hno
            | _ h => exact absurd (h.symm.trans hsignal) (by decide)
          subst hts
          obtain ⟨hk', hw⟩ := signal_conteo hclave hsem hrun
          rw [hop]
          exact ⟨hk', by simp [SemOp.requests], fun _ => hw⟩
        · refine hnada (by simp [Paso.operacion, hwait, hsignal]) ?_
          exact manejador_diccSem ht hrun fun _ => ⟨hwait, hsignal⟩
    · refine hnada (by simp [Paso.operacion, hclave]) ?_
      exact manejador_diccSem ht hrun fun h => absurd h hclave

end Steps

/-! ### Runs -/

section Runs

variable {metadata : List Byte → MetadataProgram} {config : Config} {socUmv : ℤ}
  {k k' : Estado} {p : Paso} {pasos : List Paso} {clave : List Byte} {v : ℤ} {s s' : Estado × Registro}
  {r : Registro} {io' : Bandeja} {u : Unit}

/-- A program whose process waits at a semaphore is not disconnected. -/
def Guarda (k : Estado) (p : Paso) : Prop :=
  Ordenado k p ∧
    match p with
    | .progCerrado soc => ∀ x, some x ∈ k.colas .block → x.nSocket = soc →
        ∀ clave sem, k.diccSem clave = some sem → x.pcb.id ∉ sem.procesos
    | _ => True

/-- The semaphore is what its history says, and those recorded at semaphores are blocked. -/
structure Concuerda (clave : List Byte) (v : ℤ) (s : Estado × Registro) : Prop where
  ley : s.1.espera.Ley
  vivos : ∀ c, ∀ i ∈ s.1.fila (.sem c), i ∈ s.1.ids .block
  sem : ∃ sem, s.1.diccSem clave = some sem ∧ sem.conteo = Counting.replay ⟨v, []⟩ s.2.ops
  concedidas : s.2.concedidas = Counting.granted ⟨v, []⟩ s.2.ops

lemma Concuerda.pendientes (h : Concuerda clave v s) :
    s.2.pendientes = (Counting.replay ⟨v, []⟩ s.2.ops).queue := by
  rw [Registro.pendientes, h.concedidas, Counting.requests_eq s.2.ops v, append_diff_self]

/-- Whoever is recorded is not ready. -/
lemma notMem_ready {l : Lugar} {i : ℤ} (h : k.espera.Ley) (hi : i ∈ k.fila l) :
    i ∉ k.ids .ready := fun hr =>
  h.libre i (by simp [Estado.activos, hr]) l hi

lemma Guarda.vivos (hg : Guarda k p) (hp : p.hacer metadata k = some k') (hl : k.espera.Ley)
    (hv : ∀ c, ∀ i ∈ k.fila (.sem c), i ∈ k.ids .block) :
    ∀ c, ∀ i ∈ k'.fila (.sem c), i ∈ k'.ids .block := by
  intro c i hi
  have hb := (Sigue.hacer hg.1 hp).bloqueado hl (fun c i hi => .inl (hv c i hi)) c i hi
  rcases hb with hb | ⟨soc, rfl, x, hx, hs, rfl⟩
  · exact Multiset.mem_coe.1 hb
  · obtain ⟨⟨⟨u, k₁⟩, io'⟩, hr, rfl⟩ := Option.map_eq_some_iff.1 hp
    have hd := progCerrado_diccSem hr
    cases hsem : k.diccSem c with
    | none => simp [Estado.fila, hd, hsem] at hi
    | some sem => exact absurd (by simpa [Estado.fila, hd, hsem] using hi) (hg.2 x hx hs c sem hsem)

/-- What a step adds to the history is the operation it brings, and whom that grants. -/
lemma Concuerda.anotar (h : Concuerda clave v (k, r)) (hg : Guarda k p)
    (hr : correr (p.hilo metadata) k ⟨p.entrada, []⟩ = some ((u, k'), io')) :
    r.anotar clave k p k' io'.salida = ⟨r.ops ++ (p.operacion k clave).toList,
      Counting.granted ⟨v, []⟩ (r.ops ++ (p.operacion k clave).toList)⟩ := by
  have hk' : p.hacer metadata k = some k' := Option.map_eq_some_iff.2 ⟨_, hr, rfl⟩
  have hley' : k'.espera.Ley := (Sigue.hacer hg.1 hk').ley h.ley
  have hvivos' := hg.vivos hk' h.ley h.vivos
  obtain ⟨sem, hsem, hc⟩ := h.sem
  replace hsem : k.diccSem clave = some sem := hsem
  obtain ⟨⟨sem', hsem', hc'⟩, hotorga, hsignal⟩ := paso_conteo hsem hr
  have hpend : r.pendientes = sem.procesos := by
    rw [h.pendientes, ← hc]
    rfl
  have hfila : k.fila (.sem clave) = sem.procesos := by simp [Estado.fila, hsem]
  have hfila' : k'.fila (.sem clave) = sem'.procesos := by simp [Estado.fila, hsem']
  have hblock : ∀ i ∈ sem.procesos, i ∈ k.ids .block := hfila ▸ h.vivos clave
  -- those who still wait are blocked and not ready
  have hsigue : ∀ i ∈ sem'.procesos, i ∈ k'.ids .block ∧ i ∉ k'.ids .ready := fun i hi =>
    ⟨hvivos' clave i (hfila' ▸ hi), notMem_ready hley' (hfila' ▸ hi)⟩
  have hcola : sem'.procesos = (sem.conteo.replay (p.operacion k clave).toList).queue :=
    congrArg Counting.queue hc'
  have hfiltros : (sem.procesos.filter fun i =>
        i ∈ k.ids .block ∧ i ∉ k'.ids .block ∧ i ∉ k'.ids .ready) = [] ∧
      (sem.procesos.filter fun i => i ∈ k.ids .block ∧ i ∈ k'.ids .ready) =
        if p.operacion k clave = some .signal then sem.procesos.take 1 else [] := by
    have hquedan : ∀ l : List ℤ, (∀ i ∈ l, i ∈ sem'.procesos) →
        (l.filter fun i => i ∈ k.ids .block ∧ i ∉ k'.ids .block ∧ i ∉ k'.ids .ready) = [] ∧
          (l.filter fun i => i ∈ k.ids .block ∧ i ∈ k'.ids .ready) = [] := by
      intro l hl
      constructor <;> rw [List.filter_eq_nil_iff] <;> intro i hi
      · have hi' := hsigue i (hl i hi)
        simp [hi'.1]
      · have hi' := hsigue i (hl i hi)
        simp [hi'.2]
    rcases hop : p.operacion k clave with _ | op
    · have hl : ∀ i ∈ sem.procesos, i ∈ sem'.procesos := by
        rw [hcola, hop]
        exact fun i hi => hi
      simpa using hquedan _ hl
    cases op with
    | wait j =>
      have hl : ∀ i ∈ sem.procesos, i ∈ sem'.procesos := by
        intro i hi
        rw [hcola, hop]
        simp only [Option.toList_some, Counting.replay, List.foldl_cons, List.foldl_nil,
          Counting.exec, Semaforo.conteo]
        split
        · exact hi
        · exact List.mem_append_left _ hi
      simpa using hquedan _ hl
    | signal =>
      have htail : sem'.procesos = sem.procesos.tail := by
        rw [hcola, hop]
        rfl
      rw [if_pos rfl]
      rcases hlista : sem.procesos with _ | ⟨i, l⟩
      · simp
      · obtain ⟨hn₁, hn₂⟩ := hquedan l fun j hj => by simpa [htail, hlista] using hj
        have hi : i ∈ k.ids .block := hblock i (by rw [hlista]; exact List.mem_cons_self)
        have hready : i ∈ k'.ids .ready := (hsignal hop).primero i (by rw [hlista]; rfl) hi
        simp only [List.filter_cons, hi, hready, hn₁, hn₂]
        simp
  obtain ⟨hidos, hmovidos⟩ := hfiltros
  have hval : (Counting.replay ⟨v, []⟩ r.ops : Counting ℤ) = sem.conteo := hc.symm
  have hcon : r.concedidas = Counting.granted ⟨v, []⟩ r.ops := h.concedidas
  simp only [Registro.anotar, hpend, hidos, List.foldl_nil, hmovidos, hotorga, hcon]
  rcases p.operacion k clave with _ | op
  · simp [SemOp.requests]
  rw [Option.toList_some, Counting.granted_snoc, hval]
  cases op with
  | wait j =>
    by_cases hpos : 0 < sem.valor <;>
      simp [SemOp.requests, Counting.grants, Semaforo.conteo, hpos]
  | signal => simp [SemOp.requests, Counting.grants, Semaforo.conteo]

/-- **A step of the kernel is a step of the semaphore.** -/
theorem Concuerda.hacerCon (h : Concuerda clave v s) (hg : Guarda s.1 p)
    (hp : p.hacerCon metadata clave s = some s') : Concuerda clave v s' := by
  obtain ⟨k, r⟩ := s
  obtain ⟨⟨⟨u, k'⟩, io'⟩, hr, rfl⟩ := Option.map_eq_some_iff.1 hp
  have hk' : p.hacer metadata k = some k' := Option.map_eq_some_iff.2 ⟨_, hr, rfl⟩
  obtain ⟨sem, hsem, hc⟩ := h.sem
  obtain ⟨⟨sem', hsem', hc'⟩, -, -⟩ := paso_conteo hsem hr
  refine ⟨(Sigue.hacer hg.1 hk').ley h.ley, hg.vivos hk' h.ley h.vivos, ⟨sem', hsem', ?_⟩, ?_⟩
  · rw [hc', hc, h.anotar hg hr]
    simp [Counting.replay]
  · rw [h.anotar hg hr]

lemma concuerda_inicial {s₀ : Semaforo} (hs : (inicial config socUmv).diccSem clave = some s₀) :
    Concuerda clave s₀.valor (inicial config socUmv, ⟨[], []⟩) := by
  have hfila := fila_inicial config socUmv (.sem clave)
  refine ⟨ley_inicial, fun c i hi => ?_, ⟨s₀, hs, ?_⟩, rfl⟩
  · exact absurd (fila_inicial config socUmv (.sem c) ▸ hi) List.not_mem_nil
  · have hnil : s₀.procesos = [] := by simpa [Estado.fila, hs] using hfila
    rw [Semaforo.conteo, hnil]
    rfl

/-- **In every run the semaphore is what its history says**, when nobody who waits at a semaphore
is disconnected. -/
theorem run_concuerda {s₀ : Semaforo} (hs : (inicial config socUmv).diccSem clave = some s₀)
    (ha : Along (Paso.hacerCon metadata clave) (fun s => Guarda s.1) pasos
      (inicial config socUmv, ⟨[], []⟩))
    (hr : run (Paso.hacerCon metadata clave) pasos (inicial config socUmv, ⟨[], []⟩) = some s) :
    Concuerda clave s₀.valor s :=
  run_invariant (fun _ _ _ h hg hp => h.hacerCon hg hp) (concuerda_inicial hs) ha hr

/-! ### Semaphores that nobody leaves -/

/-- No program is disconnected. -/
def SinDesconexion (k : Estado) (p : Paso) : Prop :=
  Ordenado k p ∧ ∀ soc, p ≠ .progCerrado soc

lemma SinDesconexion.guarda (h : SinDesconexion k p) : Guarda k p := by
  refine ⟨h.1, ?_⟩
  cases p with
  | progCerrado soc => exact absurd rfl (h.2 soc)
  | _ => trivial

/-- What a signal does, in the terms of the history. -/
lemma Concuerda.senal (h : Concuerda clave v (k, r)) (hg : Guarda k p)
    (hop : p.operacion k clave = some .signal)
    (hr : correr (p.hilo metadata) k ⟨p.entrada, []⟩ = some ((u, k'), io')) :
    (r.anotar clave k p k' io'.salida).concedidas = r.concedidas ++ r.pendientes.take 1 ∧
      (∀ i ∈ k'.ids .ready, i ∈ k.ids .ready ∨ i ∈ r.pendientes.head?) ∧
      ∀ i ∈ r.pendientes.head?, i ∈ k'.ids .ready := by
  obtain ⟨sem, hsem, hc⟩ := h.sem
  replace hsem : k.diccSem clave = some sem := hsem
  have hq : r.pendientes = sem.procesos := by
    rw [h.pendientes, ← hc]
    rfl
  have hcon : r.concedidas = Counting.granted ⟨v, []⟩ r.ops := h.concedidas
  obtain ⟨-, -, hsignal⟩ := paso_conteo hsem hr
  refine ⟨?_, hq ▸ (hsignal hop).solo, fun i hi => ?_⟩
  · rw [h.anotar hg hr, hop, Option.toList_some, Counting.granted_snoc, hcon, h.pendientes]
    rfl
  · rw [hq] at hi
    refine (hsignal hop).primero i hi (h.vivos clave i ?_)
    have hm : i ∈ sem.procesos := List.mem_of_mem_head? hi
    simpa [Estado.fila, hsem] using hm

/-- A semaphore that started with the value `v` has counted its requests and signals, and served
the requests in the order of arrival: as many as there are units are granted, the first ones first,
and the others are those of the queue, whose processes are blocked. A signal makes nobody ready but
the one whose request it grants. -/
structure SirveEnOrden (metadata : List Byte → MetadataProgram) (clave : List Byte) (v : ℤ)
    (k : Estado) (r : Registro) : Prop where
  valor : ∃ sem, k.diccSem clave = some sem ∧
    sem.valor = v + SemOp.signals r.ops - (SemOp.requests r.ops).length ∧
    sem.procesos = (SemOp.requests r.ops).drop r.concedidas.length ∧
    ∀ i ∈ sem.procesos, i ∈ k.ids .block
  cuantas : r.concedidas.length =
    min (SemOp.requests r.ops).length (v.toNat + SemOp.signals r.ops)
  orden : r.concedidas = (SemOp.requests r.ops).take r.concedidas.length
  senal : ∀ p k' r', SinDesconexion k p → p.operacion k clave = some .signal →
    p.hacerCon metadata clave (k, r) = some (k', r') →
      ∀ i ∈ k.ids .block, i ∈ k'.ids .ready → r'.concedidas = r.concedidas ++ [i]

/-- **The semaphores are counting semaphores that serve in the order of arrival**, in every run that
disconnects no program. -/
theorem semaforo_fifo {s₀ : Semaforo} (hs : (inicial config socUmv).diccSem clave = some s₀)
    (hv : 0 ≤ s₀.valor)
    (ha : Along (Paso.hacerCon metadata clave) (fun s => SinDesconexion s.1) pasos
      (inicial config socUmv, ⟨[], []⟩))
    (hr : run (Paso.hacerCon metadata clave) pasos (inicial config socUmv, ⟨[], []⟩) =
      some (k, r)) : SirveEnOrden metadata clave s₀.valor k r := by
  have h := run_concuerda hs (ha.mono fun _ _ h => h.guarda) hr
  obtain ⟨sem, hsem, hc⟩ := h.sem
  replace hsem : k.diccSem clave = some sem := hsem
  have hcon : r.concedidas = Counting.granted ⟨s₀.valor, []⟩ r.ops := h.concedidas
  have hlen := Counting.granted_length r.ops hv
  have hparte := Counting.granted_eq_take r.ops hv
  refine ⟨⟨sem, hsem, ?_, ?_, fun i hi => ?_⟩, hcon ▸ hlen, ?_, ?_⟩
  · rw [← Counting.value_replay r.ops s₀.valor, ← hc]
    rfl
  · rw [hcon, hlen, ← hparte.2, ← hc]
    rfl
  · exact h.vivos clave i (by simpa [Estado.fila, hsem] using hi)
  · rw [hcon, hlen]
    exact hparte.1
  · intro p k' r' hp hop hpaso i hi hready
    obtain ⟨⟨⟨u, k₁⟩, io'⟩, hcorrer, heq⟩ := Option.map_eq_some_iff.1 hpaso
    obtain ⟨rfl, rfl⟩ := Prod.mk.inj heq
    obtain ⟨hconc, hsolo, -⟩ := h.senal hp.guarda hop hcorrer
    have hno : i ∉ k.ids .ready := fun hr =>
      h.ley.notMem_activos (Multiset.mem_coe.2 hi) (by simp [Estado.activos, hr])
    have hhead := (hsolo i hready).resolve_left hno
    show (r.anotar clave k p k₁ io'.salida).concedidas = _
    rw [hconc]
    cases hl : r.pendientes with
    | nil => simp [hl] at hhead
    | cons j l =>
      obtain rfl : j = i := by simpa [hl] using hhead
      rfl

/-- Nothing is lost on a semaphore: those recorded are blocked, a signal that finds somebody blocked
makes him ready, and the value and those who are blocked add up to what they would be if those who
have left had never asked. -/
structure SinPerdida (metadata : List Byte → MetadataProgram) (clave : List Byte) (v : ℤ) (k : Estado)
    (r : Registro) : Prop where
  vivos : ∀ i ∈ k.fila (.sem clave), i ∈ k.ids .block
  senal : ∀ p k', Ordenado k p → p.operacion k clave = some .signal →
    p.hacer metadata k = some k' → k.esperando clave ≠ [] →
      ∃ i ∈ k.esperando clave, i ∈ k'.ids .ready ∧ i ∉ k'.ids .block
  suma : ∀ sem, k.diccSem clave = some sem → sem.valor + (k.esperando clave).length =
    (Counting.replay ⟨v, []⟩ r.ops).value + (Counting.replay ⟨v, []⟩ r.ops).queue.length

/-- **No signal is lost** in a run that disconnects no program whose process waits at a
semaphore. -/
theorem semaforo_sinPerdida {s₀ : Semaforo} (hs : (inicial config socUmv).diccSem clave = some s₀)
    (ha : Along (Paso.hacerCon metadata clave) (fun s => Guarda s.1) pasos
      (inicial config socUmv, ⟨[], []⟩))
    (hr : run (Paso.hacerCon metadata clave) pasos (inicial config socUmv, ⟨[], []⟩) =
      some (k, r)) : SinPerdida metadata clave s₀.valor k r := by
  have h := run_concuerda hs ha hr
  obtain ⟨sem, hsem, hc⟩ := h.sem
  replace hsem : k.diccSem clave = some sem := hsem
  have hvivos : ∀ i ∈ k.fila (.sem clave), i ∈ k.ids .block := h.vivos clave
  have hesp : k.esperando clave = k.fila (.sem clave) :=
    List.filter_eq_self.2 fun i hi => by simpa using hvivos i hi
  have hfila : k.fila (.sem clave) = sem.procesos := by simp [Estado.fila, hsem]
  have hq : r.pendientes = sem.procesos := by
    rw [h.pendientes, ← hc]
    rfl
  refine ⟨hvivos, fun p k' hp hop hpaso hne => ?_, fun sem' hsem' => ?_⟩
  · have hg : Guarda k p := by
      refine ⟨hp, ?_⟩
      cases p with
      | progCerrado soc => exact absurd hop (by simp [Paso.operacion])
      | _ => trivial
    have hley' : k'.espera.Ley := (Sigue.hacer hp hpaso).ley h.ley
    obtain ⟨⟨⟨u, k₁⟩, io'⟩, hcorrer, rfl⟩ := Option.map_eq_some_iff.1 hpaso
    obtain ⟨-, -, hprimero⟩ := h.senal hg hop hcorrer
    rw [hesp, hfila, ← hq] at hne ⊢
    obtain ⟨i, l, hl⟩ := List.exists_cons_of_ne_nil hne
    have hready : i ∈ k₁.ids .ready := hprimero i (by rw [hl]; rfl)
    refine ⟨i, by rw [hl]; exact List.mem_cons_self, hready, fun hb => ?_⟩
    exact hley'.notMem_activos (Multiset.mem_coe.2 hb) (by simp [Estado.activos, hready])
  · obtain rfl : sem' = sem := Option.some.inj (hsem'.symm.trans hsem)
    rw [hesp, hfila, ← hc]
    rfl

end Runs

/-! ### Two runs -/

instance (k : Estado) (p : Paso) : Decidable (SinDesconexion k p) :=
  match p with
  | .progCerrado soc => isFalse fun h => h.2 soc rfl
  | .newScript .. | .newCpu _ | .menCpu .. | .newReady | .readyExec | .exit _ | .ioTomar _
  | .ioServir _ => decidable_of_iff (Ordenado k _) ⟨fun h => ⟨h, by simp⟩, fun h => h.1⟩

/-- Three places of multiprogramming, and the semaphore `b` with the value `v`. -/
def tresLugares (v : ℤ) : Config := ⟨3, 2, 64, [([98], v)], [], []⟩

lemma tresLugares_sem (v : ℤ) : (inicial (tresLugares v) 4).diccSem [98] = some ⟨v, []⟩ := rfl

/-- The script of the connection `soc`, from its arrival to its execution. -/
def llega (soc : ℤ) : List Paso :=
  [.newScript 0 soc (crearMenComun TipoDatos.codigoScript [97, 0]) respuestasUmv, .newReady,
    .readyExec]

/-- `WAIT b` that is granted at once. -/
def esperaOk : Paso := .menCpu 5 [.comun (crearMenComun TipoDatos.wait [98, 0])]

/-- `WAIT b` of the process `id` that blocks it. -/
def esperaBloq (id : ℤ) : Paso :=
  .menCpu 5 [.comun (crearMenComun TipoDatos.wait [98, 0]),
    .quantumPcb ⟨TipoDatos.pcbYQuantum, 0, ⟨0, 400, 300, 200, 100, 400, id, 1, 0, 0⟩⟩,
    .comun (crearMenComun TipoDatos.sigusr1CpuDesconec [])]

/-- `SIGNAL b`. -/
def senala : Paso := .menCpu 5 [.comun (crearMenComun TipoDatos.signal [98, 0])]

/-- The process 1 asks twice for the one unit there is, and the process 2 gives one back. -/
def dosPedidos : List Paso :=
  .newCpu 5 :: llega 7 ++ [esperaOk, esperaBloq 1] ++ llega 8 ++ [senala]

lemma dosPedidos_estado : (run (Paso.hacerCon unaInstruccion [98]) dosPedidos
    (inicial (tresLugares 1) 4, ⟨[], []⟩)).map (fun s => (s.1.ids .ready, s.2)) =
      some ([1], ⟨[.wait 1, .wait 1, .signal], [1, 1]⟩) := by
  decide +kernel

theorem dosPedidos_fifo : ∃ k r, run (Paso.hacerCon unaInstruccion [98]) dosPedidos
      (inicial (tresLugares 1) 4, ⟨[], []⟩) = some (k, r) ∧
    r.concedidas = [1, 1] ∧ SirveEnOrden unaInstruccion [98] 1 k r := by
  obtain ⟨⟨k, r⟩, hk, hobs⟩ := Option.map_eq_some_iff.1 dosPedidos_estado
  obtain rfl : r = ⟨[.wait 1, .wait 1, .signal], [1, 1]⟩ := congrArg Prod.snd hobs
  exact ⟨k, _, hk, rfl, semaforo_fifo (tresLugares_sem 1) (by decide) (by decide +kernel) hk⟩

/-- Two processes wait for a unit, and a third one runs. -/
def dosEsperan : List Paso :=
  .newCpu 5 :: llega 7 ++ [esperaBloq 1] ++ llega 8 ++ [esperaBloq 2] ++ llega 9

/-- The program of the one that runs is disconnected. -/
def seVaTercero : List Paso := dosEsperan ++ [.progCerrado 9]

lemma seVaTercero_estado : (run (Paso.hacerCon unaInstruccion [98]) seVaTercero
    (inicial (tresLugares 0) 4, ⟨[], []⟩)).map (fun s => s.1.esperando [98]) = some [1, 2] := by
  decide +kernel

/-- A step that disconnects no program with a blocked process, in a form that can be decided. -/
def SinBloqueado (k : Estado) (p : Paso) : Prop :=
  Ordenado k p ∧
    match p with
    | .progCerrado soc => ∀ x, some x ∈ k.colas .block → x.nSocket ≠ soc
    | _ => True

instance (k : Estado) : (p : Paso) → Decidable (SinBloqueado k p)
  | .progCerrado soc => inferInstanceAs
      (Decidable (Ordenado k (.progCerrado soc) ∧ ∀ x, some x ∈ k.colas .block → x.nSocket ≠ soc))
  | .newScript .. | .newCpu _ | .menCpu .. | .newReady | .readyExec | .exit _ | .ioTomar _
  | .ioServir _ => inferInstanceAs (Decidable (Ordenado k _ ∧ True))

lemma SinBloqueado.guarda {k : Estado} {p : Paso} (h : SinBloqueado k p) : Guarda k p := by
  refine ⟨h.1, ?_⟩
  cases p with
  | progCerrado soc => exact fun x hx hs => absurd hs (h.2 x hx)
  | _ => trivial

theorem seVaTercero_sinPerdida : ∃ k r, run (Paso.hacerCon unaInstruccion [98]) seVaTercero
      (inicial (tresLugares 0) 4, ⟨[], []⟩) = some (k, r) ∧
    k.esperando [98] = [1, 2] ∧ SinPerdida unaInstruccion [98] 0 k r := by
  obtain ⟨⟨k, r⟩, hk, hobs⟩ := Option.map_eq_some_iff.1 seVaTercero_estado
  have ha : Along (Paso.hacerCon unaInstruccion [98]) (fun s => SinBloqueado s.1) seVaTercero
      (inicial (tresLugares 0) 4, ⟨[], []⟩) := by decide +kernel
  exact ⟨k, r, hk, hobs, semaforo_sinPerdida (tresLugares_sem 0) (ha.mono fun _ _ h => h.guarda) hk⟩

/-- The program of the first one that waits is disconnected. -/
def seVaPrimero : List Paso := dosEsperan ++ [.progCerrado 7]

lemma seVaPrimero_estado : (run (Paso.hacerCon unaInstruccion [98]) seVaPrimero
    (inicial (tresLugares 0) 4, ⟨[], []⟩)).bind (fun s => (senala.hacer unaInstruccion s.1).map
      fun k' => ((s.1.fila (.sem [98]), s.1.ids .block), s.1.diccSem [98], s.2, k'.ids .ready)) =
      some (([1, 2], [2]), some ⟨-2, [1, 2]⟩, ⟨[.wait 2], []⟩, []) := by
  decide +kernel

/-- **The signal is lost on a process that is gone**: its id is still recorded, the value counts
it, and the signal that comes then wakes nobody, although a process is blocked. -/
theorem seVaPrimero_perdida :
    Along (Paso.hacerCon unaInstruccion [98]) (fun s => Ordenado s.1) seVaPrimero
        (inicial (tresLugares 0) 4, ⟨[], []⟩) ∧
      ∃ k r, run (Paso.hacerCon unaInstruccion [98]) seVaPrimero
          (inicial (tresLugares 0) 4, ⟨[], []⟩) = some (k, r) ∧
        (¬ ∀ i ∈ k.fila (.sem [98]), i ∈ k.ids .block) ∧
        (∃ k', senala.operacion k [98] = some .signal ∧ senala.hacer unaInstruccion k = some k' ∧
          k.esperando [98] = [2] ∧ k'.ids .ready = []) ∧
        (∃ sem, k.diccSem [98] = some sem ∧ sem.valor + (k.esperando [98]).length ≠
          (Counting.replay ⟨0, []⟩ r.ops).value + (Counting.replay ⟨0, []⟩ r.ops).queue.length) ∧
        ¬ SinPerdida unaInstruccion [98] 0 k r := by
  refine ⟨by decide +kernel, ?_⟩
  obtain ⟨⟨k, r⟩, hk, hobs⟩ := Option.bind_eq_some_iff.1 seVaPrimero_estado
  obtain ⟨k', hk', hobs⟩ := Option.map_eq_some_iff.1 hobs
  obtain ⟨hids, hsem, rfl, hready⟩ := by simpa only [Prod.mk.injEq] using hobs
  obtain ⟨hfila, hblock⟩ := hids
  have hesp : k.esperando [98] = [2] := by
    rw [Estado.esperando, hfila, hblock]
    rfl
  have hno : ¬ ∀ i ∈ k.fila (.sem [98]), i ∈ k.ids .block := by
    rw [hfila, hblock]
    decide
  refine ⟨k, _, hk, hno, ⟨k', rfl, hk', hesp, hready⟩, ⟨_, hsem, ?_⟩, fun h => hno h.vivos⟩
  rw [hesp]
  decide

end Ansisop.Kernel
