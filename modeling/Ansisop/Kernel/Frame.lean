import Ansisop.Kernel.Steps

/-!
What leaves the shared variables alone: every call of the kernel but the one that serves a request
to write one. One lemma a function, each from those of the functions it calls.
-/

namespace Ansisop.Kernel

open Ansisop.Sockets Ansisop.Lib Hilo
open TipoDatos hiding signal wait

/-- A call that leaves the shared variables as they are. -/
def DejaVar {α : Type} (t : Hilo α) : Prop :=
  ∀ k io a k' io', correr t k io = some ((a, k'), io') → k'.diccVar = k.diccVar

namespace DejaVar

variable {α β : Type}

lemma bind {t : Hilo α} {f : α → Hilo β} (ht : DejaVar t) (hf : ∀ a, DejaVar (f a)) :
    DejaVar (t >>= f) := by
  intro k io b k' io' h
  obtain ⟨a, k₁, io₁, h₁, h₂⟩ := correr_bind_some h
  rw [hf a _ _ _ _ _ h₂, ht _ _ _ _ _ h₁]

lemma deNoToca {t : Hilo α} (ht : NoToca t) : DejaVar t := by
  intro k io a k' io' h
  rw [ht _ _ _ _ _ h]

/-! ### The parts of a call -/

lemma pure (a : α) : DejaVar (pure a : Hilo α) := deNoToca (.pure a)

lemma get : DejaVar (get : Hilo Estado) := deNoToca .get

lemma modify {f : Estado → Estado} (hf : ∀ k, (f k).diccVar = k.diccVar) :
    DejaVar (modify f : Hilo Unit) := by
  intro k io a k' io' h
  obtain ⟨-, rfl, -⟩ := correr_some rfl h
  exact hf k

lemma lock (m : Mutex) : DejaVar (lock m) := by
  intro k io a k' io' h
  obtain ⟨-, rfl, -⟩ := correr_some rfl h
  rfl

lemma unlock (m : Mutex) : DejaVar (unlock m) := by
  intro k io a k' io' h
  obtain ⟨-, rfl, -⟩ := correr_some rfl h
  rfl

lemma socketCerrar (soc : ℤ) : DejaVar (socketCerrar soc) := by
  intro k io a k' io' h
  obtain ⟨-, rfl, -⟩ := correr_some rfl h
  rfl

lemma enviar (soc : ℤ) (men : Mensaje) : DejaVar (enviar soc men) := deNoToca (.enviar soc men)

lemma recvComun (soc : ℤ) : DejaVar (recvComun soc) := deNoToca (.recvComun soc)

lemma recvQuantumPcb (soc : ℤ) : DejaVar (recvQuantumPcb soc) := by
  intro k io a k' io' h
  rw [(correr_recvQuantumPcb_some h).1]

lemma deref (a : Option α) : DejaVar (deref a) := deNoToca (.deref a)

lemma entero (x : ℤ) : DejaVar (entero x) := deNoToca (.entero x)

lemma semDecre (s : Sem) : DejaVar (semDecre s) := by
  intro k io a k' io' h
  obtain ⟨-, rfl, -⟩ := correr_semDecre_some h
  rfl

lemma semDecreIo (disp : List Byte) : DejaVar (semDecreIo disp) := by
  intro k io a k' io' h
  obtain ⟨x, n, -, -, rfl, -⟩ := correr_semDecreIo_some h
  rfl

lemma semIncre (s : Sem) : DejaVar (semIncre s) := modify fun _ => rfl

lemma queuePush (c : Cola) (x : Option PcbOtros) : DejaVar (queuePush c x) := modify fun _ => rfl

lemma queuePop (c : Cola) : DejaVar (queuePop c) :=
  bind get fun _ => bind (modify fun _ => rfl) fun _ => pure _

lemma queueRotar (c : Cola) (p : PcbOtros → Bool) : DejaVar (queueRotar c p) :=
  bind get fun _ => bind (deref _) fun _ => bind (modify fun _ => rfl) fun _ => pure _

lemma listaCpuAdd (cpu : Cpu) : DejaVar (listaCpuAdd cpu) := modify fun _ => rfl

lemma listaCpuRemove (p : Cpu → Bool) : DejaVar (listaCpuRemove p) :=
  bind get fun _ => bind (modify fun _ => rfl) fun _ => pure _

lemma getPcbOtrosExec (id : ℤ) : DejaVar (getPcbOtrosExec id) :=
  bind (lock _) fun _ => bind (queueRotar _ _) fun _ => bind (unlock _) fun _ => pure _

lemma liberarCpu (cpu : Cpu) : DejaVar (liberarCpu cpu) :=
  bind (listaCpuAdd _) fun _ => semIncre _

lemma pasarPcbExit : ∀ x : Option PcbOtros, DejaVar (pasarPcbExit x)
  | none => pure _
  | some _ => bind (lock _) fun _ => bind (queuePush _ _) fun _ => bind (semIncre _) fun _ =>
    bind (unlock _) fun _ => semIncre _

lemma pasarPcbBlockReady (id : ℤ) : DejaVar (pasarPcbBlockReady id) := by
  refine bind (lock _) fun _ => bind (queueRotar _ _) fun r => ?_
  cases r with
  | some x =>
    exact bind (lock _) fun _ => bind (queuePush _ _) fun _ => bind (semIncre _) fun _ =>
      bind (unlock _) fun _ => unlock _
  | none => exact unlock _

lemma recvActualizarPcb (soc : ℤ) (pcb : Pcb) : DejaVar (recvActualizarPcb soc pcb) :=
  bind (recvQuantumPcb _) fun _ => pure _

lemma fdClrCpus (soc : ℤ) : DejaVar (fdClrCpus soc) := modify fun _ => rfl

lemma actualizarPcbYBloq (cpu : Cpu) : DejaVar (actualizarPcbYBloq cpu) := by
  refine bind (getPcbOtrosExec _) fun _ => bind (deref _) fun _ => bind (recvActualizarPcb _ _)
    fun _ => bind (recvComun _) fun men => ?_
  dsimp only
  split
  · exact bind (liberarCpu _) fun _ => bind (queuePush _ _) fun _ => pure _
  · exact bind (fdClrCpus _) fun _ => bind (socketCerrar _) fun _ => bind (queuePush _ _) fun _ =>
      pure _

/-! ### The messages of the CPUs -/

lemma conecCerradaCpu (soc : ℤ) : DejaVar (conecCerradaCpu soc) := by
  refine bind (lock _) fun _ => bind (listaCpuRemove _) fun _ => bind (fdClrCpus _) fun _ =>
    bind (socketCerrar _) fun _ => bind (deref _) fun cpu => ?_
  dsimp only
  split
  · exact bind (getPcbOtrosExec _) fun _ => bind (lock _) fun _ => bind (queuePush _ _) fun _ =>
      bind (semIncre _) fun _ => bind (unlock _) fun _ => unlock _
  · exact bind (semDecre _) fun _ => unlock _

lemma llamadaErronea (soc tipo : ℤ) : DejaVar (llamadaErronea soc tipo) := by
  refine bind (lock _) fun _ => bind (listaCpuRemove _) fun _ => bind (unlock _) fun _ =>
    bind (deref _) fun _ => bind (getPcbOtrosExec _) fun _ => bind (deref _) fun _ => ?_
  exact bind (pasarPcbExit _) fun _ => bind (enviar _ _) fun _ => bind (lock _) fun _ =>
    bind (liberarCpu _) fun _ => unlock _

lemma finEjecucion (tipo soc : ℤ) : DejaVar (finEjecucion tipo soc) := by
  refine bind (lock _) fun _ => bind (listaCpuRemove _) fun _ => bind (unlock _) fun _ =>
    bind (deref _) fun _ => bind (getPcbOtrosExec _) fun _ => bind (deref _) fun _ => ?_
  exact bind (pasarPcbExit _) fun _ => bind (lock _) fun _ => bind (liberarCpu _) fun _ => unlock _

lemma modificarSem (clave : List Byte) (f : Semaforo → Semaforo) :
    DejaVar (modificarSem clave f) := modify fun _ => rfl

lemma modificarIo (disp : List Byte) (f : Io → Io) : DejaVar (modificarIo disp f) :=
  modify fun _ => rfl

lemma wait (soc : ℤ) (men : MenComun) : DejaVar (wait soc men) := by
  refine bind (lock _) fun _ => bind (deref _) fun _ => bind get fun k => ?_
  dsimp only
  split
  · refine bind (entero _) fun _ => bind (modificarSem _ _) fun _ => ?_
    split
    · exact bind (enviar _ _) fun _ => unlock _
    · exact bind (lock _) fun _ => bind (lock _) fun _ => bind (listaCpuRemove _) fun _ =>
        bind (enviar _ _) fun _ => bind (deref _) fun _ => bind (actualizarPcbYBloq _) fun _ =>
        bind (modificarSem _ _) fun _ => bind (unlock _) fun _ => bind (unlock _) fun _ => unlock _
  · exact bind (llamadaErronea _ _) fun _ => unlock _

lemma signal (soc : ℤ) (men : MenComun) : DejaVar (signal soc men) := by
  refine bind (lock _) fun _ => bind (deref _) fun _ => bind get fun k => ?_
  dsimp only
  split
  · refine bind (entero _) fun _ => bind (modificarSem _ _) fun _ => ?_
    split
    · exact bind (modificarSem _ _) fun _ => bind (pasarPcbBlockReady _) fun _ =>
        bind (enviar _ _) fun _ => unlock _
    · exact bind (enviar _ _) fun _ => unlock _
  · exact bind (llamadaErronea _ _) fun _ => unlock _

lemma enviarIo (soc : ℤ) (men : MenComun) : DejaVar (enviarIo soc men) :=
  bind (lock _) fun _ => bind (lock _) fun _ => bind (listaCpuRemove _) fun _ =>
    bind (recvComun _) fun _ => bind (deref _) fun _ => bind (deref _) fun _ => bind (deref _)
    fun _ => bind get fun _ => bind (deref _) fun _ => bind (modificarIo _ _) fun _ =>
    bind (actualizarPcbYBloq _) fun _ => bind (modificarIo _ _) fun _ => bind (unlock _) fun _ =>
    unlock _

lemma finQuantum (soc : ℤ) (men : MenComun) : DejaVar (finQuantum soc men) := by
  refine bind (lock _) fun _ => ?_
  split
  · exact bind (listaCpuRemove _) fun _ => bind (fdClrCpus _) fun _ => bind (socketCerrar _)
      fun _ => bind (deref _) fun _ => bind (getPcbOtrosExec _) fun _ => bind (lock _) fun _ =>
      bind (queuePush _ _) fun _ => bind (semIncre _) fun _ => bind (unlock _) fun _ => unlock _
  · exact bind (listaCpuRemove _) fun _ => bind (deref _) fun _ => bind (getPcbOtrosExec _)
      fun _ => bind (deref _) fun _ => bind (recvActualizarPcb _ _) fun _ => bind (lock _) fun _ =>
      bind (queuePush _ _) fun _ => bind (semIncre _) fun _ => bind (unlock _) fun _ =>
      bind (liberarCpu _) fun _ => unlock _

lemma obtenerValorCompartida (soc : ℤ) (men : MenComun) :
    DejaVar (obtenerValorCompartida soc men) := by
  refine bind (lock _) fun _ => bind (deref _) fun _ => bind get fun k => ?_
  dsimp only
  split
  · exact bind (enviar _ _) fun _ => unlock _
  · exact bind (llamadaErronea _ _) fun _ => unlock _

lemma imprimir {α : Type} (leido : List Byte → Option α) (soc : ℤ) (men : MenComun) :
    DejaVar (imprimir leido soc men) :=
  bind (lock _) fun _ => bind (bind get fun _ => pure _) fun _ => bind (deref _) fun _ =>
    bind (enviar _ _) fun _ => bind (unlock _) fun _ => bind (deref _) fun _ => enviar _ _

/-- **`administrar_men_cpus`** does so for every message that is not a request to write. -/
lemma administrarMenCpus {soc : ℤ} {men : MenComun} (hm : men.tipo ≠ grabarValor) {k k' : Estado}
    {l : List Mensaje} {s : List Salida} {u : Unit} {io : Bandeja}
    (h : correr (administrarMenCpus soc) k ⟨.comun men :: l, s⟩ = some ((u, k'), io)) :
    k'.diccVar = k.diccVar := by
  have hrecv : correr (Hilo.recvComun soc) k ⟨.comun men :: l, s⟩ = some ((men, k), ⟨l, s⟩) := rfl
  rw [Kernel.administrarMenCpus, correr_bind, hrecv, Option.bind_some] at h
  refine (?_ : DejaVar _) _ _ _ _ _ h
  split
  · exact conecCerradaCpu soc
  split
  · exact finQuantum soc men
  split
  · exact finEjecucion _ soc
  split
  · exact finEjecucion _ soc
  split
  · exact imprimir _ soc men
  split
  · exact imprimir _ soc men
  split
  · exact obtenerValorCompartida soc men
  split
  · exact wait soc men
  split
  · exact signal soc men
  split
  · exact enviarIo soc men
  · exact pure _

/-! ### The other calls -/

lemma buscarPcb (c : Cola) (soc : ℤ) : DejaVar (buscarPcb c soc) := queueRotar _ _

lemma moverPcbExit (soc : ℤ) : DejaVar (moverPcbExit soc) :=
  bind (lock _) fun _ => bind (lock _) fun _ => bind (lock _) fun _ => bind (lock _) fun _ =>
    bind (buscarPcb _ _) fun _ => bind (pasarPcbExit _) fun _ => bind (buscarPcb _ _) fun _ =>
    bind (pasarPcbExit _) fun _ => bind (buscarPcb _ _) fun _ => bind (pasarPcbExit _) fun _ =>
    bind (buscarPcb _ _) fun _ => bind (pasarPcbExit _) fun _ => bind (unlock _) fun _ =>
    bind (unlock _) fun _ => bind (unlock _) fun _ => unlock _

lemma administrarProgCerrado (soc : ℤ) : DejaVar (administrarProgCerrado soc) := by
  refine bind (modify fun _ => rfl) fun _ => bind (lock _) fun _ => bind (moverPcbExit _) fun _ =>
    bind (listaCpuRemove _) fun r => ?_
  split
  · exact bind (fdClrCpus _) fun _ => bind (socketCerrar _) fun _ => unlock _
  · exact unlock _

lemma administrarNewScript (metadata : List Byte → MetadataProgram) (basura soc : ℤ)
    (men : MenComun) : DejaVar (administrarNewScript metadata basura soc men) := by
  intro k io a k' io' h
  obtain rfl | ⟨pcb, peso, -, rfl⟩ := administrarNewScript_some h <;> rfl

lemma ingresarNewCpu (soc : ℤ) : DejaVar (ingresarNewCpu soc) :=
  bind (modify fun _ => rfl) fun _ => bind (lock _) fun _ => bind (listaCpuAdd _) fun _ =>
    bind (semIncre _) fun _ => unlock _

lemma manejadorNewReady : DejaVar manejadorNewReady := by
  refine bind (semDecre _) fun _ => bind (semDecre _) fun _ => bind (lock _) fun _ =>
    bind (lock _) fun _ => bind ?_ fun r => ?_
  · exact bind get fun _ => bind (deref _) fun _ => bind (modify fun _ => rfl) fun _ => queueRotar _ _
  split
  · exact bind (unlock _) fun _ => unlock _
  · exact bind (queuePush _ _) fun _ => bind (semIncre _) fun _ => bind (unlock _) fun _ => unlock _

lemma manejadorReadyExec : DejaVar manejadorReadyExec := by
  refine bind (semDecre _) fun _ => bind (semDecre _) fun _ => bind (lock _) fun _ =>
    bind (lock _) fun _ => bind (listaCpuRemove _) fun _ => bind (queuePop _) fun r => ?_
  split
  · exact bind (unlock _) fun _ => unlock _
  · exact bind (deref _) fun _ => bind (bind get fun _ => enviar _ _) fun _ =>
      bind (listaCpuAdd _) fun _ => bind (queuePush _ _) fun _ => bind (unlock _) fun _ => unlock _

lemma manejadorExit : DejaVar manejadorExit := by
  intro k io a k' io' h
  obtain ⟨-, ⟨-, rfl⟩ | ⟨x, l, -, rfl⟩⟩ := manejadorExit_some h <;> rfl

lemma manejadorIOTomar (disp : List Byte) : DejaVar (manejadorIOTomar disp) :=
  bind (semDecreIo _) fun _ => bind get fun _ => bind (deref _) fun _ => bind (deref _) fun _ =>
    modificarIo _ _

lemma manejadorIOServir (disp : List Byte) : DejaVar (manejadorIOServir disp) := by
  refine bind get fun _ => bind (deref _) fun _ => bind (deref _) fun _ => bind ?_ fun _ =>
    bind (pasarPcbBlockReady _) fun _ => modificarIo _ _
  intro k io a k' io' h
  obtain ⟨-, rfl, -⟩ := correr_some (correr_ocupar _ _) h
  rfl

end DejaVar

/-- A step of the kernel that does not serve a request to read or write a shared variable. -/
def Paso.Ajeno : Paso → Prop
  | .menCpu _ entrada => ∀ men l, entrada = .comun men :: l →
      men.tipo ≠ obtenerValor ∧ men.tipo ≠ grabarValor
  | _ => True

/-- **Nothing else changes a shared variable.** -/
theorem Paso.Ajeno.diccVar {metadata : List Byte → MetadataProgram} {p : Paso} {k k' : Estado}
    (hp : p.Ajeno) (h : p.hacer metadata k = some k') : k'.diccVar = k.diccVar := by
  obtain ⟨⟨⟨u, k₁⟩, io⟩, hcorre, rfl⟩ := Option.map_eq_some_iff.1 h
  cases p with
  | progCerrado soc => exact DejaVar.administrarProgCerrado soc _ _ _ _ _ hcorre
  | newScript basura soc men entrada =>
    exact DejaVar.administrarNewScript metadata basura soc men _ _ _ _ _ hcorre
  | newCpu soc => exact DejaVar.ingresarNewCpu soc _ _ _ _ _ hcorre
  | menCpu soc entrada =>
    obtain ⟨men, k₂, io₂, hrecv, -⟩ := correr_bind_some hcorre
    have hent : entrada = .comun men :: io₂.entrada := (correr_recvComun_some hrecv).2.1
    subst hent
    exact DejaVar.administrarMenCpus (hp men _ rfl).2 hcorre
  | newReady => exact DejaVar.manejadorNewReady _ _ _ _ _ hcorre
  | readyExec => exact DejaVar.manejadorReadyExec _ _ _ _ _ hcorre
  | exit entrada => exact DejaVar.manejadorExit _ _ _ _ _ hcorre
  | ioTomar disp => exact DejaVar.manejadorIOTomar disp _ _ _ _ _ hcorre
  | ioServir disp => exact DejaVar.manejadorIOServir disp _ _ _ _ _ hcorre

end Ansisop.Kernel
