import Ansisop.Kernel.Steps

/-!
The threads of the kernel at work together.

A thread goes round its loop: at rest it starts a task (`Tarea`), and its program (`Resto`) is then
answered event by event. What it does from one event to the next is not interrupted; between events
the others go on. The globals and the mutexes are shared (`Sistema`). `paso` is a step of one thread,
and a run is any sequence of them: the messages received are arbitrary, and a thread that waits for
a mutex, a semaphore or a message makes no step until it gets it.
-/

namespace Ansisop.Kernel

open Ansisop.Sockets Ansisop.Lib Hilo
open TipoDatos hiding signal wait

/-! ### Servers of connections -/

/-- `ingresar_nuevo_programa`, the handshake left out. -/
def ingresarNuevoPrograma (newSoc : ℤ) : Hilo Unit :=
  modify fun k => k.conSocProgs (insert newSoc k.conjSocProgs)

/-- `administrar_men_progs`. -/
def administrarMenProgs (metadata : List Byte → MetadataProgram) (basura socProg : ℤ) :
    Hilo Unit := do
  let men ← recvComun socProg
  if men.tipo = conecCerrada then administrarProgCerrado socProg
  else if men.tipo = codigoScript then administrarNewScript metadata basura socProg men
  else pure ()

/-! ### Console -/

/-- `lock_todo`. -/
def lockTodo : Hilo Unit := do
  lock .new
  lock .ready
  lock .block
  lock .exec
  lock .exit
  lock .usoListaCpu

/-- `unlock_todo`. -/
def unlockTodo : Hilo Unit := do
  unlock .new
  unlock .ready
  unlock .block
  unlock .exec
  unlock .exit
  unlock .usoListaCpu

/-- `imprimir_cola`: each element is taken out, read and pushed back. -/
def imprimirCola (c : Cola) : Hilo Unit := do
  let _ ← deref (((← get).colas c).mapM id)

/-- `imp_colas`. -/
def impColas : Hilo Unit := do
  lockTodo
  imprimirCola .new
  imprimirCola .ready
  imprimirCola .block
  imprimirCola .exec
  imprimirCola .exit
  unlockTodo

/-- `n` turns of a loop. -/
def repetir (x : Hilo Unit) : ℕ → Hilo Unit
  | 0 => pure ()
  | n + 1 => do
    x
    repetir x n

/-- `cambiar_multiprog`. -/
def cambiarMultiprog (multiprogNueva : ℤ) : Hilo Unit := do
  lockTodo
  let k ← get
  let cantProgs := (k.colas .ready).length + (k.colas .block).length + (k.colas .exec).length
  let valorSem := k.sem .cantMultiprog
  let dif ← entero (multiprogNueva - (cantProgs + valorSem))
  if 0 < dif then
    repetir (semIncre .cantMultiprog) dif.toNat
    unlockTodo
  else
    let baja ← entero (dif * (-1))
    if baja ≤ valorSem then
      repetir (semDecre .cantMultiprog) baja.toNat
      unlockTodo
    else
      unlockTodo

/-- `imp_variables_compartidas`. -/
def impVariablesCompartidas : Hilo Unit := do
  lock .diccVar
  unlock .diccVar

/-- `imp_semaforos`. -/
def impSemaforos : Hilo Unit := do
  lock .diccSem
  unlock .diccSem

/-- One `pthread_mutex_trylock` of `imprimir_sem_blocks`: it takes the mutex and gives it back, or
does nothing. -/
def trylock (libre : Bool) (m : Mutex) : Hilo Unit :=
  if libre then do
    lock m
    unlock m
  else pure ()

/-- `imprimir_sem_blocks`; `libre` says which of the mutexes it finds free. -/
def imprimirSemBlocks (libre : Mutex → Bool) : Hilo Unit := do
  trylock (libre .new) .new
  trylock (libre .ready) .ready
  trylock (libre .block) .block
  trylock (libre .exec) .exec
  trylock (libre .exit) .exit
  trylock (libre .usoListaCpu) .usoListaCpu
  trylock (libre .diccVar) .diccVar
  trylock (libre .diccSem) .diccSem

/-! ### Tasks -/

/-- The threads. The console runs in the main one. -/
inductive HiloId where
  | plp | pcp | newReady | readyExec | exit | io (disp : List Byte) | consola
  deriving DecidableEq, Repr

/-- What the threads do in one turn of their loops: `plp` and `pcp` with one of the sockets that
`select` reports. -/
inductive Tarea where
  | nuevoPrograma (soc : ℤ)
  | menProgs (basura soc : ℤ)
  | newCpu (soc : ℤ)
  | menCpus (soc : ℤ)
  | newReady
  | readyExec
  | exit
  | io (disp : List Byte)
  | impColas
  | impVariables
  | impSemaforos
  | impSemBlocks (libre : Mutex → Bool)
  | multiprog (n : ℤ)
  | quantum (n : ℤ)
  | stack (n : ℤ)

namespace Tarea

/-- The thread that does it. -/
def hilo : Tarea → HiloId
  | nuevoPrograma _ | menProgs _ _ => .plp
  | newCpu _ | menCpus _ => .pcp
  | newReady => .newReady
  | readyExec => .readyExec
  | exit => .exit
  | io disp => .io disp
  | impColas | impVariables | impSemaforos | impSemBlocks _ | multiprog _ | quantum _ | stack _ =>
    .consola

def cuerpo (metadata : List Byte → MetadataProgram) : Tarea → Hilo Unit
  | nuevoPrograma soc => ingresarNuevoPrograma soc
  | menProgs basura soc => administrarMenProgs metadata basura soc
  | newCpu soc => ingresarNewCpu soc
  | menCpus soc => administrarMenCpus soc
  | newReady => manejadorNewReady
  | readyExec => manejadorReadyExec
  | exit => manejadorExit
  | io disp => do
    manejadorIOTomar disp
    manejadorIOServir disp
  | impColas => Kernel.impColas
  | impVariables => impVariablesCompartidas
  | impSemaforos => Kernel.impSemaforos
  | impSemBlocks libre => imprimirSemBlocks libre
  | multiprog n => cambiarMultiprog n
  | quantum n => modify fun k => { k with quantumMax := n }
  | stack n => modify fun k => { k with tamanioStack := n }

end Tarea

/-! ### Steps of the system -/

/-- What is left of a task. -/
abbrev Resto := Dialog Evento Evento.Respuesta (Unit × Estado)

/-- The globals, the holders of the mutexes, and what is left of the task of each thread: nothing
between two turns of its loop. `vivo` says that no thread has crashed. -/
structure Sistema where
  k : Estado
  duenio : Mutex → Option HiloId
  resto : HiloId → Option Resto
  vivo : Bool

/-- What happens next: a thread starts a task, or goes on, with the message it receives if it is
waiting for one. -/
inductive Turno where
  | empieza (tarea : Tarea)
  | sigue (t : HiloId) (men : Option Mensaje)

/-- The globals an event shows. -/
def Evento.vista : Evento → Option Estado
  | .enviar _ _ k | .recvComun _ k | .recvQuantumPcb _ k | .cerrar _ k | .lock _ k | .unlock _ k
  | .decre _ k | .decreIo _ k | .usleep _ k => some k
  | .caida => none

namespace Sistema

/-- The answer that the thread `t` gets to its event, and the holders of the mutexes after it. -/
def responde (s : Sistema) (t : HiloId) (men : Option Mensaje) :
    (e : Evento) → Option (e.Respuesta × (Mutex → Option HiloId))
  | .enviar _ _ _ => some (s.k, s.duenio)
  | .recvComun _ _ =>
    match men with
    | some (.comun men) => some ((men, s.k), s.duenio)
    | _ => none
  | .recvQuantumPcb _ _ =>
    match men with
    | some (.quantumPcb men) => some ((men, s.k), s.duenio)
    | _ => none
  | .cerrar _ _ => some (s.k, s.duenio)
  | .lock m _ =>
    if s.duenio m = none then some (s.k, Function.update s.duenio m (some t)) else none
  | .unlock m _ => some (s.k, Function.update s.duenio m none)
  | .decre x _ => if s.k.sem x = 0 then none else some (s.k.conSem x (s.k.sem x - 1), s.duenio)
  | .decreIo disp _ =>
    match s.k.diccDispIo disp with
    | some ⟨_, _, n + 1, _⟩ => some (s.k.conIo disp fun x => { x with contCantProc := n }, s.duenio)
    | _ => none
  | .usleep _ _ => some (s.k, s.duenio)
  | .caida => none

/-- The thread `t` has gone on to the next event of its program, or to its end. -/
def deja (s : Sistema) (t : HiloId) : Resto → Sistema
  | .ret r => { s with k := r.2, resto := Function.update s.resto t none }
  | .ask e f =>
    { s with
      k := e.vista.getD s.k
      resto := Function.update s.resto t (some (.ask e f))
      vivo := e.vista.isSome }

/-- A step of one thread. -/
def paso (metadata : List Byte → MetadataProgram) : Turno → Sistema → Option Sistema
  | .empieza tarea, s =>
    if s.vivo ∧ (s.resto tarea.hilo).isNone then
      some (s.deja tarea.hilo (tarea.cuerpo metadata s.k))
    else none
  | .sigue t men, s =>
    if s.vivo then
      match s.resto t with
      | some (.ask e f) =>
        (s.responde t men e).map fun r => { s with duenio := r.2 }.deja t (f r.1)
      | _ => none
    else none

/-- All threads are at rest. -/
def alInicio (config : Config) (socUmv : ℤ) : Sistema :=
  ⟨inicial config socUmv, fun _ => none, fun _ => none, true⟩

/-- The mutex that the thread waits for, or is about to get. -/
def pedido (s : Sistema) (t : HiloId) : Option Mutex :=
  match s.resto t with
  | some (.ask (.lock m _) _) => some m
  | _ => none

section Inversion

variable {metadata : List Byte → MetadataProgram} {s s' : Sistema} {t u : HiloId}

@[simp] lemma deja_duenio (r : Resto) : (s.deja t r).duenio = s.duenio := by
  cases r <;> rfl

lemma deja_resto_ne (r : Resto) (h : u ≠ t) : (s.deja t r).resto u = s.resto u := by
  cases r <;> exact Function.update_of_ne h _ _

/-- What is left of the task of the thread that has made a step. -/
lemma deja_resto_self (r : Resto) : (s.deja t r).resto t = match r with
    | .ret _ => none
    | .ask e f => some (.ask e f) := by
  cases r <;> exact Function.update_self ..

lemma paso_empieza {tarea : Tarea} (h : paso metadata (.empieza tarea) s = some s') :
    s.resto tarea.hilo = none ∧ s' = s.deja tarea.hilo (tarea.cuerpo metadata s.k) := by
  simp only [paso] at h
  split at h
  · rename_i hs
    exact ⟨Option.isNone_iff_eq_none.1 hs.2, (Option.some.inj h).symm⟩
  · exact absurd h (by simp)

lemma paso_sigue {men : Option Mensaje} (h : paso metadata (.sigue t men) s = some s') :
    ∃ e f r d, s.resto t = some (.ask e f) ∧ s.responde t men e = some (r, d) ∧
      s' = { s with duenio := d }.deja t (f r) := by
  simp only [paso] at h
  split at h
  · split at h
    · rename_i e f hr
      obtain ⟨⟨r, d⟩, hd, rfl⟩ := Option.map_eq_some_iff.1 h
      exact ⟨e, f, r, d, hr, hd, rfl⟩
    · exact absurd h (by simp)
  · exact absurd h (by simp)

end Inversion

end Sistema

end Ansisop.Kernel
