import Ansisop.Lib.Dialog
import Ansisop.Lib.Rotate
import Ansisop.Sockets.Text

/-!
The state of the kernel, and the actions its threads are made of.

A function of `kernel.c` is a `Hilo`: it passes the globals of the kernel along, and every action
another thread or a peer can see (a message, a semaphore, a mutex) is an event of its tree. `correr`
is a call that no other thread interrupts: it takes the messages it receives from the front of
`entrada` and leaves those it sends in `salida`. A call has no result when it dereferences `NULL`,
when a signed sum does not fit, and while a semaphore holds it back.
-/

namespace Ansisop.Kernel

open Ansisop.Sockets Ansisop.Lib

/-! ### Data -/

/-- `t_pcb_otros`. -/
structure PcbOtros where
  pcb : Pcb
  nSocket : ℤ
  peso : ℤ
  tipoFinEjecucion : ℤ
  deriving DecidableEq, Repr

/-- `t_cpu`. -/
structure Cpu where
  socCpu : ℤ
  socProg : ℤ
  idProgExec : ℤ
  deriving DecidableEq, Repr

/-- `t_semaforo`. -/
structure Semaforo where
  valor : ℤ
  procesos : List ℤ
  deriving DecidableEq, Repr

/-- `t_IO_espera`. -/
structure IoEspera where
  idProg : ℤ
  unidades : ℤ
  deriving DecidableEq, Repr

/-- `t_IO`, with `proceso`, the local variable of the thread of the device: the request in
service. -/
structure Io where
  ioSleep : ℤ
  procesos : List IoEspera
  contCantProc : ℕ
  proceso : Option IoEspera
  deriving DecidableEq, Repr

/-- `t_resp_sol_mem`. -/
structure RespSolMem where
  dirSegCodigo : ℤ
  dirSegStack : ℤ
  dirIndiceCodigo : ℤ
  dirIndiceEtiquetas : ℤ
  deriving DecidableEq, Repr

/-- What the kernel uses of the `t_metadata_program` of the external parser. -/
structure MetadataProgram where
  instruccionInicio : ℤ
  instruccionesSize : ℕ
  instruccionesSerializado : List Byte
  etiquetas : List Byte
  cantidadDeFunciones : ℕ
  cantidadDeEtiquetas : ℕ
  serializado_length : instruccionesSerializado.length = instruccionesSize * 8

/-- The fields of `t_colas`. -/
inductive Cola where
  | new | ready | exec | block | exit
  deriving DecidableEq, Repr

/-- The global semaphores. -/
inductive Sem where
  | cantNew | cantReady | cantExit | cantMultiprog | cantCpuLibres
  deriving DecidableEq, Repr

/-- The mutexes. -/
inductive Mutex where
  | new | ready | block | exec | exit | usoListaCpu | diccVar | diccSem
  deriving DecidableEq, Repr

/-- The globals of the kernel. An element of a queue may be `NULL`. `vivos` are the ids of the
pcbs that `malloc` has given out and `free` has not taken back. -/
structure Estado where
  colas : Cola → List (Option PcbOtros)
  listaCpu : List Cpu
  sem : Sem → ℕ
  diccSem : List Byte → Option Semaforo
  diccDispIo : List Byte → Option Io
  diccVar : List Byte → Option ℤ
  conjSocProgs : Finset ℤ
  conjSocCpus : Finset ℤ
  socUmv : ℤ
  contadorPrograma : ℤ
  quantumMax : ℤ
  tamanioStack : ℤ
  vivos : List ℤ

namespace Estado

/-- The globals after the queue `c` has become `q`. -/
@[simps] def conCola (k : Estado) (c : Cola) (q : List (Option PcbOtros)) : Estado :=
  { k with colas := Function.update k.colas c q }

/-- The globals after the semaphore `s` has come to the value `n`. -/
@[simps] def conSem (k : Estado) (s : Sem) (n : ℕ) : Estado :=
  { k with sem := Function.update k.sem s n }

/-- The globals after `lista_cpu` has become `l`. -/
@[simps] def conCpus (k : Estado) (l : List Cpu) : Estado := { k with listaCpu := l }

/-- The globals after the object of the device `disp` has been changed in place. -/
@[simps] def conIo (k : Estado) (disp : List Byte) (f : Io → Io) : Estado :=
  { k with diccDispIo := Function.update k.diccDispIo disp ((k.diccDispIo disp).map f) }

/-- The globals after the semaphore object of the name `clave` has been changed in place. -/
@[simps] def conSemaforo (k : Estado) (clave : List Byte) (f : Semaforo → Semaforo) : Estado :=
  { k with diccSem := Function.update k.diccSem clave ((k.diccSem clave).map f) }

/-- The globals after the shared variable `clave` has got the value `v`. -/
@[simps] def conVar (k : Estado) (clave : List Byte) (v : ℤ) : Estado :=
  { k with diccVar := Function.update k.diccVar clave (some v) }

/-- The globals after the sockets of the CPUs have become `s`. -/
@[simps] def conSocCpus (k : Estado) (s : Finset ℤ) : Estado := { k with conjSocCpus := s }

/-- The globals after the sockets of the programs have become `s`. -/
@[simps] def conSocProgs (k : Estado) (s : Finset ℤ) : Estado := { k with conjSocProgs := s }

/-- The globals after `_CONTADOR_PROGRAMA` has become `n`. -/
@[simps] def conContador (k : Estado) (n : ℤ) : Estado := { k with contadorPrograma := n }

/-- The globals after the pcbs in memory have become those of the ids `l`. -/
@[simps] def conVivos (k : Estado) (l : List ℤ) : Estado := { k with vivos := l }

@[simp] lemma conCola_self (k : Estado) (c : Cola) : k.conCola c (k.colas c) = k := by
  simp [conCola]

end Estado

/-! ### Events -/

/-- The actions of a thread that others can see; each shows the globals as they are then. -/
inductive Evento where
  | enviar (soc : ℤ) (men : Mensaje) (k : Estado)
  | recvComun (soc : ℤ) (k : Estado)
  | recvQuantumPcb (soc : ℤ) (k : Estado)
  | cerrar (soc : ℤ) (k : Estado)
  | lock (m : Mutex) (k : Estado)
  | unlock (m : Mutex) (k : Estado)
  | decre (s : Sem) (k : Estado)
  | decreIo (disp : List Byte) (k : Estado)
  | usleep (micros : ℤ) (k : Estado)
  | caida

/-- What an action gives back, the globals it goes on with included. -/
def Evento.Respuesta : Evento → Type
  | recvComun _ _ => MenComun × Estado
  | recvQuantumPcb _ _ => MenQuantumPcb × Estado
  | caida => Empty
  | _ => Estado

/-- A function of the kernel with a result in `α`. -/
abbrev Hilo := StateT Estado (Dialog Evento Evento.Respuesta)

namespace Hilo

variable {α β : Type}

def enviar (soc : ℤ) (men : Mensaje) : Hilo Unit := fun k =>
  .ask (.enviar soc men k) fun k => .ret ((), k)

/-- `enviar_men_comun_destruir`. -/
def enviarMenComun (soc tipo : ℤ) (dato : List Byte) : Hilo Unit :=
  enviar soc (.comun (crearMenComun tipo dato))

/-- `enviar_umv_mem_seg_destruir`. -/
def enviarUmvMemSeg (soc tipo idProg tamSeg : ℤ) : Hilo Unit :=
  enviar soc (.seg ⟨tipo, idProg, tamSeg⟩)

/-- `socket_recv_comun`. -/
def recvComun (soc : ℤ) : Hilo MenComun := fun k =>
  .ask (.recvComun soc k) fun r => .ret (r.1, r.2)

/-- `socket_recv_quantum_pcb`. -/
def recvQuantumPcb (soc : ℤ) : Hilo MenQuantumPcb := fun k =>
  .ask (.recvQuantumPcb soc k) fun r => .ret (r.1, r.2)

/-- `socket_cerrar`. -/
def socketCerrar (soc : ℤ) : Hilo Unit := fun k => .ask (.cerrar soc k) fun k => .ret ((), k)

/-- `pthread_mutex_lock`. -/
def lock (m : Mutex) : Hilo Unit := fun k => .ask (.lock m k) fun k => .ret ((), k)

/-- `pthread_mutex_unlock`. -/
def unlock (m : Mutex) : Hilo Unit := fun k => .ask (.unlock m k) fun k => .ret ((), k)

/-- `sem_decre`: `sem_wait`. -/
def semDecre (s : Sem) : Hilo Unit := fun k => .ask (.decre s k) fun k => .ret ((), k)

/-- `sem_decre` on `cont_cant_proc` of a device. -/
def semDecreIo (disp : List Byte) : Hilo Unit := fun k =>
  .ask (.decreIo disp k) fun k => .ret ((), k)

def usleep (micros : ℤ) : Hilo Unit := fun k => .ask (.usleep micros k) fun k => .ret ((), k)

/-- The process ends by a signal of the system, or does what C leaves undefined. -/
def caida : Hilo α := fun _ => .ask .caida nofun

/-- The value a pointer leads to. -/
def deref (a : Option α) : Hilo α := a.elim caida pure

/-- The value of a signed expression, undefined when no `int32_t` holds it. -/
def entero (x : ℤ) : Hilo ℤ := if -2 ^ 31 ≤ x ∧ x < 2 ^ 31 then pure x else caida

/-- `sem_incre`: `sem_post`. -/
def semIncre (s : Sem) : Hilo Unit :=
  modify fun k => k.conSem s (k.sem s + 1)

/-- The object of the device `disp` is changed in place. -/
def modificarIo (disp : List Byte) (f : Io → Io) : Hilo Unit := modify fun k => k.conIo disp f

/-- The semaphore object of the name `clave` is changed in place. -/
def modificarSem (clave : List Byte) (f : Semaforo → Semaforo) : Hilo Unit :=
  modify fun k => k.conSemaforo clave f

/-- `FD_CLR` on `conj_soc_cpus`. -/
def fdClrCpus (soc : ℤ) : Hilo Unit := modify fun k => k.conSocCpus (k.conjSocCpus.erase soc)

/-- `FD_CLR` on `conj_soc_progs`. -/
def fdClrProgs (soc : ℤ) : Hilo Unit := modify fun k => k.conSocProgs (k.conjSocProgs.erase soc)

/-- `queue_push`. -/
def queuePush (c : Cola) (x : Option PcbOtros) : Hilo Unit :=
  modify fun k => k.conCola c (k.colas c ++ [x])

/-- `queue_pop`, which gives `NULL` on an empty queue. -/
def queuePop (c : Cola) : Hilo (Option PcbOtros) := do
  let k ← get
  modify fun k => k.conCola c (k.colas c).tail
  pure (k.colas c).head?.join

/-- A loop over a queue that pops an element and pushes it back until one satisfies `p`. -/
def queueRotar (c : Cola) (p : PcbOtros → Bool) : Hilo (Option PcbOtros) := do
  let k ← get
  let r ← deref (rotateFind (Option.map p) (k.colas c).length (k.colas c))
  modify fun k => k.conCola c r.2
  pure r.1.join

/-- `list_add` on `lista_cpu`. -/
def listaCpuAdd (cpu : Cpu) : Hilo Unit :=
  modify fun k => k.conCpus (k.listaCpu ++ [cpu])

/-- `list_remove_by_condition` on `lista_cpu`. -/
def listaCpuRemove (p : Cpu → Bool) : Hilo (Option Cpu) := do
  let k ← get
  modify fun k => k.conCpus (k.listaCpu.eraseP p)
  pure (k.listaCpu.find? p)

end Hilo

/-! ### Calls that are not interrupted -/

/-- What a call leaves on the sockets. -/
inductive Salida where
  | enviado (soc : ℤ) (men : Mensaje)
  | cerrado (soc : ℤ)
  deriving DecidableEq, Repr

/-- The messages still to be received, and what has been sent. -/
structure Bandeja where
  entrada : List Mensaje
  salida : List Salida
  deriving DecidableEq, Repr

/-- The answer to an action when no other thread interferes: every mutex is free, and the peer has
sent the messages of `entrada`. -/
def respuestaAtomica : (e : Evento) → Bandeja → Option (e.Respuesta × Bandeja)
  | .enviar soc men k, io => some (k, { io with salida := io.salida ++ [.enviado soc men] })
  | .recvComun _ k, ⟨.comun men :: l, salida⟩ => some ((men, k), ⟨l, salida⟩)
  | .recvQuantumPcb _ k, ⟨.quantumPcb men :: l, salida⟩ => some ((men, k), ⟨l, salida⟩)
  | .recvComun _ _, _ => none
  | .recvQuantumPcb _ _, _ => none
  | .cerrar soc k, io => some (k, { io with salida := io.salida ++ [.cerrado soc] })
  | .lock _ k, io => some (k, io)
  | .unlock _ k, io => some (k, io)
  | .decre s k, io =>
    if k.sem s = 0 then none
    else some (k.conSem s (k.sem s - 1), io)
  | .decreIo disp k, io =>
    match k.diccDispIo disp with
    | some ⟨_, _, n + 1, _⟩ =>
      some (k.conIo disp fun x => { x with contCantProc := n }, io)
    | _ => none
  | .usleep _ k, io => some (k, io)
  | .caida, _ => none

/-- A call from start to end. -/
def correr {α : Type} (t : Hilo α) (k : Estado) (io : Bandeja) : Option ((α × Estado) × Bandeja) :=
  Dialog.interp respuestaAtomica (t k) io

section Correr

open Hilo

variable {α β : Type} {k k' : Estado} {io io' : Bandeja}

@[simp] lemma correr_pure (a : α) : correr (pure a) k io = some ((a, k), io) := rfl

lemma correr_bind (t : Hilo α) (f : α → Hilo β) (k : Estado) (io : Bandeja) :
    correr (t >>= f) k io = (correr t k io).bind fun r => correr (f r.1.1) r.1.2 r.2 :=
  Dialog.interp_bind respuestaAtomica _ (t k) io

/-- A finished sequence has a finished first part. -/
lemma correr_bind_some {t : Hilo α} {f : α → Hilo β} {r : (β × Estado) × Bandeja}
    (h : correr (t >>= f) k io = some r) :
    ∃ a k₁ io₁, correr t k io = some ((a, k₁), io₁) ∧ correr (f a) k₁ io₁ = some r := by
  rw [correr_bind, Option.bind_eq_some_iff] at h
  obtain ⟨⟨⟨a, k₁⟩, io₁⟩, h₁, h₂⟩ := h
  exact ⟨a, k₁, io₁, h₁, h₂⟩

@[simp] lemma correr_get : correr (get : Hilo Estado) k io = some ((k, k), io) := rfl

@[simp] lemma correr_modify (f : Estado → Estado) :
    correr (modify f : Hilo Unit) k io = some (((), f k), io) := rfl

@[simp] lemma correr_enviar (soc : ℤ) (men : Mensaje) : correr (enviar soc men) k io =
    some (((), k), { io with salida := io.salida ++ [.enviado soc men] }) := rfl

@[simp] lemma correr_enviarMenComun (soc tipo : ℤ) (dato : List Byte) :
    correr (enviarMenComun soc tipo dato) k io = some (((), k),
      { io with salida := io.salida ++ [.enviado soc (.comun (crearMenComun tipo dato))] }) := rfl

@[simp] lemma correr_enviarUmvMemSeg (soc tipo idProg tamSeg : ℤ) :
    correr (enviarUmvMemSeg soc tipo idProg tamSeg) k io = some (((), k),
      { io with salida := io.salida ++ [.enviado soc (.seg ⟨tipo, idProg, tamSeg⟩)] }) := rfl

@[simp] lemma correr_socketCerrar (soc : ℤ) : correr (socketCerrar soc) k io =
    some (((), k), { io with salida := io.salida ++ [.cerrado soc] }) := rfl

@[simp] lemma correr_lock (m : Mutex) : correr (lock m) k io = some (((), k), io) := rfl

@[simp] lemma correr_unlock (m : Mutex) : correr (unlock m) k io = some (((), k), io) := rfl

@[simp] lemma correr_usleep (n : ℤ) : correr (usleep n) k io = some (((), k), io) := rfl

@[simp] lemma correr_caida : correr (caida : Hilo α) k io = none := rfl

@[simp] lemma correr_semIncre (s : Sem) : correr (semIncre s) k io =
    some (((), k.conSem s (k.sem s + 1)), io) := rfl

@[simp] lemma correr_modificarIo (disp : List Byte) (f : Io → Io) :
    correr (modificarIo disp f) k io = some (((), k.conIo disp f), io) := rfl

@[simp] lemma correr_modificarSem (clave : List Byte) (f : Semaforo → Semaforo) :
    correr (modificarSem clave f) k io = some (((), k.conSemaforo clave f), io) := rfl

@[simp] lemma correr_fdClrCpus (soc : ℤ) : correr (fdClrCpus soc) k io =
    some (((), k.conSocCpus (k.conjSocCpus.erase soc)), io) := rfl

@[simp] lemma correr_fdClrProgs (soc : ℤ) : correr (fdClrProgs soc) k io =
    some (((), k.conSocProgs (k.conjSocProgs.erase soc)), io) := rfl

@[simp] lemma correr_queuePush (c : Cola) (x : Option PcbOtros) : correr (queuePush c x) k io =
    some (((), k.conCola c (k.colas c ++ [x])), io) := rfl

@[simp] lemma correr_queuePop (c : Cola) : correr (queuePop c) k io =
    some (((k.colas c).head?.join, k.conCola c (k.colas c).tail), io) := rfl

@[simp] lemma correr_listaCpuAdd (cpu : Cpu) : correr (listaCpuAdd cpu) k io =
    some (((), k.conCpus (k.listaCpu ++ [cpu])), io) := rfl

@[simp] lemma correr_listaCpuRemove (p : Cpu → Bool) : correr (listaCpuRemove p) k io =
    some ((k.listaCpu.find? p, k.conCpus (k.listaCpu.eraseP p)), io) := rfl

lemma correr_deref_some {x : Option α} {a : α} (h : correr (deref x) k io = some ((a, k'), io')) :
    x = some a ∧ k' = k ∧ io' = io := by
  cases x with
  | none => exact absurd h (by simp [deref])
  | some b =>
    obtain ⟨⟨rfl, rfl⟩, rfl⟩ := by simpa [deref] using h
    exact ⟨rfl, rfl, rfl⟩

lemma correr_entero_some {x y : ℤ} (h : correr (entero x) k io = some ((y, k'), io')) :
    y = x ∧ -2 ^ 31 ≤ x ∧ x < 2 ^ 31 ∧ k' = k ∧ io' = io := by
  unfold entero at h
  split at h
  · rename_i hx
    obtain ⟨⟨rfl, rfl⟩, rfl⟩ := by simpa using h
    exact ⟨rfl, hx.1, hx.2, rfl, rfl⟩
  · exact absurd h (by simp)

lemma correr_recvComun_some {soc : ℤ} {men : MenComun}
    (h : correr (recvComun soc) k io = some ((men, k'), io')) :
    k' = k ∧ io.entrada = .comun men :: io'.entrada ∧ io'.salida = io.salida := by
  obtain ⟨entrada, salida⟩ := io
  unfold correr recvComun at h
  simp only [Dialog.interp_ask, Option.bind_eq_some_iff] at h
  obtain ⟨r, hr, h⟩ := h
  rcases entrada with _ | ⟨_ | _ | _ | _, l⟩
  · exact absurd hr (by simp [respuestaAtomica])
  · obtain rfl := by simpa [respuestaAtomica] using hr
    obtain ⟨⟨rfl, rfl⟩, rfl⟩ := by simpa using h
    exact ⟨rfl, rfl, rfl⟩
  all_goals exact absurd hr (by simp [respuestaAtomica])

lemma correr_recvQuantumPcb_some {soc : ℤ} {men : MenQuantumPcb}
    (h : correr (recvQuantumPcb soc) k io = some ((men, k'), io')) :
    k' = k ∧ io.entrada = .quantumPcb men :: io'.entrada ∧ io'.salida = io.salida := by
  obtain ⟨entrada, salida⟩ := io
  unfold correr recvQuantumPcb at h
  simp only [Dialog.interp_ask, Option.bind_eq_some_iff] at h
  obtain ⟨r, hr, h⟩ := h
  rcases entrada with _ | ⟨_ | _ | _ | _, l⟩
  · exact absurd hr (by simp [respuestaAtomica])
  · exact absurd hr (by simp [respuestaAtomica])
  · obtain rfl := by simpa [respuestaAtomica] using hr
    obtain ⟨⟨rfl, rfl⟩, rfl⟩ := by simpa using h
    exact ⟨rfl, rfl, rfl⟩
  all_goals exact absurd hr (by simp [respuestaAtomica])

lemma correr_semDecre_some {s : Sem} (h : correr (semDecre s) k io = some (((), k'), io')) :
    0 < k.sem s ∧ k' = k.conSem s (k.sem s - 1) ∧ io' = io := by
  unfold correr semDecre at h
  simp only [Dialog.interp_ask, Option.bind_eq_some_iff, respuestaAtomica] at h
  obtain ⟨r, hr, h⟩ := h
  split at hr
  · exact absurd hr (by simp)
  · rename_i hs
    obtain rfl := by simpa using hr
    obtain ⟨rfl, rfl⟩ := by simpa using h
    exact ⟨Nat.pos_of_ne_zero hs, rfl, rfl⟩

lemma correr_semDecreIo_some {disp : List Byte}
    (h : correr (semDecreIo disp) k io = some (((), k'), io')) :
    ∃ x n, k.diccDispIo disp = some x ∧ x.contCantProc = n + 1 ∧
      k' = k.conIo disp (fun x => { x with contCantProc := n }) ∧ io' = io := by
  unfold correr semDecreIo at h
  simp only [Dialog.interp_ask, Option.bind_eq_some_iff, respuestaAtomica] at h
  obtain ⟨r, hr, h⟩ := h
  split at hr
  · rename_i n _ hx
    obtain rfl := by simpa using hr
    obtain ⟨rfl, rfl⟩ := by simpa using h
    exact ⟨_, n, hx, rfl, rfl, rfl⟩
  · exact absurd hr (by simp)

/-- **A search in a queue** takes out one element that satisfies `p`, or leaves the queue as it
was when none does; `NULL` is met in neither case. -/
lemma correr_queueRotar_some {c : Cola} {p : PcbOtros → Bool} {r : Option PcbOtros}
    (h : correr (queueRotar c p) k io = some ((r, k'), io')) :
    io' = io ∧
    ((∃ pre x post, k.colas c = pre ++ some x :: post ∧ (∀ y ∈ pre, ∃ z, y = some z ∧ p z = false) ∧
        p x = true ∧ r = some x ∧ k' = k.conCola c (post ++ pre)) ∨
      ((∀ y ∈ k.colas c, ∃ z, y = some z ∧ p z = false) ∧ r = none ∧ k' = k)) := by
  unfold queueRotar at h
  rw [correr_bind, correr_get, Option.bind_some] at h
  obtain ⟨⟨x, q⟩, _, _, hd, hr⟩ := correr_bind_some h
  obtain ⟨hrot, rfl, rfl⟩ := correr_deref_some hd
  simp only [correr_bind, correr_modify, Option.bind_some, correr_pure, Option.some.injEq,
    Prod.mk.injEq] at hr
  obtain ⟨⟨rfl, rfl⟩, rfl⟩ := hr
  have hfalse : ∀ y : Option PcbOtros, Option.map p y = some false → ∃ z, y = some z ∧ p z = false :=
    fun y hy => by simpa using hy
  refine ⟨rfl, ?_⟩
  rcases rotateFind_length hrot with ⟨pre, x, post, hq, hpre, hx, hres⟩ | ⟨hq, hres⟩
  · obtain ⟨z, rfl, hz⟩ := Option.map_eq_some_iff.1 hx
    obtain ⟨rfl, rfl⟩ := by simpa using hres
    exact .inl ⟨pre, z, post, hq, fun y hy => hfalse y (hpre y hy), hz, rfl, rfl⟩
  · obtain ⟨rfl, rfl⟩ := by simpa using hres
    exact .inr ⟨fun y hy => hfalse y (hq y hy), rfl, by simp⟩

end Correr

end Ansisop.Kernel
