import Ansisop.Kernel.Level
import Ansisop.Umv.Server

/-!
The connection of the kernel with the UMV, which two threads of the kernel share.

The PLP asks for the segments of a script and writes them, `manejador_exit` has the segments of a
process destroyed; each request is answered by one message, and nothing on the connection says whose
request it was. `Conexion` is the connection with its two channels, the turn of `admin_conec_kernel`
at its end, and what is left of the task of each thread; it also keeps, for the statements only, who
has sent each message, the last request of each thread, and the order of the requests that have not
been answered. The other threads of the kernel may change the globals at any time, and so let a
mutex or a semaphore be had at any time, but they do not use the connection.

When no thread sends between an `ESCRIBIR_SEG` of the other one and its contents, and a thread takes
a message only when its request is the oldest one, every answer reaches the thread that has asked for
it, and the UMV reads every message as what it was sent as (`enOrden_run`).
-/

namespace Ansisop.Kernel.Intercambio

open Ansisop.Sockets Ansisop.Lib Dialog Hilo
open TipoDatos hiding signal wait

/-! ### The two threads -/

/-- The threads that use the connection: that of the PLP, and `manejador_exit`. -/
inductive Parte where
  | plp | exit
  deriving DecidableEq, Repr

def Parte.otra : Parte → Parte
  | .plp => .exit
  | .exit => .plp

/-- Globals of a kernel whose connection with the UMV is `S`: no program has that descriptor. -/
def Globales (S : ℤ) : Type :=
  {k : Estado // k.socUmv = S ∧ ∀ c x, some x ∈ k.colas c → x.nSocket ≠ S}

/-- What the threads do in one turn of their loops: the PLP with the script of a connection. -/
inductive Encargo (S : ℤ) where
  | script (basura soc : ℤ) (men : MenComun) (h : soc ≠ S)
  | salida

namespace Encargo

variable {S : ℤ}

def parte : Encargo S → Parte
  | script .. => .plp
  | salida => .exit

def cuerpo (metadata : List Byte → MetadataProgram) : Encargo S → Hilo Unit
  | script basura soc men _ => administrarNewScript metadata basura soc men
  | salida => manejadorExit

end Encargo

/-! ### The connection -/

/-- A message that a thread has received: the thread, the one whose request the UMV has answered with
it, and the last request of the thread that has received it. -/
structure Recibo where
  parte : Parte
  de : Parte
  pedido : Option MenSeg
  resp : MenComun

/-- The connection, the UMV, and the two threads. `espera` is the process whose contents
`gestionar_alm_seg` waits for. -/
structure Conexion where
  k : Estado
  resto : Parte → Option Resto
  aUmv : List (Parte × Mensaje)
  deUmv : List (Parte × MenComun)
  umv : Umv.Estado
  espera : Option (Parte × ℤ)
  pedido : Parte → Option MenSeg
  orden : List Parte
  recibos : List Recibo

/-- What happens next: a thread starts a task, or goes on (with `men`, if it waits for a message of
another connection), another thread of the kernel changes the globals, or the UMV takes a message. -/
inductive Accion (S : ℤ) where
  | empieza (t : Encargo S)
  | sigue (p : Parte) (men : MenComun)
  | otros (k : Globales S)
  | umv (e : Umv.Entorno)

namespace Conexion

variable {S : ℤ}

/-- The thread `p` has sent a message to the UMV. -/
def envia (s : Conexion) (p : Parte) : Mensaje → Conexion
  | .seg m =>
    { s with
      aUmv := s.aUmv ++ [(p, .seg m)]
      pedido := Function.update s.pedido p (some m)
      orden := s.orden ++ [p] }
  | m => { s with aUmv := s.aUmv ++ [(p, m)] }

/-- The thread `p` has received `r`, with which the UMV has answered a request of `q`. -/
def recibe (s : Conexion) (p q : Parte) (r : MenComun) (l : List (Parte × MenComun)) : Conexion :=
  { s with
    deUmv := l
    orden := s.orden.tail
    recibos := ⟨p, q, s.pedido p, r⟩ :: s.recibos }

/-- The answer that the thread `p` gets to its event, and the connection after it. -/
def responde (S : ℤ) (s : Conexion) (p : Parte) (men : MenComun) :
    (e : Evento) → Option (e.Respuesta × Conexion)
  | .enviar soc m _ => some (s.k, if soc = S then s.envia p m else s)
  | .recvComun soc _ =>
    if soc = S then
      match s.deUmv with
      | (q, r) :: l => some ((r, s.k), s.recibe p q r l)
      | [] => none
    else some ((men, s.k), s)
  | .recvQuantumPcb _ _ => none
  | .cerrar _ _ => some (s.k, s)
  | .lock _ _ => some (s.k, s)
  | .unlock _ _ => some (s.k, s)
  | .decre _ _ => some (s.k, s)
  | .decreIo _ _ => some (s.k, s)
  | .usleep _ _ => some (s.k, s)
  | .caida => none

/-- The thread `p` has gone on to the next event of its program, or to its end. -/
def deja (s : Conexion) (p : Parte) : Resto → Conexion
  | .ret r => { s with k := r.2, resto := Function.update s.resto p none }
  | .ask e f =>
    { s with k := e.vista.getD s.k, resto := Function.update s.resto p (some (.ask e f)) }

/-- The UMV takes the next message: a `t_men_seg`, or the contents that it waits for. It cannot go on
with a message of the other kind, which it would read as what it is not. -/
def atiende (s : Conexion) (e : Umv.Entorno) : Option Conexion :=
  match s.espera, s.aUmv with
  | none, (p, .seg m) :: l =>
    let r := Umv.adminConecKernel e m s.umv
    match r.2 with
    | .responde men => some { s with aUmv := l, umv := r.1, deUmv := s.deUmv ++ [(p, men)] }
    | .espera id => some { s with aUmv := l, umv := r.1, espera := some (p, id) }
    | _ => some { s with aUmv := l, umv := r.1 }
  | some (p, id), (_, .comun men) :: l =>
    let r := Umv.gestionarAlmSeg id men s.umv
    some { s with aUmv := l, umv := r.1, deUmv := s.deUmv ++ [(p, r.2)], espera := none }
  | _, _ => none

def hacer (metadata : List Byte → MetadataProgram) : Accion S → Conexion → Option Conexion
  | .empieza t, s =>
    if (s.resto t.parte).isNone then some (s.deja t.parte (t.cuerpo metadata s.k)) else none
  | .sigue p men, s =>
    match s.resto p with
    | some (.ask e f) => (s.responde S p men e).map fun r => r.2.deja p (f r.1)
    | _ => none
  | .otros k, s => some { s with k := k.1 }
  | .umv e, s => s.atiende e

/-- The connection at the start. -/
def alInicio (k : Globales S) (umv : Umv.Estado) : Conexion :=
  ⟨k.1, fun _ => none, [], [], umv, none, fun _ => none, [], []⟩

end Conexion

/-! ### What should hold -/

/-- An answer of this kind goes with a request of that one: that of `gestionar_resp_sol_mem` with a
request for a segment, that of `umv_destrui_pcb`, and that of `recibir_resp_escrbir_seg`. -/
def Conviene (tipo resp : ℤ) : Prop :=
  ((tipo = pedMemSegCod ∨ tipo = pedMemIndEti ∨ tipo = pedMemIndCod ∨ tipo = pedMemSegStack) ∧
    (resp = respMemSegCod ∨ resp = respMemIndEti ∨ resp = respMemIndCod ∨ resp = respMemSegStack ∨
      resp = memOverload)) ∨
  (tipo = destrSegs ∧ resp = sincroOk) ∨ (tipo = escribirSeg ∧ resp = menAlmOk)

/-- The thread has received the answer to its own request, and it is of a kind that goes with it. -/
def Recibo.Correcto (r : Recibo) : Prop :=
  r.de = r.parte ∧ ∃ m, r.pedido = some m ∧ Conviene m.tipo r.resp.tipo

namespace Conexion

/-- The next message is of the kind that the UMV takes it for. -/
def Decodifica (s : Conexion) : Prop :=
  ∀ p m l, s.aUmv = (p, m) :: l →
    (s.espera = none → ∃ x, m = .seg x) ∧ (∀ q id, s.espera = some (q, id) → ∃ x, m = .comun x ∧ p = q)

/-- **Requests and answers match.** -/
structure EnOrden (s : Conexion) : Prop where
  recibos : ∀ r ∈ s.recibos, r.Correcto
  decodifica : s.Decodifica

variable {S : ℤ}

/-- The thread is between an `ESCRIBIR_SEG` and its contents: it is about to send these. -/
def debeContenido (S : ℤ) (s : Conexion) (p : Parte) : Bool :=
  match s.resto p with
  | some (.ask (.enviar soc (.comun _) _) _) => soc == S
  | _ => false

/-- The thread does not get in the way of the other one: it sends to the UMV when that does not owe
the contents of a segment, and takes a message when its request is the oldest one. -/
def Turna (s : Conexion) : Accion S → Bool
  | .sigue p _ =>
    match s.resto p with
    | some (.ask (.enviar soc _ _) _) => !(soc == S && s.debeContenido S p.otra)
    | some (.ask (.recvComun soc _) _) => !(soc == S) || s.orden.head? == some p
    | _ => true
  | _ => true

end Conexion

/-! ### What each thread says -/

/-- Where a thread is: it owes nothing, it owes the contents of a segment, or it waits for the answer
to its request. -/
inductive Fase where
  | libre | contenido | espera
  deriving DecidableEq, Repr

/-- The kinds of request. -/
def EsPedido (tipo : ℤ) : Prop :=
  tipo = pedMemSegCod ∨ tipo = pedMemIndEti ∨ tipo = pedMemIndCod ∨ tipo = pedMemSegStack ∨
    tipo = destrSegs ∨ tipo = escribirSeg

namespace Fase

/-- What may be sent to the UMV. -/
def Dice : Fase → Mensaje → Prop
  | libre, .seg m => EsPedido m.tipo
  | contenido, .comun _ => True
  | _, _ => False

/-- The phase after a message to the UMV. -/
def trasDecir : Mensaje → Fase
  | .seg m => if m.tipo = escribirSeg then contenido else espera
  | _ => espera

/-- What may be done. -/
def Permite (S : ℤ) (f : Fase) : Evento → Prop
  | .enviar soc m _ => (soc = S ∧ f.Dice m) ∨ (soc ≠ S ∧ f = libre)
  | .recvComun soc _ => soc = S ∧ f = espera
  | .recvQuantumPcb _ _ => False
  | _ => f = libre

/-- The phase after an event. -/
def tras (S : ℤ) (f : Fase) : Evento → Fase
  | .enviar soc m _ => if soc = S then trasDecir m else f
  | .recvComun _ _ => libre
  | _ => f

end Fase

/-- The globals that the thread goes on with are those of the kernel. -/
def Promesa (S : ℤ) (k : Estado) : Prop :=
  k.socUmv = S ∧ ∀ c x, some x ∈ k.colas c → x.nSocket ≠ S

/-- A thread under watch: in its phase, and with globals of the kernel. -/
def habla (S : ℤ) : Monitor Evento Evento.Respuesta Fase where
  allows f e := f.Permite S e ∧ ∀ k, e.vista = some k → Promesa S k
  next f e r f' := Promesa S (e.globales r) ∧ f' = f.tras S e

section Reglas

variable {S : ℤ} {α β : Type} {x : Hilo α} {f : α → Hilo β} {k : Estado}

/-- A function that starts and ends with nothing owed. -/
def Trata (S : ℤ) (x : Hilo α) : Prop :=
  ∀ k, Promesa S k → Safe (habla S) x k .libre fun _ k' f => Promesa S k' ∧ f = .libre

lemma Trata.sigue {Q : β → Estado → Fase → Prop} (hx : Trata S x) (hk : Promesa S k)
    (hf : ∀ a k', Promesa S k' → Safe (habla S) (f a) k' .libre Q) :
    Safe (habla S) (x >>= f) k .libre Q := by
  refine (hx k hk).bind ?_
  rintro a k' _ ⟨hk', rfl⟩
  exact hf a k' hk'

lemma Trata.bind (hx : Trata S x) (hf : ∀ a, Trata S (f a)) : Trata S (x >>= f) :=
  fun _ hk => hx.sigue hk fun a k' hk' => hf a k' hk'

lemma trata_pure (a : α) : Trata S (pure a : Hilo α) := fun _ hk => ⟨hk, rfl⟩

lemma trata_get : Trata S (get : Hilo Estado) := fun _ hk => ⟨hk, rfl⟩

lemma trata_modify {g : Estado → Estado} (hg : ∀ k, Promesa S k → Promesa S (g k)) :
    Trata S (modify g : Hilo Unit) := fun k hk => ⟨hg k hk, rfl⟩

lemma trata_caida : Trata S (caida : Hilo α) := fun _ _ => ⟨⟨rfl, nofun⟩, fun r => r.elim⟩

lemma trata_deref (a : Option α) : Trata S (deref a) := by
  cases a with
  | none => exact trata_caida
  | some a => exact trata_pure a

lemma trata_entero (n : ℤ) : Trata S (entero n) := by
  unfold entero
  split
  · exact trata_pure n
  · exact trata_caida

/-- The globals that an event shows. -/
lemma Promesa.vista (hk : Promesa S k) : ∀ k', some k = some k' → Promesa S k' :=
  fun _ h => Option.some.inj h ▸ hk

lemma trata_lock (m : Mutex) : Trata S (lock m) :=
  fun _ hk => ⟨⟨rfl, hk.vista⟩, fun _ _ hn => hn⟩

lemma trata_unlock (m : Mutex) : Trata S (unlock m) :=
  fun _ hk => ⟨⟨rfl, hk.vista⟩, fun _ _ hn => hn⟩

lemma trata_semDecre (s : Sem) : Trata S (semDecre s) :=
  fun _ hk => ⟨⟨rfl, hk.vista⟩, fun _ _ hn => hn⟩

lemma trata_cerrar (soc : ℤ) : Trata S (socketCerrar soc) :=
  fun _ hk => ⟨⟨rfl, hk.vista⟩, fun _ _ hn => hn⟩

/-- A message to another connection. -/
lemma trata_enviar {soc : ℤ} (h : soc ≠ S) (men : Mensaje) : Trata S (enviar soc men) := by
  exact fun _ hk =>
    ⟨⟨.inr ⟨h, rfl⟩, hk.vista⟩, fun _ _ ⟨hk', hf'⟩ => ⟨hk', hf'.trans (if_neg h)⟩⟩

/-- A message to the UMV. -/
lemma safe_enviar {Q : β → Estado → Fase → Prop} {f : Unit → Hilo β} {fase : Fase} {men : Mensaje}
    (hk : Promesa S k) (hd : fase.Dice men)
    (hf : ∀ k', Promesa S k' → Safe (habla S) (f ()) k' (.trasDecir men) Q) :
    Safe (habla S) (enviar S men >>= f) k fase Q := by
  have henvia : Safe (habla S) (enviar S men) k fase
      fun _ k' f' => Promesa S k' ∧ f' = .trasDecir men := by
    exact ⟨⟨.inl ⟨rfl, hd⟩, hk.vista⟩, fun _ _ ⟨hk', hf'⟩ => ⟨hk', hf'.trans (if_pos rfl)⟩⟩
  refine henvia.bind ?_
  rintro _ k' _ ⟨hk', rfl⟩
  exact hf k' hk'

/-- The answer of the UMV. -/
lemma safe_recv {Q : β → Estado → Fase → Prop} {f : MenComun → Hilo β} (hk : Promesa S k)
    (hf : ∀ men k', Promesa S k' → Safe (habla S) (f men) k' .libre Q) :
    Safe (habla S) (recvComun S >>= f) k .espera Q := by
  have hrecibe : Safe (habla S) (recvComun S) k .espera fun _ k' f' => Promesa S k' ∧ f' = .libre :=
    ⟨⟨⟨rfl, rfl⟩, hk.vista⟩, fun _ _ hn => hn⟩
  refine hrecibe.bind ?_
  rintro men k' _ ⟨hk', rfl⟩
  exact hf men k' hk'

end Reglas

/-! ### The functions of the two threads -/

section Funciones

variable {S : ℤ} {metadata : List Byte → MetadataProgram}

/-- A request for a segment, and its answer. -/
lemma pedirSegmento_trata (tipo tam : ℤ) (ht : EsPedido tipo) (hne : tipo ≠ escribirSeg) :
    Trata S (pedirSegmento tipo tam) := by
  intro k hk
  have hsoc : k.socUmv = S := hk.1
  refine safe_get_bind ?_
  rw [hsoc]
  refine safe_enviar hk (show Fase.Dice .libre _ from ht) fun k' hk' => ?_
  have hsoc' : k'.socUmv = S := hk'.1
  have hfase : Fase.trasDecir (.seg ⟨tipo, k.contadorPrograma, tam⟩) = .espera := if_neg hne
  rw [hfase]
  refine safe_get_bind ?_
  rw [hsoc']
  refine safe_recv hk' fun men k₁ hk₁ => ?_
  split
  · exact trata_pure _ k₁ hk₁
  · exact (trata_deref _).bind (fun _ => trata_pure _) k₁ hk₁

/-- The two messages that write a segment, and the answer. -/
lemma escribirSegmento_trata (men : MenComun) : Trata S (escribirSegmento men) := by
  intro k hk
  have hsoc : k.socUmv = S := hk.1
  have hped : EsPedido escribirSeg := .inr (.inr (.inr (.inr (.inr rfl))))
  refine safe_get_bind ?_
  rw [hsoc]
  refine safe_enviar hk (show Fase.Dice .libre _ from hped) fun k₁ hk₁ => ?_
  refine safe_enviar hk₁ trivial fun k₂ hk₂ => ?_
  exact safe_recv hk₂ fun _ k₃ hk₃ => trata_pure _ k₃ hk₃

/-- The order to destroy the segments of a process, and the answer. -/
lemma umvDestruiPcb_trata (idPcb : ℤ) : Trata S (umvDestruiPcb idPcb) := by
  intro k hk
  have hsoc : k.socUmv = S := hk.1
  have hped : EsPedido destrSegs := .inr (.inr (.inr (.inr (.inl rfl))))
  refine safe_get_bind ?_
  rw [hsoc]
  refine safe_enviar hk (show Fase.Dice .libre _ from hped) fun k₁ hk₁ => ?_
  have hfase : Fase.trasDecir (.seg ⟨destrSegs, idPcb, 0⟩) = .espera := rfl
  rw [hfase]
  exact safe_recv hk₁ fun _ k₂ hk₂ => trata_pure _ k₂ hk₂

/-- The process that `manejador_exit` takes has not the descriptor of the UMV. -/
lemma trata_queuePop {α : Type} {c : Cola} {f : Option PcbOtros → Hilo α}
    (hf : ∀ x, (∀ y, x = some y → y.nSocket ≠ S) → Trata S (f x)) :
    Trata S (queuePop c >>= f) := by
  intro k hk
  have hpop : Safe (habla S) (queuePop c) k .libre fun x k' f =>
      Promesa S k' ∧ f = .libre ∧ ∀ y, x = some y → y.nSocket ≠ S := by
    refine safe_get_bind (safe_modify_bind (safe_pure ⟨⟨hk.1, fun d x hx => ?_⟩, rfl, ?_⟩))
    · by_cases hd : d = c
      · subst hd
        rw [Estado.conCola_colas, Function.update_self] at hx
        exact hk.2 _ x (List.mem_of_mem_tail hx)
      · rw [Estado.conCola_colas, Function.update_of_ne hd] at hx
        exact hk.2 d x hx
    · intro y hy
      refine hk.2 c y ?_
      rw [eq_cons_of_head hy]
      exact List.mem_cons_self ..
  refine hpop.bind ?_
  rintro x k' _ ⟨hk', rfl, hx⟩
  exact hf x hx k' hk'

/-- A process of another descriptor is pushed in a queue. -/
lemma trata_queuePush {c : Cola} {x : PcbOtros} (hx : x.nSocket ≠ S) :
    Trata S (queuePush c (some x)) := by
  refine trata_modify ?_
  rintro k ⟨hk, hcolas⟩
  refine ⟨hk, fun d y hy => ?_⟩
  by_cases hd : d = c
  · subst hd
    rw [Estado.conCola_colas, Function.update_self, List.mem_append, List.mem_singleton] at hy
    rcases hy with hy | hy
    · exact hcolas _ y hy
    · obtain rfl := Option.some.inj hy
      exact hx
  · rw [Estado.conCola_colas, Function.update_of_ne hd] at hy
    exact hcolas d y hy

lemma trata_semIncre (s : Sem) : Trata S (semIncre s) := trata_modify fun _ hk => hk

lemma trata_fdClrProgs (soc : ℤ) : Trata S (fdClrProgs soc) := trata_modify fun _ hk => hk

lemma trata_conContador (n : ℤ) : Trata S (modify fun k => k.conContador n : Hilo Unit) :=
  trata_modify fun _ hk => hk

lemma trata_conVivos (l : List ℤ → List ℤ) :
    Trata S (modify fun k => k.conVivos (l k.vivos) : Hilo Unit) := trata_modify fun _ hk => hk

lemma safe_cuerpo {x : Hilo Unit} {k : Estado} (hx : Trata S x) (hk : Promesa S k) :
    Safe (habla S) x k .libre fun _ k' f => Promesa S k' ∧ f = .libre := hx k hk

attribute [irreducible] Trata

lemma solicitarMem_trata (men : MenComun) : Trata S (solicitarMem metadata men) := by
  refine (pedirSegmento_trata pedMemSegCod _ (.inl rfl) (by decide)).bind fun cod => ?_
  split
  · exact trata_pure _
  refine (pedirSegmento_trata pedMemIndEti _ (.inr (.inl rfl)) (by decide)).bind fun eti => ?_
  split
  · exact trata_pure _
  refine (trata_entero _).bind fun tam => ?_
  refine (pedirSegmento_trata pedMemIndCod _ (.inr (.inr (.inl rfl))) (by decide)).bind fun ind => ?_
  split
  · exact trata_pure _
  refine trata_get.bind fun k => ?_
  refine (pedirSegmento_trata pedMemSegStack _ (.inr (.inr (.inr (.inl rfl)))) (by decide)).bind
    fun stack => ?_
  split
  · exact trata_pure _
  · exact trata_pure _

lemma crearPcbEscribirSegUmv_trata (basura : ℤ) (men : MenComun) (resp : RespSolMem) :
    Trata S (crearPcbEscribirSegUmv metadata basura men resp) := by
  refine (escribirSegmento_trata _).bind fun _ => (escribirSegmento_trata _).bind fun _ => ?_
  exact (escribirSegmento_trata _).bind fun _ => trata_get.bind fun _ => trata_pure _

lemma administrarNewScript_trata {basura soc : ℤ} (hsoc : soc ≠ S) (men : MenComun) :
    Trata S (administrarNewScript metadata basura soc men) := by
  have hpeso : Trata S (calcularPeso metadata men) := trata_entero _
  refine trata_get.bind fun k => (trata_entero _).bind fun contador => ?_
  refine (trata_conContador _).bind fun _ => (solicitarMem_trata men).bind fun r => ?_
  cases r with
  | none =>
    exact (trata_fdClrProgs _).bind fun _ => (trata_enviar hsoc _).bind fun _ => trata_cerrar soc
  | some resp =>
    refine (crearPcbEscribirSegUmv_trata basura men resp).bind fun pcb => ?_
    refine hpeso.bind fun peso => (trata_lock _).bind fun _ => ?_
    refine (trata_conVivos fun l => pcb.id :: l).bind fun _ => ?_
    exact (trata_queuePush hsoc).bind fun _ => (trata_semIncre _).bind fun _ => trata_unlock _

lemma manejadorExit_trata : Trata S manejadorExit := by
  refine (trata_semDecre _).bind fun _ => (trata_lock _).bind fun _ => ?_
  refine trata_queuePop fun x hx => (trata_unlock _).bind fun _ => ?_
  cases x with
  | none => exact trata_pure ()
  | some x =>
    have hfin : Trata S (do
        umvDestruiPcb x.pcb.id
        modify fun k => k.conVivos (k.vivos.erase x.pcb.id)) :=
      (umvDestruiPcb_trata _).bind fun _ => trata_conVivos fun l => l.erase x.pcb.id
    by_cases ht : x.tipoFinEjecucion ≠ -1
    · simp only [if_pos ht]
      exact (trata_enviar (hx x rfl) _).bind fun _ => hfin
    · simp only [if_neg ht]
      exact hfin

/-- **Each thread keeps to the protocol** for its part. -/
lemma cuerpo_trata (t : Encargo S) : Trata S (t.cuerpo metadata) := by
  cases t with
  | script basura soc men h => exact administrarNewScript_trata h men
  | salida => exact manejadorExit_trata

end Funciones

/-! ### The messages on the way to the UMV -/

/-- The messages on their way are requests, and contents right behind their `ESCRIBIR_SEG`: the UMV
waits for the contents of the first argument, the requests are those of the threads of the second
list, and the last thread still owes the contents of its segment. -/
inductive Flujo (pedido : Parte → Option MenSeg) :
    Option Parte → List (Parte × Mensaje) → List Parte → Option Parte → Prop
  | fin : Flujo pedido none [] [] none
  | debe {p} {m : MenSeg} (hm : pedido p = some m) (ht : m.tipo = escribirSeg) :
      Flujo pedido (some p) [] [p] (some p)
  | pide {p l ps o} {m : MenSeg} (hm : pedido p = some m) (ht : EsPedido m.tipo) (hne : m.tipo ≠ escribirSeg)
      (h : Flujo pedido none l ps o) : Flujo pedido none ((p, .seg m) :: l) (p :: ps) o
  | escribe {p l ps o} {m : MenSeg} (ht : m.tipo = escribirSeg) (h : Flujo pedido (some p) l ps o) :
      Flujo pedido none ((p, .seg m) :: l) ps o
  | contenido {p men l ps o} {m : MenSeg} (hm : pedido p = some m) (ht : m.tipo = escribirSeg)
      (h : Flujo pedido none l ps o) : Flujo pedido (some p) ((p, .comun men) :: l) (p :: ps) o

namespace Flujo

variable {pedido : Parte → Option MenSeg} {e o : Option Parte} {l l' : List (Parte × Mensaje)}
  {ps ps' : List Parte} {p : Parte}

/-- Only the requests on the way matter. -/
lemma congr {pedido' : Parte → Option MenSeg} (h : Flujo pedido e l ps o)
    (hp : ∀ p ∈ ps, pedido' p = pedido p) : Flujo pedido' e l ps o := by
  induction h with
  | fin => exact .fin
  | debe hm ht => exact .debe ((hp _ (List.mem_cons_self ..)).trans hm) ht
  | pide hm ht hne _ ih =>
    exact .pide ((hp _ (List.mem_cons_self ..)).trans hm) ht hne
      (ih fun q hq => hp q (List.mem_cons_of_mem _ hq))
  | escribe ht _ ih => exact .escribe ht (ih hp)
  | contenido hm ht _ ih =>
    exact .contenido ((hp _ (List.mem_cons_self ..)).trans hm) ht
      (ih fun q hq => hp q (List.mem_cons_of_mem _ hq))

/-- More messages where nothing is owed. -/
lemma append (h : Flujo pedido e l ps none) (h' : Flujo pedido none l' ps' o) :
    Flujo pedido e (l ++ l') (ps ++ ps') o := by
  generalize hn : (none : Option Parte) = n at h
  induction h with
  | fin => exact h'
  | debe => cases hn
  | pide hm ht hne _ ih => exact .pide hm ht hne (ih hn)
  | escribe ht _ ih => exact .escribe ht (ih hn)
  | contenido hm ht _ ih => exact .contenido hm ht (ih hn)

/-- The contents that are owed. -/
lemma append_contenido (h : Flujo pedido e l ps (some p)) (men : MenComun) :
    Flujo pedido e (l ++ [(p, .comun men)]) ps none := by
  generalize hn : some p = n at h
  induction h with
  | fin => cases hn
  | debe hm ht =>
    obtain rfl := Option.some.inj hn
    exact .contenido hm ht .fin
  | pide hm ht hne _ ih => exact .pide hm ht hne (ih hn)
  | escribe ht _ ih => exact .escribe ht (ih hn)
  | contenido hm ht _ ih => exact .contenido hm ht (ih hn)

/-- A request where nothing is owed. -/
lemma append_pedido {m : MenSeg} (h : Flujo pedido e l ps none) (hp : pedido p = some m)
    (ht : EsPedido m.tipo) :
    Flujo pedido e (l ++ [(p, .seg m)]) (ps ++ [p]) (if m.tipo = escribirSeg then some p else none) := by
  by_cases he : m.tipo = escribirSeg
  · rw [if_pos he]
    exact h.append (.escribe he (.debe hp he))
  · rw [if_neg he]
    exact h.append (.pide hp ht he .fin)

end Flujo

/-- The UMV answers a request that is no `ESCRIBIR_SEG` with an answer that goes with it. -/
lemma adminConecKernel_conviene (e : Umv.Entorno) {m : MenSeg} (u : Umv.Estado)
    (ht : EsPedido m.tipo) (hne : m.tipo ≠ escribirSeg) :
    ∃ u' r, Umv.adminConecKernel e m u = (u', .responde r) ∧ Conviene m.tipo r.tipo := by
  obtain ⟨tipo, idProg, tamSeg⟩ := m
  have hseg : ∀ resp : TipoDatos,
      (Umv.gestionarPedSeg e ⟨tipo, idProg, tamSeg⟩ resp u).2.tipo = resp ∨
        (Umv.gestionarPedSeg e ⟨tipo, idProg, tamSeg⟩ resp u).2.tipo = memOverload := by
    intro resp
    unfold Umv.gestionarPedSeg
    dsimp only
    split
    · exact .inr rfl
    · exact .inl rfl
  rcases ht with rfl | rfl | rfl | rfl | rfl | ht
  · refine ⟨_, _, rfl, .inl ⟨.inl rfl, ?_⟩⟩
    exact (hseg respMemSegCod).elim .inl fun h => .inr (.inr (.inr (.inr h)))
  · refine ⟨_, _, rfl, .inl ⟨.inr (.inl rfl), ?_⟩⟩
    exact (hseg respMemIndEti).elim (fun h => .inr (.inl h)) fun h => .inr (.inr (.inr (.inr h)))
  · refine ⟨_, _, rfl, .inl ⟨.inr (.inr (.inl rfl)), ?_⟩⟩
    exact (hseg respMemIndCod).elim (fun h => .inr (.inr (.inl h)))
      fun h => .inr (.inr (.inr (.inr h)))
  · refine ⟨_, _, rfl, .inl ⟨.inr (.inr (.inr rfl)), ?_⟩⟩
    exact (hseg respMemSegStack).elim (fun h => .inr (.inr (.inr (.inl h))))
      fun h => .inr (.inr (.inr (.inr h)))
  · exact ⟨_, _, rfl, .inr (.inl ⟨rfl, rfl⟩)⟩
  · exact absurd ht hne

lemma adminConecKernel_escribir (e : Umv.Entorno) {m : MenSeg} (u : Umv.Estado)
    (ht : m.tipo = escribirSeg) : Umv.adminConecKernel e m u = (u, .espera m.idProg) := by
  obtain ⟨tipo, idProg, tamSeg⟩ := m
  obtain rfl : tipo = escribirSeg := ht
  rfl

/-! ### The invariant -/

/-- The channels hold what the threads in the phases `f` wait for. -/
structure Canal (s : Conexion) (f : Parte → Fase) : Prop where
  flujo : ∃ ps o, Flujo s.pedido (s.espera.map Prod.fst) s.aUmv ps o ∧
    s.orden = s.deUmv.map Prod.fst ++ ps ∧ ∀ p, f p = .contenido ↔ o = some p
  nodup : s.orden.Nodup
  ocupado : ∀ p, p ∈ s.orden ↔ f p ≠ .libre
  respuestas : ∀ p r, (p, r) ∈ s.deUmv → ∃ m, s.pedido p = some m ∧ Conviene m.tipo r.tipo
  recibos : ∀ r ∈ s.recibos, r.Correcto

namespace Canal

variable {s s' : Conexion} {f : Parte → Fase} {p q : Parte}

lemma enOrden (h : Canal s f) : s.EnOrden := by
  refine ⟨h.recibos, fun p m l hl => ?_⟩
  obtain ⟨ps, o, hflujo, -, -⟩ := h.flujo
  rw [hl] at hflujo
  constructor
  · intro he
    rw [he] at hflujo
    cases hflujo with
    | pide => exact ⟨_, rfl⟩
    | escribe => exact ⟨_, rfl⟩
  · intro q id he
    rw [he] at hflujo
    cases hflujo with
    | contenido => exact ⟨_, rfl, rfl⟩

/-- The UMV takes a message. -/
lemma atiende (h : Canal s f) {e : Umv.Entorno} (hs : s.atiende e = some s') :
    Canal s' f ∧ s'.resto = s.resto ∧ s'.k = s.k := by
  obtain ⟨ps, o, hflujo, horden, ho⟩ := h.flujo
  unfold Conexion.atiende at hs
  split at hs
  · rename_i p m l he hl
    rw [he, hl] at hflujo
    cases hflujo with
    | @pide _ _ ps _ _ hm ht hne hflujo =>
      obtain ⟨u, r, hr, hconv⟩ := adminConecKernel_conviene e s.umv ht hne
      rw [hr] at hs
      obtain rfl := Option.some.inj hs
      refine ⟨⟨⟨ps, o, ?_, ?_, ho⟩, h.nodup, h.ocupado, fun q r' hq => ?_, h.recibos⟩, rfl, rfl⟩
      · rw [he]
        exact hflujo
      · simpa using horden
      · rcases List.mem_append.1 hq with hq | hq
        · exact h.respuestas q r' hq
        · obtain ⟨rfl, rfl⟩ := by simpa using hq
          exact ⟨m, hm, hconv⟩
    | escribe ht hflujo =>
      rw [adminConecKernel_escribir e s.umv ht] at hs
      obtain rfl := Option.some.inj hs
      exact ⟨⟨⟨ps, o, hflujo, horden, ho⟩, h.nodup, h.ocupado, h.respuestas, h.recibos⟩, rfl, rfl⟩
  · rename_i p id q men l he hl
    rw [he, hl] at hflujo
    obtain rfl := Option.some.inj hs
    cases hflujo with
    | @contenido _ _ _ ps _ m hm ht hflujo =>
      refine ⟨⟨⟨ps, o, hflujo, ?_, ho⟩, h.nodup, h.ocupado, fun q r' hq => ?_, h.recibos⟩, rfl, rfl⟩
      · simpa using horden
      · rcases List.mem_append.1 hq with hq | hq
        · exact h.respuestas q r' hq
        · obtain ⟨rfl, rfl⟩ := by simpa using hq
          exact ⟨m, hm, .inr (.inr ⟨ht, rfl⟩)⟩
  · cases hs

/-- A thread that owes nothing sends a request, and no thread owes contents. -/
lemma pide (h : Canal s f) {m : MenSeg} (hp : f p = .libre) (ht : EsPedido m.tipo)
    (hno : ∀ q, f q ≠ .contenido) :
    Canal (s.envia p (.seg m)) (Function.update f p (.trasDecir (.seg m))) := by
  obtain ⟨ps, o, hflujo, horden, ho⟩ := h.flujo
  have hfuera : p ∉ s.orden := fun hmem => (h.ocupado p).1 hmem hp
  have hotra : ∀ {q}, q ∈ s.orden → q ≠ p := fun hq he => hfuera (he ▸ hq)
  have hnone : o = none := by
    cases o with
    | none => rfl
    | some q => exact absurd ((ho q).2 rfl) (hno q)
  subst hnone
  have hfase : Fase.trasDecir (.seg m) ≠ .libre := by
    unfold Fase.trasDecir
    dsimp only
    split <;> decide
  refine ⟨⟨ps ++ [p], if m.tipo = escribirSeg then some p else none, ?_, ?_, fun q => ?_⟩, ?_,
    fun q => ?_, fun q r hq => ?_, h.recibos⟩
  · refine (hflujo.congr fun q hq => ?_).append_pedido (Function.update_self ..) ht
    exact Function.update_of_ne (hotra (horden ▸ List.mem_append_right _ hq)) _ _
  · show s.orden ++ [p] = _
    rw [horden, List.append_assoc]
    rfl
  · by_cases hq : q = p
    · subst hq
      rw [Function.update_self]
      unfold Fase.trasDecir
      by_cases he : m.tipo = escribirSeg <;> simp [he]
    · rw [Function.update_of_ne hq]
      refine ⟨fun hc => absurd hc (hno q), fun hc => ?_⟩
      split at hc
      · exact absurd (Option.some.inj hc).symm hq
      · cases hc
  · exact List.nodup_append.2 ⟨h.nodup, List.nodup_singleton p, fun q hq q' hq' he =>
      hotra hq (he.trans (List.mem_singleton.1 hq'))⟩
  · show q ∈ s.orden ++ [p] ↔ _
    rw [List.mem_append, List.mem_singleton, h.ocupado]
    by_cases hq : q = p
    · subst hq
      simp [hfase]
    · rw [Function.update_of_ne hq]
      simp [hq]
  · obtain ⟨m', hm', hconv⟩ := h.respuestas q r hq
    have hmem : q ∈ s.orden := by
      rw [horden]
      exact List.mem_append_left _ (List.mem_map_of_mem hq)
    exact ⟨m', (Function.update_of_ne (hotra hmem) _ _).trans hm', hconv⟩

/-- A thread sends the contents that it owes. -/
lemma contenido (h : Canal s f) (hp : f p = .contenido) (men : MenComun) :
    Canal (s.envia p (.comun men)) (Function.update f p .espera) := by
  obtain ⟨ps, o, hflujo, horden, ho⟩ := h.flujo
  obtain rfl := (ho p).1 hp
  refine ⟨⟨ps, none, hflujo.append_contenido men, horden, fun q => ?_⟩, h.nodup, fun q => ?_,
    h.respuestas, h.recibos⟩
  · by_cases hq : q = p
    · subst hq
      simp
    · rw [Function.update_of_ne hq, ho]
      simp [Ne.symm hq]
  · refine (h.ocupado q).trans ?_
    by_cases hq : q = p
    · subst hq
      simp [hp]
    · rw [Function.update_of_ne hq]

/-- A thread takes a message when its request is the oldest one. -/
lemma recibe (h : Canal s f) {r : MenComun} {l : List (Parte × MenComun)} (hp : f p = .espera)
    (hhead : s.orden.head? = some p) (hl : s.deUmv = (q, r) :: l) :
    Canal (s.recibe p q r l) (Function.update f p .libre) := by
  obtain ⟨ps, o, hflujo, horden, ho⟩ := h.flujo
  have hcons : s.orden = q :: (l.map Prod.fst ++ ps) := by rw [horden, hl]; rfl
  obtain rfl : q = p := by simpa [hcons] using hhead
  have htail : s.orden.tail = l.map Prod.fst ++ ps := by rw [hcons]; rfl
  have hfuera : q ∉ s.orden.tail := by
    have hnodup := h.nodup
    rw [hcons] at hnodup
    rw [htail]
    exact (List.nodup_cons.1 hnodup).1
  refine ⟨⟨ps, o, hflujo, htail, fun x => ?_⟩, h.nodup.tail, fun x => ?_, fun x r' hx => ?_,
    fun x hx => ?_⟩
  · by_cases hx : x = q
    · subst hx
      rw [Function.update_self]
      refine ⟨nofun, fun hc => ?_⟩
      rw [(ho x).2 hc] at hp
      cases hp
    · rw [Function.update_of_ne hx]
      exact ho x
  · show x ∈ s.orden.tail ↔ _
    by_cases hx : x = q
    · subst hx
      simp [hfuera]
    · rw [Function.update_of_ne hx, ← h.ocupado x, hcons]
      simp [hx]
  · exact h.respuestas x r' (hl ▸ List.mem_cons_of_mem _ hx)
  · rcases List.mem_cons.1 hx with rfl | hx
    · exact ⟨rfl, h.respuestas q r (hl ▸ List.mem_cons_self ..)⟩
    · exact h.recibos x hx

lemma deja (h : Canal s f) (p : Parte) (t : Resto) : Canal (s.deja p t) f := by
  cases t with
  | ret r => exact ⟨h.flujo, h.nodup, h.ocupado, h.respuestas, h.recibos⟩
  | ask e g => exact ⟨h.flujo, h.nodup, h.ocupado, h.respuestas, h.recibos⟩

end Canal

/-- What is left of a task goes on from the phase. -/
def Bajo (S : ℤ) : Option Resto → Fase → Prop
  | none, fase => fase = .libre
  | some t, fase => Keeps (habla S) t fase fun r fase => Promesa S r.2 ∧ fase = .libre

/-- The threads are in the phases `f`, and the channels hold what they wait for. -/
structure Cuadra (S : ℤ) (s : Conexion) (f : Parte → Fase) : Prop where
  promesa : Promesa S s.k
  hilo : ∀ p, Bajo S (s.resto p) (f p)
  canal : Canal s f

namespace Cuadra

variable {S : ℤ} {metadata : List Byte → MetadataProgram} {s s' s₁ : Conexion} {f : Parte → Fase}
  {p : Parte}

/-- The thread `p` goes on. -/
lemma deja (h : Cuadra S s f) {fase : Fase} {t : Resto}
    (hk : Keeps (habla S) t fase fun r fase => Promesa S r.2 ∧ fase = .libre)
    (hresto : s₁.resto = s.resto) (hs : s₁.k = s.k) (hc : Canal s₁ (Function.update f p fase)) :
    Cuadra S (s₁.deja p t) (Function.update f p fase) := by
  refine ⟨?_, fun q => ?_, hc.deja p t⟩
  · cases t with
    | ret r => exact hk.1
    | ask e g =>
      have hshow : Promesa S (e.vista.getD s₁.k) := by
        cases hv : e.vista with
        | none =>
          rw [Option.getD_none, hs]
          exact h.promesa
        | some k => exact hk.1.2 k hv
      exact hshow
  by_cases hq : q = p
  · subst hq
    rw [Function.update_self]
    cases t with
    | ret r =>
      have hnone : (s₁.deja q (.ret r)).resto q = none := Function.update_self ..
      rw [hnone]
      exact hk.2
    | ask e g =>
      have hsome : (s₁.deja q (.ask e g)).resto q = some (.ask e g) := Function.update_self ..
      rw [hsome]
      exact hk
  · have hne : (s₁.deja p t).resto q = s.resto q := by
      rw [← hresto]
      cases t <;> exact Function.update_of_ne hq _ _
    rw [Function.update_of_ne hq, hne]
    exact h.hilo q

/-- A thread that owes contents is about to send them. -/
lemma debeContenido (h : Cuadra S s f) (hp : f p = .contenido) : s.debeContenido S p = true := by
  have hilo := h.hilo p
  rw [hp] at hilo
  unfold Conexion.debeContenido
  cases hr : s.resto p with
  | none =>
    rw [hr] at hilo
    cases hilo
  | some t =>
    rw [hr] at hilo
    cases t with
    | ret r => cases hilo.2
    | ask e g =>
      cases e with
      | enviar soc m k =>
        obtain ⟨rfl, hd⟩ | ⟨-, hd⟩ := hilo.1.1
        · cases m with
          | comun men => exact beq_self_eq_true soc
          | _ => exact hd.elim
        · cases hd
      | recvComun soc k => exact absurd hilo.1.1.2 nofun
      | recvQuantumPcb soc k => exact hilo.1.1.elim
      | _ => exact absurd hilo.1.1 nofun

/-- A thread makes a step. -/
lemma sigue (h : Cuadra S s f) {men : MenComun} (ht : s.Turna (.sigue (S := S) p men) = true)
    (hs : s.hacer metadata (.sigue (S := S) p men) = some s') : ∃ f', Cuadra S s' f' := by
  simp only [Conexion.hacer] at hs
  split at hs
  · rename_i e g hr
    have hilo := h.hilo p
    rw [hr] at hilo
    obtain ⟨⟨r, s₁⟩, hresp, rfl⟩ := Option.map_eq_some_iff.1 hs
    -- after an event that is not on the connection nothing is owed, either
    have hotro : ∀ {r : e.Respuesta}, Promesa S (e.globales r) → (f p).tras S e = f p →
        Cuadra S (s.deja p (g r)) f := by
      intro r hk hfase
      have hdeja := h.deja (p := p) (hilo.2 r (f p) ⟨hk, hfase.symm⟩) rfl rfl
      rw [Function.update_eq_self] at hdeja
      exact hdeja h.canal
    cases e with
    | enviar soc m k' =>
      obtain ⟨rfl, rfl⟩ := by simpa [Conexion.responde] using hresp
      obtain ⟨rfl, hd⟩ | ⟨hne, -⟩ := hilo.1.1
      · have hg := hilo.2 s.k (.trasDecir m) ⟨h.promesa, (if_pos rfl).symm⟩
        simp only [if_pos]
        cases hfase : f p with
        | libre =>
          rw [hfase] at hd
          cases m with
          | seg m =>
            refine ⟨_, h.deja hg rfl rfl (h.canal.pide hfase hd fun q hq => ?_)⟩
            -- the other thread does not owe contents, or this one would have to wait
            have hdebe := h.debeContenido hq
            by_cases hqp : q = p
            · rw [hqp, hfase] at hq
              cases hq
            · have hotra : q = p.otra := by
                revert hqp
                cases p <;> cases q <;> first | exact fun h => absurd rfl h | exact fun _ => rfl
              rw [hotra] at hdebe
              simp [Conexion.Turna, hr, hdebe] at ht
          | _ => exact hd.elim
        | contenido =>
          rw [hfase] at hd
          cases m with
          | comun m => exact ⟨_, h.deja hg rfl rfl (h.canal.contenido hfase m)⟩
          | _ => exact hd.elim
        | espera =>
          rw [hfase] at hd
          cases m <;> exact hd.elim
      · rw [if_neg hne]
        exact ⟨f, hotro h.promesa (if_neg hne)⟩
    | recvComun soc k' =>
      obtain ⟨rfl, hfase⟩ := hilo.1.1
      simp only [Conexion.responde, if_pos] at hresp
      split at hresp
      · rename_i q r' l hl
        obtain ⟨rfl, rfl⟩ := by simpa using hresp
        have hhead : s.orden.head? = some p := by simpa [Conexion.Turna, hr] using ht
        exact ⟨_, h.deja (hilo.2 (r', s.k) .libre ⟨h.promesa, rfl⟩) rfl rfl
          (h.canal.recibe hfase hhead hl)⟩
      · cases hresp
    | recvQuantumPcb soc k' => cases hresp
    | cerrar soc k' =>
      obtain ⟨rfl, rfl⟩ := by simpa [Conexion.responde] using hresp
      exact ⟨f, hotro h.promesa rfl⟩
    | lock m k' =>
      obtain ⟨rfl, rfl⟩ := by simpa [Conexion.responde] using hresp
      exact ⟨f, hotro h.promesa rfl⟩
    | unlock m k' =>
      obtain ⟨rfl, rfl⟩ := by simpa [Conexion.responde] using hresp
      exact ⟨f, hotro h.promesa rfl⟩
    | decre x k' =>
      obtain ⟨rfl, rfl⟩ := by simpa [Conexion.responde] using hresp
      exact ⟨f, hotro h.promesa rfl⟩
    | decreIo disp k' =>
      obtain ⟨rfl, rfl⟩ := by simpa [Conexion.responde] using hresp
      exact ⟨f, hotro h.promesa rfl⟩
    | usleep n k' =>
      obtain ⟨rfl, rfl⟩ := by simpa [Conexion.responde] using hresp
      exact ⟨f, hotro h.promesa rfl⟩
    | caida => cases hresp
  · cases hs

/-- **One step.** -/
lemma hacer (h : Cuadra S s f) {a : Accion S} (ht : s.Turna a = true)
    (hs : s.hacer metadata a = some s') : ∃ f', Cuadra S s' f' := by
  cases a with
  | empieza t =>
    simp only [Conexion.hacer] at hs
    split at hs
    · rename_i hnone
      obtain rfl := Option.some.inj hs
      have hilo := h.hilo t.parte
      rw [Option.isNone_iff_eq_none.1 hnone] at hilo
      have hdeja := h.deja (p := t.parte)
        (safe_cuerpo (cuerpo_trata t : Trata S (t.cuerpo metadata)) h.promesa) rfl rfl
      have hfase : Function.update f t.parte .libre = f := by
        rw [← hilo]
        exact Function.update_eq_self ..
      rw [hfase] at hdeja
      exact ⟨f, hdeja h.canal⟩
    · cases hs
  | sigue p men => exact h.sigue ht hs
  | otros k =>
    obtain rfl := Option.some.inj hs
    exact ⟨f, k.2, h.hilo, h.canal.flujo, h.canal.nodup, h.canal.ocupado, h.canal.respuestas,
      h.canal.recibos⟩
  | umv e =>
    obtain ⟨hcanal, hresto, hk⟩ := h.canal.atiende hs
    exact ⟨f, hk ▸ h.promesa, fun p => hresto ▸ h.hilo p, hcanal⟩

lemma alInicio (k : Globales S) (umv : Umv.Estado) : Cuadra S (.alInicio k umv) fun _ => .libre := by
  refine ⟨k.2, fun _ => rfl, ⟨⟨[], none, .fin, rfl, fun _ => ⟨nofun, nofun⟩⟩, List.nodup_nil,
    fun p => ?_, fun p r hr => ?_, fun r hr => ?_⟩⟩
  · exact ⟨fun h => absurd h List.not_mem_nil, fun h => absurd rfl h⟩
  · exact absurd hr List.not_mem_nil
  · exact absurd hr List.not_mem_nil

end Cuadra

/-- **Every answer reaches the thread that has asked for it**, with a kind that goes with the request,
and the UMV takes every message for what it is, in every state of every run in which no thread gets
in the way of the other one. -/
theorem enOrden_run {S : ℤ} {metadata : List Byte → MetadataProgram} {k : Globales S}
    {umv : Umv.Estado} {acciones : List (Accion S)} {s : Conexion}
    (ha : Along (Conexion.hacer metadata) (fun s a => s.Turna a = true) acciones (.alInicio k umv))
    (hr : run (Conexion.hacer metadata) acciones (.alInicio k umv) = some s) : s.EnOrden := by
  obtain ⟨f, h⟩ := run_invariant (I := fun s : Conexion => ∃ f, Cuadra S s f)
    (fun _ _ _ ⟨f, h⟩ ht hs => h.hacer ht hs) ⟨_, Cuadra.alInicio k umv⟩ ha hr
  exact h.canal.enOrden

/-! ### Three runs -/

/-- A parser that finds nothing in a script. -/
def scriptVacio : List Byte → MetadataProgram := fun _ => ⟨0, 0, [], [], 0, 0, rfl⟩

/-- A kernel with the process 3, which has finished. -/
def conFinado : Globales 4 :=
  ⟨(inicial ⟨1, 2, 64, [], [], []⟩ 4).conCola .exit [some ⟨⟨0, 0, 0, 0, 0, 0, 3, 0, 0, 0⟩, 9, 0, -1⟩],
    rfl, by
      intro c x hx
      cases c with
      | exit =>
        obtain rfl := Option.some.inj (List.mem_singleton.1 hx)
        decide
      | _ => exact absurd hx List.not_mem_nil⟩

def unScript : Accion 4 := .empieza (.script 0 7 (crearMenComun codigoScript [97, 0]) (by decide))

def turnoUmv : Accion 4 := .umv ⟨fun _ => .insercion, fun _ _ => 0, 100⟩

/-- A step of a thread. -/
def turnoDe (p : Parte) : Accion 4 := .sigue p ⟨0, 0, []⟩

/-- `manejador_exit` up to its order to the UMV. -/
def pideDestruir : List (Accion 4) := .empieza .salida :: List.replicate 4 (turnoDe .exit)

/-- The UMV with a hundred bytes of memory and no segment. -/
def umvVacia : Umv.Estado := Umv.inicial (fun _ => 7) Umv.firstFitMode 100

/-- The PLP has its four segments and sends an `ESCRIBIR_SEG` with its contents, and `manejador_exit`
its order after them, before the UMV takes any of the three; both take the answers in that order. -/
def enSuOrden : List (Accion 4) :=
  unScript :: ((List.replicate 4 [turnoDe .plp, turnoUmv, turnoDe .plp]).flatten ++
    [turnoDe .plp, turnoDe .plp] ++ pideDestruir ++ List.replicate 3 turnoUmv ++
    [turnoDe .plp, turnoDe .exit])

theorem enOrden_enSuOrden :
    ∃ s, run (Conexion.hacer scriptVacio) enSuOrden (.alInicio conFinado umvVacia) = some s ∧
      s.recibos.length = 6 ∧ s.EnOrden := by
  have hrun : (run (Conexion.hacer scriptVacio) enSuOrden (.alInicio conFinado umvVacia)).map
      (fun s => s.recibos.length) = some 6 := by decide
  have ha : Along (Conexion.hacer scriptVacio) (fun s a => s.Turna a = true) enSuOrden
      (.alInicio conFinado umvVacia) := by decide
  obtain ⟨s, hs, hlen⟩ := Option.map_eq_some_iff.1 hrun
  exact ⟨s, hs, hlen, enOrden_run ha hs⟩

/-- The two requests again, but `manejador_exit` takes the first answer. -/
def primeroExit : List (Accion 4) :=
  unScript :: turnoDe .plp :: pideDestruir ++ [turnoUmv, turnoDe .exit]

/-- `manejador_exit` sends its order between an `ESCRIBIR_SEG` and its contents. -/
def enMedio : List (Accion 4) :=
  unScript :: ((List.replicate 4 [turnoDe .plp, turnoUmv, turnoDe .plp]).flatten ++
    turnoDe .plp :: pideDestruir ++ [turnoUmv])

/-- An answer goes to the wrong thread, and a `t_men_seg` is taken for the contents of a segment. -/
theorem no_enOrden :
    (∃ s, run (Conexion.hacer scriptVacio) primeroExit (.alInicio conFinado umvVacia) = some s ∧
      s.recibos.map (fun r => (r.parte, r.de, r.resp.tipo)) =
        [(Parte.exit, Parte.plp, (respMemSegCod : ℤ))] ∧ ¬ s.EnOrden) ∧
    ∃ s, run (Conexion.hacer scriptVacio) enMedio (.alInicio conFinado umvVacia) = some s ∧
      s.aUmv = [(.exit, .seg ⟨destrSegs, 3, 0⟩)] ∧ s.espera = some (.plp, 1) ∧ ¬ s.EnOrden := by
  have hprimero : (run (Conexion.hacer scriptVacio) primeroExit (.alInicio conFinado umvVacia)).map
      (fun s => s.recibos.map fun r => (r.parte, r.de, r.resp.tipo)) =
        some [(Parte.exit, Parte.plp, (respMemSegCod : ℤ))] := by decide
  have hmedio : (run (Conexion.hacer scriptVacio) enMedio (.alInicio conFinado umvVacia)).map
      (fun s => (s.aUmv, s.espera)) = some ([(.exit, .seg ⟨destrSegs, 3, 0⟩)], some (.plp, 1)) := by
    decide
  obtain ⟨s, hs, hr⟩ := Option.map_eq_some_iff.1 hprimero
  obtain ⟨s', hs', hm⟩ := Option.map_eq_some_iff.1 hmedio
  obtain ⟨haUmv, hespera⟩ := Prod.mk.inj hm
  refine ⟨⟨s, hs, hr, fun h => ?_⟩, s', hs', haUmv, hespera, fun h => ?_⟩
  · obtain ⟨r, hmem, hr⟩ : ∃ r ∈ s.recibos, (r.parte, r.de, r.resp.tipo) =
        (Parte.exit, Parte.plp, (respMemSegCod : ℤ)) := by
      rw [← List.mem_map, hr]
      exact List.mem_cons_self ..
    have hde := (h.recibos r hmem).1
    obtain ⟨hparte, hplp, -⟩ := by simpa using hr
    rw [hparte, hplp] at hde
    cases hde
  · obtain ⟨x, hx, -⟩ := (h.decodifica _ _ _ haUmv).2 _ _ hespera
    cases hx

end Ansisop.Kernel.Intercambio
