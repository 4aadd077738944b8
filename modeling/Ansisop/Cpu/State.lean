import Ansisop.Sockets.Text
import Ansisop.Lib.Monitor

/-!
The globals of a CPU, the calls of the AnSISOP parser, and the operations its functions are made of.

A function of the CPU is a program (`Lib.Dialog`) over the globals: it talks to the kernel and to
the UMV, and asks the parser library. The calls of a primitive by the parser and the calls of the
parser by `main` are shown as events too.
-/

namespace Ansisop.Cpu

open Ansisop.Sockets Ansisop.Lib

/-! ### Primitives -/

/-- A call of a primitive by the parser. -/
inductive Primitiva where
  | definirVariable (idVar : Byte)
  | obtenerPosicionVariable (identificadorVariable : Byte)
  | dereferenciar (direccionVariable : ℤ)
  | asignar (direccionVariable valor : ℤ)
  | obtenerValorCompartida (compartida : List Byte)
  | asignarValorCompartida (compartida : List Byte) (valor : ℤ)
  | irAlLabel (nombreEtiqueta : List Byte)
  | llamarSinRetorno (etiqueta : List Byte)
  | llamarConRetorno (etiqueta : List Byte) (dondeRetornar : ℤ)
  | finalizar
  | retornar (retorno : ℤ)
  | imprimir (valorMostrar : ℤ)
  | imprimirTexto (texto : List Byte)
  | entradaSalida (dispositivo : List Byte) (tiempo : ℤ)
  | wait (identificadorSemaforo : List Byte)
  | signal (identificadorSemaforo : List Byte)
  deriving DecidableEq, Repr

/-- What a primitive gives back to the parser. -/
@[reducible] def Primitiva.Valor : Primitiva → Type
  | definirVariable _ | obtenerPosicionVariable _ | dereferenciar _ | obtenerValorCompartida _
  | asignarValorCompartida _ _ => ℤ
  | _ => Unit

/-- What the parser does with a line: the primitives it calls, each after the values of those
before it. -/
abbrev Analisis := Dialog Primitiva Primitiva.Valor Unit

/-! ### Globals -/

/-- What the global `etiquetas` points to. -/
inductive Etiquetas where
  | nulo
  | datos (l : List Byte)
  | liberado
  deriving DecidableEq, Repr

/-- The globals of `cpu.c` that change during a dispatch. -/
structure Estado where
  pcb : Pcb
  quantumMax : ℤ
  etiquetas : Etiquetas
  fueFinEjecucion : Bool
  huboSegFault : Bool
  dicVariables : Byte → Option ℤ

namespace Estado

@[simps] def conPcb (s : Estado) (pcb : Pcb) : Estado := { s with pcb := pcb }
@[simps] def conEtiquetas (s : Estado) (e : Etiquetas) : Estado := { s with etiquetas := e }
@[simps] def conFin (s : Estado) (b : Bool) : Estado := { s with fueFinEjecucion := b }
@[simps] def conSegFault (s : Estado) (b : Bool) : Estado := { s with huboSegFault := b }
@[simps] def conVariables (s : Estado) (d : Byte → Option ℤ) : Estado := { s with dicVariables := d }

end Estado

/-! ### Events -/

/-- The actions of a CPU that others can see. A request to the UMV is one with its answer. -/
inductive Evento where
  | enviarKernel (men : Mensaje)
  | recvKernel
  | enviarUmv (men : MenCpuUmv)
  | pedirUmv (men : MenCpuUmv)
  | quitSistema
  | buscarEtiqueta (nombre : List Byte) (etiquetas : Etiquetas) (tam : ℤ)
  | basura (n : ℕ)
  | analizar (linea : Option (List Byte))
  | primitiva (p : Primitiva) (s : Estado)
  | caida

/-- What an action gives back. -/
@[reducible] def Evento.Respuesta : Evento → Type
  | recvKernel => MenComun
  | pedirUmv _ => MenComun
  | quitSistema => Bool
  | buscarEtiqueta _ _ _ => ℤ
  | basura n => Fin n → Byte
  | caida => Empty
  | _ => Unit

/-- An action with what it gave back. -/
abbrev Suceso := Σ e : Evento, e.Respuesta

/-- A function of the CPU with a result in `α`. -/
abbrev Prog := StateT Estado (Dialog Evento Evento.Respuesta)

namespace Prog

variable {α : Type}

/-- The event `e` and its answer. -/
def hacer (e : Evento) : Prog e.Respuesta := fun s => .ask e fun r => .ret (r, s)

/-- `socket_send` of a message to the kernel. -/
def enviarKernel (men : Mensaje) : Prog Unit := hacer (.enviarKernel men)

/-- `enviar_men_comun_destruir` on `soc_kernel`. -/
def enviarMenComun (tipo : ℤ) (dato : List Byte) : Prog Unit :=
  enviarKernel (.comun (crearMenComun tipo dato))

/-- `socket_recv_comun` on `soc_kernel`. -/
def recvKernel : Prog MenComun := hacer .recvKernel

/-- `enviar_men_cpu_umv_destruir`, and the `socket_recv_comun` on `soc_umv` that follows it
everywhere but in `cambio_PA`. -/
def pedirUmv (tipo base offset tam : ℤ) (buffer : List Byte) : Prog MenComun :=
  hacer (.pedirUmv ⟨tipo, base, offset, tam, buffer⟩)

/-- The global `quit_sistema`, which the signal handler changes: whether it is not zero. -/
def quitSistema : Prog Bool := hacer .quitSistema

/-- `metadata_buscar_etiqueta`, of the parser library. -/
def metadataBuscarEtiqueta (nombre : List Byte) : Prog ℤ := do
  let s ← get
  hacer (.buscarEtiqueta nombre s.etiquetas s.pcb.tamIndiceEtiquetas)

/-- Bytes that have not been written. -/
def basura (n : ℕ) : Prog (List Byte) := List.ofFn <$> hacer (.basura n)

/-- The process ends by a signal of the system, or does what C leaves undefined. -/
def caida : Prog α := fun _ => .ask .caida nofun

/-- The value a pointer leads to. -/
def deref (a : Option α) : Prog α := a.elim caida pure

/-- The value of a signed expression, undefined when no `int32_t` holds it. -/
def entero (x : ℤ) : Prog ℤ := if -2 ^ 31 ≤ x ∧ x < 2 ^ 31 then pure x else caida

/-- `memcpy` of `n` bytes out of a payload. -/
def memcpy (dato : List Byte) (n : ℕ) : Prog (List Byte) :=
  if n ≤ dato.length then pure (dato.take n) else caida

def modificarPcb (f : Pcb → Pcb) : Prog Unit := modify fun s => s.conPcb (f s.pcb)

end Prog

end Ansisop.Cpu
