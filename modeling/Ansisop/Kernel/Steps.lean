import Ansisop.Kernel.Specs
import Ansisop.Lib.Run

/-!
The runs of the kernel: its configuration, the state it starts in, and the calls of its threads as
atomic steps in any order.

A request to a device is served in two steps, so that others may come between the request being
taken and the process being woken; the two in a row are one turn of `manejador_IO`.
-/

namespace Ansisop.Kernel

open Ansisop.Sockets Ansisop.Lib Hilo

/-! ### Start -/

/-- What the kernel reads from its configuration file. -/
structure Config where
  multiprogramacion : ℕ
  quantum : ℤ
  tamanioStack : ℤ
  semaforos : List (List Byte × ℤ)
  dispositivos : List (List Byte × ℤ)
  variablesGlobales : List (List Byte)

/-- A dictionary after the entries have been put into it, the first one first. -/
def dictionaryPut {β : Type} (l : List (List Byte × β)) : List Byte → Option β :=
  l.foldl (fun d e => Function.update d e.1 (some e.2)) fun _ => none

/-- `levantar_config` and `crear_inicializar_estructuras`. -/
def inicial (config : Config) (socUmv : ℤ) : Estado where
  colas _ := []
  listaCpu := []
  sem
    | .cantMultiprog => config.multiprogramacion
    | _ => 0
  diccSem := dictionaryPut (config.semaforos.map fun e => (e.1, ⟨e.2, []⟩))
  diccDispIo := dictionaryPut (config.dispositivos.map fun e => (e.1, ⟨e.2, [], 0, none⟩))
  diccVar := dictionaryPut (config.variablesGlobales.map fun e => (e, 0))
  conjSocProgs := ∅
  conjSocCpus := ∅
  socUmv := socUmv
  contadorPrograma := 0
  quantumMax := config.quantum
  tamanioStack := config.tamanioStack
  vivos := []

/-! ### Steps -/

/-- The calls of the threads. `entrada` are the messages the call receives on its way, the message
that starts a CPU handler first. -/
inductive Paso where
  | progCerrado (soc : ℤ)
  | newScript (basura soc : ℤ) (men : MenComun) (entrada : List Mensaje)
  | newCpu (soc : ℤ)
  | menCpu (soc : ℤ) (entrada : List Mensaje)
  | newReady
  | readyExec
  | exit (entrada : List Mensaje)
  | ioTomar (disp : List Byte)
  | ioServir (disp : List Byte)

namespace Paso

variable (metadata : List Byte → MetadataProgram)

def hilo : Paso → Hilo Unit
  | progCerrado soc => administrarProgCerrado soc
  | newScript basura soc men _ => administrarNewScript metadata basura soc men
  | newCpu soc => ingresarNewCpu soc
  | menCpu soc _ => administrarMenCpus soc
  | newReady => manejadorNewReady
  | readyExec => manejadorReadyExec
  | exit _ => manejadorExit
  | ioTomar disp => manejadorIOTomar disp
  | ioServir disp => manejadorIOServir disp

def entrada : Paso → List Mensaje
  | newScript _ _ _ entrada => entrada
  | menCpu _ entrada => entrada
  | exit entrada => entrada
  | _ => []

/-- The globals after the step. -/
def hacer (p : Paso) (k : Estado) : Option Estado :=
  (correr (p.hilo metadata) k ⟨p.entrada, []⟩).map fun r => r.1.2

end Paso

/-- A CPU of the list that runs a process has this socket. -/
def Ocupada (k : Estado) (soc : ℤ) : Prop :=
  ∃ cpu, k.listaCpu.find? (fun unCpu => unCpu.socCpu == soc) = some cpu ∧ cpu.idProgExec ≠ 0

/-- The message is the end of a quantum of a CPU that closes. -/
def EsCierre (men : MenComun) : Prop := men.tipo = TipoDatos.finQuantum ∧ men.tamDato = 1

/-- What the outside promises. A descriptor of a connection is none of the three standard ones; a
program connection brings one script, and a new CPU has a descriptor of its own. A CPU that says
it closes at the end of a quantum is one that runs a process. -/
def Admitido (k : Estado) : Paso → Prop
  | .progCerrado soc => 3 ≤ soc
  | .newScript _ soc _ _ => 3 ≤ soc ∧ ∀ c, ∀ x, some x ∈ k.colas c → x.nSocket ≠ soc
  | .newCpu soc => ∀ cpu ∈ k.listaCpu, cpu.socCpu ≠ soc
  | .menCpu soc entrada => ∀ men l, entrada = .comun men :: l → EsCierre men → Ocupada k soc
  | _ => True

/-! ### Promises can be decided -/

instance : Fintype Cola where
  elems := {.new, .ready, .exec, .block, .exit}
  complete c := by cases c <;> decide

/-- A property of the processes of a queue. -/
instance decidableCola {q : List (Option PcbOtros)} {P : PcbOtros → Prop} [DecidablePred P] :
    Decidable (∀ x, some x ∈ q → P x) :=
  decidable_of_iff (∀ y ∈ q, ∀ x ∈ y, P x)
    ⟨fun h x hx => h _ hx x rfl, fun h _ hy x hx => h x (Option.mem_def.1 hx ▸ hy)⟩

instance (k : Estado) (soc : ℤ) : Decidable (Ocupada k soc) :=
  match h : k.listaCpu.find? (fun unCpu => unCpu.socCpu == soc) with
  | none => isFalse fun ⟨_, hc, _⟩ => absurd (h.symm.trans hc) (by simp)
  | some cpu => decidable_of_iff (cpu.idProgExec ≠ 0)
      ⟨fun h0 => ⟨cpu, h, h0⟩, fun ⟨_, hc, h0⟩ => Option.some.inj (h.symm.trans hc) ▸ h0⟩

instance (men : MenComun) : Decidable (EsCierre men) := inferInstanceAs (Decidable (_ ∧ _))

instance (k : Estado) : (p : Paso) → Decidable (Admitido k p)
  | .progCerrado soc => inferInstanceAs (Decidable (3 ≤ soc))
  | .newScript _ soc _ _ => inferInstanceAs
      (Decidable (3 ≤ soc ∧ ∀ c, ∀ x, some x ∈ k.colas c → x.nSocket ≠ soc))
  | .newCpu soc => inferInstanceAs (Decidable (∀ cpu ∈ k.listaCpu, cpu.socCpu ≠ soc))
  | .menCpu soc (.comun men :: _) => decidable_of_iff (EsCierre men → Ocupada k soc)
      ⟨fun h _ _ heq hc => h (by cases heq; exact hc), fun h => h men _ rfl⟩
  | .menCpu _ [] => isTrue (by rintro _ _ ⟨⟩)
  | .menCpu _ (.seg _ :: _) => isTrue (by rintro _ _ ⟨⟩)
  | .menCpu _ (.quantumPcb _ :: _) => isTrue (by rintro _ _ ⟨⟩)
  | .menCpu _ (.cpuUmv _ :: _) => isTrue (by rintro _ _ ⟨⟩)
  | .newReady | .readyExec | .exit _ | .ioTomar _ | .ioServir _ => isTrue trivial

end Ansisop.Kernel
