import Ansisop.Kernel.Conservation
import Ansisop.Cpu.Program

/-!
# A process that leaves a CPU with its context

The CPU gives a process back in three ways: at the end of its quantum, when a semaphore blocks it,
and when it waits for a device; and each time it also says whether it closes. The messages are those
of the functions of `cpu.c` (`Entrega.mensajes`), the kernel takes them with
`administrar_men_cpus`, and the pcb it then puts in a queue has the context the CPU sent: always,
but for the end of a quantum of a CPU that closes, where `fin_quantum` does not read the pcb.
-/

namespace Ansisop.Kernel

open Ansisop.Sockets Ansisop.Lib Hilo
open TipoDatos hiding signal wait

/-! ### What the CPU sends -/

/-- The ways a CPU gives a process back with its context. -/
inductive Entrega where
  | quantum
  | semaforo (nombre : List Byte)
  | dispositivo (nombre : List Byte) (tiempo : ℤ)
  deriving DecidableEq, Repr

namespace Entrega

/-- The function of the CPU that does it. -/
def cpu : Entrega → Cpu.Prog Unit
  | quantum => Cpu.salirPorQuantum
  | semaforo nombre => Cpu.wait nombre
  | dispositivo nombre tiempo => Cpu.entradaSalida nombre tiempo

/-- The queue the process goes to. -/
def cola : Entrega → Cola
  | quantum => .ready
  | _ => .block

/-- A kernel that answers `SEM_BLOQUEADO`, and writes down what it is sent; `cierra` says whether
the CPU closes. -/
def bloqueando (cierra : Bool) : (e : Cpu.Evento) → List Mensaje → Option (e.Respuesta × List Mensaje)
  | .enviarKernel men, l => some ((), l ++ [men])
  | .recvKernel, l => some (⟨0, semBloqueado, []⟩, l)
  | .quitSistema, l => some (!cierra, l)
  | _, _ => none

/-- The messages with which a CPU in the state `s` gives its process back. -/
def mensajes (e : Entrega) (cierra : Bool) (s : Cpu.Estado) : List Mensaje :=
  ((Dialog.interp (bloqueando cierra) (e.cpu s) []).map Prod.snd).getD []

/-- The message that says whether the CPU closes. -/
def aviso (tipo : TipoDatos) (cierra : Bool) : MenComun :=
  crearMenComun tipo (if cierra then [0] else [])

lemma mensajes_quantum (cierra : Bool) (s : Cpu.Estado) : quantum.mensajes cierra s =
    [.comun (aviso TipoDatos.finQuantum cierra), .quantumPcb ⟨pcbYQuantum, 0, s.pcb⟩] := by
  cases cierra <;> rfl

lemma mensajes_semaforo (nombre : List Byte) (cierra : Bool) (s : Cpu.Estado) :
    (semaforo nombre).mensajes cierra s =
      [.comun (crearMenComun TipoDatos.wait (cString nombre)),
        .quantumPcb ⟨pcbYQuantum, 0, s.pcb⟩, .comun (aviso TipoDatos.wait cierra)] := by
  cases cierra <;> rfl

lemma mensajes_dispositivo (nombre : List Byte) (tiempo : ℤ) (cierra : Bool) (s : Cpu.Estado) :
    (dispositivo nombre tiempo).mensajes cierra s =
      [.comun (crearMenComun ioId (cString nombre)),
        .comun (crearMenComun ioCantUnidades (cString (stringItoa tiempo))),
        .quantumPcb ⟨pcbYQuantum, 0, s.pcb⟩, .comun (aviso TipoDatos.wait cierra)] := by
  cases cierra <;> rfl

end Entrega

/-! ### What the kernel does -/

/-- The CPU of the socket `soc` runs the process `x`. -/
structure Ejecuta (k : Estado) (soc : ℤ) (cpu : Cpu) (x : PcbOtros) : Prop where
  lista : k.listaCpu.find? (fun unCpu => unCpu.socCpu == soc) = some cpu
  pcb : ∃ pre post, k.colas .exec = pre ++ some x :: post ∧
    (∀ y ∈ pre, ∃ z, y = some z ∧ z.pcb.id ≠ cpu.idProgExec) ∧ x.pcb.id = cpu.idProgExec

/-- The request is one the kernel stops the process for: the semaphore is taken, and the device
exists. -/
def Entrega.Detiene (k : Estado) : Entrega → Prop
  | quantum => True
  | semaforo nombre => ∃ clave sem, cadena (cString nombre) = some clave ∧
      k.diccSem clave = some sem ∧ -2 ^ 31 < sem.valor ∧ sem.valor ≤ 0
  | dispositivo nombre _ => ∃ disp, cadena (cString nombre) = some disp ∧
      (k.diccDispIo disp).isSome

section Handlers

variable {k : Estado} {soc : ℤ} {cpu : Cpu} {x : PcbOtros}

@[simp] lemma correr_deref {α : Type} (a : α) {io : Bandeja} :
    correr (deref (some a)) k io = some ((a, k), io) := rfl

@[simp] lemma correr_recvComun {men : MenComun} {l : List Mensaje} {out : List Salida} :
    correr (recvComun soc) k ⟨.comun men :: l, out⟩ = some ((men, k), ⟨l, out⟩) := rfl

@[simp] lemma correr_recvQuantumPcb {men : MenQuantumPcb} {l : List Mensaje} {out : List Salida} :
    correr (recvQuantumPcb soc) k ⟨.quantumPcb men :: l, out⟩ = some ((men, k), ⟨l, out⟩) := rfl

lemma correr_entero {y : ℤ} {io : Bandeja} (h₁ : -2 ^ 31 ≤ y) (h₂ : y < 2 ^ 31) :
    correr (entero y) k io = some ((y, k), io) := by
  rw [entero, if_pos ⟨h₁, h₂⟩]
  rfl

lemma cadena_cString (l : List Byte) : ∃ s, cadena (cString l) = some s :=
  ⟨_, if_pos (by simp [cString])⟩

/-- A search in the queue of execution that finds the process. -/
lemma getPcbOtrosExec_found {id : ℤ} {pre post : List (Option PcbOtros)} (io : Bandeja)
    (hq : k.colas .exec = pre ++ some x :: post)
    (hpre : ∀ y ∈ pre, ∃ z, y = some z ∧ z.pcb.id ≠ id) (hx : x.pcb.id = id) :
    correr (getPcbOtrosExec id) k io = some ((some x, k.conCola .exec (post ++ pre)), io) := by
  have hfind : rotateFind (Option.map fun y : PcbOtros => id == y.pcb.id) (k.colas .exec).length
      (k.colas .exec) = some (some (some x), post ++ pre) := by
    rw [hq, List.length_append, List.length_cons, ← Nat.add_assoc, Nat.add_right_comm]
    refine rotateFind_found post.length (fun y hy => ?_) (by simp [hx])
    obtain ⟨z, rfl, hz⟩ := hpre y hy
    simpa using hz.symm
  simp only [getPcbOtrosExec, queueRotar, correr_bind, correr_lock, correr_get, Option.bind_some,
    hfind, correr_deref, correr_modify]
  rfl

lemma actualizarPcbYBloq_found {m : MenQuantumPcb} (cierre : MenComun) (l : List Mensaje)
    (out : List Salida) {pre post : List (Option PcbOtros)}
    (hq : k.colas .exec = pre ++ some x :: post)
    (hpre : ∀ y ∈ pre, ∃ z, y = some z ∧ z.pcb.id ≠ cpu.idProgExec)
    (hx : x.pcb.id = cpu.idProgExec) :
    ∃ k' out', correr (actualizarPcbYBloq cpu) k ⟨.quantumPcb m :: .comun cierre :: l, out⟩ =
        some ((x.pcb.id, k'), ⟨l, out'⟩) ∧
      k'.colas .block = k.colas .block ++ [some { x with pcb := actualizar x.pcb m.pcb }] := by
  simp only [actualizarPcbYBloq, recvActualizarPcb, correr_bind, correr_pure, Option.bind_some,
    getPcbOtrosExec_found _ hq hpre hx, correr_deref, correr_recvQuantumPcb, correr_recvComun]
  by_cases hc : cierre.tamDato = 0
  · simp only [if_pos hc]
    exact ⟨_, _, rfl, rfl⟩
  · simp only [if_neg hc]
    exact ⟨_, _, rfl, rfl⟩

/-- The record of the CPU taken off the list. -/
def sinCpu (k : Estado) (soc : ℤ) : Estado :=
  k.conCpus (k.listaCpu.eraseP fun unCpu => unCpu.socCpu == soc)

/-- `fin_quantum` on the messages of a CPU: a CPU that closes gets its process pushed as it was. -/
lemma finQuantum_found {m : MenQuantumPcb} (out : List Salida) (hx : Ejecuta k soc cpu x)
    (cierra : Bool) :
    ∃ k' io', correr (finQuantum soc (Entrega.aviso TipoDatos.finQuantum cierra)) k
        ⟨[.quantumPcb m], out⟩ = some (((), k'), io') ∧
      k'.colas .ready = k.colas .ready ++
        [some (if cierra then x else { x with pcb := actualizar x.pcb m.pcb })] := by
  obtain ⟨hc, pre, post, hq, hpre, hid⟩ := hx
  cases cierra with
  | true =>
    have hexec := fun io => getPcbOtrosExec_found (k := (sinCpu k soc).soltarSoc soc) io
      hq hpre hid
    simp only [sinCpu, Estado.soltarSoc] at hexec
    simp only [finQuantum, if_pos (show (Entrega.aviso TipoDatos.finQuantum true).tamDato = 1 from rfl),
      getCpuSocCpuRemove, correr_bind, correr_lock, correr_listaCpuRemove, hc, Option.bind_some,
      correr_fdClrCpus, correr_socketCerrar, correr_deref, hexec]
    exact ⟨_, _, rfl, rfl⟩
  | false =>
    have hexec := fun io => getPcbOtrosExec_found (k := sinCpu k soc) io hq hpre hid
    simp only [sinCpu] at hexec
    simp only [finQuantum,
      if_neg (show ¬ (Entrega.aviso TipoDatos.finQuantum false).tamDato = 1 by decide),
      getCpuSocCpuRemove, correr_bind, correr_lock, correr_listaCpuRemove, hc, Option.bind_some,
      correr_deref, hexec, recvActualizarPcb, correr_recvQuantumPcb, correr_pure]
    exact ⟨_, _, rfl, rfl⟩

lemma wait_found {m : MenQuantumPcb} {nombre : List Byte} (cierre : MenComun) (out : List Salida)
    (hx : Ejecuta k soc cpu x) (hd : (Entrega.semaforo nombre).Detiene k) :
    ∃ k' io', correr (wait soc (crearMenComun TipoDatos.wait (cString nombre))) k
        ⟨[.quantumPcb m, .comun cierre], out⟩ = some (((), k'), io') ∧
      k'.colas .block = k.colas .block ++ [some { x with pcb := actualizar x.pcb m.pcb }] := by
  obtain ⟨clave, sem, hclave, hsem, hmin, hmax⟩ := hd
  obtain ⟨hc, pre, post, hq, hpre, hid⟩ := hx
  obtain ⟨k₁, out₁, hbloq, hblock⟩ := actualizarPcbYBloq_found
    (k := sinCpu (k.conSemaforo clave fun s => { s with valor := sem.valor - 1 }) soc)
    (m := m) cierre [] (out ++ [.enviado soc (.comun (crearMenComun semBloqueado []))]) hq hpre hid
  simp only [sinCpu, Estado.conSemaforo_listaCpu, crearMenComun] at hbloq
  simp only [wait, correr_bind, correr_lock, Option.bind_some, crearMenComun, hclave, correr_deref,
    correr_get, hsem, correr_entero (show -2 ^ 31 ≤ sem.valor - 1 by omega)
      (show sem.valor - 1 < 2 ^ 31 by omega), correr_modificarSem, if_neg (not_lt.2 hmax),
    getCpuSocCpuRemove, correr_listaCpuRemove, correr_enviarMenComun, Estado.conSemaforo_listaCpu, hc,
    hbloq]
  exact ⟨_, _, rfl, hblock⟩

lemma enviarIo_found {m : MenQuantumPcb} {nombre : List Byte} {tiempo : ℤ} (cierre : MenComun)
    (out : List Salida) (hx : Ejecuta k soc cpu x)
    (hd : (Entrega.dispositivo nombre tiempo).Detiene k) :
    ∃ k' io', correr (enviarIo soc (crearMenComun ioId (cString nombre))) k
        ⟨[.comun (crearMenComun ioCantUnidades (cString (stringItoa tiempo))), .quantumPcb m,
          .comun cierre], out⟩ = some (((), k'), io') ∧
      k'.colas .block = k.colas .block ++ [some { x with pcb := actualizar x.pcb m.pcb }] := by
  obtain ⟨disp, hdisp, hio⟩ := hd
  obtain ⟨d, hd⟩ := Option.isSome_iff_exists.1 hio
  obtain ⟨unidades, hu⟩ := cadena_cString (stringItoa tiempo)
  obtain ⟨hc, pre, post, hq, hpre, hid⟩ := hx
  obtain ⟨k₁, out₁, hbloq, hblock⟩ := actualizarPcbYBloq_found
    (k := (sinCpu k soc).conIo disp fun io =>
      { io with procesos := io.procesos ++ [⟨cpu.idProgExec, atoi unidades⟩] })
    (m := m) cierre [] out hq hpre hid
  simp only [sinCpu] at hbloq
  simp only [enviarIo, correr_bind, correr_lock, Option.bind_some, crearMenComun, hdisp, hu,
    correr_deref, correr_get, getCpuSocCpuRemove, correr_listaCpuRemove, correr_recvComun, hc,
    Estado.conCpus_diccDispIo, hd, correr_modificarIo, hbloq]
  exact ⟨_, _, rfl, hblock⟩

end Handlers

/-! ### The context is kept -/

/-- The kernel takes the messages with which the CPU in the state `s` gives back the process `x`,
and queues the process with the context of the pcb sent; the rest of it is as it was. -/
def Conserva (e : Entrega) (cierra : Bool) (s : Cpu.Estado) (k : Estado) (soc : ℤ) (x : PcbOtros) :
    Prop :=
  ∃ k' io', correr (administrarMenCpus soc) k ⟨e.mensajes cierra s, []⟩ = some (((), k'), io') ∧
    k'.colas e.cola = k.colas e.cola ++
      [some { x with
        pcb := { x.pcb with
          cantVarContActual := s.pcb.cantVarContActual
          dirContActual := s.pcb.dirContActual
          programCounter := s.pcb.programCounter } }]

/-- **When no progress is lost**: unless it is the end of a quantum of a CPU that closes, or the
process has not moved since it was dispatched. -/
theorem conserva_iff {e : Entrega} {cierra : Bool} {s : Cpu.Estado} {k : Estado} {soc : ℤ}
    {cpu : Cpu} {x : PcbOtros} (hx : Ejecuta k soc cpu x) (hd : e.Detiene k) :
    Conserva e cierra s k soc x ↔ (e = .quantum → cierra = true →
      x.pcb.cantVarContActual = s.pcb.cantVarContActual ∧
      x.pcb.dirContActual = s.pcb.dirContActual ∧
      x.pcb.programCounter = s.pcb.programCounter) := by
  cases e with
  | quantum =>
    obtain ⟨k', io', h, hq⟩ := finQuantum_found (m := ⟨pcbYQuantum, 0, s.pcb⟩) [] hx cierra
    have hrun : correr (administrarMenCpus soc) k ⟨Entrega.quantum.mensajes cierra s, []⟩ =
        some (((), k'), io') := by
      rw [Entrega.mensajes_quantum]
      exact h
    refine ⟨fun ⟨k₁, io₁, h₁, hq₁⟩ _ hc => ?_, fun hcond => ⟨k', io', hrun, hq.trans ?_⟩⟩
    · obtain ⟨⟨-, rfl⟩, -⟩ := by simpa using hrun.symm.trans h₁
      subst hc
      have hx := List.append_cancel_left (hq.symm.trans hq₁)
      simpa using congrArg (fun l => l.map fun y => y.map fun y : PcbOtros =>
        (y.pcb.cantVarContActual, y.pcb.dirContActual, y.pcb.programCounter)) hx
    · cases cierra with
      | false => rfl
      | true =>
        obtain ⟨h₁, h₂, h₃⟩ := hcond rfl rfl
        rw [if_pos rfl, ← h₁, ← h₂, ← h₃]
        rfl
  | semaforo nombre =>
    refine ⟨fun _ h => absurd h (by simp), fun _ => ?_⟩
    obtain ⟨k', io', h, hq⟩ := wait_found (m := ⟨pcbYQuantum, 0, s.pcb⟩)
      (Entrega.aviso TipoDatos.wait cierra) [] hx hd
    refine ⟨k', io', ?_, hq⟩
    rw [Entrega.mensajes_semaforo]
    exact h
  | dispositivo nombre tiempo =>
    refine ⟨fun _ h => absurd h (by simp), fun _ => ?_⟩
    obtain ⟨k', io', h, hq⟩ := enviarIo_found (m := ⟨pcbYQuantum, 0, s.pcb⟩)
      (Entrega.aviso TipoDatos.wait cierra) [] hx hd
    refine ⟨k', io', ?_, hq⟩
    rw [Entrega.mensajes_dispositivo]
    exact h

/-! ### A process on the CPU of the socket 5 -/

/-- The process of `llegada` as it was dispatched. -/
def recienLlegado : PcbOtros := ⟨⟨0, 400, 300, 200, 100, 400, 1, 0, 0, 0⟩, 7, 1, -1⟩

/-- Its CPU after `n` instructions. -/
def trasInstrucciones (n : ℤ) : Cpu.Estado :=
  ⟨{ recienLlegado.pcb with programCounter := n }, 2, .nulo, false, false, fun _ => none⟩

/-- A CPU that stays gives the process back with the instruction counted. -/
theorem conserva_trasInstruccion : ∃ k,
    run (Paso.hacer unaInstruccion) vidaHastaExec (inicial unLugar 4) = some k ∧
      Ejecuta k 5 ⟨5, 7, 1⟩ recienLlegado ∧
      Conserva .quantum false (trasInstrucciones 1) k 5 recienLlegado := by
  refine ⟨_, rfl, ⟨rfl, [], [], rfl, by simp, rfl⟩, ?_⟩
  exact (conserva_iff (e := .quantum) ⟨rfl, [], [], rfl, by simp, rfl⟩ trivial).2
    fun _ h => absurd h (by simp)

/-- A CPU that closes has executed an instruction; the pcb that goes to the ready ones still has it
to come. -/
theorem no_conserva_trasInstruccion : ∃ k k' io',
    run (Paso.hacer unaInstruccion) vidaHastaExec (inicial unLugar 4) = some k ∧
      Ejecuta k 5 ⟨5, 7, 1⟩ recienLlegado ∧
      correr (administrarMenCpus 5) k ⟨Entrega.quantum.mensajes true (trasInstrucciones 1), []⟩ =
        some (((), k'), io') ∧
      k'.colas .ready = [some recienLlegado] ∧
      ¬ Conserva .quantum true (trasInstrucciones 1) k 5 recienLlegado := by
  refine ⟨_, _, _, rfl, ⟨rfl, [], [], rfl, by simp, rfl⟩, rfl, rfl, ?_⟩
  rintro ⟨k', io', h, hq⟩
  have hready : some [some recienLlegado] = some (k'.colas .ready) :=
    congrArg (Option.map fun r : (Unit × Estado) × Bandeja => r.1.2.colas .ready) h
  rw [show k'.colas .ready = _ from hq] at hready
  exact absurd hready (by decide)

end Ansisop.Kernel
