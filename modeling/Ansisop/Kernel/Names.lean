import Ansisop.Kernel.Shared

/-!
# Names that are not defined

What becomes of a primitive that uses a name there is nothing of: a variable of the script, a label,
a shared variable, a semaphore or a device. For the shared variables and for `wait` the kernel ends
the process and tells the CPU, which leaves it. With `signal` the CPU goes on; a label ends the
process on the CPU only, or not at all; a variable brings the CPU down, and a device the kernel.
-/

namespace Ansisop.Kernel

open Ansisop.Sockets Ansisop.Lib Hilo
open TipoDatos hiding signal wait

/-! ### Uses -/

/-- The primitive uses a name that stands for nothing in the state of the CPU and the kernel. -/
def Indefinido (stringTrim : List Byte → List Byte) (e : Entorno) (s : Cpu.Estado) (k : Estado) :
    Cpu.Primitiva → Prop
  | .obtenerPosicionVariable c => s.dicVariables (Cpu.esNumeroPasarChar c) = none
  | .irAlLabel x =>
    e.buscarEtiqueta (stringTrim x) s.etiquetas s.pcb.tamIndiceEtiquetas = -1
  | .llamarSinRetorno x => e.buscarEtiqueta x s.etiquetas s.pcb.tamIndiceEtiquetas = -1
  | .llamarConRetorno x _ => e.buscarEtiqueta x s.etiquetas s.pcb.tamIndiceEtiquetas = -1
  | .obtenerValorCompartida x => 0 ∉ x ∧ k.diccVar x = none
  | .asignarValorCompartida x _ => 0 ∉ x ∧ k.diccVar x = none
  | .wait x => 0 ∉ x ∧ k.diccSem x = none
  | .signal x => 0 ∉ x ∧ k.diccSem x = none
  | .entradaSalida x _ => 0 ∉ x ∧ k.diccDispIo x = none
  | _ => False

/-- The ways in which a process ends badly. -/
def EsError (tipo : ℤ) : Prop :=
  tipo = segmenFault ∨ tipo = varInex ∨ tipo = semInex ∨ tipo = memOverload ∨ tipo = cpuDesconec

/-- The process of a CPU has ended with an error, the CPU is free, and all the rest is as it was. -/
structure SoloTermina (k : Estado) (soc : ℤ) (cpu : Cpu) (x : PcbOtros) (tipo : ℤ) (k' : Estado) :
    Prop where
  registro : k.listaCpu.find? (fun unCpu => unCpu.socCpu == soc) = some cpu
  proceso : x.pcb.id = cpu.idProgExec
  error : EsError tipo
  exec : (k.colas .exec).Perm (some x :: k'.colas .exec)
  exit : k'.colas .exit = k.colas .exit ++ [some { x with tipoFinEjecucion := tipo }]
  otras : ∀ c, c ≠ .exec → c ≠ .exit → k'.colas c = k.colas c
  libre : k'.listaCpu = (k.listaCpu.eraseP fun unCpu => unCpu.socCpu == soc) ++
    [{ cpu with idProgExec := 0, socProg := 0 }]
  diccSem : k'.diccSem = k.diccSem
  diccVar : k'.diccVar = k.diccVar
  diccDispIo : k'.diccDispIo = k.diccDispIo

/-- The process ends, the CPU leaves it, and that is all: so it is in every order of steps and
whatever else answers the CPU, as long as the name stands for nothing. -/
def Resiste (stringTrim : List Byte → List Byte) (soc : ℤ) (s : Cpu.Estado) (k : Estado)
    (p : Cpu.Primitiva) : Prop :=
  ∀ e, Indefinido stringTrim e s k p → ∃ v s' k' salida cpu x tipo,
    Ends (Avanza e soc) (inicioDe (p.ejecutar stringTrim) s k) (finDe v s' k' salida) ∧
      s'.fueFinEjecucion = true ∧ SoloTermina k soc cpu x tipo k'

/-- The names whose use is provided for: those of shared variables and the semaphores of `wait`, for
a CPU whose record names a process in execution; and those of `signal` when the CPU is leaving the
process anyway. -/
def Previsto (soc : ℤ) (s : Cpu.Estado) (k : Estado) : Cpu.Primitiva → Prop
  | .obtenerValorCompartida _ | .asignarValorCompartida _ _ | .wait _ => k.Ejecutando soc
  | .signal _ => k.Ejecutando soc ∧ s.fueFinEjecucion = true
  | _ => False

section Uses

variable {stringTrim : List Byte → List Byte} (e : Entorno) (soc : ℤ) {x : List Byte}
  (s : Cpu.Estado) {k k' : Estado} {tipo : ℤ}

/-- What `llamada_erronea` does is what is asked for. -/
lemma Estado.Expulsa.soloTermina (he : k.Expulsa tipo soc k') (ht : EsError tipo) :
    ∃ cpu x, SoloTermina k soc cpu x tipo k' := by
  obtain ⟨cpu, x, k₁, ⟨k₀, ⟨hf, rfl⟩, pre, post, hq, -, hx, rfl⟩, rfl⟩ := he
  refine ⟨cpu, x, hf, ?_, ht, ?_, rfl, ?_, rfl, rfl, rfl, rfl⟩
  · have hid : cpu.idProgExec = x.pcb.id := by simpa using hx
    exact hid.symm
  · rw [show k.colas .exec = _ from hq]
    exact (List.perm_middle.trans (List.perm_append_comm.cons (some x)))
  · intro c hexec hexit
    simp [Estado.encolarExit, Estado.volverCpu, Estado.agregarCpu, Estado.encolar, Estado.sumar,
      hexec, hexit]

/-! ### Semaphores -/

/-- `wait` of the CPU after its message. -/
def trasWait (menResp : MenComun) : Cpu.Prog Unit := do
  if menResp.tipo = semOk then pure ()
  else if menResp.tipo = semBloqueado then
    modify fun s => s.conFin true
    Cpu.enviarPcb
    Cpu.avisarCierre TipoDatos.wait
  else if menResp.tipo = semInex then modify fun s => s.conFin true
  else pure ()

/-- `mi_signal` of the CPU after its message. -/
def trasSignal (respuesta : MenComun) : Cpu.Prog Unit := do
  if respuesta.tipo = semInex then Cpu.finalizarContexto semInex

lemma trasWait_inex : trasWait (crearMenComun semInex []) s = .ret ((), s.conFin true) := by
  simp only [trasWait, crearMenComun, val_inj, reduceCtorEq]
  rfl

/-- The CPU goes on as if nothing had happened. -/
lemma trasSignal_inex : trasSignal (crearMenComun semInex []) s = .ret ((), s) := by
  simp only [trasSignal, crearMenComun, Cpu.finalizarContexto, val_inj, reduceCtorEq]
  rfl

section Inex

variable (hx : 0 ∉ x) (hn : k.diccSem x = none)

include hx hn

lemma correr_wait_inex {io : Bandeja}
    (h : correr (llamadaErronea soc semInex) k ⟨[], []⟩ = some (((), k'), io)) :
    correr (administrarMenCpus soc) k ⟨[.comun (porNombre TipoDatos.wait x)], []⟩
      = some (((), k'), io) := by
  rw [correr_administrarMenCpus, manejar_wait]
  simp only [wait, porNombre, crearMenComun, correr_bind, correr_lock, Option.bind_some,
    cadena_sinCero hx, deref, Option.elim, correr_pure, correr_get, hn, h, correr_unlock]

lemma correr_signal_inex {io : Bandeja}
    (h : correr (llamadaErronea soc semInex) k ⟨[], []⟩ = some (((), k'), io)) :
    correr (administrarMenCpus soc) k ⟨[.comun (porNombre TipoDatos.signal x)], []⟩
      = some (((), k'), io) := by
  rw [correr_administrarMenCpus, manejar_signal]
  simp only [signal, porNombre, crearMenComun, correr_bind, correr_lock, Option.bind_some,
    cadena_sinCero hx, deref, Option.elim, correr_pure, correr_get, hn, h, correr_unlock]

/-- `wait` with the dictionary locked. -/
lemma wait_cerrado : ∃ f, wait soc (porNombre TipoDatos.wait x) = lock .diccSem >>= f ∧
    f () k = (llamadaErronea soc semInex >>= fun _ => unlock .diccSem) k := by
  have hclave : cadena (porNombre TipoDatos.wait x).dato = some x := cadena_sinCero hx
  have hget : ∀ f : Estado → Hilo Unit, (get >>= f) k = f k k := fun _ => rfl
  refine ⟨_, rfl, ?_⟩
  rw [hclave]
  simp only [deref, Option.elim, pure_bind]
  rw [hget, hn]

/-- `signal` with the dictionary locked. -/
lemma signal_cerrado : ∃ f, signal soc (porNombre TipoDatos.signal x) = lock .diccSem >>= f ∧
    f () k = (llamadaErronea soc semInex >>= fun _ => unlock .diccSem) k := by
  have hclave : cadena (porNombre TipoDatos.signal x).dato = some x := cadena_sinCero hx
  have hget : ∀ f : Estado → Hilo Unit, (get >>= f) k = f k k := fun _ => rfl
  refine ⟨_, rfl, ?_⟩
  rw [hclave]
  simp only [deref, Option.elim, pure_bind]
  rw [hget, hn]

/-- `wait` on a semaphore that there is not, of a CPU that runs a process. -/
theorem espera_inex (he : k.Ejecutando soc) : ∃ k' salida, k.Expulsa semInex soc k' ∧
      Avanzan e soc (inicioDe (Cpu.wait x) s k) (finDe () (s.conFin true) k' salida) := by
  obtain ⟨k', hexp, hcorre⟩ := llamadaErronea_ejecutando semInex ⟨[], []⟩ he
  have hrun := pregunta e soc (s := s) (f := trasWait) (correr_wait_inex soc hx hn hcorre)
    (paraCpu_enviado soc _ _)
  rw [trasWait_inex] at hrun
  exact ⟨k', _, hexp, hrun⟩

/-- `signal` on a semaphore that there is not: the process ends, and its CPU does not hear of it. -/
theorem senala_inex (he : k.Ejecutando soc) : ∃ k' salida, k.Expulsa semInex soc k' ∧
      Avanzan e soc (inicioDe (Cpu.miSignal x) s k) (finDe () s k' salida) := by
  obtain ⟨k', hexp, hcorre⟩ := llamadaErronea_ejecutando semInex ⟨[], []⟩ he
  have hrun := pregunta e soc (s := s) (f := trasSignal) (correr_signal_inex soc hx hn hcorre)
    (paraCpu_enviado soc _ _)
  rw [trasSignal_inex] at hrun
  exact ⟨k', _, hexp, hrun⟩

/-- The kernel falls when a CPU that runs no process waits on a semaphore that there is not. -/
lemma espera_cae (ho : ¬ k.Ejecutando soc) : ∃ next,
    Avanzan e soc (inicioDe (Cpu.wait x) s k)
      ⟨(Cpu.Prog.recvKernel >>= trasWait) s, (), [], .ask .caida next, [], []⟩ := by
  obtain ⟨f, hf, hcerrado⟩ := wait_cerrado soc hx hn
  refine pregunta_cae e soc s (f := trasWait) semInex (fun _ => unlock .diccSem) ho fun p => ?_
  have hcorre := servidor_corre e soc (p := p) (b := []) (w := []) (q := []) (f := f)
    (correr_lock .diccSem (k := k))
  rw [hcerrado] at hcorre
  rw [← porNombre, manejar_wait, hf]
  exact hcorre

/-- So it does when the CPU signals one. -/
lemma senala_cae (ho : ¬ k.Ejecutando soc) : ∃ next,
    Avanzan e soc (inicioDe (Cpu.miSignal x) s k)
      ⟨(Cpu.Prog.recvKernel >>= trasSignal) s, (), [], .ask .caida next, [], []⟩ := by
  obtain ⟨f, hf, hcerrado⟩ := signal_cerrado soc hx hn
  refine pregunta_cae e soc s (f := trasSignal) semInex (fun _ => unlock .diccSem) ho fun p => ?_
  have hcorre := servidor_corre e soc (p := p) (b := []) (w := []) (q := []) (f := f)
    (correr_lock .diccSem (k := k))
  rw [hcerrado] at hcorre
  rw [← porNombre, manejar_signal, hf]
  exact hcorre

end Inex

/-! ### Devices -/

/-- `enviar_IO` up to the request it takes. -/
def tomarPedido (soc : ℤ) : Hilo (Option Cpu × List Byte) := do
  lock .usoListaCpu
  lock .block
  let auxCpu ← getCpuSocCpuRemove soc
  let men ← recvComun soc
  let unidades ← deref (cadena men.dato)
  pure (auxCpu, unidades)

/-- `enviar_IO` from there on. -/
def anotarPedido (menCpu : MenComun) (r : Option Cpu × List Byte) : Hilo Unit := do
  let auxCpu ← deref r.1
  let disp ← deref (cadena menCpu.dato)
  let _ ← deref ((← get).diccDispIo disp)
  modificarIo disp fun io =>
    { io with procesos := io.procesos ++ [⟨auxCpu.idProgExec, atoi r.2⟩] }
  let _ ← actualizarPcbYBloq auxCpu
  modificarIo disp fun io => { io with contCantProc := io.contCantProc + 1 }
  unlock .usoListaCpu
  unlock .block

lemma enviarIo_eq (menCpu : MenComun) :
    enviarIo soc menCpu = tomarPedido soc >>= anotarPedido menCpu := by
  simp only [enviarIo, tomarPedido, bind_assoc, pure_bind]
  rfl

/-- The place of a device that there is not is looked at. -/
lemma anotarPedido_cae (hx : 0 ∉ x) (hn : k.diccDispIo x = none) (r : Option Cpu × List Byte) :
    ∃ next, anotarPedido (porNombre ioId x) r k = .ask .caida next := by
  have hclave : cadena (porNombre ioId x).dato = some x := cadena_sinCero hx
  have hget : ∀ f : Estado → Hilo Unit, (get >>= f) k = f k k := fun _ => rfl
  unfold anotarPedido
  rw [hclave]
  cases r.1 with
  | none => exact ⟨_, rfl⟩
  | some cpu =>
    simp only [deref, Option.elim, pure_bind]
    rw [hget, hn]
    exact ⟨_, rfl⟩

/-- What `entradaSalida` says. -/
lemma entradaSalida_solo (x : List Byte) (tiempo : ℤ) : ∃ cierre,
    (Cpu.entradaSalida x tiempo s).interp e.cpu.solo ((), [], []) = some (((), s.conFin true), (), [],
      [.comun (porNombre ioId x), respuesta ioCantUnidades (cString (stringItoa tiempo)),
        .quantumPcb ⟨pcbYQuantum, 0, s.pcb⟩, respuesta TipoDatos.wait cierre]) := by
  obtain ⟨umv, quit, buscar, basura⟩ := e
  cases quit with
  | true => exact ⟨[], rfl⟩
  | false => exact ⟨[0], rfl⟩

lemma correr_tomarPedido (tiempo : ℤ) (l : List Mensaje) : correr (tomarPedido soc) k
    ⟨respuesta ioCantUnidades (cString (stringItoa tiempo)) :: l, []⟩ = some
      (((k.listaCpu.find? fun unCpu => unCpu.socCpu == soc, stringItoa tiempo),
        k.conCpus (k.listaCpu.eraseP fun unCpu => unCpu.socCpu == soc)), ⟨l, []⟩) := by
  have hrecv : ∀ k₁ : Estado, correr (recvComun soc) k₁
      ⟨respuesta ioCantUnidades (cString (stringItoa tiempo)) :: l, []⟩ = some
        ((crearMenComun ioCantUnidades (cString (stringItoa tiempo)), k₁), ⟨l, []⟩) := fun _ => rfl
  simp only [tomarPedido, getCpuSocCpuRemove, correr_bind, correr_lock, Option.bind_some,
    correr_listaCpuRemove, hrecv, crearMenComun, cadena_stringItoa, deref, Option.elim, correr_pure]

/-- **A device that there is not brings the kernel down**, with the pcb unread. -/
theorem dispositivo_cae (tiempo : ℤ) (hx : 0 ∉ x) (hn : k.diccDispIo x = none) :
    ∃ y next q, Avanzan e soc (inicioDe (Cpu.entradaSalida x tiempo) s k)
      ⟨.ret y, (), [], .ask .caida next, [], q⟩ := by
  obtain ⟨cierre, hsolo⟩ := entradaSalida_solo e s x tiempo
  obtain ⟨l, hl, hdice⟩ := Duet.client_solo e.cpu (servidor soc) (servir soc)
    (f := fun r : Unit × Cpu.Estado => .ret r) (s := .ret ((), k)) (t := ([] : List Salida)) hsolo
  obtain rfl : _ = l := hl
  have hcpu := hdice []
  rw [Dialog.bind_ret] at hcpu
  have hrecibe := servidor_recibe e soc (k := k) (b := []) (w := [])
    (p := (.ret ((), s.conFin true) : Dialog Cpu.Evento Cpu.Evento.Respuesta (Unit × Cpu.Estado)))
    (q := [respuesta ioCantUnidades (cString (stringItoa tiempo)),
      .quantumPcb ⟨pcbYQuantum, 0, s.pcb⟩, respuesta TipoDatos.wait cierre]) (porNombre ioId x)
  rw [manejar_ioId, enviarIo_eq] at hrecibe
  have htoma := servidor_corre e soc (b := []) (w := []) (f := anotarPedido (porNombre ioId x))
    (p := (.ret ((), s.conFin true) : Dialog Cpu.Evento Cpu.Evento.Respuesta (Unit × Cpu.Estado)))
    (correr_tomarPedido soc (k := k) tiempo
      [.quantumPcb ⟨pcbYQuantum, 0, s.pcb⟩, respuesta TipoDatos.wait cierre])
  obtain ⟨next, hcae⟩ := anotarPedido_cae
    (k := k.conCpus (k.listaCpu.eraseP fun unCpu => unCpu.socCpu == soc)) hx hn
    (k.listaCpu.find? (fun unCpu => unCpu.socCpu == soc), stringItoa tiempo)
  rw [hcae] at htoma
  exact ⟨_, next, _, (hcpu.trans hrecibe).trans htoma⟩

end Uses

/-! ### Labels -/

section Labels

open Dialog (Safe safe_modify safe_get_bind safe_modify_bind)

variable {stringTrim : List Byte → List Byte} {e : Entorno} {s : Cpu.Estado} {α : Type}
  {Q : α → Cpu.Estado → Unit → Prop}

lemma callada_caida : Safe (callada e) (Cpu.Prog.caida : Cpu.Prog α) s () Q :=
  ⟨fun _ h => absurd h nofun, nofun⟩

lemma callada_entero_bind {x : ℤ} {f : ℤ → Cpu.Prog α} (h : ∀ y, Safe (callada e) (f y) s () Q) :
    Safe (callada e) (Cpu.Prog.entero x >>= f) s () Q := by
  unfold Cpu.Prog.entero
  split
  · exact h x
  · exact (callada_caida (Q := fun _ _ _ => False)).bind fun _ _ _ hf => hf.elim

lemma callada_pedirUmv_bind {tipo base offset tam : ℤ} {buffer : List Byte} {f : MenComun → Cpu.Prog α}
    (h : Safe (callada e) (f (e.umv ⟨tipo, base, offset, tam, buffer⟩)) s () Q) :
    Safe (callada e) (Cpu.Prog.pedirUmv tipo base offset tam buffer >>= f) s () Q := by
  refine ⟨?_, ?_⟩
  · rintro x ⟨⟩
    rfl
  · rintro r _ ⟨x, ⟨⟩, rfl⟩
    exact h

lemma callada_buscar_bind {nombre : List Byte} {f : ℤ → Cpu.Prog α} (h : ∀ pos, Safe (callada e) (f pos) s () Q) :
    Safe (callada e) (Cpu.Prog.metadataBuscarEtiqueta nombre >>= f) s () Q := by
  refine ⟨?_, ?_⟩
  · rintro x ⟨⟩
    rfl
  · rintro r _ ⟨x, ⟨⟩, rfl⟩
    exact h _

lemma callada_deref_bind {β : Type} {x : Option β} {f : β → Cpu.Prog α}
    (h : ∀ y, Safe (callada e) (f y) s () Q) : Safe (callada e) (Cpu.Prog.deref x >>= f) s () Q := by
  cases x with
  | none => exact (callada_caida (Q := fun _ _ _ => False)).bind fun _ _ _ hf => hf.elim
  | some y => exact h y

lemma callada_irAlLabel (x : List Byte) :
    Safe (callada e) (Cpu.irAlLabel stringTrim x) s () fun _ _ _ => True := by
  refine callada_buscar_bind fun pos => ?_
  split
  · exact safe_modify trivial
  · exact safe_modify trivial

lemma callada_regenerarLoop : ∀ (n : ℕ) (i : ℤ) (s : Cpu.Estado),
    Safe (callada e) (Cpu.regenerarLoop n i) s () fun _ _ _ => True
  | 0, _, _ => trivial
  | n + 1, i, s => by
    refine safe_get_bind (callada_entero_bind fun offset => callada_pedirUmv_bind ?_)
    refine callada_entero_bind fun pos => callada_deref_bind fun c => safe_modify_bind ?_
    exact callada_regenerarLoop n (i + 1) _

lemma callada_regenerarDiccVar :
    Safe (callada e) Cpu.regenerarDiccVar s () fun _ _ _ => True :=
  safe_modify_bind (safe_get_bind (callada_regenerarLoop _ _ _))

section Servida

variable (hu : ∀ men, (e.umv men).tipo = rAlmBytes)

include hu

lemma callada_preservarContexto :
    Safe (callada e) Cpu.preservarContexto s () fun _ _ _ => True := by
  refine safe_get_bind (callada_entero_bind fun offset => callada_pedirUmv_bind ?_)
  rw [if_pos (hu _)]
  refine callada_entero_bind fun offset => callada_pedirUmv_bind ?_
  rw [if_pos (hu _)]
  trivial

lemma callada_llamarSinRetorno (x : List Byte) :
    Safe (callada e) (Cpu.llamarSinRetorno x) s () fun _ _ _ => True := by
  refine (callada_preservarContexto hu).bind fun _ s₁ _ _ => ?_
  refine safe_get_bind (callada_entero_bind fun dir => safe_modify_bind ?_)
  refine callada_regenerarDiccVar.bind fun _ s₂ _ _ => ?_
  exact callada_buscar_bind fun pos => safe_modify trivial

lemma callada_llamarConRetorno (x : List Byte) (dondeRetornar : ℤ) :
    Safe (callada e) (Cpu.llamarConRetorno x dondeRetornar) s () fun _ _ _ => True := by
  refine (callada_preservarContexto hu).bind fun _ s₁ _ _ => ?_
  refine safe_get_bind (callada_entero_bind fun offset => callada_pedirUmv_bind ?_)
  rw [if_pos (hu _)]
  refine callada_entero_bind fun dir => safe_modify_bind ?_
  refine callada_regenerarDiccVar.bind fun _ s₂ _ _ => ?_
  exact callada_buscar_bind fun pos => safe_modify trivial

end Servida

end Labels

/-! ### All names -/

section All

variable {stringTrim : List Byte → List Byte} {soc : ℤ} {s : Cpu.Estado} {k : Estado}
  {p : Cpu.Primitiva}

/-- It is enough that the kernel ends the process and the CPU is told. -/
lemma resiste_of_expulsa (h : ∀ e, ∃ v s' k' salida tipo, k.Expulsa tipo soc k' ∧ EsError tipo ∧
    s'.fueFinEjecucion = true ∧
    Avanzan e soc (inicioDe (p.ejecutar stringTrim) s k) (finDe v s' k' salida)) :
    Resiste stringTrim soc s k p := by
  intro e _
  obtain ⟨v, s', k', salida, tipo, hexp, herror, hfin, hrun⟩ := h e
  obtain ⟨cpu, x, hsolo⟩ := hexp.soloTermina soc herror
  obtain ⟨n, hsteps⟩ := steps_of_reflTransGen hrun
  exact ⟨v, s', k', salida, cpu, x, tipo, ends_of_steps (Duet.diamond e.cpu (servidor soc)
    (servir soc)) hsteps (finDe_not_step e soc v s' k' salida), hfin, hsolo⟩

/-- One run that comes to another place is enough to the contrary. -/
lemma not_resiste_of_run {e : Entorno} {d : Conversacion p.Valor}
    (hi : Indefinido stringTrim e s k p)
    (hrun : Avanzan e soc (inicioDe (p.ejecutar stringTrim) s k) d)
    (hd : ∀ c, ¬ Avanza e soc d c)
    (hne : ∀ v s' k' salida, s'.fueFinEjecucion = true → d ≠ finDe v s' k' salida) :
    ¬ Resiste stringTrim soc s k p := by
  intro h
  obtain ⟨v, s', k', salida, cpu, x, tipo, hends, hfin, -⟩ := h e hi
  exact hne v s' k' salida hfin (ends_eq e soc hends hrun hd).symm

/-- A kernel that has fallen is not at an end. -/
lemma caida_ne_finDe {α : Type} {q : Dialog Cpu.Evento Cpu.Evento.Respuesta (α × Cpu.Estado)}
    {next : Evento.caida.Respuesta → Dialog Evento Evento.Respuesta (Unit × Estado)}
    {b l : List Mensaje} {w salida : List Salida} {v : α} {s' : Cpu.Estado} {k' : Estado} :
    (⟨q, (), b, .ask .caida next, w, l⟩ : Conversacion α) ≠ finDe v s' k' salida :=
  fun h => absurd (congrArg Duet.server h) nofun

/-- The kernel falls while the CPU waits for its answer. -/
lemma not_resiste_of_cae {e : Entorno} {f : MenComun → Cpu.Prog p.Valor}
    {next : Evento.caida.Respuesta → Dialog Evento Evento.Respuesta (Unit × Estado)}
    (hi : Indefinido stringTrim e s k p)
    (hrun : Avanzan e soc (inicioDe (p.ejecutar stringTrim) s k)
      ⟨(Cpu.Prog.recvKernel >>= f) s, (), [], .ask .caida next, [], []⟩) :
    ¬ Resiste stringTrim soc s k p := by
  refine not_resiste_of_run hi hrun (fun c => caida_not_step e soc ?_ c)
    fun _ _ _ _ _ => caida_ne_finDe
  rintro _ _ ⟨⟩
  rfl

/-- A call that says nothing to the kernel ends nothing there. -/
lemma not_resiste_of_callada {e : Entorno} (hi : Indefinido stringTrim e s k p)
    (hc : Dialog.Safe (callada e) (p.ejecutar stringTrim) s () fun _ _ _ => True) :
    ¬ Resiste stringTrim soc s k p := by
  intro h
  obtain ⟨v, s', k', salida, cpu, x, tipo, hends, -, hsolo⟩ := h e hi
  obtain ⟨n, hsteps⟩ := hends.steps
  obtain rfl := callada_fin hc hsteps.reflTransGen
  exact absurd (congrArg List.length hsolo.exit) (by simp)

/-- A UMV that has place for everything, and no label. -/
def sinEtiquetas : Entorno := ⟨fun _ => crearMenComun rAlmBytes [], false, fun _ _ _ => -1, fun _ => 0⟩

lemma not_resiste_variable {c : Byte} (hn : s.dicVariables (Cpu.esNumeroPasarChar c) = none) :
    ¬ Resiste stringTrim soc s k (.obtenerPosicionVariable c) := by
  have hcae : ∃ next, Cpu.obtenerPosicionVariable c s = .ask .caida next := by
    have hget : Cpu.obtenerPosicionVariable c s
        = Cpu.Prog.deref (s.dicVariables (Cpu.esNumeroPasarChar c)) s := rfl
    rw [hget, hn]
    exact ⟨_, rfl⟩
  obtain ⟨next, hcae⟩ := hcae
  refine not_resiste_of_run (e := sinEtiquetas) hn .refl ?_ ?_
  · refine fun c => Duet.Idle.not_step _ _ _ ⟨?_, ?_, fun _ _ => rfl⟩
    · intro a f hask
      have heq : (.ask .caida next : Dialog Cpu.Evento Cpu.Evento.Respuesta (ℤ × Cpu.Estado))
          = .ask a f := hcae.symm.trans hask
      cases heq
      rfl
    · intro a f hask
      exact absurd hask nofun
  · intro v s' k' salida _ heq
    have hclient : Cpu.obtenerPosicionVariable c s = .ret (v, s') := congrArg Duet.client heq
    exact absurd (hcae.symm.trans hclient) nofun

lemma not_resiste_dispositivo {x : List Byte} {tiempo : ℤ} (hx : 0 ∉ x)
    (hn : k.diccDispIo x = none) : ¬ Resiste stringTrim soc s k (.entradaSalida x tiempo) := by
  obtain ⟨y, next, q, hrun⟩ := dispositivo_cae sinEtiquetas soc s tiempo hx hn
  have hcaida : ∀ c : Conversacion Unit,
      ¬ Avanza sinEtiquetas soc ⟨.ret y, (), [], .ask .caida next, [], q⟩ c :=
    caida_not_step sinEtiquetas soc fun _ _ h => absurd h nofun
  exact not_resiste_of_run (e := sinEtiquetas) ⟨hx, hn⟩ hrun hcaida
    fun _ _ _ _ _ => caida_ne_finDe

/-- **The names that end only their script.** The use of a name that stands for nothing ends the
process, frees its CPU and changes nothing else, in every order of steps, exactly when it is
provided for. -/
theorem resiste_iff (hi : ∃ e, Indefinido stringTrim e s k p) :
    Resiste stringTrim soc s k p ↔ Previsto soc s k p := by
  obtain ⟨e, hi⟩ := hi
  cases p with
  | obtenerPosicionVariable c => exact iff_of_false (not_resiste_variable hi) id
  | irAlLabel x =>
    exact iff_of_false (not_resiste_of_callada (e := sinEtiquetas) rfl (callada_irAlLabel x)) id
  | llamarSinRetorno x =>
    exact iff_of_false (not_resiste_of_callada (e := sinEtiquetas) rfl
      (callada_llamarSinRetorno (fun _ => rfl) x)) id
  | llamarConRetorno x dir =>
    exact iff_of_false (not_resiste_of_callada (e := sinEtiquetas) rfl
      (callada_llamarConRetorno (fun _ => rfl) x dir)) id
  | obtenerValorCompartida x =>
    refine ⟨fun h => ?_, fun he => resiste_of_expulsa fun e => ?_⟩
    · by_contra ho
      obtain ⟨next, hrun⟩ := obtiene_cae e soc s ho hi.1 hi.2
      exact not_resiste_of_cae hi hrun h
    · obtain ⟨k', salida, hexp, hrun⟩ := obtiene_inex e soc s he hi.1 hi.2
      exact ⟨_, _, k', salida, _, hexp, .inr (.inl rfl), rfl, hrun⟩
  | asignarValorCompartida x v =>
    refine ⟨fun h => ?_, fun he => resiste_of_expulsa fun e => ?_⟩
    · by_contra ho
      obtain ⟨next, hrun⟩ := asigna_cae e soc s (v := v) ho hi.1 hi.2
      exact not_resiste_of_cae hi hrun h
    · obtain ⟨k', salida, hexp, hrun⟩ := asigna_inex e soc s (v := v) he hi.1 hi.2
      exact ⟨_, _, k', salida, _, hexp, .inr (.inl rfl), rfl, hrun⟩
  | entradaSalida x tiempo => exact iff_of_false (not_resiste_dispositivo hi.1 hi.2) id
  | wait x =>
    refine ⟨fun h => ?_, fun he => resiste_of_expulsa fun e => ?_⟩
    · by_contra ho
      obtain ⟨next, hrun⟩ := espera_cae e soc s hi.1 hi.2 ho
      exact not_resiste_of_cae hi hrun h
    · obtain ⟨k', salida, hexp, hrun⟩ := espera_inex e soc s hi.1 hi.2 he
      exact ⟨_, _, k', salida, _, hexp, .inr (.inr (.inl rfl)), rfl, hrun⟩
  | signal x =>
    refine ⟨fun h => ?_, fun ⟨he, hfin⟩ => resiste_of_expulsa fun e => ?_⟩
    · have ho : k.Ejecutando soc := by
        by_contra ho
        obtain ⟨next, hrun⟩ := senala_cae e soc s hi.1 hi.2 ho
        exact not_resiste_of_cae hi hrun h
      refine ⟨ho, ?_⟩
      by_contra hfin
      obtain ⟨k', salida, -, hrun⟩ := senala_inex e soc s hi.1 hi.2 ho
      refine not_resiste_of_run hi hrun (finDe_not_step e soc () s k' salida) ?_ h
      intro v s' k'' salida' hs' heq
      obtain ⟨-, rfl⟩ := Prod.mk.inj (Dialog.ret.inj (congrArg Duet.client heq))
      exact hfin hs'
    · obtain ⟨k', salida, hexp, hrun⟩ := senala_inex e soc s hi.1 hi.2 he
      exact ⟨_, _, k', salida, _, hexp, .inr (.inr (.inl rfl)), hfin, hrun⟩
  | _ => exact hi.elim

/-- The process of a CPU waits on a semaphore that there is not. -/
theorem resiste_wait_sinSemaforo : ∃ k,
    run (Paso.hacer unaInstruccion) vidaHastaExec (inicial unLugar 4) = some k ∧
      Resiste id 5 (Cpu.arranque Cpu.unPcb) k (.wait [120]) := by
  have hvida : ∃ k, run (Paso.hacer unaInstruccion) vidaHastaExec (inicial unLugar 4) = some k ∧
    k.diccSem [120] = none ∧ k.Ejecutando 5 :=
    ⟨_, rfl, rfl, _, _, _, _, ⟨rfl, rfl⟩, [], [], rfl, by simp, by decide, rfl⟩
  obtain ⟨k, hrun, hsem, hejecuta⟩ := hvida
  have hclave : (0 : Byte) ∉ ([120] : List Byte) := by decide
  have hi : ∃ e, Indefinido id e (Cpu.arranque Cpu.unPcb) k (.wait [120]) :=
    ⟨sinEtiquetas, hclave, hsem⟩
  exact ⟨k, hrun, (resiste_iff hi).2 hejecuta⟩

/-- The process of a CPU asks for a device that there is not, and the kernel falls. -/
theorem dispositivo_sinNombre : ∃ k,
    run (Paso.hacer unaInstruccion) vidaHastaExec (inicial unLugar 4) = some k ∧ Ocupada k 5 ∧
      Indefinido id sinEtiquetas (Cpu.arranque Cpu.unPcb) k (.entradaSalida [90] 3) ∧
      ¬ Resiste id 5 (Cpu.arranque Cpu.unPcb) k (.entradaSalida [90] 3) := by
  have hvida : ∃ k, run (Paso.hacer unaInstruccion) vidaHastaExec (inicial unLugar 4) = some k ∧
    k.diccDispIo [90] = none ∧ Ocupada k 5 := ⟨_, rfl, rfl, _, rfl, by decide⟩
  obtain ⟨k, hrun, hdisp, hocupada⟩ := hvida
  have hclave : (0 : Byte) ∉ ([90] : List Byte) := by decide
  exact ⟨k, hrun, hocupada, ⟨hclave, hdisp⟩, not_resiste_dispositivo hclave hdisp⟩

end All

end Ansisop.Kernel
