import Ansisop.Kernel.Dialogue
import Ansisop.Kernel.Frame
import Ansisop.Lib.Register
import Ansisop.Sockets.Wire

/-!
# Shared variables

`obtenerValorCompartida` and `asignarValorCompartida` of the CPU with `obtener_valor_compartida` and
`grabar_valor_compartida` of the kernel, as conversations: where each comes to when the variable is
there, when it is not, and when the CPU asks for one that is not after its process has ended.

The shared variables are then registers (`corrida_lineal`). A request counts as served when its
exchange has been made, whatever the order of the steps in it. The kernel serves its CPUs one at a
time, and none of its other steps looks at the variables (`Paso.Ajeno.diccVar`); they are put before
or after an exchange.
-/

namespace Ansisop.Kernel

open Ansisop.Sockets Ansisop.Lib Hilo
open TipoDatos hiding signal wait

/-! ### What the kernel does with a name -/

/-- An answer of the kernel. -/
def respuesta (tipo : TipoDatos) (dato : List Byte) : Mensaje := .comun (crearMenComun tipo dato)

section Servicio

variable (soc : ℤ) (x : List Byte) {v : ℤ} {k k' : Estado} {io : Bandeja}

lemma correr_obtener_hay (hx : 0 ∉ x) (hv : k.diccVar x = some v) :
    correr (administrarMenCpus soc) k ⟨[.comun (porNombre obtenerValor x)], []⟩ = some (((), k),
      ⟨[], [.enviado soc (respuesta rObtenerValor (cString (stringItoa v)))]⟩) := by
  rw [correr_administrarMenCpus, manejar_obtener]
  simp only [obtenerValorCompartida, porNombre, crearMenComun, correr_bind, correr_lock,
    Option.bind_some, cadena_sinCero hx, deref, Option.elim, correr_pure, correr_get, hv,
    correr_enviarMenComun, correr_unlock, List.nil_append, respuesta]

lemma correr_obtener_inex (hx : 0 ∉ x) (hn : k.diccVar x = none)
    (h : correr (llamadaErronea soc varInex) k ⟨[], []⟩ = some (((), k'), io)) :
    correr (administrarMenCpus soc) k ⟨[.comun (porNombre obtenerValor x)], []⟩
      = some (((), k'), io) := by
  rw [correr_administrarMenCpus, manejar_obtener]
  simp only [obtenerValorCompartida, porNombre, crearMenComun, correr_bind, correr_lock,
    Option.bind_some, cadena_sinCero hx, deref, Option.elim, correr_pure, correr_get, hn, h,
    correr_unlock]

lemma correr_grabar_inex (hx : 0 ∉ x) (hn : k.diccVar x = none)
    (h : correr (llamadaErronea soc varInex) k ⟨[], []⟩ = some (((), k'), io)) :
    correr (administrarMenCpus soc) k ⟨[.comun (porNombre grabarValor x)], []⟩
      = some (((), k'), io) := by
  rw [correr_administrarMenCpus, manejar_grabar]
  simp only [grabarValorCompartida, porNombre, crearMenComun, correr_bind, correr_lock,
    Option.bind_some, cadena_sinCero hx, deref, Option.elim, correr_pure, correr_get, hn, h,
    correr_unlock]

/-- `grabar_valor_compartida` after it has asked for the value. -/
def trasNombre (soc : ℤ) (clave : List Byte) : Hilo Unit := do
  let menValor ← recvComun soc
  let s ← deref (cadena menValor.dato)
  modify fun k => k.conVar clave (atoi s)
  unlock .diccVar
  enviarMenComun soc rGrabarValor []

/-- `obtener_valor_compartida` with the dictionary locked. -/
def obtenerCerrado (soc : ℤ) (men : MenComun) : Hilo Unit := do
  let clave ← deref (cadena men.dato)
  match (← get).diccVar clave with
  | some valor => enviarMenComun soc rObtenerValor (cString (stringItoa valor))
  | none => llamadaErronea soc varInex
  unlock .diccVar

/-- `grabar_valor_compartida` with the dictionary locked. -/
def grabarCerrado (soc : ℤ) (men : MenComun) : Hilo Unit := do
  let clave ← deref (cadena men.dato)
  match (← get).diccVar clave with
  | some _ =>
    enviarMenComun soc rGrabarValor []
    trasNombre soc clave
  | none =>
    unlock .diccVar
    llamadaErronea soc varInex

lemma grabarCerrado_hay {v₀ : ℤ} (hx : 0 ∉ x) (hv : k.diccVar x = some v₀) :
    grabarCerrado soc (porNombre grabarValor x) k
      = (enviarMenComun soc rGrabarValor [] >>= fun _ => trasNombre soc x) k := by
  have hclave : cadena (porNombre grabarValor x).dato = some x := cadena_sinCero hx
  have hget : ∀ f : Estado → Hilo Unit, (get >>= f) k = f k k := fun _ => rfl
  rw [grabarCerrado, hclave]
  simp only [deref, Option.elim, pure_bind]
  rw [hget, hv]

lemma grabarCerrado_inex (hx : 0 ∉ x) (hn : k.diccVar x = none) :
    grabarCerrado soc (porNombre grabarValor x) k
      = (unlock .diccVar >>= fun _ => llamadaErronea soc varInex) k := by
  have hclave : cadena (porNombre grabarValor x).dato = some x := cadena_sinCero hx
  have hget : ∀ f : Estado → Hilo Unit, (get >>= f) k = f k k := fun _ => rfl
  rw [grabarCerrado, hclave]
  simp only [deref, Option.elim, pure_bind]
  rw [hget, hn]

lemma obtenerCerrado_inex (hx : 0 ∉ x) (hn : k.diccVar x = none) :
    obtenerCerrado soc (porNombre obtenerValor x) k
      = (llamadaErronea soc varInex >>= fun _ => unlock .diccVar) k := by
  have hclave : cadena (porNombre obtenerValor x).dato = some x := cadena_sinCero hx
  have hget : ∀ f : Estado → Hilo Unit, (get >>= f) k = f k k := fun _ => rfl
  rw [obtenerCerrado, hclave]
  simp only [deref, Option.elim, pure_bind]
  rw [hget, hn]

lemma correr_trasNombre (h : EsInt32 v) :
    correr (trasNombre soc x) k ⟨[respuesta valorAsignado (cString (stringItoa v))], []⟩
      = some (((), k.conVar x v), ⟨[], [.enviado soc (respuesta rGrabarValor [])]⟩) := by
  have hrecv : correr (recvComun soc) k ⟨[respuesta valorAsignado (cString (stringItoa v))], []⟩
    = some ((⟨_, valorAsignado, cString (stringItoa v)⟩, k), ⟨[], []⟩) := rfl
  rw [trasNombre, correr_bind, hrecv]
  simp only [correr_bind, Option.bind_some, cadena_stringItoa, deref, Option.elim, correr_pure,
    atoi_stringItoa h.1 h.2, correr_modify, correr_unlock, correr_enviarMenComun, List.nil_append,
    respuesta]

end Servicio

/-! ### Exchanges -/

section Exchanges

variable (e : Entorno) (soc : ℤ) {x : List Byte} {v : ℤ} (s : Cpu.Estado) {k k' : Estado}

/-- `obtenerValorCompartida` of the CPU after its message. -/
def trasObtener (respuesta : MenComun) : Cpu.Prog ℤ :=
  if respuesta.tipo = varInex then do
    modify fun s => s.conFin true
    pure 0
  else do
    let dato ← Cpu.Prog.deref (cadena respuesta.dato)
    pure (atoi dato)

lemma trasObtener_valor (h : EsInt32 v) :
    trasObtener (crearMenComun rObtenerValor (cString (stringItoa v))) s = .ret (v, s) := by
  simp only [trasObtener, crearMenComun, val_inj, reduceCtorEq, cadena_stringItoa, Cpu.Prog.deref,
    Option.elim, pure_bind, atoi_stringItoa h.1 h.2]
  rfl

/-- `asignarValorCompartida` of the CPU after its first message. -/
def trasGrabar (valor : ℤ) (menResp : MenComun) : Cpu.Prog ℤ :=
  if menResp.tipo = varInex then do
    modify fun s => s.conFin true
    pure (-1)
  else if menResp.tipo = rGrabarValor then do
    Cpu.Prog.enviarMenComun valorAsignado (cString (stringItoa valor))
    let _ ← Cpu.Prog.recvKernel
    pure valor
  else pure (-1)

/-- **A variable is read.** -/
theorem obtiene_hay (hx : 0 ∉ x) (hv : k.diccVar x = some v) (h : EsInt32 v) :
    ∃ salida, Avanzan e soc (inicioDe (Cpu.obtenerValorCompartida x) s k) (finDe v s k salida) := by
  have hrun := pregunta e soc (s := s) (f := trasObtener) (correr_obtener_hay soc x hx hv)
    (paraCpu_enviado soc _ _)
  rw [trasObtener_valor s h] at hrun
  exact ⟨_, hrun⟩

section Inex

variable (he : k.Ejecutando soc) (hx : 0 ∉ x) (hn : k.diccVar x = none)

include he hx hn

/-- A variable that there is not. -/
theorem obtiene_inex : ∃ k' salida, k.Expulsa varInex soc k' ∧
    Avanzan e soc (inicioDe (Cpu.obtenerValorCompartida x) s k)
      (finDe 0 (s.conFin true) k' salida) := by
  obtain ⟨k', hexp, hcorre⟩ := llamadaErronea_ejecutando varInex ⟨[], []⟩ he
  exact ⟨k', _, hexp, pregunta e soc (s := s) (f := trasObtener) (correr_obtener_inex soc x hx hn hcorre)
    (paraCpu_enviado soc _ _)⟩

theorem asigna_inex : ∃ k' salida, k.Expulsa varInex soc k' ∧
    Avanzan e soc (inicioDe (Cpu.asignarValorCompartida x v) s k)
      (finDe (-1) (s.conFin true) k' salida) := by
  obtain ⟨k', hexp, hcorre⟩ := llamadaErronea_ejecutando varInex ⟨[], []⟩ he
  exact ⟨k', _, hexp, pregunta e soc (s := s) (f := trasGrabar v) (correr_grabar_inex soc x hx hn hcorre)
    (paraCpu_enviado soc _ _)⟩

end Inex

/-- The kernel asks for the value, and waits for it with the dictionary locked. -/
lemma servidor_pideValor {α : Type} (p : Dialog Cpu.Evento Cpu.Evento.Respuesta (α × Cpu.Estado))
    (hx : 0 ∉ x) {v₀ : ℤ} (hv : k.diccVar x = some v₀) :
    Avanzan e soc ⟨p, (), [], .ret ((), k), [], [.comun (porNombre grabarValor x)]⟩
      ⟨p, (), [respuesta rGrabarValor []], trasNombre soc x k,
        [.enviado soc (respuesta rGrabarValor [])], []⟩ := by
  have hrecibe := servidor_recibe e soc (k := k) (p := p) (b := []) (w := []) (q := [])
    (porNombre grabarValor x)
  rw [manejar_grabar] at hrecibe
  have hcerrado := servidor_corre e soc (p := p) (b := []) (w := []) (q := [])
    (f := fun _ => grabarCerrado soc (porNombre grabarValor x)) (correr_lock .diccVar (k := k))
  rw [grabarCerrado_hay soc x hx hv] at hcerrado
  have hpide := servidor_corre e soc (p := p) (b := []) (w := []) (q := [])
    (f := fun _ => trasNombre soc x) (show correr (enviarMenComun soc rGrabarValor []) k ⟨[], []⟩
      = some (((), k), ⟨[], [.enviado soc (respuesta rGrabarValor [])]⟩) from rfl)
  rw [paraCpu_enviado, paraCpu_nil] at hpide
  exact (hrecibe.trans hcerrado).trans hpide

/-- **A variable is written.** -/
theorem asigna_hay (hx : 0 ∉ x) {v₀ : ℤ} (hv : k.diccVar x = some v₀) (h : EsInt32 v) :
    ∃ salida, Avanzan e soc (inicioDe (Cpu.asignarValorCompartida x v) s k)
      (finDe v s (k.conVar x v) salida) := by
  have hdice := cpu_dice e soc (s := s) (b := []) (w := []) (q := [])
    (fun _ => Cpu.Prog.recvKernel >>= trasGrabar v) (.comun (porNombre grabarValor x))
    (.ret ((), k))
  have hpide := servidor_pideValor e soc ((Cpu.Prog.recvKernel >>= trasGrabar v) s) hx hv
  have hoye := cpu_oye e soc (s := s) (b := []) (q := [])
    (w := [.enviado soc (respuesta rGrabarValor [])]) (trasGrabar v)
    (crearMenComun rGrabarValor []) (trasNombre soc x k)
  have hvalor := cpu_dice e soc (s := s) (b := []) (q := [])
    (w := [.enviado soc (respuesta rGrabarValor [])]) (fun _ => Cpu.Prog.recvKernel >>= fun _ => pure v)
    (respuesta valorAsignado (cString (stringItoa v))) (trasNombre soc x k)
  have hguarda := servidor_corre e soc (p := (Cpu.Prog.recvKernel >>= fun _ => pure v) s) (b := [])
    (w := [.enviado soc (respuesta rGrabarValor [])]) (f := fun _ => pure ())
    (correr_trasNombre soc x h (k := k))
  rw [bind_pure_unit, paraCpu_enviado, paraCpu_nil] at hguarda
  have hfin := cpu_oye e soc (s := s) (b := []) (q := [])
    (w := [.enviado soc (respuesta rGrabarValor []), .enviado soc (respuesta rGrabarValor [])])
    (fun _ => pure v) (crearMenComun rGrabarValor []) (.ret ((), k.conVar x v))
  exact ⟨_, ((((hdice.trans hpide).trans hoye).trans hvalor).trans hguarda).trans hfin⟩

/-! ### A process that has ended already -/

/-- The beginning of `llamada_erronea`. -/
def quitarCpu (soc : ℤ) : Hilo (Option Cpu) := do
  lock .usoListaCpu
  let auxCpu ← getCpuSocCpuRemove soc
  unlock .usoListaCpu
  pure auxCpu

/-- `llamada_erronea` with the record of the CPU and the result of the search in hand. -/
def terminarProceso (soc tipo : ℤ) (auxCpu : Cpu) (aux : Option PcbOtros) : Hilo Unit := do
  let aux ← deref aux
  pasarPcbExit (some { aux with tipoFinEjecucion := tipo })
  enviarMenComun soc tipo []
  lock .usoListaCpu
  liberarCpu auxCpu
  unlock .usoListaCpu

lemma llamadaErronea_eq (tipo : ℤ) : llamadaErronea soc tipo
    = quitarCpu soc >>= fun auxCpu => deref auxCpu >>= fun auxCpu =>
      getPcbOtrosExec auxCpu.idProgExec >>= terminarProceso soc tipo auxCpu := by
  simp only [llamadaErronea, quitarCpu, bind_assoc, pure_bind]
  rfl

/-- A search that comes to a `NULL`. -/
lemma queueRotar_cae {β : Type} {c : Cola} {q : PcbOtros → Bool}
    (h : rotateFind (Option.map q) (k.colas c).length (k.colas c) = none)
    (g : Option PcbOtros → Hilo β) : ∃ next, (queueRotar c q >>= g) k = .ask .caida next := by
  have hget : ∀ f : Estado → Hilo β, (get >>= f) k = f k k := fun _ => rfl
  simp only [queueRotar, bind_assoc]
  rw [hget, h]
  exact ⟨_, rfl⟩

lemma getPcbOtrosExec_bind {β : Type} (id : ℤ) (g : Option PcbOtros → Hilo β) :
    getPcbOtrosExec id >>= g = lock .exec >>= fun _ => queueRotar .exec (fun x => id == x.pcb.id) >>=
      fun aux => unlock .exec >>= fun _ => g aux := by
  simp only [getPcbOtrosExec, bind_assoc, pure_bind]

/-- `llamada_erronea` for a CPU whose record names no process in execution ends the kernel. -/
lemma llamadaErronea_cae {α : Type} (tipo : ℤ) (f : Unit → Hilo Unit) (hn : ¬ k.Ejecutando soc)
    (p : Dialog Cpu.Evento Cpu.Evento.Respuesta (α × Cpu.Estado)) :
    ∃ next, Avanzan e soc ⟨p, (), [], (llamadaErronea soc tipo >>= f) k, [], []⟩
      ⟨p, (), [], .ask .caida next, [], []⟩ := by
  simp only [llamadaErronea_eq, bind_assoc]
  have hquita : correr (quitarCpu soc) k ⟨[], []⟩
      = some ((k.listaCpu.find? fun unCpu => unCpu.socCpu == soc,
        k.conCpus (k.listaCpu.eraseP fun unCpu => unCpu.socCpu == soc)), ⟨[], []⟩) := rfl
  have hrun := servidor_corre e soc (p := p) (b := []) (w := [])
    (f := fun auxCpu => deref auxCpu >>= fun auxCpu => getPcbOtrosExec auxCpu.idProgExec >>=
      fun aux => terminarProceso soc tipo auxCpu aux >>= f) hquita
  cases hf : k.listaCpu.find? fun unCpu => unCpu.socCpu == soc with
  | none =>
    rw [hf] at hrun
    exact ⟨_, hrun⟩
  | some cpu =>
    rw [hf] at hrun
    generalize hk₁ : k.conCpus (k.listaCpu.eraseP fun unCpu => unCpu.socCpu == soc) = k₁ at hrun
    cases hrot : rotateFind (Option.map fun x : PcbOtros => cpu.idProgExec == x.pcb.id)
        (k₁.colas .exec).length (k₁.colas .exec) with
    | none =>
      obtain ⟨next, hcae⟩ := queueRotar_cae hrot
        fun aux => unlock .exec >>= fun _ => terminarProceso soc tipo cpu aux >>= f
      have hlock := servidor_corre e soc (p := p) (b := []) (w := []) (q := [])
        (f := fun _ => queueRotar .exec (fun x => cpu.idProgExec == x.pcb.id) >>=
          fun aux => unlock .exec >>= fun _ => terminarProceso soc tipo cpu aux >>= f)
        (correr_lock .exec (k := k₁))
      rw [hcae, ← getPcbOtrosExec_bind cpu.idProgExec fun aux =>
        terminarProceso soc tipo cpu aux >>= f] at hlock
      exact ⟨next, hrun.trans hlock⟩
    | some r =>
      have hbusca : correr (getPcbOtrosExec cpu.idProgExec) k₁ ⟨[], []⟩
          = some ((r.1.join, k₁.conCola .exec r.2), ⟨[], []⟩) := by
        simp only [getPcbOtrosExec, queueRotar, correr_bind, correr_lock, correr_unlock, correr_get,
          Option.bind_some, hrot, deref, Option.elim, correr_pure, correr_modify]
      obtain ⟨-, ⟨x, hx, hs⟩ | ⟨hr, -, -⟩⟩ := getPcbOtrosExec_some hbusca
      · exact absurd ⟨cpu, x, _, k₁, ⟨hf, hk₁.symm⟩, hs⟩ hn
      · have hcae := servidor_corre e soc (p := p) (b := []) (w := [])
          (f := fun aux => terminarProceso soc tipo cpu aux >>= f) hbusca
        rw [hr] at hcae
        exact ⟨_, hrun.trans hcae⟩

/-- A question that the kernel answers with `llamada_erronea`, of a CPU whose record names no process
in execution: neither of the two goes on. -/
lemma pregunta_cae {α : Type} {f : MenComun → Cpu.Prog α} {men : MenComun} (tipo : ℤ)
    (g : Unit → Hilo Unit) (hn : ¬ k.Ejecutando soc)
    (h : ∀ p : Dialog Cpu.Evento Cpu.Evento.Respuesta (α × Cpu.Estado),
      Avanzan e soc ⟨p, (), [], manejar soc men k, [], []⟩
        ⟨p, (), [], (llamadaErronea soc tipo >>= g) k, [], []⟩) :
    ∃ next, Avanzan e soc
      (inicioDe (Cpu.Prog.enviarKernel (.comun men) >>= fun _ => Cpu.Prog.recvKernel >>= f) s k)
      ⟨(Cpu.Prog.recvKernel >>= f) s, (), [], .ask .caida next, [], []⟩ := by
  have hdice := cpu_dice e soc (s := s) (b := []) (w := []) (q := [])
    (fun _ => Cpu.Prog.recvKernel >>= f) (.comun men) (.ret ((), k))
  have hrecibe := servidor_recibe e soc (k := k) (p := (Cpu.Prog.recvKernel >>= f) s) (b := [])
    (w := []) (q := []) men
  obtain ⟨next, hcae⟩ := llamadaErronea_cae e soc tipo g hn ((Cpu.Prog.recvKernel >>= f) s)
  exact ⟨next, ((hdice.trans hrecibe).trans (h _)).trans hcae⟩

section Libre

variable (hn : ¬ k.Ejecutando soc) (hx : 0 ∉ x) (hv : k.diccVar x = none)

include hn hx hv

/-- The kernel falls when the CPU reads a variable that there is not. -/
lemma obtiene_cae : ∃ next, Avanzan e soc (inicioDe (Cpu.obtenerValorCompartida x) s k)
    ⟨(Cpu.Prog.recvKernel >>= trasObtener) s, (), [], .ask .caida next, [], []⟩ := by
  refine pregunta_cae e soc s (f := trasObtener) varInex (fun _ => unlock .diccVar) hn fun p => ?_
  have hcerrado := servidor_corre e soc (p := p) (b := []) (w := []) (q := [])
    (f := fun _ => obtenerCerrado soc (porNombre obtenerValor x)) (correr_lock .diccVar (k := k))
  rw [obtenerCerrado_inex soc x hx hv] at hcerrado
  rw [← porNombre, manejar_obtener]
  exact hcerrado

/-- The kernel falls when the CPU writes a variable that there is not. -/
lemma asigna_cae : ∃ next, Avanzan e soc (inicioDe (Cpu.asignarValorCompartida x v) s k)
    ⟨(Cpu.Prog.recvKernel >>= trasGrabar v) s, (), [], .ask .caida next, [], []⟩ := by
  refine pregunta_cae e soc s (f := trasGrabar v) varInex pure hn fun p => ?_
  have hcerrado := servidor_corre e soc (p := p) (b := []) (w := []) (q := [])
    (f := fun _ => grabarCerrado soc (porNombre grabarValor x)) (correr_lock .diccVar (k := k))
  rw [grabarCerrado_inex soc x hx hv] at hcerrado
  have hsuelta := servidor_corre e soc (p := p) (b := []) (w := []) (q := [])
    (f := fun _ => llamadaErronea soc varInex)
    (show correr (unlock .diccVar) k ⟨[], []⟩ = some (((), k), ⟨[], []⟩) from rfl)
  rw [← porNombre, manejar_grabar, bind_pure]
  exact hcerrado.trans hsuelta

end Libre

end Exchanges

/-! ### Requests -/

/-- A name is a string of C, and a value an `int`. -/
def PideCpu : Access (List Byte) ℤ → Prop
  | .read x => 0 ∉ x
  | .write x v => 0 ∉ x ∧ EsInt32 v

/-- The primitive that makes the request. -/
def primitivaDe : Access (List Byte) ℤ → Cpu.Prog ℤ
  | .read x => Cpu.obtenerValorCompartida x
  | .write x v => Cpu.asignarValorCompartida x v

/-- What the primitive is to give, for a variable that there is. -/
def valorDe (d : List Byte → Option ℤ) : Access (List Byte) ℤ → ℤ
  | .read x => (d x).getD 0
  | .write _ v => v

/-- The kernel after the request, for a variable that there is. -/
def hecho (k : Estado) : Access (List Byte) ℤ → Estado
  | .read _ => k
  | .write x v => k.conVar x v

lemma hecho_diccVar {k : Estado} {a : Access (List Byte) ℤ} (h : (k.diccVar a.key).isSome) :
    (hecho k a).diccVar = a.apply k.diccVar := by
  cases a with
  | read x => rfl
  | write x v =>
    rw [Access.apply, if_pos (show (k.diccVar x).isSome from h)]
    rfl

/-- The values of the variables are those of an `int`. -/
def ValoresInt32 (k : Estado) : Prop := ∀ x v, k.diccVar x = some v → EsInt32 v

/-- How the exchange of a request ends: the variable is there and the kernel does what is asked, or
it is not, and the process ends; if the process has ended before, so does the kernel. -/
inductive Final (soc : ℤ) (k : Estado) (a : Access (List Byte) ℤ) (s : Cpu.Estado) :
    Conversacion ℤ → Prop
  | hay {salida} : (k.diccVar a.key).isSome →
      Final soc k a s (finDe (valorDe k.diccVar a) s (hecho k a) salida)
  | inex {v k' salida} : k.diccVar a.key = none → k.Ejecutando soc → k.Expulsa varInex soc k' →
      Final soc k a s (finDe v (s.conFin true) k' salida)
  | cae {f next} : k.diccVar a.key = none → ¬ k.Ejecutando soc →
      Final soc k a s ⟨(Cpu.Prog.recvKernel >>= f) s, (), [], .ask .caida next, [], []⟩

section Final

variable (e : Entorno) (soc : ℤ) {k k' : Estado} {a : Access (List Byte) ℤ} {s s' : Cpu.Estado}

/-- **Every exchange comes to one of these ends.** -/
theorem exists_final (hv : ValoresInt32 k) (ha : PideCpu a) :
    ∃ d, Final soc k a s d ∧ Avanzan e soc (inicioDe (primitivaDe a) s k) d := by
  cases hd : k.diccVar a.key with
  | some w =>
    cases a with
    | read x =>
      obtain ⟨salida, hrun⟩ := obtiene_hay e soc s ha hd (hv x w hd)
      have hw : valorDe k.diccVar (.read x) = w := by
        rw [valorDe, show k.diccVar x = some w from hd, Option.getD_some]
      exact ⟨_, .hay (by rw [hd]; rfl), hw ▸ hrun⟩
    | write x v =>
      obtain ⟨salida, hrun⟩ := asigna_hay e soc s ha.1 hd ha.2
      exact ⟨_, .hay (by rw [hd]; rfl), hrun⟩
  | none =>
    by_cases ho : k.Ejecutando soc
    · cases a with
      | read x =>
        obtain ⟨k', salida, hexp, hrun⟩ := obtiene_inex e soc s ho ha hd
        exact ⟨_, .inex hd ho hexp, hrun⟩
      | write x v =>
        obtain ⟨k', salida, hexp, hrun⟩ := asigna_inex e soc s (v := v) ho ha.1 hd
        exact ⟨_, .inex hd ho hexp, hrun⟩
    · cases a with
      | read x =>
        obtain ⟨next, hrun⟩ := obtiene_cae e soc s ho ha hd
        exact ⟨_, .cae hd ho, hrun⟩
      | write x v =>
        obtain ⟨next, hrun⟩ := asigna_cae e soc s (v := v) ho ha.1 hd
        exact ⟨_, .cae hd ho, hrun⟩

variable {soc} {d : Conversacion ℤ}

/-- Nothing goes on from an end. -/
lemma Final.not_step (h : Final soc k a s d) (c : Conversacion ℤ) : ¬ Avanza e soc d c := by
  cases h with
  | hay => exact finDe_not_step e soc _ _ _ _ c
  | inex => exact finDe_not_step e soc _ _ _ _ c
  | cae =>
    refine caida_not_step e soc ?_ c
    rintro _ _ ⟨⟩
    rfl

/-- No message is left unread. -/
lemma Final.vacias (h : Final soc k a s d) : d.inbox = [] ∧ d.requests = [] := by
  cases h <;> exact ⟨rfl, rfl⟩

/-- **Every order of steps comes to the same end.** -/
theorem Final.ends (h : Final soc k a s d) (hrun : Avanzan e soc (inicioDe (primitivaDe a) s k) d) :
    Ends (Avanza e soc) (inicioDe (primitivaDe a) s k) d := by
  obtain ⟨n, hn⟩ := steps_of_reflTransGen hrun
  exact ends_of_steps (Duet.diamond e.cpu (servidor soc) (servir soc)) hn (h.not_step e)

/-- What has been done when the primitive has given its value. -/
lemma final_de_finDe {v : ℤ} {salida : List Salida} (hv : ValoresInt32 k) (ha : PideCpu a)
    (h : Avanzan e soc (inicioDe (primitivaDe a) s k) (finDe v s' k' salida)) :
    Final soc k a s (finDe v s' k' salida) := by
  obtain ⟨d, hd, hrun⟩ := exists_final e soc (s := s) hv ha
  obtain ⟨n, hn⟩ := steps_of_reflTransGen h
  have hends := ends_of_steps (Duet.diamond e.cpu (servidor soc) (servir soc)) hn
    (finDe_not_step e soc v s' k' salida)
  rwa [hends.unique (hd.ends e hrun)]

end Final

lemma expulsa_diccVar {k k' : Estado} {tipo soc : ℤ} (h : k.Expulsa tipo soc k') :
    k'.diccVar = k.diccVar := by
  obtain ⟨cpu, x, k₁, ⟨k₀, ⟨-, rfl⟩, pre, post, -, -, -, rfl⟩, rfl⟩ := h
  rfl

/-! ### Runs -/

/-- A request that has been served: the CPU, what it asked for and the value it got. -/
structure Servicio where
  soc : ℤ
  pedido : Access (List Byte) ℤ
  valor : ℤ

/-- A run of the kernel with any number of CPUs, and the requests it has served, the last one first.
In between the kernel makes any steps that serve none. The exchange of a request is made of steps of
the CPU and the kernel, in any order. -/
inductive Corrida (metadata : List Byte → MetadataProgram) (config : Config) (socUmv : ℤ) :
    List Servicio → Estado → Prop
  | inicio : Corrida metadata config socUmv [] (inicial config socUmv)
  | otro {h k k' p} : Corrida metadata config socUmv h k → Admitido k p → p.Ajeno →
      p.hacer metadata k = some k' → Corrida metadata config socUmv h k'
  | sirve {h k k' e soc a v s s' salida} : Corrida metadata config socUmv h k → PideCpu a →
      Avanzan e soc (inicioDe (primitivaDe a) s k) (finDe v s' k' salida) →
      Corrida metadata config socUmv (⟨soc, a, v⟩ :: h) k'

/-- The value of the last `asignarValorCompartida` of the name. -/
def ultimo (x : List Byte) (h : List Servicio) : ℤ :=
  (Access.lastWrite x (h.map Servicio.pedido)).getD 0

section Corrida

variable {metadata : List Byte → MetadataProgram} {config : Config} {socUmv : ℤ}
  {h : List Servicio} {k : Estado}

lemma dictionaryPut_cero (x : List Byte) (l : List (List Byte)) :
    dictionaryPut (l.map fun e => (e, (0 : ℤ))) x = if x ∈ l then some 0 else none := by
  induction l using List.reverseRecOn with
  | nil => rfl
  | append_singleton l y ih =>
    have hput : dictionaryPut ((l ++ [y]).map fun e => (e, (0 : ℤ)))
        = Function.update (dictionaryPut (l.map fun e => (e, (0 : ℤ)))) y (some 0) := by
      simp [dictionaryPut]
    rw [hput]
    rcases eq_or_ne x y with rfl | hxy
    · simp
    · rw [Function.update_of_ne hxy, ih]
      simp [hxy]

/-- The first values. -/
lemma inicial_diccVar (x : List Byte) : (inicial config socUmv).diccVar x
    = if x ∈ config.variablesGlobales then some 0 else none := dictionaryPut_cero x _

/-- What a served request has done. -/
lemma Final.hecho {soc v : ℤ} {a : Access (List Byte) ℤ} {s s' : Cpu.Estado} {k' : Estado}
    {salida : List Salida} (h : Final soc k a s (finDe v s' k' salida)) :
    ((k.diccVar a.key).isSome ∧ v = valorDe k.diccVar a ∧ k' = Kernel.hecho k a) ∨
      (k.diccVar a.key = none ∧ k.Expulsa varInex soc k') := by
  cases h with
  | hay hd => exact .inl ⟨hd, rfl, rfl⟩
  | inex hd _ he => exact .inr ⟨hd, he⟩

lemma Final.diccVar {soc v : ℤ} {a : Access (List Byte) ℤ} {s s' : Cpu.Estado} {k' : Estado}
    {salida : List Salida} (h : Final soc k a s (finDe v s' k' salida)) :
    k'.diccVar = a.apply k.diccVar := by
  rcases h.hecho with ⟨hd, -, rfl⟩ | ⟨hd, he⟩
  · exact hecho_diccVar hd
  · rw [expulsa_diccVar he, Access.apply_of_none hd]

lemma ValoresInt32.apply {a : Access (List Byte) ℤ} {k' : Estado} (hv : ValoresInt32 k)
    (ha : PideCpu a) (h : k'.diccVar = a.apply k.diccVar) : ValoresInt32 k' := by
  intro y w hy
  rw [h] at hy
  rcases eq_or_ne y a.key with rfl | hne
  · cases a with
    | read x => exact hv _ _ hy
    | write x v =>
      rw [Access.apply] at hy
      split at hy
      · obtain rfl : v = w := by simpa [Access.key] using hy
        exact ha.2
      · exact hv _ _ hy
  · rw [Access.apply_of_ne _ hne] at hy
    exact hv _ _ hy

/-- **The kernel keeps the registers**: what the requests do to them one after the other is what
they are. -/
lemma Corrida.invariante (hc : Corrida metadata config socUmv h k) :
    (∃ w, Refleja k w ∧ w.Bien) ∧ ValoresInt32 k ∧
      k.diccVar = (h.map Servicio.pedido).foldr Access.apply (inicial config socUmv).diccVar := by
  induction hc with
  | inicio =>
    refine ⟨⟨_, refleja_inicial config socUmv, Vista.inicial_bien _⟩, fun x v hx => ?_, rfl⟩
    rw [inicial_diccVar] at hx
    split at hx
    · obtain rfl := Option.some.inj hx
      exact ⟨by norm_num, by norm_num⟩
    · exact absurd hx nofun
  | otro _ hadm haj hp ih =>
    obtain ⟨⟨w, hw, hb⟩, hv, hd⟩ := ih
    obtain ⟨w', hm, hw'⟩ := hw.hacer hb hadm hp
    have hdicc := haj.diccVar hp
    refine ⟨⟨w', hw', Mueve.bien hm hb⟩, ?_, hdicc.trans hd⟩
    rwa [ValoresInt32, hdicc]
  | sirve _ ha hrun ih =>
    obtain ⟨⟨w, hw, hb⟩, hv, hd⟩ := ih
    have hfinal := final_de_finDe _ hv ha hrun
    refine ⟨?_, hv.apply ha hfinal.diccVar, ?_⟩
    · rcases hfinal.hecho with ⟨-, -, rfl⟩ | ⟨-, he⟩
      · refine ⟨w, ?_, hb⟩
        rename_i a _ _ _ _ _
        cases a with
        | read x => exact hw
        | write x v => exact ⟨hw.colas, hw.cpus, hw.sem, hw.vivos, hw.contador⟩
      · obtain ⟨w', ht, hw'⟩ := hw.expulsa hb he
        exact ⟨w', hw', ht.bien hb⟩
    · rw [hfinal.diccVar, hd]
      rfl

/-- Each variable of the configuration has the value last written. -/
lemma Corrida.diccVar_eq (hc : Corrida metadata config socUmv h k) (x : List Byte) :
    k.diccVar x = if x ∈ config.variablesGlobales then some (ultimo x h) else none := by
  rw [hc.invariante.2.2, Access.foldr_apply, inicial_diccVar]
  split
  · rfl
  · rfl

/-- Steps that serve no request go on with a run. -/
lemma Corrida.pasos : ∀ {pasos : List Paso} {k k' : Estado}, Corrida metadata config socUmv h k →
    Along (Paso.hacer metadata) Admitido pasos k → (∀ p ∈ pasos, p.Ajeno) →
    run (Paso.hacer metadata) pasos k = some k' → Corrida metadata config socUmv h k'
  | [], _, _, hc, _, _, hr => Option.some.inj hr ▸ hc
  | p :: _, _, _, hc, hadm, haj, hr => by
    obtain ⟨k₁, hp, hr⟩ := run_cons hr
    exact (hc.otro hadm.1 (haj p List.mem_cons_self) hp).pasos (hadm.2 k₁ hp)
      (fun q hq => haj q (List.mem_cons_of_mem p hq)) hr

/-- The run up to a request. -/
lemma Corrida.antes {h₁ h₂ : List Servicio} {sv : Servicio}
    (hc : Corrida metadata config socUmv (h₂ ++ sv :: h₁) k) : ∃ k₁ k₂ e s s' salida,
      Corrida metadata config socUmv h₁ k₁ ∧ PideCpu sv.pedido ∧
        Avanzan e sv.soc (inicioDe (primitivaDe sv.pedido) s k₁) (finDe sv.valor s' k₂ salida) := by
  generalize hl : h₂ ++ sv :: h₁ = l at hc
  induction hc generalizing h₂ with
  | inicio => exact absurd hl (by simp)
  | otro _ _ _ _ ih => exact ih hl
  | sirve hc ha hrun ih =>
    rcases h₂ with _ | ⟨t, h₂⟩
    · obtain ⟨rfl, rfl⟩ := List.cons.inj hl
      exact ⟨_, _, _, _, _, _, hc, ha, hrun⟩
    · exact ih (List.cons.inj hl).2

/-- **Shared variables are registers.** In every run, with any number of CPUs, any requests in any
order and any order of steps in each exchange: every variable of the configuration has the value
last written, or 0; every request to read one has got the value last written before it; and an
exchange that begins now comes to its end in every order of steps, with no message left unread, and
when the variable is there, or the CPU runs a process, that is with a value for the CPU and the
other variables as they were. -/
theorem corrida_lineal (hc : Corrida metadata config socUmv h k) :
    (∀ x, k.diccVar x = if x ∈ config.variablesGlobales then some (ultimo x h) else none) ∧
    (∀ h₂ sv h₁ x, h = h₂ ++ sv :: h₁ → sv.pedido = .read x → x ∈ config.variablesGlobales →
      sv.valor = ultimo x h₁) ∧
    ∀ e soc a s, PideCpu a → ∃ d, Ends (Avanza e soc) (inicioDe (primitivaDe a) s k) d ∧
      (∀ c, ¬ Avanza e soc d c) ∧ d.inbox = [] ∧ d.requests = [] ∧
      ((k.diccVar a.key).isSome ∨ Ocupada k soc → ∃ v s' k' salida,
        d = finDe v s' k' salida ∧ ∀ y ≠ a.key, k'.diccVar y = k.diccVar y) := by
  refine ⟨hc.diccVar_eq, ?_, ?_⟩
  · rintro h₂ ⟨soc, a, v⟩ h₁ x rfl rfl hx
    obtain ⟨k₁, k₂, e, s, s', salida, hc₁, ha, hrun⟩ := hc.antes
    obtain ⟨-, hv, -⟩ := hc₁.invariante
    have hd : k₁.diccVar x = some (ultimo x h₁) := by rw [hc₁.diccVar_eq, if_pos hx]
    rcases (final_de_finDe e hv ha hrun).hecho with ⟨-, hval, -⟩ | ⟨hn, -⟩
    · rw [valorDe, hd] at hval
      exact hval
    · exact absurd (hd.symm.trans hn) nofun
  · intro e soc a s ha
    obtain ⟨⟨w, hw, hb⟩, hv, -⟩ := hc.invariante
    obtain ⟨d, hd, hrun⟩ := exists_final e soc (s := s) hv ha
    refine ⟨d, hd.ends e hrun, hd.not_step e, hd.vacias.1, hd.vacias.2, fun hor => ?_⟩
    cases hd with
    | hay hs =>
      refine ⟨_, _, _, _, rfl, fun y hy => ?_⟩
      rw [hecho_diccVar hs, Access.apply_of_ne _ hy]
    | inex _ _ he => exact ⟨_, _, _, _, rfl, fun y _ => by rw [expulsa_diccVar he]⟩
    | cae hn ho =>
      rcases hor with hor | ⟨cpu, hf, h0⟩
      · exact absurd hor (by simp [hn])
      · obtain ⟨x, k₁, -, -, ht⟩ := (hw.conservado hb).ejecutando hf h0
        exact absurd ⟨cpu, x, k₁, ht⟩ ho

end Corrida

/-- Surroundings of a CPU that have nothing. -/
def sinEntorno : Entorno := ⟨fun _ => crearMenComun menAlmOk [], false, fun _ _ _ => -1, fun _ => 0⟩

/-- A CPU writes the least `int` into the variable `c`, and reads it. -/
theorem corrida_lineal_minimo : ∃ k, Corrida unaInstruccion unLugar 4
    [⟨5, .read [99], -2 ^ 31⟩, ⟨5, .write [99] (-2 ^ 31), -2 ^ 31⟩] k ∧
      k.diccVar [99] = some (-2 ^ 31) := by
  have hvida : ∃ k, run (Paso.hacer unaInstruccion) vidaHastaExec (inicial unLugar 4) = some k ∧
    k.diccVar [99] = some 0 := ⟨_, rfl, rfl⟩
  obtain ⟨k, hrun, hvar⟩ := hvida
  have hmin : EsInt32 (-2 ^ 31) := ⟨by norm_num, by norm_num⟩
  have hclave : (0 : Byte) ∉ ([99] : List Byte) := by decide
  have hini : Corrida unaInstruccion unLugar 4 [] (inicial unLugar 4) := .inicio
  have hcorre := hini.pasos (vidaHastaExec_guarda.mono fun _ _ h => h.1.1)
    (by simp [vidaHastaExec, llegada, Paso.Ajeno]) hrun
  obtain ⟨_, hescribe⟩ := asigna_hay sinEntorno 5 (Cpu.arranque Cpu.unPcb) hclave hvar hmin
  have hvar' : (k.conVar [99] (-2 ^ 31)).diccVar [99] = some (-2 ^ 31) := by
    rw [Estado.conVar_diccVar, Function.update_self]
  obtain ⟨_, hlee⟩ := obtiene_hay sinEntorno 5 (Cpu.arranque Cpu.unPcb) hclave hvar' hmin
  have hfin := (hcorre.sirve (a := .write [99] (-2 ^ 31)) ⟨hclave, hmin⟩ hescribe).sirve
    (a := .read [99]) hclave hlee
  exact ⟨_, hfin, (corrida_lineal hfin).1 [99]⟩

end Ansisop.Kernel
