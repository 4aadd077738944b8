import Ansisop.Cpu.Program
import Ansisop.Kernel.Fault
import Ansisop.Lib.Duet

/-!
A CPU and the kernel on the connection between them: the program of the CPU is the client, and the
kernel serves each message that comes with `administrar_men_cpus`. While it serves one no other
thread of the kernel interferes (`respuestaAtomica`).

The UMV and the parser library are the surroundings of the CPU. A run of a function of the kernel
that has all its messages is a run of the server (`servir`).
-/

namespace Ansisop.Kernel

open Ansisop.Sockets Ansisop.Lib
open TipoDatos hiding signal wait

/-! ### The two parties -/

/-- What answers a CPU besides the kernel. -/
structure Entorno where
  umv : MenCpuUmv → MenComun
  quitSistema : Bool
  buscarEtiqueta : List Byte → Cpu.Etiquetas → ℤ → ℤ
  basura : ℕ → Byte

/-- The answer to an action of a CPU, with the messages of the kernel that have come. -/
def Entorno.responde (e : Entorno) : (a : Cpu.Evento) → List Mensaje →
    Option (a.Respuesta × List Mensaje × List Mensaje)
  | .enviarKernel men, q => some ((), q, [men])
  | .recvKernel, .comun men :: q => some (men, q, [])
  | .recvKernel, _ => none
  | .enviarUmv _, q => some ((), q, [])
  | .pedirUmv men, q => some (e.umv men, q, [])
  | .quitSistema, q => some (e.quitSistema, q, [])
  | .buscarEtiqueta nombre etiquetas tam, q => some (e.buscarEtiqueta nombre etiquetas tam, q, [])
  | .basura _, q => some (fun i => e.basura i, q, [])
  | .analizar _, q => some ((), q, [])
  | .primitiva _ _, q => some ((), q, [])
  | .caida, _ => none

lemma Entorno.responde_append {e : Entorno} {a : Cpu.Evento} {q : List Mensaje}
    {x : a.Respuesta × List Mensaje × List Mensaje} (h : e.responde a q = some x)
    (l : List Mensaje) : e.responde a (q ++ l) = some (x.1, x.2.1 ++ l, x.2.2) := by
  cases a with
  | recvKernel =>
    rcases q with _ | ⟨_ | _ | _ | _, q⟩
    · exact absurd h nofun
    · obtain rfl := Option.some.inj h
      rfl
    all_goals exact absurd h nofun
  | caida => exact absurd h nofun
  | _ =>
    obtain rfl := Option.some.inj h
    rfl

/-- The CPU. -/
def Entorno.cpu (e : Entorno) : Party Cpu.Evento Cpu.Evento.Respuesta Unit Mensaje where
  answer a _ q := (e.responde a q).map fun x => (x.1, (), x.2)
  mono := by
    intro a _ q r l h
    obtain ⟨x, hx, rfl⟩ := Option.map_eq_some_iff.1 h
    rw [e.responde_append hx l]
    rfl

/-- What is sent goes behind what has been sent. -/
lemma respuestaAtomica_salida (a : Evento) (q : List Mensaje) (s : List Salida) :
    respuestaAtomica a ⟨q, s⟩ = (respuestaAtomica a ⟨q, []⟩).map fun x =>
      (x.1, ⟨x.2.entrada, s ++ x.2.salida⟩) := by
  cases a with
  | recvComun soc k => rcases q with _ | ⟨_ | _ | _ | _, q⟩ <;> simp [respuestaAtomica]
  | recvQuantumPcb soc k => rcases q with _ | ⟨_ | _ | _ | _, q⟩ <;> simp [respuestaAtomica]
  | decre sem k =>
    simp only [respuestaAtomica]
    split <;> simp
  | decreIo disp k =>
    simp only [respuestaAtomica]
    split <;> simp
  | _ => simp [respuestaAtomica]

/-- Messages that come later are left for later. -/
lemma respuestaAtomica_append {a : Evento} {q : List Mensaje} {x : a.Respuesta × Bandeja}
    (h : respuestaAtomica a ⟨q, []⟩ = some x) (l : List Mensaje) :
    respuestaAtomica a ⟨q ++ l, []⟩ = some (x.1, ⟨x.2.entrada ++ l, x.2.salida⟩) := by
  cases a with
  | recvComun soc k =>
    rcases q with _ | ⟨_ | _ | _ | _, q⟩
    · cases h
    · obtain rfl := Option.some.inj h
      rfl
    all_goals cases h
  | recvQuantumPcb soc k =>
    rcases q with _ | ⟨_ | _ | _ | _, q⟩
    · cases h
    · cases h
    · obtain rfl := Option.some.inj h
      rfl
    all_goals cases h
  | decre sem k =>
    simp only [respuestaAtomica] at h ⊢
    split at h <;> simp_all
    obtain rfl := h
    rfl
  | decreIo disp k =>
    simp only [respuestaAtomica] at h ⊢
    split at h
    · obtain rfl := Option.some.inj h
      simp [*]
    · cases h
  | caida => cases h
  | _ =>
    obtain rfl := Option.some.inj h
    rfl

/-- The messages among what is sent that are for the CPU of the socket. -/
def paraCpu (soc : ℤ) (l : List Salida) : List Mensaje :=
  l.filterMap fun
    | .enviado soc' men => if soc' = soc then some men else none
    | .cerrado _ => none

/-- The kernel, which has written down all it has sent. -/
def servidor (soc : ℤ) : Party Evento Evento.Respuesta (List Salida) Mensaje where
  answer a w q := (respuestaAtomica a ⟨q, []⟩).map fun x =>
    (x.1, w ++ x.2.salida, x.2.entrada, paraCpu soc x.2.salida)
  mono := by
    intro a w q r l h
    obtain ⟨x, hx, rfl⟩ := Option.map_eq_some_iff.1 h
    rw [respuestaAtomica_append hx l]
    rfl

@[simp] lemma paraCpu_nil (soc : ℤ) : paraCpu soc [] = [] := rfl

@[simp] lemma paraCpu_enviado (soc : ℤ) (men : Mensaje) (l : List Salida) :
    paraCpu soc (.enviado soc men :: l) = men :: paraCpu soc l := by simp [paraCpu]

lemma paraCpu_append (soc : ℤ) (l l' : List Salida) :
    paraCpu soc (l ++ l') = paraCpu soc l ++ paraCpu soc l' := List.filterMap_append

/-- A call of the kernel with all its messages is a run of the server by itself. -/
lemma interp_servidor (soc : ℤ) {α : Type} : ∀ {x : Dialog Evento Evento.Respuesta α}
    {q q' : List Mensaje} {s s' w : List Salida} {b : List Mensaje} {y : α},
    x.interp respuestaAtomica ⟨q, s⟩ = some (y, ⟨q', s'⟩) → ∃ l, s' = s ++ l ∧
      x.interp (servidor soc).solo (w, q, b) = some (y, w ++ l, q', b ++ paraCpu soc l)
  | .ret y, _, _, s, _, _, _, _, h => by
    obtain ⟨rfl, rfl, rfl⟩ := by simpa using h
    exact ⟨[], by simp, by simp [paraCpu]⟩
  | .ask a next, q, q', s, s', w, b, y, h => by
    rw [Dialog.interp_ask, respuestaAtomica_salida] at h
    obtain ⟨_, h₁, h₂⟩ := Option.bind_eq_some_iff.1 h
    obtain ⟨x, hx, rfl⟩ := Option.map_eq_some_iff.1 h₁
    obtain ⟨l, rfl, hrun⟩ := interp_servidor soc (w := w ++ x.2.salida)
      (b := b ++ paraCpu soc x.2.salida) h₂
    refine ⟨x.2.salida ++ l, by simp, ?_⟩
    have hsolo : (servidor soc).solo a (w, q, b)
        = some (x.1, w ++ x.2.salida, x.2.entrada, b ++ paraCpu soc x.2.salida) := by
      simp [Party.solo, servidor, hx]
    rw [Dialog.interp_ask, hsolo, Option.bind_some, hrun, paraCpu_append]
    simp

/-- `administrar_men_cpus` once it has its message: the handler is chosen by the kind. -/
def manejar (soc : ℤ) (men : MenComun) : Hilo Unit :=
  if men.tipo = conecCerrada then conecCerradaCpu soc
  else if men.tipo = TipoDatos.finQuantum then finQuantum soc men
  else if men.tipo = TipoDatos.finEjecucion then finEjecucion TipoDatos.finEjecucion soc
  else if men.tipo = segmenFault then finEjecucion segmenFault soc
  else if men.tipo = TipoDatos.imprimirTexto then imprimirTexto soc men
  else if men.tipo = TipoDatos.imprimirValor then imprimirValor soc men
  else if men.tipo = obtenerValor then obtenerValorCompartida soc men
  else if men.tipo = grabarValor then grabarValorCompartida soc men
  else if men.tipo = TipoDatos.wait then wait soc men
  else if men.tipo = TipoDatos.signal then signal soc men
  else if men.tipo = ioId then enviarIo soc men
  else pure ()

lemma correr_administrarMenCpus {soc : ℤ} {men : MenComun} {k : Estado} {l : List Mensaje}
    {salida : List Salida} : correr (administrarMenCpus soc) k ⟨.comun men :: l, salida⟩ =
      correr (manejar soc men) k ⟨l, salida⟩ := rfl

/-- The message that names something, with the handler of its kind. -/
def porNombre (tipo : TipoDatos) (x : List Byte) : MenComun := crearMenComun tipo (cString x)

section Manejar

variable (soc : ℤ) (x : List Byte)

lemma manejar_obtener : manejar soc (porNombre obtenerValor x)
    = obtenerValorCompartida soc (porNombre obtenerValor x) := by
  simp [manejar, porNombre, crearMenComun]

lemma manejar_grabar : manejar soc (porNombre grabarValor x)
    = grabarValorCompartida soc (porNombre grabarValor x) := by
  simp [manejar, porNombre, crearMenComun]

lemma manejar_wait : manejar soc (porNombre TipoDatos.wait x)
    = wait soc (porNombre TipoDatos.wait x) := by
  simp [manejar, porNombre, crearMenComun]

lemma manejar_signal : manejar soc (porNombre TipoDatos.signal x)
    = signal soc (porNombre TipoDatos.signal x) := by
  simp [manejar, porNombre, crearMenComun]

lemma manejar_ioId : manejar soc (porNombre ioId x) = enviarIo soc (porNombre ioId x) := by
  simp [manejar, porNombre, crearMenComun]

end Manejar

/-! ### The connection -/

/-- A CPU and the kernel, with the messages on their way in both directions. -/
abbrev Conversacion (α : Type) :=
  Duet Cpu.Evento Cpu.Evento.Respuesta Evento Evento.Respuesta Unit (List Salida) Mensaje
    (α × Cpu.Estado) (Unit × Estado)

/-- The kernel serves a message of the CPU of the socket. -/
def servir (soc : ℤ) (r : Unit × Estado) : Dialog Evento Evento.Respuesta (Unit × Estado) :=
  administrarMenCpus soc r.2

/-- The steps of the conversation. -/
abbrev Avanza (e : Entorno) (soc : ℤ) {α : Type} :
    Conversacion α → Conversacion α → Prop := Duet.Step e.cpu (servidor soc) (servir soc)

abbrev Avanzan (e : Entorno) (soc : ℤ) {α : Type} :
    Conversacion α → Conversacion α → Prop := Relation.ReflTransGen (Avanza e soc)

/-- The CPU begins a call in the state `s`, while the kernel is in the state `k`. -/
def inicioDe {α : Type} (x : Cpu.Prog α) (s : Cpu.Estado) (k : Estado) : Conversacion α :=
  ⟨x s, (), [], .ret ((), k), [], []⟩

/-- The call has given the value `v`, the kernel waits, and every message has been read. -/
def finDe {α : Type} (v : α) (s : Cpu.Estado) (k : Estado) (salida : List Salida) : Conversacion α :=
  ⟨.ret (v, s), (), [], .ret ((), k), salida, []⟩

section Conversacion

variable (e : Entorno) (soc : ℤ) {α β : Type} {s : Cpu.Estado} {k k' : Estado} {q q' b : List Mensaje}
  {w l : List Salida} {p : Dialog Cpu.Evento Cpu.Evento.Respuesta (α × Cpu.Estado)}

/-- The CPU sends a message. -/
lemma cpu_dice (f : Unit → Cpu.Prog α) (men : Mensaje)
    (d : Dialog Evento Evento.Respuesta (Unit × Estado)) :
    Avanzan e soc ⟨(Cpu.Prog.enviarKernel men >>= f) s, (), b, d, w, q⟩
      ⟨f () s, (), b, d, w, q ++ [men]⟩ := by
  have hresp : e.cpu.answer (.enviarKernel men) () b = some ((), (), b, [men]) := rfl
  exact .single (.client hresp)

/-- The CPU takes the message that has come. -/
lemma cpu_oye (f : MenComun → Cpu.Prog α) (men : MenComun)
    (d : Dialog Evento Evento.Respuesta (Unit × Estado)) :
    Avanzan e soc ⟨(Cpu.Prog.recvKernel >>= f) s, (), .comun men :: b, d, w, q⟩
      ⟨f men s, (), b, d, w, q⟩ := by
  have hresp : e.cpu.answer .recvKernel () (.comun men :: b) = some (men, (), b, []) := rfl
  have hpaso : Avanza e soc ⟨(Cpu.Prog.recvKernel >>= f) s, (), .comun men :: b, d, w, q⟩
      ⟨f men s, (), b, d, w, q ++ []⟩ := .client hresp
  rw [List.append_nil] at hpaso
  exact .single hpaso

/-- A call of the kernel, in the conversation. -/
lemma servidor_corre {t : Hilo β} {f : β → Hilo Unit} {a : β}
    (h : correr t k ⟨q, []⟩ = some ((a, k'), ⟨q', l⟩)) :
    Avanzan e soc ⟨p, (), b, (t >>= f) k, w, q⟩
      ⟨p, (), b ++ paraCpu soc l, f a k', w ++ l, q'⟩ := by
  obtain ⟨l₀, hl₀, hsolo⟩ := interp_servidor soc (w := w) (b := []) h
  obtain ⟨l', hl', hrun⟩ := Duet.server_solo e.cpu (servidor soc) (servir soc) (p := p) (a := ())
    (f := fun r : β × Estado => f r.1 r.2) hsolo
  obtain rfl : l = l₀ := hl₀
  obtain rfl : paraCpu soc l = l' := hl'
  exact hrun b

/-- The kernel serves a message for which it has all it needs. -/
lemma servidor_sirve (hq : q ≠ [])
    (h : correr (administrarMenCpus soc) k ⟨q, []⟩ = some (((), k'), ⟨q', l⟩)) :
    Avanzan e soc ⟨p, (), b, .ret ((), k), w, q⟩
      ⟨p, (), b ++ paraCpu soc l, .ret ((), k'), w ++ l, q'⟩ := by
  have hcorre := servidor_corre e soc (p := p) (b := b) (w := w) (f := fun _ => pure ()) h
  rw [bind_pure_unit] at hcorre
  exact .head (.turn hq) hcorre

/-- The kernel turns to a message and takes it. -/
lemma servidor_recibe (men : MenComun) :
    Avanzan e soc ⟨p, (), b, .ret ((), k), w, .comun men :: q⟩ ⟨p, (), b, manejar soc men k, w, q⟩ := by
  have hrecibe := servidor_corre e soc (p := p) (b := b) (w := w) (f := manejar soc)
    (show correr (Hilo.recvComun soc) k ⟨.comun men :: q, []⟩ = some ((men, k), ⟨q, []⟩) from rfl)
  rw [paraCpu_nil, List.append_nil, List.append_nil] at hrecibe
  exact .head (.turn (List.cons_ne_nil _ _)) hrecibe

/-- **A question with one answer**: the CPU goes on with it, and the kernel waits again. -/
theorem pregunta {f : MenComun → Cpu.Prog α} {men r : MenComun}
    (h : correr (administrarMenCpus soc) k ⟨[.comun men], []⟩ = some (((), k'), ⟨[], l⟩))
    (hr : paraCpu soc l = [.comun r]) :
    Avanzan e soc (inicioDe (Cpu.Prog.enviarKernel (.comun men) >>= fun _ => Cpu.Prog.recvKernel >>= f) s k)
      ⟨f r s, (), [], .ret ((), k'), l, []⟩ := by
  have hdice := cpu_dice e soc (s := s) (b := []) (w := []) (q := [])
    (fun _ => Cpu.Prog.recvKernel >>= f) (.comun men) (.ret ((), k))
  have hsirve := servidor_sirve e soc (p := (Cpu.Prog.recvKernel >>= f) s) (b := []) (w := [])
    (List.cons_ne_nil _ _) h
  rw [hr] at hsirve
  exact (hdice.trans hsirve).trans (cpu_oye e soc f r _)

/-- An end is one: there is no step from it. -/
lemma finDe_not_step (v : α) (s : Cpu.Estado) (k : Estado) (salida : List Salida)
    (c : Conversacion α) : ¬ Avanza e soc (finDe v s k salida) c := by
  refine Duet.Idle.not_step e.cpu (servidor soc) (servir soc) ⟨?_, ?_, fun _ _ => rfl⟩
  · intro a next h
    exact absurd h nofun
  · intro a next h
    exact absurd h nofun

/-- A kernel that has fallen does nothing, and a CPU that is waiting for it does not either. -/
lemma caida_not_step {next : Evento.caida.Respuesta → Dialog Evento Evento.Respuesta (Unit × Estado)}
    (hp : ∀ a f, p = .ask a f → e.cpu.answer a () b = none) (c : Conversacion α) :
    ¬ Avanza e soc ⟨p, (), b, .ask .caida next, w, q⟩ c := by
  refine Duet.Idle.not_step e.cpu (servidor soc) (servir soc) ⟨hp, ?_, nofun⟩
  rintro _ _ ⟨⟩
  rfl

/-- A call that comes to a place where nothing goes on comes to no other. -/
lemma ends_eq {x : Cpu.Prog α} {c d : Conversacion α} (hc : Ends (Avanza e soc) (inicioDe x s k) c)
    (hd : Avanzan e soc (inicioDe x s k) d) (hn : ∀ c', ¬ Avanza e soc d c') : c = d := by
  obtain ⟨n, hsteps⟩ := steps_of_reflTransGen hd
  exact hc.unique (ends_of_steps (Duet.diamond e.cpu (servidor soc) (servir soc)) hsteps hn)

end Conversacion

/-! ### A CPU that says nothing -/

/-- No event leaves a message for the kernel or takes one of it, and the answers are those of the
surroundings. -/
def callada (e : Entorno) : Monitor Cpu.Evento Cpu.Evento.Respuesta Unit where
  allows _ a := ∀ x, e.responde a [] = some x → x.2 = ([], [])
  next _ a r _ := ∃ x, e.responde a [] = some x ∧ x.1 = r

section Callada

variable {e : Entorno} {soc : ℤ} {α : Type} {k : Estado}
  {p : Dialog Cpu.Evento Cpu.Evento.Respuesta (α × Cpu.Estado)} {Q : α × Cpu.Estado → Unit → Prop}

/-- The kernel stays as it is while the CPU goes on. -/
lemma callada_avanzan {c : Conversacion α} (hp : Dialog.Keeps (callada e) p () Q)
    (h : Avanzan e soc ⟨p, (), [], .ret ((), k), [], []⟩ c) :
    ∃ p', c = ⟨p', (), [], .ret ((), k), [], []⟩ ∧ Dialog.Keeps (callada e) p' () Q := by
  induction h with
  | refl => exact ⟨p, rfl, hp⟩
  | tail _ hpaso ih =>
    obtain ⟨p₁, rfl, hp₁⟩ := ih
    cases hpaso with
    | client hresp =>
      obtain ⟨x, hx, rfl⟩ := Option.map_eq_some_iff.1 hresp
      obtain ⟨hpermite, hsigue⟩ := hp₁
      have hvacio := hpermite x hx
      refine ⟨_, ?_, hsigue x.1 () ⟨x, hx, rfl⟩⟩
      simp [hvacio]
    | turn hq => exact absurd rfl hq

/-- **A call that says nothing leaves the kernel as it is.** -/
lemma callada_fin {x : Cpu.Prog α} {s s' : Cpu.Estado} {v : α} {k' : Estado} {salida : List Salida}
    (hx : Dialog.Keeps (callada e) (x s) () Q)
    (h : Avanzan e soc (inicioDe x s k) (finDe v s' k' salida)) : k' = k := by
  obtain ⟨p', heq, -⟩ := callada_avanzan hx h
  have hserver := congrArg Duet.server heq
  exact congrArg Prod.snd (Dialog.ret.inj hserver)

end Callada

end Ansisop.Kernel
