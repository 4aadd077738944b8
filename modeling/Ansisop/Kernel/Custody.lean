import Ansisop.Cpu.Footprint
import Ansisop.Kernel.Dialogue

/-!
What the kernel keeps of its processes. A `Custodio` says what is watched: a property of the pcbs in
the queues, one of what is sent, and a part of the globals that is to stay as it is. The property of
the pcbs may not look at the three fields that a CPU changes, nor at the reason of an end; then every
call of the kernel keeps it, whatever a CPU sends back (`Paso.custodia`), and what goes out has it.

One lemma a function, each from those of the functions it calls. Only `administrar_new_script` makes
a pcb.
-/

namespace Ansisop.Kernel

open Ansisop.Sockets Ansisop.Lib Hilo
open TipoDatos hiding signal wait

/-- What is watched: the processes, what is sent, and a part of the globals which the queues, the
semaphores, the CPUs, the dictionaries and the sets of sockets have no part in. -/
structure Custodio (β : Type) where
  pcb : PcbOtros → Prop
  sale : Salida → Prop
  fijo : Estado → β
  actualiza : ∀ {x : PcbOtros} (recibido : Pcb), pcb x → pcb { x with pcb := actualizar x.pcb recibido }
  termina : ∀ {x : PcbOtros} (tipo : ℤ), pcb x → pcb { x with tipoFinEjecucion := tipo }
  comun : ∀ soc men, sale (.enviado soc (.comun men))
  cierra : ∀ soc, sale (.cerrado soc)
  conCola : ∀ k c q, fijo (k.conCola c q) = fijo k
  conSem : ∀ k s n, fijo (k.conSem s n) = fijo k
  conCpus : ∀ k l, fijo (k.conCpus l) = fijo k
  conIo : ∀ k disp f, fijo (k.conIo disp f) = fijo k
  conSemaforo : ∀ k clave f, fijo (k.conSemaforo clave f) = fijo k
  conVar : ∀ k clave v, fijo (k.conVar clave v) = fijo k
  conSocCpus : ∀ k s, fijo (k.conSocCpus s) = fijo k
  conSocProgs : ∀ k s, fijo (k.conSocProgs s) = fijo k

namespace Custodio

variable {β : Type} (C : Custodio β)

/-- A process that is as it should be may be sent to a CPU, and be destroyed. -/
structure Permite : Prop where
  despacha : ∀ {x : PcbOtros} (soc quantum : ℤ), C.pcb x →
    C.sale (.enviado soc (.quantumPcb ⟨pcbYQuantum, quantum, x.pcb⟩))
  destruye : ∀ {x : PcbOtros} (soc : ℤ), C.pcb x →
    C.sale (.enviado soc (.seg ⟨destrSegs, x.pcb.id, 0⟩))

/-- The processes in the queues are as they should be, and so is what has been sent. -/
structure Vela (k : Estado) (salida : List Salida) : Prop where
  pcb : ∀ c x, some x ∈ k.colas c → C.pcb x
  sale : ∀ o ∈ salida, C.sale o

/-- A call that keeps what is watched, from a state whose fixed part is `f`, and whose result is one
of `Q`. -/
def Cuida {α : Type} (f : β) (t : Hilo α) (Q : α → Prop) : Prop :=
  ∀ k io a k' io', C.Vela k io.salida → C.fijo k = f → correr t k io = some ((a, k'), io') →
    C.Vela k' io'.salida ∧ C.fijo k' = f ∧ Q a

end Custodio

namespace Custodio

variable {β : Type} {C : Custodio β} {f : β}

section Partes

variable {α γ : Type}

/-! ### The parts of a call -/

lemma Vela.conCola {k : Estado} {l : List Salida} (h : C.Vela k l) {c : Cola}
    {q : List (Option PcbOtros)} (hq : ∀ x, some x ∈ q → C.pcb x) : C.Vela (k.conCola c q) l := by
  refine ⟨fun d x hx => ?_, h.sale⟩
  rw [Estado.conCola_colas] at hx
  rcases eq_or_ne d c with rfl | hd
  · rw [Function.update_self] at hx
    exact hq x hx
  · rw [Function.update_of_ne hd] at hx
    exact h.pcb d x hx

/-- A process that is taken out of a queue is one of it. -/
lemma Vela.saca {k k' : Estado} {l : List Salida} (h : C.Vela k l) {c : Cola} {p : PcbOtros → Bool}
    {x : PcbOtros} (hs : k.Saca c p x k') : C.Vela k' l ∧ C.fijo k' = C.fijo k ∧ C.pcb x := by
  obtain ⟨pre, post, hq, -, -, rfl⟩ := hs
  refine ⟨h.conCola fun y hy => h.pcb c y ?_, C.conCola _ _ _, h.pcb c x (by simp [hq])⟩
  rw [hq]
  rcases List.mem_append.1 hy with hy | hy <;> simp [hy]

namespace Cuida

lemma bind {t : Hilo α} {g : α → Hilo γ} {R : α → Prop} {Q : γ → Prop} (ht : C.Cuida f t R)
    (hg : ∀ a, R a → C.Cuida f (g a) Q) : C.Cuida f (t >>= g) Q := by
  intro k io b k' io' hv hf hr
  obtain ⟨a, k₁, io₁, h₁, h₂⟩ := correr_bind_some hr
  obtain ⟨hv₁, hf₁, ha⟩ := ht _ _ _ _ _ hv hf h₁
  exact hg a ha _ _ _ _ _ hv₁ hf₁ h₂

lemma pure {a : α} {Q : α → Prop} (h : Q a) : C.Cuida f (pure a) Q := by
  rintro k io b k' io' hv rfl hr
  obtain ⟨rfl, rfl, rfl⟩ := correr_some rfl hr
  exact ⟨hv, rfl, h⟩

lemma get : C.Cuida f (get : Hilo Estado) fun k => C.fijo k = f := by
  rintro k io b k' io' hv rfl hr
  obtain ⟨rfl, rfl, rfl⟩ := correr_some rfl hr
  exact ⟨hv, rfl, rfl⟩

/-- A change of globals that are not watched. -/
lemma modify {g : Estado → Estado} (hcolas : ∀ k, (g k).colas = k.colas)
    (hfijo : ∀ k, C.fijo (g k) = C.fijo k) : C.Cuida f (modify g : Hilo Unit) fun _ => True := by
  rintro k io a k' io' hv rfl hr
  obtain ⟨-, rfl, rfl⟩ := correr_some rfl hr
  exact ⟨⟨fun c x hx => hv.pcb c x (hcolas k ▸ hx), hv.sale⟩, hfijo k, trivial⟩

lemma lock (m : Mutex) : C.Cuida f (lock m) fun _ => True := by
  rintro k io a k' io' hv rfl hr
  obtain ⟨-, rfl, rfl⟩ := correr_some rfl hr
  exact ⟨hv, rfl, trivial⟩

lemma unlock (m : Mutex) : C.Cuida f (unlock m) fun _ => True := by
  rintro k io a k' io' hv rfl hr
  obtain ⟨-, rfl, rfl⟩ := correr_some rfl hr
  exact ⟨hv, rfl, trivial⟩

lemma enviar {soc : ℤ} {men : Mensaje} (h : C.sale (.enviado soc men)) :
    C.Cuida f (enviar soc men) fun _ => True := by
  rintro k io a k' io' hv rfl hr
  obtain ⟨-, rfl, rfl⟩ := correr_some rfl hr
  refine ⟨⟨hv.pcb, fun o ho => ?_⟩, rfl, trivial⟩
  rcases List.mem_append.1 ho with ho | ho
  · exact hv.sale o ho
  · exact List.mem_singleton.1 ho ▸ h

lemma enviarMenComun (soc tipo : ℤ) (dato : List Byte) :
    C.Cuida f (enviarMenComun soc tipo dato) fun _ => True := enviar (C.comun _ _)

lemma socketCerrar (soc : ℤ) : C.Cuida f (socketCerrar soc) fun _ => True := by
  rintro k io a k' io' hv rfl hr
  obtain ⟨-, rfl, rfl⟩ := correr_some rfl hr
  refine ⟨⟨hv.pcb, fun o ho => ?_⟩, rfl, trivial⟩
  rcases List.mem_append.1 ho with ho | ho
  · exact hv.sale o ho
  · exact List.mem_singleton.1 ho ▸ C.cierra soc

lemma recvComun (soc : ℤ) : C.Cuida f (recvComun soc) fun _ => True := by
  rintro k io a k' io' hv rfl hr
  obtain ⟨rfl, -, hsal⟩ := correr_recvComun_some hr
  exact ⟨⟨hv.pcb, hsal ▸ hv.sale⟩, rfl, trivial⟩

lemma recvQuantumPcb (soc : ℤ) : C.Cuida f (recvQuantumPcb soc) fun _ => True := by
  rintro k io a k' io' hv rfl hr
  obtain ⟨rfl, -, hsal⟩ := correr_recvQuantumPcb_some hr
  exact ⟨⟨hv.pcb, hsal ▸ hv.sale⟩, rfl, trivial⟩

lemma deref {a : Option α} {Q : α → Prop} (h : ∀ b, a = some b → Q b) : C.Cuida f (deref a) Q := by
  rintro k io b k' io' hv rfl hr
  obtain ⟨rfl, rfl, rfl⟩ := correr_deref_some hr
  exact ⟨hv, rfl, h b rfl⟩

lemma entero (x : ℤ) : C.Cuida f (entero x) fun y => y = x := by
  rintro k io a k' io' hv rfl hr
  obtain ⟨rfl, -, -, rfl, rfl⟩ := correr_entero_some hr
  exact ⟨hv, rfl, rfl⟩

lemma semDecre (s : Sem) : C.Cuida f (semDecre s) fun _ => True := by
  rintro k io a k' io' hv rfl hr
  obtain ⟨-, rfl, rfl⟩ := correr_semDecre_some hr
  exact ⟨⟨hv.pcb, hv.sale⟩, C.conSem _ _ _, trivial⟩

lemma semDecreIo (disp : List Byte) : C.Cuida f (semDecreIo disp) fun _ => True := by
  rintro k io a k' io' hv rfl hr
  obtain ⟨x, n, -, -, rfl, rfl⟩ := correr_semDecreIo_some hr
  exact ⟨⟨hv.pcb, hv.sale⟩, C.conIo _ _ _, trivial⟩

lemma semIncre (s : Sem) : C.Cuida f (semIncre s) fun _ => True :=
  modify (fun _ => rfl) fun _ => C.conSem _ _ _

lemma modificarIo (disp : List Byte) (g : Io → Io) : C.Cuida f (modificarIo disp g) fun _ => True :=
  modify (fun _ => rfl) fun _ => C.conIo _ _ _

lemma modificarSem (clave : List Byte) (g : Semaforo → Semaforo) :
    C.Cuida f (modificarSem clave g) fun _ => True :=
  modify (fun _ => rfl) fun _ => C.conSemaforo _ _ _

lemma fdClrCpus (soc : ℤ) : C.Cuida f (fdClrCpus soc) fun _ => True :=
  modify (fun _ => rfl) fun _ => C.conSocCpus _ _

lemma fdClrProgs (soc : ℤ) : C.Cuida f (fdClrProgs soc) fun _ => True :=
  modify (fun _ => rfl) fun _ => C.conSocProgs _ _

lemma listaCpuAdd (cpu : Cpu) : C.Cuida f (listaCpuAdd cpu) fun _ => True :=
  modify (fun _ => rfl) fun _ => C.conCpus _ _

lemma listaCpuRemove (p : Cpu → Bool) : C.Cuida f (listaCpuRemove p) fun _ => True :=
  bind get fun _ _ => bind (modify (fun _ => rfl) fun _ => C.conCpus _ _) fun _ _ => pure trivial

/-- Only a process as it should be is put into a queue. -/
lemma queuePush (c : Cola) {y : Option PcbOtros} (h : ∀ x, y = some x → C.pcb x) :
    C.Cuida f (queuePush c y) fun _ => True := by
  rintro k io a k' io' hv rfl hr
  obtain ⟨-, rfl, rfl⟩ := correr_some rfl hr
  refine ⟨hv.conCola fun x hx => ?_, C.conCola _ _ _, trivial⟩
  rcases List.mem_append.1 hx with hx | hx
  · exact hv.pcb c x hx
  · exact h x (List.mem_singleton.1 hx).symm

lemma queuePop (c : Cola) : C.Cuida f (queuePop c) fun y => ∀ x, y = some x → C.pcb x := by
  rintro k io a k' io' hv rfl hr
  obtain ⟨rfl, rfl, rfl⟩ := correr_some rfl hr
  refine ⟨hv.conCola fun x hx => hv.pcb c x (List.mem_of_mem_tail hx), C.conCola _ _ _,
    fun x hx => hv.pcb c x ?_⟩
  rw [eq_cons_of_head hx]
  exact List.mem_cons_self

lemma queueRotar (c : Cola) (p : PcbOtros → Bool) :
    C.Cuida f (queueRotar c p) fun y => ∀ x, y = some x → C.pcb x := by
  rintro k io a k' io' hv rfl hr
  obtain ⟨rfl, ⟨x, rfl, hs⟩ | ⟨rfl, -, rfl⟩⟩ := queueRotar_some hr
  · obtain ⟨hv', hfijo, hx⟩ := hv.saca hs
    exact ⟨hv', hfijo, fun y hy => Option.some.inj hy ▸ hx⟩
  · exact ⟨hv, rfl, fun _ h => nomatch h⟩

/-! ### CPU records and pcbs -/

lemma getPcbOtrosExec (id : ℤ) :
    C.Cuida f (getPcbOtrosExec id) fun y => ∀ x, y = some x → C.pcb x :=
  bind (lock _) fun _ _ => bind (queueRotar _ _) fun _ h => bind (unlock _) fun _ _ => pure h

lemma liberarCpu (cpu : Cpu) : C.Cuida f (liberarCpu cpu) fun _ => True :=
  bind (listaCpuAdd _) fun _ _ => semIncre _

lemma pasarPcbExit : ∀ {y : Option PcbOtros}, (∀ x, y = some x → C.pcb x) →
    C.Cuida f (pasarPcbExit y) fun _ => True
  | none, _ => pure trivial
  | some _, h => bind (lock _) fun _ _ => bind (queuePush _ h) fun _ _ => bind (semIncre _) fun _ _ =>
    bind (unlock _) fun _ _ => semIncre _

lemma pasarPcbBlockReady (id : ℤ) : C.Cuida f (pasarPcbBlockReady id) fun _ => True := by
  refine bind (lock _) fun _ _ => bind (queueRotar _ _) fun y hy => ?_
  cases y with
  | some x =>
    exact bind (lock _) fun _ _ => bind (queuePush _ hy) fun _ _ => bind (semIncre _) fun _ _ =>
      bind (unlock _) fun _ _ => unlock _
  | none => exact unlock _

/-- What the CPU sent has no other part in the pcb than the three fields. -/
lemma recvActualizarPcb (soc : ℤ) {x : PcbOtros} (h : C.pcb x) :
    C.Cuida f (recvActualizarPcb soc x.pcb) fun pcb => C.pcb { x with pcb := pcb } :=
  bind (recvQuantumPcb _) fun _ _ => pure (C.actualiza _ h)

lemma actualizarPcbYBloq (cpu : Cpu) : C.Cuida f (actualizarPcbYBloq cpu) fun _ => True := by
  refine bind (getPcbOtrosExec _) fun _ hy => bind (deref hy) fun x hx =>
    bind (recvActualizarPcb _ hx) fun pcb hpcb => bind (recvComun _) fun men _ => ?_
  have hfin : C.Cuida f (do
      Hilo.queuePush .block (some { x with pcb := pcb })
      Pure.pure pcb.id) fun _ => True :=
    bind (queuePush _ fun y hy => Option.some.inj hy ▸ hpcb) fun _ _ => pure trivial
  dsimp only
  split
  · exact bind (liberarCpu _) fun _ _ => hfin
  · exact bind (fdClrCpus _) fun _ _ => bind (socketCerrar _) fun _ _ => hfin

/-! ### The messages of the CPUs -/

lemma conecCerradaCpu (soc : ℤ) : C.Cuida f (conecCerradaCpu soc) fun _ => True := by
  refine bind (lock _) fun _ _ => bind (listaCpuRemove _) fun _ _ => bind (fdClrCpus _) fun _ _ =>
    bind (socketCerrar _) fun _ _ => bind (R := fun _ => True) (deref fun _ _ => trivial)
    fun cpu _ => ?_
  dsimp only
  split
  · exact bind (getPcbOtrosExec _) fun _ hy => bind (lock _) fun _ _ => bind (queuePush _ hy)
      fun _ _ => bind (semIncre _) fun _ _ => bind (unlock _) fun _ _ => unlock _
  · exact bind (semDecre _) fun _ _ => unlock _

lemma llamadaErronea (soc tipo : ℤ) : C.Cuida f (llamadaErronea soc tipo) fun _ => True := by
  refine bind (lock _) fun _ _ => bind (listaCpuRemove _) fun _ _ => bind (unlock _) fun _ _ =>
    bind (R := fun _ => True) (deref fun _ _ => trivial) fun _ _ => bind (getPcbOtrosExec _)
    fun _ hy => bind (deref hy) fun x hx => ?_
  exact bind (pasarPcbExit fun y hy => Option.some.inj hy ▸ C.termina _ hx) fun _ _ =>
    bind (enviarMenComun _ _ _) fun _ _ => bind (lock _) fun _ _ => bind (liberarCpu _)
    fun _ _ => unlock _

lemma finEjecucion (tipo soc : ℤ) : C.Cuida f (finEjecucion tipo soc) fun _ => True := by
  refine bind (lock _) fun _ _ => bind (listaCpuRemove _) fun _ _ => bind (unlock _) fun _ _ =>
    bind (R := fun _ => True) (deref fun _ _ => trivial) fun _ _ => bind (getPcbOtrosExec _)
    fun _ hy => bind (deref hy) fun x hx => ?_
  exact bind (pasarPcbExit fun y hy => Option.some.inj hy ▸ C.termina _ hx) fun _ _ =>
    bind (lock _) fun _ _ => bind (liberarCpu _) fun _ _ => unlock _

/-- A text that is looked up. -/
lemma texto (a : Option α) : C.Cuida f (Hilo.deref a) fun _ => True := deref fun _ _ => trivial

lemma wait (soc : ℤ) (men : MenComun) : C.Cuida f (wait soc men) fun _ => True := by
  refine bind (lock _) fun _ _ => bind (texto _) fun _ _ => bind get fun k _ => ?_
  dsimp only
  split
  · refine bind (entero _) fun _ _ => bind (modificarSem _ _) fun _ _ => ?_
    split
    · exact bind (enviarMenComun _ _ _) fun _ _ => unlock _
    · exact bind (lock _) fun _ _ => bind (lock _) fun _ _ => bind (listaCpuRemove _) fun _ _ =>
        bind (enviarMenComun _ _ _) fun _ _ => bind (texto _) fun _ _ =>
        bind (actualizarPcbYBloq _) fun _ _ => bind (modificarSem _ _) fun _ _ =>
        bind (unlock _) fun _ _ => bind (unlock _) fun _ _ => unlock _
  · exact bind (llamadaErronea _ _) fun _ _ => unlock _

lemma signal (soc : ℤ) (men : MenComun) : C.Cuida f (signal soc men) fun _ => True := by
  refine bind (lock _) fun _ _ => bind (texto _) fun _ _ => bind get fun k _ => ?_
  dsimp only
  split
  · refine bind (entero _) fun _ _ => bind (modificarSem _ _) fun _ _ => ?_
    split
    · exact bind (modificarSem _ _) fun _ _ => bind (pasarPcbBlockReady _) fun _ _ =>
        bind (enviarMenComun _ _ _) fun _ _ => unlock _
    · exact bind (enviarMenComun _ _ _) fun _ _ => unlock _
  · exact bind (llamadaErronea _ _) fun _ _ => unlock _

lemma enviarIo (soc : ℤ) (men : MenComun) : C.Cuida f (enviarIo soc men) fun _ => True :=
  bind (lock _) fun _ _ => bind (lock _) fun _ _ => bind (listaCpuRemove _) fun _ _ =>
    bind (recvComun _) fun _ _ => bind (texto _) fun _ _ => bind (texto _) fun _ _ =>
    bind (texto _) fun _ _ => bind get fun _ _ => bind (texto _) fun _ _ =>
    bind (modificarIo _ _) fun _ _ => bind (actualizarPcbYBloq _) fun _ _ =>
    bind (modificarIo _ _) fun _ _ => bind (unlock _) fun _ _ => unlock _

lemma finQuantum (soc : ℤ) (men : MenComun) : C.Cuida f (finQuantum soc men) fun _ => True := by
  refine bind (lock _) fun _ _ => ?_
  split
  · exact bind (listaCpuRemove _) fun _ _ => bind (fdClrCpus _) fun _ _ => bind (socketCerrar _)
      fun _ _ => bind (texto _) fun _ _ => bind (getPcbOtrosExec _) fun _ hy => bind (lock _)
      fun _ _ => bind (queuePush _ hy) fun _ _ => bind (semIncre _) fun _ _ => bind (unlock _)
      fun _ _ => unlock _
  · exact bind (listaCpuRemove _) fun _ _ => bind (texto _) fun _ _ => bind (getPcbOtrosExec _)
      fun _ hy => bind (deref hy) fun _ hx => bind (recvActualizarPcb _ hx) fun _ hpcb =>
      bind (lock _) fun _ _ => bind (queuePush _ fun _ hy => Option.some.inj hy ▸ hpcb) fun _ _ =>
      bind (semIncre _) fun _ _ => bind (unlock _) fun _ _ => bind (liberarCpu _) fun _ _ => unlock _

lemma obtenerValorCompartida (soc : ℤ) (men : MenComun) :
    C.Cuida f (obtenerValorCompartida soc men) fun _ => True := by
  refine bind (lock _) fun _ _ => bind (texto _) fun _ _ => bind get fun k _ => ?_
  dsimp only
  split
  · exact bind (enviarMenComun _ _ _) fun _ _ => unlock _
  · exact bind (llamadaErronea _ _) fun _ _ => unlock _

lemma grabarValorCompartida (soc : ℤ) (men : MenComun) :
    C.Cuida f (grabarValorCompartida soc men) fun _ => True := by
  refine bind (lock _) fun _ _ => bind (texto _) fun _ _ => bind get fun k _ => ?_
  split
  · exact bind (enviarMenComun _ _ _) fun _ _ => bind (recvComun _) fun _ _ => bind (texto _)
      fun _ _ => bind (modify (fun _ => rfl) fun _ => C.conVar _ _ _) fun _ _ => bind (unlock _)
      fun _ _ => enviarMenComun _ _ _
  · exact bind (unlock _) fun _ _ => llamadaErronea _ _

lemma imprimir {α : Type} (leido : List Byte → Option α) (soc : ℤ) (men : MenComun) :
    C.Cuida f (imprimir leido soc men) fun _ => True :=
  bind (lock _) fun _ _ => bind (R := fun _ => True) (bind get fun _ _ => pure trivial) fun _ _ =>
    bind (texto _) fun _ _ => bind (enviar (C.comun _ _)) fun _ _ => bind (unlock _) fun _ _ =>
    bind (texto _) fun _ _ => enviarMenComun _ _ _

lemma administrarMenCpus (soc : ℤ) : C.Cuida f (administrarMenCpus soc) fun _ => True := by
  refine bind (recvComun _) fun men _ => ?_
  split
  · exact conecCerradaCpu soc
  split
  · exact finQuantum soc men
  split
  · exact finEjecucion _ soc
  split
  · exact finEjecucion _ soc
  split
  · exact imprimir _ soc men
  split
  · exact imprimir _ soc men
  split
  · exact obtenerValorCompartida soc men
  split
  · exact grabarValorCompartida soc men
  split
  · exact wait soc men
  split
  · exact signal soc men
  split
  · exact enviarIo soc men
  · exact pure trivial

/-! ### The other calls -/

lemma moverPcbExit (soc : ℤ) : C.Cuida f (moverPcbExit soc) fun _ => True :=
  bind (lock _) fun _ _ => bind (lock _) fun _ _ => bind (lock _) fun _ _ => bind (lock _) fun _ _ =>
    bind (queueRotar _ _) fun _ hn => bind (pasarPcbExit hn) fun _ _ => bind (queueRotar _ _)
    fun _ hr => bind (pasarPcbExit hr) fun _ _ => bind (queueRotar _ _) fun _ hb =>
    bind (pasarPcbExit hb) fun _ _ => bind (queueRotar _ _) fun _ he => bind (pasarPcbExit he)
    fun _ _ => bind (unlock _) fun _ _ => bind (unlock _) fun _ _ => bind (unlock _) fun _ _ =>
    unlock _

lemma administrarProgCerrado (soc : ℤ) : C.Cuida f (administrarProgCerrado soc) fun _ => True := by
  refine bind (fdClrProgs _) fun _ _ => bind (lock _) fun _ _ => bind (moverPcbExit _) fun _ _ =>
    bind (listaCpuRemove _) fun r _ => ?_
  split
  · exact bind (fdClrCpus _) fun _ _ => bind (socketCerrar _) fun _ _ => unlock _
  · exact unlock _

lemma ingresarNewCpu (soc : ℤ) : C.Cuida f (ingresarNewCpu soc) fun _ => True :=
  bind (modify (fun _ => rfl) fun _ => C.conSocCpus _ _) fun _ _ => bind (lock _) fun _ _ =>
    bind (listaCpuAdd _) fun _ _ => bind (semIncre _) fun _ _ => unlock _

lemma getPesoMin : C.Cuida f getPesoMin fun y => ∀ x, y = some x → C.pcb x := by
  rintro k io a k' io' hv rfl hr
  obtain ⟨rfl, ⟨x, rfl, hs, -, -⟩ | ⟨rfl, rfl, -⟩⟩ := getPesoMin_some hr
  · obtain ⟨hv', hfijo, hx⟩ := hv.saca hs
    exact ⟨hv', hfijo, fun y hy => Option.some.inj hy ▸ hx⟩
  · exact ⟨hv, rfl, fun _ h => nomatch h⟩

lemma manejadorNewReady : C.Cuida f manejadorNewReady fun _ => True := by
  refine bind (semDecre _) fun _ _ => bind (semDecre _) fun _ _ => bind (lock _) fun _ _ =>
    bind (lock _) fun _ _ => bind getPesoMin fun y hy => ?_
  cases y with
  | none => exact bind (unlock _) fun _ _ => unlock _
  | some x =>
    exact bind (queuePush _ hy) fun _ _ => bind (semIncre _) fun _ _ => bind (unlock _) fun _ _ =>
      unlock _

lemma enviarCpuPcb (hC : C.Permite) (soc : ℤ) {x : PcbOtros} (h : C.pcb x) :
    C.Cuida f (enviarCpuPcb soc x.pcb) fun _ => True :=
  bind get fun _ _ => enviar (hC.despacha _ _ h)

lemma manejadorReadyExec (hC : C.Permite) : C.Cuida f manejadorReadyExec fun _ => True := by
  refine bind (semDecre _) fun _ _ => bind (semDecre _) fun _ _ => bind (lock _) fun _ _ =>
    bind (lock _) fun _ _ => bind (listaCpuRemove _) fun _ _ => bind (queuePop _) fun y hy => ?_
  cases y with
  | none => exact bind (unlock _) fun _ _ => unlock _
  | some x =>
    exact bind (texto _) fun _ _ => bind (enviarCpuPcb hC _ (hy x rfl)) fun _ _ =>
      bind (listaCpuAdd _) fun _ _ => bind (queuePush _ hy) fun _ _ => bind (unlock _) fun _ _ =>
      unlock _

lemma umvDestruiPcb (hC : C.Permite) {x : PcbOtros} (h : C.pcb x) :
    C.Cuida f (umvDestruiPcb x.pcb.id) fun _ => True :=
  bind get fun _ _ => bind (enviar (hC.destruye _ h)) fun _ _ => bind (recvComun _) fun _ _ =>
    pure trivial

/-- The end of a process. The ids in use are not watched here. -/
lemma manejadorExit (hC : C.Permite) (hvivos : ∀ k l, C.fijo (k.conVivos l) = C.fijo k) :
    C.Cuida f manejadorExit fun _ => True := by
  refine bind (semDecre _) fun _ _ => bind (lock _) fun _ _ => bind (queuePop _) fun y hy =>
    bind (unlock _) fun _ _ => ?_
  cases y with
  | none => exact pure trivial
  | some x =>
    have hfin : C.Cuida f (do
        Kernel.umvDestruiPcb x.pcb.id
        MonadStateOf.modifyGet fun k : Estado => ((), k.conVivos (k.vivos.erase x.pcb.id)))
        fun _ => True :=
      bind (umvDestruiPcb hC (hy x rfl)) fun _ _ => modify (fun _ => rfl) fun _ => hvivos _ _
    dsimp only
    split
    · exact bind (enviarMenComun _ _ _) fun _ _ => hfin
    · exact hfin

lemma manejadorIOTomar (disp : List Byte) : C.Cuida f (manejadorIOTomar disp) fun _ => True :=
  bind (semDecreIo _) fun _ _ => bind get fun _ _ => bind (texto _) fun _ _ => bind (texto _)
    fun _ _ => modificarIo _ _

lemma ocupar (n : ℤ) (u : ℕ) : C.Cuida f (ocupar n u) fun _ => True := by
  rintro k io a k' io' hv rfl hr
  obtain ⟨-, rfl, rfl⟩ := correr_some (correr_ocupar _ _) hr
  exact ⟨hv, rfl, trivial⟩

lemma manejadorIOServir (disp : List Byte) : C.Cuida f (manejadorIOServir disp) fun _ => True :=
  bind get fun _ _ => bind (texto _) fun _ _ => bind (texto _) fun _ _ => bind (ocupar _ _)
    fun _ _ => bind (pasarPcbBlockReady _) fun _ _ => modificarIo _ _

end Cuida

end Partes

/-! ### New scripts -/

/-- The watch over what is sent while a script is loaded: the socket of the UMV, the last id and the
size of a stack stay as they are. -/
def cargando (C : Custodio β) : Custodio (ℤ × ℤ × ℤ) where
  pcb _ := True
  sale := C.sale
  fijo k := (k.socUmv, k.contadorPrograma, k.tamanioStack)
  actualiza _ _ := trivial
  termina _ _ := trivial
  comun := C.comun
  cierra := C.cierra
  conCola _ _ _ := rfl
  conSem _ _ _ := rfl
  conCpus _ _ := rfl
  conIo _ _ _ := rfl
  conSemaforo _ _ _ := rfl
  conVar _ _ _ := rfl
  conSocCpus _ _ := rfl
  conSocProgs _ _ := rfl

section Carga

variable (metadata : List Byte → MetadataProgram)

/-- What the UMV is sent for a script: four requests for a segment, and the contents of three. -/
inductive DeCarga (men : MenComun) (tamanioStack id : ℤ) : MenSeg → Prop
  | codigo : DeCarga men tamanioStack id ⟨pedMemSegCod, id, men.tamDato⟩
  | etiquetas : DeCarga men tamanioStack id ⟨pedMemIndEti, id, (metadata men.dato).etiquetas.length⟩
  | indice :
    DeCarga men tamanioStack id ⟨pedMemIndCod, id, (metadata men.dato).instruccionesSize * 8⟩
  | stack : DeCarga men tamanioStack id ⟨pedMemSegStack, id, tamanioStack⟩
  | contenido : DeCarga men tamanioStack id ⟨escribirSeg, id, 0⟩

variable {metadata} {soc id tamanioStack : ℤ} {men : MenComun}

namespace Cuida

lemma enviarUmvMemSeg {tipo tam : ℤ} (h : C.sale (.enviado soc (.seg ⟨tipo, id, tam⟩))) {k : Estado}
    (hk : C.cargando.fijo k = (soc, id, tamanioStack)) : C.cargando.Cuida (soc, id, tamanioStack)
      (enviarUmvMemSeg k.socUmv tipo k.contadorPrograma tam) fun _ => True := by
  have hsoc : k.socUmv = soc := congrArg Prod.fst hk
  have hid : k.contadorPrograma = id := congrArg (fun x => x.2.1) hk
  rw [hsoc, hid]
  exact enviar h

lemma gestionarRespSolMem {f : ℤ × ℤ × ℤ} :
    C.cargando.Cuida f gestionarRespSolMem fun _ => True := by
  refine bind get fun _ _ => bind (recvComun _) fun _ _ => ?_
  split
  · exact pure trivial
  · exact bind (texto _) fun _ _ => pure trivial

lemma pedirSegmento {tipo tam : ℤ} (h : C.sale (.enviado soc (.seg ⟨tipo, id, tam⟩))) :
    C.cargando.Cuida (soc, id, tamanioStack) (pedirSegmento tipo tam) fun _ => True :=
  bind get fun _ hk => bind (enviarUmvMemSeg h hk) fun _ _ => gestionarRespSolMem

variable (h : ∀ m, DeCarga metadata men tamanioStack id m → C.sale (.enviado soc (.seg m)))
include h

lemma solicitarMem : C.cargando.Cuida (soc, id, tamanioStack) (solicitarMem metadata men)
    fun _ => True := by
  refine bind (pedirSegmento (h _ .codigo)) fun _ _ => ?_
  split
  · exact pure trivial
  refine bind (pedirSegmento (h _ .etiquetas)) fun _ _ => ?_
  split
  · exact pure trivial
  refine bind (entero _) fun tam htam => bind (pedirSegmento ?_) fun _ _ => ?_
  · rw [htam]
    exact h _ .indice
  split
  · exact pure trivial
  refine bind get fun k hk => bind (pedirSegmento ?_) fun _ _ => ?_
  · have hstack : k.tamanioStack = tamanioStack := congrArg (fun x => x.2.2) hk
    rw [hstack]
    exact h _ .stack
  split <;> exact pure trivial

lemma escribirSegmento (men : MenComun) :
    C.cargando.Cuida (soc, id, tamanioStack) (escribirSegmento men) fun _ => True :=
  bind get fun _ hk => bind (enviarUmvMemSeg (h _ .contenido) hk) fun _ _ =>
    bind (enviar (C.comun _ _)) fun _ _ => bind (recvComun _) fun _ _ => pure trivial

lemma crearPcbEscribirSegUmv (basura : ℤ) (resp : RespSolMem) :
    C.cargando.Cuida (soc, id, tamanioStack) (crearPcbEscribirSegUmv metadata basura men resp)
      fun _ => True :=
  bind (escribirSegmento h _) fun _ _ => bind (escribirSegmento h _) fun _ _ =>
    bind (escribirSegmento h _) fun _ _ => bind get fun _ _ => pure trivial

end Cuida

/-- **A load** sends the messages of its process and no others. -/
lemma sale_administrarNewScript {k k' : Estado} {io io' : Bandeja} {basura socProg : ℤ} {u : Unit}
    (hsale : ∀ o ∈ io.salida, C.sale o)
    (hcarga : ∀ m, DeCarga metadata men k.tamanioStack (k.contadorPrograma + 1) m →
      C.sale (.enviado k.socUmv (.seg m)))
    (h : correr (administrarNewScript metadata basura socProg men) k io = some ((u, k'), io')) :
    ∀ o ∈ io'.salida, C.sale o := by
  obtain ⟨_, k₀, io₀, hg, h₀⟩ := correr_bind_some h
  obtain ⟨hn, hk₀, hio₀⟩ := correr_some rfl hg
  subst hn hk₀ hio₀
  obtain ⟨n, k₁, io₁, hn, h₁⟩ := correr_bind_some h₀
  obtain ⟨hn, -, -, hk₁, hio₁⟩ := correr_entero_some hn
  subst hn hk₁ hio₁
  obtain ⟨_, k₂, io₂, hm, h₂⟩ := correr_bind_some h₁
  obtain ⟨-, hk₂, hio₂⟩ := correr_some rfl hm
  subst hk₂ hio₂
  have hv₂ : C.cargando.Vela (k₁.conContador (k₁.contadorPrograma + 1)) io₂.salida :=
    ⟨fun _ _ _ => trivial, hsale⟩
  refine ((Cuida.bind (Cuida.solicitarMem hcarga) fun resp _ => ?_ :
    C.cargando.Cuida (k₁.socUmv, k₁.contadorPrograma + 1, k₁.tamanioStack) _ fun _ => True)
      _ _ _ _ _ hv₂ rfl h₂).1.sale
  split
  · exact .bind (.fdClrProgs _) fun _ _ => .bind (.enviarMenComun _ _ _) fun _ _ => .socketCerrar _
  · exact .bind (.crearPcbEscribirSegUmv hcarga _ _) fun _ _ => .bind (.entero _) fun _ _ =>
      .bind (.lock _) fun _ _ => .bind (.modify (fun _ => rfl) fun _ => rfl) fun _ _ =>
      .bind (.queuePush _ fun _ _ => trivial) fun _ _ => .bind (.semIncre _) fun _ _ => .unlock _

end Carga

end Custodio

/-! ### Runs -/

section Anotar

variable (metadata : List Byte → MetadataProgram)

/-- The globals after the step, and all that has been sent. -/
def Paso.anotar (p : Paso) (z : Estado × List Salida) : Option (Estado × List Salida) :=
  (correr (p.hilo metadata) z.1 ⟨p.entrada, z.2⟩).map fun r => (r.1.2, r.2.salida)

variable {metadata} {β : Type} {C : Custodio β} {z z' : Estado × List Salida}

/-- What has been sent before has no part in a call. -/
lemma correr_salida {α : Type} (t : Hilo α) (k : Estado) (q : List Mensaje) (l : List Salida) :
    correr t k ⟨q, l⟩
      = (correr t k ⟨q, []⟩).map fun r => (r.1, ⟨r.2.entrada, l ++ r.2.salida⟩) := by
  have htree : ∀ (d : Dialog Evento Evento.Respuesta (α × Estado)) (q : List Mensaje)
      (l : List Salida), Dialog.interp respuestaAtomica d ⟨q, l⟩
        = (Dialog.interp respuestaAtomica d ⟨q, []⟩).map
          fun r => (r.1, ⟨r.2.entrada, l ++ r.2.salida⟩) := by
    intro d
    induction d with
    | ret a => simp
    | ask e next ih =>
      intro q l
      rw [Dialog.interp_ask, Dialog.interp_ask, respuestaAtomica_salida, Option.bind_map]
      cases h : respuestaAtomica e ⟨q, []⟩ with
      | none => rfl
      | some x =>
        rw [Option.bind_some, Option.bind_some, Function.comp_apply, ih, ih _ _ x.2.salida,
          Option.map_map]
        congr 1
        funext r
        simp
  exact htree (t k) q l

/-- **A step with what it sends** is a step. -/
lemma Paso.hacer_of_anotar {p : Paso} (h : p.anotar metadata z = some z') :
    p.hacer metadata z.1 = some z'.1 := by
  unfold Paso.anotar at h
  rw [correr_salida, Option.map_map] at h
  obtain ⟨r, hr, rfl⟩ := Option.map_eq_some_iff.1 h
  exact Option.map_eq_some_iff.2 ⟨r, hr, rfl⟩

/-- A run with what it sends is a run. -/
lemma run_hacer_of_anotar : ∀ {pasos : List Paso} {z z' : Estado × List Salida},
    run (Paso.anotar metadata) pasos z = some z' → run (Paso.hacer metadata) pasos z.1 = some z'.1
  | [], _, _, h => by
    obtain rfl := Option.some.inj h
    rfl
  | _ :: _, _, _, h => by
    obtain ⟨z₁, h₁, h₂⟩ := run_cons h
    rw [run, Paso.hacer_of_anotar h₁]
    exact run_hacer_of_anotar h₂

/-- **Every step keeps what is watched**, except that a new script has to bring a process that may
be watched. -/
theorem Custodio.Vela.paso {p : Paso} (hv : C.Vela z.1 z.2) (h : p.anotar metadata z = some z')
    (hC : C.Permite)
    (hexit : (∃ entrada, p = .exit entrada) → ∀ k l, C.fijo (k.conVivos l) = C.fijo k)
    (hnew : ∀ basura soc men entrada, p ≠ .newScript basura soc men entrada) :
    C.Vela z'.1 z'.2 ∧ C.fijo z'.1 = C.fijo z.1 := by
  obtain ⟨⟨⟨u, k'⟩, io⟩, hcorre, rfl⟩ := Option.map_eq_some_iff.1 h
  suffices hc : C.Cuida (C.fijo z.1) (p.hilo metadata) fun _ => True by
    obtain ⟨hv', hf, -⟩ := hc _ _ _ _ _ hv rfl hcorre
    exact ⟨hv', hf⟩
  cases p with
  | progCerrado soc => exact .administrarProgCerrado soc
  | newScript basura soc men entrada => exact absurd rfl (hnew basura soc men entrada)
  | newCpu soc => exact .ingresarNewCpu soc
  | menCpu soc entrada => exact .administrarMenCpus soc
  | newReady => exact .manejadorNewReady
  | readyExec => exact .manejadorReadyExec hC
  | exit entrada => exact .manejadorExit hC (hexit ⟨_, rfl⟩)
  | ioTomar disp => exact .manejadorIOTomar disp
  | ioServir disp => exact .manejadorIOServir disp

end Anotar

/-! ### One process, one pcb -/

/-- The pcb is in a queue, or has been sent to a CPU. -/
inductive Conocido (k : Estado) (salida : List Salida) : Pcb → Prop
  | cola {c x} : some x ∈ k.colas c → Conocido k salida x.pcb
  | enviado {soc men} : .enviado soc (.quantumPcb men) ∈ salida → Conocido k salida men.pcb

/-- The pcb is that of its process in the register, and its id is one of the first `n`. -/
def Registrado (alta : ℤ → Pcb) (n : ℤ) (q : Pcb) : Prop :=
  q.id ≤ n ∧ Cpu.MismoProceso (alta q.id) q

/-- The watch that the pcbs are those of the register. -/
def registro (alta : ℤ → Pcb) (n : ℤ) : Custodio ℤ where
  pcb x := Registrado alta n x.pcb
  sale
    | .enviado _ (.quantumPcb men) => Registrado alta n men.pcb
    | _ => True
  fijo k := k.contadorPrograma
  actualiza _ h := ⟨h.1, h.2.contexto _ _ _⟩
  termina _ h := h
  comun _ _ := trivial
  cierra _ := trivial
  conCola _ _ _ := rfl
  conSem _ _ _ := rfl
  conCpus _ _ := rfl
  conIo _ _ _ := rfl
  conSemaforo _ _ _ := rfl
  conVar _ _ _ := rfl
  conSocCpus _ _ := rfl
  conSocProgs _ _ := rfl

lemma registro_permite (alta : ℤ → Pcb) (n : ℤ) : (registro alta n).Permite where
  despacha _ _ h := h
  destruye _ _ := trivial

/-- A process with the next id is entered in the register. -/
lemma Registrado.anotar {alta : ℤ → Pcb} {n : ℤ} {q : Pcb} (h : Registrado alta n q) (nuevo : Pcb) :
    Registrado (Function.update alta (n + 1) nuevo) (n + 1) q := by
  have hne : q.id ≠ n + 1 := by
    have := h.1
    omega
  refine ⟨by have := h.1; omega, ?_⟩
  rw [Function.update_of_ne hne]
  exact h.2

section Registro

variable {metadata : List Byte → MetadataProgram} {z z' : Estado × List Salida}

/-- There is a register of all that is known. -/
def EnRegistro (z : Estado × List Salida) : Prop :=
  ∃ alta, (registro alta z.1.contadorPrograma).Vela z.1 z.2

/-- **A new script** is entered in the register, whether it is loaded or not. -/
lemma EnRegistro.newScript {basura soc : ℤ} {men : MenComun} {entrada : List Mensaje}
    (hz : EnRegistro z) (h : (Paso.newScript basura soc men entrada).anotar metadata z = some z') :
    EnRegistro z' := by
  obtain ⟨alta, hv⟩ := hz
  obtain ⟨⟨⟨u, k'⟩, io⟩, hcorre, rfl⟩ := Option.map_eq_some_iff.1 h
  -- the pcb that is entered: the new one, if there is one
  obtain ⟨nuevo, hcont, hcolas⟩ : ∃ nuevo : Pcb, k'.contadorPrograma = z.1.contadorPrograma + 1 ∧
      ∀ c x, some x ∈ k'.colas c → some x ∈ z.1.colas c ∨
        x.pcb = nuevo ∧ nuevo.id = z.1.contadorPrograma + 1 := by
    obtain rfl | ⟨pcb, peso, hid, rfl⟩ := administrarNewScript_some hcorre
    · exact ⟨alta 0, rfl, fun c x hx => .inl hx⟩
    · refine ⟨pcb, rfl, fun c x hx => ?_⟩
      simp only [Estado.sumar, Estado.encolar, Estado.conSem_colas, Estado.conCola_colas,
        Estado.conVivos_colas, Estado.conContador_colas] at hx
      rcases eq_or_ne c .new with rfl | hc
      · rw [Function.update_self, List.mem_append] at hx
        rcases hx with hx | hx
        · exact .inl hx
        · obtain rfl := Option.some.inj (List.mem_singleton.1 hx)
          exact .inr ⟨rfl, hid⟩
      · rw [Function.update_of_ne hc] at hx
        exact .inl hx
  refine ⟨Function.update alta (z.1.contadorPrograma + 1) nuevo, ?_⟩
  dsimp only
  rw [hcont]
  refine ⟨fun c x hx => ?_, ?_⟩
  · rcases hcolas c x hx with hx | ⟨rfl, hid⟩
    · exact (hv.pcb c x hx).anotar nuevo
    · refine ⟨hid.le, ?_⟩
      rw [hid, Function.update_self]
      exact .refl _
  · refine Custodio.sale_administrarNewScript (fun o ho => ?_) (fun _ _ => trivial) hcorre
    have ho := hv.sale o ho
    rcases o with ⟨_, _ | _ | _ | _⟩ | _
    case enviado.quantumPcb => exact Registrado.anotar ho nuevo
    all_goals trivial

/-- **Every step keeps the register.** -/
theorem EnRegistro.paso {p : Paso} (hz : EnRegistro z) (h : p.anotar metadata z = some z') :
    EnRegistro z' := by
  by_cases hp : ∃ basura soc men entrada, p = .newScript basura soc men entrada
  · obtain ⟨basura, soc, men, entrada, rfl⟩ := hp
    exact hz.newScript h
  · have hnew : ∀ basura soc men entrada, p ≠ .newScript basura soc men entrada :=
      fun _ _ _ _ heq => hp ⟨_, _, _, _, heq⟩
    obtain ⟨alta, hv⟩ := hz
    obtain ⟨hv', hcont⟩ := hv.paso h (registro_permite _ _) (fun _ _ _ => rfl) hnew
    have hcont : z'.1.contadorPrograma = z.1.contadorPrograma := hcont
    exact ⟨alta, by rw [hcont]; exact hv'⟩

lemma EnRegistro.run : ∀ {pasos : List Paso} {z z' : Estado × List Salida}, EnRegistro z →
    Lib.run (Paso.anotar metadata) pasos z = some z' → EnRegistro z'
  | [], _, _, hz, h => by
    obtain rfl := Option.some.inj h
    exact hz
  | _ :: _, _, _, hz, h => by
    obtain ⟨z₁, h₁, h₂⟩ := run_cons h
    exact (hz.paso h₁).run h₂

lemma EnRegistro.conocido (hz : EnRegistro z) :
    ∃ alta : ℤ → Pcb, ∀ q, Conocido z.1 z.2 q → Registrado alta z.1.contadorPrograma q := by
  obtain ⟨alta, hv⟩ := hz
  refine ⟨alta, fun q hq => ?_⟩
  cases hq with
  | cola hx => exact hv.pcb _ _ hx
  | enviado ho => exact hv.sale _ ho

lemma enRegistro_inicial (config : Config) (socUmv : ℤ) : EnRegistro (inicial config socUmv, []) :=
  ⟨fun _ => ⟨0, 0, 0, 0, 0, 0, 0, 0, 0, 0⟩, fun _ _ hx => absurd hx List.not_mem_nil,
    fun _ ho => absurd ho List.not_mem_nil⟩

/-- Two pcbs of the process of a third one. -/
lemma mismoProceso_of_comun {p q q' : Pcb} (h : Cpu.MismoProceso p q) (h' : Cpu.MismoProceso p q') :
    Cpu.MismoProceso q q' :=
  ⟨h'.id.trans h.id.symm, h'.dirSegCodigo.trans h.dirSegCodigo.symm,
    h'.dirSegStack.trans h.dirSegStack.symm, h'.dirIndiceCodigo.trans h.dirIndiceCodigo.symm,
    h'.dirIndiceEtiquetas.trans h.dirIndiceEtiquetas.symm,
    h'.tamIndiceEtiquetas.trans h.tamIndiceEtiquetas.symm,
    h'.cantInstrucciones.trans h.cantInstrucciones.symm⟩

/-- **No call changes the process of a pcb.** Over every run, with every message the CPUs may send
back, the pcbs of one id that are in a queue or that have ever been sent to a CPU have the same
segments: they differ in where the process is in its execution. -/
theorem pcbs_acordes {config : Config} {socUmv : ℤ} {pasos : List Paso} {k : Estado}
    {salida : List Salida}
    (hr : run (Paso.anotar metadata) pasos (inicial config socUmv, []) = some (k, salida))
    {q q' : Pcb} (hq : Conocido k salida q) (hq' : Conocido k salida q') (hid : q.id = q'.id) :
    Cpu.MismoProceso q q' := by
  obtain ⟨alta, halta⟩ := ((enRegistro_inicial config socUmv).run hr).conocido
  have h := (halta q hq).2
  rw [hid] at h
  exact mismoProceso_of_comun h (halta q' hq').2

/-- The process goes to the CPU, comes back at the end of its quantum with another context and
addresses that are not its own, and goes to the CPU again. -/
def vidaDeDosQuantums : List Paso :=
  vidaHastaExec ++ [.menCpu 5 [.comun (crearMenComun TipoDatos.finQuantum []),
    .quantumPcb ⟨pcbYQuantum, 2, ⟨3, 420, 1, 1, 1, 1, 9, 8, 1, 1⟩⟩], .readyExec]

theorem pcbs_acordes_dosQuantums :
    ∃ k salida q q', run (Paso.anotar unaInstruccion) vidaDeDosQuantums (inicial unLugar 4, [])
        = some (k, salida) ∧
      .enviado 5 (.quantumPcb ⟨pcbYQuantum, 2, q⟩) ∈ salida ∧
      .enviado 5 (.quantumPcb ⟨pcbYQuantum, 2, q'⟩) ∈ salida ∧
      q.programCounter = 0 ∧ q'.programCounter = 8 ∧ Cpu.MismoProceso q q' := by
  obtain ⟨⟨k, salida⟩, hr⟩ : ∃ z, run (Paso.anotar unaInstruccion) vidaDeDosQuantums
    (inicial unLugar 4, []) = some z := ⟨_, rfl⟩
  have hq : Salida.enviado 5 (.quantumPcb ⟨pcbYQuantum, 2,
      ⟨0, 400, 300, 200, 100, 400, 1, 0, 0, 0⟩⟩) ∈ salida := by
    obtain ⟨-, rfl⟩ := Prod.mk.inj (Option.some.inj hr)
    decide
  have hq' : Salida.enviado 5 (.quantumPcb ⟨pcbYQuantum, 2,
      ⟨3, 420, 300, 200, 100, 400, 1, 8, 0, 0⟩⟩) ∈ salida := by
    obtain ⟨-, rfl⟩ := Prod.mk.inj (Option.some.inj hr)
    decide
  exact ⟨k, salida, _, _, hr, hq, hq', rfl, rfl, pcbs_acordes hr (.enviado hq) (.enviado hq') rfl⟩

end Registro

end Ansisop.Kernel
