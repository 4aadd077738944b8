import Ansisop.Kernel.Threads
import Ansisop.Lib.Monitor

/-!
Every task of a thread gives back the mutexes it takes, and takes none that it holds already.

`Toma x h h'` says of a function that it does so when its thread holds the mutexes `h`, and leaves
it with those of `h'`; `Devuelve l x` that it takes mutexes of `l` only and gives them back. The
rules follow the text of the functions, one lemma each.
-/

namespace Ansisop.Kernel

open Ansisop.Sockets Ansisop.Lib Dialog Hilo

instance : Fintype Mutex where
  elems := {.new, .ready, .block, .exec, .exit, .usoListaCpu, .diccVar, .diccSem}
  complete m := by cases m <;> decide

/-- What a thread that holds the mutexes `h` may do with them. -/
def mutexes : Monitor Evento Evento.Respuesta (Finset Mutex) where
  allows h
    | .lock m _ => m ∉ h
    | .unlock m _ => m ∈ h
    | _ => True
  next h e _ h' := h' = match e with
    | .lock m _ => insert m h
    | .unlock m _ => h.erase m
    | _ => h

section Reglas

variable {α β : Type} {x : Hilo α} {f : α → Hilo β} {h h₁ h' l : Finset Mutex} {m : Mutex}

def Toma (x : Hilo α) (h h' : Finset Mutex) : Prop :=
  ∀ k, Safe mutexes x k h fun _ _ h₁ => h₁ = h'

def Devuelve (l : Finset Mutex) (x : Hilo α) : Prop := ∀ h, Disjoint l h → Toma x h h

lemma Toma.bind (hx : Toma x h h₁) (hf : ∀ a, Toma (f a) h₁ h') : Toma (x >>= f) h h' :=
  fun k => (hx k).bind fun a k _ hh => hh ▸ hf a k

lemma Devuelve.toma (hx : Devuelve l x) (hl : Disjoint l h) (hf : ∀ a, Toma (f a) h h') :
    Toma (x >>= f) h h' := (hx h hl).bind hf

lemma Devuelve.sigue (hx : Devuelve ∅ x) (hf : ∀ a, Toma (f a) h h') : Toma (x >>= f) h h' :=
  hx.toma (Finset.disjoint_empty_left _) hf

lemma Devuelve.bind (hx : Devuelve l x) (hf : ∀ a, Devuelve l (f a)) : Devuelve l (x >>= f) :=
  fun h hl => (hx h hl).bind fun a => hf a h hl

lemma toma_pure (a : α) : Toma (pure a) h h := fun _ => rfl

lemma toma_lock (hm : m ∉ h) : Toma (lock m) h (insert m h) := fun _ => ⟨hm, fun _ _ hh => hh⟩

lemma toma_unlock (hm : m ∈ h) (he : h.erase m = h') : Toma (unlock m) h h' :=
  fun _ => ⟨hm, fun _ _ hh => hh.trans he⟩

/-- A mutex is taken, and then the rest is done. -/
lemma Toma.lock {f : Unit → Hilo β} (hm : m ∉ h) (hf : Toma (f ()) (insert m h) h') :
    Toma (Hilo.lock m >>= f) h h' := (toma_lock hm).bind fun _ => hf

lemma Toma.unlock {f : Unit → Hilo β} (hm : m ∈ h) (hf : Toma (f ()) (h.erase m) h') :
    Toma (Hilo.unlock m >>= f) h h' := (toma_unlock hm rfl).bind fun _ => hf

/-! ### Operations without a mutex -/

lemma devuelve_pure (a : α) : Devuelve l (pure a : Hilo α) := fun _ _ _ => rfl

lemma devuelve_get : Devuelve l (get : Hilo Estado) := fun _ _ _ => rfl

lemma devuelve_modify (g : Estado → Estado) : Devuelve l (modify g : Hilo Unit) := fun _ _ _ => rfl

lemma devuelve_caida : Devuelve l (caida : Hilo α) := fun _ _ _ => ⟨trivial, nofun⟩

lemma devuelve_deref (a : Option α) : Devuelve l (deref a) := by
  cases a with
  | none => exact devuelve_caida
  | some a => exact devuelve_pure a

lemma devuelve_entero (n : ℤ) : Devuelve l (entero n) := by
  unfold entero
  split
  · exact devuelve_pure _
  · exact devuelve_caida

lemma devuelve_enviar (soc : ℤ) (men : Mensaje) : Devuelve l (enviar soc men) :=
  fun _ _ _ => ⟨trivial, fun _ _ h => h⟩

lemma devuelve_recvComun (soc : ℤ) : Devuelve l (recvComun soc) :=
  fun _ _ _ => ⟨trivial, fun _ _ h => h⟩

lemma devuelve_recvQuantumPcb (soc : ℤ) : Devuelve l (recvQuantumPcb soc) :=
  fun _ _ _ => ⟨trivial, fun _ _ h => h⟩

lemma devuelve_socketCerrar (soc : ℤ) : Devuelve l (socketCerrar soc) :=
  fun _ _ _ => ⟨trivial, fun _ _ h => h⟩

lemma devuelve_semDecre (s : Sem) : Devuelve l (semDecre s) := fun _ _ _ => ⟨trivial, fun _ _ h => h⟩

lemma devuelve_semDecreIo (disp : List Byte) : Devuelve l (semDecreIo disp) :=
  fun _ _ _ => ⟨trivial, fun _ _ h => h⟩

lemma devuelve_usleep (n : ℤ) : Devuelve l (Hilo.usleep n) := fun _ _ _ => ⟨trivial, fun _ _ h => h⟩

lemma devuelve_queuePop (c : Cola) : Devuelve l (queuePop c) :=
  devuelve_get.bind fun _ => (devuelve_modify _).bind fun _ => devuelve_pure _

lemma devuelve_queueRotar (c : Cola) (p : PcbOtros → Bool) : Devuelve l (queueRotar c p) :=
  devuelve_get.bind fun _ => (devuelve_deref _).bind fun _ =>
    (devuelve_modify _).bind fun _ => devuelve_pure _

lemma devuelve_listaCpuRemove (p : Cpu → Bool) : Devuelve l (listaCpuRemove p) :=
  devuelve_get.bind fun _ => (devuelve_modify _).bind fun _ => devuelve_pure _

end Reglas

lemma Toma.keeps {α : Type} {x : Hilo α} {h h' : Finset Mutex} (hx : Toma x h h') (k : Estado) :
    Keeps mutexes (x k) h fun _ h₁ => h₁ = h' := hx k

attribute [irreducible] Toma

/-! ### Functions that give back what they take -/

section Funciones

variable {l : Finset Mutex}

/-- A mutex taken and given back around something that takes none. -/
lemma devuelve_seccion {α : Type} {m : Mutex} {x : Hilo α} (hm : m ∈ l) (hx : Devuelve ∅ x) :
    Devuelve l (do lock m; let a ← x; unlock m; pure a) := by
  intro h hl
  have hmh : m ∉ h := Finset.disjoint_left.1 hl hm
  refine .lock hmh (hx.sigue fun a => .unlock (by simp) ?_)
  rw [Finset.erase_insert hmh]
  exact toma_pure a

lemma devuelve_getPcbOtrosExec (id : ℤ) : Devuelve {.exec} (getPcbOtrosExec id) :=
  devuelve_seccion (by simp) (devuelve_queueRotar _ _)

lemma devuelve_pasarPcbExit (x : Option PcbOtros) : Devuelve {.exit} (pasarPcbExit x) := by
  cases x with
  | none => exact devuelve_pure ()
  | some x =>
    intro h hl
    have hm : Mutex.exit ∉ h := Finset.disjoint_singleton_left.1 hl
    refine .lock hm ((devuelve_modify _).sigue fun _ => ?_)
    refine (devuelve_modify _).sigue fun _ => ?_
    refine .unlock (by simp) ?_
    rw [Finset.erase_insert hm]
    exact devuelve_modify (l := ∅) _ _ (Finset.disjoint_empty_left _)

lemma devuelve_pasarPcbBlockReady (id : ℤ) :
    Devuelve {.block, .ready} (pasarPcbBlockReady id) := by
  intro h hl
  have hb : Mutex.block ∉ h := Finset.disjoint_left.1 hl (by simp)
  have hr : Mutex.ready ∉ insert Mutex.block h := by
    have := Finset.disjoint_left.1 hl (show Mutex.ready ∈ _ by simp)
    simpa using this
  refine .lock hb ((devuelve_queueRotar _ _).sigue fun r => ?_)
  cases r with
  | none => exact toma_unlock (by simp) (Finset.erase_insert hb)
  | some x =>
    refine .lock hr ((devuelve_modify _).sigue fun _ => ?_)
    refine (devuelve_modify _).sigue fun _ => ?_
    refine .unlock (by simp) ?_
    rw [Finset.erase_insert hr]
    exact toma_unlock (by simp) (Finset.erase_insert hb)

lemma devuelve_moverPcbExit (soc : ℤ) :
    Devuelve {.new, .ready, .block, .exec, .exit} (moverPcbExit soc) := by
  intro h hl
  have hno : ∀ m ∈ ({.new, .ready, .block, .exec, .exit} : Finset Mutex), m ∉ h :=
    fun m hm => Finset.disjoint_left.1 hl hm
  simp only [Finset.mem_insert, Finset.mem_singleton, forall_eq_or_imp, forall_eq] at hno
  obtain ⟨hn, hr, hb, he, hx⟩ := hno
  have hex : Disjoint ({.exit} : Finset Mutex)
      (insert .exec (insert .block (insert .ready (insert .new h)))) := by simpa using hx
  refine .lock hn (.lock (by simpa) (.lock (by simpa) (.lock (by simpa) ?_)))
  refine (devuelve_queueRotar _ _).sigue fun _ => ?_
  refine (devuelve_pasarPcbExit _).toma hex fun _ => ?_
  refine (devuelve_queueRotar _ _).sigue fun _ => ?_
  refine (devuelve_pasarPcbExit _).toma hex fun _ => ?_
  refine (devuelve_queueRotar _ _).sigue fun _ => ?_
  refine (devuelve_pasarPcbExit _).toma hex fun _ => ?_
  refine (devuelve_queueRotar _ _).sigue fun _ => ?_
  refine (devuelve_pasarPcbExit _).toma hex fun _ => ?_
  refine .unlock (by simp) (.unlock (by simp) (.unlock (by simp) (toma_unlock (by simp) ?_)))
  ext m
  simp only [Finset.mem_erase, Finset.mem_insert]
  grind

lemma devuelve_liberarCpu (cpu : Cpu) : Devuelve l (liberarCpu cpu) :=
  (devuelve_modify _).bind fun _ => devuelve_modify _

lemma devuelve_recvActualizarPcb (soc : ℤ) (pcb : Pcb) : Devuelve l (recvActualizarPcb soc pcb) :=
  (devuelve_recvQuantumPcb _).bind fun _ => devuelve_pure _

lemma devuelve_actualizarPcbYBloq (cpu : Cpu) : Devuelve {.exec} (actualizarPcbYBloq cpu) := by
  refine (devuelve_getPcbOtrosExec _).bind fun _ => (devuelve_deref _).bind fun aux => ?_
  refine (devuelve_recvActualizarPcb _ _).bind fun pcb => (devuelve_recvComun _).bind fun men => ?_
  have hfin : Devuelve {.exec} (do queuePush .block (some { aux with pcb := pcb }); pure pcb.id) :=
    (devuelve_modify _).bind fun _ => devuelve_pure _
  split
  · exact (devuelve_liberarCpu _).bind fun _ => hfin
  · exact (devuelve_modify _).bind fun _ => (devuelve_socketCerrar _).bind fun _ => hfin

/-- `llamada_erronea`, whatever mutex of another kind its caller holds. -/
lemma devuelve_llamadaErronea (soc tipo : ℤ) :
    Devuelve {.usoListaCpu, .exec, .exit} (llamadaErronea soc tipo) := by
  intro h hl
  have hno : ∀ m ∈ ({.usoListaCpu, .exec, .exit} : Finset Mutex), m ∉ h :=
    fun m hm => Finset.disjoint_left.1 hl hm
  simp only [Finset.mem_insert, Finset.mem_singleton, forall_eq_or_imp, forall_eq] at hno
  obtain ⟨hu, he, hx⟩ := hno
  refine .lock hu ((devuelve_listaCpuRemove _).sigue fun _ => .unlock (by simp) ?_)
  rw [Finset.erase_insert hu]
  refine (devuelve_deref _).sigue fun _ => ?_
  refine (devuelve_getPcbOtrosExec _).toma (by simpa using he) fun _ => ?_
  refine (devuelve_deref _).sigue fun _ => ?_
  refine (devuelve_pasarPcbExit _).toma (by simpa using hx) fun _ => ?_
  refine (devuelve_enviar _ _).sigue fun _ => ?_
  refine .lock hu ((devuelve_liberarCpu _).sigue fun _ => ?_)
  exact toma_unlock (by simp) (Finset.erase_insert hu)

end Funciones

/-! ### Tasks of the PLP -/

section Plp

variable (metadata : List Byte → MetadataProgram)

lemma devuelve_pedirSegmento (tipo tam : ℤ) : Devuelve ∅ (pedirSegmento tipo tam) := by
  refine devuelve_get.bind fun _ => (devuelve_enviar _ _).bind fun _ => devuelve_get.bind fun _ =>
    (devuelve_recvComun _).bind fun resp => ?_
  split
  · exact devuelve_pure _
  · exact (devuelve_deref _).bind fun _ => devuelve_pure _

lemma devuelve_solicitarMem (men : MenComun) : Devuelve ∅ (solicitarMem metadata men) := by
  refine (devuelve_pedirSegmento _ _).bind fun _ => ?_
  split
  · exact devuelve_pure _
  refine (devuelve_pedirSegmento _ _).bind fun _ => ?_
  split
  · exact devuelve_pure _
  refine (devuelve_entero _).bind fun _ => (devuelve_pedirSegmento _ _).bind fun _ => ?_
  split
  · exact devuelve_pure _
  refine devuelve_get.bind fun _ => (devuelve_pedirSegmento _ _).bind fun _ => ?_
  split
  · exact devuelve_pure _
  · exact devuelve_pure _

lemma devuelve_escribirSegmento (men : MenComun) : Devuelve ∅ (escribirSegmento men) :=
  devuelve_get.bind fun _ => (devuelve_enviar _ _).bind fun _ => (devuelve_enviar _ _).bind fun _ =>
    (devuelve_recvComun _).bind fun _ => devuelve_pure _

lemma devuelve_crearPcbEscribirSegUmv (basura : ℤ) (men : MenComun) (resp : RespSolMem) :
    Devuelve ∅ (crearPcbEscribirSegUmv metadata basura men resp) :=
  (devuelve_escribirSegmento _).bind fun _ => (devuelve_escribirSegmento _).bind fun _ =>
    (devuelve_escribirSegmento _).bind fun _ => devuelve_get.bind fun _ => devuelve_pure _

lemma devuelve_calcularPeso (men : MenComun) : Devuelve ∅ (calcularPeso metadata men) :=
  devuelve_entero _

lemma toma_administrarNewScript (basura soc : ℤ) (men : MenComun) :
    Toma (administrarNewScript metadata basura soc men) ∅ ∅ := by
  refine devuelve_get.sigue fun _ => (devuelve_entero _).sigue fun _ => ?_
  refine (devuelve_modify _).sigue fun _ => ?_
  refine (devuelve_solicitarMem metadata _).sigue fun r => ?_
  cases r with
  | none =>
    exact (devuelve_modify _).sigue fun _ => (devuelve_enviar _ _).sigue fun _ =>
      devuelve_socketCerrar (l := ∅) _ _ (Finset.disjoint_empty_left _)
  | some resp =>
    refine (devuelve_crearPcbEscribirSegUmv metadata _ _ _).sigue fun _ => ?_
    refine (devuelve_calcularPeso metadata _).sigue fun _ => .lock (by decide) ?_
    refine (devuelve_modify _).sigue fun _ => (devuelve_modify _).sigue fun _ => ?_
    exact (devuelve_modify _).sigue fun _ => toma_unlock (by decide) (by decide)

lemma toma_administrarProgCerrado (soc : ℤ) : Toma (administrarProgCerrado soc) ∅ ∅ := by
  refine (devuelve_modify _).sigue fun _ => .lock (by decide) ?_
  refine (devuelve_moverPcbExit _).toma (by decide) fun _ => ?_
  refine (devuelve_listaCpuRemove _).sigue fun r => ?_
  cases r with
  | none => exact toma_unlock (by decide) (by decide)
  | some cpu =>
    exact (devuelve_modify _).sigue fun _ =>
      (devuelve_socketCerrar _).sigue fun _ => toma_unlock (by decide) (by decide)

lemma toma_administrarMenProgs (basura soc : ℤ) :
    Toma (administrarMenProgs metadata basura soc) ∅ ∅ := by
  refine (devuelve_recvComun _).sigue fun men => ?_
  split
  · exact toma_administrarProgCerrado soc
  · split
    · exact toma_administrarNewScript metadata _ _ _
    · exact toma_pure ()

end Plp

/-! ### Tasks of the PCP -/

section Pcp

lemma toma_ingresarNewCpu (soc : ℤ) : Toma (ingresarNewCpu soc) ∅ ∅ :=
  (devuelve_modify _).sigue fun _ => .lock (by decide) <| (devuelve_modify _).sigue fun _ =>
    (devuelve_modify _).sigue fun _ => toma_unlock (by decide) (by decide)

/-- The end of the handlers that push a process in `cola_ready`. -/
lemma toma_encolarReady {x : Option PcbOtros} {y : Hilo Unit} {h h' : Finset Mutex}
    (hr : Mutex.ready ∉ h) (hf : Toma y h h') :
    Toma (do
      lock .ready
      queuePush .ready x
      semIncre .cantReady
      unlock .ready
      y) h h' := by
  refine .lock hr ((devuelve_modify _).sigue fun _ => (devuelve_modify _).sigue fun _ => ?_)
  refine .unlock (by simp) ?_
  rwa [Finset.erase_insert hr]

lemma toma_conecCerradaCpu (soc : ℤ) : Toma (conecCerradaCpu soc) ∅ ∅ := by
  refine .lock (by decide) ((devuelve_listaCpuRemove _).sigue fun _ => ?_)
  refine (devuelve_modify _).sigue fun _ => (devuelve_socketCerrar _).sigue fun _ => ?_
  refine (devuelve_deref _).sigue fun cpu => ?_
  split
  · refine (devuelve_getPcbOtrosExec _).toma (by decide) fun _ => ?_
    exact toma_encolarReady (by decide) (toma_unlock (by decide) (by decide))
  · exact (devuelve_semDecre _).sigue fun _ => toma_unlock (by decide) (by decide)

lemma toma_finEjecucion (tipo soc : ℤ) : Toma (finEjecucion tipo soc) ∅ ∅ := by
  refine .lock (by decide) ((devuelve_listaCpuRemove _).sigue fun _ => .unlock (by decide) ?_)
  refine (devuelve_deref _).sigue fun _ => ?_
  refine (devuelve_getPcbOtrosExec _).toma (by decide) fun _ => ?_
  refine (devuelve_deref _).sigue fun _ => ?_
  refine (devuelve_pasarPcbExit _).toma (by decide) fun _ => ?_
  refine .lock (by decide) ((devuelve_liberarCpu _).sigue fun _ => ?_)
  exact toma_unlock (by decide) (by decide)

lemma toma_wait (soc : ℤ) (men : MenComun) : Toma (wait soc men) ∅ ∅ := by
  refine .lock (by decide) ((devuelve_deref _).sigue fun clave => devuelve_get.sigue fun k => ?_)
  split
  · rename_i sem _
    refine (devuelve_entero _).sigue fun _ => (devuelve_modify _).sigue fun _ => ?_
    split
    · exact (devuelve_enviar _ _).sigue fun _ => toma_unlock (by decide) (by decide)
    · refine .lock (by decide) (.lock (by decide) ((devuelve_listaCpuRemove _).sigue fun _ => ?_))
      refine (devuelve_enviar _ _).sigue fun _ => (devuelve_deref _).sigue fun _ => ?_
      refine (devuelve_actualizarPcbYBloq _).toma (by decide) fun _ => ?_
      refine (devuelve_modify _).sigue fun _ => .unlock (by decide) (.unlock (by decide) ?_)
      exact toma_unlock (by decide) (by decide)
  · refine (devuelve_llamadaErronea _ _).toma (by decide) fun _ => ?_
    exact toma_unlock (by decide) (by decide)

lemma toma_signal (soc : ℤ) (men : MenComun) : Toma (signal soc men) ∅ ∅ := by
  refine .lock (by decide) ((devuelve_deref _).sigue fun clave => devuelve_get.sigue fun k => ?_)
  split
  · refine (devuelve_entero _).sigue fun _ => (devuelve_modify _).sigue fun _ => ?_
    split
    · refine (devuelve_modify _).sigue fun _ => ?_
      refine (devuelve_pasarPcbBlockReady _).toma (by decide) fun _ => ?_
      exact (devuelve_enviar _ _).sigue fun _ => toma_unlock (by decide) (by decide)
    · exact (devuelve_enviar _ _).sigue fun _ => toma_unlock (by decide) (by decide)
  · refine (devuelve_llamadaErronea _ _).toma (by decide) fun _ => ?_
    exact toma_unlock (by decide) (by decide)

lemma toma_enviarIo (soc : ℤ) (men : MenComun) : Toma (enviarIo soc men) ∅ ∅ := by
  refine .lock (by decide) (.lock (by decide) ((devuelve_listaCpuRemove _).sigue fun _ => ?_))
  refine (devuelve_recvComun _).sigue fun _ => (devuelve_deref _).sigue fun _ => ?_
  refine (devuelve_deref _).sigue fun _ => (devuelve_deref _).sigue fun _ => ?_
  refine devuelve_get.sigue fun _ => (devuelve_deref _).sigue fun _ => ?_
  refine (devuelve_modify _).sigue fun _ => ?_
  refine (devuelve_actualizarPcbYBloq _).toma (by decide) fun _ => ?_
  refine (devuelve_modify _).sigue fun _ => .unlock (by decide) ?_
  exact toma_unlock (by decide) (by decide)

lemma toma_finQuantum (soc : ℤ) (men : MenComun) : Toma (finQuantum soc men) ∅ ∅ := by
  refine .lock (by decide) ?_
  split
  · refine (devuelve_listaCpuRemove _).sigue fun _ => (devuelve_modify _).sigue fun _ => ?_
    refine (devuelve_socketCerrar _).sigue fun _ => (devuelve_deref _).sigue fun _ => ?_
    refine (devuelve_getPcbOtrosExec _).toma (by decide) fun _ => ?_
    exact toma_encolarReady (by decide) (toma_unlock (by decide) (by decide))
  · refine (devuelve_listaCpuRemove _).sigue fun _ => (devuelve_deref _).sigue fun _ => ?_
    refine (devuelve_getPcbOtrosExec _).toma (by decide) fun _ => (devuelve_deref _).sigue fun _ => ?_
    refine (devuelve_recvActualizarPcb _ _).sigue fun _ => ?_
    refine toma_encolarReady (by decide) ((devuelve_liberarCpu _).sigue fun _ => ?_)
    exact toma_unlock (by decide) (by decide)

lemma toma_obtenerValorCompartida (soc : ℤ) (men : MenComun) :
    Toma (obtenerValorCompartida soc men) ∅ ∅ := by
  refine .lock (by decide) ((devuelve_deref _).sigue fun clave => devuelve_get.sigue fun k => ?_)
  split
  · exact (devuelve_enviar _ _).sigue fun _ => toma_unlock (by decide) (by decide)
  · refine (devuelve_llamadaErronea _ _).toma (by decide) fun _ => ?_
    exact toma_unlock (by decide) (by decide)

lemma toma_grabarValorCompartida (soc : ℤ) (men : MenComun) :
    Toma (grabarValorCompartida soc men) ∅ ∅ := by
  refine .lock (by decide) ((devuelve_deref _).sigue fun clave => devuelve_get.sigue fun k => ?_)
  split
  · refine (devuelve_enviar _ _).sigue fun _ => (devuelve_recvComun _).sigue fun _ => ?_
    refine (devuelve_deref _).sigue fun _ => (devuelve_modify _).sigue fun _ => ?_
    exact .unlock (by decide) (devuelve_enviar (l := ∅) _ _ _ (by decide))
  · exact .unlock (by decide) (devuelve_llamadaErronea _ _ _ (by decide))

lemma toma_imprimir {α : Type} (leido : List Byte → Option α) (soc : ℤ) (men : MenComun) :
    Toma (imprimir leido soc men) ∅ ∅ := by
  refine .lock (by decide) (Devuelve.sigue (devuelve_get.bind fun _ => devuelve_pure _) fun _ => ?_)
  refine (devuelve_deref _).sigue fun _ => (devuelve_enviar _ _).sigue fun _ => ?_
  refine .unlock (by decide) ((devuelve_deref _).sigue fun _ => ?_)
  exact devuelve_enviar (l := ∅) _ _ _ (by decide)

lemma toma_administrarMenCpus (soc : ℤ) : Toma (administrarMenCpus soc) ∅ ∅ := by
  refine (devuelve_recvComun _).sigue fun men => ?_
  repeat' split
  · exact toma_conecCerradaCpu soc
  · exact toma_finQuantum soc men
  · exact toma_finEjecucion _ soc
  · exact toma_finEjecucion _ soc
  · exact toma_imprimir _ soc men
  · exact toma_imprimir _ soc men
  · exact toma_obtenerValorCompartida soc men
  · exact toma_grabarValorCompartida soc men
  · exact toma_wait soc men
  · exact toma_signal soc men
  · exact toma_enviarIo soc men
  · exact devuelve_pure (l := ∅) () _ (by decide)

end Pcp

/-! ### Tasks of the manager threads -/

lemma toma_manejadorNewReady : Toma manejadorNewReady ∅ ∅ := by
  have hpeso : Devuelve ∅ getPesoMin := devuelve_get.bind fun _ => (devuelve_deref _).bind fun _ =>
    (devuelve_modify _).bind fun _ => devuelve_queueRotar _ _
  refine (devuelve_semDecre _).sigue fun _ => (devuelve_semDecre _).sigue fun _ => ?_
  refine .lock (by decide) (.lock (by decide) (hpeso.sigue fun aux => ?_))
  cases aux with
  | none => exact .unlock (by decide) (toma_unlock (by decide) (by decide))
  | some aux =>
    exact (devuelve_modify _).sigue fun _ => (devuelve_modify _).sigue fun _ =>
      .unlock (by decide) (toma_unlock (by decide) (by decide))

lemma toma_manejadorReadyExec : Toma manejadorReadyExec ∅ ∅ := by
  refine (devuelve_semDecre _).sigue fun _ => (devuelve_semDecre _).sigue fun _ => ?_
  refine .lock (by decide) (.lock (by decide) ((devuelve_listaCpuRemove _).sigue fun cpu => ?_))
  refine (devuelve_queuePop _).sigue fun aux => ?_
  cases aux with
  | none => exact .unlock (by decide) (toma_unlock (by decide) (by decide))
  | some aux =>
    have henvio : ∀ soc pcb, Devuelve ∅ (enviarCpuPcb soc pcb) := fun soc pcb =>
      devuelve_get.bind fun _ => devuelve_enviar _ _
    refine (devuelve_deref _).sigue fun cpu => (henvio _ _).sigue fun _ => ?_
    refine (devuelve_modify _).sigue fun _ => (devuelve_modify _).sigue fun _ => ?_
    exact .unlock (by decide) (toma_unlock (by decide) (by decide))

lemma toma_manejadorExit : Toma manejadorExit ∅ ∅ := by
  refine (devuelve_semDecre _).sigue fun _ => .lock (by decide) ?_
  refine (devuelve_queuePop _).sigue fun aux => .unlock (by decide) ?_
  have hdestruye : ∀ id, Devuelve ∅ (umvDestruiPcb id) := fun id => devuelve_get.bind fun _ =>
    (devuelve_enviar _ _).bind fun _ => (devuelve_recvComun _).bind fun _ => devuelve_pure _
  cases aux with
  | none => exact devuelve_pure (l := ∅) () _ (by decide)
  | some aux =>
    have hfin : Toma (do
        umvDestruiPcb aux.pcb.id
        modify fun k => k.conVivos (k.vivos.erase aux.pcb.id)) ∅ ∅ :=
      (hdestruye _).sigue fun _ => devuelve_modify (l := ∅) _ _ (by decide)
    show Toma (if _ then _ else _) ∅ ∅
    split
    · exact (devuelve_enviar _ _).sigue fun _ => hfin
    · exact hfin

lemma devuelve_ocupar (micros : ℤ) (n : ℕ) : Devuelve ∅ (ocupar micros n) := by
  induction n with
  | zero => exact devuelve_pure ()
  | succ n ih => exact (devuelve_usleep _).bind fun _ => ih

lemma toma_manejadorIO (disp : List Byte) :
    Toma (do manejadorIOTomar disp; manejadorIOServir disp) ∅ ∅ := by
  have htomar : Devuelve ∅ (manejadorIOTomar disp) :=
    (devuelve_semDecreIo _).bind fun _ => devuelve_get.bind fun _ => (devuelve_deref _).bind fun _ =>
      (devuelve_deref _).bind fun _ => devuelve_modify _
  refine htomar.sigue fun _ => devuelve_get.sigue fun _ => (devuelve_deref _).sigue fun _ => ?_
  refine (devuelve_deref _).sigue fun _ => (devuelve_ocupar _ _).sigue fun _ => ?_
  refine (devuelve_pasarPcbBlockReady _).toma (by decide) fun _ => ?_
  exact devuelve_modify (l := ∅) _ _ (by decide)

/-! ### Tasks of the console -/

section Consola

/-- Everything is locked around something that takes no mutex. -/
lemma toma_todo {f : Unit → Hilo Unit}
    (hf : Toma (f ()) {.usoListaCpu, .exit, .exec, .block, .ready, .new} ∅) :
    Toma (lockTodo >>= f) ∅ ∅ :=
  Toma.bind (.lock (by decide) <| .lock (by decide) <| .lock (by decide) <| .lock (by decide) <|
    .lock (by decide) (toma_lock (by decide))) fun _ => hf

lemma toma_unlockTodo : Toma unlockTodo {.usoListaCpu, .exit, .exec, .block, .ready, .new} ∅ :=
  .unlock (by decide) <| .unlock (by decide) <| .unlock (by decide) <| .unlock (by decide) <|
    .unlock (by decide) (toma_unlock (by decide) (by decide))

lemma devuelve_imprimirCola (c : Cola) : Devuelve ∅ (imprimirCola c) :=
  devuelve_get.bind fun _ => (devuelve_deref _).bind fun _ => devuelve_pure _

lemma toma_impColas : Toma impColas ∅ ∅ :=
  toma_todo <| (devuelve_imprimirCola _).sigue fun _ => (devuelve_imprimirCola _).sigue fun _ =>
    (devuelve_imprimirCola _).sigue fun _ => (devuelve_imprimirCola _).sigue fun _ =>
      (devuelve_imprimirCola _).sigue fun _ => toma_unlockTodo

lemma devuelve_repetir {x : Hilo Unit} (hx : Devuelve ∅ x) (n : ℕ) : Devuelve ∅ (repetir x n) := by
  induction n with
  | zero => exact devuelve_pure ()
  | succ n ih => exact hx.bind fun _ => ih

lemma toma_cambiarMultiprog (n : ℤ) : Toma (cambiarMultiprog n) ∅ ∅ := by
  refine toma_todo (devuelve_get.sigue fun k => (devuelve_entero _).sigue fun dif => ?_)
  split
  · exact (devuelve_repetir (devuelve_modify _) _).sigue fun _ => toma_unlockTodo
  · refine (devuelve_entero _).sigue fun baja => ?_
    split
    · exact (devuelve_repetir (devuelve_semDecre _) _).sigue fun _ => toma_unlockTodo
    · exact toma_unlockTodo

lemma toma_lock_unlock (m : Mutex) : Toma (do lock m; unlock m) ∅ ∅ :=
  .lock (by simp) (toma_unlock (by simp) (by simp))

lemma toma_imprimirSemBlocks (libre : Mutex → Bool) : Toma (imprimirSemBlocks libre) ∅ ∅ := by
  have htry : ∀ m, Toma (trylock (libre m) m) ∅ ∅ := by
    intro m
    unfold trylock
    split
    · exact toma_lock_unlock m
    · exact devuelve_pure (l := ∅) () _ (by decide)
  exact (htry _).bind fun _ => (htry _).bind fun _ => (htry _).bind fun _ => (htry _).bind fun _ =>
    (htry _).bind fun _ => (htry _).bind fun _ => (htry _).bind fun _ => htry _

end Consola

/-- **Every task gives back the mutexes it takes.** -/
theorem toma_cuerpo (metadata : List Byte → MetadataProgram) (tarea : Tarea) :
    Toma (tarea.cuerpo metadata) ∅ ∅ := by
  cases tarea with
  | nuevoPrograma soc => exact devuelve_modify (l := ∅) _ _ (by decide)
  | menProgs basura soc => exact toma_administrarMenProgs metadata basura soc
  | newCpu soc => exact toma_ingresarNewCpu soc
  | menCpus soc => exact toma_administrarMenCpus soc
  | newReady => exact toma_manejadorNewReady
  | readyExec => exact toma_manejadorReadyExec
  | exit => exact toma_manejadorExit
  | io disp => exact toma_manejadorIO disp
  | impColas => exact toma_impColas
  | impVariables => exact toma_lock_unlock .diccVar
  | impSemaforos => exact toma_lock_unlock .diccSem
  | impSemBlocks libre => exact toma_imprimirSemBlocks libre
  | multiprog n => exact toma_cambiarMultiprog n
  | quantum n => exact devuelve_modify (l := ∅) _ _ (by decide)
  | stack n => exact devuelve_modify (l := ∅) _ _ (by decide)

end Ansisop.Kernel
