import Ansisop.Cpu.Program

/-!
What a dispatch asks of the UMV and says to the kernel, whatever it executes: it names the process it
has been given, writes that process's stack and nothing else, hands back a pcb of that process, and
ends no other process.

`Guardia.vigia` is the monitor. Its state is the active process, as the CPU has told the UMV. It is
also told which answers of the UMV are possible, and has then a say in the lines that go to the parser
and in the labels that are looked up; that these are those of the script is up to who chooses the
answers (`Fiable`).
-/

namespace Ansisop.Cpu

open Ansisop.Sockets Ansisop.Lib Dialog Prog
open TipoDatos hiding signal wait imprimirTexto cambioPA

/-! ### The process of a pcb -/

/-- The two pcbs are of one process: they differ in where it is in its execution only. -/
structure MismoProceso (p q : Pcb) : Prop where
  id : q.id = p.id
  dirSegCodigo : q.dirSegCodigo = p.dirSegCodigo
  dirSegStack : q.dirSegStack = p.dirSegStack
  dirIndiceCodigo : q.dirIndiceCodigo = p.dirIndiceCodigo
  dirIndiceEtiquetas : q.dirIndiceEtiquetas = p.dirIndiceEtiquetas
  tamIndiceEtiquetas : q.tamIndiceEtiquetas = p.tamIndiceEtiquetas
  cantInstrucciones : q.cantInstrucciones = p.cantInstrucciones

lemma MismoProceso.refl (p : Pcb) : MismoProceso p p := ⟨rfl, rfl, rfl, rfl, rfl, rfl, rfl⟩

/-- Another program counter and another context. -/
lemma MismoProceso.contexto {p q : Pcb} (h : MismoProceso p q) (cantVar dir programCounter : ℤ) :
    MismoProceso p
      { q with
        cantVarContActual := cantVar
        dirContActual := dir
        programCounter := programCounter } :=
  ⟨h.id, h.dirSegCodigo, h.dirSegStack, h.dirIndiceCodigo, h.dirIndiceEtiquetas,
    h.tamIndiceEtiquetas, h.cantInstrucciones⟩

/-- A message to the kernel is about the process: a pcb is of it, and if it ends a process, it ends
this one. -/
def DelProceso (p : Pcb) : Mensaje → Prop
  | .comun men => men.tipo = segmenFault ∨ men.tipo = finEjecucion →
      men.dato = cString (stringItoa p.id)
  | .quantumPcb men => men.tipo = pcbYQuantum ∧ MismoProceso p men.pcb
  | .cpuUmv _ | .seg _ => False

/-! ### The monitor -/

/-- The process on the CPU, the answers that are possible, and what may be handed to the parser. -/
structure Guardia where
  pcb : Pcb
  responde : MenCpuUmv → MenComun → Prop
  linea : Option (List Byte) → Prop
  etiquetas : Etiquetas → Prop

/-- Any answer, any line, any labels. -/
def Guardia.libre (pcb : Pcb) : Guardia := ⟨pcb, fun _ _ => True, fun _ => True, fun _ => True⟩

/-- What is asked of the UMV is asked for the active process: bytes, or that bytes be stored in the
stack of the process on the CPU. -/
def Pertinente (p : Pcb) (procActivo : ℤ) (men : MenCpuUmv) : Prop :=
  procActivo = p.id ∧
    (men.tipo = solBytes ∨ men.tipo = almBytes ∧ men.base = p.dirSegStack)

/-- The monitor of a dispatch. -/
def Guardia.vigia (g : Guardia) : Monitor Evento Evento.Respuesta ℤ where
  allows procActivo
    | .enviarKernel men => DelProceso g.pcb men
    | .enviarUmv men => men.tipo = TipoDatos.cambioPA
    | .pedirUmv men => Pertinente g.pcb procActivo men
    | .buscarEtiqueta _ etiquetas tam => g.etiquetas etiquetas ∧ tam = g.pcb.tamIndiceEtiquetas
    | .analizar linea => g.linea linea
    | _ => True
  next procActivo
    | .enviarUmv men, _, procActivo' => procActivo' = men.base
    | .pedirUmv men, r, procActivo' => procActivo' = procActivo ∧ g.responde men r
    | _, _, procActivo' => procActivo' = procActivo

/-! ### Rules -/

/-- A property of the globals that the functions keep while the process is on the CPU. -/
structure Invariante (p : Pcb) where
  Vale : Estado → Prop
  proceso : ∀ {s}, Vale s → MismoProceso p s.pcb
  conPcb : ∀ {s q}, Vale s → MismoProceso p q → Vale (s.conPcb q)
  conVariables : ∀ {s} (d), Vale s → Vale (s.conVariables d)
  conFin : ∀ {s}, Vale s → Vale (s.conFin true)
  conSegFault : ∀ {s}, Vale s → Vale (s.conSegFault true)

namespace Guardia

/-- The process is the one of the pcb, with its labels. -/
def enMarcha (g : Guardia) : Invariante g.pcb where
  Vale s := MismoProceso g.pcb s.pcb ∧ g.etiquetas s.etiquetas
  proceso h := h.1
  conPcb h hq := ⟨hq, h.2⟩
  conVariables _ h := h
  conFin h := h
  conSegFault h := h

/-- The process is the one of the pcb, and will execute nothing. -/
def parado (g : Guardia) : Invariante g.pcb where
  Vale s := MismoProceso g.pcb s.pcb ∧ s.fueFinEjecucion = true
  proceso h := h.1
  conPcb h hq := ⟨hq, h.2⟩
  conVariables _ h := h
  conFin h := ⟨h.1, rfl⟩
  conSegFault h := h

/-- With the process of `g` active, the program does what the monitor allows, and keeps `F`. -/
def Cuida (g : Guardia) (F : Invariante g.pcb) {α : Type} (x : Prog α) : Prop :=
  ∀ s, F.Vale s → Safe g.vigia x s g.pcb.id fun _ s' activo => F.Vale s' ∧ activo = g.pcb.id

end Guardia

section Cuida

open Guardia

variable {g : Guardia} {F : Invariante g.pcb} {α β : Type}

lemma cuida_pure (a : α) : Cuida g F (pure a : Prog α) := fun _ hs => ⟨hs, rfl⟩

lemma Guardia.Cuida.bind {x : Prog α} {f : α → Prog β} (hx : Cuida g F x)
    (hf : ∀ a, Cuida g F (f a)) : Cuida g F (x >>= f) :=
  fun s hs => Safe.bind (hx s hs) fun a s' activo h => by
    obtain ⟨hs', rfl⟩ := h
    exact hf a s' hs'

lemma Guardia.Cuida.ite {c : Prop} [Decidable c] {x y : Prog α} (hx : Cuida g F x)
    (hy : Cuida g F y) : Cuida g F (if c then x else y) := by
  split
  · exact hx
  · exact hy

lemma cuida_get_bind {f : Estado → Prog α} (hf : ∀ s, F.Vale s → Cuida g F (f s)) :
    Cuida g F (get >>= f) := fun s hs => safe_get_bind (hf s hs s hs)

lemma cuida_modify {f : Estado → Estado} (hf : ∀ s, F.Vale s → F.Vale (f s)) :
    Cuida g F (modify f : Prog Unit) := fun s hs => ⟨hf s hs, rfl⟩

lemma cuida_caida : Cuida g F (caida : Prog α) := fun _ _ => ⟨trivial, nofun⟩

lemma cuida_entero (x : ℤ) : Cuida g F (entero x) := (cuida_pure _).ite cuida_caida

lemma cuida_memcpy (dato : List Byte) (n : ℕ) : Cuida g F (memcpy dato n) :=
  (cuida_pure _).ite cuida_caida

lemma cuida_deref (x : Option α) : Cuida g F (deref x) := by
  cases x with
  | none => exact cuida_caida
  | some a => exact cuida_pure a

lemma cuida_basura (n : ℕ) : Cuida g F (basura n) :=
  fun _ hs => ⟨trivial, fun _ _ hm => ⟨hs, hm⟩⟩

lemma cuida_quitSistema : Cuida g F quitSistema := fun _ hs => ⟨trivial, fun _ _ hm => ⟨hs, hm⟩⟩

lemma cuida_oir : Cuida g F recvKernel := fun _ hs => ⟨trivial, fun _ _ hm => ⟨hs, hm⟩⟩

/-- A message that ends no process. -/
lemma cuida_decir {tipo : ℤ} {dato : List Byte} (h : tipo ≠ segmenFault ∧ tipo ≠ finEjecucion) :
    Cuida g F (enviarMenComun tipo dato) :=
  fun _ hs => ⟨fun hmen => (hmen.elim h.1 h.2).elim, fun _ _ hm => ⟨hs, hm⟩⟩

/-- A message that ends the process. -/
lemma cuida_terminar (tipo : ℤ) {s : Estado} (hs : F.Vale s) :
    Cuida g F (enviarMenComun tipo (cString (stringItoa s.pcb.id))) := by
  rw [(F.proceso hs).id]
  exact fun _ hs => ⟨fun _ => rfl, fun _ _ hm => ⟨hs, hm⟩⟩

lemma cuida_enviarPcb : Cuida g F enviarPcb :=
  cuida_get_bind fun _ hs _ hs' => ⟨⟨rfl, F.proceso hs⟩, fun _ _ hm => ⟨hs', hm⟩⟩

/-- A reading, at any address. -/
lemma cuida_leer (base offset tam : ℤ) : Cuida g F (pedirUmv solBytes base offset tam []) :=
  fun _ hs => ⟨⟨rfl, .inl rfl⟩, fun _ _ hm => ⟨hs, hm.1⟩⟩

/-- A writing, in the stack. -/
lemma cuida_escribir {s : Estado} (hs : F.Vale s) (offset tam : ℤ) (buffer : List Byte) :
    Cuida g F (pedirUmv almBytes s.pcb.dirSegStack offset tam buffer) := by
  rw [(F.proceso hs).dirSegStack]
  exact fun _ hs' => ⟨⟨rfl, .inr ⟨rfl, rfl⟩⟩, fun _ _ hm => ⟨hs', hm.1⟩⟩

/-- A change of where the process is in its execution. -/
lemma cuida_modificarPcb {f : Pcb → Pcb} (hf : ∀ q, MismoProceso g.pcb q → MismoProceso g.pcb (f q)) :
    Cuida g F (modificarPcb f) := cuida_modify fun _ hs => F.conPcb hs (hf _ (F.proceso hs))

lemma cuida_variables (f : Estado → Byte → Option ℤ) :
    Cuida g F (modify fun s => s.conVariables (f s) : Prog Unit) :=
  cuida_modify fun _ hs => F.conVariables _ hs

lemma cuida_fin : Cuida g F (modify fun s => s.conFin true : Prog Unit) :=
  cuida_modify fun _ hs => F.conFin hs

/-! ### The functions of the CPU -/

lemma cuida_regenerarLoop : ∀ (n : ℕ) (i : ℤ), Cuida g F (regenerarLoop n i)
  | 0, _ => cuida_pure _
  | n + 1, i =>
    cuida_get_bind fun _ _ => (cuida_entero _).bind fun _ => (cuida_leer _ _ _).bind fun _ =>
      (cuida_entero _).bind fun _ => (cuida_deref _).bind fun _ => (cuida_variables _).bind fun _ =>
        cuida_regenerarLoop n (i + 1)

lemma cuida_regenerarDiccVar : Cuida g F regenerarDiccVar :=
  (cuida_variables _).bind fun _ => cuida_get_bind fun _ _ => cuida_regenerarLoop _ _

lemma cuida_recibirRespKernel : Cuida g F recibirRespKernel := cuida_oir.bind fun _ => cuida_pure _

lemma cuida_imprimirVariables : ∀ (n : ℕ) (i : ℤ), Cuida g F (imprimirVariables n i)
  | 0, _ => cuida_pure _
  | n + 1, i =>
    cuida_get_bind fun _ _ => (cuida_entero _).bind fun _ => (cuida_leer _ _ _).bind fun _ =>
      (cuida_entero _).bind fun _ => (cuida_leer _ _ _).bind fun _ => (cuida_memcpy _ 4).bind fun _ =>
        (cuida_deref _).bind fun _ => (cuida_decir (by decide)).bind fun _ =>
          cuida_recibirRespKernel.bind fun _ => cuida_imprimirVariables n (i + 1)

lemma cuida_finalizarContexto (tipoFin : ℤ) : Cuida g F (finalizarContexto tipoFin) := by
  unfold finalizarContexto
  refine .ite ?_ (.ite ?_ (cuida_pure _))
  · exact cuida_get_bind fun _ hs => (cuida_terminar _ hs).bind fun _ =>
      cuida_modify fun _ hs => F.conSegFault (F.conFin hs)
  · exact (cuida_decir (by decide)).bind fun _ => cuida_recibirRespKernel.bind fun _ =>
      cuida_get_bind fun _ _ => (cuida_imprimirVariables _ _).bind fun _ =>
        cuida_get_bind fun _ hs => (cuida_terminar _ hs).bind fun _ => cuida_fin

lemma cuida_preservarContexto : Cuida g F preservarContexto :=
  cuida_get_bind fun _ hs => (cuida_entero _).bind fun _ => (cuida_escribir hs _ _ _).bind fun _ =>
    .ite ((cuida_entero _).bind fun _ => (cuida_escribir hs _ _ _).bind fun _ =>
        .ite (cuida_pure _) (.ite (cuida_finalizarContexto _) cuida_caida))
      (.ite (cuida_finalizarContexto _) (cuida_pure _))

lemma cuida_actualizarPcb (cantVar programCounter dir : ℤ) :
    Cuida g F (actualizarPcb cantVar programCounter dir) :=
  cuida_modificarPcb fun _ h => h.contexto _ _ _

lemma cuida_definirVariable (idVar : Byte) : Cuida g F (definirVariable idVar) :=
  cuida_get_bind fun _ hs => (cuida_entero _).bind fun _ => (cuida_entero _).bind fun _ =>
    (cuida_basura 3).bind fun _ => (cuida_escribir hs _ _ _).bind fun _ => .ite
      ((cuida_variables _).bind fun _ => (cuida_entero _).bind fun _ =>
        (cuida_modificarPcb fun _ h => h.contexto _ _ _).bind fun _ => cuida_pure _)
      ((cuida_finalizarContexto _).bind fun _ => cuida_pure _)

lemma cuida_dereferenciar (dir : ℤ) : Cuida g F (dereferenciar dir) :=
  cuida_get_bind fun _ _ => (cuida_basura 4).bind fun _ =>
    (cuida_leer _ _ _).bind fun _ => .ite (.ite (cuida_pure _) cuida_caida)
      (.ite ((cuida_finalizarContexto _).bind fun _ => cuida_pure _) (cuida_pure _))

lemma cuida_asignar (dir valor : ℤ) : Cuida g F (asignar dir valor) :=
  cuida_get_bind fun _ hs => .ite (cuida_pure _)
    ((cuida_escribir hs _ _ _).bind fun _ => .ite (cuida_finalizarContexto _) (cuida_pure _))

lemma cuida_finalizar : Cuida g F finalizar := by
  refine cuida_get_bind fun _ _ => .ite (cuida_finalizarContexto _) ((cuida_entero _).bind fun _ =>
    (cuida_leer _ _ _).bind fun _ => .ite ?_ (cuida_finalizarContexto _))
  exact (cuida_memcpy _ 8).bind fun _ => (cuida_entero _).bind fun _ =>
    (cuida_actualizarPcb _ _ _).bind fun _ => cuida_regenerarDiccVar

lemma cuida_retornar (retorno : ℤ) : Cuida g F (retornar retorno) := by
  refine cuida_get_bind fun _ hs => (cuida_entero _).bind fun _ => (cuida_leer _ _ _).bind fun _ =>
    .ite ?_ (cuida_finalizarContexto _)
  refine (cuida_memcpy _ 12).bind fun _ => (cuida_entero _).bind fun _ =>
    (cuida_actualizarPcb _ _ _).bind fun _ => cuida_regenerarDiccVar.bind fun _ => ?_
  generalize intOfBytes (List.drop 8 _) = dirRetorno
  exact (cuida_entero _).bind fun _ => (cuida_escribir hs _ _ _).bind fun _ => cuida_pure _

lemma cuida_avisarCierre {tipo : ℤ} (h : tipo ≠ segmenFault ∧ tipo ≠ finEjecucion) :
    Cuida g F (avisarCierre tipo) :=
  cuida_quitSistema.bind fun _ => .ite (cuida_decir h) (cuida_decir h)

/-- A label is looked up in the labels of the process. -/
lemma cuida_buscar (nombre : List Byte) : Cuida g g.enMarcha (metadataBuscarEtiqueta nombre) :=
  cuida_get_bind fun _ hs _ hs' =>
    ⟨⟨hs.2, hs.1.tamIndiceEtiquetas⟩, fun _ _ hm => ⟨hs', hm⟩⟩

/-- The end of the two calls: a new context, and a jump to the label. -/
lemma cuida_entrar (etiqueta : List Byte) (dir : ℤ) :
    Cuida g g.enMarcha (do
      modificarPcb fun pcb => { pcb with dirContActual := dir, cantVarContActual := 0 }
      regenerarDiccVar
      let posRetorno ← metadataBuscarEtiqueta etiqueta
      modificarPcb fun pcb => { pcb with programCounter := posRetorno }) :=
  (cuida_modificarPcb fun _ h => h.contexto _ _ _).bind fun _ => cuida_regenerarDiccVar.bind fun _ =>
    (cuida_buscar _).bind fun _ => cuida_modificarPcb fun _ h => h.contexto _ _ _

lemma cuida_llamarConRetorno (etiqueta : List Byte) (dondeRetornar : ℤ) :
    Cuida g g.enMarcha (llamarConRetorno etiqueta dondeRetornar) :=
  cuida_preservarContexto.bind fun _ => cuida_get_bind fun _ hs => (cuida_entero _).bind fun _ =>
    (cuida_escribir hs _ _ _).bind fun _ => .ite
      ((cuida_entero _).bind fun _ => cuida_entrar etiqueta _)
      (.ite (cuida_finalizarContexto _) (cuida_pure _))

variable (stringTrim : List Byte → List Byte)

/-- **Every primitive** keeps to the process that is on the CPU. -/
lemma cuida_primitiva (p : Primitiva) : Cuida g g.enMarcha (p.ejecutar stringTrim) := by
  cases p with
  | definirVariable c => exact cuida_definirVariable c
  | obtenerPosicionVariable c => exact cuida_get_bind fun _ _ => cuida_deref _
  | dereferenciar dir => exact cuida_dereferenciar dir
  | asignar dir valor => exact cuida_asignar dir valor
  | obtenerValorCompartida x =>
    exact (cuida_decir (by decide)).bind fun _ => cuida_oir.bind fun _ =>
      .ite (cuida_fin.bind fun _ => cuida_pure _) ((cuida_deref _).bind fun _ => cuida_pure _)
  | asignarValorCompartida x valor =>
    exact (cuida_decir (by decide)).bind fun _ => cuida_oir.bind fun _ =>
      .ite (cuida_fin.bind fun _ => cuida_pure _) (.ite ((cuida_decir (by decide)).bind fun _ =>
        cuida_oir.bind fun _ => cuida_pure _) (cuida_pure _))
  | irAlLabel etiq =>
    exact (cuida_buscar _).bind fun _ =>
      .ite (cuida_modificarPcb fun _ h => h.contexto _ _ _) cuida_fin
  | llamarSinRetorno etiq =>
    exact cuida_preservarContexto.bind fun _ => cuida_get_bind fun _ _ => (cuida_entero _).bind
      fun _ => cuida_entrar etiq _
  | llamarConRetorno etiq dir => exact cuida_llamarConRetorno etiq dir
  | finalizar => exact cuida_finalizar
  | retornar valor => exact cuida_retornar valor
  | imprimir valor =>
    exact cuida_get_bind fun _ _ => .ite (cuida_pure _)
      ((cuida_decir (by decide)).bind fun _ => cuida_recibirRespKernel)
  | imprimirTexto texto =>
    exact (cuida_decir (by decide)).bind fun _ => cuida_recibirRespKernel
  | entradaSalida disp tiempo =>
    exact (cuida_decir (by decide)).bind fun _ => (cuida_decir (by decide)).bind fun _ =>
      cuida_enviarPcb.bind fun _ => (cuida_avisarCierre (by decide)).bind fun _ => cuida_fin
  | wait sem =>
    exact (cuida_decir (by decide)).bind fun _ => cuida_oir.bind fun _ =>
      .ite (cuida_pure _) (.ite (cuida_fin.bind fun _ => cuida_enviarPcb.bind fun _ =>
        cuida_avisarCierre (by decide)) (.ite cuida_fin (cuida_pure _)))
  | signal sem =>
    exact (cuida_decir (by decide)).bind fun _ => cuida_oir.bind fun _ =>
      .ite (cuida_finalizarContexto _) (cuida_pure _)

lemma cuida_ejecutar : ∀ t : Analisis, Cuida g g.enMarcha (ejecutar stringTrim t)
  | .ret _ => cuida_pure _
  | .ask p sigue =>
    cuida_get_bind fun _ _ => Cuida.bind (fun _ hs => ⟨trivial, fun _ _ hm => ⟨hs, hm⟩⟩) fun _ =>
      (cuida_primitiva stringTrim p).bind fun valor => cuida_ejecutar (sigue valor)

end Cuida

/-! ### A dispatch -/

/-- With these answers, the lines that go to the parser and the labels are as the guard wants
them. -/
structure Guardia.Fiable (g : Guardia) (stringTrim : List Byte → List Byte) : Prop where
  etiquetas : ∀ r : MenComun,
    g.responde ⟨solBytes, g.pcb.dirIndiceEtiquetas, 0, g.pcb.tamIndiceEtiquetas, []⟩ r →
      if r.tipo = rSolBytes then g.etiquetas (.datos r.dato)
      else r.tipo ≠ segmenFault → ∀ e, g.etiquetas e
  linea : ∀ (programCounter : ℤ) (r : MenComun), 8 ≤ r.dato.length →
    g.responde ⟨solBytes, g.pcb.dirIndiceCodigo, int32 (programCounter * 8), 8, []⟩ r →
    ∀ r' : MenComun, r'.tipo = rSolBytes → 0 ≤ intOfBytes ((r.dato.take 8).drop 4) →
      (intOfBytes ((r.dato.take 8).drop 4)).toNat ≤ r'.dato.length →
      g.responde ⟨solBytes, g.pcb.dirSegCodigo, intOfBytes ((r.dato.take 8).take 4),
        intOfBytes ((r.dato.take 8).drop 4), []⟩ r' →
      g.linea (some (stringTrim
        ((r'.dato.take (intOfBytes ((r.dato.take 8).drop 4)).toNat).takeWhile (· ≠ 0))))
  nula : g.linea none

lemma Guardia.libre_fiable (pcb : Pcb) (stringTrim : List Byte → List Byte) :
    (Guardia.libre pcb).Fiable stringTrim where
  etiquetas r _ := by
    split
    · exact trivial
    · exact fun _ _ => trivial
  linea _ _ _ _ _ _ _ _ _ := trivial
  nula := trivial

section Despacho

open Guardia

variable {g : Guardia} {stringTrim : List Byte → List Byte} {s : Estado} {procActivo : ℤ}

lemma safe_pedirUmv {tipo base offset tam : ℤ} {buffer : List Byte}
    (h : Pertinente g.pcb procActivo ⟨tipo, base, offset, tam, buffer⟩) :
    Safe g.vigia (pedirUmv tipo base offset tam buffer) s procActivo fun r s' procActivo' =>
      s' = s ∧ procActivo' = procActivo ∧ g.responde ⟨tipo, base, offset, tam, buffer⟩ r :=
  ⟨h, fun _ _ hm => ⟨rfl, hm⟩⟩

lemma safe_memcpy (dato : List Byte) (n : ℕ) :
    Safe g.vigia (memcpy dato n) s procActivo fun l s' procActivo' =>
      s' = s ∧ procActivo' = procActivo ∧ n ≤ dato.length ∧ l = dato.take n := by
  unfold memcpy
  split
  · rename_i h
    exact safe_pure ⟨rfl, rfl, h, rfl⟩
  · exact ⟨trivial, nofun⟩

/-- **The next line** is as the guard wants it. -/
lemma safe_solicitarProxSentenciaAUmv (hg : g.Fiable stringTrim) (hs : g.enMarcha.Vale s) :
    Safe g.vigia (solicitarProxSentenciaAUmv stringTrim) s g.pcb.id fun l s' procActivo =>
      (g.enMarcha.Vale s' ∧ procActivo = g.pcb.id) ∧ g.linea l := by
  unfold solicitarProxSentenciaAUmv
  refine safe_get_bind ?_
  simp only [hs.1.dirIndiceCodigo, hs.1.dirSegCodigo]
  refine (safe_pedirUmv ⟨rfl, .inl rfl⟩).bind ?_
  rintro r _ _ ⟨rfl, rfl, hr⟩
  refine (safe_memcpy r.dato 8).bind ?_
  rintro _ _ _ ⟨rfl, rfl, hlen, rfl⟩
  generalize hoffset : intOfBytes ((r.dato.take 8).take 4) = offset
  generalize htam : intOfBytes ((r.dato.take 8).drop 4) = tam
  refine (safe_pedirUmv ⟨rfl, .inl rfl⟩).bind ?_
  rintro r' _ _ ⟨rfl, rfl, hr'⟩
  split
  · exact ⟨trivial, nofun⟩
  · rename_i h0
    split
    · rename_i htipo
      refine (safe_memcpy r'.dato tam.toNat).bind ?_
      rintro _ _ _ ⟨rfl, rfl, hlen', rfl⟩
      have hlinea : g.linea (some (stringTrim ((r'.dato.take tam.toNat).takeWhile (· ≠ 0)))) := by
        subst hoffset htam
        exact hg.linea _ r hlen hr r' htipo (by omega) hlen' hr'
      refine (cuida_entero _ _ hs).bind ?_
      rintro _ _ _ ⟨hs, rfl⟩
      refine (cuida_modificarPcb (fun _ h => h.contexto _ _ _) _ hs).bind ?_
      rintro _ _ _ ⟨hs, rfl⟩
      exact safe_pure ⟨⟨hs, rfl⟩, hlinea⟩
    · split
      · refine (cuida_finalizarContexto _ _ hs).bind ?_
        rintro _ _ _ ⟨hs, rfl⟩
        exact safe_pure ⟨⟨hs, rfl⟩, hg.nula⟩
      · exact safe_pure ⟨⟨hs, rfl⟩, hg.nula⟩

variable (analizadorLinea : Option (List Byte) → Analisis)

lemma cuida_cicloQuantum (hg : g.Fiable stringTrim) : ∀ n : ℕ,
    Cuida g g.enMarcha (cicloQuantum stringTrim analizadorLinea n)
  | 0 => cuida_pure _
  | n + 1 => by
    refine cuida_get_bind fun _ _ => .ite (cuida_pure _) fun s hs => ?_
    refine (safe_solicitarProxSentenciaAUmv hg hs).bind ?_
    rintro linea s' _ ⟨⟨hs', rfl⟩, hlinea⟩
    refine Safe.bind (P := fun _ s' activo => g.enMarcha.Vale s' ∧ activo = g.pcb.id)
      ⟨hlinea, fun _ _ hm => ⟨hs', hm⟩⟩ ?_
    rintro _ s'' _ ⟨hs'', rfl⟩
    exact ((cuida_ejecutar stringTrim _).bind fun _ => cuida_cicloQuantum hg n) s'' hs''

/-- The labels have come, or the process will execute nothing. -/
lemma safe_traerIndiceEtiquetas (hg : g.Fiable stringTrim) (hs : MismoProceso g.pcb s.pcb) :
    Safe g.vigia traerIndiceEtiquetas s g.pcb.id fun _ s' procActivo =>
      (g.enMarcha.Vale s' ∨ g.parado.Vale s') ∧ procActivo = g.pcb.id := by
  unfold traerIndiceEtiquetas
  refine safe_get_bind ?_
  simp only [hs.dirIndiceEtiquetas, hs.tamIndiceEtiquetas]
  refine (safe_pedirUmv ⟨rfl, .inl rfl⟩).bind ?_
  rintro r _ _ ⟨rfl, rfl, hr⟩
  have hetiq := hg.etiquetas r hr
  split
  · rename_i htipo
    rw [if_pos htipo] at hetiq
    exact safe_modify ⟨.inl ⟨hs, hetiq⟩, rfl⟩
  · rename_i htipo
    rw [if_neg htipo] at hetiq
    split
    · unfold finalizarContexto
      rw [if_pos rfl]
      refine safe_get_bind ⟨fun _ => ?_, fun _ _ hm => ⟨.inr ⟨hs, rfl⟩, hm⟩⟩
      rw [hs.id]
      rfl
    · rename_i hfault
      exact safe_pure ⟨.inl ⟨hs, hetiq hfault _⟩, rfl⟩

/-- The loop does nothing for a process that has ended. -/
lemma cuida_cicloQuantum_parado (n : ℕ) :
    Cuida g g.parado (cicloQuantum stringTrim analizadorLinea n) := by
  cases n with
  | zero => exact cuida_pure _
  | succ n =>
    refine cuida_get_bind fun s hs => ?_
    rw [if_pos hs.2]
    exact cuida_pure _

lemma safe_freeEtiquetas : Safe g.vigia freeEtiquetas s procActivo fun _ _ _ => True := by
  refine safe_get_bind ?_
  cases s.etiquetas with
  | nulo => exact safe_pure trivial
  | datos l => exact safe_modify trivial
  | liberado => exact ⟨trivial, nofun⟩

/-- From the loop over the quantum on. -/
lemma safe_trasRegenerar {F : Invariante g.pcb} (hs : F.Vale s)
    (hciclo : ∀ n, Cuida g F (cicloQuantum stringTrim analizadorLinea n)) :
    Safe g.vigia (do
      cicloQuantum stringTrim analizadorLinea (← get).quantumMax.toNat
      if (← get).fueFinEjecucion then pure () else salirPorQuantum
      freeEtiquetas
      Cpu.cambioPA 0
      modify fun s => (s.conFin false).conSegFault false) s g.pcb.id
      fun _ _ procActivo => procActivo = 0 := by
  refine safe_get_bind ((hciclo _ s hs).bind ?_)
  rintro _ s' _ ⟨hs', rfl⟩
  have hfin : ∀ s procActivo, Safe g.vigia (do
      freeEtiquetas
      Cpu.cambioPA 0
      modify fun s => (s.conFin false).conSegFault false) s procActivo
      fun _ _ procActivo => procActivo = 0 :=
    fun s procActivo => safe_freeEtiquetas.bind fun _ _ _ _ => ⟨rfl, fun _ _ hm => hm⟩
  refine safe_get_bind ?_
  split
  · exact hfin _ _
  · exact (((cuida_avisarCierre (by decide)).bind fun _ => cuida_enviarPcb) s' hs').bind
      fun _ _ _ _ => hfin _ _

/-- **A dispatch**, in whatever state the CPU was and whatever process was active: it does what the
monitor of its process allows, and leaves no process active. -/
theorem safe_despacho {men : MenQuantumPcb} (hpcb : g.pcb = men.pcb) (hg : g.Fiable stringTrim) :
    Safe g.vigia (despacho stringTrim analizadorLinea men) s procActivo
      fun _ _ procActivo => procActivo = 0 := by
  unfold despacho tomarPcb
  split
  · refine safe_modify_bind (safe_get_bind ?_)
    refine Safe.bind (P := fun _ s' activo => MismoProceso g.pcb s'.pcb ∧ activo = g.pcb.id)
      ⟨rfl, fun _ _ hm => ⟨hpcb ▸ .refl _, hm.trans (congrArg Pcb.id hpcb.symm)⟩⟩ ?_
    rintro _ s' _ ⟨hs', rfl⟩
    refine (safe_traerIndiceEtiquetas hg hs').bind ?_
    rintro _ s'' _ ⟨hs'' | hs'', rfl⟩
    · refine (cuida_regenerarDiccVar s'' hs'').bind ?_
      rintro _ s _ ⟨hs, rfl⟩
      exact safe_trasRegenerar analizadorLinea hs (cuida_cicloQuantum analizadorLinea hg)
    · refine (cuida_regenerarDiccVar s'' hs'').bind ?_
      rintro _ s _ ⟨hs, rfl⟩
      exact safe_trasRegenerar analizadorLinea hs (cuida_cicloQuantum_parado analizadorLinea)
  · exact ⟨trivial, nofun⟩

/-- The free guard follows any actions. -/
lemma follows_libre (pcb : Pcb) : ∀ (tr : List Suceso) (procActivo : ℤ),
    ∃ procActivo', Follows (Guardia.libre pcb).vigia procActivo tr procActivo'
  | [], procActivo => ⟨procActivo, .nil _⟩
  | ⟨e, r⟩ :: tr, procActivo => by
    obtain ⟨activo, hactivo⟩ : ∃ activo, (Guardia.libre pcb).vigia.next procActivo e r activo := by
      cases e with
      | enviarUmv men => exact ⟨_, rfl⟩
      | pedirUmv men => exact ⟨_, rfl, trivial⟩
      | _ => exact ⟨_, rfl⟩
    obtain ⟨procActivo', h⟩ := follows_libre pcb tr activo
    exact ⟨procActivo', .cons hactivo h⟩

/-- **What a CPU says to the kernel is about the process it was given**: whatever it executes and
whatever it is answered, it hands back a pcb that differs from the one it got in the program counter
and the context only, and it ends no process but that one. -/
theorem despacho_delProceso (men : MenQuantumPcb) (s : Estado)
    {t : Dialog Evento Evento.Respuesta (Unit × Estado)} {tr : List Suceso}
    (ht : Goes (despacho stringTrim analizadorLinea men s) tr t) :
    EachStep (fun _ x => ∀ m, x.1 = .enviarKernel m → DelProceso men.pcb m) tr := by
  rintro pre ⟨e, r⟩ post rfl m rfl
  have hk : Safe (Guardia.libre men.pcb).vigia (despacho stringTrim analizadorLinea men) s 0
      fun _ _ procActivo => procActivo = 0 :=
    safe_despacho analizadorLinea rfl (Guardia.libre_fiable men.pcb stringTrim)
  obtain ⟨procActivo, hpre⟩ := follows_libre men.pcb pre 0
  exact Keeps.allows hk ht hpre

end Despacho

/-- A CPU that has no process yet gets the process 7, whose labels are refused: it ends the
process 7. -/
theorem despacho_delProceso_siete :
    ∃ (tr : List Suceso) (t : Dialog Evento Evento.Respuesta (Unit × Estado)),
      Goes (despacho id (fun _ => .ret ()) ⟨pcbYQuantum, 0, ⟨0, 0, 0, 0, 0, 0, 7, 0, 0, 0⟩⟩
        ⟨⟨0, 0, 0, 0, 0, 0, 0, 0, 0, 0⟩, 0, .nulo, false, false, fun _ => none⟩) tr t ∧
      (⟨.enviarKernel (.comun (crearMenComun segmenFault [55, 0])), ()⟩ : Suceso) ∈ tr ∧
      EachStep (fun _ x => ∀ m, x.1 = .enviarKernel m →
        DelProceso ⟨0, 0, 0, 0, 0, 0, 7, 0, 0, 0⟩ m) tr := by
  have ht : Goes (despacho id (fun _ => .ret ()) ⟨pcbYQuantum, 0, ⟨0, 0, 0, 0, 0, 0, 7, 0, 0, 0⟩⟩
      ⟨⟨0, 0, 0, 0, 0, 0, 0, 0, 0, 0⟩, 0, .nulo, false, false, fun _ => none⟩)
      [⟨.enviarUmv _, ()⟩, ⟨.pedirUmv _, crearMenComun segmenFault []⟩,
        ⟨.enviarKernel (.comun (crearMenComun segmenFault [55, 0])), ()⟩] _ :=
    .cons (.cons (.cons (.nil _)))
  exact ⟨_, _, ht, by simp, despacho_delProceso _ _ _ ht⟩

end Ansisop.Cpu
