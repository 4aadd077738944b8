import Ansisop.Cpu.Program
import Ansisop.Sockets.Wire

/-!
The requests of a CPU to the UMV: where the bytes that travel with a request come from, and what
each function does with the answer `SEGMEN_FAULT`.

A request is built by `crear_men_cpu_umv` and written by `men_serealizer_cpu_umv`, and both copy as
many bytes as `tam` says. With `NULL` the first one copies none, so that a reading of `tam` bytes
takes the `tam` bytes behind an empty buffer along.
-/

namespace Ansisop.Cpu

open Ansisop.Sockets Ansisop.Lib Dialog Prog
open TipoDatos hiding signal wait imprimirTexto cambioPA

/-! ### The bytes of a request -/

/-- The arguments of `enviar_men_cpu_umv_destruir`. A buffer is `NULL` or the bytes it has. -/
structure Pedido where
  tipo : ℤ
  base : ℤ
  offset : ℤ
  tam : ℤ
  buffer : Option (List Byte)
  deriving DecidableEq, Repr

/-- The copy of `n` bytes of a buffer stays inside it. -/
def Dentro (l : List Byte) (n : ℤ) : Prop := 0 ≤ n ∧ n ≤ l.length

namespace Pedido

/-- `crear_men_cpu_umv`. -/
def crearMenCpuUmv (mem : Sockets.Memoria) (p : Pedido) : Option MenCpuUmv :=
  match p.buffer with
  | none => some ⟨p.tipo, p.base, p.offset, p.tam, []⟩
  | some l => (mem.copia l p.tam).map fun b => ⟨p.tipo, p.base, p.offset, p.tam, b⟩

/-- `enviar_men_cpu_umv_destruir`: the bytes that go to the UMV, with the memory around the buffer
of the caller and around the one of the message. -/
def enviar (mem mem' : Sockets.Memoria) (p : Pedido) : Option (List Byte) :=
  (p.crearMenCpuUmv mem).bind (menSerealizerCpuUmv mem')

/-- The arguments are `int32_t`. -/
structure EnRango (p : Pedido) : Prop where
  tipo : EsInt32 p.tipo
  base : EsInt32 p.base
  offset : EsInt32 p.offset
  tam : EsInt32 p.tam

/-- The bytes of the request come from the arguments: both copies stay inside the buffer they
are made of, what is sent is the same whatever the memory holds, and so are the bytes that the UMV
receives to store. -/
structure Propio (p : Pedido) : Prop where
  creado : ∀ l, p.buffer = some l → Dentro l p.tam
  serealizado : ∀ mem men, p.crearMenCpuUmv mem = some men → Dentro men.buffer men.tam
  enviado : ∃ stream, ∀ mem mem', p.enviar mem mem' = some stream
  guardado : p.tipo = almBytes → ∃ buffer, ∀ mem mem',
    (p.enviar mem mem').bind menDeserealizerCpuUmv
      = some (.cpuUmv p.tipo p.base p.offset p.tam buffer)

/-- The buffer has the bytes the request asks to copy, and the length of the message is an `int`. -/
def Cubierto (p : Pedido) : Prop := Dentro (p.buffer.getD []) p.tam ∧ 20 + p.tam < 2 ^ 31

/-- The message with the given bytes. -/
def con (p : Pedido) (l : List Byte) : Mensaje := .cpuUmv ⟨p.tipo, p.base, p.offset, p.tam, l⟩

end Pedido

section Copias

variable {l : List Byte} {n : ℤ} {mem mem' : Sockets.Memoria} {p : Pedido}

/-- A copy that stays inside does not look at the memory. -/
lemma Dentro.copia (h : Dentro l n) (mem : Sockets.Memoria) :
    mem.copia l n = some (l.take n.toNat) := by
  obtain ⟨h₀, h₁⟩ := h
  have hl : (List.range n.toNat).map (fun i => l.getD i (mem.detras i)) = l.take n.toNat := by
    refine List.ext_getElem (by simp; omega) fun i hi hi' => ?_
    have hlt : i < l.length := by simp at hi'; omega
    simp [hlt]
  unfold Memoria.copia
  rw [if_neg (by omega), hl]

/-- Whatever it takes, a copy takes as many bytes as it is told to. -/
lemma copia_length {b : List Byte} (h : mem.copia l n = some b) : n = b.length := by
  unfold Memoria.copia at h
  split at h
  · exact absurd h nofun
  · obtain rfl := Option.some.inj h
    simp
    omega

/-- The frame of a request is written with the bytes the copy takes. -/
lemma serealizer_con {men : MenCpuUmv} {b : List Byte} (hmen : .cpuUmv men = p.con l)
    (hb : mem.copia l p.tam = some b) (hp : 20 + p.tam < 2 ^ 31) :
    menSerealizerCpuUmv mem men = some (p.con b).trama := by
  obtain rfl := Mensaje.cpuUmv.inj hmen
  have hlen := copia_length hb
  have hlargo : 4 * 5 + p.tam = (p.con b).largo := by
    simp [Pedido.con, Mensaje.largo, Mensaje.campos, Mensaje.dato, hlen]
  have hint : int32 (4 * 5 + p.tam) = (p.con b).largo := by
    rw [int32_of_range (by omega) (by omega), hlargo]
  simp only [menSerealizerCpuUmv, hb]
  exact volcar_trama mem (p.con b) hint
    (by rw [hint]; simp [Mensaje.trama, Pedido.con, Mensaje.campos, Mensaje.dato])

/-- The request of a buffer that has the bytes. -/
lemma Pedido.Cubierto.crear (h : p.Cubierto) (mem : Sockets.Memoria) :
    p.crearMenCpuUmv mem
      = some ⟨p.tipo, p.base, p.offset, p.tam, (p.buffer.getD []).take p.tam.toNat⟩ := by
  unfold Pedido.crearMenCpuUmv
  cases hb : p.buffer with
  | none => simp
  | some l =>
    have hd : Dentro l p.tam := by simpa [hb] using h.1
    simp [hd.copia mem]

lemma Pedido.Cubierto.dentro (h : p.Cubierto) :
    Dentro ((p.buffer.getD []).take p.tam.toNat) p.tam := by
  obtain ⟨⟨h₀, h₁⟩, -⟩ := h
  refine ⟨h₀, ?_⟩
  rw [List.length_take]
  omega

lemma Pedido.Cubierto.enviar (h : p.Cubierto) (mem mem' : Sockets.Memoria) :
    p.enviar mem mem' = some (p.con ((p.buffer.getD []).take p.tam.toNat)).trama := by
  have hcopia := h.dentro.copia mem'
  rw [List.take_take, min_self] at hcopia
  unfold Pedido.enviar
  rw [h.crear mem, Option.bind_some]
  exact serealizer_con rfl hcopia h.2

lemma Pedido.Cubierto.con_enRango (h : p.Cubierto) (hp : p.EnRango) :
    (p.con ((p.buffer.getD []).take p.tam.toNat)).EnRango := by
  obtain ⟨⟨h₀, h₁⟩, h₂⟩ := h
  have hlen : p.tam = ((p.buffer.getD []).take p.tam.toNat).length := by
    rw [List.length_take]
    omega
  refine ⟨?_, hlen, ?_⟩
  · simpa [Pedido.con, Mensaje.campos] using ⟨hp.tipo, hp.base, hp.offset, hp.tam⟩
  · have hlargo : (p.con ((p.buffer.getD []).take p.tam.toNat)).largo = 20 + p.tam := by
      conv_rhs => rw [hlen]
      rfl
    omega

/-- A memory with the same byte everywhere. -/
def llena (d : Byte) : Sockets.Memoria := ⟨fun _ => d, fun _ => d⟩

/-- With one byte all around, the message carries it behind the bytes of the buffer. -/
lemma enviar_llena (d : Byte) (h₀ : 0 ≤ p.tam) (hp : 20 + p.tam < 2 ^ 31) :
    p.enviar (llena d) (llena d)
      = some (p.con ((List.range p.tam.toNat).map fun i => (p.buffer.getD []).getD i d)).trama := by
  have hcopia : ∀ l, (llena d).copia l p.tam
      = some ((List.range p.tam.toNat).map fun i => l.getD i d) := by
    intro l
    unfold Memoria.copia
    rw [if_neg (by omega)]
    rfl
  unfold Pedido.enviar Pedido.crearMenCpuUmv
  cases p.buffer with
  | none =>
    rw [Option.bind_some]
    exact serealizer_con rfl (hcopia []) hp
  | some l =>
    simp only [hcopia l, Option.map_some, Option.bind_some, Option.getD_some]
    exact serealizer_con rfl (Memoria.copia_exacta _ (by simp; omega)) hp

lemma crear_tam {men : MenCpuUmv} (h : p.crearMenCpuUmv mem = some men) : men.tam = p.tam := by
  unfold Pedido.crearMenCpuUmv at h
  split at h
  · obtain rfl := Option.some.inj h
    rfl
  · obtain ⟨b, -, rfl⟩ := Option.map_eq_some_iff.1 h
    rfl

/-- A message too long for an `int` has no buffer to be written into. -/
lemma enviar_largo (h : p.EnRango) (hp : ¬ 20 + p.tam < 2 ^ 31) : p.enviar mem mem' = none := by
  have htam := h.tam.2
  have hint : int32 (4 * 5 + p.tam) < 0 := by
    unfold int32
    rw [Int.bmod_def]
    omega
  unfold Pedido.enviar
  refine Option.bind_eq_none_iff.2 fun men hmen => ?_
  simp only [menSerealizerCpuUmv, volcar, crear_tam hmen, if_pos hint]
  exact Option.bind_eq_none_iff.2 fun _ _ => rfl

/-- No copy has a negative length. -/
lemma enviar_negativo (hp : p.tam < 0) : p.enviar mem mem' = none := by
  unfold Pedido.enviar
  refine Option.bind_eq_none_iff.2 fun men hmen => ?_
  have hcopia : mem'.copia men.buffer p.tam = none := if_pos hp
  simp only [menSerealizerCpuUmv, crear_tam hmen, hcopia]
  rfl

/-- Two messages that differ in their bytes only are told apart by what is sent. -/
lemma con_inj {b b' : List Byte} (h : (p.con b).trama = (p.con b').trama)
    (hlen : b.length = b'.length) : b = b' := List.append_inj_right' h hlen

end Copias

/-- **The bytes that are sent do not depend on the memory** exactly for a buffer that has them. -/
theorem enviado_iff {p : Pedido} (h : p.EnRango) :
    (∃ stream, ∀ mem mem', p.enviar mem mem' = some stream) ↔ p.Cubierto := by
  refine ⟨?_, fun hc => ⟨_, hc.enviar⟩⟩
  rintro ⟨stream, hs⟩
  have hlargo : 20 + p.tam < 2 ^ 31 := by
    by_contra hp
    have hnone : p.enviar (llena 0) (llena 0) = none := enviar_largo h hp
    rw [hs] at hnone
    exact absurd hnone nofun
  have hpos : 0 ≤ p.tam := by
    by_contra hneg
    have hnone : p.enviar (llena 0) (llena 0) = none := enviar_negativo (not_le.1 hneg)
    rw [hs] at hnone
    exact absurd hnone nofun
  have higuales := (enviar_llena 0 hpos hlargo).symm.trans
    ((hs _ _).trans ((hs _ _).symm.trans (enviar_llena 1 hpos hlargo)))
  refine ⟨⟨hpos, ?_⟩, hlargo⟩
  by_contra hcorto
  -- the first byte behind the buffer is `0` in one memory and `1` in the other
  have hdatos := congrArg (fun b => b[(p.buffer.getD []).length]?)
    (con_inj (Option.some.inj higuales) (by simp))
  have hlt : (p.buffer.getD []).length < p.tam.toNat := by omega
  simp [hlt] at hdatos

/-- **The bytes of a request come from the request** exactly for a buffer that has the bytes
asked for, `NULL` being one that has none. -/
theorem propio_iff {p : Pedido} (h : p.EnRango) :
    p.Propio ↔ 0 ≤ p.tam ∧ p.tam ≤ (p.buffer.getD []).length ∧ 20 + p.tam < 2 ^ 31 := by
  refine Iff.trans ⟨fun hp => (enviado_iff h).1 hp.enviado, fun hc => ?_⟩ and_assoc
  refine ⟨?_, ?_, (enviado_iff h).2 hc, fun _ =>
    ⟨puntero ((p.buffer.getD []).take p.tam.toNat), fun mem mem' => ?_⟩⟩
  · intro l hl
    simpa [hl] using hc.1
  · intro mem men hmen
    obtain rfl := Option.some.inj (hmen.symm.trans (hc.crear mem))
    exact hc.dentro
  · rw [hc.enviar mem mem', Option.bind_some]
    exact deserealizar_trama (hc.con_enRango h)

/-- The writing of an integer, which comes with its four bytes. -/
theorem propio_entero : Pedido.Propio ⟨almBytes, 1000, 1, 4, some (bytesOfInt 7)⟩ :=
  (propio_iff (by constructor <;> simp [EsInt32, val])).2 (by decide)

/-! ### The requests of the code -/

/-- The requests of `cpu.c`: the change of the active process, the readings, the writings of an
integer, and the one of the five bytes of a new variable. -/
inductive DeCpu : Pedido → Prop
  | cambioPA (idProc : ℤ) : DeCpu ⟨TipoDatos.cambioPA, idProc, 0, 0, none⟩
  | lectura (base offset tam : ℤ) : DeCpu ⟨solBytes, base, offset, tam, none⟩
  | entero (base offset x : ℤ) : DeCpu ⟨almBytes, base, offset, 4, some (bytesOfInt x)⟩
  | definida (base offset : ℤ) (key : Byte) : DeCpu ⟨almBytes, base, offset, 5, some [key, 0]⟩

/-- Of the requests of `cpu.c`, those that read nothing and those that write an integer. -/
theorem DeCpu.propio_tam {p : Pedido} (hc : DeCpu p) (h : p.EnRango) :
    p.Propio ↔ p.tam = 0 ∨ p.tipo = almBytes ∧ p.tam = 4 := by
  rw [propio_iff h]
  cases hc with
  | cambioPA idProc => simp
  | lectura base offset tam =>
    simp
    omega
  | entero base offset x => simp
  | definida base offset key => simp

/-- `definirVariable` of the letter `a`: the last three of the five bytes are those found behind its
name, whatever they are. -/
theorem definirVariable_ajena :
    DeCpu ⟨almBytes, 1000, 0, 5, some [97, 0]⟩ ∧
    Pedido.EnRango ⟨almBytes, 1000, 0, 5, some [97, 0]⟩ ∧
    ¬ Pedido.Propio ⟨almBytes, 1000, 0, 5, some [97, 0]⟩ ∧
    Pedido.enviar (llena 0) (llena 0) ⟨almBytes, 1000, 0, 5, some [97, 0]⟩
      ≠ Pedido.enviar (llena 7) (llena 7) ⟨almBytes, 1000, 0, 5, some [97, 0]⟩ := by
  refine ⟨.definida _ _ _, by constructor <;> simp [EsInt32, val], ?_, by decide⟩
  rintro ⟨h, -, -, -⟩
  exact absurd (h _ rfl).2 (by decide)

/-! ### The places of the requests -/

section Sitios

variable (stringTrim : List Byte → List Byte)

/-- `solicitarProxSentenciaAUmv` after its second request. -/
def trasInstruccion (pcb : Pcb) (tam : ℤ) (recInst : MenComun) : Prog (Option (List Byte)) :=
  if tam < 0 then caida
  else if recInst.tipo = rSolBytes then do
    let proxInst ← memcpy recInst.dato tam.toNat
    let pc ← entero (pcb.programCounter + 1)
    modificarPcb fun pcb => { pcb with programCounter := pc }
    pure (some (stringTrim (proxInst.takeWhile (· ≠ 0))))
  else if recInst.tipo = segmenFault then do
    finalizarContexto segmenFault
    pure none
  else pure none

/-- `preservarContexto` after its second request. -/
def trasContador (rProxins : MenComun) : Prog Unit :=
  if rProxins.tipo = rAlmBytes then pure ()
  else if rProxins.tipo = segmenFault then finalizarContexto segmenFault
  else caida

/-- The loop of `finalizarContexto` after the request of the value of a variable. -/
def trasContenido (n : ℕ) (i : ℤ) (menNombreVar menContVar : MenComun) : Prog Unit := do
  let contVar ← memcpy menContVar.dato 4
  let nombre ← deref menNombreVar.dato.head?
  let texto := nombre :: 61 :: stringItoa (intOfBytes contVar)
  enviarMenComun TipoDatos.imprimirTexto (cString (texto.takeWhile (· ≠ 0)))
  recibirRespKernel
  imprimirVariables n (i + 1)

/-- A request of `cpu.c` that waits for its answer, with what the function has at hand there. -/
inductive Sitio where
  | etiquetas
  | indice (pcb : Pcb)
  | instruccion (pcb : Pcb) (tam : ℤ)
  | regenera (base offset : ℤ) (n : ℕ) (i : ℤ)
  | contexto (pcb : Pcb) (base offset : ℤ)
  | contador
  | define (pcb : Pcb) (posMem : ℤ) (key : Byte)
  | dereferencia
  | asigna
  | llama (etiqueta : List Byte) (base offset : ℤ)
  | finaliza (pcb : Pcb)
  | retorna (pcb : Pcb) (base retorno : ℤ)
  | devuelve
  | nombre (base : ℤ) (n : ℕ) (i : ℤ)
  | contenido (n : ℕ) (i : ℤ) (menNombreVar : MenComun)

namespace Sitio

/-- What the function gives back. -/
@[reducible] def Valor : Sitio → Type
  | indice _ | instruccion _ _ => Option (List Byte)
  | define _ _ _ | dereferencia => ℤ
  | _ => Unit

/-- The rest of the function, from the answer on. The variable that `dereferenciar` gives back
holds four bytes that have not been written. -/
def resto : (σ : Sitio) → (Fin 4 → Byte) → MenComun → Prog σ.Valor
  | etiquetas, _, recEtiq =>
    if recEtiq.tipo = rSolBytes then modify fun s => s.conEtiquetas (.datos recEtiq.dato)
    else if recEtiq.tipo = segmenFault then finalizarContexto segmenFault
    else pure ()
  | indice pcb, _, menBaseOffset => do
    let l ← memcpy menBaseOffset.dato 8
    let offset := intOfBytes (l.take 4)
    let tam := intOfBytes (l.drop 4)
    trasInstruccion stringTrim pcb tam (← pedirUmv solBytes pcb.dirSegCodigo offset tam [])
  | instruccion pcb tam, _, recInst => trasInstruccion stringTrim pcb tam recInst
  | regenera base offset n i, _, menVar => do
    let pos ← entero (base + offset)
    let c ← deref menVar.dato.head?
    modify fun s => s.conVariables (Function.update s.dicVariables (esNumeroPasarChar c) (some pos))
    regenerarLoop n (i + 1)
  | contexto pcb base offset, _, rCon =>
    if rCon.tipo = rAlmBytes then do
      let offset ← entero (offset + 4)
      trasContador (← pedirUmv almBytes base offset 4 (bytesOfInt pcb.programCounter))
    else if rCon.tipo = segmenFault then finalizarContexto segmenFault
    else pure ()
  | contador, _, rProxins => trasContador rProxins
  | define pcb posMem key, _, rAlm =>
    if rAlm.tipo = rAlmBytes then do
      modify fun s => s.conVariables (Function.update s.dicVariables key (some posMem))
      let cant ← entero (pcb.cantVarContActual + 1)
      modificarPcb fun pcb => { pcb with cantVarContActual := cant }
      pure posMem
    else do
      finalizarContexto segmenFault
      pure (-1)
  | dereferencia, valor, men =>
    if men.tipo = rSolBytes then
      if men.dato.length ≤ 4 then
        pure (intOfBytes (men.dato ++ (List.ofFn valor).drop men.dato.length))
      else caida
    else do
      if men.tipo = segmenFault then finalizarContexto segmenFault
      pure (intOfBytes (List.ofFn valor))
  | asigna, _, rAlm => if rAlm.tipo = segmenFault then finalizarContexto segmenFault else pure ()
  | llama etiqueta base offset, _, rAlm =>
    if rAlm.tipo = rAlmBytes then do
      let dir ← entero (base + offset + 4)
      modificarPcb fun pcb => { pcb with dirContActual := dir, cantVarContActual := 0 }
      regenerarDiccVar
      let posRetorno ← metadataBuscarEtiqueta etiqueta
      modificarPcb fun pcb => { pcb with programCounter := posRetorno }
    else if rAlm.tipo = segmenFault then finalizarContexto segmenFault
    else pure ()
  | finaliza pcb, _, recRet =>
    if recRet.tipo = rSolBytes then do
      let l ← memcpy recRet.dato 8
      let dirContextAnt := intOfBytes (l.take 4)
      let cantVar ← entero (pcb.dirContActual - dirContextAnt - 8)
      actualizarPcb (cantVar.tdiv 5) (intOfBytes (l.drop 4)) dirContextAnt
      regenerarDiccVar
    else finalizarContexto segmenFault
  | retorna pcb base retorno, _, recRet =>
    if recRet.tipo = rSolBytes then do
      let l ← memcpy recRet.dato 12
      let dirContextAnt := intOfBytes (l.take 4)
      let dirRetorno := intOfBytes (l.drop 8)
      let cantVar ← entero (pcb.dirContActual - dirContextAnt - 12)
      actualizarPcb (cantVar.tdiv 5) (intOfBytes ((l.drop 4).take 4)) dirContextAnt
      regenerarDiccVar
      let offset ← entero (dirRetorno - base + 1)
      let _ ← pedirUmv almBytes base offset 4 (bytesOfInt retorno)
    else finalizarContexto segmenFault
  | devuelve, _, _ => pure ()
  | nombre base n i, _, menNombreVar => do
    let offset ← entero (5 * i + 1)
    trasContenido n i menNombreVar (← pedirUmv solBytes base offset 4 [])
  | contenido n i menNombreVar, _, menContVar => trasContenido n i menNombreVar menContVar

end Sitio

/-- A message to the UMV is one that `crear_men_cpu_umv` makes for a request of `cpu.c`. -/
def EsDeCpu (men : MenCpuUmv) : Prop := ∃ p mem, DeCpu p ∧ p.crearMenCpuUmv mem = some men

/-- An action and what follows each answer to it: a message to the UMV is one of `cpu.c`, and the
answer is taken by the rest of the function that is waiting for it. -/
def EnSitio {β : Type} : (e : Evento) → (e.Respuesta → Dialog Evento Evento.Respuesta β) → Prop
  | .enviarUmv men, _ => EsDeCpu men
  | .pedirUmv men, next => EsDeCpu men ∧
    ∃ (σ : Sitio) (valor : Fin 4 → Byte) (s : Estado)
      (k : σ.Valor × Estado → Dialog Evento Evento.Respuesta β),
      next = fun r => σ.resto stringTrim valor r s >>= k
  | _, _ => True

/-- Every action of a tree is in its place. -/
def EnSitios {β : Type} : Dialog Evento Evento.Respuesta β → Prop
  | .ret _ => True
  | .ask e next => EnSitio stringTrim e next ∧ ∀ r, EnSitios (next r)

/-- Every action of the program is in its place. -/
def Pide {α : Type} (x : Prog α) : Prop := ∀ s, EnSitios stringTrim (x s)

end Sitios

section Pide

variable {stringTrim : List Byte → List Byte} {α β : Type}

lemma EnSitio.bind {f : α → Dialog Evento Evento.Respuesta β} {e : Evento}
    {next : e.Respuesta → Dialog Evento Evento.Respuesta α} (h : EnSitio stringTrim e next) :
    EnSitio stringTrim e fun r => next r >>= f := by
  cases e with
  | pedirUmv men =>
    obtain ⟨hmen, σ, valor, s, k, rfl⟩ := h
    exact ⟨hmen, σ, valor, s, fun a => k a >>= f, funext fun r => bind_assoc k f _⟩
  | _ => exact h

lemma EnSitios.bind {f : α → Dialog Evento Evento.Respuesta β}
    (hf : ∀ a, EnSitios stringTrim (f a)) : ∀ {t : Dialog Evento Evento.Respuesta α},
    EnSitios stringTrim t → EnSitios stringTrim (t >>= f)
  | .ret a, _ => hf a
  | .ask _ _, h => ⟨h.1.bind, fun r => (h.2 r).bind hf⟩

lemma pide_pure (a : α) : Pide stringTrim (pure a) := fun _ => trivial

lemma Pide.bind {x : Prog α} {f : α → Prog β} (hx : Pide stringTrim x)
    (hf : ∀ a, Pide stringTrim (f a)) : Pide stringTrim (x >>= f) :=
  fun s => EnSitios.bind (f := fun a : α × Estado => f a.1 a.2) (fun a => hf a.1 a.2) (hx s)

lemma Pide.ite {c : Prop} [Decidable c] {x y : Prog α} (hx : Pide stringTrim x)
    (hy : Pide stringTrim y) : Pide stringTrim (if c then x else y) := by
  split
  · exact hx
  · exact hy

lemma pide_get : Pide stringTrim (get : Prog Estado) := fun _ => trivial

lemma pide_modify (f : Estado → Estado) : Pide stringTrim (modify f) := fun _ => trivial

lemma pide_caida : Pide stringTrim (caida : Prog α) := fun _ => ⟨trivial, nofun⟩

lemma pide_entero (x : ℤ) : Pide stringTrim (entero x) := (pide_pure _).ite pide_caida

lemma pide_memcpy (dato : List Byte) (n : ℕ) : Pide stringTrim (memcpy dato n) :=
  (pide_pure _).ite pide_caida

lemma pide_deref (x : Option α) : Pide stringTrim (deref x) := by
  cases x with
  | none => exact pide_caida
  | some a => exact pide_pure a

lemma pide_basura_bind {n : ℕ} {f : List Byte → Prog α}
    (hf : ∀ r : Fin n → Byte, Pide stringTrim (f (List.ofFn r))) :
    Pide stringTrim (basura n >>= f) := fun s => ⟨trivial, fun r => hf r s⟩

lemma pide_quitSistema : Pide stringTrim quitSistema := fun _ => ⟨trivial, fun _ => trivial⟩

lemma pide_decir (tipo : ℤ) (dato : List Byte) : Pide stringTrim (enviarMenComun tipo dato) :=
  fun _ => ⟨trivial, fun _ => trivial⟩

lemma pide_oir : Pide stringTrim recvKernel := fun _ => ⟨trivial, fun _ => trivial⟩

lemma pide_buscar (nombre : List Byte) : Pide stringTrim (metadataBuscarEtiqueta nombre) :=
  fun _ => ⟨trivial, fun _ => trivial⟩

lemma pide_modificarPcb (f : Pcb → Pcb) : Pide stringTrim (modificarPcb f) := pide_modify _

/-- A request whose answer the rest of the function takes. -/
lemma pide_pedir (σ : Sitio) (valor : Fin 4 → Byte) {tipo base offset tam : ℤ} {buffer : List Byte}
    (h : EsDeCpu ⟨tipo, base, offset, tam, buffer⟩)
    (hr : ∀ r, Pide stringTrim (σ.resto stringTrim valor r)) :
    Pide stringTrim (pedirUmv tipo base offset tam buffer >>= σ.resto stringTrim valor) :=
  fun s => ⟨⟨h, σ, valor, s, .ret, funext fun _ => (bind_ret _).symm⟩, fun r => hr r s⟩

/-- A reading. -/
lemma pide_leer (σ : Sitio) (valor : Fin 4 → Byte) {base offset tam : ℤ}
    (hr : ∀ r, Pide stringTrim (σ.resto stringTrim valor r)) :
    Pide stringTrim (pedirUmv solBytes base offset tam [] >>= σ.resto stringTrim valor) :=
  pide_pedir σ valor ⟨_, llena 0, .lectura base offset tam, rfl⟩ hr

/-- The writing of an integer. -/
lemma pide_escribir (σ : Sitio) {base offset x : ℤ}
    (hr : ∀ r, Pide stringTrim (σ.resto stringTrim 0 r)) :
    Pide stringTrim (pedirUmv almBytes base offset 4 (bytesOfInt x) >>= σ.resto stringTrim 0) :=
  pide_pedir σ 0 ⟨_, llena 0, .entero base offset x, rfl⟩ hr

lemma pide_cambioPA (idProc : ℤ) : Pide stringTrim (cambioPA idProc) :=
  fun _ => ⟨⟨_, llena 0, .cambioPA idProc, rfl⟩, fun _ => trivial⟩

lemma pide_regenerarLoop : ∀ (n : ℕ) (i : ℤ), Pide stringTrim (regenerarLoop n i)
  | 0, _ => pide_pure _
  | n + 1, i =>
    pide_get.bind fun s => (pide_entero _).bind fun offset =>
      pide_leer (.regenera s.pcb.dirSegStack offset n i) 0 fun _ => (pide_entero _).bind fun _ =>
        (pide_deref _).bind fun _ => (pide_modify _).bind fun _ => pide_regenerarLoop n (i + 1)

lemma pide_regenerarDiccVar : Pide stringTrim regenerarDiccVar :=
  (pide_modify _).bind fun _ => pide_get.bind fun _ => pide_regenerarLoop _ _

lemma pide_recibirRespKernel : Pide stringTrim recibirRespKernel := pide_oir.bind fun _ => pide_pure _

lemma pide_imprimirVariables : ∀ (n : ℕ) (i : ℤ), Pide stringTrim (imprimirVariables n i)
  | 0, _ => pide_pure _
  | n + 1, i => by
    have hcontenido : ∀ men men', Pide stringTrim (trasContenido n i men men') := fun men men' =>
      (pide_memcpy _ _).bind fun _ => (pide_deref _).bind fun _ => (pide_decir _ _).bind fun _ =>
        pide_recibirRespKernel.bind fun _ => pide_imprimirVariables n (i + 1)
    exact pide_get.bind fun s => (pide_entero _).bind fun _ =>
      pide_leer (.nombre s.pcb.dirContActual n i) 0 fun men => (pide_entero _).bind fun _ =>
        pide_leer (.contenido n i men) 0 fun men' => hcontenido men men'

lemma pide_finalizarContexto (tipoFin : ℤ) : Pide stringTrim (finalizarContexto tipoFin) := by
  unfold finalizarContexto
  refine .ite ?_ (.ite ?_ (pide_pure _))
  · exact pide_get.bind fun _ => (pide_decir _ _).bind fun _ => pide_modify _
  · exact (pide_decir _ _).bind fun _ => pide_recibirRespKernel.bind fun _ =>
      pide_get.bind fun _ => (pide_imprimirVariables _ _).bind fun _ =>
        pide_get.bind fun _ => (pide_decir _ _).bind fun _ => pide_modify _

lemma pide_preservarContexto : Pide stringTrim preservarContexto :=
  pide_get.bind fun s => (pide_entero _).bind fun offset =>
    pide_escribir (.contexto s.pcb s.pcb.dirSegStack offset) fun _ => .ite
      ((pide_entero _).bind fun _ => pide_escribir .contador fun _ =>
        .ite (pide_pure _) (.ite (pide_finalizarContexto _) pide_caida))
      (.ite (pide_finalizarContexto _) (pide_pure _))

/-- Five bytes are sent, and the string has two of them: the other three are found in memory. -/
lemma pide_definirVariable (idVar : Byte) : Pide stringTrim (definirVariable idVar) := by
  refine pide_get.bind fun s => (pide_entero _).bind fun offset => (pide_entero _).bind fun posMem =>
    pide_basura_bind fun r => ?_
  let key := esNumeroPasarChar (esNumeroPasarChar idVar)
  let mem : Sockets.Memoria := ⟨fun _ => 0, fun i => r (Fin.ofNat 3 (i - 2))⟩
  refine pide_pedir (.define s.pcb posMem key) 0 ⟨_, mem, .definida _ _ key, rfl⟩ fun _ => ?_
  exact .ite ((pide_modify _).bind fun _ => (pide_entero _).bind fun _ =>
    (pide_modificarPcb _).bind fun _ => pide_pure _)
    ((pide_finalizarContexto _).bind fun _ => pide_pure _)

lemma pide_actualizarPcb (cantVar programCounter dir : ℤ) :
    Pide stringTrim (actualizarPcb cantVar programCounter dir) := pide_modificarPcb _

lemma pide_retornar (retorno : ℤ) : Pide stringTrim (retornar retorno) := by
  refine pide_get.bind fun s => (pide_entero _).bind fun _ =>
    pide_leer (.retorna s.pcb s.pcb.dirSegStack retorno) 0 fun _ =>
      .ite ?_ (pide_finalizarContexto _)
  refine (pide_memcpy _ 12).bind fun _ => (pide_entero _).bind fun _ =>
    (pide_actualizarPcb _ _ _).bind fun _ => pide_regenerarDiccVar.bind fun _ => ?_
  generalize intOfBytes (List.drop 8 _) = dirRetorno
  exact (pide_entero _).bind fun _ => pide_escribir .devuelve fun _ => pide_pure _

lemma pide_finalizar : Pide stringTrim finalizar := by
  refine pide_get.bind fun s => .ite (pide_finalizarContexto _) ((pide_entero _).bind fun _ =>
    pide_leer (.finaliza s.pcb) 0 fun _ => .ite ?_ (pide_finalizarContexto _))
  exact (pide_memcpy _ 8).bind fun _ => (pide_entero _).bind fun _ =>
    (pide_actualizarPcb _ _ _).bind fun _ => pide_regenerarDiccVar

lemma pide_entrar (etiqueta : List Byte) {f : Pcb → Pcb} :
    Pide stringTrim (do
      modificarPcb f
      regenerarDiccVar
      let posRetorno ← metadataBuscarEtiqueta etiqueta
      modificarPcb fun pcb => { pcb with programCounter := posRetorno }) :=
  (pide_modificarPcb _).bind fun _ => pide_regenerarDiccVar.bind fun _ =>
    (pide_buscar _).bind fun _ => pide_modificarPcb _

lemma pide_llamarConRetorno (etiqueta : List Byte) (dondeRetornar : ℤ) :
    Pide stringTrim (llamarConRetorno etiqueta dondeRetornar) :=
  pide_preservarContexto.bind fun _ => pide_get.bind fun s => (pide_entero _).bind fun offset =>
    pide_escribir (.llama etiqueta s.pcb.dirSegStack offset) fun _ =>
      .ite ((pide_entero _).bind fun _ => pide_entrar etiqueta)
        (.ite (pide_finalizarContexto _) (pide_pure _))

lemma pide_dereferenciar (dir : ℤ) : Pide stringTrim (dereferenciar dir) := by
  refine pide_get.bind fun _ => pide_basura_bind fun valor =>
    pide_leer .dereferencia valor fun _ => .ite (.ite (pide_pure _) pide_caida) ?_
  exact .ite ((pide_finalizarContexto _).bind fun _ => pide_pure _) (pide_pure _)

lemma pide_asignar (dir valor : ℤ) : Pide stringTrim (asignar dir valor) :=
  pide_get.bind fun _ => .ite (pide_pure _)
    (pide_escribir .asigna fun _ => .ite (pide_finalizarContexto _) (pide_pure _))

lemma pide_avisarCierre (tipo : ℤ) : Pide stringTrim (avisarCierre tipo) :=
  pide_quitSistema.bind fun _ => .ite (pide_decir _ _) (pide_decir _ _)

lemma pide_enviarPcb : Pide stringTrim enviarPcb :=
  pide_get.bind fun _ _ => ⟨trivial, fun _ => trivial⟩

/-- The requests of a primitive are in their places. -/
lemma pide_primitiva (p : Primitiva) : Pide stringTrim (p.ejecutar stringTrim) := by
  cases p with
  | definirVariable c => exact pide_definirVariable c
  | obtenerPosicionVariable c => exact pide_get.bind fun _ => pide_deref _
  | dereferenciar dir => exact pide_dereferenciar dir
  | asignar dir valor => exact pide_asignar dir valor
  | obtenerValorCompartida x =>
    exact (pide_decir _ _).bind fun _ => pide_oir.bind fun _ =>
      .ite ((pide_modify _).bind fun _ => pide_pure _) ((pide_deref _).bind fun _ => pide_pure _)
  | asignarValorCompartida x valor =>
    exact (pide_decir _ _).bind fun _ => pide_oir.bind fun _ =>
      .ite ((pide_modify _).bind fun _ => pide_pure _) (.ite ((pide_decir _ _).bind fun _ =>
        pide_oir.bind fun _ => pide_pure _) (pide_pure _))
  | irAlLabel etiq =>
    exact (pide_buscar _).bind fun _ => .ite (pide_modificarPcb _) (pide_modify _)
  | llamarSinRetorno etiq =>
    exact pide_preservarContexto.bind fun _ => pide_get.bind fun _ => (pide_entero _).bind fun _ =>
      pide_entrar etiq
  | llamarConRetorno etiq dir => exact pide_llamarConRetorno etiq dir
  | finalizar => exact pide_finalizar
  | retornar valor => exact pide_retornar valor
  | imprimir valor =>
    exact pide_get.bind fun _ => .ite (pide_pure _)
      ((pide_decir _ _).bind fun _ => pide_recibirRespKernel)
  | imprimirTexto texto => exact (pide_decir _ _).bind fun _ => pide_recibirRespKernel
  | entradaSalida disp tiempo =>
    exact (pide_decir _ _).bind fun _ => (pide_decir _ _).bind fun _ => pide_enviarPcb.bind fun _ =>
      (pide_avisarCierre _).bind fun _ => pide_modify _
  | wait sem =>
    exact (pide_decir _ _).bind fun _ => pide_oir.bind fun _ =>
      .ite (pide_pure _) (.ite ((pide_modify _).bind fun _ => pide_enviarPcb.bind fun _ =>
        pide_avisarCierre _) (.ite (pide_modify _) (pide_pure _)))
  | signal sem =>
    exact (pide_decir _ _).bind fun _ => pide_oir.bind fun _ =>
      .ite (pide_finalizarContexto _) (pide_pure _)

lemma pide_ejecutar : ∀ t : Analisis, Pide stringTrim (ejecutar stringTrim t)
  | .ret _ => pide_pure _
  | .ask p sigue => fun s => ⟨trivial, fun _ =>
      Pide.bind (pide_primitiva p) (fun valor => pide_ejecutar (sigue valor)) s⟩

lemma pide_traerIndiceEtiquetas : Pide stringTrim traerIndiceEtiquetas :=
  pide_get.bind fun _ => pide_leer .etiquetas 0 fun _ =>
    .ite (pide_modify _) (.ite (pide_finalizarContexto _) (pide_pure _))

lemma pide_trasInstruccion (pcb : Pcb) (tam : ℤ) (men : MenComun) :
    Pide stringTrim (trasInstruccion stringTrim pcb tam men) := by
  refine .ite pide_caida (.ite ?_ (.ite ?_ (pide_pure _)))
  · exact (pide_memcpy _ _).bind fun _ => (pide_entero _).bind fun _ =>
      (pide_modificarPcb _).bind fun _ => pide_pure _
  · exact (pide_finalizarContexto _).bind fun _ => pide_pure _

lemma pide_solicitarProxSentenciaAUmv : Pide stringTrim (solicitarProxSentenciaAUmv stringTrim) := by
  refine pide_get.bind fun s => pide_leer (.indice s.pcb) 0 fun _ => (pide_memcpy _ _).bind fun l => ?_
  generalize intOfBytes (l.take 4) = offset, intOfBytes (l.drop 4) = tam
  exact pide_leer (.instruccion s.pcb tam) 0 fun men => pide_trasInstruccion s.pcb tam men

lemma pide_freeEtiquetas : Pide stringTrim freeEtiquetas := by
  refine pide_get.bind fun s => ?_
  cases s.etiquetas with
  | nulo => exact pide_pure _
  | datos l => exact pide_modify _
  | liberado => exact pide_caida

variable (analizadorLinea : Option (List Byte) → Analisis)

lemma pide_cicloQuantum : ∀ n : ℕ, Pide stringTrim (cicloQuantum stringTrim analizadorLinea n)
  | 0 => pide_pure _
  | n + 1 =>
    pide_get.bind fun _ => .ite (pide_pure _) (pide_solicitarProxSentenciaAUmv.bind fun _ _ =>
      ⟨trivial, fun _ => Pide.bind (pide_ejecutar _) (fun _ => pide_cicloQuantum n) _⟩)

lemma pide_despacho (men : MenQuantumPcb) :
    Pide stringTrim (despacho stringTrim analizadorLinea men) := by
  refine Pide.bind (.ite (pide_modify _) pide_caida) fun _ => pide_get.bind fun _ =>
    (pide_cambioPA _).bind fun _ => pide_traerIndiceEtiquetas.bind fun _ =>
      pide_regenerarDiccVar.bind fun _ => pide_get.bind fun _ =>
        (pide_cicloQuantum _ _).bind fun _ => pide_get.bind fun s => ?_
  have hfin : Pide stringTrim (do
      freeEtiquetas
      cambioPA 0
      modify fun s => (s.conFin false).conSegFault false) :=
    pide_freeEtiquetas.bind fun _ => (pide_cambioPA _).bind fun _ => pide_modify _
  exact .ite hfin (((pide_avisarCierre _).bind fun _ => pide_enviarPcb).bind fun _ => hfin)

lemma EnSitios.goes {t t' : Dialog Evento Evento.Respuesta α} {l : List Suceso} (h : Goes t l t') :
    EnSitios stringTrim t → EnSitios stringTrim t' := by
  induction h with
  | nil t => exact id
  | cons _ ih => exact fun ht => ih (ht.2 _)

/-- **The requests of a dispatch.** Whatever line the parser is given and whatever the kernel and
the UMV answer, a message to the UMV is one of `cpu.c`, and where the CPU waits for an answer it goes
on with the rest of one of its functions. -/
theorem despacho_enSitio (men : MenQuantumPcb) (s : Estado) {l : List Suceso} {e : Evento}
    {next : e.Respuesta → Dialog Evento Evento.Respuesta (Unit × Estado)}
    (h : Goes (despacho stringTrim analizadorLinea men s) l (.ask e next)) :
    EnSitio stringTrim e next :=
  (EnSitios.goes h (pide_despacho analizadorLinea men s)).1

end Pide

/-! ### The answer `SEGMEN_FAULT` -/

/-- The answer to a request that leaves its segment. -/
def falta : MenComun := crearMenComun segmenFault []

namespace Sitio

variable (stringTrim : List Byte → List Byte)

/-- The answer `SEGMEN_FAULT` makes the function tell the kernel, mark the process as finished and
give back a value that no unwritten byte decides; nothing else is done with the answer. -/
def Atiende (σ : Sitio) : Prop :=
  ∀ s, ∃ v : σ.Valor, ∀ valor : Fin 4 → Byte,
    σ.resto stringTrim valor falta s = (finalizarContexto segmenFault >>= fun _ => pure v) s

/-- The requests after which the kind of the answer is looked at first, and `SEGMEN_FAULT` is one of
the kinds looked for. The array of an instruction has a size that is not negative. -/
def Comprueba : Sitio → Prop
  | etiquetas | contexto _ _ _ | contador | define _ _ _ | asigna | llama _ _ _ | finaliza _
  | retorna _ _ _ => True
  | instruccion _ tam => 0 ≤ tam
  | indice _ | regenera _ _ _ _ | dereferencia | devuelve | nombre _ _ _ | contenido _ _ _ => False

/-- What a function that looks at the answer gives back. -/
def valorFalta : (σ : Sitio) → σ.Valor
  | indice _ | instruccion _ _ => none
  | define _ _ _ => -1
  | dereferencia => 0
  | etiquetas | regenera _ _ _ _ | contexto _ _ _ | contador | asigna | llama _ _ _ | finaliza _
  | retorna _ _ _ | devuelve | nombre _ _ _ | contenido _ _ _ => ()

variable {stringTrim} {σ : Sitio}

/-- After an answer `SEGMEN_FAULT` with any payload, a function that looks at it finishes the
process. -/
lemma Comprueba.resto (h : σ.Comprueba) (valor : Fin 4 → Byte) {r : MenComun}
    (hr : r.tipo = segmenFault) :
    σ.resto stringTrim valor r = finalizarContexto segmenFault >>= fun _ => pure σ.valorFalta := by
  cases σ with
  | instruccion pcb tam =>
    have htam : ¬ tam < 0 := not_lt.2 h
    simp [Sitio.resto, trasInstruccion, hr, htam, valorFalta]
  | contador => simp [Sitio.resto, trasContador, hr, valorFalta]
  | indice | regenera | dereferencia | devuelve | nombre | contenido => exact h.elim
  | _ => simp [Sitio.resto, hr, valorFalta]

/-- A state with nothing in it. -/
def estadoCero : Estado :=
  ⟨⟨0, 0, 0, 0, 0, 0, 0, 0, 0, 0⟩, 0, .nulo, false, false, fun _ => none⟩

/-- To finish the process the first action is to tell the kernel. -/
lemma Atiende.avisa {e : Evento}
    {next : e.Respuesta → Dialog Evento Evento.Respuesta (σ.Valor × Estado)}
    {s : Estado} (h : σ.Atiende stringTrim)
    (he : σ.resto stringTrim 0 falta s = .ask e next) : ∃ men, e = .enviarKernel men := by
  obtain ⟨v, hv⟩ := h s
  have hask := he.symm.trans (hv 0)
  exact ⟨_, (Dialog.ask.inj hask).1⟩

/-- A function that falls does not. -/
lemma Atiende.no_caida {next : Empty → Dialog Evento Evento.Respuesta (σ.Valor × Estado)}
    {s : Estado} (h : σ.Atiende stringTrim) : σ.resto stringTrim 0 falta s ≠ .ask .caida next := by
  intro he
  obtain ⟨men, hmen⟩ := h.avisa he
  exact absurd hmen nofun

lemma finalizarContexto_inj {α : Type} {v v' : α} {s : Estado}
    (h : (finalizarContexto segmenFault >>= fun _ => pure v) s
      = (finalizarContexto segmenFault >>= fun _ => pure v') s) : v = v' := by
  have hret := congrFun (eq_of_heq (Dialog.ask.inj h).2) ()
  exact congrArg Prod.fst (Dialog.ret.inj hret)

/-- `dereferenciar` gives back what its variable held. -/
lemma not_atiende_dereferencia : ¬ dereferencia.Atiende stringTrim := by
  intro h
  obtain ⟨v, hv⟩ := h estadoCero
  have hvalor : ∀ valor : Fin 4 → Byte, intOfBytes (List.ofFn valor) = v := by
    intro valor
    refine finalizarContexto_inj (s := estadoCero) (Eq.trans ?_ (hv valor))
    simp [Sitio.resto, falta, crearMenComun]
  exact absurd ((hvalor 0).trans (hvalor 1).symm) (by decide)

/-- **A fault is handled** exactly at the requests whose answer is looked at. -/
theorem atiende_iff (σ : Sitio) : σ.Atiende stringTrim ↔ σ.Comprueba := by
  refine ⟨fun h => ?_, fun h s => ⟨σ.valorFalta, fun valor => by rw [h.resto valor rfl]⟩⟩
  cases σ with
  | indice pcb => exact h.no_caida (s := estadoCero) rfl
  | instruccion pcb tam =>
    by_contra hneg
    have hcaida : (instruccion pcb tam).resto stringTrim 0 falta = caida := if_pos (not_le.1 hneg)
    exact h.no_caida (s := estadoCero) (by rw [hcaida]; rfl)
  | regenera base offset n i =>
    by_cases hpos : -2 ^ 31 ≤ base + offset ∧ base + offset < 2 ^ 31
    · exact h.no_caida (s := estadoCero) (by simp only [Sitio.resto, entero, if_pos hpos]; rfl)
    · exact h.no_caida (s := estadoCero) (by simp only [Sitio.resto, entero, if_neg hpos]; rfl)
  | dereferencia => exact not_atiende_dereferencia h
  | devuelve =>
    obtain ⟨v, hv⟩ := h estadoCero
    exact absurd (hv 0) nofun
  | nombre base n i =>
    by_cases hpos : -2 ^ 31 ≤ 5 * i + 1 ∧ 5 * i + 1 < 2 ^ 31
    · obtain ⟨men, hmen⟩ := h.avisa (s := estadoCero)
        (by simp only [Sitio.resto, entero, if_pos hpos]; rfl)
      exact absurd hmen nofun
    · exact h.no_caida (s := estadoCero) (by simp only [Sitio.resto, entero, if_neg hpos]; rfl)
  | contenido n i men => exact h.no_caida (s := estadoCero) rfl
  | _ => trivial

/-- The program falls at once. -/
def Cae {β : Type} : Dialog Evento Evento.Respuesta β → Prop
  | .ask .caida _ => True
  | _ => False

/-- A process whose program counter is `-1`: the entry of the index that it asks for is out of its
segment, and the CPU reads eight bytes of the answer that has none. -/
theorem indice_cae : ¬ (indice ⟨0, 1000, 200, 300, 100, 1000, 7, -1, 0, 0⟩).Atiende id ∧
    ∃ t, Goes (despacho id (fun _ => .ret ())
        ⟨pcbYQuantum, 1, ⟨0, 1000, 200, 300, 100, 1000, 7, -1, 0, 0⟩⟩ estadoCero)
      [⟨.enviarUmv ⟨TipoDatos.cambioPA, 7, 0, 0, []⟩, ()⟩,
        ⟨.pedirUmv ⟨solBytes, 300, 0, 0, []⟩, crearMenComun rSolBytes []⟩,
        ⟨.pedirUmv ⟨solBytes, 200, -8, 8, []⟩, falta⟩] t ∧ Cae t :=
  ⟨fun h => h.no_caida (s := estadoCero) rfl, _, .cons (.cons (.cons (.nil _))), trivial⟩

end Sitio

end Ansisop.Cpu
