import Ansisop.Sistema.Isolation

/-!
What a CPU executes. The code of a script, the index of its instructions and its labels lie in
segments of the UMV; the CPU fetches an instruction with two requests, one for its place in the code
and one for its text, and gets the labels with a third one at the start of each dispatch.

As long as these segments are left alone, every line that a CPU hands to the parser is an instruction
of the script of the process it executes, and every label is looked up among those of the script
(`ejecuta_su_script`), whatever the other CPUs do between two requests. The segments are left alone by
every CPU: the CPUs of other processes name other processes, and the ones of the process itself write
its stack.
-/

namespace Ansisop.Sistema

open Ansisop.Sockets Ansisop.Lib Ansisop.Lib.Clients Ansisop.Cpu Ansisop.Umv Dialog
open TipoDatos hiding signal wait imprimirTexto cambioPA

/-! ### Images -/

/-- A script as it lies in the UMV: the pcb of its process, and three segments that are the ones of
the pcb, apart from the stack, with what they hold. -/
structure Imagen where
  pcb : Pcb
  segCodigo : Seg
  codigo : List Byte
  segIndice : Seg
  indice : List Byte
  segEtiquetas : Seg
  etiquetas : List Byte
  dirCodigo : segCodigo.dirLogica = pcb.dirSegCodigo
  dirIndice : segIndice.dirLogica = pcb.dirIndiceCodigo
  dirEtiquetas : segEtiquetas.dirLogica = pcb.dirIndiceEtiquetas
  tamEtiquetas : pcb.tamIndiceEtiquetas = etiquetas.length
  propios : ∀ t ∈ [segCodigo, segIndice, segEtiquetas],
    t.idProc = pcb.id ∧ 0 ≤ t.dirLogica ∧ t.dirLogica ≠ pcb.dirSegStack

namespace Imagen

/-- The segments with their bytes. -/
def partes (p : Imagen) : List (Seg × List Byte) :=
  [(p.segCodigo, p.codigo), (p.segIndice, p.indice), (p.segEtiquetas, p.etiquetas)]

lemma propio (p : Imagen) {x : Seg × List Byte} (hx : x ∈ p.partes) :
    x.1.idProc = p.pcb.id ∧ 0 ≤ x.1.dirLogica ∧ x.1.dirLogica ≠ p.pcb.dirSegStack :=
  p.propios x.1 (by
    simp only [partes, List.mem_cons, List.not_mem_nil, or_false] at hx ⊢
    rcases hx with rfl | rfl | rfl <;> simp)

/-- The UMV has the script. -/
def En (p : Imagen) (u : Umv.Estado) : Prop := ∀ x ∈ p.partes, Alojado u x.1 x.2

/-- A call that leaves the script alone. -/
def Deja (p : Imagen) (c : Llamada) (u : Umv.Estado) : Prop := ∀ x ∈ p.partes, c.Deja x.1 u

/-- A pcb, if it is of the process, has its addresses. -/
def Respeta (p : Imagen) (men : MenQuantumPcb) : Prop :=
  men.pcb.id = p.pcb.id → MismoProceso p.pcb men.pcb

/-- The eight bytes of the index that say where the instruction `k` lies. -/
def entrada (p : Imagen) (k : ℕ) : List Byte := (p.indice.drop (8 * k)).take 8

/-- Where the instruction `k` starts, and its length. -/
def inicio (p : Imagen) (k : ℕ) : ℤ := intOfBytes ((p.entrada k).take 4)

@[inherit_doc inicio]
def largo (p : Imagen) (k : ℕ) : ℤ := intOfBytes ((p.entrada k).drop 4)

/-- The text of the instruction `k`, up to the first zero. -/
def instruccion (p : Imagen) (k : ℕ) : List Byte :=
  ((p.codigo.drop (p.inicio k).toNat).take (p.largo k).toNat).takeWhile (· ≠ 0)

/-- A line for the parser: none, or an instruction of the script, trimmed. -/
def EsLinea (p : Imagen) (stringTrim : List Byte → List Byte) : Option (List Byte) → Prop
  | none => True
  | some l => ∃ k : ℕ, 8 * k + 8 ≤ p.indice.length ∧ 0 ≤ p.inicio k ∧
    p.inicio k + p.largo k ≤ p.codigo.length ∧ l = stringTrim (p.instruccion k)

/-- An answer about a segment of the script tells its bytes. -/
def Responde (p : Imagen) (men : MenCpuUmv) (r : MenComun) : Prop :=
  men.tipo = solBytes → ∀ x ∈ p.partes, men.base = x.1.dirLogica → r = respuestaDe x.2 men

/-- The guard of a dispatch: of the process of the script, or of another one. -/
def guardia (p : Imagen) (stringTrim : List Byte → List Byte) (men : MenQuantumPcb) : Guardia :=
  if men.pcb.id = p.pcb.id then
    ⟨men.pcb, p.Responde, p.EsLinea stringTrim, fun e => e = .datos p.etiquetas⟩
  else .libre men.pcb

end Imagen

/-! ### Answers -/

lemma respuestaDe_rSolBytes {b : List Byte} {men : MenCpuUmv}
    (h : (respuestaDe b men).tipo = rSolBytes) :
    0 ≤ men.offset ∧ 0 ≤ men.tam ∧ men.offset + men.tam ≤ b.length ∧
      (respuestaDe b men).dato = (b.drop men.offset.toNat).take men.tam.toNat := by
  unfold respuestaDe at h ⊢
  split
  · rename_i hdentro
    exact ⟨hdentro.1, hdentro.2.1, hdentro.2.2, rfl⟩
  · rename_i hfuera
    rw [if_neg hfuera] at h
    exact absurd h (by decide)

/-- An answer with a payload is one with bytes of the segment. -/
lemma respuestaDe_dato {b : List Byte} {men : MenCpuUmv} {n : ℕ} (hn : 0 < n)
    (h : n ≤ (respuestaDe b men).dato.length) : (respuestaDe b men).tipo = rSolBytes := by
  unfold respuestaDe at h ⊢
  split
  · rfl
  · rename_i hfuera
    rw [if_neg hfuera] at h
    exact absurd h (by simp [crearMenComun]; omega)

lemma int32_por_ocho (x : ℤ) : ∃ k : ℤ, int32 (x * 8) = 8 * k := by
  unfold int32
  rw [Int.bmod_def]
  refine ⟨int32 (x * 8) / 8, ?_⟩
  unfold int32
  rw [Int.bmod_def]
  omega

/-- The whole of a segment. -/
lemma respuestaDe_todo (b : List Byte) (base : ℤ) :
    respuestaDe b ⟨solBytes, base, 0, b.length, []⟩ = crearMenComun rSolBytes b := by
  simp [respuestaDe]

namespace Imagen

variable (p : Imagen) (stringTrim : List Byte → List Byte)

/-- Eight bytes of the index, at the place of a program counter, are an entry of it. -/
lemma entrada_de {base programCounter : ℤ}
    (h : 8 ≤ (respuestaDe p.indice ⟨solBytes, base, int32 (programCounter * 8), 8, []⟩).dato.length) :
    ∃ k : ℕ, 8 * k + 8 ≤ p.indice.length ∧
      (respuestaDe p.indice ⟨solBytes, base, int32 (programCounter * 8), 8, []⟩).dato.take 8
        = p.entrada k := by
  obtain ⟨hoff, -, hle, hdato⟩ := respuestaDe_rSolBytes (respuestaDe_dato (by decide) h)
  obtain ⟨k, hk⟩ := int32_por_ocho programCounter
  simp only [hk] at hoff hle hdato ⊢
  obtain ⟨n, rfl⟩ : ∃ n : ℕ, k = n := ⟨k.toNat, by omega⟩
  have hn : (8 * (n : ℤ)).toNat = 8 * n := by omega
  refine ⟨n, by omega, ?_⟩
  rw [hdato, hn, entrada, List.take_take]
  simp

/-- **With these answers**, the lines are those of the script, and so are the labels. -/
lemma guardia_fiable (men : MenQuantumPcb) (hmen : p.Respeta men) :
    (p.guardia stringTrim men).Fiable stringTrim := by
  unfold guardia
  by_cases hid : men.pcb.id = p.pcb.id
  · rw [if_pos hid]
    have hp := hmen hid
    refine ⟨fun r hr => ?_, fun programCounter r hlen hr r' htipo h0 hlen' hr' => ?_, trivial⟩
    · -- the whole of the labels is asked for
      have hresp : p.Responde
        ⟨solBytes, men.pcb.dirIndiceEtiquetas, 0, men.pcb.tamIndiceEtiquetas, []⟩ r := hr
      have heq := hresp rfl (p.segEtiquetas, p.etiquetas) (by simp [partes])
        (hp.dirIndiceEtiquetas.trans p.dirEtiquetas.symm)
      rw [hp.tamIndiceEtiquetas, p.tamEtiquetas, respuestaDe_todo] at heq
      rw [heq]
      exact if_pos rfl ▸ rfl
    · have hresp : p.Responde
        ⟨solBytes, men.pcb.dirIndiceCodigo, int32 (programCounter * 8), 8, []⟩ r := hr
      have heq := hresp rfl (p.segIndice, p.indice) (by simp [partes])
        (hp.dirIndiceCodigo.trans p.dirIndice.symm)
      rw [heq] at hlen hr' h0 hlen' ⊢
      obtain ⟨k, hk, hentrada⟩ := p.entrada_de hlen
      simp only [hentrada] at hr' h0 hlen' ⊢
      change (p.EsLinea stringTrim (some (stringTrim
        ((r'.dato.take (p.largo k).toNat).takeWhile (· ≠ 0)))))
      have hresp' : p.Responde ⟨solBytes, men.pcb.dirSegCodigo, p.inicio k, p.largo k, []⟩ r' := hr'
      have heq' := hresp' rfl (p.segCodigo, p.codigo) (by simp [partes])
        (hp.dirSegCodigo.trans p.dirCodigo.symm)
      rw [heq'] at htipo ⊢
      obtain ⟨hini, -, hfin, hdato⟩ := respuestaDe_rSolBytes htipo
      simp only at hini hfin hdato
      refine ⟨k, hk, hini, hfin, ?_⟩
      rw [hdato, List.take_take, min_self, instruccion]
  · rw [if_neg hid]
    exact Guardia.libre_fiable _ _

/-- The script stays, and the answers are the ones the guards count on. -/
lemma cumplen_imagen : Cumplen (p.guardia stringTrim) p.Respeta
    (fun c u => c.Admitida ∧ p.Deja c u) fun u => Valida u ∧ p.En u where
  pcb men := by
    unfold guardia
    split <;> rfl
  escribe {men _ _ _ _ _ _} hD hu hw := by
    refine ⟨hu.1.almacenarBytes hw, fun x hx => (hu.2 x hx).almacenarBytes hu.1 ?_ hw⟩
    obtain ⟨hid, -, hstack⟩ := p.propio hx
    rintro ⟨hmen, hdir⟩
    have hp := hD (hmen.trans hid)
    exact hstack (hdir.symm.trans hp.dirSegStack)
  lee {men u heap m r} hD hu htipo hr := by
    unfold guardia
    by_cases hid : men.pcb.id = p.pcb.id
    · rw [if_pos hid]
      intro _ x hx hbase
      obtain ⟨hx₁, hx₂, -⟩ := p.propio hx
      rw [hid, ← hx₁] at hr
      exact gestionarSolicitudBytes_alojado hu.1 (hu.2 x hx) hx₂ hbase hr
    · rw [if_neg hid]
      trivial
  acusa {men m r} htipo := by
    unfold guardia
    split
    · intro hsol
      exact absurd (htipo.symm.trans hsol) (by decide)
    · trivial
  llamada hc hu hp := ⟨hu.1.paso hc.1 hp, fun x hx => (hc.2 x hx).alojado hu.1 (hu.2 x hx) hp⟩

end Imagen

/-! ### Runs -/

section Ejecuta

variable {ι : Type*} [DecidableEq ι] {A : (e : Evento) → e.Respuesta → Prop}
  {stringTrim : List Byte → List Byte}
  {analizadorLinea : Option (List Byte) → Analisis} {cs : ι → Puesto} {u : Umv.Estado}
  {z z' : Estado ι}

/-- What a CPU that executes a process of the script does next: a line it hands to the parser is one
of the script, and a label it looks up is looked up in the labels of the script. -/
structure EjecutaScript (p : Imagen) (stringTrim : List Byte → List Byte) (c : Puesto) : Prop where
  linea : ∀ l next, c.prog = .ask (.analizar l) next → p.EsLinea stringTrim l
  etiqueta : ∀ nombre e tam next, c.prog = .ask (.buscarEtiqueta nombre e tam) next →
    e = .datos p.etiquetas ∧ tam = p.etiquetas.length

/-- **A CPU executes the script of its process and nothing else**, from the state on in which the
script has been loaded, whatever the scripts do and however the steps interleave. -/
theorem ejecuta_su_script (p : Imagen) (hcs : ∀ i, ∃ men s, cs i = conectada men s) (hu : Valida u)
    (hz : Corrida A stringTrim analizadorLinea (fun _ => True) (fun c _ => c.Admitida) (cs, u) z)
    (hp : p.En z.2) (hnuevo : ∀ i, EnCurso (z.1 i) → (z.1 i).work.pcb.id ≠ p.pcb.id)
    (hz' : Corrida A stringTrim analizadorLinea p.Respeta (fun c u => c.Admitida ∧ p.Deja c u) z z') :
    p.En z'.2 ∧ ∀ i, (z'.1 i).work.pcb.id = p.pcb.id → EjecutaScript p stringTrim (z'.1 i) := by
  have hvig := (vigilado_conectada (g := fun men => .libre men.pcb) hu hcs).corrida cumplen_valida
    (fun men _ => Guardia.libre_fiable men.pcb stringTrim) hz
  have hvig' : Vigilado A (p.guardia stringTrim) p.Respeta (fun u => Valida u ∧ p.En u) z := by
    refine hvig.cambiar ⟨hvig.store, hp⟩ (fun i hi hid => absurd hid (hnuevo i hi)) fun i hi => ?_
    unfold Imagen.guardia
    rw [if_neg (hnuevo i hi)]
  have hfin := hvig'.corrida (p.cumplen_imagen stringTrim) (p.guardia_fiable stringTrim) hz'
  refine ⟨hfin.store.2, fun i hid => ?_⟩
  obtain ⟨hD, m, hk, -⟩ := hfin.held i
  have hg : p.guardia stringTrim (z'.1 i).work = ⟨(z'.1 i).work.pcb, p.Responde,
      p.EsLinea stringTrim, fun e => e = .datos p.etiquetas⟩ := if_pos hid
  refine ⟨fun l next hprog => ?_, fun nombre e tam next hprog => ?_⟩
  · rw [hprog, hg] at hk
    exact hk.1
  · have hsame := hD hprog hid
    rw [hprog, hg] at hk
    obtain ⟨he, htam⟩ : e = .datos p.etiquetas ∧ tam = (z'.1 i).work.pcb.tamIndiceEtiquetas := hk.1
    exact ⟨he, htam.trans (hsame.tamIndiceEtiquetas.trans p.tamEtiquetas)⟩

/-- A script of one instruction, the text `a`, with a byte of labels. -/
def unaLinea : Imagen where
  pcb := ⟨0, 400, 300, 200, 100, 400, 1, 0, 1, 0⟩
  segCodigo := ⟨1, 100, 0, 2, codigoScript⟩
  codigo := [97, 0]
  segIndice := ⟨1, 300, 3, 8, indCod⟩
  indice := [0, 0, 0, 0, 2, 0, 0, 0]
  segEtiquetas := ⟨1, 200, 2, 1, indEtiFunc⟩
  etiquetas := [9]
  dirCodigo := rfl
  dirIndice := rfl
  dirEtiquetas := rfl
  tamEtiquetas := rfl
  propios := by decide

/-- Twenty bytes of memory with this script. -/
def conUnaLinea : Umv.Estado :=
  ⟨fun a => [97, 0, 9, 0, 0, 0, 0, 2, 0, 0, 0].getD a.toNat 7, firstFitMode,
    [unaLinea.segCodigo, unaLinea.segEtiquetas, unaLinea.segIndice], 20⟩

/-- The text of the instruction reaches the parser. -/
theorem ejecuta_su_script_unaLinea :
    ∃ z : Estado Unit, Corrida (fun _ _ => True) id (fun _ => .ret ()) unaLinea.Respeta
        (fun c u => c.Admitida ∧ unaLinea.Deja c u) (cpuLibre, conUnaLinea) z ∧
      (∃ next, (z.1 ()).prog = .ask (.analizar (some [97])) next) ∧
      EjecutaScript unaLinea id (z.1 ()) := by
  -- what the UMV is asked for, and what it answers
  have hetiquetas : gestionarSolicitudBytes (fun _ => 0) ⟨solBytes, 200, 0, 1, []⟩ 1 conUnaLinea
    = some (crearMenComun rSolBytes [9]) := by decide
  have hentrada : gestionarSolicitudBytes (fun _ => 0) ⟨solBytes, 300, int32 (0 * 8), 8, []⟩ 1
    conUnaLinea = some (crearMenComun rSolBytes [0, 0, 0, 0, 2, 0, 0, 0]) := by decide
  have htexto : gestionarSolicitudBytes (fun _ => 0) ⟨solBytes, 100, intOfBytes [0, 0, 0, 0],
    intOfBytes [2, 0, 0, 0], []⟩ 1 conUnaLinea = some (crearMenComun rSolBytes [97, 0]) := by decide
  have h : Corrida (ι := Unit) (fun _ _ => True) id (fun _ => .ret ()) unaLinea.Respeta
      (fun c u => c.Admitida ∧ unaLinea.Deja c u) (cpuLibre, conUnaLinea) (cpuLibre, conUnaLinea) :=
    .refl
  have h := h.tail (.start () ⟨pcbYQuantum, 1, unaLinea.pcb⟩ rfl fun _ => .refl _)
  -- the process is named, and its labels come
  have h := h.tail (.client () (.send rfl rfl))
  have h := h.tail (.client () (.ask rfl rfl rfl))
  have h := h.tail (.client () (.serve rfl ⟨fun _ => 0, .sigue, rfl, rfl⟩))
  have h := h.tail (.client () (.serve rfl (sirve_solBytes _ rfl hetiquetas)))
  have h := h.tail (.client () (.receive rfl rfl rfl rfl))
  -- the entry of the instruction
  have h := h.tail (.client () (.ask rfl rfl rfl))
  have h := h.tail (.client () (.serve rfl (sirve_solBytes _ rfl hentrada)))
  have h := h.tail (.client () (.receive rfl rfl rfl rfl))
  -- its text
  have h := h.tail (.client () (.ask rfl rfl rfl))
  have h := h.tail (.client () (.serve rfl (sirve_solBytes _ rfl htexto)))
  have h := h.tail (.client () (.receive rfl rfl rfl rfl))
  have hu : Valida conUnaLinea := by
    refine ⟨by decide, ⟨?_, ?_, ?_, ?_⟩⟩ <;> simp [conUnaLinea, unaLinea, Blocks.span]
  have hp : unaLinea.En conUnaLinea := by
    intro x hx
    simp only [Imagen.partes, List.mem_cons, List.not_mem_nil, or_false] at hx
    rcases hx with rfl | rfl | rfl <;> exact ⟨by decide, by decide, by decide⟩
  refine ⟨_, h, ⟨_, rfl⟩, (ejecuta_su_script unaLinea (fun _ => ⟨_, _, rfl⟩) hu .refl hp ?_ h).2 ()
    rfl⟩
  rintro _ ⟨e, next, h⟩
  cases h

end Ejecuta

end Ansisop.Sistema
