import Ansisop.Cpu.Footprint
import Ansisop.Cpu.Machine

/-!
What a script means. A primitive is a step of the machine of `Cpu.Machine` (`Maquina.Paso`), a line
is what the parser makes of it, and a quantum is a number of lines. The CPU does the same with the
bytes of the stack segment: from a state that holds a machine (`Representa`), each primitive that
meets no fault gives a value the machine may give, and leaves a state that holds the next machine
(`Representa.primitiva`).

Three things are left open in the machine: the value of a variable nobody has assigned to, the answers
of the kernel, and what follows when a script does something the machine has no meaning for, such as
an assignment to an address where no variable is (`Maquina.Admite`).
-/

namespace Ansisop.Cpu

open Ansisop.Sockets Ansisop.Lib Ansisop.Lib.Memory Ansisop.Lib.Activation Prog
open TipoDatos hiding signal wait imprimirTexto cambioPA finQuantum finEjecucion

/-! ### Steps of the machine -/

/-- A script: the line at each place of the code, and the place of each label. -/
structure Guion where
  linea : ℤ → Option (List Byte)
  etiqueta : List Byte → ℤ

section Semantica

variable (base : ℤ) (stringTrim : List Byte → List Byte) (G : Guion)

namespace Maquina

/-- The process leaves the CPU. -/
def conFin (M : Maquina) : Maquina := ⟨M.pila, M.pc, true, M.enOrden⟩

/-- A variable has the address. -/
def Apunta (M : Maquina) (d : ℤ) (p : Ptr) : Prop := M.pila.Live p ∧ d = dirDe base M.pila p

/-- **A primitive**, with what it gives back. The addresses that the parser sees are those of
variables. -/
def Paso (M : Maquina) : (p : Primitiva) → p.Valor → Maquina → Prop
  | .definirVariable c, d, M' => d = topeDe base M.pila ∧
    ∃ v, M'.Es (M.pila.define (esNumeroPasarChar c) v) M.pc M.fin
  | .obtenerPosicionVariable c, d, M' => M' = M ∧
    ∃ p, M.pila.find (esNumeroPasarChar c) = some p ∧ d = dirDe base M.pila p
  | .dereferenciar d, v, M' => M' = M ∧
    ∃ p n, M.pila.cell? p = some (n, v) ∧ d = dirDe base M.pila p
  | .asignar d v, _, M' => ∃ p, M.Apunta base d p ∧ M'.Es (M.pila.set p v) M.pc M.fin
  | .obtenerValorCompartida _, v, M' => M' = M ∨ v = 0 ∧ M'.Es M.pila M.pc true
  | .asignarValorCompartida _ x, v, M' =>
    M' = M ∧ (v = x ∨ v = -1) ∨ v = -1 ∧ M'.Es M.pila M.pc true
  | .irAlLabel etiq, _, M' =>
    G.etiqueta (stringTrim etiq) = -1 ∧ M'.Es M.pila M.pc true ∨
      G.etiqueta (stringTrim etiq) ≠ -1 ∧ M'.Es M.pila (G.etiqueta (stringTrim etiq)) M.fin
  | .llamarSinRetorno etiq, _, M' =>
    M'.Es (.call M.pila ⟨M.pc, none⟩ []) (G.etiqueta etiq) M.fin
  | .llamarConRetorno etiq d, _, M' => ∃ p, M.Apunta base d p ∧
    M'.Es (.call M.pila ⟨M.pc, some p⟩ []) (G.etiqueta etiq) M.fin
  | .finalizar, _, M' => (∃ xs, M.pila = .bottom xs) ∧ M'.Es M.pila M.pc true ∨
    ∃ b r xs, M.pila = .call b r xs ∧ M'.Es b r.pc M.fin
  | .retornar v, _, M' => ∃ b pc p xs, M.pila = .call b ⟨pc, some p⟩ xs ∧ M'.Es (b.set p v) pc M.fin
  | .imprimir _, _, M' | .imprimirTexto _, _, M' | .signal _, _, M' => M' = M
  | .entradaSalida _ _, _, M' => M'.Es M.pila M.pc true
  | .wait _, _, M' => M' = M ∨ M'.Es M.pila M.pc true

/-- The calls that have a meaning: a variable is given where an address is asked for, values are
those of an `int32_t`, and a function ends the way it has been called. -/
def Admite (M : Maquina) : Primitiva → Prop
  | .dereferenciar d | .llamarConRetorno _ d => ∃ p, M.Apunta base d p
  | .asignar d v => EsInt32 v ∧ ∃ p, M.Apunta base d p
  | .retornar v => EsInt32 v ∧ ∃ b pc p xs, M.pila = .call b ⟨pc, some p⟩ xs
  | .finalizar => ∀ b r xs, M.pila = .call b r xs → r.donde = none
  | _ => True

end Maquina

end Semantica

/-! ### Machines in the memory -/

/-- The line at a place of the code, as the two segments that are not the stack give it: an entry of
eight bytes, and as many bytes as it says. -/
def Entorno.linea (e : Entorno) (stringTrim : List Byte → List Byte) (pcb : Pcb) (pc : ℤ) :
    Option (List Byte) := do
  let l ← e.otros pcb.dirIndiceCodigo (int32 (pc * 8)) 8
  let entrada := l.take 8
  let tam := intOfBytes (entrada.drop 4)
  let inst ← e.otros pcb.dirSegCodigo (intOfBytes (entrada.take 4)) tam
  if 8 ≤ l.length ∧ 0 ≤ tam ∧ tam.toNat ≤ inst.length then
    some (stringTrim ((inst.take tam.toNat).takeWhile (· ≠ 0)))
  else none

/-- The script of the process `q`, as the segments that are not the stack give it. -/
structure ConGuion (e : Entorno) (stringTrim : List Byte → List Byte) (G : Guion) (q : Pcb) :
    Prop where
  indiceAparte : q.dirIndiceCodigo ≠ e.base
  codigoAparte : q.dirSegCodigo ≠ e.base
  etiquetasAparte : q.dirIndiceEtiquetas ≠ e.base
  linea : ∀ pc, e.linea stringTrim q pc = G.linea pc
  etiqueta : ∀ l, e.otros q.dirIndiceEtiquetas 0 q.tamIndiceEtiquetas = some l →
    ∀ nombre, e.buscar nombre (.datos l) q.tamIndiceEtiquetas = G.etiqueta nombre

/-- The CPU executes the process `q`, and has the labels of its script. -/
structure Ejecuta (e : Entorno) (G : Guion) (q : Pcb) (s : Estado) : Prop where
  proceso : MismoProceso q s.pcb
  etiqueta : ∀ nombre, e.buscar nombre s.etiquetas q.tamIndiceEtiquetas = G.etiqueta nombre
  sinLiberar : s.etiquetas ≠ .liberado

/-- The CPU and the stack segment hold the machine. -/
structure Representa (e : Entorno) (G : Guion) (q : Pcb) (M : Maquina) (w : Estado × Memoria) :
    Prop where
  marco : EnMarco e w (marcoDe e.base M.pila)
  bytes : Guarda e.base w.2 M.pila
  cant : EsInt32 w.1.pcb.cantVarContActual
  pc : w.1.pcb.programCounter = M.pc
  fin : w.1.fueFinEjecucion = M.fin
  sinFalta : w.1.huboSegFault = false
  ejecuta : Ejecuta e G q w.1

section Representa

variable {e : Entorno} {stringTrim : List Byte → List Byte} {G : Guion} {q : Pcb}
  {M : Maquina} {w : Estado × Memoria} {s s' : Estado} {m m' : Memoria}

/-- The process does not depend on the frame nor on the line. -/
lemma Ejecuta.mantiene (h : Ejecuta e G q s) (hm : Mantiene s s') : Ejecuta e G q s' := by
  refine ⟨?_, fun nombre => ?_, ?_⟩
  · rw [hm.pcb]
    exact h.proceso.contexto _ _ _
  · rw [hm.etiquetas]
    exact h.etiqueta nombre
  · rw [hm.etiquetas]
    exact h.sinLiberar

/-- What the CPU finds for a label. -/
lemma Ejecuta.buscar (h : Ejecuta e G q s) (nombre : List Byte) :
    e.buscar nombre s.etiquetas s.pcb.tamIndiceEtiquetas = G.etiqueta nombre := by
  rw [h.proceso.tamIndiceEtiquetas]
  exact h.etiqueta nombre

lemma EnMarco.memoria {f : Marco} (h : EnMarco e w f) (hm : m.pila = w.2.pila) :
    EnMarco e (w.1, m) f :=
  ⟨h.base, h.dir, h.cant, by rw [hm]; exact h.dic, h.abajo, h.base_int32, h.dir_int32, h.pc_int32,
    h.alto⟩

/-- Only the bytes of the stack matter. -/
lemma Representa.memoria (h : Representa e G q M w) (hm : m.pila = w.2.pila) :
    Representa e G q M (w.1, m) :=
  ⟨h.marco.memoria hm, h.bytes.congr fun a _ _ => by rw [hm], h.cant, h.pc, h.fin, h.sinFalta, h.ejecuta⟩

lemma Representa.conFin (h : Representa e G q M w) :
    Representa e G q M.conFin (w.1.conFin true, w.2) :=
  ⟨⟨h.marco.base, h.marco.dir, h.marco.cant, h.marco.dic, h.marco.abajo, h.marco.base_int32,
    h.marco.dir_int32, h.marco.pc_int32, h.marco.alto⟩, h.bytes, h.cant, h.pc, rfl, h.sinFalta,
    h.ejecuta.mantiene ⟨rfl, rfl, rfl, rfl⟩⟩

lemma paso_de_correr {p : Primitiva} {v : p.Valor}
    (hr : correr e (p.ejecutar stringTrim) s m = some ((v, s'), m')) :
    p.paso e stringTrim (s, m) = some (s', m') := Option.map_eq_some_iff.2 ⟨_, hr, rfl⟩

/-! ### Variables -/

lemma Representa.definir (h : Representa e G q M (s, m)) {c : Byte} {v : ℤ}
    (hr : correr e (definirVariable c) s m = some ((v, s'), m')) :
    ∃ M', M.Paso e.base stringTrim G (.definirVariable c) v M' ∧
      Representa e G q M' (s', m') := by
  have hpaso : (Primitiva.definirVariable c).paso e stringTrim (s, m) = some (s', m') :=
    paso_de_correr hr
  have hmarco := (h.marco.definir hpaso).1
  obtain ⟨resto, hlen, -, -, -, hcant, hv, hs, hm⟩ := correr_definirVariable h.marco.base hr
  have htope : s.tope = topeDe e.base M.pila := h.marco.tope
  rw [htope] at hv hm hs
  have hbytes : Guarda e.base m' (M.pila.define (esNumeroPasarChar c)
      (m'.entero (topeDe e.base M.pila + 1))) := by
    refine h.bytes.define (fun a _ ha => ?_) ?_ rfl
    · rw [hm]
      exact memcpy_out _ _ _ (.inl ha)
    · rw [hm]
      dsimp only
      rw [memcpy_cons_self, esNumeroPasarChar_idem]
  refine ⟨⟨M.pila.define (esNumeroPasarChar c) (m'.entero (topeDe e.base M.pila + 1)), M.pc, M.fin,
    M.enOrden.define _ _⟩, ⟨hv, _, rfl, rfl, rfl⟩, ?_, hbytes, ?_, ?_, ?_, ?_, ?_⟩
  · rw [marcoDe, dirMarco_define, Stack.cells_define, List.length_append]
    exact hmarco
  · rw [hs]
    exact hcant
  · rw [hs]
    exact h.pc
  · rw [hs]
    exact h.fin
  · rw [hs]
    exact h.sinFalta
  · exact h.ejecuta.mantiene (by rw [hs]; exact ⟨rfl, rfl, rfl, rfl⟩)

lemma Representa.obtenerPosicion (h : Representa e G q M (s, m)) {c : Byte} {v : ℤ}
    (hr : correr e (obtenerPosicionVariable c) s m = some ((v, s'), m')) :
    M.Paso e.base stringTrim G (.obtenerPosicionVariable c) v M ∧
      Representa e G q M (s', m') := by
  obtain ⟨hv, rfl, rfl⟩ := correr_obtenerPosicionVariable hr
  refine ⟨⟨rfl, ?_⟩, h⟩
  have hdic : s'.dicVariables = dicc m'.pila (dirMarco e.base M.pila) M.pila.cells.length :=
    h.marco.dic
  rw [hdic] at hv
  obtain ⟨i, hi, rfl, hname, hlast⟩ := dicc_eq_some.1 hv
  have hceldas := h.bytes.celdas
  have hfind : lookup (esNumeroPasarChar c) M.pila.cells = some i := by
    refine lookup_eq_some.2 ⟨⟨M.pila.cells[i].2, ?_⟩, fun j hj v hj' => ?_⟩
    · have hi' : M.pila.cells[i]? = some (M.pila.cells[i].1, M.pila.cells[i].2) :=
        List.getElem?_eq_getElem hi
      rw [hi', ← (hceldas i _ _ hi').1, hname]
    · obtain ⟨hlt, -⟩ := List.getElem?_eq_some_iff.1 hj'
      exact hlast j hlt hj (hceldas j _ _ hj').1
  refine ⟨⟨M.pila.depth, i⟩, ?_, ?_⟩
  · rw [Stack.find, hfind]
    rfl
  · rw [dirDe_top]

lemma Representa.dereferenciar (h : Representa e G q M (s, m)) {d v : ℤ}
    (ha : M.Admite e.base (.dereferenciar d))
    (hr : correr e (dereferenciar d) s m = some ((v, s'), m')) :
    M.Paso e.base stringTrim G (.dereferenciar d) v M ∧
      Representa e G q M (s', m') := by
  obtain ⟨hpila, hv, rfl, rfl⟩ := correr_dereferenciar h.marco.base hr
  obtain ⟨p, hp, rfl⟩ := ha
  rw [h.marco.dirValor (apilados_llamadores M.pila) (viva_dirDe hp) hpila] at hv
  obtain ⟨⟨n, w⟩, hcell⟩ := Option.isSome_iff_exists.1 hp
  refine ⟨⟨rfl, p, n, ?_, rfl⟩, h.memoria rfl⟩
  have hw : v = w := hv.trans (h.bytes.cell hcell).2
  rw [hw]
  exact hcell

/-- Without a fault before it, `asignar` writes. -/
lemma correr_asignar_escribe (hb : s.pcb.dirSegStack = e.base) (hf : s.huboSegFault = false)
    {d v : ℤ} (h : correr e (asignar d v) s m = some (((), s'), m')) :
    s' = s ∧ e.EnPila (int32 (d - e.base + 1)) 4 ∧
      m' = ⟨memcpy m.pila (dirValor e.base d) (bytesOfInt v), m.turno⟩ := by
  rw [asignar, get_bind, hf, if_neg Bool.false_ne_true] at h
  dsimp only at h
  rw [hb] at h
  obtain ⟨hp, h⟩ := almInt_bind h
  rw [if_neg (by decide), correr_pure] at h
  obtain ⟨⟨-, rfl⟩, rfl⟩ := by simpa only [Option.some.injEq, Prod.mk.injEq] using h
  exact ⟨rfl, hp, rfl⟩

lemma Representa.asignar (h : Representa e G q M (s, m)) {d v : ℤ}
    (ha : M.Admite e.base (.asignar d v))
    (hr : correr e (asignar d v) s m = some (((), s'), m')) :
    ∃ M', M.Paso e.base stringTrim G (.asignar d v) () M' ∧
      Representa e G q M' (s', m') := by
  obtain ⟨hv, p, hp, rfl⟩ := ha
  have hpaso : (Primitiva.asignar (dirDe e.base M.pila p) v).paso e stringTrim (s, m)
      = some (s', m') := paso_de_correr hr
  have hmarco := (h.marco.asignar (apilados_llamadores M.pila) (viva_dirDe hp) hpaso).1
  obtain ⟨rfl, hpila, rfl⟩ := correr_asignar_escribe h.marco.base h.sinFalta hr
  rw [h.marco.dirValor (apilados_llamadores M.pila) (viva_dirDe hp) hpila] at hmarco ⊢
  refine ⟨⟨M.pila.set p v, M.pc, M.fin, M.enOrden.set _ _⟩, ⟨p, ⟨hp, rfl⟩, rfl, rfl, rfl⟩, ?_,
    h.bytes.set hp (entero_memcpy hv _ _ _) fun a ha => memcpy_valor _ _ _ ha, h.cant, h.pc, h.fin,
    h.sinFalta, h.ejecuta⟩
  rw [marcoDe, dirMarco_set, Stack.cells_set_length]
  exact hmarco

/-! ### Functions -/

lemma Representa.irAlLabel (h : Representa e G q M (s, m)) {etiq : List Byte}
    (hr : correr e (irAlLabel stringTrim etiq) s m = some (((), s'), m')) :
    ∃ M', M.Paso e.base stringTrim G (.irAlLabel etiq) () M' ∧
      Representa e G q M' (s', m') := by
  have hetiq : e.buscar (stringTrim etiq) s.etiquetas s.pcb.tamIndiceEtiquetas
      = G.etiqueta (stringTrim etiq) := h.ejecuta.buscar _
  simp only [Cpu.irAlLabel, correr_bind, correr_buscar, Option.bind_some, hetiq] at h hr
  by_cases hfin : G.etiqueta (stringTrim etiq) = -1
  · rw [if_neg (not_not.2 hfin), correr_modify] at hr
    obtain ⟨⟨-, rfl⟩, rfl⟩ := by simpa only [Option.some.injEq, Prod.mk.injEq] using hr
    exact ⟨M.conFin, .inl ⟨hfin, rfl, rfl, rfl⟩, h.conFin⟩
  · rw [if_pos hfin, correr_modificarPcb] at hr
    obtain ⟨⟨-, rfl⟩, rfl⟩ := by simpa only [Option.some.injEq, Prod.mk.injEq] using hr
    refine ⟨⟨M.pila, G.etiqueta (stringTrim etiq), M.fin, M.enOrden⟩, .inr ⟨hfin, rfl, rfl, rfl⟩,
      ⟨h.marco.base, h.marco.dir, h.marco.cant, h.marco.dic, h.marco.abajo, h.marco.base_int32,
        h.marco.dir_int32, ?_, h.marco.alto⟩, h.bytes, h.cant, rfl, h.fin, h.sinFalta,
      h.ejecuta.mantiene ⟨rfl, rfl, rfl, rfl⟩⟩
    rw [← hetiq]
    exact e.buscar_int32 _ _ _

/-- What a call leaves: the frame of the caller below, what it saves, and a record without
variables. -/
lemma Guarda.call {r : Regreso} {P : Pila} (h : Guarda e.base m P)
    (hm : ∀ a < topeDe e.base P, m'.pila a = m.pila a)
    (hg : Guardado m' (marcoDe e.base P) r.pc)
    (hdonde : ∀ p, r.donde = some p → m'.entero (topeDe e.base P + 8) = dirDe e.base P p) :
    Guarda e.base m' (.call P r []) := by
  refine ⟨h.congr fun a _ ha => hm a ha, hg.dir, hg.pc, hdonde, fun i n v hi => ?_⟩
  rw [List.getElem?_nil] at hi
  cases hi

lemma Representa.llamarSinRetorno (h : Representa e G q M (s, m)) {etiq : List Byte}
    (hr : correr e (llamarSinRetorno etiq) s m = some (((), s'), m')) :
    ∃ M', M.Paso e.base stringTrim G (.llamarSinRetorno etiq) () M' ∧
      Representa e G q M' (s', m') := by
  have hpaso : (Primitiva.llamarSinRetorno etiq).paso e stringTrim (s, m) = some (s', m') :=
    paso_de_correr hr
  obtain ⟨hmarco, hg, hm⟩ := h.marco.sinRetorno hpaso
  obtain ⟨-, -, hs, -⟩ := correr_llamarSinRetorno h.marco.base hr
  have hpc : s.pcb.programCounter = M.pc := h.pc
  have hint : EsInt32 M.pc := hpc ▸ h.marco.pc_int32
  rw [show (s, m).1 = s from rfl, hpc] at hg
  refine ⟨⟨.call M.pila ⟨M.pc, none⟩ [], G.etiqueta etiq, M.fin,
    ⟨M.enOrden, hint, fun p hp => by cases hp⟩⟩, ⟨rfl, rfl, rfl⟩, hmarco,
    h.bytes.call (r := ⟨M.pc, none⟩) hm hg fun p hp => (by cases hp), ?_, ?_, ?_, ?_, ?_⟩
  · rw [hs]
    exact show EsInt32 0 by decide
  · rw [hs]
    exact h.ejecuta.buscar etiq
  · rw [hs]
    exact h.fin
  · rw [hs]
    exact h.sinFalta
  · exact h.ejecuta.mantiene (by rw [hs]; exact ⟨rfl, rfl, rfl, rfl⟩)

lemma Representa.llamarConRetorno (h : Representa e G q M (s, m)) {etiq : List Byte} {d : ℤ}
    (ha : M.Admite e.base (.llamarConRetorno etiq d))
    (hr : correr e (llamarConRetorno etiq d) s m = some (((), s'), m')) :
    ∃ M', M.Paso e.base stringTrim G (.llamarConRetorno etiq d) () M' ∧
      Representa e G q M' (s', m') := by
  obtain ⟨p, hp, rfl⟩ := ha
  have hpaso : (Primitiva.llamarConRetorno etiq (dirDe e.base M.pila p)).paso e stringTrim (s, m)
      = some (s', m') := paso_de_correr hr
  obtain ⟨hmarco, hg, hdonde, hm⟩ :=
    h.marco.conRetorno (apilados_llamadores M.pila) (viva_dirDe hp) hpaso
  obtain ⟨-, -, hs, -⟩ := correr_llamarConRetorno h.marco.base hr
  have hpc : s.pcb.programCounter = M.pc := h.pc
  have hint : EsInt32 M.pc := hpc ▸ h.marco.pc_int32
  rw [show (s, m).1 = s from rfl, hpc] at hg
  refine ⟨⟨.call M.pila ⟨M.pc, some p⟩ [], G.etiqueta etiq, M.fin,
    ⟨M.enOrden, hint, fun q hq => Option.some.inj hq ▸ hp⟩⟩, ⟨p, ⟨hp, rfl⟩, rfl, rfl, rfl⟩, hmarco,
    h.bytes.call (r := ⟨M.pc, some p⟩) hm hg fun q hq => Option.some.inj hq ▸ hdonde,
    ?_, ?_, ?_, ?_, ?_⟩
  · rw [hs]
    exact show EsInt32 0 by decide
  · rw [hs]
    exact h.ejecuta.buscar etiq
  · rw [hs]
    exact h.fin
  · rw [hs]
    exact h.sinFalta
  · exact h.ejecuta.mantiene (by rw [hs]; exact ⟨rfl, rfl, rfl, rfl⟩)

lemma mantiene_enLlamador (s : Estado) (m : Memoria) (dir cant pc : ℤ) :
    Mantiene s (s.enLlamador m dir cant pc) := ⟨rfl, rfl, rfl, rfl⟩

/-- The CPU at the frame of the caller, with the line it goes on with. -/
lemma Representa.llamador (h : Representa e G q M w) {b : Pila} {r : Regreso}
    {xs : List (Byte × ℤ)} (hpila : M.pila = .call b r xs) :
    EnMarco e (w.1.enLlamador w.2 (dirMarco e.base b) b.cells.length r.pc, w.2)
      (marcoDe e.base b) := by
  have hdir := h.marco.dir_int32
  have horden := M.enOrden
  have h₁ := base_le_dirMarco e.base b
  have h₂ := topeDe_lt e.base b r xs
  have h₃ : topeDe e.base b = dirMarco e.base b + 5 * b.cells.length := rfl
  have h₄ := h.marco.base_int32
  rw [hpila] at hdir horden
  simp only [marcoDe] at hdir
  refine ⟨h.marco.base, rfl, rfl, rfl, h₁, h₄, ⟨h₄.1.trans h₁, ?_⟩, horden.2.1, ?_⟩
  · have := hdir.2
    simp only [marcoDe]
    omega
  · have := hdir.2
    have := h₄.1
    simp only [marcoDe]
    omega

/-- A frame that ends below an address has as many variables as an `int32_t` counts. -/
lemma EnMarco.cant_int32 {b : Pila} {r : Regreso} {xs : List (Byte × ℤ)}
    (h : EnMarco e w (marcoDe e.base (.call b r xs))) : EsInt32 (b.cells.length : ℤ) := by
  have h₁ := base_le_dirMarco e.base b
  have h₂ := topeDe_lt e.base b r xs
  have h₃ : topeDe e.base b = dirMarco e.base b + 5 * b.cells.length := rfl
  have h₄ := h.base_int32.1
  have h₅ := h.dir_int32.2
  simp only [marcoDe] at h₅
  constructor <;> omega

lemma Representa.finalizar (h : Representa e G q M (s, m)) (ha : M.Admite e.base .finalizar)
    (hr : correr e finalizar s m = some (((), s'), m')) :
    ∃ M', M.Paso e.base stringTrim G .finalizar () M' ∧ Representa e G q M' (s', m') := by
  cases hpila : M.pila with
  | bottom xs =>
    have hdir : s.pcb.dirContActual = e.base := by
      have hdir := h.marco.dir
      rw [hpila] at hdir
      exact hdir
    obtain ⟨rfl, hm⟩ := correr_finalizar_main h.marco.base hdir hr
    exact ⟨M.conFin, .inl ⟨⟨xs, hpila⟩, rfl, rfl, rfl⟩, h.conFin.memoria hm⟩
  | call b r xs =>
    obtain ⟨pc, donde⟩ := r
    obtain rfl : donde = none := ha b _ xs hpila
    have hpaso : Primitiva.finalizar.paso e stringTrim (s, m) = some (s', m') := paso_de_correr hr
    have hmarco := h.marco
    have hbytes := h.bytes
    have horden := M.enOrden
    rw [hpila] at hmarco hbytes horden
    obtain ⟨hm', hpc', hmem⟩ := (h.llamador hpila).finalizar hmarco ⟨hbytes.2.1, hbytes.2.2.1⟩ hpaso
    have hne : s.pcb.dirContActual ≠ e.base := by
      have h₁ := topeDe_lt e.base b ⟨pc, none⟩ xs
      have h₂ := base_le_dirMarco e.base b
      have h₃ : topeDe e.base b = dirMarco e.base b + 5 * b.cells.length := rfl
      have h₄ : s.pcb.dirContActual = _ := hmarco.dir
      rw [h₄]
      simp only [marcoDe]
      omega
    obtain ⟨dir, cant, -, -, -, -, hs, -⟩ := correr_finalizar h.marco.base hne hr
    have hmem : m' = m := hmem
    refine ⟨⟨b, pc, M.fin, horden.1⟩, .inr ⟨b, _, xs, hpila, rfl, rfl, rfl⟩, hm', hmem ▸ hbytes.1,
      hm'.cant ▸ hmarco.cant_int32, hpc', ?_, ?_, ?_⟩
    · rw [hs]
      exact h.fin
    · rw [hs]
      exact h.sinFalta
    · rw [hs]
      exact h.ejecuta.mantiene (mantiene_enLlamador _ _ _ _ _)

lemma Representa.retornar (h : Representa e G q M (s, m)) {v : ℤ}
    (ha : M.Admite e.base (.retornar v)) (hr : correr e (retornar v) s m = some (((), s'), m')) :
    ∃ M', M.Paso e.base stringTrim G (.retornar v) () M' ∧
      Representa e G q M' (s', m') := by
  obtain ⟨hv, b, pc, p, xs, hpila⟩ := ha
  have hpaso : (Primitiva.retornar v).paso e stringTrim (s, m) = some (s', m') := paso_de_correr hr
  have hmarco := h.marco
  have hbytes := h.bytes
  have horden := M.enOrden
  rw [hpila] at hmarco hbytes horden
  have hp : b.Live p := horden.2.2 p rfl
  obtain ⟨hm', hpc', hmem⟩ := (h.llamador hpila).retornar hmarco ⟨hbytes.2.1, hbytes.2.2.1⟩
    (hbytes.2.2.2.1 p rfl) (apilados_llamadores b) (viva_dirDe hp) hpaso
  obtain ⟨dir, cant, d, -, -, -, -, -, -, hs, -⟩ := correr_retornar h.marco.base hr
  have hmem : m' = ⟨memcpy m.pila (dirDe e.base b p + 1) (bytesOfInt v), m.turno⟩ := hmem
  refine ⟨⟨b.set p v, pc, M.fin, horden.1.set _ _⟩, ⟨b, pc, p, xs, hpila, rfl, rfl, rfl⟩, ?_, ?_,
    hm'.cant ▸ hmarco.cant_int32, hpc', ?_, ?_, ?_⟩
  · rw [marcoDe, dirMarco_set, Stack.cells_set_length]
    exact hm'
  · rw [hmem]
    exact hbytes.1.set hp (entero_memcpy hv _ _ _) fun a ha => memcpy_valor _ _ _ ha
  · rw [hs]
    exact h.fin
  · rw [hs]
    exact h.sinFalta
  · rw [hs]
    exact h.ejecuta.mantiene (mantiene_enLlamador _ _ _ _ _)

/-! ### The kernel -/

lemma correr_recvKernel (e : Entorno) (s : Estado) (m : Memoria) :
    correr e recvKernel s m = some ((e.kernel m.turno, s), { m with turno := m.turno + 1 }) := rfl

lemma correr_enviarPcb (e : Entorno) (s : Estado) (m : Memoria) :
    correr e enviarPcb s m = some (((), s), m) := rfl

lemma correr_avisarCierre (e : Entorno) (s : Estado) (m : Memoria) (tipo : ℤ) :
    correr e (avisarCierre tipo) s m = some (((), s), m) := rfl

lemma correr_obtenerValorCompartida {x : List Byte} {v : ℤ}
    (h : correr e (obtenerValorCompartida x) s m = some ((v, s'), m')) :
    m'.pila = m.pila ∧ (s' = s ∨ v = 0 ∧ s' = s.conFin true) := by
  rw [obtenerValorCompartida, correr_bind, correr_enviarMenComun, Option.bind_some, correr_bind,
    correr_recvKernel, Option.bind_some] at h
  dsimp only at h
  split at h
  · rw [correr_bind, correr_modify, Option.bind_some, correr_pure] at h
    obtain ⟨⟨rfl, rfl⟩, rfl⟩ := by simpa only [Option.some.injEq, Prod.mk.injEq] using h
    exact ⟨rfl, .inr ⟨rfl, rfl⟩⟩
  · simp only [correr_bind, correr_deref, Option.bind_eq_some_iff, Option.map_eq_some_iff,
      correr_pure, Option.some.injEq, Prod.mk.injEq] at h
    obtain ⟨_, ⟨_, -, rfl⟩, ⟨-, rfl⟩, rfl⟩ := h
    exact ⟨rfl, .inl rfl⟩

lemma correr_asignarValorCompartida {x : List Byte} {y v : ℤ}
    (h : correr e (asignarValorCompartida x y) s m = some ((v, s'), m')) :
    m'.pila = m.pila ∧ (s' = s ∧ (v = y ∨ v = -1) ∨ v = -1 ∧ s' = s.conFin true) := by
  rw [asignarValorCompartida, correr_bind, correr_enviarMenComun, Option.bind_some, correr_bind,
    correr_recvKernel, Option.bind_some] at h
  dsimp only at h
  split at h
  · rw [correr_bind, correr_modify, Option.bind_some, correr_pure] at h
    obtain ⟨⟨rfl, rfl⟩, rfl⟩ := by simpa only [Option.some.injEq, Prod.mk.injEq] using h
    exact ⟨rfl, .inr ⟨rfl, rfl⟩⟩
  · split at h
    · rw [correr_bind, correr_enviarMenComun, Option.bind_some, correr_bind, correr_recvKernel,
        Option.bind_some, correr_pure] at h
      obtain ⟨⟨rfl, rfl⟩, rfl⟩ := by simpa only [Option.some.injEq, Prod.mk.injEq] using h
      exact ⟨rfl, .inl ⟨rfl, .inl rfl⟩⟩
    · rw [correr_pure] at h
      obtain ⟨⟨rfl, rfl⟩, rfl⟩ := by simpa only [Option.some.injEq, Prod.mk.injEq] using h
      exact ⟨rfl, .inl ⟨rfl, .inr rfl⟩⟩

lemma correr_imprimir (hf : s.huboSegFault = false) {x : ℤ}
    (h : correr e (imprimir x) s m = some (((), s'), m')) : m'.pila = m.pila ∧ s' = s := by
  rw [imprimir, get_bind, hf, if_neg Bool.false_ne_true, correr_bind, correr_enviarMenComun,
    Option.bind_some, correr_recibirRespKernel] at h
  obtain ⟨⟨-, rfl⟩, rfl⟩ := by simpa only [Option.some.injEq, Prod.mk.injEq] using h
  exact ⟨rfl, rfl⟩

lemma correr_imprimirTexto {x : List Byte}
    (h : correr e (Cpu.imprimirTexto stringTrim x) s m = some (((), s'), m')) :
    m'.pila = m.pila ∧ s' = s := by
  rw [Cpu.imprimirTexto, correr_bind, correr_enviarMenComun, Option.bind_some,
    correr_recibirRespKernel] at h
  obtain ⟨⟨-, rfl⟩, rfl⟩ := by simpa only [Option.some.injEq, Prod.mk.injEq] using h
  exact ⟨rfl, rfl⟩

lemma correr_entradaSalida {x : List Byte} {y : ℤ}
    (h : correr e (entradaSalida x y) s m = some (((), s'), m')) :
    m'.pila = m.pila ∧ s' = s.conFin true := by
  simp only [entradaSalida, correr_bind, correr_enviarMenComun, correr_enviarPcb,
    correr_avisarCierre, Option.bind_some, correr_modify] at h
  obtain ⟨⟨-, rfl⟩, rfl⟩ := by simpa only [Option.some.injEq, Prod.mk.injEq] using h
  exact ⟨rfl, rfl⟩

lemma correr_wait {x : List Byte} (h : correr e (Cpu.wait x) s m = some (((), s'), m')) :
    m'.pila = m.pila ∧ (s' = s ∨ s' = s.conFin true) := by
  rw [Cpu.wait, correr_bind, correr_enviarMenComun, Option.bind_some, correr_bind,
    correr_recvKernel, Option.bind_some] at h
  dsimp only at h
  split at h
  · rw [correr_pure] at h
    obtain ⟨⟨-, rfl⟩, rfl⟩ := by simpa only [Option.some.injEq, Prod.mk.injEq] using h
    exact ⟨rfl, .inl rfl⟩
  · split at h
    · simp only [correr_bind, correr_modify, correr_enviarPcb, correr_avisarCierre,
        Option.bind_some] at h
      obtain ⟨⟨-, rfl⟩, rfl⟩ := by simpa only [Option.some.injEq, Prod.mk.injEq] using h
      exact ⟨rfl, .inr rfl⟩
    · split at h
      · rw [correr_modify] at h
        obtain ⟨⟨-, rfl⟩, rfl⟩ := by simpa only [Option.some.injEq, Prod.mk.injEq] using h
        exact ⟨rfl, .inr rfl⟩
      · rw [correr_pure] at h
        obtain ⟨⟨-, rfl⟩, rfl⟩ := by simpa only [Option.some.injEq, Prod.mk.injEq] using h
        exact ⟨rfl, .inl rfl⟩

/-- `finalizarContexto` knows nothing of `SEM_INEX`. -/
lemma correr_miSignal {x : List Byte} (h : correr e (miSignal x) s m = some (((), s'), m')) :
    m'.pila = m.pila ∧ s' = s := by
  rw [miSignal, correr_bind, correr_enviarMenComun, Option.bind_some, correr_bind,
    correr_recvKernel, Option.bind_some] at h
  dsimp only at h
  split at h
  · rw [finalizarContexto, if_neg (by decide), if_neg (by decide), correr_pure] at h
    obtain ⟨⟨-, rfl⟩, rfl⟩ := by simpa only [Option.some.injEq, Prod.mk.injEq] using h
    exact ⟨rfl, rfl⟩
  · rw [correr_pure] at h
    obtain ⟨⟨-, rfl⟩, rfl⟩ := by simpa only [Option.some.injEq, Prod.mk.injEq] using h
    exact ⟨rfl, rfl⟩

/-! ### All primitives -/

/-- **A primitive of the CPU is a step of the machine**: what it gives back is what the machine may
give, and the CPU holds the machine after the step. -/
theorem Representa.primitiva (h : Representa e G q M (s, m)) {p : Primitiva} {v : p.Valor}
    (ha : M.Admite e.base p) (hr : correr e (p.ejecutar stringTrim) s m = some ((v, s'), m')) :
    ∃ M', M.Paso e.base stringTrim G p v M' ∧ Representa e G q M' (s', m') := by
  cases p with
  | definirVariable c => exact h.definir hr
  | obtenerPosicionVariable c => exact ⟨M, h.obtenerPosicion hr⟩
  | dereferenciar d => exact ⟨M, h.dereferenciar ha hr⟩
  | asignar d v => exact h.asignar ha hr
  | obtenerValorCompartida x =>
    obtain ⟨hm, rfl | ⟨hv, rfl⟩⟩ := correr_obtenerValorCompartida hr
    · exact ⟨M, .inl rfl, h.memoria hm⟩
    · exact ⟨M.conFin, .inr ⟨hv, rfl, rfl, rfl⟩, h.conFin.memoria hm⟩
  | asignarValorCompartida x y =>
    obtain ⟨hm, ⟨rfl, hv⟩ | ⟨hv, rfl⟩⟩ := correr_asignarValorCompartida hr
    · exact ⟨M, .inl ⟨rfl, hv⟩, h.memoria hm⟩
    · exact ⟨M.conFin, .inr ⟨hv, rfl, rfl, rfl⟩, h.conFin.memoria hm⟩
  | irAlLabel etiq => exact h.irAlLabel hr
  | llamarSinRetorno etiq => exact h.llamarSinRetorno hr
  | llamarConRetorno etiq d => exact h.llamarConRetorno ha hr
  | finalizar => exact h.finalizar ha hr
  | retornar v => exact h.retornar ha hr
  | imprimir x =>
    obtain ⟨hm, rfl⟩ := correr_imprimir h.sinFalta hr
    exact ⟨M, rfl, h.memoria hm⟩
  | imprimirTexto x =>
    obtain ⟨hm, rfl⟩ := correr_imprimirTexto hr
    exact ⟨M, rfl, h.memoria hm⟩
  | entradaSalida x t =>
    obtain ⟨hm, rfl⟩ := correr_entradaSalida hr
    exact ⟨M.conFin, ⟨rfl, rfl, rfl⟩, h.conFin.memoria hm⟩
  | wait x =>
    obtain ⟨hm, rfl | rfl⟩ := correr_wait hr
    · exact ⟨M, .inl rfl, h.memoria hm⟩
    · exact ⟨M.conFin, .inr ⟨rfl, rfl, rfl⟩, h.conFin.memoria hm⟩
  | signal x =>
    obtain ⟨hm, rfl⟩ := correr_miSignal hr
    exact ⟨M, rfl, h.memoria hm⟩

end Representa

end Ansisop.Cpu
