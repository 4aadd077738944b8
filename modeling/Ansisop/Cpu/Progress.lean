import Ansisop.Cpu.Interpreter

/-!
When the CPU meets a fault. A primitive that has a meaning for the machine is carried out unless the
stack segment has no room for what it adds, a variable is looked up that the function does not have,
or the kernel answers with no value when it is asked for one: then, and only then, is there no run
without a fault (`Representa.primitiva_iff`). A script that stays within the segment is carried out to
the end of the quantum (`Representa.cicloQuantum_total`).
-/

namespace Ansisop.Cpu

open Ansisop.Sockets Ansisop.Lib Ansisop.Lib.Memory Ansisop.Lib.Activation Prog
open TipoDatos hiding signal wait imprimirTexto cambioPA finQuantum finEjecucion

/-! ### Operations that succeed -/

section Operaciones

variable {e : Entorno} {s : Estado} {m : Memoria} {α : Type}

lemma entero_ok {x : ℤ} {f : ℤ → Prog α} (hx : EsInt32 x) :
    correr e (entero x >>= f) s m = correr e (f x) s m := by
  rw [correr_bind, correr_entero, if_pos hx, Option.bind_some]

lemma solBytes_ok {offset tam : ℤ} {g : MenComun → Prog α} (h : e.EnPila offset tam) :
    correr e (pedirUmv solBytes e.base offset tam [] >>= g) s m
      = correr e (g ⟨tam, rSolBytes, read m.pila (e.base + offset) tam.toNat⟩) s m := by
  rw [correr_bind, correr_solBytes, if_pos h, Option.bind_some]

lemma almInt_ok {offset x : ℤ} {g : MenComun → Prog α} (h : e.EnPila offset 4) :
    correr e (pedirUmv almBytes e.base offset 4 (bytesOfInt x) >>= g) s m
      = correr e (g ⟨0, rAlmBytes, []⟩) s
        ⟨memcpy m.pila (e.base + offset) (bytesOfInt x), m.turno⟩ := by
  rw [correr_bind, correr_almInt, if_pos h, Option.bind_some]

lemma copia_ok {l : List Byte} {n : ℕ} {f : List Byte → Prog α} (hl : l.length = n) :
    correr e (Prog.memcpy l n >>= f) s m = correr e (f l) s m := by
  rw [correr_bind, correr_copia, if_pos hl.ge, Option.bind_some, List.take_of_length_le hl.le]

lemma regenerar_ok {f : Unit → Prog α} (hb : s.pcb.dirSegStack = e.base)
    (hleg : ∀ j < s.pcb.cantVarContActual.toNat, e.Legible s.pcb.dirContActual j) :
    correr e (regenerarDiccVar >>= f) s m = correr e (f ()) (s.conVariables
      (dicc m.pila s.pcb.dirContActual s.pcb.cantVarContActual.toNat)) m := by
  rw [correr_bind, (correr_regenerarDiccVar hb _).2 ⟨hleg, rfl⟩, Option.bind_some]

/-- The end of both returns. -/
lemma volver_ok {f : Prog α} {n : ℕ} {pc dir : ℤ} (hb : s.pcb.dirSegStack = e.base)
    (hleg : ∀ j < n, e.Legible dir j) :
    correr e (do actualizarPcb n pc dir; regenerarDiccVar; f) s m
      = correr e f (s.enLlamador m dir n pc) m := by
  rw [correr_bind, correr_actualizarPcb, Option.bind_some]
  exact regenerar_ok (by exact hb) (by simpa using hleg)

lemma bind_unit (x : Prog Unit) : x = x >>= fun _ => pure () := (bind_pure_unit (x := x)).symm

end Operaciones

/-! ### Room -/

/-- The segment lies among the addresses of an `int32_t`. -/
structure Entorno.Normal (e : Entorno) : Prop where
  base_nonneg : 0 ≤ e.base
  fin : e.base + e.tamStack < 2 ^ 31

/-- An answer with a value, or that there is no such variable. -/
def EsValor (men : MenComun) : Prop := men.tipo = varInex ∨ (cadena men.dato).isSome

namespace Maquina

/-- The stack of the machine lies in the segment. -/
def EnSegmento (e : Entorno) (M : Maquina) : Prop := topeDe e.base M.pila ≤ e.base + e.tamStack

/-- There is room for what the primitive adds, and the variable it looks up is there. -/
def Cabe (e : Entorno) (M : Maquina) : Primitiva → Prop
  | .definirVariable _ => topeDe e.base M.pila + 5 ≤ e.base + e.tamStack
  | .llamarSinRetorno _ => topeDe e.base M.pila + 8 ≤ e.base + e.tamStack
  | .llamarConRetorno _ _ => topeDe e.base M.pila + 12 ≤ e.base + e.tamStack
  | .obtenerPosicionVariable c => (M.pila.find (esNumeroPasarChar c)).isSome
  | _ => True

end Maquina

/-- The kernel answers with a value where it is asked for one. -/
def Primitiva.Contesta (e : Entorno) (m : Memoria) : Primitiva → Prop
  | .obtenerValorCompartida _ => EsValor (e.kernel m.turno)
  | _ => True

section Progreso

variable {e : Entorno} {stringTrim : List Byte → List Byte} {G : Guion} {q : Pcb} {M : Maquina}
  {s s' : Estado} {m m' : Memoria} {α : Type}

/-- An offset in the segment is one for an `int32_t`, and so is its address. -/
lemma Entorno.Normal.int32 (he : e.Normal) {x : ℤ} (h₀ : e.base ≤ x) (h₁ : x ≤ e.base + e.tamStack) :
    EsInt32 (x - e.base) ∧ EsInt32 x := by
  have h₂ := he.base_nonneg
  have h₃ := he.fin
  refine ⟨⟨?_, ?_⟩, ⟨?_, ?_⟩⟩ <;> omega

/-- The names of a frame in the segment can be read. -/
lemma Entorno.Normal.legible (he : e.Normal) {dir : ℤ} {n : ℕ} (h₀ : e.base ≤ dir)
    (h₁ : dir + 5 * n ≤ e.base + e.tamStack) : ∀ j < n, e.Legible dir j := by
  intro j hj
  have h₂ : dir - e.base + (j : ℤ) * 5 = dir + j * 5 - e.base := by ring
  obtain ⟨h₃, h₄⟩ := he.int32 (x := dir + j * 5) (by omega) (by omega)
  refine ⟨?_, ⟨?_, by decide, ?_⟩, h₄⟩
  · rw [h₂]
    exact h₃
  · omega
  · omega

lemma Representa.tope (h : Representa e G q M (s, m)) : s.tope = topeDe e.base M.pila := h.marco.tope

lemma Representa.definir_ok (he : e.Normal) (h : Representa e G q M (s, m)) {c : Byte}
    (hc : topeDe e.base M.pila + 5 ≤ e.base + e.tamStack) :
    (correr e (definirVariable c) s m).isSome := by
  have hb : s.pcb.dirSegStack = e.base := h.marco.base
  have htope := h.tope
  have h₀ := base_le_dirMarco e.base M.pila
  have h₁ : topeDe e.base M.pila = dirMarco e.base M.pila + 5 * M.pila.cells.length := rfl
  have hcant : s.pcb.cantVarContActual = M.pila.cells.length := h.marco.cant
  obtain ⟨h₂, h₃⟩ := he.int32 (x := s.tope) (by omega) (by omega)
  have h₄ : e.EnPila (s.tope - e.base) 5 := ⟨by omega, by decide, by omega⟩
  have h₅ : EsInt32 (s.pcb.cantVarContActual + 1) := by
    have := he.base_nonneg
    have := he.fin
    constructor <;> omega
  simp only [definirVariable, correr_bind, correr_get, Option.bind_some, correr_entero, hb,
    tope_offset, base_tope, correr_basura, correr_almNombre, if_true, correr_modify, correr_pure,
    correr_modificarPcb, if_pos h₂, if_pos h₃, if_pos h₄, if_pos h₅, Option.isSome_some]

lemma Representa.obtenerPosicion_ok (h : Representa e G q M (s, m)) {c : Byte}
    (hc : (M.pila.find (esNumeroPasarChar c)).isSome) :
    (correr e (obtenerPosicionVariable c) s m).isSome := by
  obtain ⟨p, hp⟩ := Option.isSome_iff_exists.1 hc
  obtain ⟨i, hi, rfl⟩ := Option.map_eq_some_iff.1 hp
  obtain ⟨⟨v, hv⟩, hlast⟩ := lookup_eq_some.1 hi
  obtain ⟨hlt, -⟩ := List.getElem?_eq_some_iff.1 hv
  have hceldas := h.bytes.celdas
  have hdic : s.dicVariables (esNumeroPasarChar c) = some (dirMarco e.base M.pila + 5 * i) := by
    rw [show s.dicVariables = _ from h.marco.dic]
    refine dicc_eq_some.2 ⟨i, hlt, rfl, (hceldas i _ _ hv).1, fun j hj hij heq => ?_⟩
    have hj' : M.pila.cells[j]? = some (M.pila.cells[j].1, M.pila.cells[j].2) :=
      List.getElem?_eq_getElem hj
    refine hlast j hij M.pila.cells[j].2 ?_
    rw [hj', ← (hceldas j _ _ hj').1]
    exact congrArg (fun n => some (n, _)) heq
  simp only [obtenerPosicionVariable, correr_bind, correr_get, Option.bind_some, hdic, correr_deref,
    Option.map_some, Option.isSome_some]

/-- The value of a variable lies in the segment. -/
lemma Maquina.Apunta.enPila (he : e.Normal) (hM : M.EnSegmento e) {d : ℤ} {p : Ptr}
    (hd : M.Apunta e.base d p) : EsInt32 (d - e.base + 1) ∧ e.EnPila (d - e.base + 1) 4 := by
  obtain ⟨hp, rfl⟩ := hd
  have h₁ : e.base ≤ dirDe e.base M.pila p := (dirDe_rango hp).1
  have h₂ : dirDe e.base M.pila p + 5 ≤ topeDe e.base M.pila := (dirDe_rango hp).2
  unfold Maquina.EnSegmento at hM
  obtain ⟨h₃, -⟩ := he.int32 (x := dirDe e.base M.pila p + 1) (by omega) (by omega)
  have h₄ : dirDe e.base M.pila p - e.base + 1 = dirDe e.base M.pila p + 1 - e.base := by ring
  rw [h₄]
  exact ⟨h₃, by omega, by decide, by omega⟩

lemma Representa.dereferenciar_ok (he : e.Normal) (h : Representa e G q M (s, m))
    (hM : M.EnSegmento e) {d : ℤ} (ha : M.Admite e.base (.dereferenciar d)) :
    (correr e (Cpu.dereferenciar d) s m).isSome := by
  obtain ⟨p, hd⟩ := ha
  obtain ⟨h₁, h₂⟩ := hd.enPila he hM
  have hb : s.pcb.dirSegStack = e.base := h.marco.base
  rw [Cpu.dereferenciar, get_bind]
  dsimp only
  rw [hb, int32_of_range h₁.1 h₁.2, correr_bind, correr_basura, Option.bind_some, solBytes_ok h₂,
    if_pos rfl, if_pos (by simp), correr_pure, Option.isSome_some]

lemma Representa.asignar_ok (he : e.Normal) (h : Representa e G q M (s, m)) (hM : M.EnSegmento e)
    {d v : ℤ} (ha : M.Admite e.base (.asignar d v)) : (correr e (Cpu.asignar d v) s m).isSome := by
  obtain ⟨-, p, hd⟩ := ha
  obtain ⟨h₁, h₂⟩ := hd.enPila he hM
  have hb : s.pcb.dirSegStack = e.base := h.marco.base
  have hf : s.huboSegFault = false := h.sinFalta
  rw [Cpu.asignar, get_bind, hf, if_neg Bool.false_ne_true]
  dsimp only
  rw [hb, int32_of_range h₁.1 h₁.2, almInt_ok h₂, if_neg (by decide), correr_pure, Option.isSome_some]

/-! ### Calls -/

lemma correr_preservarContexto_ok (hb : s.pcb.dirSegStack = e.base)
    (h₁ : EsInt32 (s.tope - e.base)) (h₂ : EsInt32 (s.tope - e.base + 4))
    (h₃ : e.EnPila (s.tope - e.base) 4) (h₄ : e.EnPila (s.tope - e.base + 4) 4) :
    ∃ m', correr e preservarContexto s m = some (((), s), m') := by
  rw [preservarContexto, get_bind]
  dsimp only
  rw [hb, tope_offset, entero_ok h₁, almInt_ok h₃, if_pos rfl, entero_ok h₂, almInt_ok h₄,
    if_pos rfl, correr_pure]
  exact ⟨_, rfl⟩

lemma Representa.preservar_ok (he : e.Normal) (h : Representa e G q M (s, m))
    (hc : topeDe e.base M.pila + 8 ≤ e.base + e.tamStack) :
    ∃ m', correr e preservarContexto s m = some (((), s), m') := by
  have htope := h.tope
  have h₀ := base_le_dirMarco e.base M.pila
  have h₁ : topeDe e.base M.pila = dirMarco e.base M.pila + 5 * M.pila.cells.length := rfl
  obtain ⟨h₂, -⟩ := he.int32 (x := s.tope) (by omega) (by omega)
  obtain ⟨h₃, -⟩ := he.int32 (x := s.tope + 4) (by omega) (by omega)
  have h₄ : s.tope - e.base + 4 = s.tope + 4 - e.base := by ring
  refine correr_preservarContexto_ok h.marco.base h₂ (h₄ ▸ h₃) ⟨?_, ?_, ?_⟩ ⟨?_, ?_, ?_⟩ <;> omega

lemma Representa.llamarSinRetorno_ok (he : e.Normal) (h : Representa e G q M (s, m))
    {etiq : List Byte} (hc : topeDe e.base M.pila + 8 ≤ e.base + e.tamStack) :
    (correr e (Cpu.llamarSinRetorno etiq) s m).isSome := by
  obtain ⟨m', hm⟩ := h.preservar_ok he hc
  have htope := h.tope
  have h₀ := base_le_dirMarco e.base M.pila
  have h₁ : topeDe e.base M.pila = dirMarco e.base M.pila + 5 * M.pila.cells.length := rfl
  have hdir : s.pcb.dirContActual + 5 * s.pcb.cantVarContActual + 8 = s.tope + 8 := by
    unfold Estado.tope
    ring
  obtain ⟨-, h₂⟩ := he.int32 (x := s.tope + 8) (by omega) (by omega)
  rw [Cpu.llamarSinRetorno, correr_bind, hm, Option.bind_some, get_bind]
  dsimp only
  rw [hdir, entero_ok h₂, correr_entrar h.marco.base, Option.isSome_some]

lemma Representa.llamarConRetorno_ok (he : e.Normal) (h : Representa e G q M (s, m))
    {etiq : List Byte} {d : ℤ} (hc : topeDe e.base M.pila + 12 ≤ e.base + e.tamStack) :
    (correr e (Cpu.llamarConRetorno etiq d) s m).isSome := by
  obtain ⟨m', hm⟩ := h.preservar_ok he (by omega)
  have hb : s.pcb.dirSegStack = e.base := h.marco.base
  have htope := h.tope
  have h₀ := base_le_dirMarco e.base M.pila
  have h₁ : topeDe e.base M.pila = dirMarco e.base M.pila + 5 * M.pila.cells.length := rfl
  obtain ⟨h₂, -⟩ := he.int32 (x := s.tope + 8) (by omega) (by omega)
  obtain ⟨-, h₃⟩ := he.int32 (x := s.tope + 12) (by omega) (by omega)
  have h₄ : s.tope - e.base + 8 = s.tope + 8 - e.base := by ring
  have h₅ : e.base + (s.tope + 8 - e.base) + 4 = s.tope + 12 := by ring
  have h₆ : e.EnPila (s.tope + 8 - e.base) 4 := ⟨by omega, by decide, by omega⟩
  rw [Cpu.llamarConRetorno, correr_bind, hm, Option.bind_some, get_bind]
  dsimp only
  rw [hb, tope_offset, h₄, entero_ok h₂, almInt_ok h₆, if_pos rfl, h₅, entero_ok h₃,
    correr_entrar hb, Option.isSome_some]

/-! ### Returns -/

lemma imprimirVariables_ok (he : e.Normal) (hb : s.pcb.dirContActual = e.base) (n : ℕ) :
    ∀ (i : ℤ) (m : Memoria), 0 ≤ i → 5 * (i + n) ≤ e.tamStack →
      ∃ m', correr e (imprimirVariables n i) s m = some (((), s), m') := by
  induction n with
  | zero =>
    intro i m _ _
    exact ⟨m, rfl⟩
  | succ n ih =>
    intro i m h₀ h₁
    have h₂ := he.base_nonneg
    have h₃ := he.fin
    have h₄ : EsInt32 (5 * i) := by constructor <;> omega
    have h₅ : EsInt32 (5 * i + 1) := by constructor <;> omega
    have h₆ : e.EnPila (5 * i) 1 := ⟨by omega, by decide, by omega⟩
    have h₇ : e.EnPila (5 * i + 1) 4 := ⟨by omega, by decide, by omega⟩
    rw [imprimirVariables, get_bind]
    dsimp only
    rw [hb, entero_ok h₄, solBytes_ok h₆, entero_ok h₅, solBytes_ok h₇, copia_ok (by simp)]
    simp only [correr_bind, correr_deref, head_read, Option.map_some, Option.bind_some,
      correr_enviarMenComun, correr_recibirRespKernel]
    exact ih _ _ (by omega) (by push_cast at h₁; omega)

lemma Representa.finalizar_main_ok (he : e.Normal) (h : Representa e G q M (s, m))
    (hM : M.EnSegmento e) {xs : List (Byte × ℤ)} (hpila : M.pila = .bottom xs) :
    (correr e Cpu.finalizar s m).isSome := by
  have hb : s.pcb.dirSegStack = e.base := h.marco.base
  have hdir : s.pcb.dirContActual = e.base := by
    have hdir := h.marco.dir
    rw [hpila] at hdir
    exact hdir
  have hcant : s.pcb.cantVarContActual = xs.length := by
    have hcant := h.marco.cant
    rw [hpila] at hcant
    exact hcant
  have hM : e.base + 5 * (xs.length : ℤ) ≤ e.base + e.tamStack := by
    unfold Maquina.EnSegmento at hM
    rw [hpila] at hM
    exact hM
  obtain ⟨m', hm⟩ := imprimirVariables_ok he hdir s.pcb.cantVarContActual.toNat 0
    { m with turno := m.turno + 1 } le_rfl (by omega)
  rw [Cpu.finalizar, get_bind]
  dsimp only
  rw [hb, if_pos hdir, finalizarContexto, if_neg (by decide), if_pos rfl]
  simp only [correr_bind, correr_enviarMenComun, correr_recibirRespKernel, Option.bind_some,
    correr_get, hm, correr_modify, Option.isSome_some]

/-- The frame of a caller, as the segment has it. -/
lemma Representa.llamador_rango (he : e.Normal) (h : Representa e G q M (s, m))
    (hM : M.EnSegmento e) {b : Pila} {r : Regreso} {xs : List (Byte × ℤ)}
    (hpila : M.pila = .call b r xs) :
    s.pcb.dirContActual = topeDe e.base b + r.tam ∧
      topeDe e.base b + r.tam ≤ e.base + e.tamStack ∧
      m.entero (topeDe e.base b) = dirMarco e.base b ∧ EsInt32 (b.cells.length * 5 : ℤ) ∧
      ∀ j < b.cells.length, e.Legible (dirMarco e.base b) j := by
  have hdir := h.marco.dir
  have hbytes := h.bytes
  have h₀ := base_le_dirMarco e.base b
  have h₁ : topeDe e.base b = dirMarco e.base b + 5 * b.cells.length := rfl
  have h₂ := topeDe_lt e.base b r xs
  have h₃ := he.base_nonneg
  have h₄ := he.fin
  unfold Maquina.EnSegmento at hM
  rw [hpila] at hdir hbytes hM
  have h₅ : topeDe e.base (.call b r xs) = topeDe e.base b + r.tam + 5 * xs.length := rfl
  have h₆ := r.tam_le
  refine ⟨hdir, by omega, hbytes.2.1, ⟨by omega, by omega⟩, he.legible h₀ (by omega)⟩

lemma Representa.finalizar_call_ok (he : e.Normal) (h : Representa e G q M (s, m))
    (hM : M.EnSegmento e) {b : Pila} {pc : ℤ} {xs : List (Byte × ℤ)}
    (hpila : M.pila = .call b ⟨pc, none⟩ xs) : (correr e Cpu.finalizar s m).isSome := by
  have hb : s.pcb.dirSegStack = e.base := h.marco.base
  obtain ⟨hdir, hfin, hant, hint, hleg⟩ := h.llamador_rango he hM hpila
  have htam : Regreso.tam ⟨pc, none⟩ = 8 := rfl
  rw [htam] at hdir hfin
  have h₀ := base_le_dirMarco e.base b
  have h₁ : topeDe e.base b = dirMarco e.base b + 5 * b.cells.length := rfl
  obtain ⟨h₂, -⟩ := he.int32 (x := topeDe e.base b) (by omega) (by omega)
  have h₃ : topeDe e.base b + 8 - e.base - 8 = topeDe e.base b - e.base := by ring
  have h₄ : e.EnPila (topeDe e.base b - e.base) 8 := ⟨by omega, by decide, by omega⟩
  have h₅ : e.base + (topeDe e.base b - e.base) = topeDe e.base b := by ring
  have hentero := entero_read m (topeDe e.base b) (show 0 + 4 ≤ 8 by decide)
  rw [List.drop_zero, Nat.cast_zero, add_zero, hant] at hentero
  have h₆ : topeDe e.base b + 8 - dirMarco e.base b - 8 = b.cells.length * 5 := by
    rw [h₁]
    ring
  rw [Cpu.finalizar, get_bind]
  dsimp only
  rw [hb, if_neg (by omega), hdir, h₃, entero_ok h₂, solBytes_ok h₄, if_pos rfl, copia_ok (by simp)]
  dsimp only
  rw [h₅, show (8 : ℤ).toNat = 8 from rfl, hentero, h₆, entero_ok hint,
    Int.mul_tdiv_cancel _ (by decide), bind_unit regenerarDiccVar, volver_ok hb hleg, correr_pure,
    Option.isSome_some]

lemma Representa.retornar_ok (he : e.Normal) (h : Representa e G q M (s, m)) (hM : M.EnSegmento e)
    {v : ℤ} (ha : M.Admite e.base (.retornar v)) : (correr e (Cpu.retornar v) s m).isSome := by
  obtain ⟨-, b, pc, p, xs, hpila⟩ := ha
  have hb : s.pcb.dirSegStack = e.base := h.marco.base
  have hbytes := h.bytes
  have horden := M.enOrden
  rw [hpila] at hbytes horden
  obtain ⟨hdir, hfin, hant, hint, hleg⟩ := h.llamador_rango he hM hpila
  have htam : Regreso.tam ⟨pc, some p⟩ = 12 := rfl
  rw [htam] at hdir hfin
  have h₀ := base_le_dirMarco e.base b
  have h₁ : topeDe e.base b = dirMarco e.base b + 5 * b.cells.length := rfl
  obtain ⟨h₂, -⟩ := he.int32 (x := topeDe e.base b) (by omega) (by omega)
  have h₃ : topeDe e.base b + 12 - e.base - 12 = topeDe e.base b - e.base := by ring
  have h₄ : e.EnPila (topeDe e.base b - e.base) 12 := ⟨by omega, by decide, by omega⟩
  have h₅ : e.base + (topeDe e.base b - e.base) = topeDe e.base b := by ring
  have hentero := entero_read m (topeDe e.base b) (show 0 + 4 ≤ 12 by decide)
  rw [List.drop_zero, Nat.cast_zero, add_zero, hant] at hentero
  have hdonde := entero_read_last m (topeDe e.base b) 8
  rw [show ((8 : ℕ) : ℤ) = 8 from rfl, hbytes.2.2.2.1 p rfl] at hdonde
  have h₆ : topeDe e.base b + 12 - dirMarco e.base b - 12 = b.cells.length * 5 := by
    rw [h₁]
    ring
  -- the variable that gets the value is one of the callers'
  have hb' : Maquina.EnSegmento e ⟨b, pc, false, horden.1⟩ := by
    unfold Maquina.EnSegmento
    dsimp only
    omega
  obtain ⟨h₇, h₈⟩ := Maquina.Apunta.enPila he hb' (d := dirDe e.base b p) ⟨horden.2.2 p rfl, rfl⟩
  rw [Cpu.retornar, get_bind]
  dsimp only
  rw [hb, hdir, h₃, entero_ok h₂, solBytes_ok h₄, if_pos rfl, copia_ok (by simp)]
  dsimp only
  rw [h₅, show (12 : ℤ).toNat = 12 from rfl, hentero, hdonde, h₆, entero_ok hint,
    Int.mul_tdiv_cancel _ (by decide), volver_ok hb hleg, entero_ok h₇, almInt_ok h₈, correr_pure,
    Option.isSome_some]

/-! ### The kernel -/

lemma correr_kernel_ok {x : Prog α} {c : Prop} [Decidable c] {y : Prog α}
    (hx : (correr e x s m).isSome) (hy : (correr e y s m).isSome) :
    (correr e (if c then x else y) s m).isSome := by
  split
  · exact hx
  · exact hy

/-- The value of a shared variable is read out of the answer, unless there is no such variable. -/
lemma obtenerValorCompartida_iff (x : List Byte) (s : Estado) (m : Memoria) :
    (correr e (Cpu.obtenerValorCompartida x) s m).isSome ↔ EsValor (e.kernel m.turno) := by
  rw [Cpu.obtenerValorCompartida, correr_bind, correr_enviarMenComun, Option.bind_some,
    correr_bind, correr_recvKernel, Option.bind_some]
  dsimp only
  unfold EsValor
  by_cases htipo : (e.kernel m.turno).tipo = varInex
  · rw [if_pos htipo]
    exact iff_of_true rfl (.inl htipo)
  · rw [if_neg htipo, correr_bind, correr_deref]
    cases hdato : cadena (e.kernel m.turno).dato with
    | none => simp [htipo]
    | some l => exact iff_of_true rfl (.inr rfl)

lemma asignarValorCompartida_ok (x : List Byte) (v : ℤ) (s : Estado) (m : Memoria) :
    (correr e (Cpu.asignarValorCompartida x v) s m).isSome := by
  rw [Cpu.asignarValorCompartida, correr_bind, correr_enviarMenComun, Option.bind_some,
    correr_bind, correr_recvKernel, Option.bind_some]
  exact correr_kernel_ok rfl (correr_kernel_ok rfl rfl)

lemma irAlLabel_ok (etiq : List Byte) (s : Estado) (m : Memoria) :
    (correr e (Cpu.irAlLabel stringTrim etiq) s m).isSome := by
  rw [Cpu.irAlLabel, correr_bind, correr_buscar, Option.bind_some]
  exact correr_kernel_ok rfl rfl

lemma imprimir_ok (x : ℤ) (s : Estado) (m : Memoria) :
    (correr e (Cpu.imprimir x) s m).isSome := by
  rw [Cpu.imprimir, get_bind]
  exact correr_kernel_ok rfl rfl

lemma wait_ok (x : List Byte) (s : Estado) (m : Memoria) :
    (correr e (Cpu.wait x) s m).isSome := by
  rw [Cpu.wait, correr_bind, correr_enviarMenComun, Option.bind_some, correr_bind,
    correr_recvKernel, Option.bind_some]
  exact correr_kernel_ok rfl (correr_kernel_ok rfl (correr_kernel_ok rfl rfl))

lemma miSignal_ok (x : List Byte) (s : Estado) (m : Memoria) :
    (correr e (miSignal x) s m).isSome := by
  rw [miSignal, correr_bind, correr_enviarMenComun, Option.bind_some, correr_bind,
    correr_recvKernel, Option.bind_some]
  refine correr_kernel_ok ?_ rfl
  rw [finalizarContexto, if_neg (by decide), if_neg (by decide)]
  rfl

/-! ### All primitives -/

/-- A primitive is carried out when there is room for it. -/
theorem Representa.progresa (he : e.Normal) (h : Representa e G q M (s, m)) (hM : M.EnSegmento e)
    {p : Primitiva} (ha : M.Admite e.base p) (hc : M.Cabe e p) (hk : p.Contesta e m) :
    (correr e (p.ejecutar stringTrim) s m).isSome := by
  cases p with
  | definirVariable c => exact h.definir_ok he hc
  | obtenerPosicionVariable c => exact h.obtenerPosicion_ok hc
  | dereferenciar d => exact h.dereferenciar_ok he hM ha
  | asignar d v => exact h.asignar_ok he hM ha
  | obtenerValorCompartida x => exact (obtenerValorCompartida_iff x s m).2 hk
  | asignarValorCompartida x v => exact asignarValorCompartida_ok x v s m
  | irAlLabel etiq => exact irAlLabel_ok etiq s m
  | llamarSinRetorno etiq => exact h.llamarSinRetorno_ok he hc
  | llamarConRetorno etiq d => exact h.llamarConRetorno_ok he hc
  | finalizar =>
    cases hpila : M.pila with
    | bottom xs => exact h.finalizar_main_ok he hM hpila
    | call b r xs =>
      obtain ⟨pc, donde⟩ := r
      obtain rfl : donde = none := ha b _ xs hpila
      exact h.finalizar_call_ok he hM hpila
  | retornar v => exact h.retornar_ok he hM ha
  | imprimir x => exact imprimir_ok x s m
  | imprimirTexto x => rfl
  | entradaSalida x t => rfl
  | wait x => exact wait_ok x s m
  | signal x => exact miSignal_ok x s m

/-- **When the CPU meets a fault**: a primitive with a meaning meets none if and only if the stack
segment has room for what it adds, the variable it looks up is one of the function, and the kernel,
asked for a value, answers with one. -/
theorem Representa.primitiva_iff (he : e.Normal) (h : Representa e G q M (s, m))
    (hM : M.EnSegmento e) {p : Primitiva} (ha : M.Admite e.base p) :
    (correr e (p.ejecutar stringTrim) s m).isSome ↔ M.Cabe e p ∧ p.Contesta e m := by
  refine ⟨fun hr => ?_, fun hc => h.progresa he hM ha hc.1 hc.2⟩
  obtain ⟨⟨⟨v, s'⟩, m'⟩, hr⟩ := Option.isSome_iff_exists.1 hr
  have htope := h.tope
  have hb : s.pcb.dirSegStack = e.base := h.marco.base
  cases p with
  | definirVariable c =>
    obtain ⟨-, -, -, -, hpila, -⟩ := correr_definirVariable hb hr
    have := hpila.2.2
    refine ⟨?_, trivial⟩
    show topeDe e.base M.pila + 5 ≤ e.base + e.tamStack
    omega
  | obtenerPosicionVariable c =>
    have hpaso : M.Paso e.base stringTrim G (.obtenerPosicionVariable c) v M :=
      (h.obtenerPosicion hr).1
    obtain ⟨-, p, hp, -⟩ := hpaso
    refine ⟨?_, trivial⟩
    show (M.pila.find _).isSome
    rw [hp]
    rfl
  | llamarSinRetorno etiq =>
    have := (correr_llamarSinRetorno hb hr).1.2.2
    refine ⟨?_, trivial⟩
    show topeDe e.base M.pila + 8 ≤ e.base + e.tamStack
    omega
  | llamarConRetorno etiq d =>
    have := (correr_llamarConRetorno hb hr).1.2.2
    refine ⟨?_, trivial⟩
    show topeDe e.base M.pila + 12 ≤ e.base + e.tamStack
    omega
  | obtenerValorCompartida x =>
    exact ⟨trivial, (obtenerValorCompartida_iff x s m).1 (Option.isSome_iff_exists.2 ⟨_, hr⟩)⟩
  | _ => exact ⟨trivial, trivial⟩

lemma normal_entornoNormal : entornoNormal.Normal := ⟨by decide, by decide⟩

lemma enSegmento_enPila : maquinaEnPila.EnSegmento entornoNormal := by
  unfold Maquina.EnSegmento
  decide

/-- A process with one variable has room for another one, and no variable `b` to look up; the kernel,
asked for a value, answers with one. -/
theorem primitiva_iff_enPila : ∃ s,
    Representa entornoNormal unGuion pcbEnPila maquinaEnPila (s, memoriaEnPila) ∧
      (∀ p ∈ [Primitiva.definirVariable 98, .obtenerPosicionVariable 98, .obtenerValorCompartida []],
        (correr entornoNormal (p.ejecutar id) s memoriaEnPila).isSome ↔
          maquinaEnPila.Cabe entornoNormal p ∧ p.Contesta entornoNormal memoriaEnPila) ∧
      maquinaEnPila.Cabe entornoNormal (.definirVariable 98) ∧
      ¬ maquinaEnPila.Cabe entornoNormal (.obtenerPosicionVariable 98) ∧
      (Primitiva.obtenerValorCompartida []).Contesta entornoNormal memoriaEnPila := by
  obtain ⟨s, h, -⟩ := representa_enPila
  refine ⟨s, h, fun p hp => ?_, ?_, ?_, .inr rfl⟩
  · simp only [List.mem_cons, List.not_mem_nil, or_false] at hp
    have hadm : maquinaEnPila.Admite entornoNormal.base p := by
      rcases hp with rfl | rfl | rfl <;> trivial
    exact h.primitiva_iff normal_entornoNormal enSegmento_enPila hadm
  · show topeDe 1000 maquinaEnPila.pila + 5 ≤ 1000 + 100
    decide
  · show ¬ (maquinaEnPila.pila.find (esNumeroPasarChar 98)).isSome
    decide

/-- A step for which there is room stays in the segment. -/
lemma Maquina.EnSegmento.paso {M' : Maquina} (hM : M.EnSegmento e) {p : Primitiva} {v : p.Valor}
    (hc : M.Cabe e p) (hp : M.Paso e.base stringTrim G p v M') : M'.EnSegmento e := by
  have hes : ∀ {P pc fin}, M'.Es P pc fin → topeDe e.base P ≤ e.base + e.tamStack →
      M'.EnSegmento e := by
    intro P pc fin h htope
    unfold Maquina.EnSegmento
    rw [h.1]
    exact htope
  cases p with
  | definirVariable c =>
    obtain ⟨-, w, h⟩ := hp
    refine hes h ?_
    have hc : topeDe e.base M.pila + 5 ≤ e.base + e.tamStack := hc
    rw [topeDe_define]
    exact hc
  | obtenerPosicionVariable c => exact hp.1 ▸ hM
  | dereferenciar d => exact hp.1 ▸ hM
  | asignar d v =>
    obtain ⟨p, -, h⟩ := hp
    exact hes h ((topeDe_set M.pila).le.trans hM)
  | obtenerValorCompartida x =>
    rcases hp with rfl | ⟨-, h⟩
    · exact hM
    · exact hes h hM
  | asignarValorCompartida x v =>
    rcases hp with ⟨rfl, -⟩ | ⟨-, h⟩
    · exact hM
    · exact hes h hM
  | irAlLabel etiq =>
    rcases hp with ⟨-, h⟩ | ⟨-, h⟩
    · exact hes h hM
    · exact hes h hM
  | llamarSinRetorno etiq =>
    refine hes hp ?_
    rw [topeDe_call]
    exact hc
  | llamarConRetorno etiq d =>
    obtain ⟨p, -, h⟩ := hp
    refine hes h ?_
    rw [topeDe_call]
    exact hc
  | finalizar =>
    rcases hp with ⟨-, h⟩ | ⟨b, r, xs, hpila, h⟩
    · exact hes h hM
    · unfold Maquina.EnSegmento at hM
      rw [hpila] at hM
      exact hes h ((topeDe_le_call b r xs).trans hM)
  | retornar v =>
    obtain ⟨b, pc, p, xs, hpila, h⟩ := hp
    unfold Maquina.EnSegmento at hM
    rw [hpila] at hM
    exact hes h ((topeDe_set b).le.trans ((topeDe_le_call b _ xs).trans hM))
  | imprimir x => exact hp ▸ hM
  | imprimirTexto x => exact hp ▸ hM
  | entradaSalida x t => exact hes hp hM
  | wait x =>
    rcases hp with rfl | h
    · exact hM
    · exact hes h hM
  | signal x => exact hp ▸ hM

/-! ### Lines and quanta -/

/-- A call that has a meaning and for which there is room. -/
def Maquina.Puede (e : Entorno) (M : Maquina) (p : Primitiva) : Prop :=
  M.Admite e.base p ∧ M.Cabe e p

/-- One that the kernel, if it is asked for a value, always answers with one. -/
def Maquina.Atendida (e : Entorno) (M : Maquina) (p : Primitiva) : Prop :=
  M.Puede e p ∧ ∀ m, p.Contesta e m

/-- The next line can be fetched and counted. -/
def Maquina.EnGuion (G : Guion) (M : Maquina) : Prop :=
  (G.linea M.pc).isSome ∧ EsInt32 (M.pc + 1)

/-- A line for which there is room is carried out. -/
lemma Representa.ejecutar_total (he : e.Normal) {a : Analisis} (h : Representa e G q M (s, m))
    (hM : M.EnSegmento e) (ha : M.LineaCumple e.base stringTrim G (Maquina.Atendida e) a) :
    ∃ s' m' M', correr e (Cpu.ejecutar stringTrim a) s m = some (((), s'), m') ∧
      Maquina.Linea e.base stringTrim G a M M' ∧ Representa e G q M' (s', m') ∧
      M'.EnSegmento e := by
  induction a generalizing M s m with
  | ret x => exact ⟨s, m, M, rfl, rfl, h, hM⟩
  | ask p sigue ih =>
    obtain ⟨⟨⟨hadm, hcabe⟩, hkernel⟩, hsigue⟩ := ha
    have hok : (correr e (p.ejecutar stringTrim) s m).isSome := h.progresa he hM hadm hcabe (hkernel m)
    obtain ⟨⟨⟨v, s₁⟩, m₁⟩, hv⟩ := Option.isSome_iff_exists.1 hok
    obtain ⟨M₁, hpaso, h₁⟩ := h.primitiva hadm hv
    obtain ⟨s', m', M', hr, hM', h', hseg⟩ :=
      ih v h₁ (hM.paso hcabe hpaso) (hsigue v M₁ hpaso)
    refine ⟨s', m', M', ?_, ⟨v, M₁, hpaso, hM'⟩, h', hseg⟩
    have hask : correr e (Cpu.ejecutar stringTrim (.ask p sigue)) s m =
        correr e (p.ejecutar stringTrim >>= fun v => Cpu.ejecutar stringTrim (sigue v)) s m := rfl
    rw [hask, correr_bind, hv, Option.bind_some, hr]

lemma otros_ok {base offset tam : ℤ} {g : MenComun → Prog α} {l : List Byte}
    (hbase : base ≠ e.base) (hl : e.otros base offset tam = some l) :
    correr e (pedirUmv solBytes base offset tam [] >>= g) s m
      = correr e (g ⟨tam, rSolBytes, l⟩) s m := by
  rw [correr_bind, correr_pedirUmv, Entorno.atender, if_neg hbase, if_pos rfl, hl]
  rfl

/-- The fetch of a line that there is. -/
lemma correr_solicitar_ok (hindice : s.pcb.dirIndiceCodigo ≠ e.base)
    (hcodigo : s.pcb.dirSegCodigo ≠ e.base) (hpc : EsInt32 (s.pcb.programCounter + 1))
    {l : List Byte} (hl : e.linea stringTrim s.pcb s.pcb.programCounter = some l) :
    correr e (solicitarProxSentenciaAUmv stringTrim) s m = some ((some l,
      s.conPcb { s.pcb with programCounter := s.pcb.programCounter + 1 }), m) := by
  unfold Entorno.linea at hl
  obtain ⟨entrada, hentrada, hl⟩ := Option.bind_eq_some_iff.1 hl
  obtain ⟨inst, hinst, hl⟩ := Option.bind_eq_some_iff.1 hl
  obtain ⟨⟨hlen, htam, hinstlen⟩, hl⟩ := Option.ite_none_right_eq_some.1 hl
  rw [solicitarProxSentenciaAUmv, get_bind, otros_ok hindice hentrada, correr_bind, correr_copia,
    if_pos hlen, Option.bind_some]
  dsimp only
  rw [otros_ok hcodigo hinst, if_neg (by omega), if_pos rfl, correr_bind, correr_copia,
    if_pos hinstlen, Option.bind_some, entero_ok hpc, correr_bind, correr_modificarPcb,
    Option.bind_some, correr_pure, ← hl]

/-- The fetch of the line that the machine is at. -/
lemma Representa.solicitar_ok (hg : ConGuion e stringTrim G q) (h : Representa e G q M (s, m))
    {l : List Byte} (hl : G.linea M.pc = some l) (hpc : EsInt32 (M.pc + 1)) :
    EsInt32 (s.pcb.programCounter + 1) ∧
      correr e (solicitarProxSentenciaAUmv stringTrim) s m = some ((some l,
        s.conPcb { s.pcb with programCounter := s.pcb.programCounter + 1 }), m) := by
  have hpcM : s.pcb.programCounter = M.pc := h.pc
  rw [← hpcM] at hpc
  exact ⟨hpc, correr_solicitar_ok (h.aparte hg).1 (h.aparte hg).2 hpc ((h.linea hg).trans hl)⟩

/-- **A script that stays within its segment runs its quantum to the end**, and does there what it
means. -/
theorem Representa.cicloQuantum_total {n : ℕ} (he : e.Normal) (hg : ConGuion e stringTrim G q)
    (h : Representa e G q M (s, m)) (hM : M.EnSegmento e)
    {analizadorLinea : Option (List Byte) → Analisis}
    (ha : M.TurnosCumplen e.base stringTrim G analizadorLinea (Maquina.Atendida e)
      (Maquina.EnGuion G) n) :
    ∃ s' m' M', correr e (Cpu.cicloQuantum stringTrim analizadorLinea n) s m = some (((), s'), m') ∧
      M.Turnos e.base stringTrim G analizadorLinea n M' ∧ Representa e G q M' (s', m') ∧
      M'.EnSegmento e := by
  induction n generalizing M s m with
  | zero => exact ⟨s, m, M, rfl, rfl, h, hM⟩
  | succ n ih =>
    have hfin : s.fueFinEjecucion = M.fin := h.fin
    cases hno : M.fin with
    | true =>
      refine ⟨s, m, M, ?_, .inl ⟨hno, rfl⟩, h, hM⟩
      rw [Cpu.cicloQuantum, get_bind, hfin, if_pos hno, correr_pure]
    | false =>
      obtain ⟨⟨hlinea, hpc⟩, hresto⟩ := ha hno
      obtain ⟨l, hl⟩ := Option.isSome_iff_exists.1 hlinea
      obtain ⟨hcumple, hresto⟩ := hresto l hl
      obtain ⟨hint, hsol⟩ := h.solicitar_ok hg hl hpc
      obtain ⟨s₂, m₂, M₂, hejec, hM₂, h₂, hseg⟩ := (h.avanza hint).ejecutar_total he hM hcumple
      obtain ⟨s', m', M', hr, hM', h', hseg'⟩ := ih h₂ hseg (hresto M₂ hM₂)
      refine ⟨s', m', M', ?_, .inr ⟨hno, l, M₂, hl, hM₂, hM'⟩, h', hseg'⟩
      rw [Cpu.cicloQuantum, get_bind, hfin, if_neg (by simp [hno]), correr_bind, hsol,
        Option.bind_some]
      have hanota : correr e (do
          hacer (.analizar (some l))
          Cpu.ejecutar stringTrim (analizadorLinea (some l))
          Cpu.cicloQuantum stringTrim analizadorLinea n)
          (s.conPcb { s.pcb with programCounter := s.pcb.programCounter + 1 }) m =
        correr e (Cpu.ejecutar stringTrim (analizadorLinea (some l)) >>= fun _ =>
          Cpu.cicloQuantum stringTrim analizadorLinea n)
          (s.conPcb { s.pcb with programCounter := s.pcb.programCounter + 1 }) m := rfl
      rw [hanota, correr_bind, hejec, Option.bind_some, hr]

/-! ### Dispatches -/

/-- A dispatch of a process whose stack lies in its segment. -/
lemma EnPcb.reanudar_ok (he : e.Normal) {pcb : Pcb} {cant : ℤ} (h : EnPcb e M pcb m)
    (hM : M.EnSegmento e) (haparte : pcb.dirIndiceEtiquetas ≠ e.base) {l : List Byte}
    (hl : e.otros pcb.dirIndiceEtiquetas 0 pcb.tamIndiceEtiquetas = some l) (s : Estado) :
    ∃ s', correr e (Cpu.reanudar ⟨pcbYQuantum, cant, pcb⟩) s m = some (((), s'), m) := by
  have hint := h.int32
  simp only [List.forall_mem_cons, List.not_mem_nil, false_implies, implies_true, and_true] at hint
  have htope : dirMarco e.base M.pila + 5 * M.pila.cells.length ≤ e.base + e.tamStack := hM
  have hleg : ∀ j < pcb.cantVarContActual.toNat, e.Legible pcb.dirContActual j := by
    rw [h.dir, h.cant, Int.toNat_natCast]
    exact he.legible (base_le_dirMarco _ _) htope
  have hreg : Regenerada e ⟨pcb, cant, .datos l, s.fueFinEjecucion, s.huboSegFault,
      dicc m.pila pcb.dirContActual pcb.cantVarContActual.toNat⟩ m := by
    refine ⟨h.base, hleg, rfl, ?_⟩
    simp only [List.forall_mem_cons, List.not_mem_nil, false_implies, implies_true, and_true]
    exact ⟨hint.2.2.2, hint.2.1, hint.2.2.1⟩
  exact ⟨_, hreg.reanudar haparte rfl hl rfl rfl⟩

/-- The process `p` has a script, and its labels can be read. -/
structure Ejecutable (e : Entorno) (stringTrim : List Byte → List Byte) (G : Guion) (p : Pcb) :
    Prop where
  normal : e.Normal
  guion : ConGuion e stringTrim G p
  etiquetas : (e.otros p.dirIndiceEtiquetas 0 p.tamIndiceEtiquetas).isSome

/-- **A dispatch is carried out**, whatever the CPU. -/
theorem Ejecutable.reanudar (hg : Ejecutable e stringTrim G q) {pcb : Pcb} {cant : ℤ}
    (h : EnPcb e M pcb m) (hM : M.EnSegmento e) (hproc : MismoProceso q pcb)
    (hfin : s.fueFinEjecucion = M.fin) (hfault : s.huboSegFault = false) :
    ∃ s', correr e (Cpu.reanudar ⟨pcbYQuantum, cant, pcb⟩) s m = some (((), s'), m) ∧
      Representa e G q M (s', m) ∧ s'.quantumMax = cant := by
  obtain ⟨etiquetas, hl⟩ := Option.isSome_iff_exists.1 hg.etiquetas
  rw [← hproc.dirIndiceEtiquetas, ← hproc.tamIndiceEtiquetas] at hl
  have haparte : pcb.dirIndiceEtiquetas ≠ e.base := by
    rw [hproc.dirIndiceEtiquetas]
    exact hg.guion.etiquetasAparte
  have hcorre : ∃ s', correr e (Cpu.reanudar ⟨pcbYQuantum, cant, pcb⟩) s m = some (((), s'), m) :=
    h.reanudar_ok hg.normal hM haparte hl s
  obtain ⟨s', hr⟩ := hcorre
  refine ⟨s', hr, EnPcb.reanudar ⟨pcbYQuantum, cant, pcb⟩ hg.guion h hproc hfin hfault hr, ?_⟩
  obtain ⟨-, -, -, l, rfl, -⟩ := correr_reanudar (by exact h.base) hr
  rfl

/-- The end of a dispatch leaves the pcb and the memory. -/
lemma correr_terminar (hs : s.etiquetas ≠ .liberado) :
    ∃ s', correr e (do
        if (← get).fueFinEjecucion then pure () else salirPorQuantum
        freeEtiquetas
        cambioPA 0
        modify fun s => (s.conFin false).conSegFault false) s m = some (((), s'), m) ∧
      s'.pcb = s.pcb := by
  have hresto : ∃ s', correr e (do
        freeEtiquetas
        cambioPA 0
        modify fun s => (s.conFin false).conSegFault false) s m = some (((), s'), m) ∧
      s'.pcb = s.pcb := by
    rw [freeEtiquetas, correr_bind, get_bind]
    cases hetiq : s.etiquetas with
    | nulo => exact ⟨_, rfl, rfl⟩
    | datos l => exact ⟨_, rfl, rfl⟩
    | liberado => exact absurd hetiq hs
  have hsalir : correr e salirPorQuantum s m = some (((), s), m) := rfl
  rw [get_bind]
  cases s.fueFinEjecucion with
  | true => exact hresto
  | false =>
    rw [if_neg Bool.false_ne_true, correr_bind, hsalir, Option.bind_some]
    exact hresto

/-- **A dispatch of a script that stays within its segment** runs to its end, and leaves in the pcb
and in the memory what the lines of its quantum mean. -/
theorem Ejecutable.despacho (hg : Ejecutable e stringTrim G q) {pcb : Pcb} {cant : ℤ}
    {analizadorLinea : Option (List Byte) → Analisis} (h : EnPcb e M pcb m) (hM : M.EnSegmento e)
    (hproc : MismoProceso q pcb) (hfin : s.fueFinEjecucion = M.fin) (hfault : s.huboSegFault = false)
    (ha : M.TurnosCumplen e.base stringTrim G analizadorLinea (Maquina.Atendida e)
      (Maquina.EnGuion G) cant.toNat) :
    ∃ s' m' M', correr e (Cpu.despacho stringTrim analizadorLinea ⟨pcbYQuantum, cant, pcb⟩) s m
        = some (((), s'), m') ∧
      M.Turnos e.base stringTrim G analizadorLinea cant.toNat M' ∧ EnPcb e M' s'.pcb m' ∧
      M'.EnSegmento e ∧ MismoProceso q s'.pcb := by
  have hcorre : ∃ s', correr e (Cpu.reanudar ⟨pcbYQuantum, cant, pcb⟩) s m = some (((), s'), m) ∧
      Representa e G q M (s', m) ∧ s'.quantumMax = cant := hg.reanudar h hM hproc hfin hfault
  obtain ⟨s₁, hr₁, h₁, hmax⟩ := hcorre
  obtain ⟨s₂, m₂, M', hr₂, hM', h₂, hseg⟩ := h₁.cicloQuantum_total hg.normal hg.guion hM ha
  obtain ⟨s', hr', hpcb⟩ := correr_terminar (e := e) (m := m₂) h₂.ejecuta.sinLiberar
  refine ⟨s', m₂, M', ?_, hM', ?_, hseg, ?_⟩
  · rw [despacho_reanudar, correr_bind, hr₁, Option.bind_some, get_bind]
    dsimp only
    rw [hmax, correr_bind, hr₂, Option.bind_some, hr']
  · rw [hpcb]
    exact h₂.enPcb
  · rw [hpcb]
    exact h₂.ejecuta.proceso

end Progreso

/-! ### A variable in each line -/

/-- A stack with room for `n` more variables runs `n` lines. -/
lemma cumplen_definePorLinea (n : ℕ) : ∀ M : Maquina,
    topeDe 1000 M.pila + 5 * n ≤ 1100 → -2 ^ 31 ≤ M.pc + 1 → M.pc + n < 2 ^ 31 →
      M.TurnosCumplen 1000 id unGuion definePorLinea (Maquina.Atendida entornoNormal)
        (Maquina.EnGuion unGuion) n := by
  induction n with
  | zero => exact fun _ _ _ _ => trivial
  | succ n ih =>
    intro M htope hpc hpc' _
    push_cast at htope hpc'
    refine ⟨⟨rfl, hpc, by omega⟩, fun l _ => ⟨⟨⟨⟨trivial, ?_⟩, fun _ => trivial⟩, fun d M₁ hd => ?_⟩, ?_⟩⟩
    · show topeDe 1000 M.pila + 5 ≤ 1000 + 100
      omega
    · exact ⟨⟨⟨⟨by decide, _, hd.apunta⟩, trivial⟩, fun _ => trivial⟩, fun _ _ _ => trivial⟩
    · rintro M₁ ⟨d, M₂, hd, -, M₃, ⟨p, -, hasig⟩, rfl⟩
      obtain ⟨-, v, hdef⟩ := hd
      refine ih M₁ ?_ ?_ ?_
      · rw [hasig.1, topeDe_set, hdef.1, topeDe_define]
        show topeDe 1000 M.pila + 5 + 5 * n ≤ 1100
        omega
      · rw [hasig.2.1, hdef.2.1]
        show -2 ^ 31 ≤ M.pc + 1 + 1
        omega
      · rw [hasig.2.1, hdef.2.1]
        show M.pc + 1 + n < 2 ^ 31
        omega

end Ansisop.Cpu
