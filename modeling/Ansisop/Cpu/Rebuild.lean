import Ansisop.Cpu.Calls

/-!
States whose dictionary is the one `regenerar_dicc_var` would build (`Regenerada`): every primitive
that works on the stack keeps them, as long as it writes no name of a variable of the frame
(`Primitiva.RetornaBien`).
-/

namespace Ansisop.Cpu

open Ansisop.Sockets Ansisop.Lib Ansisop.Lib.Memory
open TipoDatos hiding signal wait imprimirTexto cambioPA finQuantum finEjecucion

/-- The dictionary is the one of the frame the pcb describes, and can be built again. -/
structure Regenerada (e : Entorno) (s : Estado) (m : Memoria) : Prop where
  base : s.pcb.dirSegStack = e.base
  legible : ∀ j < s.pcb.cantVarContActual.toNat, e.Legible s.pcb.dirContActual j
  dic : s.dicVariables = dicc m.pila s.pcb.dirContActual s.pcb.cantVarContActual.toNat
  int32 : ∀ x ∈ [s.pcb.cantVarContActual, s.pcb.dirContActual, s.pcb.programCounter], EsInt32 x

/-- Nothing has changed but the frame, the line, the dictionary and the flag of the end. -/
structure Mantiene (s s' : Estado) : Prop where
  pcb : s'.pcb = { s.pcb with
    cantVarContActual := s'.pcb.cantVarContActual
    dirContActual := s'.pcb.dirContActual
    programCounter := s'.pcb.programCounter }
  quantumMax : s'.quantumMax = s.quantumMax
  etiquetas : s'.etiquetas = s.etiquetas
  huboSegFault : s'.huboSegFault = s.huboSegFault

lemma Mantiene.refl (s : Estado) : Mantiene s s := ⟨rfl, rfl, rfl, rfl⟩

/-- `d` is the address of a variable of the frame, or of one that ends below it. -/
def Definida (dir cant d : ℤ) : Prop := (∃ i < cant.toNat, d = dir + 5 * (i : ℤ)) ∨ d + 5 ≤ dir

instance (dir cant d : ℤ) : Decidable (Definida dir cant d) :=
  inferInstanceAs (Decidable ((∃ i < cant.toNat, d = dir + 5 * (i : ℤ)) ∨ d + 5 ≤ dir))

/-- A primitive of the stack is called, and what `asignar` and `dereferenciar` reach is the value of
a variable. -/
def Primitiva.DeVariable (s : Estado) : Primitiva → Prop
  | dereferenciar d | asignar d _ => Definida s.pcb.dirContActual s.pcb.cantVarContActual
      (dirValor s.pcb.dirSegStack d - 1)
  | definirVariable _ | obtenerPosicionVariable _ | irAlLabel _ | llamarSinRetorno _
  | llamarConRetorno _ _ | finalizar | retornar _ => True
  | _ => False

/-- No variable is added to a frame with a negative number of them. -/
def Primitiva.CuentaBien (s : Estado) : Primitiva → Prop
  | definirVariable _ => 0 ≤ s.pcb.cantVarContActual
  | _ => True

/-- What `retornar` writes is a variable of the frame it goes back to, or of one below. -/
def Primitiva.RetornaBien (s : Estado) (m : Memoria) : Primitiva → Prop
  | retornar _ =>
    Definida (m.entero (s.pcb.dirContActual - 12))
      ((s.pcb.dirContActual - m.entero (s.pcb.dirContActual - 12) - 12).tdiv 5)
      (m.entero (s.pcb.dirContActual - 4))
  | _ => True

instance (s : Estado) (p : Primitiva) : Decidable (p.DeVariable s) := by
  cases p <;> unfold Primitiva.DeVariable <;> infer_instance

instance (s : Estado) (p : Primitiva) : Decidable (p.CuentaBien s) := by
  cases p <;> unfold Primitiva.CuentaBien <;> infer_instance

instance (s : Estado) (m : Memoria) (p : Primitiva) : Decidable (p.RetornaBien s m) := by
  cases p <;> unfold Primitiva.RetornaBien <;> infer_instance

section Conservan

variable {e : Entorno} {stringTrim : List Byte → List Byte} {s s' : Estado} {m m' : Memoria}

lemma esInt32_entero (m : Memoria) (p : ℤ) : EsInt32 (m.entero p) := by
  unfold Memoria.entero intOfBytes int32
  exact ⟨Int.le_bmod (by decide), Int.bmod_lt (by decide)⟩

lemma esInt32_tdiv {x : ℤ} (h : EsInt32 x) : EsInt32 (x.tdiv 5) := by
  obtain ⟨h₁, h₂⟩ := h
  have habs := Int.natAbs_tdiv x 5
  change _ = x.natAbs / 5 at habs
  constructor <;> omega

/-- A value written to a defined variable leaves the dictionary. -/
lemma Definida.dicc {dir cant d : ℤ} (h : Definida dir cant d) (pila : ℤ → Byte) (v : ℤ) :
    dicc (memcpy pila (d + 1) (bytesOfInt v)) dir cant.toNat = dicc pila dir cant.toNat := by
  refine dicc_congr fun i hi => memcpy_valor _ _ _ ?_
  rcases h with ⟨j, hj, rfl⟩ | h
  · omega
  · omega

/-- The same state over a memory with the same bytes. -/
lemma Regenerada.igual (h : Regenerada e s m) (hm : m'.pila = m.pila) : Regenerada e s m' :=
  ⟨h.base, h.legible, hm ▸ h.dic, h.int32⟩

lemma Regenerada.conFin (h : Regenerada e s m) (b : Bool) : Regenerada e (s.conFin b) m :=
  ⟨h.base, h.legible, h.dic, h.int32⟩

lemma Regenerada.conPc (h : Regenerada e s m) {pc : ℤ} (hpc : EsInt32 pc) :
    Regenerada e (s.conPcb { s.pcb with programCounter := pc }) m := by
  refine ⟨h.base, h.legible, h.dic, ?_⟩
  have hint := h.int32
  simp only [List.forall_mem_cons] at hint ⊢
  exact ⟨hint.1, hint.2.1, hpc, hint.2.2.2⟩

lemma Regenerada.definir (h : Regenerada e s m) {c : Byte} {v : ℤ} (hc : 0 ≤ s.pcb.cantVarContActual)
    (hr : correr e (definirVariable c) s m = some ((v, s'), m')) :
    Mantiene s s' ∧ Regenerada e s' m' := by
  obtain ⟨resto, -, hpos, hoff, hpila, hcant, -, rfl, rfl⟩ := correr_definirVariable h.base hr
  have hint := h.int32
  obtain ⟨n, hn⟩ := Int.eq_ofNat_of_zero_le hc
  have htope : s.tope = s.pcb.dirContActual + 5 * (n : ℤ) := by
    unfold Estado.tope
    rw [hn]
    ring
  have hsucc : (s.pcb.cantVarContActual + 1).toNat = n + 1 := by omega
  have hnat : s.pcb.cantVarContActual.toNat = n := by omega
  have hleg := h.legible
  have hdic := h.dic
  rw [hnat] at hleg hdic
  refine ⟨⟨rfl, rfl, rfl, rfl⟩, h.base, ?_, ?_, ?_⟩
  · dsimp only
    rw [hsucc]
    intro j hj
    rcases Nat.lt_succ_iff_lt_or_eq.1 hj with hj | rfl
    · exact hleg j hj
    · have h₁ : s.pcb.dirContActual - e.base + (j : ℤ) * 5 = s.tope - e.base := by
        rw [htope]
        ring
      have h₂ : s.pcb.dirContActual + (j : ℤ) * 5 = s.tope := by
        rw [htope]
        ring
      unfold Entorno.Legible
      rw [h₁, h₂]
      exact ⟨hoff, ⟨hpila.1, by decide, by have := hpila.2.2; omega⟩, hpos⟩
  · dsimp only
    rw [hsucc, Cpu.dicc, ← htope, memcpy_cons_self, esNumeroPasarChar_idem, hdic,
      dicc_congr fun i hi => memcpy_out _ _ _ (.inl (by omega))]
  · simp only [List.forall_mem_cons] at hint ⊢
    exact ⟨hcant, hint.2⟩

lemma Regenerada.asignar (h : Regenerada e s m) {d v : ℤ}
    (hd : Definida s.pcb.dirContActual s.pcb.cantVarContActual (dirValor s.pcb.dirSegStack d - 1))
    (hr : correr e (asignar d v) s m = some (((), s'), m')) : Mantiene s s' ∧ Regenerada e s' m' := by
  obtain ⟨rfl, rfl | ⟨-, rfl⟩⟩ := correr_asignar h.base hr
  · exact ⟨.refl _, h⟩
  · have hdic := hd.dicc m.pila v
    rw [h.base, sub_add_cancel] at hdic
    exact ⟨.refl _, h.base, h.legible, h.dic.trans hdic.symm, h.int32⟩

/-- A new frame has no variables. -/
lemma Regenerada.enFuncion (h : Regenerada e s m) {dir pc : ℤ} (hdir : EsInt32 dir)
    (hpc : EsInt32 pc) (m' : Memoria) :
    Mantiene s (s.enFuncion dir pc) ∧ Regenerada e (s.enFuncion dir pc) m' := by
  refine ⟨⟨rfl, rfl, rfl, rfl⟩, h.base, fun j hj => absurd hj (Nat.not_lt_zero j), rfl, ?_⟩
  simp only [List.forall_mem_cons]
  exact ⟨show EsInt32 0 by decide, hdir, hpc, by simp⟩

/-- The frame that a return goes to is built from the bytes. -/
lemma Regenerada.enLlamador (h : Regenerada e s m) {dir cant pc : ℤ} (hdir : EsInt32 dir)
    (hcant : EsInt32 cant) (hpc : EsInt32 pc) (hleg : ∀ j < cant.toNat, e.Legible dir j)
    (hdic : dicc m'.pila dir cant.toNat = dicc m.pila dir cant.toNat) :
    Mantiene s (s.enLlamador m dir cant pc) ∧ Regenerada e (s.enLlamador m dir cant pc) m' := by
  refine ⟨⟨rfl, rfl, rfl, rfl⟩, h.base, hleg, hdic.symm, ?_⟩
  simp only [List.forall_mem_cons]
  exact ⟨hcant, hdir, hpc, by simp⟩

/-- **A primitive keeps the dictionary that of the frame.** -/
theorem Regenerada.primitiva (h : Regenerada e s m) {p : Primitiva} {v : p.Valor}
    (hp : p.DeVariable s) (hc : p.CuentaBien s) (hret : p.RetornaBien s m)
    (hr : correr e (p.ejecutar stringTrim) s m = some ((v, s'), m')) :
    Mantiene s s' ∧ Regenerada e s' m' := by
  cases p with
  | definirVariable c => exact h.definir hc hr
  | obtenerPosicionVariable c =>
    obtain ⟨-, rfl, rfl⟩ := correr_obtenerPosicionVariable hr
    exact ⟨.refl _, h⟩
  | dereferenciar d =>
    obtain ⟨-, -, rfl, rfl⟩ := correr_dereferenciar h.base hr
    exact ⟨.refl _, h.igual rfl⟩
  | asignar d v => exact h.asignar hp hr
  | irAlLabel etiq =>
    obtain ⟨rfl, rfl | ⟨pc, hpc, rfl⟩⟩ := correr_irAlLabel hr
    · exact ⟨⟨rfl, rfl, rfl, rfl⟩, h.conFin true⟩
    · exact ⟨⟨rfl, rfl, rfl, rfl⟩, h.conPc hpc⟩
  | llamarSinRetorno etiq =>
    obtain ⟨-, hdir, rfl, rfl⟩ := correr_llamarSinRetorno h.base hr
    exact h.enFuncion hdir (e.buscar_int32 _ _ _) _
  | llamarConRetorno etiq d =>
    obtain ⟨-, hdir, rfl, rfl⟩ := correr_llamarConRetorno h.base hr
    exact h.enFuncion hdir (e.buscar_int32 _ _ _) _
  | finalizar =>
    by_cases hf : s.pcb.dirContActual = e.base
    · obtain ⟨rfl, hm⟩ := correr_finalizar_main h.base hf hr
      exact ⟨⟨rfl, rfl, rfl, rfl⟩, (h.conFin true).igual hm⟩
    · obtain ⟨dir, cant, hdir, hcant, hint, hleg, rfl, rfl⟩ := correr_finalizar h.base hf hr
      refine h.enLlamador ?_ ?_ (esInt32_entero _ _) hleg rfl
      · rw [hdir]
        exact esInt32_entero _ _
      · rw [hcant]
        exact esInt32_tdiv hint
  | retornar v =>
    obtain ⟨dir, cant, d, hdir, hcant, hint, hd, hleg, -, rfl, rfl⟩ := correr_retornar h.base hr
    have hdef : Definida dir cant d := by
      rw [hcant, hd, hdir]
      exact hret
    refine h.enLlamador ?_ ?_ (esInt32_entero _ _) hleg (hdef.dicc _ _)
    · rw [hdir]
      exact esInt32_entero _ _
    · rw [hcant]
      exact esInt32_tdiv hint
  | obtenerValorCompartida x => exact absurd hp id
  | asignarValorCompartida x v => exact absurd hp id
  | imprimir v => exact absurd hp id
  | imprimirTexto x => exact absurd hp id
  | entradaSalida x t => exact absurd hp id
  | wait x => exact absurd hp id
  | signal x => exact absurd hp id

/-- A read of any segment changes nothing. -/
lemma leer_bind {α : Type} {base offset tam : ℤ} {g : MenComun → Prog α} {r : (α × Estado) × Memoria}
    (h : correr e (Prog.pedirUmv solBytes base offset tam [] >>= g) s m = some r) :
    ∃ l, correr e (g ⟨tam, rSolBytes, l⟩) s m = some r := by
  rw [correr_bind, correr_pedirUmv, Entorno.atender] at h
  by_cases hbase : base = e.base
  · rw [if_pos hbase] at h
    split at h
    · rw [if_pos rfl, Option.map_some, Option.bind_some] at h
      exact ⟨_, h⟩
    · exact absurd h (by simp)
  · rw [if_neg hbase, if_pos rfl, Option.map_map, Option.bind_eq_some_iff] at h
    obtain ⟨r, hr, h⟩ := h
    obtain ⟨l, -, rfl⟩ := Option.map_eq_some_iff.1 hr
    exact ⟨l, h⟩

/-- The fetch of an instruction counts it. -/
lemma correr_solicitarProxSentenciaAUmv {v : Option (List Byte)}
    (h : correr e (solicitarProxSentenciaAUmv stringTrim) s m = some ((v, s'), m')) :
    EsInt32 (s.pcb.programCounter + 1) ∧ m' = m ∧
      s' = s.conPcb { s.pcb with programCounter := s.pcb.programCounter + 1 } := by
  rw [solicitarProxSentenciaAUmv, get_bind] at h
  obtain ⟨l₁, h⟩ := leer_bind h
  rw [correr_bind, correr_copia] at h
  split at h
  · rw [Option.bind_some] at h
    dsimp only at h
    obtain ⟨l₂, h⟩ := leer_bind h
    dsimp only at h
    split at h
    · exact absurd h (by simp)
    · rw [if_pos rfl, correr_bind, correr_copia] at h
      split at h
      · rw [Option.bind_some] at h
        dsimp only at h
        obtain ⟨hpc, h⟩ := entero_bind h
        rw [correr_bind, correr_modificarPcb, Option.bind_some, correr_pure] at h
        obtain ⟨⟨-, rfl⟩, rfl⟩ := by simpa only [Option.some.injEq, Prod.mk.injEq] using h
        exact ⟨hpc, rfl, rfl⟩
      · exact absurd h (by simp)
  · exact absurd h (by simp)

/-- **A CPU that is sent the pcb has the same state**, whatever it ran before. -/
theorem Regenerada.reanudar (h : Regenerada e s m) {l : List Byte}
    (hbase : s.pcb.dirIndiceEtiquetas ≠ e.base) (hetiq : s.etiquetas = .datos l)
    (hotros : e.otros s.pcb.dirIndiceEtiquetas 0 s.pcb.tamIndiceEtiquetas = some l) {s₀ : Estado}
    (hfin : s₀.fueFinEjecucion = s.fueFinEjecucion) (hfault : s₀.huboSegFault = s.huboSegFault) :
    correr e (reanudar ⟨pcbYQuantum, s.quantumMax, s.pcb⟩) s₀ m = some (((), s), m) := by
  have htraer : ∀ s₁ : Estado, s₁.pcb = s.pcb →
      correr e traerIndiceEtiquetas s₁ m = some (((), s₁.conEtiquetas (.datos l)), m) := by
    intro s₁ hs₁
    rw [traerIndiceEtiquetas, get_bind, hs₁, correr_bind, correr_pedirUmv, Entorno.atender,
      if_neg hbase, if_pos rfl, hotros]
    rfl
  rw [Cpu.reanudar, tomarPcb, if_pos rfl, correr_bind, correr_modify, Option.bind_some, get_bind,
    correr_bind, correr_cambioPA, Option.bind_some, correr_bind]
  dsimp only
  rw [htraer { s₀ with pcb := s.pcb, quantumMax := s.quantumMax } rfl, Option.bind_some]
  have hs : { s₀ with
      pcb := s.pcb
      quantumMax := s.quantumMax
      etiquetas := .datos l
      dicVariables := dicc m.pila s.pcb.dirContActual s.pcb.cantVarContActual.toNat } = s := by
    rw [← h.dic, ← hetiq, hfin, hfault]
  exact (correr_regenerarDiccVar (by exact h.base) _).2 ⟨h.legible, by rw [← hs]; rfl⟩

end Conservan

end Ansisop.Cpu
