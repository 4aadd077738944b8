import Ansisop.Cpu.Semantics

/-!
The CPU as an interpreter of scripts. The meaning of a line is that of the calls the parser makes for
it, one after the other; the meaning of a quantum is that of so many lines, each taken from the place
of the code where the machine is (`Maquina.Turnos`). The loop of `main` does this with the bytes
(`Representa.turnos`), and a dispatch puts the machine that the pcb and the stack segment hold
on the CPU (`EnPcb.reanudar`).
-/

namespace Ansisop.Cpu

open Ansisop.Sockets Ansisop.Lib Ansisop.Lib.Activation Prog
open TipoDatos hiding signal wait imprimirTexto cambioPA finQuantum finEjecucion

/-! ### Lines and quanta of the machine -/

section Semantica

variable (base : ℤ) (stringTrim : List Byte → List Byte) (G : Guion)
  (analizadorLinea : Option (List Byte) → Analisis)

namespace Maquina

/-- The machine at the next line. -/
def avanza (M : Maquina) : Maquina := ⟨M.pila, M.pc + 1, M.fin, M.enOrden⟩

/-- **A line**: the calls that the parser makes, each after the values of those before it. -/
def Linea : Analisis → Maquina → Maquina → Prop
  | .ret _, M, M' => M' = M
  | .ask p sigue, M, M' => ∃ v M₁, M.Paso base stringTrim G p v M₁ ∧ Linea (sigue v) M₁ M'

/-- Each call of a line meets a condition, whatever is left open in the calls before it. -/
def LineaCumple (C : Maquina → Primitiva → Prop) : Analisis → Maquina → Prop
  | .ret _, _ => True
  | .ask p sigue, M => C M p ∧
    ∀ v M₁, M.Paso base stringTrim G p v M₁ → LineaCumple C (sigue v) M₁

/-- **A quantum of `n` lines**. A process that leaves the CPU leaves it at the end of a line. -/
def Turnos : ℕ → Maquina → Maquina → Prop
  | 0, M, M' => M' = M
  | n + 1, M, M' => M.fin = true ∧ M' = M ∨
    M.fin = false ∧ ∃ l M₁, G.linea M.pc = some l ∧
      Linea base stringTrim G (analizadorLinea (some l)) M.avanza M₁ ∧ Turnos n M₁ M'

/-- Each call of a quantum meets `C`, and the machine meets `D` at the start of each line. -/
def TurnosCumplen (C : Maquina → Primitiva → Prop) (D : Maquina → Prop) : ℕ → Maquina → Prop
  | 0, _ => True
  | n + 1, M => M.fin = false → D M ∧ ∀ l, G.linea M.pc = some l →
    LineaCumple base stringTrim G C (analizadorLinea (some l)) M.avanza ∧
      ∀ M₁, Linea base stringTrim G (analizadorLinea (some l)) M.avanza M₁ → TurnosCumplen C D n M₁

/-- The lines of a quantum all have a meaning. -/
abbrev TurnosAdmitidos : ℕ → Maquina → Prop :=
  TurnosCumplen base stringTrim G analizadorLinea (Admite base) fun _ => True

variable {base stringTrim G analizadorLinea}

/-- A process that has left the CPU makes no turn. -/
lemma turnos_fin {n : ℕ} {M M' : Maquina} (hM : M.fin = true)
    (h : M.Turnos base stringTrim G analizadorLinea n M') : M' = M := by
  cases n with
  | zero => exact h
  | succ n =>
    rcases h with ⟨-, h⟩ | ⟨hno, -⟩
    · exact h
    · exact absurd (hno.symm.trans hM) Bool.false_ne_true

lemma turnos_of_fin {n : ℕ} {M : Maquina} (hM : M.fin = true) :
    M.Turnos base stringTrim G analizadorLinea n M := by
  cases n with
  | zero => rfl
  | succ n => exact .inl ⟨hM, rfl⟩

/-- **Quanta add up**: what runs `n` lines and then `k` lines runs `n + k` lines. -/
lemma turnos_add {n k : ℕ} {M M₁ M' : Maquina} (h : M.Turnos base stringTrim G analizadorLinea n M₁)
    (h' : M₁.Turnos base stringTrim G analizadorLinea k M') :
    M.Turnos base stringTrim G analizadorLinea (n + k) M' := by
  induction n generalizing M with
  | zero =>
    obtain rfl : M₁ = M := h
    rwa [Nat.zero_add]
  | succ n ih =>
    rw [Nat.succ_add]
    rcases h with ⟨hfin, rfl⟩ | ⟨hno, l, M₂, hl, hlinea, hn⟩
    · exact .inl ⟨hfin, turnos_fin hfin h'⟩
    · exact .inr ⟨hno, l, M₂, hl, hlinea, ih hn⟩

section Cumplen

variable {C : Maquina → Primitiva → Prop} {D : Maquina → Prop} {n k : ℕ} {M M₁ : Maquina}

/-- What holds for a number of lines holds for those that are left. -/
lemma TurnosCumplen.resto (h : M.TurnosCumplen base stringTrim G analizadorLinea C D (n + k))
    (hn : M.Turnos base stringTrim G analizadorLinea n M₁) :
    M₁.TurnosCumplen base stringTrim G analizadorLinea C D k := by
  induction n generalizing M with
  | zero =>
    obtain rfl : M₁ = M := hn
    rwa [Nat.zero_add] at h
  | succ n ih =>
    rw [Nat.succ_add] at h
    rcases hn with ⟨hfin, rfl⟩ | ⟨hno, l, M₂, hl, hlinea, hn⟩
    · cases k with
      | zero => trivial
      | succ k => exact fun hno => absurd (hno.symm.trans hfin) Bool.false_ne_true
    · exact ih (((h hno).2 l hl).2 M₂ hlinea) hn

/-- It holds for fewer lines too. -/
lemma TurnosCumplen.menos (h : M.TurnosCumplen base stringTrim G analizadorLinea C D (n + k)) :
    M.TurnosCumplen base stringTrim G analizadorLinea C D n := by
  induction n generalizing M with
  | zero => trivial
  | succ n ih =>
    rw [Nat.succ_add] at h
    intro hno
    refine ⟨(h hno).1, fun l hl => ?_⟩
    obtain ⟨hlinea, hresto⟩ := (h hno).2 l hl
    exact ⟨hlinea, fun M₁ hM₁ => ih (hresto M₁ hM₁)⟩

end Cumplen

end Maquina

end Semantica

/-! ### Lines and quanta of the CPU -/

section Cpu

variable {e : Entorno} {stringTrim : List Byte → List Byte} {G : Guion} {q : Pcb}
  {analizadorLinea : Option (List Byte) → Analisis} {M : Maquina} {s s' : Estado} {m m' : Memoria}

/-- A line that meets no fault. -/
theorem Representa.ejecutar {a : Analisis} (h : Representa e G q M (s, m))
    (ha : M.LineaCumple e.base stringTrim G (Maquina.Admite e.base) a)
    (hr : correr e (ejecutar stringTrim a) s m = some (((), s'), m')) :
    ∃ M', Maquina.Linea e.base stringTrim G a M M' ∧ Representa e G q M' (s', m') := by
  induction a generalizing M s m with
  | ret x =>
    obtain ⟨⟨-, rfl⟩, rfl⟩ := by
      simpa only [Cpu.ejecutar, correr_pure, Option.some.injEq, Prod.mk.injEq] using hr
    exact ⟨M, rfl, h⟩
  | ask p sigue ih =>
    obtain ⟨hp, hsigue⟩ := ha
    obtain ⟨v, s₁, m₁, hv, hr⟩ := correr_bind_some (p := p.ejecutar stringTrim) hr
    obtain ⟨M₁, hpaso, h₁⟩ := h.primitiva hp hv
    obtain ⟨M', hM', h'⟩ := ih v h₁ (hsigue v M₁ hpaso) hr
    exact ⟨M', ⟨v, M₁, hpaso, hM'⟩, h'⟩

/-- A read of another segment than the stack. -/
lemma otros_bind {α : Type} {base offset tam : ℤ} {g : MenComun → Prog α}
    {r : (α × Estado) × Memoria} (hbase : base ≠ e.base)
    (h : correr e (Prog.pedirUmv solBytes base offset tam [] >>= g) s m = some r) :
    ∃ l, e.otros base offset tam = some l ∧ correr e (g ⟨tam, rSolBytes, l⟩) s m = some r := by
  rw [correr_bind, correr_pedirUmv, Entorno.atender, if_neg hbase, if_pos rfl, Option.map_map,
    Option.bind_eq_some_iff] at h
  obtain ⟨r, hr, h⟩ := h
  obtain ⟨l, hl, rfl⟩ := Option.map_eq_some_iff.1 hr
  exact ⟨l, hl, h⟩

lemma take_bind {α : Type} {l : List Byte} {n : ℕ} {f : List Byte → Prog α}
    {r : (α × Estado) × Memoria} (h : correr e (Prog.memcpy l n >>= f) s m = some r) :
    n ≤ l.length ∧ correr e (f (l.take n)) s m = some r := by
  rw [correr_bind, correr_copia, bind_guard, Option.ite_none_right_eq_some] at h
  exact h

/-- The fetch of a line takes it from the place of the code where the CPU is. -/
lemma correr_solicitar_linea {v : Option (List Byte)} (hindice : s.pcb.dirIndiceCodigo ≠ e.base)
    (hcodigo : s.pcb.dirSegCodigo ≠ e.base)
    (h : correr e (solicitarProxSentenciaAUmv stringTrim) s m = some ((v, s'), m')) :
    ∃ l, v = some l ∧ e.linea stringTrim s.pcb s.pcb.programCounter = some l := by
  rw [solicitarProxSentenciaAUmv, get_bind] at h
  obtain ⟨entrada, hentrada, h⟩ := otros_bind hindice h
  obtain ⟨hlen, h⟩ := take_bind h
  dsimp only at h
  obtain ⟨inst, hinst, h⟩ := otros_bind hcodigo h
  split at h
  · exact absurd h (by simp)
  · rw [if_pos rfl] at h
    obtain ⟨htam, h⟩ := take_bind h
    obtain ⟨-, h⟩ := entero_bind h
    rw [correr_bind, correr_modificarPcb, Option.bind_some, correr_pure] at h
    refine ⟨_, (Prod.mk.inj (Prod.mk.inj (Option.some.inj h)).1).1.symm, ?_⟩
    unfold Entorno.linea
    rw [hentrada, Option.bind_eq_bind, Option.bind_some]
    dsimp only
    rw [hinst, Option.bind_some, if_pos ⟨hlen, by omega, htam⟩]

/-- The code is where the stack is not. -/
lemma Representa.aparte (hg : ConGuion e stringTrim G q) (h : Representa e G q M (s, m)) :
    s.pcb.dirIndiceCodigo ≠ e.base ∧ s.pcb.dirSegCodigo ≠ e.base := by
  have hproc : MismoProceso q s.pcb := h.ejecuta.proceso
  rw [hproc.dirIndiceCodigo, hproc.dirSegCodigo]
  exact ⟨hg.indiceAparte, hg.codigoAparte⟩

/-- The line that the CPU is at is the one the machine is at. -/
lemma Representa.linea (hg : ConGuion e stringTrim G q) (h : Representa e G q M (s, m)) :
    e.linea stringTrim s.pcb s.pcb.programCounter = G.linea M.pc := by
  have hproc : MismoProceso q s.pcb := h.ejecuta.proceso
  have hpc : s.pcb.programCounter = M.pc := h.pc
  rw [← hg.linea, hpc]
  unfold Entorno.linea
  rw [hproc.dirIndiceCodigo, hproc.dirSegCodigo]

/-- The fetch counts the line. -/
lemma Representa.avanza (h : Representa e G q M (s, m)) (hpc : EsInt32 (s.pcb.programCounter + 1)) :
    Representa e G q M.avanza
      (s.conPcb { s.pcb with programCounter := s.pcb.programCounter + 1 }, m) :=
  ⟨⟨h.marco.base, h.marco.dir, h.marco.cant, h.marco.dic, h.marco.abajo, h.marco.base_int32,
    h.marco.dir_int32, hpc, h.marco.alto⟩, h.bytes, h.cant, congrArg (· + 1) h.pc, h.fin, h.sinFalta,
    h.ejecuta.mantiene ⟨rfl, rfl, rfl, rfl⟩⟩

/-- **The loop over the quantum.** -/
theorem Representa.turnos {n : ℕ} (hg : ConGuion e stringTrim G q)
    (h : Representa e G q M (s, m))
    (ha : M.TurnosAdmitidos e.base stringTrim G analizadorLinea n)
    (hr : correr e (cicloQuantum stringTrim analizadorLinea n) s m = some (((), s'), m')) :
    ∃ M', M.Turnos e.base stringTrim G analizadorLinea n M' ∧
      Representa e G q M' (s', m') := by
  induction n generalizing M s m with
  | zero =>
    obtain ⟨⟨-, rfl⟩, rfl⟩ := by
      simpa only [Cpu.cicloQuantum, correr_pure, Option.some.injEq, Prod.mk.injEq] using hr
    exact ⟨M, rfl, h⟩
  | succ n ih =>
    rw [Cpu.cicloQuantum, get_bind] at hr
    have hfin : s.fueFinEjecucion = M.fin := h.fin
    by_cases hM : M.fin = true
    · rw [hfin, if_pos hM, correr_pure] at hr
      obtain ⟨⟨-, rfl⟩, rfl⟩ := by simpa only [Option.some.injEq, Prod.mk.injEq] using hr
      exact ⟨M, .inl ⟨hM, rfl⟩, h⟩
    · rw [hfin, if_neg hM] at hr
      obtain ⟨v, s₁, m₁, hsol, hr⟩ := correr_bind_some hr
      obtain ⟨l, rfl, hl⟩ := correr_solicitar_linea (h.aparte hg).1 (h.aparte hg).2 hsol
      obtain ⟨hpc, rfl, rfl⟩ := correr_solicitarProxSentenciaAUmv hsol
      rw [h.linea hg] at hl
      obtain ⟨_, s₂, m₂, hlinea, hr⟩ := correr_bind_some
        (p := Cpu.ejecutar stringTrim (analizadorLinea (some l))) hr
      have hM : M.fin = false := Bool.eq_false_iff.2 hM
      obtain ⟨hadm, hresto⟩ := (ha hM).2 l hl
      obtain ⟨M₂, hM₂, h₂⟩ := (h.avanza hpc).ejecutar hadm hlinea
      obtain ⟨M', hM', h'⟩ := ih h₂ (hresto M₂ hM₂) hr
      exact ⟨M', .inr ⟨hM, l, M₂, hl, hM₂, hM'⟩, h'⟩

/-! ### Dispatches -/

/-- The pcb and the stack segment hold the machine, which is not on a CPU. -/
structure EnPcb (e : Entorno) (M : Maquina) (pcb : Pcb) (m : Memoria) : Prop where
  base : pcb.dirSegStack = e.base
  dir : pcb.dirContActual = dirMarco e.base M.pila
  cant : pcb.cantVarContActual = M.pila.cells.length
  pc : pcb.programCounter = M.pc
  bytes : Guarda e.base m M.pila
  int32 : ∀ x ∈ [pcb.dirSegStack, pcb.dirContActual, pcb.programCounter, pcb.cantVarContActual],
    EsInt32 x

/-- What a CPU sends back. -/
lemma Representa.enPcb (h : Representa e G q M (s, m)) : EnPcb e M s.pcb m := by
  refine ⟨h.marco.base, h.marco.dir, h.marco.cant, h.pc, h.bytes, ?_⟩
  simp only [List.forall_mem_cons, List.not_mem_nil, false_implies, implies_true, and_true]
  refine ⟨?_, ?_, h.marco.pc_int32, h.cant⟩
  · rw [show s.pcb.dirSegStack = e.base from h.marco.base]
    exact h.marco.base_int32
  · rw [show s.pcb.dirContActual = _ from h.marco.dir]
    exact h.marco.dir_int32

/-- **A dispatch puts the machine on the CPU**, whatever the CPU has run before. -/
theorem EnPcb.reanudar (men : MenQuantumPcb) (hg : ConGuion e stringTrim G q)
    (h : EnPcb e M men.pcb m) (hproc : MismoProceso q men.pcb) (hfin : s.fueFinEjecucion = M.fin)
    (hfault : s.huboSegFault = false)
    (hr : correr e (reanudar men) s m = some (((), s'), m')) : Representa e G q M (s', m') := by
  have hint := h.int32
  simp only [List.forall_mem_cons, List.not_mem_nil, false_implies, implies_true, and_true] at hint
  obtain ⟨hbase, hdir, hpc, hcant⟩ := hint
  have hvalido : PcbValido e men.pcb := by
    refine ⟨h.base, ?_, ?_⟩
    · rw [h.cant]
      exact Int.natCast_nonneg _
    · simp only [List.forall_mem_cons, List.not_mem_nil, false_implies, implies_true, and_true]
      exact ⟨hbase, hdir, hpc⟩
  have hmarco := enMarco_reanudar (w := (s', m')) hvalido (h.dir ▸ base_le_dirMarco _ _) hr
  rw [h.dir, h.cant, Int.toNat_natCast] at hmarco
  obtain ⟨-, rfl, -, l, hs, hl⟩ := correr_reanudar h.base hr
  have hetiq : men.pcb.dirIndiceEtiquetas ≠ e.base := by
    rw [hproc.dirIndiceEtiquetas]
    exact hg.etiquetasAparte
  have hl := hl hetiq
  rw [hproc.dirIndiceEtiquetas, hproc.tamIndiceEtiquetas] at hl
  refine ⟨hmarco, h.bytes, ?_, ?_, ?_, ?_, ?_, fun nombre => ?_, ?_⟩
  · rw [hs]
    exact hcant
  · rw [hs]
    exact h.pc
  · rw [hs]
    exact hfin
  · rw [hs]
    exact hfault
  · rw [hs]
    exact hproc
  · rw [hs]
    exact hg.etiqueta l hl nombre
  · rw [hs]
    nofun

end Cpu

/-! ### A variable in each line -/

/-- What `definirVariable` gives back is the address of the new variable. -/
lemma Maquina.Paso.apunta {base : ℤ} {stringTrim : List Byte → List Byte} {G : Guion}
    {M M' : Maquina} {c : Byte} {d : ℤ} (h : M.Paso base stringTrim G (.definirVariable c) d M') :
    M'.Apunta base d ⟨M.pila.depth, M.pila.cells.length⟩ := by
  obtain ⟨rfl, v, hpila, -, -⟩ := h
  unfold Maquina.Apunta
  rw [hpila]
  refine ⟨?_, ?_⟩
  · have hcell := Stack.cell?_top (M.pila.define (esNumeroPasarChar c) v) M.pila.cells.length
    rw [Stack.depth_define, Stack.cells_define, List.getElem?_concat_length] at hcell
    rw [Stack.Live, hcell]
    rfl
  · rw [dirDe_define, dirDe_top]
    rfl

/-- `unEntorno` with a kernel whose answers are strings. -/
def entornoNormal : Entorno := { unEntorno with kernel := fun _ => ⟨1, 0, [0]⟩ }

/-- The script in its segments. -/
def unGuion : Guion := ⟨fun _ => some [65], fun _ => 3⟩

/-- Each line defines a variable and assigns to it. -/
def definePorLinea : Option (List Byte) → Analisis := fun _ =>
  .ask (.definirVariable 98) fun d => .ask (.asignar d 5) fun _ => .ret ()

/-- The process of `pcbEnPila`, with the value of its variable in `memoriaEnPila`. -/
def maquinaEnPila : Maquina := ⟨.bottom [(97, 1633771873)], 5, false, trivial⟩

/-- A stack where nobody has written. -/
def memoriaEnPila : Memoria := ⟨fun _ => 97, 0⟩

lemma conGuion_normal : ConGuion entornoNormal id unGuion pcbEnPila := by
  refine ⟨by decide, by decide, by decide, fun pc => ?_, fun _ _ _ => rfl⟩
  unfold Entorno.linea
  generalize int32 (pc * 8) = offset
  have hlinea : unGuion.linea pc = some [65] := rfl
  have hentrada : entornoNormal.otros pcbEnPila.dirIndiceCodigo offset 8 =
      some [0, 0, 0, 0, 1, 0, 0, 0] := rfl
  rw [hlinea, hentrada, Option.bind_eq_bind, Option.bind_some]
  decide

lemma enPcb_enPila : EnPcb entornoNormal maquinaEnPila pcbEnPila memoriaEnPila := by
  refine ⟨rfl, rfl, rfl, rfl, fun i n v hi => ?_, by decide⟩
  cases i with
  | zero =>
    obtain ⟨rfl, rfl⟩ := Prod.mk.inj (Option.some.inj hi)
    exact ⟨by decide, by decide⟩
  | succ i => exact absurd hi (by simp)

/-- A CPU to which the process has been dispatched. -/
lemma representa_enPila :
    ∃ s, Representa entornoNormal unGuion pcbEnPila maquinaEnPila (s, memoriaEnPila) ∧
      correr entornoNormal (reanudar ⟨pcbYQuantum, 2, pcbEnPila⟩)
        ⟨pcbEnPila, 0, .nulo, false, false, fun _ => none⟩ memoriaEnPila =
          some (((), s), memoriaEnPila) :=
  ⟨_, enPcb_enPila.reanudar ⟨pcbYQuantum, 2, pcbEnPila⟩ conGuion_normal
    (MismoProceso.refl _) rfl rfl rfl, rfl⟩

lemma admitidos_definePorLinea (n : ℕ) :
    ∀ M : Maquina, M.TurnosAdmitidos 1000 id unGuion definePorLinea n := by
  induction n with
  | zero => exact fun _ => trivial
  | succ n ih =>
    intro M _
    refine ⟨trivial, fun l _ => ⟨⟨trivial, fun d M₁ hd => ⟨⟨by decide, _, hd.apunta⟩, ?_⟩⟩, ?_⟩⟩
    · exact fun _ _ _ => trivial
    · exact fun M₁ _ => ih M₁

/-- Two lines, and two variables more. -/
theorem turnos_definePorLinea : ∃ s s' m' M',
    Representa entornoNormal unGuion pcbEnPila maquinaEnPila (s, memoriaEnPila) ∧
      correr entornoNormal (cicloQuantum id definePorLinea 2) s memoriaEnPila = some (((), s'), m') ∧
      maquinaEnPila.Turnos 1000 id unGuion definePorLinea 2 M' ∧
      Representa entornoNormal unGuion pcbEnPila M' (s', m') := by
  obtain ⟨s, h, hs⟩ := representa_enPila
  have hcorre : (correr entornoNormal (do
      reanudar ⟨pcbYQuantum, 2, pcbEnPila⟩
      cicloQuantum id definePorLinea 2) ⟨pcbEnPila, 0, .nulo, false, false, fun _ => none⟩
        memoriaEnPila).isSome := by decide +kernel
  rw [correr_bind, hs, Option.bind_some] at hcorre
  obtain ⟨⟨⟨⟨⟩, s'⟩, m'⟩, hr⟩ := Option.isSome_iff_exists.1 hcorre
  obtain ⟨M', hM', h'⟩ := h.turnos conGuion_normal (admitidos_definePorLinea 2 _) hr
  exact ⟨s, s', m', M', h, hr, hM', h'⟩

end Ansisop.Cpu
