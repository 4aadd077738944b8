import Ansisop.Umv.Isolation

/-!
The two byte functions as the CPUs and the console reach them, and `imp_cont_mem_prin`, the one
function of the console that reads the main memory without a segment.

`solicitar_bytes` and `almacenar_bytes` start with the same guard, look the segment up and compare
the end of the range with its size. The guard says nothing of a negative size. A segment that is not
found is another matter: the reader answers the buffer as `malloc` gave it, the writer uses the
segment before anything asks whether there is one.
-/

namespace Ansisop.Umv

open Ansisop.Sockets Ansisop.Lib Ansisop.Lib.Memory

/-! ### The answer to a request for bytes -/

/-- `gestionar_solicitud_bytes`: the message the CPU gets. `heap` is what a block of `malloc` holds
before anything is written into it. -/
def gestionarSolicitudBytes (heap : ℕ → Byte) (menBytes : MenCpuUmv) (procActivo : ℤ) (u : Estado) :
    Option MenComun :=
  (solicitarBytes u procActivo menBytes.base menBytes.offset menBytes.tam).map fun
    | .null => crearMenComun TipoDatos.segmenFault []
    | .sinInicializar tam => crearMenComun TipoDatos.rSolBytes ((List.range tam.toNat).map heap)
    | .bytes l => crearMenComun TipoDatos.rSolBytes l

lemma fueraDeRango_iff {u : Estado} {base offset tam : ℤ} :
    fueraDeRango u base offset tam = true ↔
      offset < 0 ∨ base < 0 ∨ u.tamMemTotal < offset ∨ u.tamMemTotal < tam := by
  simp only [fueraDeRango, Bool.or_eq_true, decide_eq_true_iff, or_assoc]

lemma buscarSegmentoDirLogica_eq_none {u : Estado} {idProc base : ℤ} :
    buscarSegmentoDirLogica u idProc base = none ↔
      ∀ s ∈ u.listSeg, ¬ (s.idProc = idProc ∧ s.dirLogica = base) := by
  simp only [buscarSegmentoDirLogica, List.find?_eq_none, Bool.and_eq_true, beq_iff_eq]
  constructor
  · exact fun h s hs hin => h s hs ⟨hin.2, hin.1⟩
  · exact fun h s hs hin => h s hs ⟨hin.2, hin.1⟩

/-- Out of range both functions refuse. -/
lemma refuse_of_fueraDeRango {u : Estado} {idProc base offset tam : ℤ} (buffer : List Byte)
    (h : fueraDeRango u base offset tam = true) :
    solicitarBytes u idProc base offset tam = some .null ∧
      almacenarBytes idProc base offset tam buffer u = some (u, TipoDatos.segmenFault.val) := by
  unfold solicitarBytes almacenarBytes
  rw [if_pos h, if_pos h]
  exact ⟨rfl, rfl⟩

/-- Without a segment the reader answers what `malloc` did, and the writer is undefined. -/
lemma sinSegmento {u : Estado} {idProc base offset tam : ℤ} (buffer : List Byte)
    (h : fueraDeRango u base offset tam = false)
    (hno : buscarSegmentoDirLogica u idProc base = none) :
    solicitarBytes u idProc base offset tam
        = some (if tam < 0 then .null else .sinInicializar tam) ∧
      almacenarBytes idProc base offset tam buffer u = none := by
  have hg : ¬ fueraDeRango u base offset tam = true := by simp [h]
  unfold solicitarBytes almacenarBytes
  rw [if_neg hg, if_neg hg, hno]
  exact ⟨rfl, rfl⟩

/-- The request is refused on both paths: the CPU gets `SEGMEN_FAULT` and no bytes, and nothing is
written. -/
structure Rechazada (heap : ℕ → Byte) (u : Estado) (idProc : ℤ) (men : MenCpuUmv) : Prop where
  lee : gestionarSolicitudBytes heap men idProc u = some (crearMenComun TipoDatos.segmenFault [])
  escribe : almacenarBytes idProc men.base men.offset men.tam men.buffer u
    = some (u, TipoDatos.segmenFault.val)

/-- **When a request for a segment that is not there is refused**: exactly when the guard refuses it,
before the segment is looked up. -/
theorem rechazada_iff (heap : ℕ → Byte) (u : Estado) (idProc : ℤ) (men : MenCpuUmv)
    (hno : ∀ s ∈ u.listSeg, ¬ (s.idProc = idProc ∧ s.dirLogica = men.base)) :
    Rechazada heap u idProc men ↔
      men.offset < 0 ∨ men.base < 0 ∨ u.tamMemTotal < men.offset ∨ u.tamMemTotal < men.tam := by
  rw [← fueraDeRango_iff]
  constructor
  · rintro ⟨-, hescribe⟩
    by_contra hdentro
    rw [Bool.not_eq_true] at hdentro
    have hnone := (sinSegmento men.buffer hdentro (buscarSegmentoDirLogica_eq_none.2 hno)).2
    rw [hnone] at hescribe
    cases hescribe
  · intro hfuera
    obtain ⟨hlee, hescribe⟩ : solicitarBytes u idProc men.base men.offset men.tam = some .null ∧
        almacenarBytes idProc men.base men.offset men.tam men.buffer u =
          some (u, TipoDatos.segmenFault.val) := refuse_of_fueraDeRango men.buffer hfuera
    refine ⟨?_, hescribe⟩
    unfold gestionarSolicitudBytes
    rw [hlee]
    rfl

/-- The exit thread of the kernel has the segments of process 1 destroyed while a CPU still runs
it. -/
def destruidoEnUso : List Llamada := [pedir .pedMemSegStack 1 4 100, .destruirSegmentos 1]

/-- Outside of the memory the request is refused. -/
theorem rechazada_destruidoEnUso :
    ∃ u, correr destruidoEnUso (inicial (fun _ => 7) firstFitMode 10) = some u ∧
      Rechazada (fun _ => 9) u 1 ⟨TipoDatos.solBytes, 100, 0, 11, []⟩ :=
  ⟨_, rfl, (rechazada_iff _ _ _ _ (by decide)).2 (by decide)⟩

/-- Inside of it the CPU is sent four bytes of the heap, and a write has no result. -/
theorem no_rechazada_destruidoEnUso :
    ∃ u, correr destruidoEnUso (inicial (fun _ => 7) firstFitMode 10) = some u ∧
      (∀ s ∈ u.listSeg, ¬ (s.idProc = 1 ∧ s.dirLogica = 100)) ∧
      gestionarSolicitudBytes (fun _ => 9) ⟨TipoDatos.solBytes, 100, 0, 4, []⟩ 1 u
        = some ⟨4, TipoDatos.rSolBytes, [9, 9, 9, 9]⟩ ∧
      ¬ Rechazada (fun _ => 9) u 1 ⟨TipoDatos.solBytes, 100, 0, 4, []⟩ := by
  refine ⟨_, rfl, by decide, by decide, fun h => ?_⟩
  exact absurd h.lee (by decide)

/-! ### The bounds of a copy -/

/-- The call passes both tests, in the arithmetic of the machine, and goes on to its copy in the
segment `s`. -/
structure LlegaACopia (u : Estado) (idProc base offset tam : ℤ) (s : Seg) : Prop where
  guarda : fueraDeRango u base offset tam = false
  hallado : buscarSegmentoDirLogica u idProc base = some s
  limite : ¬ s.tamSeg < int32 (offset + tam)

/-- A read is sound: it copies bytes of its segment, or answers `NULL`. -/
structure LecturaSana (u : Estado) (idProc base offset tam : ℤ) : Prop where
  copia : ∀ s, LlegaACopia u idProc base offset tam s →
    0 ≤ tam ∧ 0 ≤ offset ∧ offset + tam ≤ s.tamSeg ∧
      solicitarBytes u idProc base offset tam
        = some (.bytes (read u.memPrin (s.dirFisica + offset) tam.toNat))
  rechazo : (∀ s, ¬ LlegaACopia u idProc base offset tam s) →
    solicitarBytes u idProc base offset tam = some .null

/-- A write is sound: it copies into its segment, or answers `SEGMEN_FAULT` and changes nothing. -/
structure EscrituraSana (u : Estado) (idProc base offset tam : ℤ) (buffer : List Byte) : Prop where
  copia : ∀ s, LlegaACopia u idProc base offset tam s →
    0 ≤ tam ∧ 0 ≤ offset ∧ offset + tam ≤ s.tamSeg ∧
      almacenarBytes idProc base offset tam buffer u
        = some ({ u with
            memPrin := memcpy u.memPrin (s.dirFisica + offset) (buffer.take tam.toNat) },
          TipoDatos.rAlmBytes.val)
  rechazo : (∀ s, ¬ LlegaACopia u idProc base offset tam s) →
    almacenarBytes idProc base offset tam buffer u = some (u, TipoDatos.segmenFault.val)

/-- `imp_cont_mem_prin`, for what was typed: the addresses whose bytes it prints, none of them after
the segmentation fault. A sum that no `int32_t` holds is undefined. -/
def impContMemPrin (u : Estado) (offset tam : ℤ) : Option (List ℤ) :=
  if tam + offset < -2 ^ 31 ∨ 2 ^ 31 ≤ tam + offset then none
  else if u.tamMemTotal < tam + offset then some []
  else some ((List.range tam.toNat).map fun i : ℕ => offset + i)

/-- The addresses printed are in the main memory. -/
def ImpresionSana (u : Estado) (offset tam : ℤ) : Prop :=
  ∃ l, impContMemPrin u offset tam = some l ∧ ∀ i ∈ l, 0 ≤ i ∧ i < u.tamMemTotal

section Bounds

variable {u : Estado} {idProc base offset tam : ℤ}

/-- Behind the guard no sum overflows: in a memory of less than `2 ^ 30` bytes. -/
lemma int32_limite (h30 : u.tamMemTotal < 2 ^ 30) (htam : -2 ^ 31 ≤ tam)
    (hg : fueraDeRango u base offset tam = false) : int32 (offset + tam) = offset + tam := by
  have hg := fueraDeRango_eq_false.1 hg
  exact int32_of_range (by omega) (by omega)

/-- A call that finds its segment is refused by the limit test, or goes on to its copy. -/
lemma llegaACopia_iff {s : Seg} (h30 : u.tamMemTotal < 2 ^ 30) (htam : -2 ^ 31 ≤ tam)
    (hg : fueraDeRango u base offset tam = false)
    (hs : buscarSegmentoDirLogica u idProc base = some s) (s₁ : Seg) :
    LlegaACopia u idProc base offset tam s₁ ↔ s₁ = s ∧ offset + tam ≤ s.tamSeg := by
  have hint := int32_limite h30 htam hg
  constructor
  · rintro ⟨-, hs₁, hlim⟩
    obtain rfl : s₁ = s := Option.some.inj (hs₁.symm.trans hs)
    exact ⟨rfl, by omega⟩
  · rintro ⟨rfl, hle⟩
    exact ⟨hg, hs, by omega⟩

lemma no_llegaACopia_of_fueraDeRango (hg : fueraDeRango u base offset tam = true) (s : Seg) :
    ¬ LlegaACopia u idProc base offset tam s :=
  fun h => Bool.noConfusion (hg.symm.trans h.guarda)

lemma no_llegaACopia_of_none (hs : buscarSegmentoDirLogica u idProc base = none) (s : Seg) :
    ¬ LlegaACopia u idProc base offset tam s := by
  intro h
  cases hs.symm.trans h.hallado

/-- Both functions refuse what ends behind the segment. -/
lemma refuse_of_limite {s : Seg} (buffer : List Byte) (h31 : offset + tam < 2 ^ 31)
    (hg : fueraDeRango u base offset tam = false)
    (hs : buscarSegmentoDirLogica u idProc base = some s) (hlim : s.tamSeg < offset + tam) :
    solicitarBytes u idProc base offset tam = some .null ∧
      almacenarBytes idProc base offset tam buffer u = some (u, TipoDatos.segmenFault.val) := by
  have hg : ¬ fueraDeRango u base offset tam = true := by simp [hg]
  unfold solicitarBytes almacenarBytes
  rw [if_neg hg, if_neg hg, hs]
  simp only
  rw [if_neg (by omega), if_pos hlim, if_neg (by omega), if_pos hlim]
  exact ⟨rfl, rfl⟩

/-- A write inside the segment found is made. -/
lemma almacenarBytes_dentro {s : Seg} {buffer : List Byte} (h31 : offset + tam < 2 ^ 31)
    (hg : fueraDeRango u base offset tam = false)
    (hs : buscarSegmentoDirLogica u idProc base = some s) (hle : offset + tam ≤ s.tamSeg)
    (h0 : 0 ≤ tam) (hbuf : tam ≤ buffer.length) :
    almacenarBytes idProc base offset tam buffer u
      = some ({ u with
          memPrin := memcpy u.memPrin (s.dirFisica + offset) (buffer.take tam.toNat) },
        TipoDatos.rAlmBytes.val) := by
  unfold almacenarBytes
  rw [if_neg (by simp [hg]), hs]
  simp only
  rw [if_neg (by omega), if_neg (by omega), if_neg (by omega)]

/-- **When a read is sound**: exactly when the guard refuses it, or the segment is not there and the
size is negative, or the segment is there and the size is not negative or the limit test refuses
it. -/
lemma lecturaSana_iff (h30 : u.tamMemTotal < 2 ^ 30) (htam : -2 ^ 31 ≤ tam) :
    LecturaSana u idProc base offset tam ↔
      fueraDeRango u base offset tam = true ∨
        (buscarSegmentoDirLogica u idProc base = none ∧ tam < 0) ∨
        ∃ s, buscarSegmentoDirLogica u idProc base = some s ∧
          (0 ≤ tam ∨ s.tamSeg < offset + tam) := by
  cases hg : fueraDeRango u base offset tam with
  | true =>
    refine ⟨fun _ => .inl rfl, fun _ => ⟨fun s h => ?_, fun _ => ?_⟩⟩
    · exact absurd h (no_llegaACopia_of_fueraDeRango hg s)
    · exact (refuse_of_fueraDeRango [] hg).1
  | false =>
    have hoff := fueraDeRango_eq_false.1 hg
    simp only [Bool.false_eq_true, false_or]
    cases hs : buscarSegmentoDirLogica u idProc base with
    | none =>
      have hres := (sinSegmento [] hg hs).1
      constructor
      · intro h
        have hnull := h.rechazo (no_llegaACopia_of_none hs)
        rw [hres] at hnull
        by_cases h0 : tam < 0
        · exact .inl ⟨rfl, h0⟩
        · rw [if_neg h0] at hnull
          cases hnull
      · rintro (⟨-, h0⟩ | ⟨s, hs', -⟩)
        · refine ⟨fun s h => absurd h (no_llegaACopia_of_none hs s), fun _ => ?_⟩
          rw [hres, if_pos h0]
        · cases hs'
    | some s =>
      have hllega := llegaACopia_iff h30 htam hg hs
      have h31 : offset + tam < 2 ^ 31 := by omega
      constructor
      · intro h
        refine .inr ⟨s, rfl, ?_⟩
        by_cases hle : offset + tam ≤ s.tamSeg
        · exact .inl (h.copia s ((hllega s).2 ⟨rfl, hle⟩)).1
        · right; omega
      · rintro (⟨hno, -⟩ | ⟨s', hs', hcond⟩)
        · cases hno
        · obtain rfl := Option.some.inj hs'
          refine ⟨fun s₁ h => ?_, fun hno => ?_⟩
          · obtain ⟨rfl, hle⟩ := (hllega s₁).1 h
            have h0 : 0 ≤ tam := by omega
            exact ⟨h0, hoff.1, hle, solicitarBytes_dentro hg hs h31 hle h0⟩
          · have hlim : s.tamSeg < offset + tam := by
              by_contra hle
              exact hno s ((hllega s).2 ⟨rfl, by omega⟩)
            exact (refuse_of_limite [] h31 hg hs hlim).1

/-- **When a write is sound**: exactly when the guard refuses it, or the segment is there and the size
is not negative or the limit test refuses it. -/
lemma escrituraSana_iff {buffer : List Byte} (h30 : u.tamMemTotal < 2 ^ 30) (htam : -2 ^ 31 ≤ tam)
    (hbuf : tam ≤ buffer.length) :
    EscrituraSana u idProc base offset tam buffer ↔
      fueraDeRango u base offset tam = true ∨
        ∃ s, buscarSegmentoDirLogica u idProc base = some s ∧
          (0 ≤ tam ∨ s.tamSeg < offset + tam) := by
  cases hg : fueraDeRango u base offset tam with
  | true =>
    refine ⟨fun _ => .inl rfl, fun _ => ⟨fun s h => ?_, fun _ => ?_⟩⟩
    · exact absurd h (no_llegaACopia_of_fueraDeRango hg s)
    · exact (refuse_of_fueraDeRango buffer hg).2
  | false =>
    have hoff := fueraDeRango_eq_false.1 hg
    simp only [Bool.false_eq_true, false_or]
    cases hs : buscarSegmentoDirLogica u idProc base with
    | none =>
      constructor
      · intro h
        have hfault := h.rechazo (no_llegaACopia_of_none hs)
        rw [(sinSegmento buffer hg hs).2] at hfault
        cases hfault
      · rintro ⟨s, hs', -⟩
        cases hs'
    | some s =>
      have hllega := llegaACopia_iff h30 htam hg hs
      have h31 : offset + tam < 2 ^ 31 := by omega
      constructor
      · intro h
        refine ⟨s, rfl, ?_⟩
        by_cases hle : offset + tam ≤ s.tamSeg
        · exact .inl (h.copia s ((hllega s).2 ⟨rfl, hle⟩)).1
        · right; omega
      · rintro ⟨s', hs', hcond⟩
        obtain rfl := Option.some.inj hs'
        refine ⟨fun s₁ h => ?_, fun hno => ?_⟩
        · obtain ⟨rfl, hle⟩ := (hllega s₁).1 h
          have h0 : 0 ≤ tam := by omega
          exact ⟨h0, hoff.1, hle, almacenarBytes_dentro h31 hg hs hle h0 hbuf⟩
        · have hlim : s.tamSeg < offset + tam := by
            by_contra hle
            exact hno s ((hllega s).2 ⟨rfl, by omega⟩)
          exact (refuse_of_limite buffer h31 hg hs hlim).2

/-- **When the dump is sound**: exactly when the sum of what was typed is an `int32_t` and the
segmentation fault is printed, or no byte, or the offset is not negative. -/
lemma impresionSana_iff :
    ImpresionSana u offset tam ↔
      (-2 ^ 31 ≤ offset + tam ∧ offset + tam < 2 ^ 31) ∧
        (u.tamMemTotal < offset + tam ∨ tam ≤ 0 ∨ 0 ≤ offset) := by
  unfold ImpresionSana impContMemPrin
  by_cases hover : tam + offset < -2 ^ 31 ∨ 2 ^ 31 ≤ tam + offset
  · rw [if_pos hover]
    refine ⟨fun h => ?_, fun h => by omega⟩
    obtain ⟨l, hl, -⟩ := h
    cases hl
  · rw [if_neg hover]
    by_cases hlim : u.tamMemTotal < tam + offset
    · rw [if_pos hlim]
      refine ⟨fun _ => ⟨by omega, by omega⟩, fun _ => ⟨[], rfl, by simp⟩⟩
    · rw [if_neg hlim]
      constructor
      · rintro ⟨l, hl, hin⟩
        obtain rfl := Option.some.inj hl
        refine ⟨by omega, ?_⟩
        by_cases h0 : tam ≤ 0
        · exact .inr (.inl h0)
        · -- the first byte printed is the one at the offset
          have hmem : offset ∈ (List.range tam.toNat).map fun i : ℕ => offset + (i : ℤ) :=
            List.mem_map.2 ⟨0, by simp; omega, by simp⟩
          exact .inr (.inr (hin offset hmem).1)
      · rintro ⟨-, hcond⟩
        refine ⟨_, rfl, fun i hi => ?_⟩
        obtain ⟨k, hk, rfl⟩ := List.mem_map.1 hi
        have hk := List.mem_range.1 hk
        omega

end Bounds

/-- **When the bounds checks are sound**, for every `int32_t` that a CPU sends or that is typed on the
console. -/
theorem limites_sanos_iff (u : Estado) (h30 : u.tamMemTotal < 2 ^ 30)
    (idProc base offset tam : ℤ) (htam : -2 ^ 31 ≤ tam) (buffer : List Byte)
    (hbuf : tam ≤ buffer.length) (desde cantidad : ℤ) :
    (LecturaSana u idProc base offset tam ↔
      fueraDeRango u base offset tam = true ∨
        (buscarSegmentoDirLogica u idProc base = none ∧ tam < 0) ∨
        ∃ s, buscarSegmentoDirLogica u idProc base = some s ∧
          (0 ≤ tam ∨ s.tamSeg < offset + tam)) ∧
    (EscrituraSana u idProc base offset tam buffer ↔
      fueraDeRango u base offset tam = true ∨
        ∃ s, buscarSegmentoDirLogica u idProc base = some s ∧
          (0 ≤ tam ∨ s.tamSeg < offset + tam)) ∧
    (ImpresionSana u desde cantidad ↔
      (-2 ^ 31 ≤ desde + cantidad ∧ desde + cantidad < 2 ^ 31) ∧
        (u.tamMemTotal < desde + cantidad ∨ cantidad ≤ 0 ∨ 0 ≤ desde)) :=
  ⟨lecturaSana_iff h30 htam, escrituraSana_iff h30 htam hbuf, impresionSana_iff⟩

/-- Ten bytes of memory with a segment of four at their end. -/
def alFinal : Estado :=
  ⟨fun _ => 7, firstFitMode, [⟨1, 100, 6, 4, TipoDatos.indStack⟩], 10⟩

/-- The whole segment can be read and written, and the whole memory printed. -/
theorem limites_sanos_alFinal :
    LecturaSana alFinal 1 100 0 4 ∧ EscrituraSana alFinal 1 100 0 4 [1, 2, 3, 4] ∧
      ImpresionSana alFinal 0 10 := by
  obtain ⟨hlee, hescribe, himprime⟩ := limites_sanos_iff alFinal (by decide) 1 100 0 4 (by decide)
    [1, 2, 3, 4] (by decide) 0 10
  exact ⟨hlee.2 (.inr (.inr ⟨_, rfl, by decide⟩)), hescribe.2 (.inr ⟨_, rfl, by decide⟩),
    himprime.2 (by decide)⟩

/-- A negative size reaches both copies, and a negative offset is printed. -/
theorem limites_no_sanos_alFinal :
    Tabla alFinal.tamMemTotal alFinal.listSeg ∧ ¬ LecturaSana alFinal 1 100 0 (-1) ∧
      ¬ EscrituraSana alFinal 1 100 0 (-1) [] ∧ ¬ ImpresionSana alFinal (-3) 2 := by
  have hllega : LlegaACopia alFinal 1 100 0 (-1) ⟨1, 100, 6, 4, TipoDatos.indStack⟩ :=
    ⟨by decide, rfl, by decide⟩
  refine ⟨⟨?_, ?_, ?_, ?_⟩, fun h => ?_, fun h => ?_, ?_⟩
  · simp [alFinal]
  · simp [alFinal]
  · simp [alFinal]
  · simp [alFinal]
  · exact absurd (h.copia _ hllega).1 (by decide)
  · exact absurd (h.copia _ hllega).1 (by decide)
  · rintro ⟨l, hl, hin⟩
    obtain rfl := Option.some.inj hl
    exact absurd (hin (-3) (by decide)).1 (by decide)

end Ansisop.Umv
