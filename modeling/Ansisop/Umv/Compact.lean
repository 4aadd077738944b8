import Ansisop.Umv.Table

/-!
What compaction does to the contents of the memory.

`compactar` gives the segments the right new addresses, but takes the bytes of a segment it moves
from the address of its own local variable `aux_seg`, not from the segment. `Conserva` is what a
compaction is for: the same segments, packed in their physical order, with the same bytes, so that
every later read answers the same. `compactar_conserva_iff` says exactly when the code does it.
-/

namespace Ansisop.Umv

open Ansisop.Sockets Ansisop.Lib Ansisop.Lib.Blocks Ansisop.Lib.Memory

/-! ### What a compaction is for -/

/-- `s'` under the memory `mem'` is the segment `s` under `mem`, perhaps at another address. -/
structure MismoSegmento (mem mem' : ℤ → Byte) (s s' : Seg) : Prop where
  idProc : s'.idProc = s.idProc
  tipoSeg : s'.tipoSeg = s.tipoSeg
  tamSeg : s'.tamSeg = s.tamSeg
  dirLogica : s'.dirLogica = s.dirLogica
  bytes : ∀ i < s.tamSeg.toNat, mem' (s'.dirFisica + i) = mem (s.dirFisica + i)

/-- **The purpose of a compaction**: the segments in their physical order, packed from the address
`0` with their descriptors and bytes, and every request for bytes answered as before. -/
structure Conserva (ls : ListSort) (u u' : Estado) : Prop where
  segmentos : List.Forall₂ (MismoSegmento u.memPrin u'.memPrin) (ls.sort u.listSeg) u'.listSeg
  packed : Packed Seg.dirFisica Seg.tamSeg 0 u'.listSeg
  solicitar : ∀ idProc base offset tam,
    solicitarBytes u' idProc base offset tam = solicitarBytes u idProc base offset tam

/-! ### When the code does it -/

/-- A segment that has to move (the segments before it, from the address `ind` on, do not end where
it starts) holds the bytes that the `i`-th turn finds on the stack. -/
def PilaCoincide (pila : ℕ → ℕ → Byte) (mem : ℤ → Byte) : ℕ → ℤ → List Seg → Prop
  | _, _, [] => True
  | i, ind, s :: l =>
    (ind = s.dirFisica ∨ ∀ k < s.tamSeg.toNat, pila i k = mem (s.dirFisica + k)) ∧
      PilaCoincide pila mem (i + 1) (ind + s.tamSeg) l

/-- Of the segments that one process has under one logical address, the first of the table and the
first in physical order have the same size and bytes. -/
def ClavesCoinciden (ls : ListSort) (u : Estado) : Prop :=
  ∀ idProc base, 0 ≤ base → ∀ s t, buscarSegmentoDirLogica u idProc base = some s →
    buscarSegmentoDirLogica (ordenarListaSegPorDirFisica ls u) idProc base = some t →
    s.tamSeg = t.tamSeg ∧
      ∀ k < s.tamSeg.toNat, u.memPrin (s.dirFisica + k) = u.memPrin (t.dirFisica + k)

/-! ### What the loop writes -/

section Loop

variable (pila : ℕ → ℕ → Byte)

/-- The loop writes nothing below its cursor. -/
lemma compactarLoop_frame : ∀ (l : List Seg) (i : ℕ) (ind : ℤ) (mem : ℤ → Byte),
    (∀ s ∈ l, 0 ≤ s.tamSeg) → ∀ a < ind, (compactarLoop pila i ind mem l).2 a = mem a
  | [], _, _, _, _, _, _ => rfl
  | s :: l, i, ind, mem, h0, a, ha => by
    have hs0 := h0 s (List.mem_cons_self ..)
    have hl0 : ∀ t ∈ l, 0 ≤ t.tamSeg := fun t ht => h0 t (List.mem_cons_of_mem _ ht)
    unfold compactarLoop
    split
    · exact compactarLoop_frame l _ _ _ hl0 a (by omega)
    · refine (compactarLoop_frame l _ _ _ hl0 a (by omega)).trans ?_
      exact memcpy_out _ _ _ (Or.inl ha)

/-- **The bytes of the first segment after the loop**: its own where it stays, the stack's where
it moves. -/
lemma compactarLoop_head {s : Seg} {l : List Seg} (i : ℕ) (ind : ℤ) (mem : ℤ → Byte)
    (h0 : ∀ t ∈ s :: l, 0 ≤ t.tamSeg) {k : ℕ} (hk : k < s.tamSeg.toNat) :
    (compactarLoop pila i ind mem (s :: l)).2 (ind + k) =
      if ind = s.dirFisica then mem (s.dirFisica + k) else pila i k := by
  have hl0 : ∀ t ∈ l, 0 ≤ t.tamSeg := fun t ht => h0 t (List.mem_cons_of_mem _ ht)
  unfold compactarLoop
  by_cases h : ind = s.dirFisica
  · rw [if_pos h, if_pos h, ← h]
    exact compactarLoop_frame pila l _ _ _ hl0 _ (by omega)
  · rw [if_neg h, if_neg h]
    refine (compactarLoop_frame pila l _ _ _ hl0 _ (by omega)).trans ?_
    rw [memcpy_in _ _ _ (by simpa using hk)]
    simp

/-- **The loop keeps the segments exactly when the stack agrees with them.** The memory `mem₀` is
the one before the compaction: a copy to the cursor spoils no segment still to come. -/
theorem compactarLoop_mismo_iff {tot : ℤ} (mem₀ : ℤ → Byte) : ∀ (l : List Seg) (i : ℕ) (ind : ℤ)
    (mem : ℤ → Byte), Tabla tot l → Sorted Seg.dirFisica l →
    Clear Seg.dirFisica Seg.tamSeg ind l →
    (∀ s ∈ l, ∀ k < s.tamSeg.toNat, mem (s.dirFisica + k) = mem₀ (s.dirFisica + k)) →
    (List.Forall₂ (MismoSegmento mem₀ (compactarLoop pila i ind mem l).2) l (empaquetar ind l) ↔
      PilaCoincide pila mem₀ i ind l)
  | [], _, _, _, _, _, _, _ => by simp [PilaCoincide, empaquetar]
  | s :: l, i, ind, mem, h, hs, hc, hm => by
    have hs0 := h.size_nonneg s (List.mem_cons_self ..)
    have hmax := le_max_left ind s.dirFisica
    have hc' : Clear Seg.dirFisica Seg.tamSeg (ind + s.tamSeg) l := fun t ht ht0 => by
      have := h.clear_step hs hc t ht ht0
      omega
    -- the head of the list
    have hhead : MismoSegmento mem₀ (compactarLoop pila i ind mem (s :: l)).2 s
        { s with dirFisica := ind } ↔
          (ind = s.dirFisica ∨ ∀ k < s.tamSeg.toNat, pila i k = mem₀ (s.dirFisica + k)) := by
      have hbytes : ∀ k < s.tamSeg.toNat, ((compactarLoop pila i ind mem (s :: l)).2 (ind + k) =
          mem₀ (s.dirFisica + k) ↔ ind = s.dirFisica ∨ pila i k = mem₀ (s.dirFisica + k)) := by
        intro k hk
        rw [compactarLoop_head pila i ind mem h.size_nonneg hk]
        by_cases hind : ind = s.dirFisica
        · rw [if_pos hind]
          exact ⟨fun _ => Or.inl hind, fun _ => hm s (List.mem_cons_self ..) k hk⟩
        · rw [if_neg hind]
          exact ⟨Or.inr, fun h => h.resolve_left hind⟩
      constructor
      · intro hsame
        by_cases hind : ind = s.dirFisica
        · exact Or.inl hind
        · exact Or.inr fun k hk => ((hbytes k hk).1 (hsame.bytes k hk)).resolve_left hind
      · intro hor
        exact ⟨rfl, rfl, rfl, rfl, fun k hk => (hbytes k hk).2 (hor.imp_right fun h => h k hk)⟩
    -- the rest of the list, after one turn
    have htail : List.Forall₂ (MismoSegmento mem₀ (compactarLoop pila i ind mem (s :: l)).2) l
        (empaquetar (ind + s.tamSeg) l) ↔ PilaCoincide pila mem₀ (i + 1) (ind + s.tamSeg) l := by
      unfold compactarLoop
      by_cases hind : ind = s.dirFisica
      · rw [if_pos hind]
        exact compactarLoop_mismo_iff mem₀ l (i + 1) (ind + s.tamSeg) mem h.tail
          (List.pairwise_cons.1 hs).2 hc' fun t ht => hm t (List.mem_cons_of_mem _ ht)
      · rw [if_neg hind]
        refine compactarLoop_mismo_iff mem₀ l (i + 1) (ind + s.tamSeg) _ h.tail
          (List.pairwise_cons.1 hs).2 hc' fun t ht k hk => ?_
        have hct := hc' t ht (by omega)
        rw [memcpy_out _ _ _ (Or.inr (by simp; omega))]
        exact hm t (List.mem_cons_of_mem _ ht) k hk
    rw [empaquetar, List.forall₂_cons, hhead, htail]
    rfl

end Loop

/-! ### Reads -/

/-- A lookup in two tables that agree segment by segment finds the same segment. -/
lemma find?_forall₂ {R : Seg → Seg → Prop} {p : Seg → Bool} {l l' : List Seg}
    (h : List.Forall₂ R l l') (hp : ∀ s s', R s s' → p s' = p s) :
    (l.find? p = none ∧ l'.find? p = none) ∨
      ∃ s s', l.find? p = some s ∧ l'.find? p = some s' ∧ R s s' := by
  induction h with
  | nil => exact Or.inl ⟨rfl, rfl⟩
  | @cons s s' l l' hR _ ih =>
    have hps := hp s s' hR
    by_cases hs : p s = true
    · right
      exact ⟨s, s', List.find?_cons_of_pos hs, List.find?_cons_of_pos (hps.trans hs), hR⟩
    · rw [List.find?_cons_of_neg hs, List.find?_cons_of_neg (by rw [hps]; exact hs)]
      exact ih

/-- The guards depend on the size of the memory only. -/
lemma fueraDeRango_congr {u u' : Estado} (h : u'.tamMemTotal = u.tamMemTotal)
    (base offset tam : ℤ) : fueraDeRango u' base offset tam = fueraDeRango u base offset tam := by
  unfold fueraDeRango; rw [h]

/-- **Two states answer a request alike** when the segments they find have the same size and
bytes, or neither finds one. -/
lemma solicitarBytes_congr {u u' : Estado} {idProc base : ℤ}
    (htot : u'.tamMemTotal = u.tamMemTotal)
    (h : 0 ≤ base → (buscarSegmentoDirLogica u idProc base = none ∧
        buscarSegmentoDirLogica u' idProc base = none) ∨
      ∃ s s', buscarSegmentoDirLogica u idProc base = some s ∧
        buscarSegmentoDirLogica u' idProc base = some s' ∧ s'.tamSeg = s.tamSeg ∧
        ∀ k < s.tamSeg.toNat, u'.memPrin (s'.dirFisica + k) = u.memPrin (s.dirFisica + k))
    (offset tam : ℤ) :
    solicitarBytes u' idProc base offset tam = solicitarBytes u idProc base offset tam := by
  unfold solicitarBytes
  rw [fueraDeRango_congr htot]
  by_cases hg : fueraDeRango u base offset tam = true
  · rw [if_pos hg, if_pos hg]
  · rw [if_neg hg, if_neg hg]
    simp only [fueraDeRango, Bool.or_eq_true, decide_eq_true_eq, not_or, not_lt] at hg
    rcases h hg.1.1.2 with ⟨h1, h2⟩ | ⟨s, s', h1, h2, ht, hb⟩
    · rw [h1, h2]
    · rw [h1, h2]
      simp only [ht]
      split
      · rfl
      · split
        · rfl
        · split
          · rfl
          · -- both copies are inside the segment found
            congr 2
            refine read_congr fun i hi => ?_
            have hk := hb (offset.toNat + i) (by omega)
            have e1 : s'.dirFisica + offset + (i : ℤ) =
                s'.dirFisica + ((offset.toNat + i : ℕ) : ℤ) := by push_cast; omega
            have e2 : s.dirFisica + offset + (i : ℤ) =
                s.dirFisica + ((offset.toNat + i : ℕ) : ℤ) := by push_cast; omega
            rw [e1, e2]
            exact hk

/-- A segment of the table, read whole. -/
lemma solicitarBytes_entero {u : Estado} {idProc base : ℤ} {s : Seg}
    (hT : Tabla u.tamMemTotal u.listSeg) (htot : u.tamMemTotal < 2 ^ 31) (hbase : 0 ≤ base)
    (hs : buscarSegmentoDirLogica u idProc base = some s) :
    solicitarBytes u idProc base 0 s.tamSeg =
      some (.bytes (read u.memPrin s.dirFisica s.tamSeg.toNat)) := by
  have hmem := List.mem_of_find?_eq_some hs
  have h0 := hT.size_nonneg s hmem
  have hp := hT.pos_nonneg s hmem
  have hf := hT.fits s hmem
  have hg : fueraDeRango u base 0 s.tamSeg = false := by
    simp only [fueraDeRango, Bool.or_eq_false_iff, decide_eq_false_iff_not]
    omega
  unfold solicitarBytes
  rw [if_neg (by simp [hg]), hs]
  simp only
  rw [if_neg (by omega), if_neg (by omega), if_neg (by omega), add_zero]

/-- A request for more bytes than the segment has is refused. -/
lemma solicitarBytes_bytes_le {u : Estado} {idProc base tam : ℤ} {s : Seg} {l : List Byte}
    (hs : buscarSegmentoDirLogica u idProc base = some s)
    (h : solicitarBytes u idProc base 0 tam = some (.bytes l)) :
    tam ≤ s.tamSeg ∧ l = read u.memPrin s.dirFisica tam.toNat := by
  unfold solicitarBytes at h
  split at h
  · simp at h
  · rw [hs] at h
    simp only at h
    split at h
    · cases h
    · split at h
      · simp at h
      · split at h
        · cases h
        · simp only [Option.some.injEq, RetBytes.bytes.injEq, add_zero] at h
          exact ⟨by omega, h.symm⟩

/-! ### The theorem -/

/-- The lookup before a compaction, in physical order, and after it. -/
lemma buscar_compactar {u : Estado} (ls : ListSort) {u' : Estado}
    (hF : List.Forall₂ (MismoSegmento u.memPrin u'.memPrin) (ls.sort u.listSeg) u'.listSeg)
    (idProc base : ℤ) :
    (buscarSegmentoDirLogica (ordenarListaSegPorDirFisica ls u) idProc base = none ∧
        buscarSegmentoDirLogica u' idProc base = none) ∨
      ∃ t t', buscarSegmentoDirLogica (ordenarListaSegPorDirFisica ls u) idProc base = some t ∧
        buscarSegmentoDirLogica u' idProc base = some t' ∧
        MismoSegmento u.memPrin u'.memPrin t t' :=
  find?_forall₂ hF fun s s' h => by rw [h.dirLogica, h.idProc]

/-- Ordering the table does not lose a lookup. -/
lemma buscar_ordenar_none (ls : ListSort) (u : Estado) (idProc base : ℤ) :
    buscarSegmentoDirLogica (ordenarListaSegPorDirFisica ls u) idProc base = none ↔
      buscarSegmentoDirLogica u idProc base = none := by
  unfold buscarSegmentoDirLogica ordenarListaSegPorDirFisica
  simp only [List.find?_eq_none, (ls.perm u.listSeg).mem_iff]

/-- **When compaction preserves the contents of the memory.** Exactly when every segment it moves
already holds the bytes it finds on the stack, and the first segment of each process and logical
address is the same, in size and bytes, in the order of the table and in physical order. -/
theorem compactar_conserva_iff (ls : ListSort) (pila : ℕ → ℕ → Byte) (u : Estado)
    (hT : Tabla u.tamMemTotal u.listSeg) (htot : u.tamMemTotal < 2 ^ 31) :
    Conserva ls u (compactar ls pila u) ↔
      PilaCoincide pila u.memPrin 0 0 (ls.sort u.listSeg) ∧ ClavesCoinciden ls u := by
  have hTs := ordenar_tabla ls hT
  have hloop := compactarLoop_mismo_iff pila u.memPrin (ls.sort u.listSeg) 0 0 u.memPrin hTs
    (ls.sorted _) (clear_of_nonneg hTs) fun _ _ _ _ => rfl
  have hsame : List.Forall₂ (MismoSegmento u.memPrin (compactar ls pila u).memPrin)
      (ls.sort u.listSeg) (compactar ls pila u).listSeg ↔
        PilaCoincide pila u.memPrin 0 0 (ls.sort u.listSeg) := by
    rw [compactar_listSeg]
    exact hloop
  constructor
  · intro h
    refine ⟨hsame.1 h.segmentos, fun idProc base hbase s t hs ht => ?_⟩
    -- read each of the two segments whole, before and after
    rcases buscar_compactar ls h.segmentos idProc base with ⟨h1, -⟩ | ⟨t₁, t', h1, h2, hR⟩
    · rw [h1] at ht; cases ht
    · obtain rfl : t₁ = t := by rw [h1] at ht; exact Option.some.inj ht
      have hmem := List.mem_of_find?_eq_some hs
      have hmem₁ := (ls.perm u.listSeg).mem_iff.1 (List.mem_of_find?_eq_some h1)
      have hwhole := solicitarBytes_entero hT htot hbase hs
      rw [← h.solicitar] at hwhole
      obtain ⟨hle, hbytes⟩ := solicitarBytes_bytes_le h2 hwhole
      rw [hR.tamSeg] at hle
      have hTc : Tabla (compactar ls pila u).tamMemTotal (compactar ls pila u).listSeg := by
        have h0 := hT.pos_nonneg s hmem
        have h1 := hT.size_nonneg s hmem
        have h2 := hT.fits s hmem
        exact compactar_tabla ls pila (by omega) hT
      have hwhole₁ := solicitarBytes_entero hTc htot hbase h2
      rw [h.solicitar] at hwhole₁
      obtain ⟨hge, -⟩ := solicitarBytes_bytes_le hs hwhole₁
      rw [hR.tamSeg] at hge
      have heq : s.tamSeg = t₁.tamSeg := le_antisymm hle hge
      refine ⟨heq, fun k hk => ?_⟩
      rw [read_inj.1 hbytes k hk]
      exact hR.bytes k (by rw [← heq]; exact hk)
  · rintro ⟨hpila, hclaves⟩
    have hF := hsame.2 hpila
    refine ⟨hF, ?_, fun idProc base => solicitarBytes_congr rfl fun hbase => ?_⟩
    · rw [compactar_listSeg]
      exact empaquetar_packed _ 0
    · rcases buscar_compactar ls hF idProc base with ⟨h1, h2⟩ | ⟨t, t', h1, h2, hR⟩
      · exact Or.inl ⟨(buscar_ordenar_none ls u idProc base).1 h1, h2⟩
      · obtain ⟨s, hs⟩ : ∃ s, buscarSegmentoDirLogica u idProc base = some s := by
          rw [← Option.isSome_iff_exists, Option.isSome_iff_ne_none]
          intro hn
          rw [(buscar_ordenar_none ls u idProc base).2 hn] at h1
          cases h1
        obtain ⟨htam, hbytes⟩ := hclaves idProc base hbase s t hs h1
        refine Or.inr ⟨s, t', hs, h2, hR.tamSeg.trans htam.symm, fun k hk => ?_⟩
        rw [hR.bytes k (by rw [← htam]; exact hk), ← hbytes k hk]

/-- The second half of the condition holds when no process has two segments at one logical
address. -/
lemma clavesCoinciden_of_unicas (ls : ListSort) {u : Estado}
    (h : u.listSeg.Pairwise fun s t => s.idProc = t.idProc → s.dirLogica ≠ t.dirLogica) :
    ClavesCoinciden ls u := by
  intro idProc base _ s t hs ht
  have hs₁ := List.mem_of_find?_eq_some hs
  have ht₁ := (ls.perm u.listSeg).mem_iff.1 (List.mem_of_find?_eq_some ht)
  have hs₂ := List.find?_some hs
  have ht₂ := List.find?_some ht
  simp only [Bool.and_eq_true, beq_iff_eq] at hs₂ ht₂
  obtain rfl : s = t := by
    by_contra hne
    have : Std.Symm fun s t : Seg => s.idProc = t.idProc → s.dirLogica ≠ t.dirLogica :=
      ⟨fun _ _ hxy he hd => hxy he.symm hd.symm⟩
    exact h.forall hs₁ ht₁ hne (hs₂.2.trans ht₂.2.symm) (hs₂.1.trans ht₂.1.symm)
  exact ⟨rfl, fun _ _ => rfl⟩

/-- Ten bytes of memory, all of them `7`, and one segment of three bytes at the given address. -/
def unSegmento (dirFisica : ℤ) : Estado :=
  ⟨fun _ => 7, firstFitMode, [⟨2, 200, dirFisica, 3, TipoDatos.indStack⟩], 10⟩

/-- The stack under `compactar` when `aux_seg` holds a heap address. -/
def pilaPuntero (_ k : ℕ) : Byte := [0xa0, 0x12, 0xde, 0xc0, 0xd0, 0x55].getD k 0

/-- The same, with the bytes of the pointer in the memory from the address of the segment on. -/
def unSegmentoPuntero (dirFisica : ℤ) : Estado :=
  { unSegmento dirFisica with memPrin := fun a => pilaPuntero 0 (a - dirFisica).toNat }

/-- A segment that holds the bytes of the pointer moves to the start of the memory with them. -/
theorem compactar_conserva_unSegmento :
    Conserva .insercion (unSegmentoPuntero 4) (compactar .insercion pilaPuntero (unSegmentoPuntero 4)) :=
  (compactar_conserva_iff .insercion pilaPuntero (unSegmentoPuntero 4)
    ⟨by decide, by decide, by decide, List.pairwise_singleton _ _⟩ (by decide)).2
    ⟨⟨Or.inr (by decide), trivial⟩, clavesCoinciden_of_unicas _ (List.pairwise_singleton _ _)⟩

/-- A segment that moves loses its bytes: the request for them answers the bytes of the pointer. -/
theorem compactar_no_conserva_unSegmento :
    Tabla 10 (unSegmento 4).listSeg ∧
      ¬ Conserva .insercion (unSegmento 4) (compactar .insercion pilaPuntero (unSegmento 4)) :=
  ⟨⟨by decide, by decide, by decide, List.pairwise_singleton _ _⟩,
    fun h => absurd (h.solicitar 2 200 0 3) (by decide)⟩

end Ansisop.Umv
