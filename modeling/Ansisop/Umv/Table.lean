import Ansisop.Umv.Segments

/-!
The segment table stays a layout: in every state a run of the UMV reaches, the segments lie inside
the main memory and no two of them share an address.

The two searches are sweeps over the ordered table. Both walk a hole byte by byte; `huecoFirst_eq`
and `huecoWorst_eq` say what the walk comes to, and `firstFit_spec` and `worstFit_spec` that the
address they answer is that of free space. Compaction gives the segments the addresses of
`empaquetar`, whatever it copies.
-/

namespace Ansisop.Umv

open Ansisop.Sockets Ansisop.Lib Ansisop.Lib.Blocks

/-! ### The invariant -/

/-- The segments are a layout of the main memory. -/
def Tabla (tamMemTotal : ℤ) (l : List Seg) : Prop :=
  Layout Seg.dirFisica Seg.tamSeg tamMemTotal l

/-- The addresses `[pos, pos + tam)` are in the memory and belong to no segment of the list. -/
structure Libre (tamMemTotal : ℤ) (l : List Seg) (pos tam : ℤ) : Prop where
  nonneg : 0 ≤ pos
  fits : pos + tam ≤ tamMemTotal
  disjoint : ∀ b ∈ l, Disjoint (span Seg.dirFisica Seg.tamSeg b) (Set.Ico pos (pos + tam))

/-- A segment on free addresses extends the table. -/
lemma Tabla.snoc {tot : ℤ} {l : List Seg} {s : Seg} (h : Tabla tot l) (h0 : 0 ≤ s.tamSeg)
    (hl : Libre tot l s.dirFisica s.tamSeg) : Tabla tot (l ++ [s]) :=
  Layout.snoc h h0 hl.nonneg hl.fits hl.disjoint

/-! ### The two searches -/

/-- **The inner first-fit loop**: it returns early when the hole has a byte after the ones asked
for, and moves the cursor to the next segment otherwise. -/
lemma huecoFirst_eq (t : ℤ) : ∀ (n : ℕ) (ind k : ℤ),
    huecoFirst t n ind k = if k ≤ t ∧ t < k + n then .inl (ind - k) else .inr (ind + n)
  | 0, ind, k => by
    rw [if_neg (by push_cast; omega)]
    simp [huecoFirst]
  | n + 1, ind, k => by
    unfold huecoFirst
    by_cases hk : k = t
    · rw [if_pos hk, if_pos (by push_cast; omega)]
    · rw [if_neg hk, huecoFirst_eq t n]
      by_cases h : k ≤ t ∧ t < k + ((n + 1 : ℕ) : ℤ)
      · rw [if_pos h, if_pos (by push_cast at h; omega)]
        congr 1; ring
      · rw [if_neg h, if_neg (by push_cast at h; omega)]
        congr 1; push_cast; ring

/-- **The inner worst-fit loop**: a hole is remembered as one byte smaller than it is. -/
lemma huecoWorst_eq : ∀ (n : ℕ) (ind k : ℤ) (m : SegMax),
    huecoWorst n ind k m =
      (ind + n, if 0 < n ∧ m.tam < k + n - 1 then ⟨ind - k, k + n - 1⟩ else m)
  | 0, ind, k, m => by simp [huecoWorst]
  | n + 1, ind, k, m => by
    unfold huecoWorst
    rw [huecoWorst_eq n]
    refine Prod.ext (by push_cast; ring) ?_
    have e1 : ind + 1 - (k + 1) = ind - k := by ring
    have e2 : k + 1 + (n : ℤ) - 1 = k + n := by ring
    have e3 : k + ((n + 1 : ℕ) : ℤ) - 1 = k + n := by push_cast; ring
    simp only [e1, e2, e3, Nat.succ_pos, true_and]
    by_cases hm : m.tam < k
    · rw [if_pos hm, if_pos (show m.tam < k + n by omega)]
      rcases Nat.eq_zero_or_pos n with rfl | hn
      · simp
      · rw [if_pos ⟨hn, show k < k + (n : ℤ) by omega⟩]
    · rw [if_neg hm]
      by_cases hk : m.tam < k + n
      · rw [if_pos hk, if_pos ⟨by omega, hk⟩]
      · rw [if_neg hk, if_neg (fun h => hk h.2)]

section Search

variable {tot t : ℤ}

/-- Space before the first segment of an ordered table is free of all of it. -/
lemma libre_antes {s : Seg} {l : List Seg} {p : ℤ} (h : Tabla tot (s :: l))
    (hs : Sorted Seg.dirFisica (s :: l)) (ht : 0 ≤ t) (hp : 0 ≤ p) (hps : p + t ≤ s.dirFisica) :
    Libre tot (s :: l) p t := by
  have hfit := h.fits s (List.mem_cons_self ..)
  have h0 := h.size_nonneg s (List.mem_cons_self ..)
  refine ⟨hp, by omega, fun b hb => ?_⟩
  have hsb : s.dirFisica ≤ b.dirFisica := by
    rcases List.mem_cons.1 hb with rfl | hb'
    · exact le_rfl
    · exact (List.pairwise_cons.1 hs).1 b hb'
  have hb0 := h.size_nonneg b hb
  have key : Disjoint (span Seg.dirFisica Seg.tamSeg b)
      (span Seg.dirFisica Seg.tamSeg ⟨0, 0, p, t, 0⟩) :=
    disjoint_hole le_rfl hps ht hb0 (Or.inr hsb)
  exact key

/-- Space after the first segment that is free of the others is free of all. -/
lemma Libre.cons {s : Seg} {l : List Seg} {p : ℤ} (h : Libre tot l p t) (ht : 0 ≤ t)
    (hs0 : 0 ≤ s.tamSeg) (hps : s.dirFisica + s.tamSeg ≤ p) : Libre tot (s :: l) p t := by
  refine ⟨h.nonneg, h.fits, fun b hb => ?_⟩
  rcases List.mem_cons.1 hb with rfl | hb
  · have key : Disjoint (span Seg.dirFisica Seg.tamSeg b)
        (span Seg.dirFisica Seg.tamSeg ⟨0, 0, p, t, 0⟩) :=
      disjoint_hole le_rfl le_rfl ht hs0 (Or.inl hps)
    exact key
  · exact h.disjoint b hb

/-- **First fit answers free space**: an address at or after the cursor, or `-1`. -/
theorem firstFit_spec (ht : 0 ≤ t) : ∀ (l : List Seg) (ind : ℤ), Tabla tot l →
    Sorted Seg.dirFisica l → Clear Seg.dirFisica Seg.tamSeg ind l → 0 ≤ ind → ind ≤ tot →
    firstFit tot t l ind ≠ -1 →
      ind ≤ firstFit tot t l ind ∧ Libre tot l (firstFit tot t l ind) t
  | [], ind, _, _, _, h0, _, hne => by
    unfold firstFit at hne ⊢
    by_cases hfit : t ≤ tot - ind
    · rw [if_pos hfit]
      exact ⟨le_rfl, h0, by omega, by simp⟩
    · rw [if_neg hfit] at hne
      exact absurd rfl hne
  | s :: l, ind, h, hs, hc, h0, htot, hne => by
    have hs0 := h.size_nonneg s (List.mem_cons_self ..)
    unfold firstFit at hne ⊢
    rw [huecoFirst_eq] at hne ⊢
    by_cases hcase : 0 ≤ t ∧ t < 0 + ((s.dirFisica - ind).toNat : ℤ)
    · -- the hole before the segment has more than `t` bytes
      rw [if_pos hcase]
      simp only [sub_zero]
      exact ⟨le_rfl, libre_antes h hs ht h0 (by omega)⟩
    · -- the cursor moves past the segment
      rw [if_neg hcase] at hne ⊢
      have hmax : ind + ((s.dirFisica - ind).toNat : ℤ) = max ind s.dirFisica := by omega
      simp only [hmax] at hne ⊢
      have ih := firstFit_spec ht l (max ind s.dirFisica + s.tamSeg) h.tail
        (List.pairwise_cons.1 hs).2 (h.clear_step hs hc) (by omega) (h.cur_step hc htot) hne
      have := le_max_left ind s.dirFisica
      have := le_max_right ind s.dirFisica
      exact ⟨by omega, ih.2.cons ht hs0 (by omega)⟩

/-- **Worst fit answers free space**: the hole it remembers, if that is large enough, or one at or
after the cursor, or `-1`. -/
theorem worstFit_spec (ht : 0 ≤ t) : ∀ (l : List Seg) (ind : ℤ) (m : SegMax), Tabla tot l →
    Sorted Seg.dirFisica l → Clear Seg.dirFisica Seg.tamSeg ind l → 0 ≤ ind → ind ≤ tot →
    worstFit tot t l ind m ≠ -1 →
      (worstFit tot t l ind m = m.pos ∧ t ≤ m.tam) ∨
        (ind ≤ worstFit tot t l ind m ∧ Libre tot l (worstFit tot t l ind m) t)
  | [], ind, m, _, _, _, h0, _, hne => by
    unfold worstFit at hne ⊢
    by_cases hm : m.tam < tot - ind
    · simp only [if_pos hm] at hne ⊢
      by_cases hfit : t ≤ tot - ind
      · rw [if_pos hfit]
        exact Or.inr ⟨le_rfl, h0, by omega, by simp⟩
      · rw [if_neg hfit] at hne
        exact absurd rfl hne
    · simp only [if_neg hm] at hne ⊢
      by_cases hfit : t ≤ m.tam
      · rw [if_pos hfit]
        exact Or.inl ⟨rfl, hfit⟩
      · rw [if_neg hfit] at hne
        exact absurd rfl hne
  | s :: l, ind, m, h, hs, hc, h0, htot, hne => by
    have hs0 := h.size_nonneg s (List.mem_cons_self ..)
    unfold worstFit at hne ⊢
    rw [huecoWorst_eq] at hne ⊢
    have hmax : ind + ((s.dirFisica - ind).toNat : ℤ) = max ind s.dirFisica := by omega
    have hl := le_max_left ind s.dirFisica
    have hr := le_max_right ind s.dirFisica
    simp only [hmax] at hne ⊢
    have ih := worstFit_spec ht l (max ind s.dirFisica + s.tamSeg) _ h.tail
      (List.pairwise_cons.1 hs).2 (h.clear_step hs hc) (by omega) (h.cur_step hc htot) hne
    rcases ih with ⟨hpos, hfit⟩ | ⟨hle, hlib⟩
    · -- the answer is the remembered hole: the one just walked, or an earlier one
      by_cases hnew : 0 < (s.dirFisica - ind).toNat ∧
          m.tam < 0 + ((s.dirFisica - ind).toNat : ℤ) - 1
      · rw [if_pos hnew] at hpos hfit
        simp only [sub_zero] at hpos hfit
        right
        rw [if_pos hnew]
        simp only [sub_zero]
        rw [hpos]
        exact ⟨le_rfl, libre_antes h hs ht h0 (by omega)⟩
      · rw [if_neg hnew] at hpos hfit
        left
        rw [if_neg hnew]
        exact ⟨hpos, hfit⟩
    · exact Or.inr ⟨by omega, hlib.cons ht hs0 (by omega)⟩

end Search

lemma ordenar_tabla {u : Estado} (ls : ListSort) (h : Tabla u.tamMemTotal u.listSeg) :
    Tabla u.tamMemTotal (ls.sort u.listSeg) :=
  Layout.perm h (ls.perm _).symm

/-- **The search**: it only orders the table, and an answer other than `-1` is free space. -/
theorem buscarEspacioMemPrin_spec {u : Estado} {t : ℤ} (ls : ListSort) (htot : 0 ≤ u.tamMemTotal)
    (h : Tabla u.tamMemTotal u.listSeg) (ht : 0 ≤ t)
    (hne : (buscarEspacioMemPrin ls t u).2 ≠ -1) :
    Libre u.tamMemTotal (ls.sort u.listSeg) (buscarEspacioMemPrin ls t u).2 t := by
  have hT := ordenar_tabla ls h
  have hs := ls.sorted u.listSeg
  have hc := clear_of_nonneg hT
  unfold buscarEspacioMemPrin ordenarListaSegPorDirFisica at hne ⊢
  simp only at hne ⊢
  by_cases hm : u.algActual = firstFitMode
  · simp only [if_pos hm] at hne ⊢
    exact (firstFit_spec ht _ 0 hT hs hc le_rfl htot hne).2
  · simp only [if_neg hm] at hne ⊢
    rcases worstFit_spec ht _ 0 ⟨-1, -1⟩ hT hs hc le_rfl htot hne with ⟨-, hfit⟩ | ⟨-, hlib⟩
    · simp only at hfit; omega
    · exact hlib

/-! ### Compaction -/

/-- The segments packed from an address on, in their order. -/
def empaquetar : ℤ → List Seg → List Seg
  | _, [] => []
  | ind, s :: l => { s with dirFisica := ind } :: empaquetar (ind + s.tamSeg) l

/-- **The table after the loop of `compactar`**, whatever the loop copies. -/
theorem compactarLoop_fst (pila : ℕ → ℕ → Byte) : ∀ (l : List Seg) (i : ℕ) (ind : ℤ)
    (mem : ℤ → Byte), (compactarLoop pila i ind mem l).1 = empaquetar ind l
  | [], _, _, _ => rfl
  | s :: l, i, ind, mem => by
    unfold compactarLoop empaquetar
    by_cases h : ind = s.dirFisica
    · rw [if_pos h]
      simp only [compactarLoop_fst pila l, h]
    · rw [if_neg h]
      simp only [compactarLoop_fst pila l]

lemma empaquetar_packed : ∀ (l : List Seg) (ind : ℤ),
    Packed Seg.dirFisica Seg.tamSeg ind (empaquetar ind l)
  | [], _ => trivial
  | s :: l, ind => ⟨rfl, empaquetar_packed l (ind + s.tamSeg)⟩

lemma empaquetar_tamSeg (l : List Seg) (ind : ℤ) :
    (empaquetar ind l).map Seg.tamSeg = l.map Seg.tamSeg := by
  induction l generalizing ind with
  | nil => rfl
  | cons s l ih => simp only [empaquetar, List.map_cons, ih]

lemma mem_empaquetar_tamSeg {l : List Seg} {ind : ℤ} (h0 : ∀ s ∈ l, 0 ≤ s.tamSeg) :
    ∀ s ∈ empaquetar ind l, 0 ≤ s.tamSeg := by
  intro s hs
  have hmem : s.tamSeg ∈ (empaquetar ind l).map Seg.tamSeg := List.mem_map_of_mem hs
  rw [empaquetar_tamSeg] at hmem
  obtain ⟨s', hs', he⟩ := List.mem_map.1 hmem
  rw [← he]
  exact h0 s' hs'

/-- Packing an ordered table gives a table. -/
theorem empaquetar_tabla {tot : ℤ} {l : List Seg} (htot : 0 ≤ tot) (h : Tabla tot l)
    (hs : Sorted Seg.dirFisica l) : Tabla tot (empaquetar 0 l) := by
  have hsum := Layout.sum_le h hs (clear_of_nonneg h) htot
  have htotal : total Seg.tamSeg (empaquetar 0 l) = total Seg.tamSeg l := by
    unfold total; rw [empaquetar_tamSeg]
  exact (empaquetar_packed l 0).layout (mem_empaquetar_tamSeg h.size_nonneg) le_rfl
    (by rw [htotal]; exact hsum)

lemma compactar_listSeg (ls : ListSort) (pila : ℕ → ℕ → Byte) (u : Estado) :
    (compactar ls pila u).listSeg = empaquetar 0 (ls.sort u.listSeg) :=
  compactarLoop_fst pila _ 0 0 _

theorem compactar_tabla {u : Estado} (ls : ListSort) (pila : ℕ → ℕ → Byte)
    (htot : 0 ≤ u.tamMemTotal) (h : Tabla u.tamMemTotal u.listSeg) :
    Tabla u.tamMemTotal (compactar ls pila u).listSeg := by
  rw [compactar_listSeg]
  exact empaquetar_tabla htot (ordenar_tabla ls h) (ls.sorted _)

/-! ### The other functions -/

/-- The loop of `destruirSegmentos` leaves the segments of the other processes. -/
lemma eliminarMientras_eq_filter (p : Seg → Bool) : ∀ (n : ℕ) (l : List Seg), l.length ≤ n →
    eliminarMientras p n l = l.filter fun s => !p s
  | 0, l, hn => by
    have hl : l = [] := List.eq_nil_of_length_eq_zero (by omega)
    rw [hl]
    rfl
  | n + 1, l, hn => by
    unfold eliminarMientras
    by_cases h : l.any p
    · obtain ⟨a, ha, hpa⟩ := List.any_eq_true.1 h
      obtain ⟨b, l₁, l₂, h1, hb, rfl, he⟩ := List.exists_of_eraseP ha hpa
      have hlen : (l₁ ++ l₂).length ≤ n := by simp at hn ⊢; omega
      rw [if_pos h, he, eliminarMientras_eq_filter p n _ hlen]
      simp [hb]
    · rw [if_neg h]
      have hall : ∀ a ∈ l, (!p a) = true := by
        intro a ha
        by_contra hpa
        exact h (List.any_eq_true.2 ⟨a, ha, by simpa using hpa⟩)
      rw [List.filter_eq_self.2 hall]

lemma destruirSegmentos_listSeg (idProg : ℤ) (u : Estado) :
    (destruirSegmentos idProg u).listSeg =
      if idProg = 0 then [] else u.listSeg.filter fun seg => !(seg.idProc == idProg) := by
  unfold destruirSegmentos
  by_cases h : idProg = 0
  · rw [if_pos h, if_pos h]
  · rw [if_neg h, if_neg h]
    exact eliminarMientras_eq_filter _ _ _ le_rfl

lemma destruirSegmentos_sublist (idProg : ℤ) (u : Estado) :
    (destruirSegmentos idProg u).listSeg.Sublist u.listSeg := by
  rw [destruirSegmentos_listSeg]
  split
  · exact List.nil_sublist _
  · exact List.filter_sublist

lemma agregarSegmento_tabla {u : Estado} {menPed : MenSeg} {resp : ℤ} (rand : ℤ)
    (h : Tabla u.tamMemTotal u.listSeg) (h0 : 0 ≤ menPed.tamSeg)
    (hl : Libre u.tamMemTotal u.listSeg resp menPed.tamSeg) :
    Tabla u.tamMemTotal (agregarSegmento rand menPed resp u).1.listSeg :=
  h.snoc h0 hl

/-- **`crearSegmento` keeps the table**, in both modes and with or without a compaction. -/
theorem crearSegmento_tabla {u : Estado} {menPed : MenSeg} (e : Entorno)
    (htot : 0 ≤ u.tamMemTotal) (h : Tabla u.tamMemTotal u.listSeg) (h0 : 0 ≤ menPed.tamSeg) :
    (crearSegmento e menPed u).1.tamMemTotal = u.tamMemTotal ∧
      Tabla u.tamMemTotal (crearSegmento e menPed u).1.listSeg := by
  unfold crearSegmento
  simp only
  have hT := ordenar_tabla (e.listSort 0) h
  by_cases h1 : (buscarEspacioMemPrin (e.listSort 0) menPed.tamSeg u).2 = -1
  · rw [if_pos h1]
    -- the table after the compaction that the failed search asks for
    set u₁ : Estado := compactar (e.listSort 1) e.pila
      (buscarEspacioMemPrin (e.listSort 0) menPed.tamSeg u).1 with hu₁
    have htot₁ : u₁.tamMemTotal = u.tamMemTotal := rfl
    have hC : Tabla u₁.tamMemTotal u₁.listSeg :=
      compactar_tabla (u := (buscarEspacioMemPrin (e.listSort 0) menPed.tamSeg u).1)
        (e.listSort 1) e.pila htot hT
    have hC₂ := ordenar_tabla (e.listSort 2) hC
    by_cases h2 : (buscarEspacioMemPrin (e.listSort 2) menPed.tamSeg u₁).2 = -1
    · rw [if_pos h2]
      exact ⟨htot₁, hC₂⟩
    · rw [if_neg h2]
      have hlib := buscarEspacioMemPrin_spec (e.listSort 2) (u := u₁) htot hC h0 h2
      exact ⟨htot₁, agregarSegmento_tabla (u := (buscarEspacioMemPrin (e.listSort 2)
        menPed.tamSeg u₁).1) e.rand hC₂ h0 hlib⟩
  · rw [if_neg h1]
    have hlib := buscarEspacioMemPrin_spec (e.listSort 0) htot h h0 h1
    exact ⟨rfl, agregarSegmento_tabla (u := (buscarEspacioMemPrin (e.listSort 0)
      menPed.tamSeg u).1) e.rand hT h0 hlib⟩

lemma almacenarSegmento_frame (auxMen : MenComun) (idProc : ℤ) (u : Estado) :
    (almacenarSegmento auxMen idProc u).listSeg = u.listSeg ∧
      (almacenarSegmento auxMen idProc u).tamMemTotal = u.tamMemTotal := by
  unfold almacenarSegmento
  split
  · exact ⟨rfl, rfl⟩
  · split <;> exact ⟨rfl, rfl⟩

lemma almacenarBytes_frame {idProc base offset tam : ℤ} {buffer : List Byte} {u u' : Estado}
    {r : ℤ} (h : almacenarBytes idProc base offset tam buffer u = some (u', r)) :
    u'.listSeg = u.listSeg ∧ u'.tamMemTotal = u.tamMemTotal := by
  unfold almacenarBytes at h
  split at h
  · cases h; exact ⟨rfl, rfl⟩
  · split at h
    · cases h
    · simp only at h
      split at h
      · cases h
      · split at h
        · cases h; exact ⟨rfl, rfl⟩
        · split at h
          · cases h
          · cases h; exact ⟨rfl, rfl⟩

/-! ### Runs -/

/-- **One call keeps the table.** -/
theorem Llamada.paso_tabla {c : Llamada} {u u' : Estado} (hc : c.Admitida)
    (htot : 0 ≤ u.tamMemTotal) (h : Tabla u.tamMemTotal u.listSeg) (hp : c.paso u = some u') :
    u'.tamMemTotal = u.tamMemTotal ∧ Tabla u.tamMemTotal u'.listSeg := by
  cases c with
  | crearSegmento e menPed =>
    cases hp
    exact crearSegmento_tabla e htot h hc
  | destruirSegmentos idProg =>
    cases hp
    refine ⟨?_, Layout.sublist h (destruirSegmentos_sublist idProg u)⟩
    unfold Umv.destruirSegmentos
    split <;> rfl
  | compactar ls pila =>
    cases hp
    exact ⟨rfl, compactar_tabla ls pila htot h⟩
  | cambiarAlgoritmo =>
    cases hp
    unfold Umv.cambiarAlgoritmo
    split <;> exact ⟨rfl, h⟩
  | almacenarSegmento auxMen idProc =>
    cases hp
    obtain ⟨h1, h2⟩ := almacenarSegmento_frame auxMen idProc u
    exact ⟨h2, by rw [h1]; exact h⟩
  | almacenarBytes idProc base offset tam buffer =>
    obtain ⟨⟨v, r⟩, hr, rfl⟩ := Option.map_eq_some_iff.1 hp
    obtain ⟨h1, h2⟩ := almacenarBytes_frame hr
    exact ⟨h2, by rw [h1]; exact h⟩
  | solicitarBytes idProc base offset tam =>
    obtain ⟨r, -, rfl⟩ := Option.map_eq_some_iff.1 hp
    exact ⟨rfl, h⟩

/-- A run of admitted calls keeps the table. -/
theorem correr_tabla : ∀ (cs : List Llamada) {u u' : Estado}, (∀ c ∈ cs, c.Admitida) →
    0 ≤ u.tamMemTotal → Tabla u.tamMemTotal u.listSeg → correr cs u = some u' →
    u'.tamMemTotal = u.tamMemTotal ∧ Tabla u.tamMemTotal u'.listSeg
  | [], u, u', _, _, h, hr => by
    cases hr
    exact ⟨rfl, h⟩
  | c :: cs, u, u', hcs, htot, h, hr => by
    obtain ⟨v, hv, hr⟩ := Option.bind_eq_some_iff.1 hr
    obtain ⟨h1, h2⟩ := c.paso_tabla (hcs c (List.mem_cons_self ..)) htot h hv
    obtain ⟨h3, h4⟩ := correr_tabla cs (fun d hd => hcs d (List.mem_cons_of_mem _ hd))
      (by rw [h1]; exact htot) (by rw [h1]; exact h2) hr
    rw [h1] at h3 h4
    exact ⟨h3, h4⟩

/-- **The segment-table invariant.** In every state that a run of the UMV reaches, every segment
lies inside the main memory and no two segments share an address. -/
theorem correr_inicial_valida (memPrin : ℤ → Byte) (algActual tamMemTotal : ℤ)
    (htot : 0 ≤ tamMemTotal) (cs : List Llamada) (hcs : ∀ c ∈ cs, c.Admitida) (u : Estado)
    (hu : correr cs (inicial memPrin algActual tamMemTotal) = some u) :
    (∀ s ∈ u.listSeg, 0 ≤ s.dirFisica ∧ s.dirFisica + s.tamSeg ≤ tamMemTotal) ∧
      u.listSeg.Pairwise fun s t =>
        Disjoint (Set.Ico s.dirFisica (s.dirFisica + s.tamSeg))
          (Set.Ico t.dirFisica (t.dirFisica + t.tamSeg)) := by
  obtain ⟨-, hT⟩ := correr_tabla cs hcs (u := inicial memPrin algActual tamMemTotal) htot
    Layout.nil hu
  exact ⟨fun s hs => ⟨hT.pos_nonneg s hs, hT.fits s hs⟩, hT.disjoint⟩

/-- A call of `crearSegmento` under insertion sort, for a given kind and logical address. -/
def pedir (tipo : TipoDatos) (idProg tamSeg rand : ℤ) : Llamada :=
  .crearSegmento ⟨fun _ => .insercion, fun _ _ => 0, rand⟩ ⟨tipo, idProg, tamSeg⟩

/-- A run of ten bytes of memory that frees the front, needs a compaction to serve a request of
five bytes, and ends with a segment of size zero under the other mode. -/
def corridaFragmentada : List Llamada :=
  [pedir .pedMemSegCod 1 4 100, pedir .pedMemSegStack 2 3 200, .destruirSegmentos 1,
    pedir .pedMemIndCod 3 5 300, .cambiarAlgoritmo, pedir .pedMemIndEti 4 0 400]

theorem correr_inicial_valida_fragmentada :
    ∃ u, correr corridaFragmentada (inicial (fun _ => 7) firstFitMode 10) = some u ∧
      u.listSeg.map Seg.dirFisica = [0, 3, 8] ∧
      (∀ s ∈ u.listSeg, 0 ≤ s.dirFisica ∧ s.dirFisica + s.tamSeg ≤ 10) ∧
      u.listSeg.Pairwise fun s t =>
        Disjoint (Set.Ico s.dirFisica (s.dirFisica + s.tamSeg))
          (Set.Ico t.dirFisica (t.dirFisica + t.tamSeg)) :=
  ⟨_, rfl, by decide, correr_inicial_valida (fun _ => 7) firstFitMode 10 (by decide)
    corridaFragmentada (by simp [corridaFragmentada, pedir, Llamada.Admitida]) _ rfl⟩

end Ansisop.Umv
