import Ansisop.Umv.Isolation
import Ansisop.Lib.Holes

/-!
What the two searches find. Both are sweeps over the ordered table, and both see the *room* of
`Ansisop.Lib.Holes`: a range that a segment follows counts for one byte less than it has, and a
segment of size zero cuts the range it lies in.

First fit answers the first place with room for the request (`firstFit_isLeast`), worst fit the
first place with room for as many bytes as there is room for anywhere (`segMax_spec`). Both fail
exactly when there is no room (`buscarEspacioMemPrin_eq_neg_one`). The theorems at the end compare
this with the holes of the memory, and with what a compaction makes of them.
-/

namespace Ansisop.Umv

open Ansisop.Sockets Ansisop.Lib Ansisop.Lib.Blocks

/-- `k` bytes that a search from the cursor on meets. -/
abbrev Lugar (tot : ℤ) (l : List Seg) (k cur x : ℤ) : Prop :=
  Room Seg.dirFisica Seg.tamSeg tot l k cur x

/-- A maximal range of the main memory that no segment occupies. -/
abbrev Hueco (tot : ℤ) (l : List Seg) (lo hi : ℤ) : Prop :=
  Hole Seg.dirFisica Seg.tamSeg tot l lo hi

/-! ### First fit -/

/-- **First fit answers the first place with room**, or `-1` when there is none. -/
theorem firstFit_isLeast {tot t : ℤ} (ht : 0 ≤ t) : ∀ (l : List Seg) (ind : ℤ), Tabla tot l →
    Sorted Seg.dirFisica l → Clear Seg.dirFisica Seg.tamSeg ind l →
    IsLeast {x | Lugar tot l t ind x} (firstFit tot t l ind) ∨
      (firstFit tot t l ind = -1 ∧ ∀ x, ¬ Lugar tot l t ind x)
  | [], ind, _, _, _ => by
    unfold firstFit
    by_cases hfit : t ≤ tot - ind
    · rw [if_pos hfit]
      exact .inl ⟨room_nil.2 ⟨rfl, by omega⟩, fun x hx => hx.le⟩
    · rw [if_neg hfit]
      refine .inr ⟨rfl, fun x hx => ?_⟩
      have := room_nil.1 hx
      omega
  | s :: l, ind, h, hs, hc => by
    have hstep := fun x => room_cons (x := x) h hs hc ht
    unfold firstFit
    rw [huecoFirst_eq]
    by_cases hcase : 0 ≤ t ∧ t < 0 + ((s.dirFisica - ind).toNat : ℤ)
    · -- the hole before the segment has more than `t` bytes
      rw [if_pos hcase]
      simp only [sub_zero]
      exact .inl ⟨(hstep ind).2 (.inl ⟨rfl, by omega⟩), fun x hx => hx.le⟩
    · -- the room left is the room behind the segment
      rw [if_neg hcase]
      have hmax : ind + ((s.dirFisica - ind).toNat : ℤ) = max ind s.dirFisica := by omega
      simp only [hmax]
      have hresto : ∀ x, Lugar tot (s :: l) t ind x ↔
          Lugar tot l t (max ind s.dirFisica + s.tamSeg) x := by
        intro x
        refine (hstep x).trans ⟨fun hx => hx.resolve_left ?_, .inr⟩
        omega
      simp only [hresto]
      exact firstFit_isLeast ht l _ h.tail (List.pairwise_cons.1 hs).2 (h.clear_step hs hc)

/-! ### Worst fit -/

/-- `pos_seg_max` and `tam_seg_max` after the search, from the cursor `ind_mem` on. -/
def segMax (tamMemTotal : ℤ) : List Seg → ℤ → SegMax → SegMax
  | [], indMem, m =>
    if m.tam < tamMemTotal - indMem then ⟨indMem, tamMemTotal - indMem⟩ else m
  | auxSeg :: l, indMem, m =>
    let r := huecoWorst (auxSeg.dirFisica - indMem).toNat indMem 0 m
    segMax tamMemTotal l (r.1 + auxSeg.tamSeg) r.2

lemma worstFit_eq_segMax (tot t : ℤ) (l : List Seg) : ∀ (ind : ℤ) (m : SegMax),
    worstFit tot t l ind m =
      if t ≤ (segMax tot l ind m).tam then (segMax tot l ind m).pos else -1 := by
  induction l with
  | nil => exact fun _ _ => rfl
  | cons s l ih =>
    intro ind m
    exact ih _ _

/-- **What worst fit remembers**: the first place with room for the most bytes, if that is more than
what it remembered before. -/
theorem segMax_spec {tot : ℤ} : ∀ (l : List Seg) (ind : ℤ) (m : SegMax), -1 ≤ m.tam →
    Tabla tot l → Sorted Seg.dirFisica l → Clear Seg.dirFisica Seg.tamSeg ind l →
    (segMax tot l ind m = m ∨ m.tam < (segMax tot l ind m).tam ∧
        IsLeast {x | Lugar tot l (segMax tot l ind m).tam ind x} (segMax tot l ind m).pos) ∧
      ∀ k x, (segMax tot l ind m).tam < k → ¬ Lugar tot l k ind x
  | [], ind, m, hm, _, _, _ => by
    unfold segMax
    by_cases hcase : m.tam < tot - ind
    · rw [if_pos hcase]
      have hfit : ind + (tot - ind) ≤ tot := by omega
      refine ⟨.inr ⟨hcase, room_nil.2 ⟨rfl, hfit⟩, fun x hx => hx.le⟩, fun k x hk hx => ?_⟩
      have hk : tot - ind < k := hk
      have := room_nil.1 hx
      omega
    · rw [if_neg hcase]
      refine ⟨.inl rfl, fun k x hk hx => ?_⟩
      have := room_nil.1 hx
      omega
  | s :: l, ind, m, hm, h, hs, hc => by
    unfold segMax
    rw [huecoWorst_eq]
    have hmax : ind + ((s.dirFisica - ind).toNat : ℤ) = max ind s.dirFisica := by omega
    simp only [hmax, sub_zero, zero_add]
    -- room for more than the hole before the segment is room behind the segment
    have hresto : ∀ k x, 0 ≤ k → s.dirFisica ≤ ind + k →
        (Lugar tot (s :: l) k ind x ↔ Lugar tot l k (max ind s.dirFisica + s.tamSeg) x) := by
      intro k x hk hle
      refine (room_cons h hs hc hk).trans ⟨fun hx => hx.resolve_left ?_, .inr⟩
      omega
    by_cases hnew : 0 < (s.dirFisica - ind).toNat ∧ m.tam < ((s.dirFisica - ind).toNat : ℤ) - 1
    · rw [if_pos hnew]
      obtain ⟨hmem, hfin⟩ := segMax_spec l (max ind s.dirFisica + s.tamSeg)
        ⟨ind, ((s.dirFisica - ind).toNat : ℤ) - 1⟩ (by show -1 ≤ ((_ : ℕ) : ℤ) - 1; omega) h.tail
        (List.pairwise_cons.1 hs).2 (h.clear_step hs hc)
      set r := segMax tot l (max ind s.dirFisica + s.tamSeg)
        ⟨ind, ((s.dirFisica - ind).toNat : ℤ) - 1⟩ with hr
      have hrtam : ((s.dirFisica - ind).toNat : ℤ) - 1 ≤ r.tam := by
        rcases hmem with heq | ⟨hlt, -⟩
        · rw [heq]
        · exact hlt.le
      refine ⟨.inr ⟨by omega, ?_⟩, fun k x hk hx => ?_⟩
      · rcases hmem with heq | ⟨hlt, hleast⟩
        · -- the hole just walked
          rw [heq]
          have hk : 0 ≤ ((s.dirFisica - ind).toNat : ℤ) - 1 := by omega
          have hlt : ind + (((s.dirFisica - ind).toNat : ℤ) - 1) < s.dirFisica := by omega
          exact ⟨(room_cons h hs hc hk).2 (.inl ⟨rfl, hlt⟩), fun x hx => hx.le⟩
        · have hlt : ((s.dirFisica - ind).toNat : ℤ) - 1 < r.tam := hlt
          simp only [hresto r.tam _ (by omega) (by omega)]
          exact hleast
      · exact hfin k x hk ((hresto k x (by omega) (by omega)).1 hx)
    · rw [if_neg hnew]
      obtain ⟨hmem, hfin⟩ := segMax_spec l (max ind s.dirFisica + s.tamSeg) m hm h.tail
        (List.pairwise_cons.1 hs).2 (h.clear_step hs hc)
      set r := segMax tot l (max ind s.dirFisica + s.tamSeg) m with hr
      have hrtam : m.tam ≤ r.tam := by
        rcases hmem with heq | ⟨hlt, -⟩
        · rw [heq]
        · exact hlt.le
      refine ⟨hmem.imp id fun hmem => ⟨hmem.1, ?_⟩, fun k x hk hx => ?_⟩
      · have hlt := hmem.1
        simp only [hresto r.tam _ (by omega) (by omega)]
        exact hmem.2
      · exact hfin k x hk ((hresto k x (by omega) (by omega)).1 hx)

/-! ### Both searches -/

section Both

variable {u : Estado} {t : ℤ}

/-- What the search remembers in worst fit is the widest place, and it has some. -/
lemma segMax_widest (ls : ListSort) (hT : Tabla u.tamMemTotal u.listSeg) :
    (segMax u.tamMemTotal (ls.sort u.listSeg) 0 ⟨-1, -1⟩ = ⟨-1, -1⟩ ∧
        ∀ k x, 0 ≤ k → ¬ Lugar u.tamMemTotal u.listSeg k 0 x) ∨
      Widest Seg.dirFisica Seg.tamSeg u.tamMemTotal u.listSeg
        (segMax u.tamMemTotal (ls.sort u.listSeg) 0 ⟨-1, -1⟩).tam
        (segMax u.tamMemTotal (ls.sort u.listSeg) 0 ⟨-1, -1⟩).pos := by
  have hT' := ordenar_tabla ls hT
  obtain ⟨hmem, hfin⟩ := segMax_spec _ 0 ⟨-1, -1⟩ le_rfl hT' (ls.sorted _) (clear_of_nonneg hT')
  simp only [Lugar, room_perm (ls.perm u.listSeg)] at hmem hfin
  rcases hmem with heq | ⟨-, hroom, hfirst⟩
  · rw [heq] at hfin
    exact .inl ⟨heq, fun k x hk => hfin k x (by show -1 < k; omega)⟩
  · exact .inr ⟨hroom, fun y hy => hfirst hy, hfin⟩

/-- **The answer of a search**: a place with room for the request, or `-1` if there is none. -/
theorem buscarEspacioMemPrin_lugar (ls : ListSort) (hT : Tabla u.tamMemTotal u.listSeg)
    (ht : 0 ≤ t) :
    Lugar u.tamMemTotal u.listSeg t 0 (buscarEspacioMemPrin ls t u).2 ∨
      ((buscarEspacioMemPrin ls t u).2 = -1 ∧ ∀ x, ¬ Lugar u.tamMemTotal u.listSeg t 0 x) := by
  have hT' := ordenar_tabla ls hT
  unfold buscarEspacioMemPrin ordenarListaSegPorDirFisica
  simp only
  by_cases hm : u.algActual = firstFitMode
  · rw [if_pos hm]
    have hfirst := firstFit_isLeast ht _ 0 hT' (ls.sorted _) (clear_of_nonneg hT')
    simp only [Lugar, room_perm (ls.perm u.listSeg)] at hfirst
    exact hfirst.imp (fun h => h.1) id
  · rw [if_neg hm, worstFit_eq_segMax]
    rcases segMax_widest ls hT with ⟨heq, hno⟩ | hW
    · rw [heq, if_neg (by show ¬ t ≤ -1; omega)]
      exact .inr ⟨rfl, fun x => hno t x ht⟩
    · by_cases hle : t ≤ (segMax u.tamMemTotal (ls.sort u.listSeg) 0 ⟨-1, -1⟩).tam
      · rw [if_pos hle]
        exact .inl (hW.room.mono hle)
      · rw [if_neg hle]
        refine .inr ⟨rfl, fun x hx => hW.most t x (by omega) hx⟩

/-- A search fails exactly when there is no room for the request. -/
lemma buscarEspacioMemPrin_eq_neg_one (ls : ListSort) (hT : Tabla u.tamMemTotal u.listSeg)
    (ht : 0 ≤ t) :
    (buscarEspacioMemPrin ls t u).2 = -1 ↔ ∀ x, ¬ Lugar u.tamMemTotal u.listSeg t 0 x := by
  rcases buscarEspacioMemPrin_lugar ls hT ht with hr | ⟨heq, hno⟩
  · refine ⟨fun heq => ?_, fun hno => absurd hr (hno _)⟩
    have := hr.le
    omega
  · exact ⟨fun _ => hno, fun _ => heq⟩

/-! ### The holes of the memory -/

/-- What a first-fit search should answer: the start of the first hole that fits, or `-1` when no
hole fits. -/
def PrimeroExacto (u : Estado) (t r : ℤ) : Prop :=
  (∃ hi, FirstHole Seg.dirFisica Seg.tamSeg u.tamMemTotal u.listSeg t r hi) ∨
    (r = -1 ∧ ∀ lo hi, Hueco u.tamMemTotal u.listSeg lo hi → hi - lo < t)

/-- What a worst-fit search should answer: the start of a largest hole, if that fits, and `-1`
otherwise. -/
def MaximoExacto (u : Estado) (t r : ℤ) : Prop :=
  (∃ hi, LargestHole Seg.dirFisica Seg.tamSeg u.tamMemTotal u.listSeg r hi ∧ t ≤ hi - r) ∨
    (r = -1 ∧ ∀ lo hi, Hueco u.tamMemTotal u.listSeg lo hi → hi - lo < t)

/-- **When first fit is exact**: exactly when no segment starts inside the first hole that fits up
to the byte after the request, so when that hole has a byte more than the request or is followed by
no segment, and no segment of size zero cuts it. -/
theorem buscarEspacioMemPrin_primero_iff (ls : ListSort) (hm : u.algActual = firstFitMode)
    (hT : Tabla u.tamMemTotal u.listSeg) (ht : 1 ≤ t) :
    PrimeroExacto u t (buscarEspacioMemPrin ls t u).2 ↔
      ∀ lo hi, FirstHole Seg.dirFisica Seg.tamSeg u.tamMemTotal u.listSeg t lo hi →
        ∀ s ∈ u.listSeg, ¬ (lo < s.dirFisica ∧ s.dirFisica ≤ lo + t) := by
  have hT' := ordenar_tabla ls hT
  have hres : (buscarEspacioMemPrin ls t u).2 =
      firstFit u.tamMemTotal t (ls.sort u.listSeg) 0 := by
    unfold buscarEspacioMemPrin ordenarListaSegPorDirFisica
    exact if_pos hm
  have hfirst := firstFit_isLeast (t := t) (by omega) _ 0 hT' (ls.sorted _) (clear_of_nonneg hT')
  simp only [Lugar, room_perm (ls.perm u.listSeg)] at hfirst
  rw [← hres] at hfirst
  set r := (buscarEspacioMemPrin ls t u).2
  constructor
  · intro hex lo hi hF
    refine (hF.hole.room_iff hT.size_nonneg hF.fits).1 ?_
    rcases hex with ⟨hi₁, hF₁⟩ | ⟨-, hno⟩
    · -- the answer is the start of a hole, so it was found there
      obtain rfl : r = lo := le_antisymm (hF₁.first lo hi hF.hole hF.fits)
        (hF.first r hi₁ hF₁.hole hF₁.fits)
      rcases hfirst with hl | ⟨heq, -⟩
      · exact hl.1
      · have := hF.hole.nonneg
        omega
    · have := hno lo hi hF.hole
      have := hF.fits
      omega
  · intro hcond
    by_cases hfit : ∃ lo hi, Hueco u.tamMemTotal u.listSeg lo hi ∧ t ≤ hi - lo
    · obtain ⟨lo₁, hi₁, h₁, hfit₁⟩ := hfit
      obtain ⟨lo, hi, hF⟩ := exists_firstHole h₁ hfit₁
      have hroom := (hF.hole.room_iff hT.size_nonneg hF.fits).2 (hcond lo hi hF)
      rcases hfirst with hl | ⟨-, hno⟩
      · -- the place found lies in a hole that fits, so not before the first one
        obtain ⟨lo₂, hi₂, h₂, hlo₂, hhi₂⟩ := hl.1.exists_hole ht
        have hle := hF.first lo₂ hi₂ h₂ (by omega)
        obtain rfl : r = lo := le_antisymm (hl.2 hroom) (hle.trans hlo₂)
        exact .inl ⟨hi, hF⟩
      · exact absurd hroom (hno lo)
    · right
      have hno : ∀ lo hi, Hueco u.tamMemTotal u.listSeg lo hi → hi - lo < t := by
        intro lo hi h
        by_contra hge
        exact hfit ⟨lo, hi, h, by omega⟩
      refine ⟨?_, hno⟩
      rcases hfirst with hl | ⟨heq, -⟩
      · obtain ⟨lo₂, hi₂, h₂, hlo₂, hhi₂⟩ := hl.1.exists_hole ht
        have := hno lo₂ hi₂ h₂
        omega
      · exact heq

/-- **When worst fit is exact**: exactly when no hole fits, or the widest place, which is measured
one byte short before a segment, is the start of a largest hole and is wide enough. If no segment is
empty: when the request is smaller than the largest hole, or the hole at the end of the memory is a
largest one. -/
theorem buscarEspacioMemPrin_maximo_iff (ls : ListSort) (hm : u.algActual ≠ firstFitMode)
    (hT : Tabla u.tamMemTotal u.listSeg) (ht : 1 ≤ t) :
    (MaximoExacto u t (buscarEspacioMemPrin ls t u).2 ↔
      (∀ lo hi, Hueco u.tamMemTotal u.listSeg lo hi → hi - lo < t) ∨
        ∃ x hi k, LargestHole Seg.dirFisica Seg.tamSeg u.tamMemTotal u.listSeg x hi ∧
          Widest Seg.dirFisica Seg.tamSeg u.tamMemTotal u.listSeg k x ∧ t ≤ k) ∧
    ((∀ s ∈ u.listSeg, 0 < s.tamSeg) →
      (MaximoExacto u t (buscarEspacioMemPrin ls t u).2 ↔
        (∀ lo hi, Hueco u.tamMemTotal u.listSeg lo hi → hi - lo < t) ∨
          ∃ lo hi, LargestHole Seg.dirFisica Seg.tamSeg u.tamMemTotal u.listSeg lo hi ∧
            t ≤ hi - lo ∧ (t < hi - lo ∨ hi = u.tamMemTotal))) := by
  have hres : (buscarEspacioMemPrin ls t u).2 =
      worstFit u.tamMemTotal t (ls.sort u.listSeg) 0 ⟨-1, -1⟩ := by
    unfold buscarEspacioMemPrin ordenarListaSegPorDirFisica
    exact if_neg hm
  rw [worstFit_eq_segMax] at hres
  have hW := segMax_widest ls hT
  set m := segMax u.tamMemTotal (ls.sort u.listSeg) 0 ⟨-1, -1⟩
  have hmain : MaximoExacto u t (buscarEspacioMemPrin ls t u).2 ↔
      (∀ lo hi, Hueco u.tamMemTotal u.listSeg lo hi → hi - lo < t) ∨
        ∃ x hi k, LargestHole Seg.dirFisica Seg.tamSeg u.tamMemTotal u.listSeg x hi ∧
          Widest Seg.dirFisica Seg.tamSeg u.tamMemTotal u.listSeg k x ∧ t ≤ k := by
    constructor
    · rintro (⟨hi, hL, -⟩ | ⟨-, hno⟩)
      · right
        have hr := hL.hole.nonneg
        rw [hres] at hL hr
        by_cases hle : t ≤ m.tam
        · rw [if_pos hle] at hL
          refine ⟨m.pos, hi, m.tam, hL, hW.resolve_left ?_, hle⟩
          rintro ⟨heq, -⟩
          rw [heq] at hle
          have hle : t ≤ -1 := hle
          omega
        · rw [if_neg hle] at hr
          omega
      · exact .inl hno
    · rintro (hno | ⟨x, hi, k, hL, hWx, hle⟩)
      · refine .inr ⟨?_, hno⟩
        rcases buscarEspacioMemPrin_lugar ls hT (t := t) (by omega) with hr | ⟨heq, -⟩
        · obtain ⟨lo₂, hi₂, h₂, hlo₂, hhi₂⟩ := hr.exists_hole ht
          have := hno lo₂ hi₂ h₂
          omega
        · exact heq
      · -- the widest place is the one the search remembers
        have hWm := hW.resolve_left fun h => h.2 k x (by omega) hWx.room
        have hk : m.tam = k := by
          rcases lt_trichotomy m.tam k with hlt | heq | hlt
          · exact absurd hWx.room (hWm.most k x hlt)
          · exact heq
          · exact absurd hWm.room (hWx.most m.tam m.pos hlt)
        have hx : m.pos = x :=
          le_antisymm (hWm.first x (hk ▸ hWx.room)) (hWx.first m.pos (hk ▸ hWm.room))
        rw [hres, if_pos (by omega), hx]
        obtain ⟨lo₂, hi₂, h₂, hlo₂, hhi₂⟩ := hWx.room.exists_hole (by omega)
        have := hL.largest lo₂ hi₂ h₂
        exact .inl ⟨hi, hL, by omega⟩
  exact ⟨hmain, fun h0 => hmain.trans (or_congr_right (exists_largest_widest_iff h0 hT ht))⟩

end Both

/-! ### A hole of exactly the size asked for -/

/-- Ten bytes of memory of which three are free, between two segments. -/
def tresLibres (algActual : ℤ) : Estado :=
  ⟨fun _ => 0, algActual, [⟨1, 100, 0, 2, TipoDatos.codigoScript⟩,
    ⟨2, 200, 5, 5, TipoDatos.codigoScript⟩], 10⟩

lemma tresLibres_tabla (algActual : ℤ) :
    Tabla (tresLibres algActual).tamMemTotal (tresLibres algActual).listSeg := by
  refine ⟨?_, ?_, ?_, ?_⟩ <;> simp [tresLibres, span]

lemma tresLibres_hueco (algActual lo hi : ℤ) :
    Hueco (tresLibres algActual).tamMemTotal (tresLibres algActual).listSeg lo hi ↔
      lo = 2 ∧ hi = 5 := by
  have hlibre : ∀ x, x ∈ free Seg.dirFisica Seg.tamSeg (tresLibres algActual).tamMemTotal
      (tresLibres algActual).listSeg ↔ 2 ≤ x ∧ x < 5 := by
    intro x
    simp only [free, Set.mem_ofPred_eq, tresLibres, List.forall_mem_cons, mem_span_iff]
    simp only [List.not_mem_nil, false_implies, implies_true, and_true]
    omega
  constructor
  · rintro ⟨hlt, hsub, hl, hr⟩
    have h₁ := (hlibre lo).1 (hsub ⟨le_rfl, hlt⟩)
    have h₂ := (hlibre (hi - 1)).1 (hsub ⟨by omega, by omega⟩)
    rw [hlibre] at hl hr
    omega
  · rintro ⟨rfl, rfl⟩
    refine ⟨by decide, fun x hx => (hlibre x).2 ⟨hx.1, hx.2⟩, ?_, ?_⟩
    · rw [hlibre]; decide
    · rw [hlibre]; decide

/-- Two bytes are found where they should be. -/
theorem buscarEspacioMemPrin_primero_tresLibres :
    PrimeroExacto (tresLibres firstFitMode) 2
      (buscarEspacioMemPrin .insercion 2 (tresLibres firstFitMode)).2 := by
  refine (buscarEspacioMemPrin_primero_iff .insercion rfl (tresLibres_tabla firstFitMode)
    (by decide)).2 fun lo hi hF s hs => ?_
  obtain ⟨rfl, rfl⟩ := (tresLibres_hueco firstFitMode lo hi).1 hF.hole
  revert s
  decide

/-- Three bytes are not found, in a hole of three. -/
theorem buscarEspacioMemPrin_no_primero_tresLibres :
    Tabla (tresLibres firstFitMode).tamMemTotal (tresLibres firstFitMode).listSeg ∧
      ¬ PrimeroExacto (tresLibres firstFitMode) 3
        (buscarEspacioMemPrin .insercion 3 (tresLibres firstFitMode)).2 := by
  refine ⟨tresLibres_tabla firstFitMode, ?_⟩
  have hres : (buscarEspacioMemPrin .insercion 3 (tresLibres firstFitMode)).2 = -1 := by
    decide +kernel
  rw [hres]
  rintro (⟨hi, hF⟩ | ⟨-, hno⟩)
  · exact absurd hF.hole.nonneg (by decide)
  · exact absurd (hno 2 5 ((tresLibres_hueco firstFitMode 2 5).2 ⟨rfl, rfl⟩)) (by decide)

/-- Under worst fit, too, two bytes are found. -/
theorem buscarEspacioMemPrin_maximo_tresLibres :
    MaximoExacto (tresLibres worstFitMode) 2
      (buscarEspacioMemPrin .insercion 2 (tresLibres worstFitMode)).2 := by
  refine ((buscarEspacioMemPrin_maximo_iff .insercion (by decide)
    (tresLibres_tabla worstFitMode) (by decide)).2 (by decide)).2 (.inr ⟨2, 5, ?_, by decide⟩)
  refine ⟨(tresLibres_hueco worstFitMode 2 5).2 ⟨rfl, rfl⟩, fun lo hi h => ?_⟩
  obtain ⟨rfl, rfl⟩ := (tresLibres_hueco worstFitMode lo hi).1 h
  exact le_rfl

/-- Under worst fit, too, three bytes are not found. -/
theorem buscarEspacioMemPrin_no_maximo_tresLibres :
    Tabla (tresLibres worstFitMode).tamMemTotal (tresLibres worstFitMode).listSeg ∧
      ¬ MaximoExacto (tresLibres worstFitMode) 3
        (buscarEspacioMemPrin .insercion 3 (tresLibres worstFitMode)).2 := by
  refine ⟨tresLibres_tabla worstFitMode, ?_⟩
  have hres : (buscarEspacioMemPrin .insercion 3 (tresLibres worstFitMode)).2 = -1 := by
    decide +kernel
  rw [hres]
  rintro (⟨hi, hL, -⟩ | ⟨-, hno⟩)
  · exact absurd hL.hole.nonneg (by decide)
  · exact absurd (hno 2 5 ((tresLibres_hueco worstFitMode 2 5).2 ⟨rfl, rfl⟩)) (by decide)

/-! ### Overload -/

section Overload

variable {u : Estado} {t : ℤ}

/-- A place is free of the segments. -/
lemma Lugar.libre {tot x : ℤ} {l : List Seg} (hT : Tabla tot l) (ht : 0 ≤ t)
    (hr : Lugar tot l t 0 x) : Libre tot l x t :=
  ⟨hr.le, hr.fits, hr.disjoint hT.size_nonneg ht⟩

/-- A place is not larger than what the segments leave. -/
lemma Lugar.total_le {tot x : ℤ} {l : List Seg} (hT : Tabla tot l) (ht : 0 ≤ t)
    (hr : Lugar tot l t 0 x) : total Seg.tamSeg l + t ≤ tot := by
  have hp := ListSort.insercion.perm l
  have hT' := Layout.perm hT hp.symm
  have hle := Room.total_le hT' (ListSort.insercion.sorted l) (clear_of_nonneg hT') ht
    (hr.perm hp.symm)
  rw [total_perm hp] at hle
  omega

/-- What the segments occupy can be read off their descriptors. -/
lemma total_eq_of_descriptores {v : Estado} (h : v.descriptores.Perm u.descriptores) :
    total Seg.tamSeg v.listSeg = total Seg.tamSeg u.listSeg := by
  have hmap : ∀ l : List Seg, l.map Seg.tamSeg = (l.map Seg.descriptor).map Descriptor.tamSeg := by
    intro l
    rw [List.map_map]
    rfl
  unfold total
  rw [hmap, hmap]
  exact (h.map Descriptor.tamSeg).sum_eq

/-- After a compaction the table is packed, and it is a table. -/
lemma compactar_packed (ls : ListSort) (pila : ℕ → ℕ → Byte)
    (hT : Tabla u.tamMemTotal u.listSeg) :
    Packed Seg.dirFisica Seg.tamSeg 0 (compactar ls pila u).listSeg ∧
      Tabla u.tamMemTotal (compactar ls pila u).listSeg := by
  refine ⟨?_, ?_⟩
  · rw [compactar_listSeg]
    exact empaquetar_packed _ 0
  · cases hl : ls.sort u.listSeg with
    | nil =>
      rw [compactar_listSeg, hl]
      exact Layout.nil
    | cons s l =>
      have hT' := ordenar_tabla ls hT
      rw [hl] at hT'
      have hpos := hT'.pos_nonneg s (List.mem_cons_self ..)
      have h0 := hT'.size_nonneg s (List.mem_cons_self ..)
      have hfits := hT'.fits s (List.mem_cons_self ..)
      exact compactar_tabla ls pila (by omega) hT

/-- **What `crearSegmento` comes to**: it reports an overload when the request does not fit into what
the segments leave, and keeps the segments; it adds the new one on a place of a table of the same
segments otherwise. -/
lemma crearSegmento_casos (e : Entorno) (menPed : MenSeg) (hT : Tabla u.tamMemTotal u.listSeg)
    (h0 : 0 ≤ menPed.tamSeg) :
    ((crearSegmento e menPed u).2 = -1 ∧
        (crearSegmento e menPed u).1.descriptores.Perm u.descriptores ∧
        u.tamMemTotal < total Seg.tamSeg u.listSeg + menPed.tamSeg) ∨
      ∃ v resp, crearSegmento e menPed u = agregarSegmento e.rand menPed resp v ∧
        v.descriptores.Perm u.descriptores ∧ Tabla u.tamMemTotal v.listSeg ∧
        Lugar u.tamMemTotal v.listSeg menPed.tamSeg 0 resp := by
  have hbuscar := buscarEspacioMemPrin_lugar (e.listSort 0) hT h0
  have hT₀ := ordenar_tabla (e.listSort 0) hT
  have hd₀ := ordenar_descriptores (e.listSort 0) u
  unfold crearSegmento
  simp only
  by_cases h₁ : (buscarEspacioMemPrin (e.listSort 0) menPed.tamSeg u).2 = -1
  · rw [if_pos h₁]
    -- the search again, in the compacted table
    set u₁ : Estado := compactar (e.listSort 1) e.pila
      (buscarEspacioMemPrin (e.listSort 0) menPed.tamSeg u).1 with hu₁
    obtain ⟨hP, hC⟩ := compactar_packed (e.listSort 1) e.pila
      (u := (buscarEspacioMemPrin (e.listSort 0) menPed.tamSeg u).1) hT₀
    have hC : Tabla u₁.tamMemTotal u₁.listSeg := hC
    have hd₁ : u₁.descriptores.Perm u.descriptores :=
      (compactar_descriptores (e.listSort 1) e.pila _).trans hd₀
    by_cases h₂ : (buscarEspacioMemPrin (e.listSort 2) menPed.tamSeg u₁).2 = -1
    · rw [if_pos h₂]
      refine .inl ⟨rfl, (ordenar_descriptores (e.listSort 2) u₁).trans hd₁, ?_⟩
      have hno := (buscarEspacioMemPrin_eq_neg_one (e.listSort 2) hC h0).1 h₂
      by_contra hle
      have htotal := total_eq_of_descriptores hd₁
      refine hno _ (hP.room hC.size_nonneg ?_)
      show _ ≤ u.tamMemTotal
      rw [htotal]
      omega
    · rw [if_neg h₂]
      have hl := (buscarEspacioMemPrin_lugar (e.listSort 2) hC h0).resolve_right
        fun h => h₂ h.1
      exact .inr ⟨_, _, rfl, (ordenar_descriptores (e.listSort 2) u₁).trans hd₁,
        ordenar_tabla (e.listSort 2) hC, hl.perm ((e.listSort 2).perm _).symm⟩
  · rw [if_neg h₁]
    have hl := hbuscar.resolve_right fun h => h₁ h.1
    exact .inr ⟨_, _, rfl, hd₀, hT₀, hl.perm ((e.listSort 0).perm _).symm⟩

end Overload

end Ansisop.Umv
