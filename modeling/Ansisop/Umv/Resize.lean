import Ansisop.Lib.Run
import Ansisop.Umv.Search

/-!
The console changes the size of the main memory. `cambiar_mem_total` sets `tam_mem_total` and asks
`realloc` for a block of the new size; it looks neither at the segments nor at what `realloc` answers.

`Llamada.accesos` are the copies from and to `mem_prin` that a call makes, and `Maquina` a UMV with
the block that `mem_prin` points to; a copy outside of the block is not defined. The theorem at the end
says which sizes keep the table valid, over runs that mix changes of the size with all other calls.
-/

namespace Ansisop.Umv

open Ansisop.Sockets Ansisop.Lib Ansisop.Lib.Blocks Ansisop.Lib.Memory

/-! ### What a call copies -/

/-- A copy from or to `mem_prin`: the index it starts at and its length. -/
structure Copia where
  desde : ℤ
  tam : ℕ
  deriving DecidableEq, Repr

/-- The indices of `mem_prin` a copy touches. -/
def Copia.indices (r : Copia) : Set ℤ := Set.Ico r.desde (r.desde + r.tam)

/-- Every index of the copy is below the bound. -/
def Copia.Dentro (bloque : ℤ) (r : Copia) : Prop :=
  0 < r.tam → 0 ≤ r.desde ∧ r.desde + r.tam ≤ bloque

instance (bloque : ℤ) (r : Copia) : Decidable (r.Dentro bloque) :=
  inferInstanceAs (Decidable (_ → _))

/-- The copies of the loop of `compactar`: one for each segment that moves, from the stack. -/
def copiasCompactar : ℤ → List Seg → List Copia
  | _, [] => []
  | indMem, auxSeg :: l =>
    if indMem = auxSeg.dirFisica then copiasCompactar (indMem + auxSeg.tamSeg) l
    else ⟨indMem, auxSeg.tamSeg.toNat⟩ :: copiasCompactar (indMem + auxSeg.tamSeg) l

/-- The copy of `almacenar_bytes` and of `solicitar_bytes`, when the guards let the call through. -/
def copiaBytes (u : Estado) (idProc base offset tam : ℤ) : List Copia :=
  if fueraDeRango u base offset tam then []
  else
    match buscarSegmentoDirLogica u idProc base with
    | none => []
    | some auxSeg =>
      if auxSeg.tamSeg < offset + tam then [] else [⟨auxSeg.dirFisica + offset, tam.toNat⟩]

/-- The copies from and to `mem_prin` that a call makes. -/
def Llamada.accesos (u : Estado) : Llamada → List Copia
  | .crearSegmento e menPed =>
    let r := buscarEspacioMemPrin (e.listSort 0) menPed.tamSeg u
    if r.2 = -1 then copiasCompactar 0 ((e.listSort 1).sort r.1.listSeg) else []
  | .compactar ls _ => copiasCompactar 0 (ls.sort u.listSeg)
  | .almacenarSegmento auxMen idProc =>
    match buscarSegmentoTipoSeg u idProc auxMen.tipo with
    | none => []
    | some auxSeg =>
      if auxMen.tamDato ≠ auxSeg.tamSeg then []
      else [⟨auxSeg.dirFisica, auxMen.tamDato.toNat⟩]
  | .almacenarBytes idProc base offset tam _ => copiaBytes u idProc base offset tam
  | .solicitarBytes idProc base offset tam => copiaBytes u idProc base offset tam
  | .destruirSegmentos _ => []
  | .cambiarAlgoritmo => []

/-- What lies outside of the copies of the loop stays. -/
lemma compactarLoop_fuera (pila : ℕ → ℕ → Byte) {a : ℤ} : ∀ (l : List Seg) (i : ℕ) (ind : ℤ)
    (mem : ℤ → Byte), (∀ r ∈ copiasCompactar ind l, a ∉ r.indices) →
      (compactarLoop pila i ind mem l).2 a = mem a
  | [], _, _, _, _ => rfl
  | s :: l, i, ind, mem, h => by
    unfold copiasCompactar at h
    unfold compactarLoop
    by_cases hs : ind = s.dirFisica
    · rw [if_pos hs] at h ⊢
      exact compactarLoop_fuera pila l _ _ _ h
    · rw [if_neg hs] at h ⊢
      have hcopia := h _ (List.mem_cons_self ..)
      have hresto := compactarLoop_fuera pila l (i + 1) (ind + s.tamSeg)
        (memcpy mem ind ((List.range s.tamSeg.toNat).map (pila i)))
        fun r hr => h r (List.mem_cons_of_mem _ hr)
      refine hresto.trans (memcpy_out _ _ _ ?_)
      unfold Copia.indices at hcopia
      simp only [Set.mem_Ico, not_and_or, not_le, not_lt] at hcopia
      simpa using hcopia

lemma memcpy_fuera {mem : ℤ → Byte} {p a : ℤ} {l : List Byte} {n : ℕ} (hn : l.length ≤ n)
    (h : a ∉ Copia.indices ⟨p, n⟩) : memcpy mem p l a = mem a := by
  refine memcpy_out _ _ _ ?_
  unfold Copia.indices at h
  simp only [Set.mem_Ico, not_and_or, not_le, not_lt] at h
  omega

/-- **A call writes only where it copies.** -/
theorem Llamada.paso_fuera {c : Llamada} {u u' : Estado} (hp : c.paso u = some u') {a : ℤ}
    (ha : ∀ r ∈ c.accesos u, a ∉ r.indices) : u'.memPrin a = u.memPrin a := by
  cases c with
  | crearSegmento e menPed =>
    obtain rfl := Option.some.inj hp
    unfold Llamada.accesos at ha
    unfold Umv.crearSegmento
    simp only at ha ⊢
    by_cases h₁ : (buscarEspacioMemPrin (e.listSort 0) menPed.tamSeg u).2 = -1
    · rw [if_pos h₁] at ha ⊢
      have hmem := compactarLoop_fuera e.pila _ 0 0 u.memPrin ha
      split
      · exact hmem
      · exact hmem
    · rw [if_neg h₁]
      rfl
  | destruirSegmentos idProg =>
    obtain rfl := Option.some.inj hp
    unfold Umv.destruirSegmentos
    split <;> rfl
  | compactar ls pila =>
    obtain rfl := Option.some.inj hp
    exact compactarLoop_fuera pila _ 0 0 u.memPrin ha
  | cambiarAlgoritmo =>
    obtain rfl := Option.some.inj hp
    unfold Umv.cambiarAlgoritmo
    split <;> rfl
  | almacenarSegmento auxMen idProc =>
    obtain rfl := Option.some.inj hp
    unfold Llamada.accesos at ha
    unfold Umv.almacenarSegmento
    cases hb : buscarSegmentoTipoSeg u idProc auxMen.tipo with
    | none => rfl
    | some s =>
      simp only [hb] at ha ⊢
      by_cases ht : auxMen.tamDato ≠ s.tamSeg
      · rw [if_pos ht]
      · rw [if_neg ht] at ha ⊢
        exact memcpy_fuera (by simp) (ha _ (List.mem_singleton_self _))
  | almacenarBytes idProc base offset tam buffer =>
    obtain ⟨⟨v, r⟩, hr, rfl⟩ := Option.map_eq_some_iff.1 hp
    change ∀ r ∈ copiaBytes u idProc base offset tam, a ∉ r.indices at ha
    unfold copiaBytes at ha
    unfold Umv.almacenarBytes at hr
    by_cases hf : fueraDeRango u base offset tam
    · rw [if_pos hf] at hr
      cases hr
      rfl
    · rw [if_neg hf] at ha hr
      cases hb : buscarSegmentoDirLogica u idProc base with
      | none => simp [hb] at hr
      | some s =>
        simp only [hb] at ha hr
        split at hr
        · cases hr
        · by_cases hs : s.tamSeg < offset + tam
          · rw [if_pos hs] at hr
            cases hr
            rfl
          · rw [if_neg hs] at ha hr
            split at hr
            · cases hr
            · cases hr
              exact memcpy_fuera (by simp) (ha _ (List.mem_singleton_self _))
  | solicitarBytes idProc base offset tam =>
    obtain ⟨r, -, rfl⟩ := Option.map_eq_some_iff.1 hp
    rfl

/-- **`solicitar_bytes` reads only where it copies.** -/
theorem solicitarBytes_lee {u v : Estado} {idProc base offset tam : ℤ}
    (hseg : v.listSeg = u.listSeg) (htot : v.tamMemTotal = u.tamMemTotal)
    (h : ∀ r ∈ copiaBytes u idProc base offset tam, ∀ a ∈ r.indices, v.memPrin a = u.memPrin a) :
    solicitarBytes v idProc base offset tam = solicitarBytes u idProc base offset tam := by
  have hf : fueraDeRango v base offset tam = fueraDeRango u base offset tam := by
    unfold fueraDeRango
    rw [htot]
  have hb : buscarSegmentoDirLogica v idProc base = buscarSegmentoDirLogica u idProc base := by
    unfold buscarSegmentoDirLogica
    rw [hseg]
  unfold copiaBytes at h
  unfold solicitarBytes
  rw [hf, hb]
  by_cases hg : fueraDeRango u base offset tam
  · rw [if_pos hg, if_pos hg]
  · rw [if_neg hg] at h ⊢
    rw [if_neg hg]
    cases hs : buscarSegmentoDirLogica u idProc base with
    | none => rfl
    | some s =>
      simp only [hs] at h ⊢
      by_cases hlim : s.tamSeg < offset + tam
      · simp only [if_pos hlim]
      · rw [if_neg hlim] at h
        have hread : read v.memPrin (s.dirFisica + offset) tam.toNat
            = read u.memPrin (s.dirFisica + offset) tam.toNat := by
          refine read_congr fun i hi => h _ (List.mem_singleton_self _) _ ?_
          unfold Copia.indices
          simp only [Set.mem_Ico]
          omega
        rw [hread]

/-- The loop of `compactar` copies to the places of the packed segments. -/
lemma mem_copiasCompactar {r : Copia} : ∀ {l : List Seg} {ind : ℤ}, r ∈ copiasCompactar ind l →
    ∃ s ∈ empaquetar ind l, s.dirFisica = r.desde ∧ s.tamSeg.toNat = r.tam
  | [], _, h => absurd h List.not_mem_nil
  | s :: l, ind, h => by
    unfold copiasCompactar at h
    unfold empaquetar
    by_cases hs : ind = s.dirFisica
    · rw [if_pos hs] at h
      obtain ⟨t, ht, hr⟩ := mem_copiasCompactar h
      exact ⟨t, List.mem_cons_of_mem _ ht, hr⟩
    · rw [if_neg hs] at h
      rcases List.mem_cons.1 h with rfl | h
      · exact ⟨_, List.mem_cons_self .., rfl, rfl⟩
      · obtain ⟨t, ht, hr⟩ := mem_copiasCompactar h
        exact ⟨t, List.mem_cons_of_mem _ ht, hr⟩

section Accesos

variable {u : Estado}

lemma dentro_de_segmento (hT : Tabla u.tamMemTotal u.listSeg) {s : Seg} (hs : s ∈ u.listSeg)
    {offset : ℤ} {n : ℕ} (h0 : 0 ≤ offset) (hn : offset + n ≤ s.tamSeg) :
    Copia.Dentro u.tamMemTotal ⟨s.dirFisica + offset, n⟩ := by
  intro _
  have hpos := hT.pos_nonneg s hs
  have hfits := hT.fits s hs
  simp only
  omega

lemma copiasCompactar_dentro (hT : Tabla u.tamMemTotal u.listSeg) (ls : ListSort) :
    ∀ r ∈ copiasCompactar 0 (ls.sort u.listSeg), r.Dentro u.tamMemTotal := by
  intro r hr
  obtain ⟨s, hs, hdir, htam⟩ := mem_copiasCompactar hr
  have hC := (compactar_packed ls (fun _ _ => 0) hT).2
  rw [compactar_listSeg] at hC
  have hpos := hC.pos_nonneg s hs
  have h0 := hC.size_nonneg s hs
  have hfits := hC.fits s hs
  intro _
  omega

lemma copiaBytes_dentro (hT : Tabla u.tamMemTotal u.listSeg) (idProc base offset tam : ℤ) :
    ∀ r ∈ copiaBytes u idProc base offset tam, r.Dentro u.tamMemTotal := by
  intro r hr
  unfold copiaBytes at hr
  by_cases hf : fueraDeRango u base offset tam
  · rw [if_pos hf] at hr
    cases hr
  · rw [if_neg hf] at hr
    simp only [fueraDeRango, Bool.or_eq_true, decide_eq_true_eq, not_or, not_lt] at hf
    cases hs : buscarSegmentoDirLogica u idProc base with
    | none => simp [hs] at hr
    | some s =>
      simp only [hs] at hr
      split at hr
      · cases hr
      · obtain rfl := List.mem_singleton.1 hr
        intro hn
        have hn : 0 < tam.toNat := hn
        exact dentro_de_segmento hT (List.mem_of_find?_eq_some hs) hf.1.1.1 (by omega) hn

/-- **In a table every call copies inside the memory.** -/
theorem Llamada.accesos_dentro (hT : Tabla u.tamMemTotal u.listSeg) (c : Llamada) :
    ∀ r ∈ c.accesos u, r.Dentro u.tamMemTotal := by
  intro r hr
  cases c with
  | crearSegmento e menPed =>
    unfold Llamada.accesos at hr
    simp only at hr
    split at hr
    · exact copiasCompactar_dentro (u := (buscarEspacioMemPrin (e.listSort 0) menPed.tamSeg u).1)
        (ordenar_tabla (e.listSort 0) hT) (e.listSort 1) r hr
    · cases hr
  | compactar ls pila => exact copiasCompactar_dentro hT ls r hr
  | almacenarSegmento auxMen idProc =>
    unfold Llamada.accesos at hr
    cases hs : buscarSegmentoTipoSeg u idProc auxMen.tipo with
    | none => simp [hs] at hr
    | some s =>
      simp only [hs] at hr
      split at hr
      · cases hr
      · rename_i htam
        rw [not_not] at htam
        obtain rfl := List.mem_singleton.1 hr
        have hmem := List.mem_of_find?_eq_some hs
        have h0 := hT.size_nonneg s hmem
        have hd : Copia.Dentro u.tamMemTotal ⟨s.dirFisica + 0, auxMen.tamDato.toNat⟩ :=
          dentro_de_segmento hT hmem le_rfl (by omega)
        rwa [add_zero] at hd
  | almacenarBytes idProc base offset tam buffer =>
    exact copiaBytes_dentro hT idProc base offset tam r hr
  | solicitarBytes idProc base offset tam => exact copiaBytes_dentro hT idProc base offset tam r hr
  | destruirSegmentos idProg => cases hr
  | cambiarAlgoritmo => cases hr

end Accesos

/-! ### The console -/

/-- A UMV with the block that `mem_prin` points to: `bloque` is its size, `0` for `NULL`. -/
structure Maquina where
  estado : Estado
  bloque : ℤ

/-- The UMV as `main` leaves it. -/
def Maquina.inicial (memPrin : ℤ → Byte) (algActual tamMemTotal : ℤ) : Maquina :=
  ⟨Umv.inicial memPrin algActual tamMemTotal, tamMemTotal⟩

/-- `cambiar_mem_total`. `resto` is what `realloc` gives: the bytes after those it keeps, or `none`
for `NULL`. -/
def cambiarMemTotal (nuevoTamanio : ℤ) (resto : Option (ℤ → Byte)) (m : Maquina) : Maquina :=
  match resto with
  | none => ⟨{ m.estado with tamMemTotal := nuevoTamanio }, 0⟩
  | some nuevos =>
    ⟨{ m.estado with
        memPrin := fun a =>
          if a < min m.bloque nuevoTamanio then m.estado.memPrin a else nuevos a
        tamMemTotal := nuevoTamanio }, nuevoTamanio⟩

/-- A call, or a new size typed on the console. -/
inductive Operacion where
  | llamada (c : Llamada)
  | cambiarMemTotal (nuevoTamanio : ℤ) (resto : Option (ℤ → Byte))

/-- The state an operation leaves; a copy outside of the block has none. -/
def Operacion.paso : Operacion → Maquina → Option Maquina
  | .llamada c, m =>
    if ∀ r ∈ c.accesos m.estado, r.Dentro m.bloque then
      (c.paso m.estado).map fun u => ⟨u, m.bloque⟩
    else none
  | .cambiarMemTotal nuevoTamanio resto, m => some (Umv.cambiarMemTotal nuevoTamanio resto m)

/-- The sizes of segments asked for are not negative. -/
def Operacion.Admitida : Operacion → Prop
  | .llamada c => c.Admitida
  | .cambiarMemTotal _ _ => True

/-- The new size leaves every segment inside, and `realloc` has a block of it. -/
def Operacion.Cabe (m : Maquina) : Operacion → Prop
  | .llamada _ => True
  | .cambiarMemTotal nuevoTamanio resto =>
    (∀ s ∈ m.estado.listSeg, s.dirFisica + s.tamSeg ≤ nuevoTamanio) ∧
      (0 < nuevoTamanio → resto.isSome)

/-- The table is valid: the segments lie in `[0, tam_mem_total)`, no two share an address, the block
has that many bytes, and no call that C defines copies from or to an index outside of it. -/
structure Sana (m : Maquina) : Prop where
  dentro : ∀ s ∈ m.estado.listSeg, 0 ≤ s.tamSeg ∧ 0 ≤ s.dirFisica ∧
    s.dirFisica + s.tamSeg ≤ m.estado.tamMemTotal
  disjuntos : m.estado.listSeg.Pairwise fun s t =>
    Disjoint (Set.Ico s.dirFisica (s.dirFisica + s.tamSeg))
      (Set.Ico t.dirFisica (t.dirFisica + t.tamSeg))
  bloque : m.estado.tamMemTotal ≤ m.bloque
  accesos : ∀ (c : Llamada) (u' : Estado), c.paso m.estado = some u' →
    ∀ r ∈ c.accesos m.estado, r.Dentro m.bloque

lemma sana_iff (m : Maquina) : Sana m ↔
    Tabla m.estado.tamMemTotal m.estado.listSeg ∧ m.estado.tamMemTotal ≤ m.bloque := by
  constructor
  · intro h
    exact ⟨⟨fun s hs => (h.dentro s hs).1, fun s hs => (h.dentro s hs).2.1,
      fun s hs => (h.dentro s hs).2.2, h.disjuntos⟩, h.bloque⟩
  · rintro ⟨hT, hb⟩
    refine ⟨fun s hs => ⟨hT.size_nonneg s hs, hT.pos_nonneg s hs, hT.fits s hs⟩, hT.disjoint, hb,
      fun c _ _ r hr hn => ?_⟩
    obtain ⟨h₁, h₂⟩ := c.accesos_dentro hT r hr hn
    exact ⟨h₁, h₂.trans hb⟩

lemma Llamada.paso_tamMemTotal {c : Llamada} {u u' : Estado} (hp : c.paso u = some u') :
    u'.tamMemTotal = u.tamMemTotal := by
  cases c with
  | crearSegmento e menPed =>
    obtain rfl := Option.some.inj hp
    unfold Umv.crearSegmento
    simp only
    split
    · split <;> rfl
    · rfl
  | destruirSegmentos idProg =>
    obtain rfl := Option.some.inj hp
    unfold Umv.destruirSegmentos
    split <;> rfl
  | compactar ls pila =>
    obtain rfl := Option.some.inj hp
    rfl
  | cambiarAlgoritmo =>
    obtain rfl := Option.some.inj hp
    unfold Umv.cambiarAlgoritmo
    split <;> rfl
  | almacenarSegmento auxMen idProc =>
    obtain rfl := Option.some.inj hp
    exact (almacenarSegmento_frame auxMen idProc u).2
  | almacenarBytes idProc base offset tam buffer =>
    obtain ⟨⟨v, r⟩, hr, rfl⟩ := Option.map_eq_some_iff.1 hp
    exact (almacenarBytes_frame hr).2
  | solicitarBytes idProc base offset tam =>
    obtain ⟨r, -, rfl⟩ := Option.map_eq_some_iff.1 hp
    rfl

/-- A memory of a negative size has no segments, and gets none. -/
lemma Llamada.paso_sin_memoria {c : Llamada} {u u' : Estado} (hc : c.Admitida)
    (htot : u.tamMemTotal < 0) (hT : Tabla u.tamMemTotal u.listSeg) (hp : c.paso u = some u') :
    u'.listSeg = [] := by
  have hnil : u.listSeg = [] := by
    rw [List.eq_nil_iff_forall_not_mem]
    intro s hs
    have h₁ := hT.pos_nonneg s hs
    have h₂ := hT.size_nonneg s hs
    have h₃ := hT.fits s hs
    omega
  have hdesc : u.descriptores = [] := by
    unfold Estado.descriptores
    rw [hnil]
    rfl
  cases c with
  | crearSegmento e menPed =>
    obtain rfl := Option.some.inj hp
    rcases crearSegmento_casos e menPed hT hc with ⟨-, hperm, -⟩ | ⟨v, resp, -, -, -, hl⟩
    · rw [hdesc] at hperm
      exact List.map_eq_nil_iff.1 hperm.eq_nil
    · have h₁ := hl.le
      have h₂ := hl.fits
      have hc : 0 ≤ menPed.tamSeg := hc
      omega
  | destruirSegmentos idProg =>
    obtain rfl := Option.some.inj hp
    have hs := destruirSegmentos_sublist idProg u
    rw [hnil] at hs
    exact List.sublist_nil.1 hs
  | compactar ls pila =>
    obtain rfl := Option.some.inj hp
    have hperm := compactar_descriptores ls pila u
    rw [hdesc] at hperm
    exact List.map_eq_nil_iff.1 hperm.eq_nil
  | cambiarAlgoritmo =>
    obtain rfl := Option.some.inj hp
    unfold Umv.cambiarAlgoritmo
    split <;> exact hnil
  | almacenarSegmento auxMen idProc =>
    obtain rfl := Option.some.inj hp
    exact (almacenarSegmento_frame auxMen idProc u).1.trans hnil
  | almacenarBytes idProc base offset tam buffer =>
    obtain ⟨⟨v, r⟩, hr, rfl⟩ := Option.map_eq_some_iff.1 hp
    exact (almacenarBytes_frame hr).1.trans hnil
  | solicitarBytes idProc base offset tam =>
    obtain ⟨r, -, rfl⟩ := Option.map_eq_some_iff.1 hp
    exact hnil

/-- **One operation keeps a valid table exactly when what it is asked fits.** -/
lemma Operacion.paso_sana_iff {o : Operacion} {m m' : Maquina} (h : Sana m) (ho : o.Admitida)
    (hp : o.paso m = some m') : Sana m' ↔ o.Cabe m := by
  obtain ⟨hT, hb⟩ := (sana_iff m).1 h
  rw [sana_iff]
  cases o with
  | llamada c =>
    refine iff_of_true ?_ trivial
    simp only [Operacion.paso] at hp
    split at hp
    · obtain ⟨u, hu, rfl⟩ := Option.map_eq_some_iff.1 hp
      have htot := c.paso_tamMemTotal hu
      refine ⟨?_, by simpa only [htot] using hb⟩
      rcases lt_or_ge m.estado.tamMemTotal 0 with hneg | hpos
      · simp only [c.paso_sin_memoria ho hneg hT hu]
        exact Layout.nil
      · simp only [htot]
        exact (c.paso_tabla ho hpos hT hu).2
    · cases hp
  | cambiarMemTotal nuevoTamanio resto =>
    obtain rfl := Option.some.inj hp
    have htabla : Tabla nuevoTamanio m.estado.listSeg ↔
        ∀ s ∈ m.estado.listSeg, s.dirFisica + s.tamSeg ≤ nuevoTamanio :=
      ⟨fun hT' => hT'.fits, fun hf => ⟨hT.size_nonneg, hT.pos_nonneg, hf, hT.disjoint⟩⟩
    refine and_congr ?_ ?_
    · cases resto <;> exact htabla
    · cases resto with
      | none =>
        show nuevoTamanio ≤ 0 ↔ (0 < nuevoTamanio → false = true)
        simp
      | some nuevos => exact iff_of_true le_rfl fun _ => rfl

/-- **Resizing keeps the table valid exactly when no size typed cuts a segment off**, and `realloc`
has the block: every state of a run that mixes changes of the size with all other calls is valid
exactly when each change meets this. The sizes of the segments are looked at nowhere. -/
theorem correr_cambiarMemTotal_iff (memPrin : ℤ → Byte) (algActual tamMemTotal : ℤ)
    (os : List Operacion) (hos : ∀ o ∈ os, o.Admitida) :
    (∀ pre post m, os = pre ++ post →
        run Operacion.paso pre (Maquina.inicial memPrin algActual tamMemTotal) = some m → Sana m) ↔
      Along Operacion.paso (fun m o => o.Cabe m) os
        (Maquina.inicial memPrin algActual tamMemTotal) := by
  refine forall_prefix_iff (J := fun _ => True) (fun _ _ _ _ _ _ => trivial)
    (fun m o m' _ h ho hp => o.paso_sana_iff h ho hp) (fun m o hn => ?_) os _ hos trivial
    ((sana_iff _).2 ⟨Layout.nil, le_rfl⟩)
  cases o with
  | llamada c => trivial
  | cambiarMemTotal nuevoTamanio resto => cases hn

/-- Ten bytes of a memory of sixteen are taken, and the console asks for a new size. -/
def cambioConSegmento (nuevoTamanio : ℤ) : List Operacion :=
  [.llamada (pedir .pedMemSegStack 1 10 100), .cambiarMemTotal nuevoTamanio (some fun _ => 0)]

/-- Twelve bytes hold the segment. -/
theorem correr_cambiarMemTotal_doce :
    ∃ m, run Operacion.paso (cambioConSegmento 12) (Maquina.inicial (fun _ => 7) firstFitMode 16)
        = some m ∧ Sana m := by
  have hiff := correr_cambiarMemTotal_iff (fun _ => 7) firstFitMode 16 (cambioConSegmento 12)
    (by simp [cambioConSegmento, pedir, Operacion.Admitida, Llamada.Admitida])
  refine ⟨_, rfl, hiff.2 ?_ (cambioConSegmento 12) [] _ (List.append_nil _).symm rfl⟩
  refine ⟨trivial, fun m hm => ⟨⟨?_, fun _ => rfl⟩, fun _ _ => trivial⟩⟩
  obtain rfl := Option.some.inj hm
  decide

/-- Four bytes do not, and four bytes written from the fourth on lie past the block. -/
theorem correr_cambiarMemTotal_cuatro :
    ∃ m, run Operacion.paso (cambioConSegmento 4) (Maquina.inicial (fun _ => 7) firstFitMode 16)
        = some m ∧ ¬ Sana m ∧
      ∃ u', (Llamada.almacenarBytes 1 100 4 4 [1, 2, 3, 4]).paso m.estado = some u' ∧
        ¬ ∀ r ∈ (Llamada.almacenarBytes 1 100 4 4 [1, 2, 3, 4]).accesos m.estado,
          r.Dentro m.bloque := by
  refine ⟨_, rfl, fun h => ?_, _, rfl, by decide⟩
  exact absurd (h.dentro _ (List.mem_singleton_self _)).2.2 (by decide)

end Ansisop.Umv
