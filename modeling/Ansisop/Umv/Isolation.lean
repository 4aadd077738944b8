import Ansisop.Umv.Compact

/-!
Reads after writes, and what a write leaves alone. All processes share `mem_prin`; that the table is
a layout is what keeps their segments apart.

`Cumple` is what a write of a segment should be: a read of the same bytes answers what was written,
and no other byte of any segment has changed. `almacenar_bytes` looks its segment up by the logical
address, as `solicitar_bytes` does, and meets it in every reachable state. `almacenar_segmento` looks
it up by its type; the read by logical address finds the same segment only when it is the first of
the process at that address, and `crearSegmento` takes any value of `rand()` for one.
-/

namespace Ansisop.Umv

open Ansisop.Sockets Ansisop.Lib Ansisop.Lib.Blocks Ansisop.Lib.Memory

/-! ### Descriptors -/

/-- What a segment keeps wherever it lies. -/
structure Descriptor where
  idProc : ℤ
  tipoSeg : ℤ
  tamSeg : ℤ
  dirLogica : ℤ
  deriving DecidableEq, Repr

/-- The descriptor of a segment. -/
def Seg.descriptor (s : Seg) : Descriptor := ⟨s.idProc, s.tipoSeg, s.tamSeg, s.dirLogica⟩

/-- The descriptors of the table. -/
def Estado.descriptores (u : Estado) : List Descriptor := u.listSeg.map Seg.descriptor

/-- The descriptor of the segment a request creates. -/
def descriptorPedido (rand : ℤ) (menPed : MenSeg) : Descriptor :=
  ⟨menPed.idProg, tipoSegDePedido menPed.tipo, menPed.tamSeg, rand⟩

lemma empaquetar_descriptor (l : List Seg) : ∀ ind : ℤ,
    (empaquetar ind l).map Seg.descriptor = l.map Seg.descriptor := by
  induction l with
  | nil => exact fun _ => rfl
  | cons s l ih =>
    intro ind
    rw [empaquetar, List.map_cons, List.map_cons, ih]
    rfl

lemma ordenar_descriptores (ls : ListSort) (u : Estado) :
    (ordenarListaSegPorDirFisica ls u).descriptores.Perm u.descriptores :=
  (ls.perm u.listSeg).map _

/-- Compaction moves segments and does not change what they are. -/
lemma compactar_descriptores (ls : ListSort) (pila : ℕ → ℕ → Byte) (u : Estado) :
    (compactar ls pila u).descriptores.Perm u.descriptores := by
  unfold Estado.descriptores
  rw [compactar_listSeg, empaquetar_descriptor]
  exact (ls.perm u.listSeg).map _

/-- **`crearSegmento` adds the segment it was asked for, or none**, whatever it sorts and moves. -/
theorem crearSegmento_descriptores (e : Entorno) (menPed : MenSeg) (u : Estado) :
    ((crearSegmento e menPed u).2 = -1 ∧
        (crearSegmento e menPed u).1.descriptores.Perm u.descriptores) ∨
      ((crearSegmento e menPed u).2 = e.rand ∧
        (crearSegmento e menPed u).1.descriptores.Perm
          (u.descriptores ++ [descriptorPedido e.rand menPed])) := by
  have hagregar : ∀ (v : Estado) (resp : ℤ), v.descriptores.Perm u.descriptores →
      (agregarSegmento e.rand menPed resp v).1.descriptores.Perm
        (u.descriptores ++ [descriptorPedido e.rand menPed]) := by
    intro v resp hv
    have hmap : (agregarSegmento e.rand menPed resp v).1.descriptores
        = v.descriptores ++ [descriptorPedido e.rand menPed] := by
      simp [agregarSegmento, Estado.descriptores, Seg.descriptor, descriptorPedido]
    rw [hmap]
    exact hv.append_right _
  have hbuscar : ∀ (ls : ListSort) (v : Estado), v.descriptores.Perm u.descriptores →
      (buscarEspacioMemPrin ls menPed.tamSeg v).1.descriptores.Perm u.descriptores :=
    fun ls v hv => (ordenar_descriptores ls v).trans hv
  have h₁ := hbuscar (e.listSort 0) u (List.Perm.refl _)
  have h₂ := hbuscar (e.listSort 2) _
    ((compactar_descriptores (e.listSort 1) e.pila _).trans h₁)
  unfold crearSegmento
  simp only
  split
  · split
    · exact .inl ⟨rfl, h₂⟩
    · exact .inr ⟨rfl, hagregar _ _ h₂⟩
  · exact .inr ⟨rfl, hagregar _ _ h₁⟩

lemma destruirSegmentos_descriptores (idProg : ℤ) (u : Estado) :
    (destruirSegmentos idProg u).descriptores =
      if idProg = 0 then [] else u.descriptores.filter fun d => !(d.idProc == idProg) := by
  unfold Estado.descriptores
  rw [destruirSegmentos_listSeg]
  split
  · rfl
  · rw [List.filter_map]
    rfl

/-- `rand()` answers no negative number. -/
def Llamada.RandNoNegativo : Llamada → Prop
  | .crearSegmento e _ => 0 ≤ e.rand
  | _ => True

/-- No step makes a negative logical address. -/
lemma Llamada.paso_dirLogica {c : Llamada} {u u' : Estado} (hc : c.RandNoNegativo)
    (h : ∀ d ∈ u.descriptores, 0 ≤ d.dirLogica) (hp : c.paso u = some u') :
    ∀ d ∈ u'.descriptores, 0 ≤ d.dirLogica := by
  have hmismo : u'.listSeg = u.listSeg → ∀ d ∈ u'.descriptores, 0 ≤ d.dirLogica := by
    intro heq
    unfold Estado.descriptores at h ⊢
    rwa [heq]
  cases c with
  | crearSegmento e menPed =>
    obtain rfl := Option.some.inj hp
    intro d hd
    rcases crearSegmento_descriptores e menPed u with ⟨-, hperm⟩ | ⟨-, hperm⟩
    · exact h d (hperm.mem_iff.1 hd)
    · rcases List.mem_append.1 (hperm.mem_iff.1 hd) with hd | hd
      · exact h d hd
      · rw [List.mem_singleton.1 hd]
        exact hc
  | destruirSegmentos idProg =>
    obtain rfl := Option.some.inj hp
    intro d hd
    rw [destruirSegmentos_descriptores] at hd
    split at hd
    · exact absurd hd List.not_mem_nil
    · exact h d (List.mem_filter.1 hd).1
  | compactar ls pila =>
    obtain rfl := Option.some.inj hp
    intro d hd
    exact h d ((compactar_descriptores ls pila u).mem_iff.1 hd)
  | cambiarAlgoritmo =>
    obtain rfl := Option.some.inj hp
    refine hmismo ?_
    unfold Umv.cambiarAlgoritmo
    split <;> rfl
  | almacenarSegmento auxMen idProc =>
    obtain rfl := Option.some.inj hp
    exact hmismo (almacenarSegmento_frame auxMen idProc u).1
  | almacenarBytes idProc base offset tam buffer =>
    obtain ⟨⟨v, r⟩, hr, rfl⟩ := Option.map_eq_some_iff.1 hp
    exact hmismo (almacenarBytes_frame hr).1
  | solicitarBytes idProc base offset tam =>
    obtain ⟨r, -, rfl⟩ := Option.map_eq_some_iff.1 hp
    exact h

/-- In every state of a run the logical addresses are the answers of `rand()`. -/
lemma correr_dirLogica (cs : List Llamada) : ∀ {u u' : Estado},
    (∀ c ∈ cs, c.RandNoNegativo) → (∀ d ∈ u.descriptores, 0 ≤ d.dirLogica) →
    correr cs u = some u' → ∀ d ∈ u'.descriptores, 0 ≤ d.dirLogica := by
  induction cs with
  | nil =>
    intro u u' _ h hr
    obtain rfl := Option.some.inj hr
    exact h
  | cons c cs ih =>
    intro u u' hcs h hr
    obtain ⟨v, hv, hr⟩ := Option.bind_eq_some_iff.1 hr
    have hc := hcs c (List.mem_cons_self ..)
    exact ih (fun d hd => hcs d (List.mem_cons_of_mem _ hd)) (c.paso_dirLogica hc h hv) hr

/-! ### Writes -/

/-- A call that writes bytes of a segment. -/
inductive Escritura where
  | almacenarBytes (idProc base offset tam : ℤ) (buffer : List Byte)
  | almacenarSegmento (auxMen : MenComun) (idProc : ℤ)

namespace Escritura

/-- The segment the call writes. -/
def destino (u : Estado) : Escritura → Option Seg
  | almacenarBytes idProc base _ _ _ => buscarSegmentoDirLogica u idProc base
  | almacenarSegmento auxMen idProc => buscarSegmentoTipoSeg u idProc auxMen.tipo

/-- The call writes, and leaves the state `u'`: `almacenar_bytes` answers `R_ALM_BYTES`, the message
of `almacenar_segmento` has the size of the segment. -/
def Aceptada (u u' : Estado) : Escritura → Prop
  | almacenarBytes idProc base offset tam buffer =>
    0 ≤ tam ∧ Umv.almacenarBytes idProc base offset tam buffer u
      = some (u', TipoDatos.rAlmBytes.val)
  | almacenarSegmento auxMen idProc =>
    (∃ s, buscarSegmentoTipoSeg u idProc auxMen.tipo = some s ∧ auxMen.tamDato = s.tamSeg) ∧
      auxMen.tamDato = auxMen.dato.length ∧ u' = Umv.almacenarSegmento auxMen idProc u

def idProc : Escritura → ℤ
  | almacenarBytes idProc _ _ _ _ => idProc
  | almacenarSegmento _ idProc => idProc

def offset : Escritura → ℤ
  | almacenarBytes _ _ offset _ _ => offset
  | almacenarSegmento _ _ => 0

def tam : Escritura → ℤ
  | almacenarBytes _ _ _ tam _ => tam
  | almacenarSegmento auxMen _ => auxMen.tamDato

/-- The bytes that are written. -/
def dato : Escritura → List Byte
  | almacenarBytes _ _ _ tam buffer => buffer.take tam.toNat
  | almacenarSegmento auxMen _ => auxMen.dato

end Escritura

/-- **What a write should be**: the segment `s` reads back what was written, every other segment has
the bytes it had, and so has `s` outside of what was written. -/
structure Cumple (u u' : Estado) (w : Escritura) (s : Seg) : Prop where
  relee : solicitarBytes u' w.idProc s.dirLogica w.offset w.tam = some (.bytes w.dato)
  otros : ∀ t ∈ u.listSeg, t ≠ s → ∀ k < t.tamSeg.toNat,
    u'.memPrin (t.dirFisica + k) = u.memPrin (t.dirFisica + k)
  resto : ∀ k < s.tamSeg.toNat, (k < w.offset ∨ w.offset + w.tam ≤ k) →
    u'.memPrin (s.dirFisica + k) = u.memPrin (s.dirFisica + k)

/-- The read by the logical address of the segment is a read of that segment, or of one that already
holds what is written. -/
def Escritura.Directa (u : Estado) : Escritura → Prop
  | .almacenarBytes _ _ _ _ _ => True
  | .almacenarSegmento auxMen idProc =>
    ∀ s, buscarSegmentoTipoSeg u idProc auxMen.tipo = some s →
      ∃ t, buscarSegmentoDirLogica u idProc s.dirLogica = some t ∧
        (t = s ∨ auxMen.tamDato ≤ t.tamSeg ∧
          read u.memPrin t.dirFisica auxMen.tamDato.toNat = auxMen.dato)

/-! ### The bytes of a write -/

lemma fueraDeRango_eq_false {u : Estado} {base offset tam : ℤ} :
    fueraDeRango u base offset tam = false ↔
      0 ≤ offset ∧ 0 ≤ base ∧ offset ≤ u.tamMemTotal ∧ tam ≤ u.tamMemTotal := by
  simp only [fueraDeRango, Bool.or_eq_false_iff, decide_eq_false_iff_not, not_lt, and_assoc]

/-- A request inside the segment found answers its bytes. -/
lemma solicitarBytes_dentro {u : Estado} {idProc base offset tam : ℤ} {s : Seg}
    (hg : fueraDeRango u base offset tam = false)
    (hs : buscarSegmentoDirLogica u idProc base = some s) (h31 : offset + tam < 2 ^ 31)
    (hle : offset + tam ≤ s.tamSeg) (h0 : 0 ≤ tam) :
    solicitarBytes u idProc base offset tam =
      some (.bytes (read u.memPrin (s.dirFisica + offset) tam.toNat)) := by
  unfold solicitarBytes
  rw [if_neg (by simp [hg]), hs]
  simp only
  rw [if_neg (by omega), if_neg (by omega), if_neg (by omega)]

/-- What `almacenar_bytes` has checked when it answers `R_ALM_BYTES`, and what it does then. -/
lemma almacenarBytes_aceptada {u u' : Estado} {idProc base offset tam : ℤ} {buffer : List Byte}
    (h : almacenarBytes idProc base offset tam buffer u = some (u', TipoDatos.rAlmBytes.val)) :
    ∃ s, fueraDeRango u base offset tam = false ∧
      buscarSegmentoDirLogica u idProc base = some s ∧ offset + tam < 2 ^ 31 ∧
      offset + tam ≤ s.tamSeg ∧ 0 ≤ tam ∧ tam ≤ buffer.length ∧
      u' = { u with
        memPrin := memcpy u.memPrin (s.dirFisica + offset) (buffer.take tam.toNat) } := by
  have hne : TipoDatos.segmenFault.val ≠ TipoDatos.rAlmBytes.val := by decide
  unfold almacenarBytes at h
  split at h
  · exact absurd (congrArg Prod.snd (Option.some.inj h)) hne
  · rename_i hg
    split at h
    · cases h
    · rename_i s hs
      simp only at h
      split at h
      · cases h
      · split at h
        · exact absurd (congrArg Prod.snd (Option.some.inj h)) hne
        · split at h
          · cases h
          · obtain ⟨rfl, -⟩ := by simpa using h
            exact ⟨s, by simpa using hg, hs, by omega, by omega, by omega, by omega, rfl⟩

/-- **A copy into one segment leaves the others alone**, and its own bytes outside of the range. -/
lemma copia_aislada {u : Estado} {s : Seg} {l : List Byte} {offset : ℤ}
    (hT : Tabla u.tamMemTotal u.listSeg) (hs : s ∈ u.listSeg) (h0 : 0 ≤ offset)
    (hle : offset + l.length ≤ s.tamSeg) :
    (∀ t ∈ u.listSeg, t ≠ s → ∀ k < t.tamSeg.toNat,
      memcpy u.memPrin (s.dirFisica + offset) l (t.dirFisica + k) = u.memPrin (t.dirFisica + k)) ∧
    ∀ k < s.tamSeg.toNat, (k < offset ∨ offset + l.length ≤ k) →
      memcpy u.memPrin (s.dirFisica + offset) l (s.dirFisica + k)
        = u.memPrin (s.dirFisica + k) := by
  constructor
  · intro t ht hne k hk
    refine memcpy_out _ _ _ ?_
    rcases Layout.apart_of_ne hT ht hs hne with h | h | h | h <;> omega
  · intro k _ hk
    refine memcpy_out _ _ _ ?_
    omega

/-- A write whose copy lies in its segment does what it should when the read finds the bytes. -/
lemma Cumple.intro {u u' : Estado} {w : Escritura} {s : Seg}
    (hT : Tabla u.tamMemTotal u.listSeg) (hs : s ∈ u.listSeg) (h0 : 0 ≤ w.offset)
    (hlen : w.tam = w.dato.length) (hle : w.offset + w.tam ≤ s.tamSeg)
    (hmem : u'.memPrin = memcpy u.memPrin (s.dirFisica + w.offset) w.dato)
    (hlee : solicitarBytes u' w.idProc s.dirLogica w.offset w.tam = some (.bytes w.dato)) :
    Cumple u u' w s := by
  obtain ⟨hotros, hresto⟩ := copia_aislada hT hs h0 (l := w.dato) (by omega)
  rw [← hlen] at hresto
  exact ⟨hlee, by rw [hmem]; exact hotros, by rw [hmem]; exact hresto⟩

/-- `almacenar_bytes` does what it should: the reader finds the segment that the writer found. -/
lemma almacenarBytes_cumple {u u' : Estado} {idProc base offset tam : ℤ} {buffer : List Byte}
    (hT : Tabla u.tamMemTotal u.listSeg)
    (h : almacenarBytes idProc base offset tam buffer u = some (u', TipoDatos.rAlmBytes.val)) :
    ∃ s, buscarSegmentoDirLogica u idProc base = some s ∧
      Cumple u u' (.almacenarBytes idProc base offset tam buffer) s := by
  obtain ⟨s, hg, hs, h31, hle, h0, hbuf, rfl⟩ := almacenarBytes_aceptada h
  have hclave := List.find?_some hs
  simp only [Bool.and_eq_true, beq_iff_eq] at hclave
  have hlen : tam = (buffer.take tam.toNat).length := by
    rw [List.length_take]
    omega
  have hoff := (fueraDeRango_eq_false.1 hg).1
  refine ⟨s, hs, Cumple.intro hT (List.mem_of_find?_eq_some hs) hoff hlen hle rfl ?_⟩
  have hread := read_memcpy_self u.memPrin (s.dirFisica + offset) (buffer.take tam.toNat)
  have htam : (buffer.take tam.toNat).length = tam.toNat := by omega
  rw [htam] at hread
  show solicitarBytes _ idProc s.dirLogica offset tam = _
  rw [hclave.1, solicitarBytes_dentro (by exact hg) (by exact hs) h31 hle h0]
  exact congrArg (some ∘ RetBytes.bytes) hread

/-- What `almacenar_segmento` does with a message of the size of the segment. -/
lemma almacenarSegmento_aceptada {u : Estado} {auxMen : MenComun} {idProc : ℤ} {s : Seg}
    (hs : buscarSegmentoTipoSeg u idProc auxMen.tipo = some s) (htam : auxMen.tamDato = s.tamSeg)
    (hdato : auxMen.tamDato = auxMen.dato.length) :
    almacenarSegmento auxMen idProc u =
      { u with memPrin := memcpy u.memPrin s.dirFisica auxMen.dato } := by
  have htake : auxMen.dato.take auxMen.tamDato.toNat = auxMen.dato :=
    List.take_of_length_le (by omega)
  unfold almacenarSegmento
  rw [hs]
  simp only [htam, ne_eq, not_true_eq_false, if_false]
  rw [← htam, htake]

/-- **When `almacenar_segmento` does what it should**: exactly when the read by logical address is
direct. -/
lemma almacenarSegmento_cumple_iff {u : Estado} {auxMen : MenComun} {idProc : ℤ} {s : Seg}
    (hT : Tabla u.tamMemTotal u.listSeg) (htot : u.tamMemTotal < 2 ^ 31)
    (hlog : ∀ d ∈ u.descriptores, 0 ≤ d.dirLogica)
    (hs : buscarSegmentoTipoSeg u idProc auxMen.tipo = some s) (htam : auxMen.tamDato = s.tamSeg)
    (hdato : auxMen.tamDato = auxMen.dato.length) :
    Cumple u (almacenarSegmento auxMen idProc u) (.almacenarSegmento auxMen idProc) s ↔
      ∃ t, buscarSegmentoDirLogica u idProc s.dirLogica = some t ∧
        (t = s ∨ auxMen.tamDato ≤ t.tamSeg ∧
          read u.memPrin t.dirFisica auxMen.tamDato.toNat = auxMen.dato) := by
  have hmem := List.mem_of_find?_eq_some hs
  have hclave := List.find?_some hs
  simp only [Bool.and_eq_true, beq_iff_eq] at hclave
  have hbase : 0 ≤ s.dirLogica := hlog _ (List.mem_map_of_mem hmem)
  have h0 := hT.size_nonneg s hmem
  have hpos := hT.pos_nonneg s hmem
  have hfit := hT.fits s hmem
  -- the segment written is at its logical address, so the reader finds one
  obtain ⟨t, ht⟩ : ∃ t, buscarSegmentoDirLogica u idProc s.dirLogica = some t := by
    rw [← Option.isSome_iff_exists]
    unfold buscarSegmentoDirLogica
    rw [List.find?_isSome]
    exact ⟨s, hmem, by simp [hclave.2]⟩
  have htmem := List.mem_of_find?_eq_some ht
  rw [almacenarSegmento_aceptada hs htam hdato]
  set u' : Estado := { u with memPrin := memcpy u.memPrin s.dirFisica auxMen.dato } with hu'
  have hg : fueraDeRango u' s.dirLogica 0 auxMen.tamDato = false := by
    rw [fueraDeRango_eq_false]
    exact ⟨le_rfl, hbase, by show 0 ≤ u.tamMemTotal; omega, by show _ ≤ u.tamMemTotal; omega⟩
  have ht' : buscarSegmentoDirLogica u' idProc s.dirLogica = some t := ht
  have haislada := copia_aislada hT hmem (l := auxMen.dato) le_rfl (by omega)
  rw [add_zero] at haislada
  -- a segment other than the one written reads what it read before
  have hotro : t ≠ s → auxMen.tamDato ≤ t.tamSeg →
      read u'.memPrin t.dirFisica auxMen.tamDato.toNat
        = read u.memPrin t.dirFisica auxMen.tamDato.toNat := by
    intro hne hle
    refine read_congr fun i hi => haislada.1 t htmem hne i ?_
    omega
  constructor
  · intro h
    refine ⟨t, ht, ?_⟩
    by_cases hts : t = s
    · exact .inl hts
    · have hlee : solicitarBytes u' idProc s.dirLogica 0 auxMen.tamDato
          = some (.bytes auxMen.dato) := h.relee
      obtain ⟨hle, hbytes⟩ := solicitarBytes_bytes_le ht' hlee
      rw [hotro hts hle] at hbytes
      exact .inr ⟨hle, hbytes.symm⟩
  · rintro ⟨t', ht'', hdirecta⟩
    obtain rfl : t' = t := Option.some.inj (ht''.symm.trans ht)
    have hmio : read u'.memPrin s.dirFisica auxMen.tamDato.toNat = auxMen.dato := by
      have htoNat : auxMen.tamDato.toNat = auxMen.dato.length := by omega
      rw [htoNat]
      exact read_memcpy_self u.memPrin s.dirFisica auxMen.dato
    have hbytes : auxMen.tamDato ≤ t'.tamSeg ∧
        read u'.memPrin t'.dirFisica auxMen.tamDato.toNat = auxMen.dato := by
      by_cases hts : t' = s
      · rw [hts]
        exact ⟨htam.le, hmio⟩
      · obtain ⟨hle, hb⟩ := hdirecta.resolve_left hts
        exact ⟨hle, (hotro hts hle).trans hb⟩
    refine Cumple.intro hT hmem le_rfl hdato (by show 0 + auxMen.tamDato ≤ _; omega) ?_ ?_
    · show u'.memPrin = memcpy u.memPrin (s.dirFisica + 0) auxMen.dato
      rw [add_zero]
    · show solicitarBytes u' idProc s.dirLogica 0 auxMen.tamDato = _
      rw [solicitarBytes_dentro hg ht' (by omega) (by omega) (by omega), add_zero, hbytes.2]
      rfl

/-- **When a write reads back and leaves the rest alone.** In every state that a run reaches, an
accepted write does what it should exactly when the read by logical address is direct;
`almacenar_bytes` always does. -/
theorem escritura_cumple_iff (memPrin : ℤ → Byte) (algActual tamMemTotal : ℤ)
    (h0 : 0 ≤ tamMemTotal) (h31 : tamMemTotal < 2 ^ 31) (cs : List Llamada)
    (hcs : ∀ c ∈ cs, c.Admitida) (hrand : ∀ c ∈ cs, c.RandNoNegativo) (u : Estado)
    (hu : correr cs (inicial memPrin algActual tamMemTotal) = some u) (w : Escritura) (u' : Estado)
    (hw : w.Aceptada u u') :
    (∃ s, w.destino u = some s ∧ Cumple u u' w s) ↔ w.Directa u := by
  obtain ⟨htot, hT⟩ := correr_tabla cs hcs (u := inicial memPrin algActual tamMemTotal) h0
    Layout.nil hu
  have htot : u.tamMemTotal = tamMemTotal := htot
  have hlog := correr_dirLogica cs hrand (u := inicial memPrin algActual tamMemTotal)
    (by simp [Estado.descriptores, inicial]) hu
  rw [show (inicial memPrin algActual tamMemTotal).tamMemTotal = u.tamMemTotal from htot.symm] at hT
  cases w with
  | almacenarBytes idProc base offset tam buffer =>
    exact ⟨fun _ => trivial, fun _ => almacenarBytes_cumple hT hw.2⟩
  | almacenarSegmento auxMen idProc =>
    obtain ⟨⟨s, hs, htam⟩, hdato, rfl⟩ := hw
    have hiff := almacenarSegmento_cumple_iff hT (by omega) hlog hs htam hdato
    constructor
    · rintro ⟨s', hs', hc⟩ s'' hs''
      obtain rfl : s' = s := Option.some.inj (hs'.symm.trans hs)
      obtain rfl : s'' = s' := Option.some.inj (hs''.symm.trans hs)
      exact hiff.1 hc
    · intro hd
      exact ⟨s, hs, hiff.2 (hd s hs)⟩

/-- A process with a segment of code and one of labels of two bytes each, at the given logical
addresses. -/
def dosSegmentos (codigo etiquetas : ℤ) : List Llamada :=
  [pedir .pedMemSegCod 1 2 codigo, pedir .pedMemIndEti 1 2 etiquetas]

/-- The segment of labels is written. -/
def escribirEtiquetas : Escritura := .almacenarSegmento ⟨2, TipoDatos.indEtiFunc, [1, 2]⟩ 1

/-- With two addresses the write reads back. -/
theorem escritura_cumple_dosSegmentos :
    ∃ u u', correr (dosSegmentos 100 200) (inicial (fun _ => 7) firstFitMode 10) = some u ∧
      escribirEtiquetas.Aceptada u u' ∧
      ∃ s, escribirEtiquetas.destino u = some s ∧ Cumple u u' escribirEtiquetas s :=
  have hacep : escribirEtiquetas.Aceptada _ _ := ⟨⟨_, rfl, rfl⟩, rfl, rfl⟩
  ⟨_, _, rfl, hacep,
    (escritura_cumple_iff (fun _ => 7) firstFitMode 10 (by decide) (by decide)
      (dosSegmentos 100 200) (by simp [dosSegmentos, pedir, Llamada.Admitida])
      (by simp [dosSegmentos, pedir, Llamada.RandNoNegativo]) _ rfl escribirEtiquetas _ hacep).2
      fun s hs => ⟨s, by obtain rfl := Option.some.inj hs; rfl, .inl rfl⟩⟩

/-- With one address for both, the read answers the bytes of the code segment. -/
theorem escritura_no_cumple_dosSegmentos :
    ∃ u u', correr (dosSegmentos 100 100) (inicial (fun _ => 7) firstFitMode 10) = some u ∧
      escribirEtiquetas.Aceptada u u' ∧
      ¬ ∃ s, escribirEtiquetas.destino u = some s ∧ Cumple u u' escribirEtiquetas s :=
  ⟨_, _, rfl, ⟨⟨_, rfl, rfl⟩, rfl, rfl⟩, by
    rintro ⟨s, hs, hc⟩
    obtain rfl := Option.some.inj hs
    exact absurd hc.relee (by decide)⟩

end Ansisop.Umv
