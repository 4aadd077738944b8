import Ansisop.Sockets.Text
import Ansisop.Umv.Isolation
import Ansisop.Umv.Resize

/-!
The UMV as the kernel meets it: one turn of the loop of `admin_conec_kernel` for each message, and
what a request for a segment and a message with its contents come to in terms of descriptors.
-/

namespace Ansisop.Umv

open Ansisop.Sockets Ansisop.Lib Ansisop.Lib.Blocks Ansisop.Lib.Memory

/-! ### The loop -/

/-- `gestionar_ped_seg`. -/
def gestionarPedSeg (e : Entorno) (menSeg : MenSeg) (tipoResp : ℤ) (u : Estado) :
    Estado × MenComun :=
  let r := crearSegmento e menSeg u
  if r.2 = -1 then (destruirSegmentos menSeg.idProg r.1, crearMenComun TipoDatos.memOverload [])
  else (r.1, crearMenComun tipoResp (cString (stringItoa r.2)))

/-- `gestionar_alm_seg`, once the message with the contents is there. -/
def gestionarAlmSeg (idProc : ℤ) (auxMen : MenComun) (u : Estado) : Estado × MenComun :=
  (almacenarSegmento auxMen idProc u, crearMenComun TipoDatos.menAlmOk [])

/-- What a turn of the loop ends with: an answer, the wait of `gestionar_alm_seg` for the contents
of a segment of a process, the end of the loop, or nothing. -/
inductive Turno where
  | responde (men : MenComun)
  | espera (idProc : ℤ)
  | termina
  | sigue
  deriving DecidableEq, Repr

/-- One turn of `admin_conec_kernel`. -/
def adminConecKernel (e : Entorno) (menSeg : MenSeg) (u : Estado) : Estado × Turno :=
  if menSeg.tipo = TipoDatos.conecCerrada then (u, .termina)
  else if menSeg.tipo = TipoDatos.destrSegs then
    (destruirSegmentos menSeg.idProg u, .responde (crearMenComun TipoDatos.sincroOk []))
  else if menSeg.tipo = TipoDatos.pedMemSegCod then
    let r := gestionarPedSeg e menSeg TipoDatos.respMemSegCod u
    (r.1, .responde r.2)
  else if menSeg.tipo = TipoDatos.pedMemIndEti then
    let r := gestionarPedSeg e menSeg TipoDatos.respMemIndEti u
    (r.1, .responde r.2)
  else if menSeg.tipo = TipoDatos.pedMemIndCod then
    let r := gestionarPedSeg e menSeg TipoDatos.respMemIndCod u
    (r.1, .responde r.2)
  else if menSeg.tipo = TipoDatos.pedMemSegStack then
    let r := gestionarPedSeg e menSeg TipoDatos.respMemSegStack u
    (r.1, .responde r.2)
  else if menSeg.tipo = TipoDatos.escribirSeg then (u, .espera menSeg.idProg)
  else (u, .sigue)

/-! ### Requests for segments -/

/-- The table is a layout of a memory of some size. -/
structure Valida (u : Estado) : Prop where
  nonneg : 0 ≤ u.tamMemTotal
  tabla : Tabla u.tamMemTotal u.listSeg

lemma Valida.crearSegmento {u : Estado} (h : Valida u) (e : Entorno) {menPed : MenSeg}
    (h0 : 0 ≤ menPed.tamSeg) : Valida (Umv.crearSegmento e menPed u).1 := by
  obtain ⟨htot, hT⟩ := crearSegmento_tabla e h.nonneg h.tabla h0
  exact ⟨by rw [htot]; exact h.nonneg, by rw [htot]; exact hT⟩

lemma Valida.destruirSegmentos {u : Estado} (h : Valida u) (idProg : ℤ) :
    Valida (Umv.destruirSegmentos idProg u) := by
  have htot : (Umv.destruirSegmentos idProg u).tamMemTotal = u.tamMemTotal := by
    unfold Umv.destruirSegmentos
    split <;> rfl
  exact ⟨by rw [htot]; exact h.nonneg,
    by rw [htot]; exact Layout.sublist h.tabla (destruirSegmentos_sublist idProg u)⟩

/-- The descriptors of the other processes. -/
def ajenos (idProc : ℤ) (l : List Descriptor) : List Descriptor :=
  l.filter fun d => !(d.idProc == idProc)

lemma ajenos_append {idProc : ℤ} {l l' : List Descriptor} (h : ∀ d ∈ l, d.idProc ≠ idProc)
    (h' : ∀ d ∈ l', d.idProc = idProc) : ajenos idProc (l ++ l') = l := by
  have h₁ : l.filter (fun d => !(d.idProc == idProc)) = l :=
    List.filter_eq_self.2 fun d hd => by simp [h d hd]
  have h₂ : l'.filter (fun d => !(d.idProc == idProc)) = [] :=
    List.filter_eq_nil_iff.2 fun d hd => by simp [h' d hd]
  unfold ajenos
  rw [List.filter_append, h₁, h₂, List.append_nil]

/-- The descriptors of a process. -/
def propios (idProc : ℤ) (l : List Descriptor) : List Descriptor :=
  l.filter fun d => d.idProc == idProc

lemma propios_append {idProc : ℤ} {l l' : List Descriptor} (h : ∀ d ∈ l, d.idProc ≠ idProc)
    (h' : ∀ d ∈ l', d.idProc = idProc) : propios idProc (l ++ l') = l' := by
  have h₁ : l.filter (fun d => d.idProc == idProc) = [] :=
    List.filter_eq_nil_iff.2 fun d hd => by simp [h d hd]
  have h₂ : l'.filter (fun d => d.idProc == idProc) = l' :=
    List.filter_eq_self.2 fun d hd => by simp [h' d hd]
  unfold propios
  rw [List.filter_append, h₁, h₂, List.nil_append]

/-- **A request for a segment is granted or refused.** Refused, it has cost the process all its
segments; granted, the answer holds the logical address. -/
theorem gestionarPedSeg_spec (e : Entorno) (menSeg : MenSeg) (tipoResp : ℤ) {u : Estado}
    (hu : Valida u) (h0 : 0 ≤ menSeg.tamSeg) (hid : menSeg.idProg ≠ 0) (hrand : 0 ≤ e.rand) :
    ∃ u', Valida u' ∧
      ((gestionarPedSeg e menSeg tipoResp u = (u', crearMenComun TipoDatos.memOverload []) ∧
          u'.descriptores.Perm (ajenos menSeg.idProg u.descriptores)) ∨
        (gestionarPedSeg e menSeg tipoResp u
            = (u', crearMenComun tipoResp (cString (stringItoa e.rand))) ∧
          u'.descriptores.Perm (u.descriptores ++ [descriptorPedido e.rand menSeg]))) := by
  have hval := hu.crearSegmento e h0
  unfold gestionarPedSeg
  rcases crearSegmento_descriptores e menSeg u with ⟨hresp, hperm⟩ | ⟨hresp, hperm⟩
  · refine ⟨_, hval.destruirSegmentos menSeg.idProg, .inl ⟨?_, ?_⟩⟩
    · simp only [hresp, if_true]
    · rw [destruirSegmentos_descriptores, if_neg hid]
      exact hperm.filter _
  · refine ⟨_, hval, .inr ⟨?_, hperm⟩⟩
    have hne : ¬ e.rand = -1 := by omega
    simp only [hresp, hne, if_false]

/-- The kinds of request for a segment. -/
def EsPedido (tipo : TipoDatos) : Prop :=
  tipo = .pedMemSegCod ∨ tipo = .pedMemIndEti ∨ tipo = .pedMemIndCod ∨ tipo = .pedMemSegStack

/-- A request for a segment is answered by `gestionar_ped_seg`, with a kind of its own. -/
lemma adminConecKernel_pedido (e : Entorno) {tipo : TipoDatos} (h : EsPedido tipo)
    (idProg tamSeg : ℤ) (u : Estado) : ∃ resp : TipoDatos, resp ≠ .memOverload ∧
      adminConecKernel e ⟨tipo, idProg, tamSeg⟩ u =
        ((gestionarPedSeg e ⟨tipo, idProg, tamSeg⟩ resp u).1,
          .responde (gestionarPedSeg e ⟨tipo, idProg, tamSeg⟩ resp u).2) := by
  rcases h with rfl | rfl | rfl | rfl
  · exact ⟨.respMemSegCod, by decide, rfl⟩
  · exact ⟨.respMemIndEti, by decide, rfl⟩
  · exact ⟨.respMemIndCod, by decide, rfl⟩
  · exact ⟨.respMemSegStack, by decide, rfl⟩

/-! ### Contents -/

/-- The bytes of a segment. -/
def Estado.contenido (u : Estado) (s : Seg) : List Byte :=
  read u.memPrin s.dirFisica s.tamSeg.toNat

/-- The process has one segment of the type, of this size. -/
def Unico (u : Estado) (idProc tipo tam : ℤ) : Prop :=
  ∃ s ∈ u.listSeg, s.idProc = idProc ∧ s.tipoSeg = tipo ∧ s.tamSeg = tam ∧
    ∀ t ∈ u.listSeg, t.idProc = idProc → t.tipoSeg = tipo → t = s

/-- A type that has one descriptor has one segment. -/
lemma unico_of_descriptores {u : Estado} {d : Descriptor}
    (h : (u.descriptores.filter fun x => x.idProc == d.idProc && x.tipoSeg == d.tipoSeg).Perm
      [d]) : Unico u d.idProc d.tipoSeg d.tamSeg := by
  have hmap : (u.listSeg.filter fun s => s.idProc == d.idProc && s.tipoSeg == d.tipoSeg).map
      Seg.descriptor = [d] := by
    have heq := List.perm_singleton.1 h
    unfold Estado.descriptores at heq
    rwa [List.filter_map] at heq
  obtain ⟨s, hs, hd⟩ := List.map_eq_singleton_iff.1 hmap
  have hmem : ∀ t, t ∈ u.listSeg ∧ t.idProc = d.idProc ∧ t.tipoSeg = d.tipoSeg ↔ t = s := by
    intro t
    have ht := congrArg (t ∈ ·) hs
    simpa [List.mem_filter] using ht
  obtain ⟨hs₁, hs₂, hs₃⟩ := (hmem s).2 rfl
  refine ⟨s, hs₁, hs₂, hs₃, ?_, fun t ht hid htipo => (hmem t).1 ⟨ht, hid, htipo⟩⟩
  rw [← hd]
  rfl

/-- Every segment of the process and the type holds these bytes. -/
def Contiene (u : Estado) (idProc tipo : ℤ) (dato : List Byte) : Prop :=
  ∀ s ∈ u.listSeg, s.idProc = idProc → s.tipoSeg = tipo → u.contenido s = dato

/-- **A message with the contents of the one segment of its type** puts them there, and no other
segment is written. -/
theorem gestionarAlmSeg_spec {u : Estado} {idProc : ℤ} {auxMen : MenComun} (hu : Valida u)
    (hs : Unico u idProc auxMen.tipo auxMen.tamDato)
    (hdato : auxMen.tamDato = auxMen.dato.length) :
    ∃ u', gestionarAlmSeg idProc auxMen u = (u', crearMenComun TipoDatos.menAlmOk []) ∧ Valida u' ∧
      u'.listSeg = u.listSeg ∧ Contiene u' idProc auxMen.tipo auxMen.dato ∧
      ∀ tipo dato, tipo ≠ auxMen.tipo → Contiene u idProc tipo dato →
        Contiene u' idProc tipo dato := by
  obtain ⟨s, hs, hid, htipo, htam, hunico⟩ := hs
  have hfind : buscarSegmentoTipoSeg u idProc auxMen.tipo = some s := by
    obtain ⟨t, ht⟩ : ∃ t, buscarSegmentoTipoSeg u idProc auxMen.tipo = some t := by
      rw [← Option.isSome_iff_exists]
      unfold buscarSegmentoTipoSeg
      rw [List.find?_isSome]
      exact ⟨s, hs, by simp [hid, htipo]⟩
    have hclave := List.find?_some ht
    simp only [Bool.and_eq_true, beq_iff_eq] at hclave
    rw [ht, hunico t (List.mem_of_find?_eq_some ht) hclave.2 hclave.1]
  have haislada := copia_aislada hu.tabla hs (l := auxMen.dato) le_rfl (by omega)
  rw [add_zero] at haislada
  refine ⟨_, rfl, ?_⟩
  rw [almacenarSegmento_aceptada hfind htam.symm hdato]
  refine ⟨⟨hu.nonneg, hu.tabla⟩, rfl, ?_, ?_⟩
  · intro t ht htid httipo
    obtain rfl := hunico t ht htid httipo
    have hlen : t.tamSeg.toNat = auxMen.dato.length := by omega
    unfold Estado.contenido
    rw [hlen]
    exact read_memcpy_self u.memPrin t.dirFisica auxMen.dato
  · intro tipo dato hne hc t ht htid httipo
    have hts : t ≠ s := by
      rintro rfl
      exact hne (httipo.symm.trans htipo)
    exact (read_congr fun k hk => haislada.1 t ht hts k hk).trans (hc t ht htid httipo)

/-! ### Acknowledgements -/

/-- `gestionar_alm_seg` on a UMV with its block: a copy outside of the block is not defined. -/
def Maquina.gestionarAlmSeg (idProc : ℤ) (auxMen : MenComun) (m : Maquina) :
    Option (Maquina × MenComun) :=
  if ∀ r ∈ (Llamada.almacenarSegmento auxMen idProc).accesos m.estado, r.Dentro m.bloque then
    let r := Umv.gestionarAlmSeg idProc auxMen m.estado
    some (⟨r.1, m.bloque⟩, r.2)
  else none

/-- The one copy of a message of the size of its segment. -/
lemma accesos_almacenarSegmento {u : Estado} {idProc : ℤ} {auxMen : MenComun} {s : Seg}
    (hs : buscarSegmentoTipoSeg u idProc auxMen.tipo = some s)
    (htam : s.tamSeg = auxMen.tamDato) :
    (Llamada.almacenarSegmento auxMen idProc).accesos u
      = [⟨s.dirFisica, auxMen.tamDato.toNat⟩] := by
  simp only [Llamada.accesos, hs, htam, ne_eq, not_true_eq_false, if_false]

/-- The answer says what has happened: `MEN_ALM_OK` stands for a segment that holds the whole
message; where there is no segment of its size, the answer is another and no byte has changed. -/
structure AcuseVeraz (idProc : ℤ) (auxMen : MenComun) (u u' : Estado) (resp : MenComun) :
    Prop where
  guardado : resp.tipo = TipoDatos.menAlmOk →
    ∃ s, buscarSegmentoTipoSeg u' idProc auxMen.tipo = some s ∧ u'.contenido s = auxMen.dato
  fallo : (¬ ∃ s, buscarSegmentoTipoSeg u idProc auxMen.tipo = some s ∧
      s.tamSeg = auxMen.tamDato) →
    resp.tipo ≠ TipoDatos.menAlmOk ∧ u'.memPrin = u.memPrin

/-- **`MEN_ALM_OK` is true exactly when the message has the size of the segment it is for**, in every
state of a UMV and whatever the message: `gestionar_alm_seg` sends it without asking what
`almacenar_segmento` has come to. -/
theorem gestionarAlmSeg_veraz_iff (m : Maquina) (idProc tipo : ℤ) (dato : List Byte) :
    (∃ m' resp, m.gestionarAlmSeg idProc (crearMenComun tipo dato) = some (m', resp) ∧
        AcuseVeraz idProc (crearMenComun tipo dato) m.estado m'.estado resp) ↔
      ∃ s, buscarSegmentoTipoSeg m.estado idProc tipo = some s ∧ s.tamSeg = dato.length ∧
        Copia.Dentro m.bloque ⟨s.dirFisica, dato.length⟩ := by
  constructor
  · rintro ⟨m', resp, hr, hv⟩
    unfold Maquina.gestionarAlmSeg at hr
    split at hr
    · rename_i hacc
      cases hr
      obtain ⟨s, hs, htam⟩ : ∃ s, buscarSegmentoTipoSeg m.estado idProc tipo = some s ∧
          s.tamSeg = (crearMenComun tipo dato).tamDato := by
        by_contra hno
        exact (hv.fallo hno).1 rfl
      have hs' : buscarSegmentoTipoSeg m.estado idProc (crearMenComun tipo dato).tipo = some s := hs
      rw [accesos_almacenarSegmento hs' htam] at hacc
      exact ⟨s, hs, htam, hacc _ (List.mem_singleton_self _)⟩
    · cases hr
  · rintro ⟨s, hs, htam, hdentro⟩
    have hs' : buscarSegmentoTipoSeg m.estado idProc (crearMenComun tipo dato).tipo = some s := hs
    have hacc : ∀ r ∈ (Llamada.almacenarSegmento (crearMenComun tipo dato) idProc).accesos m.estado,
        r.Dentro m.bloque := by
      rw [accesos_almacenarSegmento hs' htam]
      intro r hr
      obtain rfl := List.mem_singleton.1 hr
      exact hdentro
    have halm := almacenarSegmento_aceptada hs' htam.symm rfl
    refine ⟨_, _, if_pos hacc, fun _ => ⟨s, ?_, ?_⟩, fun hno => absurd ⟨s, hs, htam⟩ hno⟩
    · show buscarSegmentoTipoSeg (almacenarSegmento _ _ m.estado) idProc _ = some s
      rw [halm]
      exact hs
    · show Estado.contenido (almacenarSegmento _ _ m.estado) s = dato
      rw [halm]
      have hlen : s.tamSeg.toNat = dato.length := by omega
      unfold Estado.contenido
      rw [hlen]
      exact read_memcpy_self m.estado.memPrin s.dirFisica dato

/-- The console has destroyed the segments of the process before the message comes. -/
theorem gestionarAlmSeg_no_veraz_destruido :
    ∃ m, run Operacion.paso
        [.llamada (pedir .pedMemSegCod 1 2 100), .llamada (.destruirSegmentos 1)]
        (Maquina.inicial (fun _ => 7) firstFitMode 16) = some m ∧
      ∃ m' resp, m.gestionarAlmSeg 1 (crearMenComun TipoDatos.codigoScript [1, 2])
          = some (m', resp) ∧ resp.tipo = TipoDatos.menAlmOk ∧
        ¬ AcuseVeraz 1 (crearMenComun TipoDatos.codigoScript [1, 2]) m.estado m'.estado resp := by
  refine ⟨_, rfl, _, _, rfl, rfl, fun h => (h.fallo ?_).1 rfl⟩
  rintro ⟨s, hs, -⟩
  cases hs

end Ansisop.Umv
