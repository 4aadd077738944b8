import Ansisop.Umv.Access
import Ansisop.Umv.Server

/-!
The UMV as the CPUs meet it: one turn of the loop of `admin_conec_cpu` for each message, what a
request for bytes of a segment is answered, and which calls leave a segment alone.

`Alojado u t b` says that the table has the segment `t`, that it is the one the process finds at its
logical address, and that it holds the bytes `b`. As long as it does, a request for bytes of it is
answered out of `b` (`gestionarSolicitudBytes_alojado`). A call that `Deja` the segment keeps it so:
it writes another segment, and moves none.
-/

namespace Ansisop.Umv

open Ansisop.Sockets Ansisop.Lib Ansisop.Lib.Blocks Ansisop.Lib.Memory

/-! ### The loop -/

/-- `gestionar_almacenamiento_bytes`. The log takes `tam` bytes of the buffer before anything is
looked up. -/
def gestionarAlmacenamientoBytes (menBytes : MenCpuUmv) (procActivo : ℤ) (u : Estado) :
    Option (Estado × MenComun) :=
  if menBytes.buffer.length < menBytes.tam then none
  else
    (almacenarBytes procActivo menBytes.base menBytes.offset menBytes.tam menBytes.buffer u).map
      fun r => (r.1, crearMenComun r.2 [])

/-- One turn of `admin_conec_cpu`, with `proc_activo`. `heap` is what a block of `malloc` holds
before anything is written into it. -/
def adminConecCpu (heap : ℕ → Byte) (menBytes : MenCpuUmv) (procActivo : ℤ) (u : Estado) :
    Option ((Estado × ℤ) × Turno) :=
  if menBytes.tipo = TipoDatos.conecCerrada then some ((u, procActivo), .termina)
  else if menBytes.tipo = TipoDatos.cambioPA then some ((u, menBytes.base), .sigue)
  else if menBytes.tipo = TipoDatos.solBytes then
    (gestionarSolicitudBytes heap menBytes procActivo u).map fun men =>
      ((u, procActivo), .responde men)
  else if menBytes.tipo = TipoDatos.almBytes then
    (gestionarAlmacenamientoBytes menBytes procActivo u).map fun r =>
      ((r.1, procActivo), .responde r.2)
  else some ((u, procActivo), .sigue)

/-- What the CPU is sent in a turn. -/
def Turno.respuesta : Turno → Option MenComun
  | .responde men => some men
  | _ => none

/-- A message of a CPU is served, whatever the blocks of `malloc` hold. -/
def Sirve (u : Estado) (procActivo : ℤ) (menBytes : MenCpuUmv) (u' : Estado) (procActivo' : ℤ)
    (resp : Option MenComun) : Prop :=
  ∃ heap turno, adminConecCpu heap menBytes procActivo u = some ((u', procActivo'), turno) ∧
    turno.respuesta = resp

lemma adminConecCpu_solBytes (heap : ℕ → Byte) {men : MenCpuUmv} {pa : ℤ} {u : Estado}
    (hmen : men.tipo = TipoDatos.solBytes) : adminConecCpu heap men pa u =
      (gestionarSolicitudBytes heap men pa u).map fun r => ((u, pa), .responde r) := by
  unfold adminConecCpu
  rw [hmen]
  rfl

lemma Sirve.solBytes {u u' : Estado} {pa pa' : ℤ} {men : MenCpuUmv} {resp : Option MenComun}
    (hmen : men.tipo = TipoDatos.solBytes) (h : Sirve u pa men u' pa' resp) :
    u' = u ∧ pa' = pa ∧
      ∃ heap r, gestionarSolicitudBytes heap men pa u = some r ∧ resp = some r := by
  obtain ⟨heap, turno, hturno, rfl⟩ := h
  rw [adminConecCpu_solBytes heap hmen] at hturno
  obtain ⟨r, hr, heq⟩ := Option.map_eq_some_iff.1 hturno
  cases heq
  exact ⟨rfl, rfl, heap, r, hr, rfl⟩

/-- A request that has an answer is served with it. -/
lemma sirve_solBytes {u : Estado} {pa : ℤ} {men : MenCpuUmv} (heap : ℕ → Byte) {r : MenComun}
    (hmen : men.tipo = TipoDatos.solBytes) (hr : gestionarSolicitudBytes heap men pa u = some r) :
    Sirve u pa men u pa (some r) := by
  refine ⟨heap, .responde r, ?_, rfl⟩
  rw [adminConecCpu_solBytes heap hmen, hr]
  rfl

lemma Sirve.almBytes {u u' : Estado} {pa pa' : ℤ} {men : MenCpuUmv} {resp : Option MenComun}
    (hmen : men.tipo = TipoDatos.almBytes) (h : Sirve u pa men u' pa' resp) :
    pa' = pa ∧ ∃ r, almacenarBytes pa men.base men.offset men.tam men.buffer u = some (u', r) ∧
      resp = some (crearMenComun r []) := by
  obtain ⟨heap, turno, hturno, rfl⟩ := h
  have halm : adminConecCpu heap men pa u
      = (gestionarAlmacenamientoBytes men pa u).map fun r => ((r.1, pa), .responde r.2) := by
    unfold adminConecCpu
    rw [hmen]
    rfl
  rw [halm] at hturno
  obtain ⟨r, hr, heq⟩ := Option.map_eq_some_iff.1 hturno
  unfold gestionarAlmacenamientoBytes at hr
  split at hr
  · cases hr
  · obtain ⟨⟨v, r'⟩, hv, rfl⟩ := Option.map_eq_some_iff.1 hr
    cases heq
    exact ⟨rfl, r', hv, rfl⟩

/-- What is no request leaves everything as it is. -/
lemma Sirve.otro {u u' : Estado} {pa pa' : ℤ} {men : MenCpuUmv} {resp : Option MenComun}
    (hsol : men.tipo ≠ TipoDatos.solBytes) (halm : men.tipo ≠ TipoDatos.almBytes)
    (h : Sirve u pa men u' pa' resp) : u' = u := by
  obtain ⟨heap, turno, hturno, rfl⟩ := h
  unfold adminConecCpu at hturno
  rw [if_neg hsol, if_neg halm] at hturno
  split at hturno
  · cases hturno
    rfl
  · split at hturno
    · cases hturno
      rfl
    · cases hturno
      rfl

/-! ### A segment and its bytes -/

/-- The process finds the segment at its logical address, and the segment holds the bytes. -/
structure Alojado (u : Estado) (t : Seg) (b : List Byte) : Prop where
  mem : t ∈ u.listSeg
  bytes : u.contenido t = b
  unico : ∀ s ∈ u.listSeg, s.idProc = t.idProc → s.dirLogica = t.dirLogica → s = t

/-- What a request for bytes of a segment is answered, out of the bytes of the segment. -/
def respuestaDe (b : List Byte) (menBytes : MenCpuUmv) : MenComun :=
  if 0 ≤ menBytes.offset ∧ 0 ≤ menBytes.tam ∧ menBytes.offset + menBytes.tam ≤ b.length then
    crearMenComun TipoDatos.rSolBytes ((b.drop menBytes.offset.toNat).take menBytes.tam.toNat)
  else crearMenComun TipoDatos.segmenFault []

section Alojado

variable {u u' : Estado} {t : Seg} {b : List Byte}

lemma Alojado.hallado (h : Alojado u t b) :
    buscarSegmentoDirLogica u t.idProc t.dirLogica = some t := by
  obtain ⟨s, hs⟩ : ∃ s, buscarSegmentoDirLogica u t.idProc t.dirLogica = some s := by
    rw [← Option.isSome_iff_exists]
    unfold buscarSegmentoDirLogica
    rw [List.find?_isSome]
    exact ⟨t, h.mem, by simp⟩
  have hclave := List.find?_some hs
  simp only [Bool.and_eq_true, beq_iff_eq] at hclave
  rw [hs, h.unico s (List.mem_of_find?_eq_some hs) hclave.2 hclave.1]

/-- **A request for bytes of the segment** is answered out of its bytes, whatever the blocks of
`malloc` hold. -/
theorem gestionarSolicitudBytes_alojado (hu : Valida u) (h : Alojado u t b)
    (hdir : 0 ≤ t.dirLogica) {heap : ℕ → Byte} {men : MenCpuUmv} {r : MenComun}
    (hbase : men.base = t.dirLogica)
    (hr : gestionarSolicitudBytes heap men t.idProc u = some r) : r = respuestaDe b men := by
  have h0 := hu.tabla.size_nonneg t h.mem
  have hpos := hu.tabla.pos_nonneg t h.mem
  have hfit := hu.tabla.fits t h.mem
  have hb := h.bytes
  have hlen : b.length = t.tamSeg.toNat := by
    rw [← hb]
    exact read_length _ _ _
  have hhall : buscarSegmentoDirLogica u t.idProc men.base = some t := by
    rw [hbase]
    exact h.hallado
  unfold gestionarSolicitudBytes at hr
  unfold respuestaDe
  obtain ⟨ret, hret, rfl⟩ := Option.map_eq_some_iff.1 hr
  cases hg : fueraDeRango u men.base men.offset men.tam with
  | true =>
    rw [(refuse_of_fueraDeRango [] hg).1] at hret
    obtain rfl := Option.some.inj hret
    have hfuera := fueraDeRango_iff.1 hg
    rw [if_neg (by omega)]
  | false =>
    have hdentro := fueraDeRango_eq_false.1 hg
    unfold solicitarBytes at hret
    rw [if_neg (by simp [hg]), hhall] at hret
    simp only at hret
    split at hret
    · cases hret
    · split at hret
      · obtain rfl := Option.some.inj hret
        rw [if_neg (by omega)]
      · split at hret
        · cases hret
        · obtain rfl := Option.some.inj hret
          rw [if_pos (by omega), ← hb, Estado.contenido, read_drop_take _ _ (by omega),
            Int.toNat_of_nonneg hdentro.1]

/-- Only the memory and which segments there are matter. -/
lemma Alojado.congr (h : Alojado u t b) (hmem : u'.memPrin = u.memPrin)
    (hseg : ∀ s, s ∈ u'.listSeg ↔ s ∈ u.listSeg) : Alojado u' t b where
  mem := (hseg t).2 h.mem
  bytes := by
    rw [← h.bytes, Estado.contenido, Estado.contenido, hmem]
  unico := fun s hs => h.unico s ((hseg s).1 hs)

/-- **A copy into another segment** leaves the segment its bytes. -/
lemma Alojado.copia (hu : Valida u) (h : Alojado u t b) {s : Seg} (hs : s ∈ u.listSeg) (hne : t ≠ s)
    {l : List Byte} {offset : ℤ} (h0 : 0 ≤ offset) (hle : offset + l.length ≤ s.tamSeg) :
    Alojado { u with memPrin := memcpy u.memPrin (s.dirFisica + offset) l } t b where
  mem := h.mem
  bytes := by
    have haislada := (copia_aislada hu.tabla hs h0 hle).1 t h.mem hne
    rw [← h.bytes]
    exact read_congr haislada
  unico := h.unico

/-- A write that is not accepted changes nothing. -/
lemma almacenarBytes_rechazada {idProc base offset tam r : ℤ} {buffer : List Byte}
    (hw : almacenarBytes idProc base offset tam buffer u = some (u', r))
    (hr : r ≠ TipoDatos.rAlmBytes.val) : u' = u := by
  unfold almacenarBytes at hw
  split at hw
  · cases hw
    rfl
  · split at hw
    · cases hw
    · simp only at hw
      split at hw
      · cases hw
      · split at hw
        · cases hw
          rfl
        · split at hw
          · cases hw
          · cases hw
            exact absurd rfl hr

/-- A write at another address, or of another process. -/
lemma Alojado.almacenarBytes (hu : Valida u) (h : Alojado u t b) {idProc base offset tam r : ℤ}
    {buffer : List Byte} (hotro : ¬ (idProc = t.idProc ∧ base = t.dirLogica))
    (hw : Umv.almacenarBytes idProc base offset tam buffer u = some (u', r)) : Alojado u' t b := by
  by_cases hr : r = TipoDatos.rAlmBytes.val
  · rw [hr] at hw
    obtain ⟨s, hg, hs, -, hle, h0, hbuf, rfl⟩ := almacenarBytes_aceptada hw
    have hclave := List.find?_some hs
    simp only [Bool.and_eq_true, beq_iff_eq] at hclave
    have hoff := (fueraDeRango_eq_false.1 hg).1
    refine h.copia hu (List.mem_of_find?_eq_some hs) ?_ hoff ?_
    · rintro rfl
      exact hotro ⟨hclave.2.symm, hclave.1.symm⟩
    · rw [List.length_take]
      omega
  · rw [almacenarBytes_rechazada hw hr]
    exact h

/-- The same copy into two memories that agree. -/
lemma read_memcpy_congr {mem mem' : ℤ → Byte} {p p' : ℤ} {n : ℕ} (h : read mem p n = read mem' p' n)
    (o : ℤ) (l : List Byte) : read (memcpy mem (p + o) l) p n = read (memcpy mem' (p' + o) l) p' n := by
  refine read_congr fun i hi => ?_
  have hle : p + o ≤ p + i ↔ p' + o ≤ p' + i := by omega
  have hpos : p + i - (p + o) = p' + i - (p' + o) := by omega
  unfold memcpy
  rw [read_inj.1 h i hi, hpos]
  simp only [hle]

/-- **A write in the segment** is accepted, and the bytes are the ones that have been written. -/
lemma Alojado.escritura (hu : Valida u) {m : ℤ → Byte}
    (h : Alojado u t (read m t.dirLogica t.tamSeg.toNat)) (hdir : 0 ≤ t.dirLogica)
    {offset tam r : ℤ} {buffer : List Byte} (h0 : 0 ≤ offset) (htam : (buffer.length : ℤ) = tam)
    (hle : offset + tam ≤ t.tamSeg)
    (hw : Umv.almacenarBytes t.idProc t.dirLogica offset tam buffer u = some (u', r)) :
    r = TipoDatos.rAlmBytes ∧
      Alojado u' t (read (memcpy m (t.dirLogica + offset) buffer) t.dirLogica t.tamSeg.toNat) := by
  have hpos := hu.tabla.pos_nonneg t h.mem
  have hfit := hu.tabla.fits t h.mem
  have hdentro : fueraDeRango u t.dirLogica offset tam = false :=
    fueraDeRango_eq_false.2 ⟨h0, hdir, by omega, by omega⟩
  unfold Umv.almacenarBytes at hw
  rw [hdentro, if_neg Bool.false_ne_true, h.hallado] at hw
  simp only at hw
  rw [List.take_of_length_le (by omega)] at hw
  split at hw
  · cases hw
  · rw [if_neg (by omega), if_neg (by omega)] at hw
    obtain ⟨rfl, rfl⟩ := Prod.mk.inj (Option.some.inj hw)
    exact ⟨rfl, h.mem, read_memcpy_congr h.bytes offset buffer, h.unico⟩

lemma Valida.almacenarBytes (hu : Valida u) {idProc base offset tam r : ℤ} {buffer : List Byte}
    (hw : Umv.almacenarBytes idProc base offset tam buffer u = some (u', r)) : Valida u' := by
  obtain ⟨hlist, htot⟩ := almacenarBytes_frame hw
  exact ⟨by rw [htot]; exact hu.nonneg, by rw [htot, hlist]; exact hu.tabla⟩

/-- A whole segment stored by its type: of another type, or of another process. -/
lemma Alojado.almacenarSegmento (hu : Valida u) (h : Alojado u t b) {auxMen : MenComun} {idProc : ℤ}
    (hotro : ¬ (idProc = t.idProc ∧ auxMen.tipo = t.tipoSeg)) :
    Alojado (Umv.almacenarSegmento auxMen idProc u) t b := by
  unfold Umv.almacenarSegmento
  split
  · exact h
  · rename_i s hs
    split
    · exact h
    · rename_i htam
      have hclave := List.find?_some hs
      simp only [Bool.and_eq_true, beq_iff_eq] at hclave
      have h0 := hu.tabla.size_nonneg s (List.mem_of_find?_eq_some hs)
      have hlen : (0 : ℤ) + (auxMen.dato.take auxMen.tamDato.toNat).length ≤ s.tamSeg := by
        rw [List.length_take]
        omega
      have hcopia := h.copia hu (List.mem_of_find?_eq_some hs) (by
        rintro rfl
        exact hotro ⟨hclave.2.symm, hclave.1.symm⟩) le_rfl hlen
      rw [add_zero] at hcopia
      exact hcopia

/-- The segments of another process are destroyed. -/
lemma Alojado.destruirSegmentos (h : Alojado u t b) {idProg : ℤ} (h0 : idProg ≠ 0)
    (hotro : idProg ≠ t.idProc) : Alojado (Umv.destruirSegmentos idProg u) t b := by
  have hlist := destruirSegmentos_listSeg idProg u
  rw [if_neg h0] at hlist
  have hmem : (Umv.destruirSegmentos idProg u).memPrin = u.memPrin := by
    unfold Umv.destruirSegmentos
    rw [if_neg h0]
  refine ⟨?_, ?_, fun s hs => h.unico s ?_⟩
  · rw [hlist, List.mem_filter]
    exact ⟨h.mem, by simp [Ne.symm hotro]⟩
  · rw [← h.bytes, Estado.contenido, Estado.contenido, hmem]
  · rw [hlist, List.mem_filter] at hs
    exact hs.1

end Alojado

/-! ### Calls that leave a segment alone -/

/-- The segments, in the order of the sorting, lie one after the other from the address `0` on. -/
def Compacta (ls : ListSort) (u : Estado) : Prop :=
  Packed Seg.dirFisica Seg.tamSeg 0 (ls.sort u.listSeg)

/-- A compaction of packed segments copies nothing. -/
lemma compactarLoop_empaquetada (pila : ℕ → ℕ → Byte) : ∀ (l : List Seg) (i : ℕ) (ind : ℤ)
    (mem : ℤ → Byte), Packed Seg.dirFisica Seg.tamSeg ind l →
    compactarLoop pila i ind mem l = (l, mem)
  | [], _, _, _, _ => rfl
  | s :: l, i, ind, mem, h => by
    unfold compactarLoop
    rw [if_pos h.1.symm]
    simp only [compactarLoop_empaquetada pila l (i + 1) (ind + s.tamSeg) mem h.2]

lemma compactar_compacta {ls : ListSort} (pila : ℕ → ℕ → Byte) {u : Estado} (h : Compacta ls u) :
    compactar ls pila u = ordenarListaSegPorDirFisica ls u := by
  have hord : Packed Seg.dirFisica Seg.tamSeg 0 (ordenarListaSegPorDirFisica ls u).listSeg := h
  unfold compactar
  simp only
  rw [compactarLoop_empaquetada pila _ 0 0 _ hord]

/-- **The call does not reach the segment**: it does not write it nor destroy it, gives its address
to no other segment of the process, and compacts, if at all, what is packed already. -/
def Llamada.Deja (t : Seg) (u : Estado) : Llamada → Prop
  | .crearSegmento e menPed =>
    ¬ (menPed.idProg = t.idProc ∧ e.rand = t.dirLogica) ∧
      ((buscarEspacioMemPrin (e.listSort 0) menPed.tamSeg u).2 = -1 →
        Compacta (e.listSort 1) (ordenarListaSegPorDirFisica (e.listSort 0) u))
  | .destruirSegmentos idProg => idProg ≠ 0 ∧ idProg ≠ t.idProc
  | .compactar ls _ => Compacta ls u
  | .almacenarSegmento auxMen idProc => ¬ (idProc = t.idProc ∧ auxMen.tipo = t.tipoSeg)
  | .almacenarBytes idProc base _ _ _ => ¬ (idProc = t.idProc ∧ base = t.dirLogica)
  | .cambiarAlgoritmo | .solicitarBytes _ _ _ _ => True

section Deja

variable {u u' : Estado} {t : Seg} {b : List Byte}

lemma Alojado.ordenar (h : Alojado u t b) (ls : ListSort) :
    Alojado (ordenarListaSegPorDirFisica ls u) t b :=
  h.congr rfl fun _ => (ls.perm u.listSeg).mem_iff

/-- A new segment at another address, or of another process. -/
lemma Alojado.agregar (h : Alojado u t b) {rand resp : ℤ} {menPed : MenSeg}
    (hotro : ¬ (menPed.idProg = t.idProc ∧ rand = t.dirLogica)) :
    Alojado (agregarSegmento rand menPed resp u).1 t b where
  mem := List.mem_append_left _ h.mem
  bytes := h.bytes
  unico := by
    intro s hs hid hdir
    rcases List.mem_append.1 hs with hs | hs
    · exact h.unico s hs hid hdir
    · obtain rfl := List.mem_singleton.1 hs
      exact absurd ⟨hid, hdir⟩ hotro

lemma Alojado.crearSegmento (h : Alojado u t b) {e : Entorno} {menPed : MenSeg}
    (hdeja : (Llamada.crearSegmento e menPed).Deja t u) :
    Alojado (Umv.crearSegmento e menPed u).1 t b := by
  obtain ⟨hotro, hcomp⟩ := hdeja
  unfold Umv.crearSegmento
  simp only
  split
  · rename_i hno
    -- the compaction after the search that failed only sorts
    have hord : compactar (e.listSort 1) e.pila
        (buscarEspacioMemPrin (e.listSort 0) menPed.tamSeg u).1
        = ordenarListaSegPorDirFisica (e.listSort 1)
          (ordenarListaSegPorDirFisica (e.listSort 0) u) :=
      compactar_compacta e.pila (hcomp hno)
    rw [hord]
    have hal := ((h.ordenar (e.listSort 0)).ordenar (e.listSort 1)).ordenar (e.listSort 2)
    split
    · exact hal
    · exact hal.agregar hotro
  · exact (h.ordenar (e.listSort 0)).agregar hotro

/-- **A call that does not reach the segment** leaves it where the process finds it, with its
bytes. -/
theorem Llamada.Deja.alojado {c : Llamada} (hdeja : c.Deja t u) (hu : Valida u)
    (h : Alojado u t b) (hp : c.paso u = some u') : Alojado u' t b := by
  cases c with
  | crearSegmento e menPed =>
    cases hp
    exact h.crearSegmento hdeja
  | destruirSegmentos idProg =>
    cases hp
    exact h.destruirSegmentos hdeja.1 hdeja.2
  | compactar ls pila =>
    obtain rfl := Option.some.inj hp
    rw [compactar_compacta pila hdeja]
    exact h.ordenar ls
  | cambiarAlgoritmo =>
    cases hp
    unfold Umv.cambiarAlgoritmo
    split <;> exact h.congr rfl fun _ => Iff.rfl
  | almacenarSegmento auxMen idProc =>
    cases hp
    exact h.almacenarSegmento hu hdeja
  | almacenarBytes idProc base offset tam buffer =>
    obtain ⟨⟨v, r⟩, hr, rfl⟩ := Option.map_eq_some_iff.1 hp
    exact h.almacenarBytes hu hdeja hr
  | solicitarBytes idProc base offset tam =>
    obtain ⟨r, -, rfl⟩ := Option.map_eq_some_iff.1 hp
    exact h

lemma Valida.paso {c : Llamada} (hu : Valida u) (hc : c.Admitida) (hp : c.paso u = some u') :
    Valida u' := by
  obtain ⟨htot, hT⟩ := c.paso_tabla hc hu.nonneg hu.tabla hp
  exact ⟨by rw [htot]; exact hu.nonneg, by rw [htot]; exact hT⟩

end Deja

end Ansisop.Umv
