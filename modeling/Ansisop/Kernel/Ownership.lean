import Ansisop.Kernel.Conservation
import Ansisop.Kernel.Link

/-!
Whose the segments are. The kernel asks for the segments of a process when its script arrives and
has them destroyed when the process is over; the UMV keeps a table of its own. Over every run of the
two together, the segments of the table are those of the processes the kernel has, four for each
one, and none is left behind (`sin_fugas`).

The calls of the kernel are atomic, as in the runs of the kernel alone; those that talk to the UMV
run with it behind them, and between them the CPUs and the console use the UMV in any way that
neither makes nor destroys a segment.
-/

namespace Ansisop.Kernel

open Ansisop.Sockets Ansisop.Lib Hilo
open TipoDatos hiding signal wait
open Umv (Llamada Valida Descriptor ajenos propios)

/-! ### The end of a process -/

section Exit

variable {entorno : ℕ → Umv.Entorno} {k k' : Estado} {s s' : Enlace} {α β : Type}

lemma correrConUmv_bind_some {t : Hilo α} {f : α → Hilo β} {r : (β × Estado) × Enlace}
    (h : correrConUmv entorno (t >>= f) k s = some r) :
    ∃ a k₁ s₁, correrConUmv entorno t k s = some ((a, k₁), s₁) ∧
      correrConUmv entorno (f a) k₁ s₁ = some r := by
  rw [correrConUmv_bind, Option.bind_eq_some_iff] at h
  obtain ⟨⟨⟨a, k₁⟩, s₁⟩, h₁, h₂⟩ := h
  exact ⟨a, k₁, s₁, h₁, h₂⟩

lemma correrConUmv_semDecre_some {sem : Sem} {u : Unit}
    (h : correrConUmv entorno (semDecre sem) k s = some ((u, k'), s')) :
    k' = k.restar sem ∧ s' = s := by
  unfold correrConUmv semDecre at h
  simp only [Dialog.interp_ask, Option.bind_eq_some_iff, respuestaConUmv] at h
  obtain ⟨r, hr, h⟩ := h
  split at hr
  · cases hr
  · cases hr
    cases h
    exact ⟨rfl, rfl⟩

@[simp] lemma correrConUmv_queuePop (c : Cola) : correrConUmv entorno (queuePop c) k s
      = some (((k.colas c).head?.join, k.conCola c (k.colas c).tail), s) := rfl

/-- A message of two fields that the UMV does not wait for has no turn there. -/
lemma correrConUmv_enviarMenComun_some (hs : s.Quieto) {soc tipo : ℤ} {dato : List Byte} {u : Unit}
    (h : correrConUmv entorno (enviarMenComun soc tipo dato) k s = some ((u, k'), s')) :
    k' = k ∧ s'.umv = s.umv ∧ s'.Quieto := by
  by_cases hsoc : soc = k.socUmv
  · subst hsoc
    unfold enviarMenComun at h
    rw [correrConUmv_enviarUmv] at h
    obtain ⟨s₁, h₁, -⟩ := Option.map_eq_some_iff.1 h
    unfold Enlace.atiende at h₁
    rw [hs.1] at h₁
    cases h₁
  · unfold enviarMenComun at h
    rw [correrConUmv_enviarOtro hsoc] at h
    cases h
    exact ⟨rfl, rfl, hs⟩

/-- **The segments of a process are destroyed**, and the UMV says so. -/
lemma umvDestruiPcb_run (hs : s.Quieto) (id : ℤ) :
    correrConUmv entorno (umvDestruiPcb id) k s
      = some (((), k), s.con (Umv.destruirSegmentos id s.umv) (s.pedidos + 1)) := by
  obtain ⟨hespera, hresp⟩ := hs
  have hturno : s.atiende entorno (.seg ⟨destrSegs, id, 0⟩)
      = some { s.con (Umv.destruirSegmentos id s.umv) (s.pedidos + 1) with
        respuestas := [crearMenComun sincroOk []] } := by
    have hadm : ∀ e, Umv.adminConecKernel e ⟨destrSegs, id, 0⟩ s.umv
        = (Umv.destruirSegmentos id s.umv, .responde (crearMenComun sincroOk [])) := fun _ => rfl
    simp only [Enlace.atiende, hespera, hadm, Enlace.con, hresp, List.nil_append]
  have hrecv : correrConUmv entorno (recvComun k.socUmv) k
      { s.con (Umv.destruirSegmentos id s.umv) (s.pedidos + 1) with
        respuestas := [crearMenComun sincroOk []] }
        = some ((crearMenComun sincroOk [], k),
          s.con (Umv.destruirSegmentos id s.umv) (s.pedidos + 1)) := by
    rw [correrConUmv_recvUmv rfl]
    simp only [Enlace.con, hresp]
  unfold umvDestruiPcb enviarUmvMemSeg
  simp only [correrConUmv_bind, correrConUmv_get, Option.bind_some, correrConUmv_enviarUmv, hturno,
    Option.map_some, hrecv, correrConUmv_pure]

/-- **One iteration of `manejador_exit`, in the UMV**: the segments of the first process of the queue
are destroyed, if there is one. -/
lemma manejadorExit_conUmv (hs : s.Quieto)
    (h : correrConUmv entorno manejadorExit k s = some (((), k'), s')) :
    ((k.colas .exit).head?.join = none ∧ s'.umv = s.umv) ∨
      ∃ x l, k.colas .exit = some x :: l ∧ s'.umv = Umv.destruirSegmentos x.pcb.id s.umv := by
  obtain ⟨_, k₁, s₁, h₁, hr⟩ := correrConUmv_bind_some h
  obtain ⟨rfl, rfl⟩ := correrConUmv_semDecre_some h₁
  simp only [correrConUmv_bind, correrConUmv_lock, correrConUmv_queuePop, correrConUmv_unlock,
    Option.bind_some] at hr
  have hcola : (k.restar .cantExit).colas .exit = k.colas .exit := rfl
  rw [hcola] at hr
  split at hr
  · rename_i hnada
    cases hr
    exact .inl ⟨hnada, rfl⟩
  · rename_i x hx
    refine .inr ⟨x, _, eq_cons_of_head hx, ?_⟩
    split at hr
    · obtain ⟨_, k₂, s₂, h₂, hr⟩ := correrConUmv_bind_some hr
      obtain ⟨rfl, hu, hs₂⟩ := correrConUmv_enviarMenComun_some hs h₂
      rw [correrConUmv_bind, umvDestruiPcb_run hs₂] at hr
      cases hr
      rw [Enlace.con_umv, hu]
    · rw [correrConUmv_bind, umvDestruiPcb_run hs] at hr
      cases hr
      rfl

end Exit

/-! ### Segments and processes -/

section Cubierto

/-- The segments of the table are those of the processes in memory: each one has the four that were
asked for when its script arrived. -/
structure Cubierto (k : Estado) (u : Umv.Estado) : Prop where
  valida : Valida u
  ajeno : ∀ d ∈ u.descriptores, d.idProc ∈ k.vivos
  propio : ∀ id ∈ k.vivos, ∃ tamCodigo tamEtiquetas tamIndice tamStack resp,
    (propios id u.descriptores).Perm
      (segmentosDe id tamCodigo tamEtiquetas tamIndice tamStack resp)

variable {k k' : Estado} {u u' : Umv.Estado}

/-- Only which segments there are matters. -/
lemma Cubierto.congr (h : Cubierto k u) (hvivos : k'.vivos = k.vivos) (hu : Valida u')
    (hperm : u'.descriptores.Perm u.descriptores) : Cubierto k' u' where
  valida := hu
  ajeno d hd := by
    rw [hvivos]
    exact h.ajeno d (hperm.mem_iff.1 hd)
  propio id hid := by
    rw [hvivos] at hid
    obtain ⟨n, e, i, st, resp, hp⟩ := h.propio id hid
    exact ⟨n, e, i, st, resp, (hperm.filter _).trans hp⟩

lemma propios_ajenos {id id' : ℤ} (hne : id' ≠ id) (l : List Descriptor) :
    propios id' (ajenos id l) = propios id' l := by
  unfold propios ajenos
  rw [List.filter_filter]
  refine List.filter_congr fun d _ => ?_
  by_cases hd : d.idProc = id'
  · simp [hd, hne]
  · simp [hd]

/-- The segments of the others, when those of one process change. -/
lemma propios_perm {id id' : ℤ} (hne : id' ≠ id) {l l' : List Descriptor}
    (h : (ajenos id l').Perm (ajenos id l)) : (propios id' l').Perm (propios id' l) := by
  have hp : (propios id' (ajenos id l')).Perm (propios id' (ajenos id l)) := h.filter _
  rwa [propios_ajenos hne, propios_ajenos hne] at hp

lemma mem_ajenos {id : ℤ} {d : Descriptor} {l : List Descriptor} (hd : d ∈ l) (hne : d.idProc ≠ id) :
    d ∈ ajenos id l :=
  List.mem_filter.2 ⟨hd, by simpa using hne⟩

/-- **A script that is loaded** brings a process and its segments. -/
lemma Cubierto.cargado {metadata : List Byte → MetadataProgram} {socProg id : ℤ} {men : MenComun}
    {resp : RespSolMem} (h : Cubierto k u) (hu : Valida u') (hvivos : k'.vivos = id :: k.vivos)
    (hc : Cargado metadata socProg men k k' u' id resp)
    (hajenos : (ajenos id u'.descriptores).Perm (ajenos id u.descriptores))
    (hnuevo : id ∉ k.vivos) : Cubierto k' u' where
  valida := hu
  ajeno d hd := by
    rw [hvivos]
    by_cases hid : d.idProc = id
    · exact hid ▸ List.mem_cons_self
    · have hmem := hajenos.mem_iff.1 (mem_ajenos hd hid)
      exact List.mem_cons_of_mem _ (h.ajeno d (List.mem_filter.1 hmem).1)
  propio id' hid' := by
    rw [hvivos] at hid'
    rcases List.mem_cons.1 hid' with rfl | hid'
    · exact ⟨_, _, _, _, _, hc.segmentos⟩
    · obtain ⟨n, e, i, st, resp', hp⟩ := h.propio id' hid'
      have hne : id' ≠ id := fun heq => hnuevo (heq ▸ hid')
      exact ⟨n, e, i, st, resp', (propios_perm hne hajenos).trans hp⟩

/-- **A script that is refused** leaves nothing. -/
lemma Cubierto.rechazado {id : ℤ} (h : Cubierto k u) (hu : Valida u') (hvivos : k'.vivos = k.vivos)
    (hc : propios id u'.descriptores = [])
    (hajenos : (ajenos id u'.descriptores).Perm (ajenos id u.descriptores))
    (hnuevo : id ∉ k.vivos) : Cubierto k' u' where
  valida := hu
  ajeno d hd := by
    rw [hvivos]
    have hid : d.idProc ≠ id := by
      rintro rfl
      have hmem : d ∈ propios d.idProc u'.descriptores := List.mem_filter.2 ⟨hd, by simp⟩
      rw [hc] at hmem
      exact absurd hmem List.not_mem_nil
    exact h.ajeno d (List.mem_filter.1 (hajenos.mem_iff.1 (mem_ajenos hd hid))).1
  propio id' hid' := by
    rw [hvivos] at hid'
    obtain ⟨n, e, i, st, resp', hp⟩ := h.propio id' hid'
    have hne : id' ≠ id := fun heq => hnuevo (heq ▸ hid')
    exact ⟨n, e, i, st, resp', (propios_perm hne hajenos).trans hp⟩

/-- **A process that is over** leaves nothing. -/
lemma Cubierto.destruido {id : ℤ} (h : Cubierto k u) (hid : id ≠ 0) (hnodup : k.vivos.Nodup)
    (hvivos : k'.vivos = k.vivos.erase id) : Cubierto k' (Umv.destruirSegmentos id u) := by
  have hdesc : (Umv.destruirSegmentos id u).descriptores = ajenos id u.descriptores := by
    rw [Umv.destruirSegmentos_descriptores, if_neg hid]
    rfl
  refine ⟨h.valida.destruirSegmentos id, fun d hd => ?_, fun id' hid' => ?_⟩
  · rw [hdesc] at hd
    obtain ⟨hd, hne⟩ := List.mem_filter.1 hd
    rw [hvivos]
    exact (List.mem_erase_of_ne (by simpa using hne)).2 (h.ajeno d hd)
  · rw [hvivos, hnodup.mem_erase_iff] at hid'
    obtain ⟨n, e, i, st, resp, hp⟩ := h.propio id' hid'.2
    refine ⟨n, e, i, st, resp, ?_⟩
    rw [hdesc, propios_ajenos hid'.1]
    exact hp

end Cubierto

/-! ### Runs of the two -/

/-- The call neither makes nor destroys a segment. -/
def SinAltas : Llamada → Prop
  | .crearSegmento _ _ | .destruirSegmentos _ => False
  | _ => True

/-- The connection of the kernel, at rest. -/
def enReposo (u : Umv.Estado) : Enlace := ⟨u, none, [], 0, []⟩

section Pareja

variable (metadata : List Byte → MetadataProgram)

/-- One step of the kernel and the UMV: a call that does not talk to the UMV, the load of a script,
the end of a process, or a use of the UMV by a CPU or the console. -/
inductive PasoPareja : Estado × Umv.Estado → Estado × Umv.Estado → Prop
  | nucleo {k k' u} (p : Paso) (hnew : ∀ basura soc men entrada, p ≠ .newScript basura soc men entrada)
      (hexit : ∀ entrada, p ≠ .exit entrada) (ha : Admitido k p)
      (h : p.hacer metadata k = some k') : PasoPareja (k, u) (k', u)
  | newScript {k k' u s'} (entorno : ℕ → Umv.Entorno) (basura soc : ℤ) (men : MenComun)
      (hrand : RandValido entorno) (ha : Admitido k (.newScript basura soc men []))
      (hsoc : soc ≠ k.socUmv) (hmen : men.tamDato = men.dato.length)
      (h : correrConUmv entorno (administrarNewScript metadata basura soc men) k (enReposo u)
        = some (((), k'), s')) : PasoPareja (k, u) (k', s'.umv)
  | exit {k k' u s'} (entorno : ℕ → Umv.Entorno)
      (h : correrConUmv entorno manejadorExit k (enReposo u) = some (((), k'), s')) :
      PasoPareja (k, u) (k', s'.umv)
  | umv {k u u'} (c : Llamada) (hc : SinAltas c) (h : c.paso u = some u') : PasoPareja (k, u) (k, u')

/-- The steps of the two, in any order. -/
abbrev CorridaPareja : Estado × Umv.Estado → Estado × Umv.Estado → Prop :=
  Relation.ReflTransGen (PasoPareja metadata)

/-- What every state of such a run is. -/
structure EnCuenta (tamanioStack : ℤ) (z : Estado × Umv.Estado) : Prop where
  vista : ∃ v, Refleja z.1 v ∧ v.Bien
  stack : z.1.tamanioStack = tamanioStack
  cubierto : Cubierto z.1 z.2

variable {metadata} {tamanioStack : ℤ} {k k' : Estado} {u u' : Umv.Estado}

/-- The watch that the sizes asked for are not negative; no id comes or goes. -/
def inmovil : Custodio (List ℤ × ℤ) where
  pcb _ := True
  sale
    | .enviado _ (.seg m) => 0 ≤ m.tamSeg
    | _ => True
  fijo k := (k.vivos, k.tamanioStack)
  actualiza _ _ := trivial
  termina _ _ := trivial
  comun _ _ := trivial
  cierra _ := trivial
  conCola _ _ _ := rfl
  conSem _ _ _ := rfl
  conCpus _ _ := rfl
  conIo _ _ _ := rfl
  conSemaforo _ _ _ := rfl
  conVar _ _ _ := rfl
  conSocCpus _ _ := rfl
  conSocProgs _ _ := rfl

lemma inmovil_permite : inmovil.Permite where
  despacha _ _ _ := trivial
  destruye _ _ := le_refl (0 : ℤ)

/-- A call that does not talk to the UMV makes no process and ends none. -/
lemma EnCuenta.nucleo (hz : EnCuenta tamanioStack (k, u)) {p : Paso}
    (hnew : ∀ basura soc men entrada, p ≠ .newScript basura soc men entrada)
    (hexit : ∀ entrada, p ≠ .exit entrada) (ha : Admitido k p)
    (h : p.hacer metadata k = some k') : EnCuenta tamanioStack (k', u) := by
  obtain ⟨⟨v, hv, hb⟩, hstack, hcub⟩ := hz
  obtain ⟨v', hm, hv'⟩ := hv.hacer hb ha h
  obtain ⟨r, hr, rfl⟩ := Option.map_eq_some_iff.1 h
  have hanota : p.anotar metadata (k, []) = some (r.1.2, r.2.salida) :=
    Option.map_eq_some_iff.2 ⟨r, hr, rfl⟩
  have hvela : inmovil.Vela (k, ([] : List Salida)).1 (k, ([] : List Salida)).2 :=
    ⟨fun _ _ _ => trivial, fun _ ho => absurd ho List.not_mem_nil⟩
  obtain ⟨-, hfijo⟩ := hvela.paso hanota inmovil_permite (fun ⟨e, he⟩ => absurd he (hexit e)) hnew
  obtain ⟨hvivos, htam⟩ := Prod.mk.inj hfijo
  exact ⟨⟨v', hv', hm.bien hb⟩, htam.trans hstack, hcub.congr hvivos hcub.valida (.refl _)⟩

/-- An id that has been given out is one. -/
lemma administrarNewScript_int {io io' : Bandeja} {basura soc : ℤ} {men : MenComun} {x : Unit}
    (h : correr (administrarNewScript metadata basura soc men) k io = some ((x, k'), io')) :
    EsInt32 (k.contadorPrograma + 1) := by
  obtain ⟨_, k₀, io₀, hg, h₀⟩ := correr_bind_some h
  obtain ⟨hn, hk₀, hio₀⟩ := correr_some rfl hg
  subst hn hk₀ hio₀
  obtain ⟨n, k₁, io₁, hn, -⟩ := correr_bind_some h₀
  exact ⟨(correr_entero_some hn).2.1, (correr_entero_some hn).2.2.1⟩

/-- **The load of a script.** -/
lemma EnCuenta.newScript (hz : EnCuenta tamanioStack (k, u)) (h0 : 0 ≤ tamanioStack)
    {entorno : ℕ → Umv.Entorno} {basura soc : ℤ} {men : MenComun} {s' : Enlace}
    (hrand : RandValido entorno) (ha : Admitido k (.newScript basura soc men []))
    (hsoc : soc ≠ k.socUmv) (hmen : men.tamDato = men.dato.length)
    (h : correrConUmv entorno (administrarNewScript metadata basura soc men) k (enReposo u)
      = some (((), k'), s')) : EnCuenta tamanioStack (k', s'.umv) := by
  obtain ⟨⟨v, hv, hb⟩, hstack, hcub⟩ := hz
  have hstack : k.tamanioStack = tamanioStack := hstack
  -- the same call with the answers of the UMV as messages
  obtain ⟨q, l, hcorre, hval⟩ := correrConUmv_some (P := Valida)
    (S := fun o => ∀ soc m, o = .enviado soc (.seg m) → 0 ≤ m.tamSeg)
    (fun n soc m u hm hu => adminConecKernel_conserva _ _ (hu.crearSegmento _ (hm soc m rfl))
      (fun v hv => hv.destruirSegmentos _) hu)
    (fun idProc m u hu => by
      obtain ⟨hlist, htot⟩ := Umv.almacenarSegmento_frame m idProc u
      exact ⟨htot ▸ hu.nonneg, htot ▸ hlist ▸ hu.tabla⟩) h
  have hval : Valida s'.umv := by
    refine hval (fun o ho soc m heq => ?_) hcub.valida
    have hsale := Custodio.sale_administrarNewScript (C := inmovil)
      (fun _ ho => absurd ho List.not_mem_nil) (fun m hm => ?_) hcorre o ho
    · rw [heq] at hsale
      exact hsale
    · show 0 ≤ m.tamSeg
      cases hm <;> simp only <;> omega
  have hpaso : (Paso.newScript basura soc men q).hacer metadata k = some k' := by
    unfold Paso.hacer
    exact Option.map_eq_some_iff.2 ⟨_, hcorre, rfl⟩
  have ha' : Admitido k (.newScript basura soc men q) := ha
  obtain ⟨v', hm, hv'⟩ := hv.hacer hb ha' hpaso
  have hcont : 0 ≤ k.contadorPrograma := hv.contador ▸ hb.contador
  have hnuevo : k.contadorPrograma + 1 ∉ k.vivos := by
    intro hmem
    rw [← Multiset.mem_coe, hv.vivos] at hmem
    have := (hb.rango _ hmem).2
    rw [← hv.contador] at this
    have : k.contadorPrograma + 1 ≤ k.contadorPrograma := this
    omega
  have hdesc : ∀ d ∈ u.descriptores, d.idProc ≠ k.contadorPrograma + 1 :=
    fun d hd heq => hnuevo (heq ▸ hcub.ajeno d hd)
  rcases administrarNewScript_run (s := enReposo u) metadata basura ⟨rfl, rfl⟩ hcub.valida hrand hsoc
    hmen (hstack ▸ h0) (administrarNewScript_int hcorre) (by omega) hdesc with ⟨hr, -⟩ | ⟨k₁, s₁, hr, hfin⟩
  · cases hr.symm.trans h
  obtain ⟨heq, rfl⟩ := Prod.mk.inj (Option.some.inj (hr.symm.trans h))
  obtain ⟨-, rfl⟩ := Prod.mk.inj heq
  obtain ⟨hfin, hajenos⟩ := hfin
  have htam : k₁.tamanioStack = k.tamanioStack := by
    obtain rfl | ⟨pcb, peso, -, rfl⟩ := administrarNewScript_some hcorre <;> rfl
  refine ⟨⟨v', hv', hm.bien hb⟩, htam.trans hstack, ?_⟩
  rcases hfin with ⟨resp, hc⟩ | hc
  · refine hcub.cargado hval ?_ hc hajenos hnuevo
    -- the process that is queued is the one in memory
    obtain rfl | ⟨pcb, peso, hid, rfl⟩ := administrarNewScript_some hcorre
    · obtain ⟨aux, haux, -⟩ := hc.encolado
      exact absurd haux (by simp)
    · rw [← hid]
      rfl
  · exact hcub.rechazado hval hc.vivos hc.segmentos hajenos hnuevo

/-- **The end of a process.** -/
lemma EnCuenta.exit (metadata : List Byte → MetadataProgram)
    (hz : EnCuenta tamanioStack (k, u)) {entorno : ℕ → Umv.Entorno} {s' : Enlace}
    (h : correrConUmv entorno manejadorExit k (enReposo u) = some (((), k'), s')) :
    EnCuenta tamanioStack (k', s'.umv) := by
  obtain ⟨⟨v, hv, hb⟩, hstack, hcub⟩ := hz
  obtain ⟨q, l, hcorre, -⟩ := correrConUmv_some (P := fun _ => True) (S := fun _ => True)
    (fun _ _ _ _ _ _ => trivial) (fun _ _ _ _ => trivial) h
  have hpaso : (Paso.exit q).hacer metadata k = some k' := by
    unfold Paso.hacer
    exact Option.map_eq_some_iff.2 ⟨_, hcorre, rfl⟩
  have ha : Admitido k (.exit q) := trivial
  obtain ⟨v', hm, hv'⟩ := hv.hacer hb ha hpaso
  obtain ⟨-, ⟨hnada, rfl⟩ | ⟨x, lx, hx, rfl⟩⟩ := manejadorExit_some hcorre
  · refine ⟨⟨v', hv', hm.bien hb⟩, hstack, ?_⟩
    rcases manejadorExit_conUmv ⟨rfl, rfl⟩ h with ⟨-, hu⟩ | ⟨y, ly, hy, -⟩
    · rw [hu]
      exact hcub.congr rfl hcub.valida (.refl _)
    · rw [hy] at hnada
      cases hnada
  · refine ⟨⟨v', hv', hm.bien hb⟩, hstack, ?_⟩
    rcases manejadorExit_conUmv ⟨rfl, rfl⟩ h with ⟨hnada, -⟩ | ⟨y, ly, hy, hu⟩
    · rw [hx] at hnada
      cases hnada
    · obtain ⟨hxy, -⟩ := List.cons.inj (hx.symm.trans hy)
      obtain rfl := Option.some.inj hxy
      have hmem : x ∈ v.cola .exit := hv.mem_cola.1 (by rw [hx]; exact List.mem_cons_self)
      have hnodup : k.vivos.Nodup := by
        rw [← Multiset.coe_nodup, hv.vivos]
        exact hb.nodup
      rw [hu]
      exact hcub.destruido (hb.id_ne_zero hmem) hnodup rfl

/-- The CPUs and the console. -/
lemma EnCuenta.umv (hz : EnCuenta tamanioStack (k, u)) {c : Llamada} (hc : SinAltas c)
    (h : c.paso u = some u') : EnCuenta tamanioStack (k, u') := by
  obtain ⟨hvista, hstack, hcub⟩ := hz
  refine ⟨hvista, hstack, hcub.congr rfl (hcub.valida.paso ?_ h) ?_⟩
  · cases c with
    | crearSegmento e menPed => exact hc.elim
    | _ => trivial
  · cases c with
    | crearSegmento e menPed => exact hc.elim
    | destruirSegmentos idProg => exact hc.elim
    | compactar ls pila =>
      obtain rfl := Option.some.inj h
      exact Umv.compactar_descriptores ls pila u
    | cambiarAlgoritmo =>
      obtain rfl := Option.some.inj h
      unfold Umv.cambiarAlgoritmo
      split <;> exact .refl _
    | almacenarSegmento auxMen idProc =>
      obtain rfl := Option.some.inj h
      exact .of_eq (congrArg (List.map Umv.Seg.descriptor) (Umv.almacenarSegmento_frame auxMen idProc u).1)
    | almacenarBytes idProc base offset tam buffer =>
      obtain ⟨⟨w, r⟩, hw, rfl⟩ := Option.map_eq_some_iff.1 h
      exact .of_eq (congrArg (List.map Umv.Seg.descriptor) (Umv.almacenarBytes_frame hw).1)
    | solicitarBytes idProc base offset tam =>
      obtain ⟨r, -, rfl⟩ := Option.map_eq_some_iff.1 h
      exact .refl _

/-- **A run of the two.** -/
lemma EnCuenta.corrida {z z' : Estado × Umv.Estado} (h0 : 0 ≤ tamanioStack)
    (hz : EnCuenta tamanioStack z) (h : CorridaPareja metadata z z') : EnCuenta tamanioStack z' := by
  induction h with
  | refl => exact hz
  | tail _ hpaso ih =>
    cases hpaso with
    | nucleo p hnew hexit ha h => exact ih.nucleo hnew hexit ha h
    | newScript entorno basura soc men hrand ha hsoc hmen h =>
      exact ih.newScript h0 hrand ha hsoc hmen h
    | exit entorno h => exact ih.exit metadata h
    | umv c hc h => exact ih.umv hc h

end Pareja

end Ansisop.Kernel
