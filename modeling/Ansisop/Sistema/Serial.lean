import Ansisop.Cpu.Alone
import Ansisop.Lib.Views
import Ansisop.Sistema.Fetch

/-!
A process among the others. Its script and its stack lie in segments of the UMV, and its pcb says
where it is; together they hold a machine (`Tiene`). The process is given to a CPU, to another one
after that, and so on, while other CPUs execute other processes and the kernel and the console use
the UMV.

The messages of all of them come to the UMV in any order. Still, what is left in the UMV and in the
pcb is what the lines of the process mean, one dispatch after the other, as if the machine had been by
itself (`jornadas_entre_otros`): for each dispatch the segments of the process are a view of the UMV
that the others leave alone (`vista`), and against this view the dispatch is that of `Cpu.Alone`.
-/

namespace Ansisop.Sistema

open Ansisop.Sockets Ansisop.Lib Ansisop.Lib.Memory Ansisop.Lib.Clients Ansisop.Cpu Ansisop.Umv Dialog
open TipoDatos hiding signal wait imprimirTexto cambioPA

/-! ### The segments of a process -/

/-- `metadata_buscar_etiqueta`: its results are `int32_t`. -/
abbrev Buscador :=
  { f : List Byte → Etiquetas → ℤ → ℤ // ∀ nombre etiquetas tam, EsInt32 (f nombre etiquetas tam) }

/-- A script with the stack segment of its process, whose addresses are `int32_t`. -/
structure Residencia extends Imagen where
  segStack : Seg
  idStack : segStack.idProc = pcb.id
  dirStack : segStack.dirLogica = pcb.dirSegStack
  dirStack_nonneg : 0 ≤ segStack.dirLogica
  finStack : segStack.dirLogica + segStack.tamSeg < 2 ^ 31
  aparte : segEtiquetas.dirLogica ≠ segCodigo.dirLogica ∧
    segEtiquetas.dirLogica ≠ segIndice.dirLogica

/-- The bytes `[offset, offset + tam)` of a segment. -/
def trozo (b : List Byte) (offset tam : ℤ) : Option (List Byte) :=
  if 0 ≤ offset ∧ 0 ≤ tam ∧ offset + tam ≤ b.length then
    some ((b.drop offset.toNat).take tam.toNat)
  else none

lemma respuestaDe_trozo {b l : List Byte} {men : MenCpuUmv}
    (h : trozo b men.offset men.tam = some l) : respuestaDe b men = ⟨men.tam, rSolBytes, l⟩ := by
  obtain ⟨hdentro, hl⟩ := Option.ite_none_right_eq_some.1 h
  obtain rfl := Option.some.inj hl
  unfold respuestaDe
  rw [if_pos hdentro, crearMenComun, List.length_take, List.length_drop]
  congr 1
  omega

lemma trozo_read {mem : ℤ → Byte} {p offset tam : ℤ} {n : ℕ} (h₀ : 0 ≤ offset) (h₁ : 0 ≤ tam)
    (h₂ : offset + tam ≤ n) :
    trozo (read mem p n) offset tam = some (read mem (p + offset) tam.toNat) := by
  unfold trozo
  rw [if_pos ⟨h₀, h₁, by rw [read_length]; exact h₂⟩, read_drop_take mem p (by omega),
    Int.toNat_of_nonneg h₀]

namespace Residencia

variable (r : Residencia) (f : Buscador) (stringTrim : List Byte → List Byte)

/-- What the segments apart from the stack hold. -/
def otros (base offset tam : ℤ) : Option (List Byte) :=
  if base = r.segCodigo.dirLogica then trozo r.codigo offset tam
  else if base = r.segIndice.dirLogica then trozo r.indice offset tam
  else if base = r.segEtiquetas.dirLogica then trozo r.etiquetas offset tam
  else none

/-- The surroundings of the process. -/
def entorno : Cpu.Entorno where
  base := r.segStack.dirLogica
  tamStack := r.segStack.tamSeg
  otros := r.otros
  buscar := f.1
  kernel _ := ⟨0, 0, []⟩
  basura _ _ := 0
  buscar_int32 := f.2

/-- The script: the lines that the index and the code give, and the labels. -/
def guion : Guion where
  linea := (r.entorno f).linea stringTrim r.pcb
  etiqueta nombre := f.1 nombre (.datos r.etiquetas) r.pcb.tamIndiceEtiquetas

variable {r f stringTrim}

lemma otros_eq_some {base offset tam : ℤ} {l : List Byte} (h : r.otros base offset tam = some l) :
    ∃ x ∈ r.partes, base = x.1.dirLogica ∧ trozo x.2 offset tam = some l := by
  unfold otros at h
  split at h
  · exact ⟨(r.segCodigo, r.codigo), by simp [Imagen.partes], ‹_›, h⟩
  · split at h
    · exact ⟨(r.segIndice, r.indice), by simp [Imagen.partes], ‹_›, h⟩
    · split at h
      · exact ⟨(r.segEtiquetas, r.etiquetas), by simp [Imagen.partes], ‹_›, h⟩
      · cases h

lemma otros_etiquetas :
    r.otros r.pcb.dirIndiceEtiquetas 0 r.pcb.tamIndiceEtiquetas = some r.etiquetas := by
  unfold otros trozo
  rw [← r.dirEtiquetas, if_neg r.aparte.1, if_neg r.aparte.2, if_pos rfl, r.tamEtiquetas]
  simp

/-- A segment of the script is not the stack. -/
lemma aparte_stack {x : Seg × List Byte} (hx : x ∈ r.partes) :
    x.1.dirLogica ≠ r.segStack.dirLogica := by
  rw [r.dirStack]
  exact (r.propio hx).2.2

/-- **The process has its script.** -/
lemma ejecutable : Ejecutable (r.entorno f) stringTrim (r.guion f stringTrim) r.pcb where
  normal := ⟨r.dirStack_nonneg, r.finStack⟩
  guion := by
    refine ⟨?_, ?_, ?_, fun _ => rfl, fun l hl nombre => ?_⟩
    · rw [← r.dirIndice]
      exact aparte_stack (x := (r.segIndice, r.indice)) (by simp [Imagen.partes])
    · rw [← r.dirCodigo]
      exact aparte_stack (x := (r.segCodigo, r.codigo)) (by simp [Imagen.partes])
    · rw [← r.dirEtiquetas]
      exact aparte_stack (x := (r.segEtiquetas, r.etiquetas)) (by simp [Imagen.partes])
    · obtain rfl := Option.some.inj (otros_etiquetas.symm.trans hl)
      rfl
  etiquetas := Option.isSome_iff_exists.2 ⟨_, otros_etiquetas⟩

/-! ### The view of a process -/

variable (r)

/-- The UMV has the script, and in the stack segment what the memory has. -/
structure Muestra (u : Umv.Estado) (m : Cpu.Memoria) : Prop where
  valida : Valida u
  script : r.En u
  stack : Alojado u r.segStack (read m.pila r.segStack.dirLogica r.segStack.tamSeg.toNat)

/-- A call that leaves the script and the stack alone. -/
def Calla (c : Llamada) (u : Umv.Estado) : Prop :=
  c.Admitida ∧ r.Deja c u ∧ c.Deja r.segStack u

/-- A pcb of another process. -/
def Ajeno (men : MenQuantumPcb) : Prop := men.pcb.id ≠ r.pcb.id

variable {r} {u u' : Umv.Estado} {m : Cpu.Memoria} {pa pa' : ℤ} {men : MenCpuUmv} {x : MenQuantumPcb}
  {resp : Option MenComun}

/-- A reading of a segment of the process. -/
lemma Muestra.lectura (h : r.Muestra u m) {t : Seg} {b l : List Byte} (ht : Alojado u t b)
    (hid : t.idProc = pa) (hdir : 0 ≤ t.dirLogica) (hbase : men.base = t.dirLogica)
    (hsol : men.tipo = solBytes) (hl : trozo b men.offset men.tam = some l)
    (hs : Sirve u pa men u' pa' resp) : resp = some ⟨men.tam, rSolBytes, l⟩ ∧ r.Muestra u' m := by
  obtain ⟨rfl, -, heap, res, hres, rfl⟩ := hs.solBytes hsol
  rw [← hid] at hres
  rw [gestionarSolicitudBytes_alojado h.valida ht hdir hbase hres, respuestaDe_trozo hl]
  exact ⟨rfl, h⟩

/-- **A request of the process** has the answer that its memory gives. -/
lemma Muestra.pedido (h : r.Muestra u m) (hm : ((r.entorno f).atender men m).isSome)
    (hx : MismoProceso r.pcb x.pcb) (hpert : Pertinente x.pcb pa men)
    (hs : Sirve u pa men u' pa' resp) :
    ∃ res m', resp = some res ∧ (r.entorno f).atender men m = some (res, m') ∧ r.Muestra u' m' := by
  obtain ⟨⟨res, m'⟩, hm⟩ := Option.isSome_iff_exists.1 hm
  have hatiende := hm
  have hpa : pa = r.pcb.id := hpert.1.trans hx.id
  unfold Cpu.Entorno.atender at hm
  split at hm
  · rename_i hbase
    have hbase : men.base = r.segStack.dirLogica := hbase
    obtain ⟨⟨h₀, h₁, h₂⟩, hm⟩ := Option.ite_none_right_eq_some.1 hm
    have h₂ : men.offset + men.tam ≤ r.segStack.tamSeg := h₂
    split at hm
    · rename_i hsol
      obtain ⟨rfl, rfl⟩ := Prod.mk.inj (Option.some.inj hm)
      obtain ⟨hresp, h'⟩ := h.lectura h.stack (r.idStack.trans hpa.symm) r.dirStack_nonneg hbase hsol
        (trozo_read h₀ h₁ (by omega)) hs
      exact ⟨_, _, hresp, hatiende, h'⟩
    · obtain ⟨⟨halm, hlen⟩, hm⟩ := Option.ite_none_right_eq_some.1 hm
      obtain ⟨rfl, rfl⟩ := Prod.mk.inj (Option.some.inj hm)
      obtain ⟨-, acuse, hw, rfl⟩ := hs.almBytes halm
      rw [hbase, hpa, ← r.idStack] at hw
      obtain ⟨rfl, hstack⟩ := h.stack.escritura h.valida r.dirStack_nonneg h₀ hlen h₂ hw
      refine ⟨_, _, rfl, hatiende, h.valida.almacenarBytes hw, fun y hy => ?_, hstack⟩
      exact (h.script y hy).almacenarBytes h.valida (fun hy' => aparte_stack hy hy'.2.symm) hw
  · obtain ⟨hsol, hm⟩ := Option.ite_none_right_eq_some.1 hm
    obtain ⟨l, hl, hm⟩ := Option.map_eq_some_iff.1 hm
    obtain ⟨rfl, rfl⟩ := Prod.mk.inj hm
    obtain ⟨y, hy, hbase, hl⟩ := otros_eq_some hl
    obtain ⟨hid, hdir, -⟩ := r.propio hy
    obtain ⟨hresp, h'⟩ := h.lectura (h.script y hy) (hid.trans hpa.symm) hdir hbase hsol hl hs
    exact ⟨_, _, hresp, hatiende, h'⟩

/-- A request of another process. -/
lemma Muestra.ajeno (h : r.Muestra u m) (hx : r.Ajeno x) (hpert : Pertinente x.pcb pa men)
    (hs : Sirve u pa men u' pa' resp) : r.Muestra u' m := by
  have hpa : pa ≠ r.pcb.id := hpert.1 ▸ hx
  rcases hpert.2 with hsol | ⟨halm, -⟩
  · obtain ⟨rfl, -, -⟩ := hs.solBytes hsol
    exact h
  · obtain ⟨-, acuse, hw, -⟩ := hs.almBytes halm
    refine ⟨h.valida.almacenarBytes hw, fun y hy => ?_, ?_⟩
    · refine (h.script y hy).almacenarBytes h.valida (fun hy' => hpa ?_) hw
      exact hy'.1.trans (r.propio hy).1
    · exact h.stack.almacenarBytes h.valida (fun hy' => hpa (hy'.1.trans r.idStack)) hw

/-- A call of the kernel or the console. -/
lemma Muestra.llamada (h : r.Muestra u m) {c : Llamada} (hc : r.Calla c u) (hp : c.paso u = some u') :
    r.Muestra u' m where
  valida := h.valida.paso hc.1 hp
  script y hy := (hc.2.1 y hy).alojado h.valida (h.script y hy) hp
  stack := hc.2.2.alojado h.valida h.stack hp

/-- The answers of everybody but the UMV: a label is where `f` finds it, and no CPU is told to
close. -/
def Responden (f : Buscador) : (e : Evento) → e.Respuesta → Prop
  | .buscarEtiqueta nombre etiquetas tam, pos => pos = f.1 nombre etiquetas tam
  | .quitSistema, seguir => seguir = true
  | _, _ => True

/-- **The segments of a process are a view**: its requests are served out of them, and the others
leave them alone. -/
def vista (f : Buscador) (hx : MismoProceso r.pcb x.pcb) :
    View Cpu.Memoria (contrato (Responden f) fun men => .libre men.pcb) Sirve
      (fun u u' => ∃ c : Llamada, r.Calla c u ∧ c.paso u = some u') x r.Ajeno where
  ν := (r.entorno f).solo
  shows := r.Muestra
  away {m e ok} _ hvia res hok := by
    cases e with
    | enviarUmv men | pedirUmv men => cases hvia
    | recvKernel | basura n => exact ⟨_, rfl, fun _ h => ⟨h.valida, h.script, h.stack⟩⟩
    | caida => cases res
    | quitSistema | buscarEtiqueta nombre etiquetas tam =>
      cases hvia
      exact ⟨m, ⟨hok, rfl⟩, fun _ h => h⟩
    | enviarKernel | analizar | primitiva => exact ⟨m, rfl, fun _ h => h⟩
  send {m e msg res} _ hvia := by
    cases e with
    | enviarUmv men => exact ⟨m, rfl, fun _ h => h⟩
    | _ => cases hvia
  ask {m e msg take u pa u' pa' resp} hm hvia hpert h hs := by
    cases e with
    | pedirUmv men =>
      obtain ⟨rfl, rfl⟩ := Via.ask.inj hvia
      exact h.pedido hm hx hpert hs
    | _ => cases hvia
  sent {m msg u pa u' pa' resp} hno h hs := by
    have hno : ¬ (msg.tipo = solBytes ∨ msg.tipo = almBytes) := hno
    rw [not_or] at hno
    obtain rfl := hs.otro hno.1 hno.2
    exact h
  others hy _ hpert h hs := h.ajeno hy hpert hs
  rest h := by
    rintro ⟨c, hc, hp⟩
    exact h.llamada hc hp

variable (r) in
/-- What is left when the machine has run a quantum: the pcb of a CPU, and the memory. -/
def Queda (f : Buscador) (stringTrim : List Byte → List Byte)
    (analizadorLinea : Option (List Byte) → Analisis) (M : Cpu.Maquina) (cant : ℤ)
    (a : Unit × Cpu.Estado) (m : Cpu.Memoria) : Prop :=
  ∃ M', M.sinFin.Turnos r.segStack.dirLogica stringTrim (r.guion f stringTrim) analizadorLinea
    cant.toNat M' ∧ EnPcb (r.entorno f) M' a.2.pcb m ∧ M'.EnSegmento (r.entorno f) ∧
      MismoProceso r.pcb a.2.pcb

variable (r) in
/-- The UMV and the pcb hold the machine, whose stack lies in the segment. -/
def Tiene (f : Buscador) (M : Cpu.Maquina) (pcb : Pcb) (u : Umv.Estado) : Prop :=
  ∃ m, r.Muestra u m ∧ EnPcb (r.entorno f) M pcb m ∧ M.EnSegmento (r.entorno f) ∧
    MismoProceso r.pcb pcb

end Residencia

/-! ### Runs -/

section Corridas

variable {ι : Type*} [DecidableEq ι] (r : Residencia) (f : Buscador)
  (stringTrim : List Byte → List Byte) (analizadorLinea : Option (List Byte) → Analisis)

/-- The steps of the system but for the process: nobody dispatches it, and the calls leave its
segments alone. -/
abbrev Residencia.Resto : Estado ι → Estado ι → Prop :=
  Corrida (Residencia.Responden f) stringTrim analizadorLinea r.Ajeno r.Calla

/-- The CPU `i` gets the pcb for `cant` lines. -/
def entregar (i : ι) (cant : ℤ) (pcb : Pcb) (s : Cpu.Estado) (z : Estado ι) : Estado ι :=
  (Function.update z.1 i { z.1 i with
    work := ⟨pcbYQuantum, cant, pcb⟩
    prog := despacho stringTrim analizadorLinea ⟨pcbYQuantum, cant, pcb⟩ s }, z.2)

/-- **The life of a process**: whenever its dispatch has come to its end, some CPU that is free may
get the pcb that it has left. The others go on all the time. -/
inductive Residencia.Vida : List ℤ → Estado ι × Pcb → Estado ι × Pcb → Prop
  | espera {z z' pcb} : r.Resto f stringTrim analizadorLinea z z' → Vida [] (z, pcb) (z', pcb)
  | despacho {z z₁ z₂ z' pcb pcb' cant l s s'} (i : ι) :
      r.Resto f stringTrim analizadorLinea z z₁ → (z₁.1 i).prog = .ret ((), s) →
      r.Resto f stringTrim analizadorLinea (entregar stringTrim analizadorLinea i cant pcb s z₁) z₂ →
      (z₂.1 i).work = ⟨pcbYQuantum, cant, pcb⟩ → (z₂.1 i).prog = .ret ((), s') →
      Vida l (z₂, s'.pcb) (z', pcb') → Vida (cant :: l) (z, pcb) (z', pcb')

/-- The system at a moment when the process is on no CPU. -/
structure Residencia.Fuera (z : Estado ι) : Prop where
  vigilado : Vigilado (Residencia.Responden f) (fun men => .libre men.pcb) (fun _ => True) Valida z
  reposo : ∀ i, Ends (fun a => a.2.EnReposo) (z.1 i).prog
  libre : Rest r.Ajeno (fun _ => True) z

end Corridas

section Serie

variable {ι : Type*} [DecidableEq ι] {r : Residencia} {f : Buscador}
  {stringTrim : List Byte → List Byte} {analizadorLinea : Option (List Byte) → Analisis}
  {M : Cpu.Maquina} {pcb pcb' : Pcb} {z z' : Estado ι} {l : List ℤ}

lemma ends_bind {α β : Type} {P : β × Cpu.Estado → Prop} {x : Prog α} {g : α → Prog β}
    {s : Cpu.Estado} (hg : ∀ a s, Ends P (g a s)) : Ends P ((x >>= g) s) :=
  Ends.bind (f := fun a : α × Cpu.Estado => g a.1 a.2) (fun a => hg a.1 a.2) (x s)

/-- A CPU is at rest after a dispatch. -/
lemma ends_despacho (men : MenQuantumPcb) (s : Cpu.Estado) :
    Ends (fun a => a.2.EnReposo) (despacho stringTrim analizadorLinea men s) := by
  have hcierre : ∀ s, Ends (fun a => a.2.EnReposo) ((do
      freeEtiquetas
      cambioPA 0
      modify fun s => (s.conFin false).conSegFault false : Prog Unit) s) := by
    intro s
    refine ends_bind fun _ s => ends_bind fun _ s => ?_
    exact ⟨rfl, rfl⟩
  unfold despacho
  refine ends_bind fun _ s => ends_bind fun _ s => ends_bind fun _ s => ends_bind fun _ s => ?_
  refine ends_bind fun _ s => ends_bind fun _ s => ends_bind fun _ s => ends_bind fun k s => ?_
  dsimp only
  split
  · exact hcierre s
  · exact ends_bind fun _ s => hcierre s

/-- What the threads of the UMV keep to. -/
lemma honours_valida : Honours (contrato (Residencia.Responden f) fun men => .libre men.pcb)
    (fun _ => True) Valida Sirve := cumplen_valida.honours

/-- Every dispatch keeps to its contract. -/
lemma keeps_libre (men : MenQuantumPcb) (a : Unit × Cpu.Estado) (pa : ℤ) (x : MenQuantumPcb)
    (_ : Cierre x a pa) (_ : True) : Keeps (Guardia.libre men.pcb).vigia
      (despacho stringTrim analizadorLinea men a.2) pa (Cierre men) :=
  safe_despacho analizadorLinea rfl (Guardia.libre_fiable men.pcb stringTrim)

lemma valida_calla {u u' : Umv.Estado} (hu : Valida u)
    (h : ∃ c : Llamada, r.Calla c u ∧ c.paso u = some u') : Valida u' := by
  obtain ⟨c, hc, hp⟩ := h
  exact hu.paso hc.1 hp

namespace Residencia

/-- What every run keeps. -/
lemma rige_resto
    (hv : Vigilado (Responden f) (fun men => .libre men.pcb) (fun _ => True) Valida z)
    (hr : ∀ i, Ends (fun a => a.2.EnReposo) (z.1 i).prog)
    (h : r.Resto f stringTrim analizadorLinea z z') :
    Vigilado (Responden f) (fun men => .libre men.pcb) (fun _ => True) Valida z' ∧
      ∀ i, Ends (fun a => a.2.EnReposo) (z'.1 i).prog :=
  ⟨sound_run_of honours_valida keeps_libre (fun _ _ => valida_calla) (fun _ _ => trivial) h hv,
    ends_run (fun x a _ => ends_despacho x a.2) h hr⟩

/-- **Without a dispatch** the process stays as it is. -/
lemma Fuera.resto (hz : r.Fuera f z) (ht : r.Tiene f M pcb z.2)
    (h : r.Resto f stringTrim analizadorLinea z z') : r.Fuera f z' ∧ r.Tiene f M pcb z'.2 := by
  obtain ⟨m, hm, hpcb, hseg, hproc⟩ := ht
  have hD : ∀ y, r.Ajeno y → True := fun _ _ => trivial
  obtain ⟨hvig, hreposo⟩ := rige_resto hz.vigilado hz.reposo h
  have hx : MismoProceso r.pcb (MenQuantumPcb.pcb ⟨pcbYQuantum, 0, r.pcb⟩) := MismoProceso.refl _
  obtain ⟨hlibre, hm'⟩ := shows_run honours_valida keeps_libre (fun _ _ => valida_calla) hD
    (vista f hx) h hz.vigilado hz.libre hm
  exact ⟨⟨hvig, hreposo, hlibre⟩, m, hm', hpcb, hseg, hproc⟩

omit [DecidableEq ι] in
/-- A CPU that is free has taken all its replies. -/
lemma Fuera.sinRespuestas (hz : r.Fuera f z) {i : ι} {a : Unit × Cpu.Estado}
    (hret : (z.1 i).prog = .ret a) : (z.1 i).replies = [] := by
  obtain ⟨-, m, -, hp⟩ := hz.vigilado.held i
  cases hp with
  | free _ hr _ _ => exact hr
  | asked _ _ hprog => exact absurd (hret.symm.trans hprog) nofun
  | answered _ _ hprog => exact absurd (hret.symm.trans hprog) nofun

/-- **A dispatch among others** leaves what its lines mean. -/
lemma Fuera.despacho (hz : r.Fuera f z) (ht : r.Tiene f M pcb z.2) {i : ι} {cant : ℤ}
    {s s' : Cpu.Estado} (hret : (z.1 i).prog = .ret ((), s))
    (ha : M.sinFin.TurnosCumplen r.segStack.dirLogica stringTrim (r.guion f stringTrim)
      analizadorLinea (Maquina.Puede (r.entorno f)) (Maquina.EnGuion (r.guion f stringTrim)) cant.toNat)
    (h : r.Resto f stringTrim analizadorLinea (entregar stringTrim analizadorLinea i cant pcb s z) z')
    (hwork : (z'.1 i).work = ⟨pcbYQuantum, cant, pcb⟩) (hret' : (z'.1 i).prog = .ret ((), s')) :
    ∃ M', M.sinFin.Turnos r.segStack.dirLogica stringTrim (r.guion f stringTrim) analizadorLinea
      cant.toNat M' ∧ r.Fuera f z' ∧ r.Tiene f M' s'.pcb z'.2 := by
  obtain ⟨m, hm, hpcb, hseg, hproc⟩ := ht
  have hD : ∀ y, r.Ajeno y → True := fun _ _ => trivial
  -- the dispatch starts
  have hpaso : Paso (Responden f) stringTrim analizadorLinea (fun _ => True) r.Calla z
      (entregar stringTrim analizadorLinea i cant pcb s z) := .start i _ hret trivial
  have hvig := hz.vigilado.turn honours_valida keeps_libre (fun _ _ => valida_calla) hpaso
  have hreposo := ends_run (fun x a _ => ends_despacho x a.2) (.single hpaso) hz.reposo
  have hs : s.EnReposo := by
    have hs := hz.reposo i
    rw [hret] at hs
    exact hs
  have hlibre : Rest r.Ajeno (· ≠ i) (entregar stringTrim analizadorLinea i cant pcb s z) := by
    intro j hj e next hprog
    dsimp only [entregar] at hprog ⊢
    rw [Function.update_of_ne hj] at hprog ⊢
    exact hz.libre j trivial hprog
  have hkeeps : Keeps (r.entorno f).solo
      (Cpu.despacho stringTrim analizadorLinea ⟨pcbYQuantum, cant, pcb⟩ s) m
        (r.Queda f stringTrim analizadorLinea M cant) :=
    ejecutable.keeps_despacho hpcb hseg hproc hs ha
  have hmira : Mirrors (vista f (x := ⟨pcbYQuantum, cant, pcb⟩) hproc)
      (r.Queda f stringTrim analizadorLinea M cant)
      ((entregar stringTrim analizadorLinea i cant pcb s z).1 i) z.2 := by
    dsimp only [entregar]
    rw [Function.update_self]
    exact .idle hkeeps hm (hz.sinRespuestas hret)
  have hpropio : ¬ r.Ajeno ⟨pcbYQuantum, cant, pcb⟩ := not_not.2 hproc.id
  obtain ⟨hlibre', hmira'⟩ := mirrors_run honours_valida keeps_libre (fun _ _ => valida_calla) hD
    (vista f hproc) hpropio h hvig hlibre fun _ => hmira
  cases hmira' hwork with
  | answered _ hprog => exact absurd (hret'.symm.trans hprog) nofun
  | @idle m' hk hm' _ =>
    rw [hret'] at hk
    obtain ⟨M', hM', hpcb', hseg', hproc'⟩ := hk
    obtain ⟨hvig', hreposo'⟩ := rige_resto hvig hreposo h
    refine ⟨M', hM', ⟨hvig', hreposo', fun j _ e next hprog => ?_⟩, m', hm', hpcb', hseg', hproc'⟩
    refine hlibre' j ?_ hprog
    rintro rfl
    exact absurd (hret'.symm.trans hprog) nofun

/-- **The life of a process** is a sequence of its dispatches. -/
lemma Fuera.vida (hz : r.Fuera f z) (ht : r.Tiene f M pcb z.2)
    (ha : M.JornadasCumplen r.segStack.dirLogica stringTrim (r.guion f stringTrim) analizadorLinea
      (Maquina.Puede (r.entorno f)) (Maquina.EnGuion (r.guion f stringTrim)) l)
    (h : r.Vida f stringTrim analizadorLinea l (z, pcb) (z', pcb')) :
    ∃ M', M.Jornadas r.segStack.dirLogica stringTrim (r.guion f stringTrim) analizadorLinea l M' ∧
      r.Tiene f M' pcb' z'.2 := by
  generalize hw : (z, pcb) = w at h
  generalize hw' : (z', pcb') = w' at h
  induction h generalizing z pcb M with
  | espera h =>
    cases hw
    cases hw'
    exact ⟨M, rfl, (hz.resto ht h).2⟩
  | despacho i h hret hrun hwork hret' hvida ih =>
    cases hw
    obtain ⟨hz₁, ht₁⟩ := hz.resto ht h
    obtain ⟨M₁, hM₁, hz₂, ht₂⟩ := hz₁.despacho ht₁ hret ha.1 hrun hwork hret'
    obtain ⟨M', hM', ht'⟩ := ih hz₂ ht₂ (ha.2 M₁ hM₁) rfl hw'
    exact ⟨M', ⟨M₁, hM₁, hM'⟩, ht'⟩

end Residencia

/-- **A process among the others runs as if by itself.** From a moment on when its segments hold a
machine and no CPU executes it, its dispatches, on whatever CPUs, leave in the UMV and in the pcb a
machine that its lines, one quantum after the other, lead to: whatever the other processes do, and in
whatever order the messages of all the CPUs are served. -/
theorem jornadas_entre_otros {cs : ι → Puesto} {u : Umv.Estado}
    (hcs : ∀ i, ∃ men s, cs i = conectada men s ∧ s.EnReposo) (hu : Valida u)
    (hz : Corrida (Residencia.Responden f) stringTrim analizadorLinea (fun _ => True)
      (fun c _ => c.Admitida) (cs, u) z)
    (hlibre : ∀ i, EnCurso (z.1 i) → r.Ajeno (z.1 i).work) (ht : r.Tiene f M pcb z.2)
    (ha : M.JornadasCumplen r.segStack.dirLogica stringTrim (r.guion f stringTrim) analizadorLinea
      (Maquina.Puede (r.entorno f)) (Maquina.EnGuion (r.guion f stringTrim)) l)
    (h : r.Vida f stringTrim analizadorLinea l (z, pcb) (z', pcb')) :
    ∃ M', M.Jornadas r.segStack.dirLogica stringTrim (r.guion f stringTrim) analizadorLinea l M' ∧
      r.Tiene f M' pcb' z'.2 := by
  have hconectada : ∀ i, ∃ men s, cs i = conectada men s := by
    intro i
    obtain ⟨men, s, hi, -⟩ := hcs i
    exact ⟨men, s, hi⟩
  have hvig := (vigilado_conectada (g := fun men => .libre men.pcb) hu hconectada).corrida
    cumplen_valida (fun men _ => Guardia.libre_fiable men.pcb stringTrim) hz
  have hreposo : ∀ i, Ends (fun a => a.2.EnReposo) (cs i).prog := by
    intro i
    obtain ⟨men, s, hi, hs⟩ := hcs i
    rw [hi]
    exact hs
  have hfuera : r.Fuera f z :=
    ⟨hvig, ends_run (fun x a _ => ends_despacho x a.2) hz hreposo,
      fun i _ _ _ hprog => hlibre i ⟨_, _, hprog⟩⟩
  exact hfuera.vida ht ha h

end Serie

/-! ### One line among others -/

/-- The process of `unaLinea` with nine bytes of stack. -/
def unResidente : Residencia where
  toImagen := unaLinea
  segStack := ⟨1, 400, 11, 9, indStack⟩
  idStack := rfl
  dirStack := rfl
  dirStack_nonneg := by decide
  finStack := by decide
  aparte := by decide

/-- The memory of `conUnaLinea` with this stack. -/
def conUnResidente : Umv.Estado :=
  { conUnaLinea with listSeg := conUnaLinea.listSeg ++ [unResidente.segStack] }

/-- There are no labels. -/
def sinEtiquetas : Buscador := ⟨fun _ _ _ => -1, fun _ _ _ => show EsInt32 (-1) by decide⟩

/-- Nothing on the stack, and the first line. -/
def alComienzo : Cpu.Maquina := ⟨.bottom [], 0, false, trivial⟩

/-- Two CPUs that wait for a pcb. -/
def dosCpus (_ : Bool) : Puesto := cpuLibre ()

lemma valida_conUnResidente : Valida conUnResidente := by
  refine ⟨by decide, ⟨?_, ?_, ?_, ?_⟩⟩ <;>
    simp [conUnResidente, unResidente, conUnaLinea, unaLinea, Blocks.span]

lemma tiene_alComienzo : unResidente.Tiene sinEtiquetas alComienzo unaLinea.pcb conUnResidente := by
  refine ⟨⟨fun a => conUnResidente.memPrin (a - 400 + 11), 0⟩,
    ⟨valida_conUnResidente, fun x hx => ?_, by decide, rfl, by decide⟩, ?_, ?_, .refl _⟩
  · simp only [Imagen.partes, List.mem_cons, List.not_mem_nil, or_false] at hx
    rcases hx with rfl | rfl | rfl <;> exact ⟨by decide, by decide, by decide⟩
  · refine ⟨rfl, rfl, rfl, rfl, fun i n v h => ?_, by decide⟩
    rw [List.getElem?_nil] at h
    cases h
  · show topeDe 400 (.bottom []) ≤ 400 + 9
    decide

/-- A CPU gets the process for one line, and another process comes to the other CPU meanwhile. -/
theorem jornadas_entre_otros_unaLinea : ∃ (z' : Estado Bool) (pcb' : Pcb) (M' : Cpu.Maquina),
    unResidente.Vida sinEtiquetas id (fun _ => .ret ()) [1] ((dosCpus, conUnResidente), unaLinea.pcb)
        (z', pcb') ∧
      alComienzo.Jornadas 400 id (unResidente.guion sinEtiquetas id) (fun _ => .ret ()) [1] M' ∧
      unResidente.Tiene sinEtiquetas M' pcb' z'.2 := by
  -- what the UMV is asked for, and what it answers
  have hetiquetas : gestionarSolicitudBytes (fun _ => 0) ⟨solBytes, 200, 0, 1, []⟩ 1 conUnResidente
    = some (crearMenComun rSolBytes [9]) := by decide
  have hentrada : gestionarSolicitudBytes (fun _ => 0) ⟨solBytes, 300, int32 (0 * 8), 8, []⟩ 1
    conUnResidente = some (crearMenComun rSolBytes [0, 0, 0, 0, 2, 0, 0, 0]) := by decide
  have htexto : gestionarSolicitudBytes (fun _ => 0) ⟨solBytes, 100, intOfBytes [0, 0, 0, 0],
    intOfBytes [2, 0, 0, 0], []⟩ 1 conUnResidente = some (crearMenComun rSolBytes [97, 0]) := by decide
  have h : unResidente.Resto sinEtiquetas id (fun _ => .ret ())
      (entregar id (fun _ => .ret ()) false 1 unaLinea.pcb
        ⟨(despachado 0).pcb, 0, .nulo, false, false, fun _ => none⟩ (dosCpus, conUnResidente))
      (entregar id (fun _ => .ret ()) false 1 unaLinea.pcb
        ⟨(despachado 0).pcb, 0, .nulo, false, false, fun _ => none⟩ (dosCpus, conUnResidente)) := .refl
  -- the process is named, and its labels come
  have h := h.tail (.client false (.send rfl rfl))
  have h := h.tail (.client false (.ask rfl rfl rfl))
  -- the other CPU
  have h := h.tail (.start true (despachado 2) rfl (show (2 : ℤ) ≠ 1 by decide))
  have h := h.tail (.client true (.send rfl rfl))
  have h := h.tail (.client false (.serve rfl ⟨fun _ => 0, .sigue, rfl, rfl⟩))
  have h := h.tail (.client false (.serve rfl (sirve_solBytes _ rfl hetiquetas)))
  have h := h.tail (.client false (.receive rfl rfl rfl rfl))
  -- the entry of the instruction, and its text
  have h := h.tail (.client false (.ask rfl rfl rfl))
  have h := h.tail (.client false (.serve rfl (sirve_solBytes _ rfl hentrada)))
  have h := h.tail (.client false (.receive rfl rfl rfl rfl))
  have h := h.tail (.client false (.ask rfl rfl rfl))
  have h := h.tail (.client false (.serve rfl (sirve_solBytes _ rfl htexto)))
  have h := h.tail (.client false (.receive rfl rfl rfl rfl))
  -- the parser, and the end of the quantum
  have h := h.tail (.client false (.away () rfl rfl trivial))
  have h := h.tail (.client false (.away (e := .quitSistema) true rfl rfl (by rfl)))
  have h := h.tail (.client false (.away () rfl rfl trivial))
  have h := h.tail (.client false (.away () rfl rfl trivial))
  have h := h.tail (.client false (.send rfl rfl))
  have hcs : ∀ i, ∃ men s, dosCpus i = conectada men s ∧ s.EnReposo :=
    fun _ => ⟨_, _, rfl, rfl, rfl⟩
  have hlibre : ∀ i, EnCurso (dosCpus i) → unResidente.Ajeno (dosCpus i).work := by
    rintro i ⟨e, next, hprog⟩
    cases hprog
  have hcumple : alComienzo.JornadasCumplen 400 id (unResidente.guion sinEtiquetas id)
      (fun _ => .ret ()) (Maquina.Puede (unResidente.entorno sinEtiquetas))
      (Maquina.EnGuion (unResidente.guion sinEtiquetas id)) [1] :=
    ⟨fun _ => ⟨⟨by decide, by decide⟩, fun _ _ => ⟨trivial, fun _ _ => trivial⟩⟩, fun _ _ => trivial⟩
  have hvida := Residencia.Vida.despacho (f := sinEtiquetas) false .refl rfl h rfl rfl
    (.espera .refl)
  obtain ⟨M', hM', ht'⟩ := jornadas_entre_otros hcs valida_conUnResidente .refl hlibre
    tiene_alComienzo hcumple hvida
  exact ⟨_, _, M', hvida, hM', ht'⟩

end Ansisop.Sistema
