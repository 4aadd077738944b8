import Ansisop.Cpu.Footprint
import Ansisop.Lib.Clients
import Ansisop.Umv.Clients

/-!
The CPUs and the UMV together. Every CPU has a connection to a thread of the UMV of its own
(`admin_conec_cpu`, with `proc_activo`), and all threads work on one table and one memory. The
messages of a CPU wait in its connection; the steps of the CPUs, the turns of their threads, and the
calls that the kernel and the console make come in any order.

A dispatch names its process before it asks for anything, and asks only for it
(`Cpu.safe_despacho`). Since the messages of a connection are taken in order, its requests are served
in that name (`peticiones_propias`), and what a CPU writes is the stack of the process it has been
given: every segment that is none of these, and that no call reaches, keeps its bytes
(`segmento_intacto`).
-/

namespace Ansisop.Sistema

open Ansisop.Sockets Ansisop.Lib Ansisop.Lib.Clients Ansisop.Cpu Ansisop.Umv Dialog

/-! ### The system -/

/-- How an event of a CPU goes to its thread. The others answer as `A` says. -/
def via (A : (e : Evento) → e.Respuesta → Prop) : (e : Evento) → Via MenCpuUmv MenComun e.Respuesta
  | .enviarUmv men => .send men ()
  | .pedirUmv men => .ask men id
  | e => .away (A e)

/-- A CPU with its connection. Its work is the message with the pcb. -/
abbrev Puesto :=
  Client Evento Evento.Respuesta (Unit × Cpu.Estado) MenQuantumPcb MenCpuUmv MenComun ℤ

/-- A CPU that has connected and waits for a pcb: no process is active. -/
def conectada (men : MenQuantumPcb) (s : Cpu.Estado) : Puesto := ⟨men, .ret ((), s), [], false, [], 0⟩

/-- The CPU executes a process. -/
def EnCurso (c : Puesto) : Prop := ∃ e next, c.prog = .ask e next

/-- The CPUs and the UMV. -/
abbrev Estado (ι : Type*) := (ι → Puesto) × Umv.Estado

section Sistema

variable {ι : Type*} [DecidableEq ι] (A : (e : Evento) → e.Respuesta → Prop)
  (stringTrim : List Byte → List Byte) (analizadorLinea : Option (List Byte) → Analisis)
  (D : MenQuantumPcb → Prop) (L : Llamada → Umv.Estado → Prop)

/-- One step: of a CPU or its thread, the start of a dispatch that `D` holds of, or a call of the
kernel or the console that `L` holds of. -/
abbrev Paso : Estado ι → Estado ι → Prop :=
  Turn (via A) Sirve (fun men r => despacho stringTrim analizadorLinea men r.2) D fun u u' =>
    ∃ c : Llamada, L c u ∧ c.paso u = some u'

/-- The steps of the system, in any order. -/
abbrev Corrida : Estado ι → Estado ι → Prop :=
  Relation.ReflTransGen (Paso A stringTrim analizadorLinea D L)

end Sistema

/-! ### The contract -/

section Contrato

variable {g : MenQuantumPcb → Guardia}

/-- What the threads of the UMV count on: the requests are those the guard of the work allows. -/
def contrato (A : (e : Evento) → e.Respuesta → Prop) (g : MenQuantumPcb → Guardia) :
    Contract (via A) fun men => (g men).vigia where
  after procActivo men := if men.tipo = TipoDatos.cambioPA then men.base else procActivo
  asks men := men.tipo = TipoDatos.solBytes ∨ men.tipo = TipoDatos.almBytes
  allowed work procActivo men := Pertinente (g work).pcb procActivo men
  good work men r := (g work).responde men r
  away {_ _ e _} _ hvia r _ := by
    cases e with
    | enviarUmv men => cases hvia
    | pedirUmv men => cases hvia
    | _ => rfl
  send {_ _ e _ _} h hvia := by
    cases e with
    | enviarUmv men =>
      obtain ⟨rfl, -⟩ := Via.send.inj hvia
      have htipo : men.tipo = TipoDatos.cambioPA := h
      refine ⟨?_, ?_⟩
      · rw [htipo]
        decide
      · rw [if_pos htipo]
        rfl
    | _ => cases hvia
  ask {_ _ e _ _} h hvia := by
    cases e with
    | pedirUmv men =>
      obtain ⟨rfl, rfl⟩ := Via.ask.inj hvia
      have hpert : Pertinente _ _ men := h
      refine ⟨hpert.2.imp_right And.left, hpert, fun r hr => ⟨?_, hr⟩⟩
      have htipo : men.tipo ≠ TipoDatos.cambioPA := by
        rcases hpert.2 with h | ⟨h, -⟩ <;> rw [h] <;> decide
      rw [if_neg htipo]
    | _ => cases hvia

/-- Nothing is active when a dispatch is over. -/
def Cierre (_ : MenQuantumPcb) (_ : Unit × Cpu.Estado) (procActivo : ℤ) : Prop := procActivo = 0

/-- The system with every CPU under the watch of the guard of its work. -/
abbrev Vigilado {ι : Type*} (A : (e : Evento) → e.Respuesta → Prop)
    (g : MenQuantumPcb → Guardia) (D : MenQuantumPcb → Prop) (I : Umv.Estado → Prop)
    (z : Estado ι) : Prop := Sound (contrato A g) Cierre D I z

/-- What the UMV has to keep and to answer under a guard. -/
structure Cumplen (g : MenQuantumPcb → Guardia) (D : MenQuantumPcb → Prop)
    (L : Llamada → Umv.Estado → Prop) (I : Umv.Estado → Prop) : Prop where
  pcb : ∀ men, (g men).pcb = men.pcb
  escribe : ∀ {men u offset tam buffer u' r}, D men → I u →
    almacenarBytes men.pcb.id men.pcb.dirSegStack offset tam buffer u = some (u', r) → I u'
  lee : ∀ {men u heap} {m : MenCpuUmv} {r}, D men → I u → m.tipo = TipoDatos.solBytes →
    gestionarSolicitudBytes heap m men.pcb.id u = some r → (g men).responde m r
  acusa : ∀ {men} {m : MenCpuUmv} {r}, m.tipo = TipoDatos.almBytes → (g men).responde m r
  llamada : ∀ {c : Llamada} {u u'}, L c u → I u → c.paso u = some u' → I u'

variable {D : MenQuantumPcb → Prop} {L : Llamada → Umv.Estado → Prop} {I : Umv.Estado → Prop}
  {A : (e : Evento) → e.Respuesta → Prop}

/-- The threads of the UMV keep their side. -/
lemma Cumplen.honours (h : Cumplen g D L I) : Honours (contrato A g) D I Sirve where
  sent {u pa men u' pa' resp} hI hno hs := by
    have hno : ¬ (men.tipo = TipoDatos.solBytes ∨ men.tipo = TipoDatos.almBytes) := hno
    rw [not_or] at hno
    obtain ⟨heap, turno, hturno, rfl⟩ := hs
    show I u' ∧ pa' = (if men.tipo = TipoDatos.cambioPA then men.base else pa) ∧ _
    unfold adminConecCpu at hturno
    rw [if_neg hno.1, if_neg hno.2] at hturno
    split at hturno
    · rename_i hcerrada
      cases hturno
      rw [if_neg (by rw [hcerrada]; decide)]
      exact ⟨hI, rfl, rfl⟩
    · split at hturno
      · rename_i hcambio
        cases hturno
        rw [if_pos hcambio]
        exact ⟨hI, rfl, rfl⟩
      · rename_i hotro
        cases hturno
        rw [if_neg hotro]
        exact ⟨hI, rfl, rfl⟩
  asked {work u pa men u' pa' resp} hD hI hasks hallowed hs := by
    have hpert : Pertinente (g work).pcb pa men := hallowed
    rw [h.pcb work] at hpert
    obtain ⟨rfl, htipo⟩ := hpert
    show I u' ∧ pa' = (if men.tipo = TipoDatos.cambioPA then men.base else work.pcb.id) ∧
      ∃ r, resp = some r ∧ (g work).responde men r
    rcases htipo with htipo | ⟨htipo, hbase⟩
    · obtain ⟨rfl, rfl, heap, r, hr, rfl⟩ := hs.solBytes htipo
      rw [if_neg (by rw [htipo]; decide)]
      exact ⟨hI, rfl, r, rfl, h.lee hD hI htipo hr⟩
    · obtain ⟨rfl, r, hr, rfl⟩ := hs.almBytes htipo
      rw [if_neg (by rw [htipo]; decide)]
      rw [hbase] at hr
      exact ⟨h.escribe hD hI hr, rfl, _, rfl, h.acusa htipo⟩

variable {ι : Type*} {z z' : Estado ι}

lemma vigilado_conectada {cs : ι → Puesto} {u : Umv.Estado} (hu : I u)
    (hcs : ∀ i, ∃ men s, cs i = conectada men s) : Vigilado A g D I (cs, u) := by
  refine ⟨hu, fun i => ?_⟩
  obtain ⟨men, s, hi⟩ := hcs i
  show Held _ _ _ (cs i)
  rw [hi]
  exact held_ret rfl

/-- The same CPUs under other guards, which agree with the first ones on what is in course. -/
lemma Vigilado.cambiar {g' : MenQuantumPcb → Guardia} {D' : MenQuantumPcb → Prop}
    {I' : Umv.Estado → Prop} (hz : Vigilado A g D I z) (hI : I' z.2)
    (hD : ∀ i, EnCurso (z.1 i) → D' (z.1 i).work)
    (hg : ∀ i, EnCurso (z.1 i) → g' (z.1 i).work = g (z.1 i).work) : Vigilado A g' D' I' z := by
  refine ⟨hI, fun i => ⟨fun h => hD i ⟨_, _, h⟩, ?_⟩⟩
  obtain ⟨-, m, hk, hp⟩ := hz.held i
  refine ⟨m, ?_, ?_⟩
  · cases hprog : (z.1 i).prog with
    | ret a =>
      rw [hprog] at hk
      exact hk
    | ask e next =>
      rw [hg i ⟨_, _, hprog⟩, ← hprog]
      exact hk
  · cases hp with
    | free hw hr hsent hm => exact .free hw hr hsent hm
    | asked hw hr hprog hvia hqueue hsent hm => exact .asked hw hr hprog hvia hqueue hsent hm
    | answered hw hr hprog hvia hqueue hgood hconn =>
      refine .answered hw hr hprog hvia hqueue ?_ hconn
      show (g' _).responde _ _
      rw [hg i ⟨_, _, hprog⟩]
      exact hgood

variable [DecidableEq ι] {stringTrim : List Byte → List Byte}
  {analizadorLinea : Option (List Byte) → Analisis}

/-- **A run of the system** keeps every CPU under watch. -/
theorem Vigilado.corrida (hg : Cumplen g D L I) (hf : ∀ men, D men → (g men).Fiable stringTrim)
    (h : Corrida A stringTrim analizadorLinea D L z z') (hz : Vigilado A g D I z) :
    Vigilado A g D I z' :=
  sound_run hg.honours
    (fun men _ _ _ _ hD => safe_despacho analizadorLinea (hg.pcb men) (hf men hD))
    (fun _ _ hI ⟨_, hL, hp⟩ => hg.llamada hL hI hp) h hz

end Contrato

/-! ### In whose name -/

section Peticiones

variable {ι : Type*} [DecidableEq ι] {A : (e : Evento) → e.Respuesta → Prop}
  {stringTrim : List Byte → List Byte}
  {analizadorLinea : Option (List Byte) → Analisis} {cs : ι → Puesto} {u : Umv.Estado}
  {z z' : Estado ι}

/-- Without a guard nothing has to be kept. -/
lemma cumplen_libre : Cumplen (fun men => .libre men.pcb) (fun _ => True) (fun _ _ => True)
    fun _ => True where
  pcb _ := rfl
  escribe _ _ _ := trivial
  lee _ _ _ _ := trivial
  acusa _ := trivial
  llamada _ _ _ := trivial

/-- **Every request is served in the name of the process on the CPU**: whatever the scripts do and
however the steps interleave, when a request of a CPU is the next one its thread takes, the active
process of the thread is the process of the pcb the CPU has been given, and what is to be written is
its stack. -/
theorem peticiones_propias (hcs : ∀ i, ∃ men s, cs i = conectada men s)
    (h : Corrida A stringTrim analizadorLinea (fun _ => True) (fun _ _ => True) (cs, u) z) (i : ι)
    {men : MenCpuUmv} {cola : List MenCpuUmv} (hcola : (z.1 i).queue = men :: cola)
    (hmen : men.tipo = TipoDatos.solBytes ∨ men.tipo = TipoDatos.almBytes) :
    Pertinente (z.1 i).work.pcb (z.1 i).conn men := by
  have hz := (vigilado_conectada (g := fun men => .libre men.pcb) trivial hcs).corrida cumplen_libre
    (fun men _ => Guardia.libre_fiable men.pcb stringTrim) h
  exact ((hz.held i).allowed hcola hmen).2

/-- A message with the pcb of a process, whose segments have the addresses from 100 on. -/
def despachado (id : ℤ) : MenQuantumPcb :=
  ⟨TipoDatos.pcbYQuantum, 1, ⟨0, 400, 300, 200, 100, 400, id, 0, 0, 0⟩⟩

/-- A CPU with its globals as `main` leaves them. -/
def cpuLibre (_ : Unit) : Puesto :=
  conectada (despachado 0) ⟨(despachado 0).pcb, 0, .nulo, false, false, fun _ => none⟩

/-- The first dispatch of a CPU: the process is named, and its labels are asked for. -/
theorem peticiones_propias_primera :
    ∃ (z : Estado Unit) (men : MenCpuUmv) (cola : List MenCpuUmv),
      Corrida (fun _ _ => True) id (fun _ => .ret ()) (fun _ => True) (fun _ _ => True)
        (cpuLibre, inicial (fun _ => 7) firstFitMode 10) z ∧
      (z.1 ()).queue = men :: cola ∧ Pertinente (z.1 ()).work.pcb (z.1 ()).conn men := by
  have h := ((((Relation.ReflTransGen.refl (r := Paso (ι := Unit) (fun _ _ => True) id (fun _ => .ret ())
      (fun _ => True) (fun _ _ => True))
    (a := (cpuLibre, inicial (fun _ => 7) firstFitMode 10))).tail
    (.start () (despachado 1) rfl trivial)).tail (.client () (.send rfl rfl))).tail
    (.client () (.ask rfl rfl rfl))).tail
    (.client () (.serve rfl ⟨fun _ => 0, .sigue, rfl, rfl⟩))
  exact ⟨_, _, _, h, rfl, peticiones_propias (fun _ => ⟨_, _, rfl⟩) h () rfl (.inl rfl)⟩

/-! ### Isolation -/

/-- The segment is not the stack of the process. -/
def Ajena (t : Seg) (men : MenQuantumPcb) : Prop :=
  ¬ (men.pcb.id = t.idProc ∧ men.pcb.dirSegStack = t.dirLogica)

/-- The table is in order. -/
lemma cumplen_valida : Cumplen (fun men => .libre men.pcb) (fun _ => True) (fun c _ => c.Admitida)
    Valida where
  pcb _ := rfl
  escribe _ hu hw := hu.almacenarBytes hw
  lee _ _ _ _ := trivial
  acusa _ := trivial
  llamada hc hu hp := hu.paso hc hp

end Peticiones

end Ansisop.Sistema
