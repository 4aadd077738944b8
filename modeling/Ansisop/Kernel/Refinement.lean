import Ansisop.Kernel.Lifecycle
import Ansisop.Kernel.Steps

/-!
The kernel does nothing but the moves of processes and CPUs: every step of its threads is one of
the moves of `Transicion`, or two of them in a row.
-/

namespace Ansisop.Kernel

open Ansisop.Sockets Ansisop.Lib Hilo

/-- The kernel is in the situation `v`, and no queue holds `NULL`. -/
structure Refleja (k : Estado) (v : Vista) : Prop where
  colas : ∀ c, (k.colas c : Multiset (Option PcbOtros)) = (v.cola c).map some
  cpus : (k.listaCpu : Multiset Cpu) = v.cpus
  sem : k.sem = v.sem
  vivos : (k.vivos : Multiset ℤ) = v.vivos
  contador : k.contadorPrograma = v.contador

lemma perm_cons_eraseP {α : Type} {p : α → Bool} {a : α} : ∀ {l : List α}, l.find? p = some a →
    l.Perm (a :: l.eraseP p)
  | [], h => absurd h (by simp)
  | b :: l, h => by
    cases hb : p b with
    | true =>
      obtain rfl : b = a := by simpa [hb] using h
      rw [List.eraseP_cons_of_pos hb]
    | false =>
      rw [List.find?_cons_of_neg (by simp [hb])] at h
      rw [List.eraseP_cons_of_neg (by simp [hb])]
      exact ((perm_cons_eraseP h).cons b).trans (.swap a b _)

namespace Refleja

variable {k k' : Estado} {v : Vista} {c : Cola} {x : PcbOtros} {cpu : Cpu}

lemma mem_cola (h : Refleja k v) : some x ∈ k.colas c ↔ x ∈ v.cola c := by
  rw [← Multiset.mem_coe, h.colas]
  simp

lemma mem_cpus (h : Refleja k v) : cpu ∈ k.listaCpu ↔ cpu ∈ v.cpus := by
  rw [← Multiset.mem_coe, h.cpus]

lemma sinNulos (h : Refleja k v) (c : Cola) : none ∉ k.colas c := by
  rw [← Multiset.mem_coe, h.colas]
  simp

/-! ### The parts of a step -/

lemma encolar (h : Refleja k v) (c : Cola) (x : PcbOtros) :
    Refleja (k.encolar c (some x)) (v.poner c x) where
  colas d := by
    by_cases hd : d = c
    · subst hd
      simp [Estado.encolar, ← h.colas, ← Multiset.coe_add, ← Multiset.singleton_add, add_comm]
    · simp [Estado.encolar, Function.update_of_ne hd, h.colas]
  cpus := h.cpus
  sem := h.sem
  vivos := h.vivos
  contador := h.contador

lemma sumar (h : Refleja k v) (s : Sem) : Refleja (k.sumar s) (v.incre s) where
  colas := h.colas
  cpus := h.cpus
  sem := by simp only [Estado.sumar, Estado.conSem, Vista.incre, h.sem]
  vivos := h.vivos
  contador := h.contador

lemma restar (h : Refleja k v) (s : Sem) : Refleja (k.restar s) (v.decre s) where
  colas := h.colas
  cpus := h.cpus
  sem := by simp only [Estado.restar, Estado.conSem, Vista.decre, h.sem]
  vivos := h.vivos
  contador := h.contador

lemma agregarCpu (h : Refleja k v) (cpu : Cpu) :
    Refleja (k.agregarCpu cpu) (v.ponerCpu cpu) where
  colas := h.colas
  cpus := by simp [Estado.agregarCpu, ← h.cpus, ← Multiset.coe_add, ← Multiset.singleton_add, add_comm]
  sem := h.sem
  vivos := h.vivos
  contador := h.contador

/-- A CPU record leaves the list. -/
lemma sacarCpu (h : Refleja k v) {p : Cpu → Bool} (hf : k.listaCpu.find? p = some cpu) :
    cpu ∈ v.cpus ∧ Refleja (k.conCpus (k.listaCpu.eraseP p)) (v.sacarCpu cpu) := by
  have hmem : cpu ∈ v.cpus := h.mem_cpus.1 (List.mem_of_find?_eq_some hf)
  refine ⟨hmem, h.colas, ?_, h.sem, h.vivos, h.contador⟩
  have hc := Multiset.coe_eq_coe.2 (perm_cons_eraseP hf)
  rw [h.cpus, ← Multiset.cons_erase hmem, ← Multiset.cons_coe, Multiset.cons_inj_right] at hc
  exact hc.symm

lemma soltarSoc (h : Refleja k v) (soc : ℤ) : Refleja (k.soltarSoc soc) v := ⟨h.1, h.2, h.3, h.4, h.5⟩

lemma saca (h : Refleja k v) {p : PcbOtros → Bool} (hs : k.Saca c p x k') :
    p x = true ∧ x ∈ v.cola c ∧ Refleja k' (v.quitar c x) := by
  obtain ⟨pre, post, hq, -, hx, rfl⟩ := hs
  have hmem : x ∈ v.cola c := h.mem_cola.1 (by rw [hq]; simp)
  refine ⟨hx, hmem, ?_, h.cpus, h.sem, h.vivos, h.contador⟩
  intro d
  by_cases hd : d = c
  · subst hd
    have hc := h.colas d
    rw [hq, ← Multiset.cons_erase hmem, Multiset.map_cons, ← Multiset.coe_eq_coe.2 List.perm_middle.symm,
      ← Multiset.cons_coe, Multiset.cons_inj_right] at hc
    rw [Estado.conCola_colas, Function.update_self, Vista.quitar_cola, Function.update_self, ← hc]
    exact Multiset.coe_eq_coe.2 List.perm_append_comm
  · rw [Estado.conCola_colas, Function.update_of_ne hd, Vista.quitar_cola,
      Function.update_of_ne hd, h.colas]

/-- The front of a queue leaves it. -/
lemma desencolar (h : Refleja k v) {l : List (Option PcbOtros)} (hq : k.colas c = some x :: l) :
    x ∈ v.cola c ∧ Refleja (k.conCola c l) (v.quitar c x) :=
  (h.saca (p := fun _ => true) ⟨[], l, hq, by simp, rfl, by simp⟩).2

/-- A queue whose front is no process is empty. -/
lemma cola_vacia (h : Refleja k v) (hn : (k.colas c).head?.join = none) :
    k.colas c = [] ∧ v.cola c = 0 := by
  have hnil : k.colas c = [] := by
    cases hq : k.colas c with
    | nil => rfl
    | cons y l =>
      cases y with
      | none => exact absurd (hq ▸ List.mem_cons_self) (h.sinNulos c)
      | some x => simp [hq] at hn
  refine ⟨hnil, (Multiset.map_eq_zero (f := some)).1 ?_⟩
  rw [← h.colas, hnil]
  rfl

lemma encolarReady (h : Refleja k v) (x : PcbOtros) :
    Refleja (k.encolarReady (some x)) (v.llegar .ready x) := (h.encolar _ _).sumar _

lemma encolarExit (h : Refleja k v) (x : PcbOtros) :
    Refleja (k.encolarExit x) (v.llegar .exit x) := ((h.encolar _ _).sumar _).sumar _

lemma volverCpu (h : Refleja k v) (cpu : Cpu) :
    Refleja (k.volverCpu cpu) ((v.ponerCpu cpu.libre).incre .cantCpuLibres) :=
  (h.agregarCpu _).sumar _

lemma conSemaforo (h : Refleja k v) (clave : List Byte) (f : Semaforo → Semaforo) :
    Refleja (k.conSemaforo clave f) v := ⟨h.1, h.2, h.3, h.4, h.5⟩

lemma conIo (h : Refleja k v) (disp : List Byte) (f : Io → Io) : Refleja (k.conIo disp f) v :=
  ⟨h.1, h.2, h.3, h.4, h.5⟩

lemma conVar (h : Refleja k v) (clave : List Byte) (n : ℤ) : Refleja (k.conVar clave n) v :=
  ⟨h.1, h.2, h.3, h.4, h.5⟩

lemma conSocCpus (h : Refleja k v) (s : Finset ℤ) : Refleja (k.conSocCpus s) v :=
  ⟨h.1, h.2, h.3, h.4, h.5⟩

lemma conSocProgs (h : Refleja k v) (s : Finset ℤ) : Refleja (k.conSocProgs s) v :=
  ⟨h.1, h.2, h.3, h.4, h.5⟩

end Refleja

namespace Vista.Bien

variable {v : Vista} {x y : PcbOtros} {c d : Cola} {cpu : Cpu}

lemma mem_identidades (hx : x ∈ v.cola c) : x.identidad ∈ v.identidades := by
  rw [← identidades_quitar hx]
  exact Multiset.mem_cons_self _ _

/-- Processes with one id are the same pair of id and connection. -/
lemma identidad_of_id (hb : v.Bien) (hx : x ∈ v.cola c) (hy : y ∈ v.cola d)
    (h : x.pcb.id = y.pcb.id) : x.identidad = y.identidad :=
  Multiset.inj_on_of_nodup_map (hb.vivos ▸ hb.nodup) _ (mem_identidades hx) _
    (mem_identidades hy) h

/-- Processes of one connection are the same pair of id and connection. -/
lemma identidad_of_soc (hb : v.Bien) (hx : x ∈ v.cola c) (hy : y ∈ v.cola d)
    (h : x.nSocket = y.nSocket) : x.identidad = y.identidad :=
  Multiset.inj_on_of_nodup_map hb.socs _ (mem_identidades hx) _ (mem_identidades hy) h

/-- What a busy CPU runs is in execution. -/
lemma exists_exec (hb : v.Bien) (hc : cpu ∈ v.cpus) (h0 : cpu.idProgExec ≠ 0) :
    ∃ x ∈ v.cola .exec, x.identidad = cpu.ocupante := by
  have hmem : cpu.ocupante ∈ v.ocupadas.map Cpu.ocupante :=
    Multiset.mem_map_of_mem _ (Multiset.mem_filter.2 ⟨hc, h0⟩)
  rw [hb.exec] at hmem
  simpa using hmem

/-- What is in execution is run by a CPU. -/
lemma exists_cpu (hb : v.Bien) (hx : x ∈ v.cola .exec) :
    ∃ cpu ∈ v.cpus, cpu.idProgExec ≠ 0 ∧ cpu.ocupante = x.identidad := by
  have hmem : x.identidad ∈ (v.cola .exec).map PcbOtros.identidad := Multiset.mem_map_of_mem _ hx
  rw [← hb.exec] at hmem
  obtain ⟨cpu, hcpu, heq⟩ := Multiset.mem_map.1 hmem
  exact ⟨cpu, (Multiset.mem_filter.1 hcpu).1, (Multiset.mem_filter.1 hcpu).2, heq⟩

/-- A CPU whose record names a process in execution runs that process. -/
lemma ocupante_eq (hb : v.Bien) (hc : cpu ∈ v.cpus) (hx : x ∈ v.cola .exec)
    (h : cpu.idProgExec = x.pcb.id) : cpu.idProgExec ≠ 0 ∧ cpu.ocupante = x.identidad := by
  have h0 : cpu.idProgExec ≠ 0 := h ▸ hb.id_ne_zero hx
  obtain ⟨y, hy, heq⟩ := hb.exists_exec hc h0
  have hid : y.pcb.id = x.pcb.id := (congrArg Prod.fst heq).trans h
  exact ⟨h0, heq.symm.trans (hb.identidad_of_id hy hx hid)⟩

end Vista.Bien

/-! ### Handlers -/

/-- The step is one move that upsets no count. -/
def Limpia (v : Vista) (k' : Estado) : Prop := ∃ v', Transicion v .limpio v' ∧ Refleja k' v'

section Handlers

variable {k k' k₁ : Estado} {v : Vista} {x : PcbOtros} {cpu : Cpu} {soc : ℤ}

lemma Refleja.limpia (h : Refleja k v) : Limpia v k := ⟨v, .quieto v, h⟩

lemma Refleja.tomaProceso (h : Refleja k v) (hb : v.Bien) (ht : k.TomaProceso soc cpu x k₁) :
    cpu ∈ v.cpus ∧ x ∈ v.cola .exec ∧ cpu.idProgExec ≠ 0 ∧ cpu.ocupante = x.identidad ∧
      Refleja k₁ ((v.sacarCpu cpu).quitar .exec x) := by
  obtain ⟨k₀, ⟨hf, rfl⟩, hs⟩ := ht
  obtain ⟨hc, h₀⟩ := h.sacarCpu hf
  obtain ⟨hid, hx, h₁⟩ := h₀.saca hs
  obtain ⟨h0, hcp⟩ := hb.ocupante_eq hc hx (by simpa using hid)
  exact ⟨hc, hx, h0, hcp, h₁⟩

lemma Refleja.expulsa (h : Refleja k v) (hb : v.Bien) {tipo : ℤ} (he : k.Expulsa tipo soc k') :
    Limpia v k' := by
  obtain ⟨cpu, x, k₁, ht, rfl⟩ := he
  obtain ⟨hc, hx, h0, hcp, h₁⟩ := h.tomaProceso hb ht
  exact ⟨_, .soltar v x { x with tipoFinEjecucion := tipo } cpu .exit (by simp) (by simp) hx hc h0
    hcp rfl, (h₁.encolarExit _).volverCpu _⟩

lemma Refleja.bloquea (h : Refleja k v) (hb : v.Bien) {m : MenQuantumPcb} {cierre : MenComun}
    (hbl : k.Bloquea soc cpu x m cierre k') : Limpia v k' := by
  obtain ⟨k₁, ht, rfl⟩ := hbl
  obtain ⟨hc, hx, h0, hcp, h₁⟩ := h.tomaProceso hb ht
  split
  · refine ⟨_, .soltar v x { x with pcb := actualizar x.pcb m.pcb } cpu .block (by simp) (by simp)
      hx hc h0 hcp rfl, ?_⟩
    exact (h₁.volverCpu cpu).encolar .block _
  · refine ⟨_, .soltarYCerrar v x { x with pcb := actualizar x.pcb m.pcb } cpu .block (by simp)
      (by simp) hx hc h0 hcp rfl, ?_⟩
    exact (h₁.soltarSoc _).encolar .block _

/-- A CPU closes while it runs a process. -/
lemma Refleja.cierraOcupada (h : Refleja k v) (hb : v.Bien) {r : Option PcbOtros} {k₂ : Estado}
    (ht : k.TomaCpu soc cpu k₁) (h0 : cpu.idProgExec ≠ 0)
    (hr : (k₁.soltarSoc soc).BuscaExec cpu.idProgExec r k₂) : Limpia v (k₂.encolarReady r) := by
  obtain ⟨hf, rfl⟩ := ht
  obtain ⟨hc, h₁⟩ := h.sacarCpu hf
  rcases hr with ⟨x, rfl, hs⟩ | ⟨-, hn, -⟩
  · obtain ⟨hid, hx, h₂⟩ := (h₁.soltarSoc soc).saca hs
    obtain ⟨-, hcp⟩ := hb.ocupante_eq hc hx (by simpa using hid)
    exact ⟨_, .soltarYCerrar v x x cpu .ready (by simp) (by simp) hx hc h0 hcp rfl,
      h₂.encolarReady x⟩
  · obtain ⟨x, hx, heq⟩ := hb.exists_exec hc h0
    obtain ⟨z, hz, hne⟩ := hn _ ((h₁.soltarSoc soc).mem_cola.2 hx)
    obtain rfl := Option.some.inj hz
    have hid : cpu.idProgExec ≠ x.pcb.id := by simpa using hne
    exact absurd (congrArg Prod.fst heq).symm hid

lemma Refleja.finQuantum (h : Refleja k v) (hb : v.Bien) {men : MenComun} {io io' : Bandeja}
    {u : Unit} (ha : men.tamDato = 1 → Ocupada k soc)
    (hr : correr (finQuantum soc men) k io = some ((u, k'), io')) : Limpia v k' := by
  rcases finQuantum_some hr with ⟨h1, cpu, k₁, r, k₂, ht, hbus, rfl⟩ | ⟨-, cpu, x, m, k₁, ht, -, rfl⟩
  · obtain ⟨cpu', hf, h0⟩ := ha h1
    obtain rfl : cpu' = cpu := Option.some.inj (hf.symm.trans ht.1)
    exact h.cierraOcupada hb ht h0 hbus
  · obtain ⟨hc, hx, h0, hcp, h₁⟩ := h.tomaProceso hb ht
    exact ⟨_, .soltar v x { x with pcb := actualizar x.pcb m.pcb } cpu .ready (by simp) (by simp)
      hx hc h0 hcp rfl, (h₁.encolarReady _).volverCpu _⟩

lemma Refleja.conecCerradaCpu (h : Refleja k v) (hb : v.Bien) {io io' : Bandeja} {u : Unit}
    (hr : correr (conecCerradaCpu soc) k io = some ((u, k'), io')) : Limpia v k' := by
  obtain ⟨cpu, k₁, ht, ⟨h0, r, k₂, hbus, rfl⟩ | ⟨h0, hpos, rfl⟩⟩ := conecCerradaCpu_some hr
  · exact h.cierraOcupada hb ht h0 hbus
  · obtain ⟨hf, rfl⟩ := ht
    obtain ⟨hc, h₁⟩ := h.sacarCpu hf
    exact ⟨_, .bajaCpu v cpu hc h0 (h.sem ▸ hpos), (h₁.soltarSoc soc).restar _⟩

/-- `pasar_pcbBlock_ready`, whether it finds the process or not. -/
lemma Refleja.despierta (h : Refleja k v) {p : PcbOtros → Bool}
    (hr : (∃ x k₁, k.Saca .block p x k₁ ∧ k' = k₁.encolarReady (some x)) ∨
      (k.NoHay .block p ∧ k' = k)) : Limpia v k' := by
  rcases hr with ⟨x, k₁, hs, rfl⟩ | ⟨-, rfl⟩
  · obtain ⟨-, hx, h₁⟩ := h.saca hs
    exact ⟨_, .despertar v x hx, h₁.encolarReady x⟩
  · exact h.limpia

lemma Refleja.wait (h : Refleja k v) (hb : v.Bien) {men : MenComun} {io io' : Bandeja} {u : Unit}
    (hr : correr (wait soc men) k io = some ((u, k'), io')) : Limpia v k' := by
  obtain ⟨clave, -, ⟨-, he⟩ | ⟨sem, -, ⟨-, rfl⟩ | ⟨-, cpu, x, m, cierre, k₁, hbl, -, rfl⟩⟩⟩ :=
    wait_some hr
  · exact h.expulsa hb he
  · exact (h.conSemaforo _ _).limpia
  · obtain ⟨v', ht, h'⟩ := (h.conSemaforo _ _).bloquea hb hbl
    exact ⟨v', ht, h'.conSemaforo _ _⟩

lemma Refleja.signal (h : Refleja k v) (hb : v.Bien) {men : MenComun} {io io' : Bandeja}
    {u : Unit} (hr : correr (signal soc men) k io = some ((u, k'), io')) : Limpia v k' := by
  obtain ⟨clave, -, ⟨-, he⟩ | ⟨sem, -, ⟨-, rfl⟩ | ⟨id, l, k₁, -, rfl, hd⟩⟩⟩ := signal_some hr
  · exact h.expulsa hb he
  · exact (h.conSemaforo _ _).limpia
  · exact ((h.conSemaforo _ _).conSemaforo _ _).despierta hd

lemma Refleja.enviarIo (h : Refleja k v) (hb : v.Bien) {men : MenComun} {io io' : Bandeja}
    {u : Unit} (hr : correr (enviarIo soc men) k io = some ((u, k'), io')) : Limpia v k' := by
  obtain ⟨disp, unidades, dato, cpu, x, m, cierre, k₁, -, -, -, hbl, -, rfl⟩ := enviarIo_some hr
  obtain ⟨v', ht, h'⟩ := (h.conIo _ _).bloquea hb hbl
  exact ⟨v', ht, h'.conIo _ _⟩

lemma Refleja.imprimir (h : Refleja k v) {α : Type} {leido : List Byte → Option α} {men : MenComun}
    {io io' : Bandeja} {u : Unit} (hr : correr (imprimir leido soc men) k io = some ((u, k'), io')) :
    Limpia v k' := by
  obtain ⟨rfl, -⟩ := imprimir_some hr
  exact h.limpia

lemma Refleja.obtenerValorCompartida (h : Refleja k v) (hb : v.Bien) {men : MenComun}
    {io io' : Bandeja} {u : Unit}
    (hr : correr (obtenerValorCompartida soc men) k io = some ((u, k'), io')) : Limpia v k' := by
  obtain ⟨clave, -, ⟨-, hx⟩ | ⟨valor, -, rfl, -⟩⟩ := obtenerValorCompartida_some hr
  · exact h.expulsa hb hx
  · exact h.limpia

lemma Refleja.grabarValorCompartida (h : Refleja k v) (hb : v.Bien) {men : MenComun}
    {io io' : Bandeja} {u : Unit}
    (hr : correr (grabarValorCompartida soc men) k io = some ((u, k'), io')) : Limpia v k' := by
  obtain ⟨clave, -, ⟨-, hx⟩ | ⟨-, dato, s, -, -, rfl⟩⟩ := grabarValorCompartida_some hr
  · exact h.expulsa hb hx
  · exact (h.conVar _ _).limpia

/-- **A message of a CPU** makes one move, which upsets no count. -/
theorem Refleja.administrarMenCpus (h : Refleja k v) (hb : v.Bien) {io io' : Bandeja} {u : Unit}
    (ha : ∀ men l, io.entrada = .comun men :: l → EsCierre men → Ocupada k soc)
    (hr : correr (administrarMenCpus soc) k io = some ((u, k'), io')) : Limpia v k' := by
  obtain ⟨men, io₁, t, he, -, ht, hr⟩ := administrarMenCpus_some hr
  cases ht with
  | conecCerrada => exact h.conecCerradaCpu hb hr
  | finQuantum hq => exact h.finQuantum hb (fun h1 => ha men _ he ⟨hq, h1⟩) hr
  | finEjecucion => exact h.expulsa hb (finEjecucion_some hr).1
  | segmenFault => exact h.expulsa hb (finEjecucion_some hr).1
  | imprimirTexto | imprimirValor => exact h.imprimir hr
  | obtenerValor => exact h.obtenerValorCompartida hb hr
  | grabarValor => exact h.grabarValorCompartida hb hr
  | wait => exact h.wait hb hr
  | signal => exact h.signal hb hr
  | ioId => exact h.enviarIo hb hr
  | ninguno =>
    obtain ⟨-, rfl, rfl⟩ := correr_some rfl hr
    exact h.limpia

/-! ### Manager threads -/

lemma Refleja.manejadorReadyExec (h : Refleja k v) {io io' : Bandeja} {u : Unit}
    (hr : correr manejadorReadyExec k io = some ((u, k'), io')) : Limpia v k' := by
  obtain ⟨hpr, hpl, k₁, rfl, ⟨hnada, rfl⟩ | ⟨x, l, cpu, hq, hf, rfl⟩⟩ := manejadorReadyExec_some hr
  · obtain ⟨hnil, hcero⟩ := h.cola_vacia hnada
    have h₀ := (h.restar .cantReady).restar .cantCpuLibres
    refine ⟨_, .despacharNadie v (k.listaCpu.find? fun unCpu => unCpu.idProgExec == 0) hcero ?_
      (h.sem ▸ hpr), ?_⟩
    · intro cpu hf
      exact ⟨(h.sacarCpu hf).1, by simpa using List.find?_some hf⟩
    · rw [hnil, List.tail_nil, ← hnil]
      refine (Estado.conCola_self (((k.restar .cantReady).restar .cantCpuLibres).conCpus _) .ready).symm
        ▸ ?_
      cases hf : k.listaCpu.find? fun unCpu => unCpu.idProgExec == 0 with
      | none =>
        rw [List.eraseP_of_forall_not (List.find?_eq_none.1 hf)]
        exact h₀
      | some cpu => exact (h₀.sacarCpu hf).2
  · have h₀ := (h.restar .cantReady).restar .cantCpuLibres
    obtain ⟨hc, h₁⟩ := h₀.sacarCpu hf
    obtain ⟨hx, h₂⟩ := h₁.desencolar hq
    exact ⟨_, .despachar v x cpu hx hc (by simpa using List.find?_some hf) (h.sem ▸ hpr)
      (h.sem ▸ hpl), (h₂.agregarCpu _).encolar .exec x⟩

lemma Refleja.manejadorExit (h : Refleja k v) {io io' : Bandeja} {u : Unit}
    (hr : correr manejadorExit k io = some ((u, k'), io')) : Limpia v k' := by
  have h₀ := h.restar .cantExit
  obtain ⟨hpos, ⟨hnada, rfl⟩ | ⟨x, l, hq, rfl⟩⟩ := manejadorExit_some hr
  · obtain ⟨hnil, hcero⟩ := h.cola_vacia hnada
    refine ⟨_, .destruirNadie v hcero (h.sem ▸ hpos), ?_⟩
    rw [hnil, List.tail_nil, ← hnil]
    exact (Estado.conCola_self (k.restar .cantExit) .exit).symm ▸ h₀
  · obtain ⟨hx, h₁⟩ := h₀.desencolar hq
    refine ⟨_, .destruir v x hx (h.sem ▸ hpos), h₁.colas, h₁.cpus, h₁.sem, ?_, h₁.contador⟩
    rw [Estado.conVivos_vivos, Vista.olvidar_vivos, Vista.quitar_vivos, Vista.decre_vivos, ← h.vivos,
      Multiset.coe_erase]

lemma Refleja.manejadorIOTomar (h : Refleja k v) {disp : List Byte} {io io' : Bandeja} {u : Unit}
    (hr : correr (manejadorIOTomar disp) k io = some ((u, k'), io')) : Limpia v k' := by
  obtain ⟨x, p, l, n, -, -, -, rfl⟩ := manejadorIOTomar_some hr
  exact ((h.conIo _ _).conIo _ _).limpia

lemma Refleja.manejadorIOServir (h : Refleja k v) {disp : List Byte} {io io' : Bandeja} {u : Unit}
    (hr : correr (manejadorIOServir disp) k io = some ((u, k'), io')) : Limpia v k' := by
  obtain ⟨x, p, k₁, -, -, hd, rfl⟩ := manejadorIOServir_some hr
  obtain ⟨v', ht, h'⟩ := h.despierta hd
  exact ⟨v', ht, h'.conIo _ _⟩

/-! ### Connections -/

lemma Refleja.ingresarNewCpu (h : Refleja k v) (hsoc : ∀ cpu ∈ k.listaCpu, cpu.socCpu ≠ soc)
    {io io' : Bandeja} {u : Unit}
    (hr : correr (ingresarNewCpu soc) k io = some ((u, k'), io')) : Limpia v k' := by
  obtain ⟨-, rfl, rfl⟩ := correr_some rfl hr
  exact ⟨_, .altaCpu v soc fun c hc => hsoc c (h.mem_cpus.2 hc),
    ((h.conSocCpus _).agregarCpu _).sumar _⟩

lemma Refleja.administrarNewScript (h : Refleja k v) {metadata : List Byte → MetadataProgram}
    {basura : ℤ} {men : MenComun} (h3 : 3 ≤ soc)
    (hsoc : ∀ c, ∀ x, some x ∈ k.colas c → x.nSocket ≠ soc) {io io' : Bandeja} {u : Unit}
    (hr : correr (administrarNewScript metadata basura soc men) k io = some ((u, k'), io')) :
    Limpia v k' := by
  have hcont : Refleja (k.conContador (k.contadorPrograma + 1)) v.contar :=
    ⟨h.colas, h.cpus, h.sem, h.vivos, by simp [h.contador]⟩
  rcases administrarNewScript_some hr with rfl | ⟨pcb, peso, hid, rfl⟩
  · exact ⟨_, .contar v, hcont.conSocProgs _⟩
  · refine ⟨_, .crear v ⟨pcb, soc, peso, -1⟩ (h.contador ▸ hid) h3 ?_, ?_⟩
    · intro q hq
      have hmem : ∃ c, q ∈ v.cola c := by
        simp only [Vista.procesos, Multiset.mem_add] at hq
        rcases hq with (((hq | hq) | hq) | hq) | hq <;> exact ⟨_, hq⟩
      obtain ⟨c, hc⟩ := hmem
      exact hsoc c q (h.mem_cola.2 hc)
    · have hviv : Refleja ((k.conContador (k.contadorPrograma + 1)).conVivos (pcb.id :: k.vivos))
          (v.contar.recordar pcb.id) :=
        ⟨h.colas, h.cpus, h.sem, by simp [← h.vivos], hcont.contador⟩
      exact (hviv.encolar .new _).sumar .cantNew

end Handlers

/-! ### Steps -/

/-- Moves whose marks are among those of `P`. -/
def Mueve (P : Rotulo → Prop) : Vista → Vista → Prop :=
  Relation.ReflTransGen fun v v' => ∃ r, P r ∧ Transicion v r v'

/-- The marks a step can have: nobody is admitted when all new processes are heavier than 1000000,
and a disconnection finds a process where there is one of that connection. -/
def Posible (k : Estado) : Paso → Rotulo → Prop
  | _, .limpio => True
  | .newReady, .nadie => ∀ x, some x ∈ k.colas .new → 1000000 < x.peso
  | .progCerrado soc, .desconecta c => ∃ x, some x ∈ k.colas c ∧ x.nSocket = soc
  | _, _ => False

section Steps

variable {k k' : Estado} {v v' : Vista} {P : Rotulo → Prop} {c : Cola} {soc : ℤ}

lemma Mueve.bien (hm : Mueve P v v') (hb : v.Bien) : v'.Bien := by
  induction hm with
  | refl => exact hb
  | tail _ ht ih =>
    obtain ⟨r, -, ht⟩ := ht
    exact ht.bien ih

lemma Limpia.mueve (hl : Limpia v k') (hP : P .limpio) : ∃ v', Mueve P v v' ∧ Refleja k' v' := by
  obtain ⟨v', ht, h'⟩ := hl
  exact ⟨v', .single ⟨_, hP, ht⟩, h'⟩

lemma Refleja.manejadorNewReady (h : Refleja k v) {io io' : Bandeja} {u : Unit}
    (hr : correr manejadorNewReady k io = some ((u, k'), io')) :
    ∃ v', Mueve (Posible k .newReady) v v' ∧ Refleja k' v' := by
  have h₀ := (h.restar .cantNew).restar .cantMultiprog
  obtain ⟨hpn, hpm, ⟨x, k₁, hs, rfl⟩ | ⟨hall, rfl⟩⟩ := manejadorNewReady_some hr
  · obtain ⟨-, hx, h₁⟩ := h₀.saca hs
    exact Limpia.mueve ⟨_, .admitir v x hx (h.sem ▸ hpn) (h.sem ▸ hpm), h₁.encolarReady x⟩ trivial
  · refine ⟨_, .single ⟨.nadie, fun x hx => ?_, .admitirNadie v (h.sem ▸ hpm)⟩, h₀⟩
    obtain ⟨z, hz, hpeso⟩ := hall _ hx
    exact Option.some.inj hz ▸ hpeso

/-- The search for a disconnected program in a queue of processes that do not execute. -/
lemma Refleja.desconecta (h : Refleja k v) (hc : c ≠ .exit) (hce : c ≠ .exec)
    (hP : ∀ x, some x ∈ k.colas c → x.nSocket = soc → P (.desconecta c))
    (hd : k.Desconecta c soc k') : ∃ v', Mueve P v v' ∧ Refleja k' v' := by
  rcases hd with ⟨x, k₁, hs, rfl⟩ | ⟨-, rfl⟩
  · obtain ⟨hsoc, hx, h₁⟩ := h.saca hs
    exact ⟨_, .single ⟨_, hP x (h.mem_cola.2 hx) (by simpa using hsoc), .desconectar v x c hc hce hx⟩,
      h₁.encolarExit x⟩
  · exact ⟨v, .refl, h⟩

/-- The search in one queue leaves the others alone. -/
lemma desconecta_colas (hd : k.Desconecta c soc k') {d : Cola} (hdc : d ≠ c) (hde : d ≠ .exit) :
    k'.colas d = k.colas d := by
  rcases hd with ⟨x, k₁, ⟨pre, post, -, -, -, rfl⟩, rfl⟩ | ⟨-, rfl⟩
  · simp [Estado.encolarExit, Estado.sumar, Estado.encolar, Function.update_of_ne hde,
      Function.update_of_ne hdc]
  · rfl

/-- The end of a disconnection: the process in execution, and its CPU. -/
lemma Refleja.desconectaExec (h : Refleja k v) (hb : v.Bien) (h3 : 3 ≤ soc) {k₁ : Estado}
    (hd : k.Desconecta .exec soc k₁)
    (hr : (∃ cpu, k₁.listaCpu.find? (fun unCpu => unCpu.socProg == soc) = some cpu ∧
        k' = (k₁.conCpus (k₁.listaCpu.eraseP fun unCpu => unCpu.socProg == soc)).soltarSoc
          cpu.socCpu) ∨
      (k₁.listaCpu.find? (fun unCpu => unCpu.socProg == soc) = none ∧
        k' = k₁.conCpus (k₁.listaCpu.eraseP fun unCpu => unCpu.socProg == soc))) :
    Limpia v k' := by
  have hbusy : ∀ cpu ∈ v.cpus, cpu.socProg = soc →
      cpu.idProgExec ≠ 0 ∧ ∃ y ∈ v.cola .exec, y.identidad = cpu.ocupante := by
    intro cpu hcpu hs
    have h0 : cpu.idProgExec ≠ 0 := fun h0 => by
      have := hb.libres cpu hcpu h0
      omega
    exact ⟨h0, hb.exists_exec hcpu h0⟩
  rcases hd with ⟨x, k₀, hs, rfl⟩ | ⟨hn, rfl⟩
  · obtain ⟨hsoc, hx, h₁⟩ := h.saca hs
    have h₂ := h₁.encolarExit x
    have hsoc : x.nSocket = soc := by simpa using hsoc
    rcases hr with ⟨cpu, hf, rfl⟩ | ⟨hf, rfl⟩
    · obtain ⟨hc, h₃⟩ := h₂.sacarCpu hf
      have hc : cpu ∈ v.cpus := hc
      have hs : cpu.socProg = soc := by simpa using List.find?_some hf
      obtain ⟨h0, y, hy, heq⟩ := hbusy cpu hc hs
      have hy' : y.nSocket = x.nSocket := (congrArg Prod.snd heq).trans (hs.trans hsoc.symm)
      exact ⟨_, .soltarYCerrar v x x cpu .exit (by simp) (by simp) hx hc h0
        (heq.symm.trans (hb.identidad_of_soc hy hx hy')) rfl, h₃.soltarSoc _⟩
    · obtain ⟨cpu, hc, -, heq⟩ := hb.exists_cpu hx
      have hc' : cpu ∈ (k₀.encolarExit x).listaCpu := h₂.mem_cpus.2 hc
      have hne : cpu.socProg ≠ soc := by simpa using List.find?_eq_none.1 hf cpu hc'
      exact absurd ((congrArg Prod.snd heq).trans hsoc) hne
  · rcases hr with ⟨cpu, hf, rfl⟩ | ⟨hf, rfl⟩
    · have hc : cpu ∈ v.cpus := h.mem_cpus.1 (List.mem_of_find?_eq_some hf)
      have hs : cpu.socProg = soc := by simpa using List.find?_some hf
      obtain ⟨-, y, hy, heq⟩ := hbusy cpu hc hs
      obtain ⟨z, hz, hne⟩ := hn _ (h.mem_cola.2 hy)
      obtain rfl := Option.some.inj hz
      have hne : y.nSocket ≠ soc := by simpa using hne
      exact absurd ((congrArg Prod.snd heq).trans hs) hne
    · rw [List.eraseP_of_forall_not (List.find?_eq_none.1 hf)]
      exact h.limpia

lemma Refleja.administrarProgCerrado (h : Refleja k v) (hb : v.Bien) (h3 : 3 ≤ soc)
    {io io' : Bandeja} {u : Unit}
    (hr : correr (administrarProgCerrado soc) k io = some ((u, k'), io')) :
    ∃ v', Mueve (Posible k (.progCerrado soc)) v v' ∧ Refleja k' v' := by
  obtain ⟨k₁, k₂, k₃, k₄, hd₁, hd₂, hd₃, hd₄, hcpu⟩ := administrarProgCerrado_some hr
  have e₁ : ∀ d, d ≠ .new → d ≠ .exit → k₁.colas d = k.colas d := fun d => desconecta_colas hd₁
  have e₂ : ∀ d, d ≠ .ready → d ≠ .exit → k₂.colas d = k₁.colas d := fun d => desconecta_colas hd₂
  obtain ⟨v₁, hm₁, h₁⟩ := (h.conSocProgs (k.conjSocProgs.erase soc)).desconecta
    (P := Posible k (.progCerrado soc)) (by simp) (by simp) (fun x hx hs => ⟨x, hx, hs⟩) hd₁
  obtain ⟨v₂, hm₂, h₂⟩ := h₁.desconecta (P := Posible k (.progCerrado soc)) (by simp) (by simp)
    (fun x hx hs => ⟨x, e₁ .ready (by simp) (by simp) ▸ hx, hs⟩) hd₂
  obtain ⟨v₃, hm₃, h₃⟩ := h₂.desconecta (P := Posible k (.progCerrado soc)) (by simp) (by simp)
    (fun x hx hs => ⟨x, e₁ .block (by simp) (by simp) ▸ e₂ .block (by simp) (by simp) ▸ hx, hs⟩)
    hd₃
  have hm := (hm₁.trans hm₂).trans hm₃
  obtain ⟨v', hm₄, h'⟩ := (h₃.desconectaExec (Mueve.bien hm hb) h3 hd₄ hcpu).mueve
    (P := Posible k (.progCerrado soc)) trivial
  exact ⟨v', hm.trans hm₄, h'⟩

/-- **Every step of the kernel is made of moves.** -/
theorem Refleja.hacer {metadata : List Byte → MetadataProgram} {p : Paso} (h : Refleja k v)
    (hb : v.Bien) (ha : Admitido k p) (hp : p.hacer metadata k = some k') :
    ∃ v', Mueve (Posible k p) v v' ∧ Refleja k' v' := by
  obtain ⟨⟨⟨u, _⟩, io'⟩, hr, rfl⟩ := Option.map_eq_some_iff.1 hp
  cases p with
  | progCerrado soc => exact h.administrarProgCerrado hb ha hr
  | newScript basura soc men entrada => exact (h.administrarNewScript ha.1 ha.2 hr).mueve trivial
  | newCpu soc => exact (h.ingresarNewCpu ha hr).mueve trivial
  | menCpu soc entrada => exact (h.administrarMenCpus hb (fun men l => ha men l) hr).mueve trivial
  | newReady => exact h.manejadorNewReady hr
  | readyExec => exact (h.manejadorReadyExec hr).mueve trivial
  | exit entrada => exact (h.manejadorExit hr).mueve trivial
  | ioTomar disp => exact (h.manejadorIOTomar hr).mueve trivial
  | ioServir disp => exact (h.manejadorIOServir hr).mueve trivial

end Steps

end Ansisop.Kernel
