import Ansisop.Kernel.State

/-!
# The life of a process

What the kernel is for, without its queues' order, its messages and its threads: a process is new,
ready, executing, blocked or finished, a CPU is free or runs one process, and a move of either
changes the counters that stand for them. `Transicion` lists the moves that the functions of the
kernel make, also those that lose a count; `Bien` is what all of them keep.

The moves that upset a count carry a mark of their own (`Rotulo`), so that a run can be asked to do
without them: `Transicion.cuenta` and `Transicion.grado` are about the moves that remain.
-/

namespace Ansisop.Kernel

open Ansisop.Sockets

/-- The processes in each state, the CPUs, the counters, the ids in use and the last id given. -/
structure Vista where
  cola : Cola → Multiset PcbOtros
  cpus : Multiset Cpu
  sem : Sem → ℕ
  vivos : Multiset ℤ
  contador : ℤ

/-- What a pcb keeps for life: the id and the connection of its program. -/
def PcbOtros.identidad (p : PcbOtros) : ℤ × ℤ := (p.pcb.id, p.nSocket)

/-- What a CPU record says of the process it runs. -/
def Cpu.ocupante (c : Cpu) : ℤ × ℤ := (c.idProgExec, c.socProg)

/-- The record of the CPU when it runs nothing. -/
def Cpu.libre (c : Cpu) : Cpu := { c with idProgExec := 0, socProg := 0 }

/-- The record of the CPU when it runs `p`. -/
def Cpu.con (c : Cpu) (p : PcbOtros) : Cpu := { c with idProgExec := p.pcb.id, socProg := p.nSocket }

namespace Vista

variable (v : Vista)

@[simps] def quitar (c : Cola) (p : PcbOtros) : Vista :=
  { v with cola := Function.update v.cola c ((v.cola c).erase p) }

@[simps] def poner (c : Cola) (p : PcbOtros) : Vista :=
  { v with cola := Function.update v.cola c (p ::ₘ v.cola c) }

@[simps] def incre (s : Sem) : Vista := { v with sem := Function.update v.sem s (v.sem s + 1) }

@[simps] def decre (s : Sem) : Vista := { v with sem := Function.update v.sem s (v.sem s - 1) }

@[simps] def sacarCpu (c : Cpu) : Vista := { v with cpus := v.cpus.erase c }

@[simps] def ponerCpu (c : Cpu) : Vista := { v with cpus := c ::ₘ v.cpus }

/-- One more id has been given out. -/
@[simps] def contar : Vista := { v with contador := v.contador + 1 }

@[simps] def recordar (i : ℤ) : Vista := { v with vivos := i ::ₘ v.vivos }

@[simps] def olvidar (i : ℤ) : Vista := { v with vivos := v.vivos.erase i }

/-- The arrival of a process in the queue `c`, with its count. -/
def llegar (c : Cola) (p : PcbOtros) : Vista :=
  match c with
  | .new => (v.poner .new p).incre .cantNew
  | .ready => (v.poner .ready p).incre .cantReady
  | .exit => ((v.poner .exit p).incre .cantExit).incre .cantMultiprog
  | c => v.poner c p

/-- All processes. -/
def procesos : Multiset PcbOtros :=
  v.cola .new + v.cola .ready + v.cola .exec + v.cola .block + v.cola .exit

def identidades : Multiset (ℤ × ℤ) := v.procesos.map PcbOtros.identidad

/-- The CPUs that run a process. -/
def ocupadas : Multiset Cpu := v.cpus.filter fun c => c.idProgExec ≠ 0

/-- The CPUs that run nothing. -/
def libres : Multiset Cpu := v.cpus.filter fun c => c.idProgExec = 0

end Vista

/-- The marks of the moves: those that upset no count, the admission of nobody, and a
disconnection that finds the process in the queue `c`. -/
inductive Rotulo where
  | limpio
  | nadie
  | desconecta (c : Cola)
  deriving DecidableEq, Repr

open Vista in
/-- The moves of processes and CPUs. -/
inductive Transicion : Vista → Rotulo → Vista → Prop
  | quieto (v) : Transicion v .limpio v
  | contar (v : Vista) : Transicion v .limpio v.contar
  | crear (v : Vista) (p : PcbOtros) (hid : p.pcb.id = v.contador + 1) (hsoc : 3 ≤ p.nSocket)
      (hnuevo : ∀ q ∈ v.procesos, q.nSocket ≠ p.nSocket) :
      Transicion v .limpio ((v.contar.recordar p.pcb.id).llegar .new p)
  | admitir (v : Vista) (p : PcbOtros) (hp : p ∈ v.cola .new)
      (hnew : 0 < v.sem .cantNew) (hmul : 0 < v.sem .cantMultiprog) :
      Transicion v .limpio ((((v.decre .cantNew).decre .cantMultiprog).quitar .new p).llegar .ready p)
  | admitirNadie (v : Vista) (hmul : 0 < v.sem .cantMultiprog) :
      Transicion v .nadie ((v.decre .cantNew).decre .cantMultiprog)
  | despachar (v : Vista) (p : PcbOtros) (c : Cpu) (hp : p ∈ v.cola .ready) (hc : c ∈ v.cpus)
      (hlibre : c.idProgExec = 0) (hready : 0 < v.sem .cantReady)
      (hlibres : 0 < v.sem .cantCpuLibres) :
      Transicion v .limpio ((((((v.decre .cantReady).decre .cantCpuLibres).sacarCpu c).quitar .ready p
        ).ponerCpu (c.con p)).poner .exec p)
  | despacharNadie (v : Vista) (c : Option Cpu) (hnada : v.cola .ready = 0)
      (hc : ∀ c' ∈ c, c' ∈ v.cpus ∧ c'.idProgExec = 0) (hready : 0 < v.sem .cantReady) :
      Transicion v .limpio (c.elim ((v.decre .cantReady).decre .cantCpuLibres)
        ((v.decre .cantReady).decre .cantCpuLibres).sacarCpu)
  | soltar (v : Vista) (p p' : PcbOtros) (c : Cpu) (d : Cola) (hd : d ≠ .new) (hde : d ≠ .exec)
      (hp : p ∈ v.cola .exec) (hc : c ∈ v.cpus) (hocupada : c.idProgExec ≠ 0)
      (hcp : c.ocupante = p.identidad) (hp' : p'.identidad = p.identidad) :
      Transicion v .limpio
        (((((v.sacarCpu c).quitar .exec p).llegar d p').ponerCpu c.libre).incre .cantCpuLibres)
  | soltarYCerrar (v : Vista) (p p' : PcbOtros) (c : Cpu) (d : Cola) (hd : d ≠ .new)
      (hde : d ≠ .exec) (hp : p ∈ v.cola .exec) (hc : c ∈ v.cpus) (hocupada : c.idProgExec ≠ 0)
      (hcp : c.ocupante = p.identidad) (hp' : p'.identidad = p.identidad) :
      Transicion v .limpio (((v.sacarCpu c).quitar .exec p).llegar d p')
  | despertar (v : Vista) (p : PcbOtros) (hp : p ∈ v.cola .block) :
      Transicion v .limpio ((v.quitar .block p).llegar .ready p)
  | desconectar (v : Vista) (p : PcbOtros) (d : Cola) (hd : d ≠ .exit) (hde : d ≠ .exec)
      (hp : p ∈ v.cola d) : Transicion v (.desconecta d) ((v.quitar d p).llegar .exit p)
  | destruir (v : Vista) (p : PcbOtros) (hp : p ∈ v.cola .exit) (hexit : 0 < v.sem .cantExit) :
      Transicion v .limpio (((v.decre .cantExit).quitar .exit p).olvidar p.pcb.id)
  | destruirNadie (v : Vista) (hnada : v.cola .exit = 0) (hexit : 0 < v.sem .cantExit) :
      Transicion v .limpio (v.decre .cantExit)
  | altaCpu (v : Vista) (soc : ℤ) (hsoc : ∀ c ∈ v.cpus, c.socCpu ≠ soc) :
      Transicion v .limpio ((v.ponerCpu ⟨soc, 0, 0⟩).incre .cantCpuLibres)
  | bajaCpu (v : Vista) (c : Cpu) (hc : c ∈ v.cpus) (hlibre : c.idProgExec = 0)
      (hlibres : 0 < v.sem .cantCpuLibres) :
      Transicion v .limpio ((v.sacarCpu c).decre .cantCpuLibres)

/-- **The law of the moves.** The processes have the ids in use, each id given out once and each
connection with one process; the CPUs that run something and the processes in execution are the
same pairs of id and connection, and the free CPUs point to no program. -/
structure Vista.Bien (v : Vista) : Prop where
  vivos : v.identidades.map Prod.fst = v.vivos
  nodup : v.vivos.Nodup
  rango : ∀ i ∈ v.vivos, 1 ≤ i ∧ i ≤ v.contador
  contador : 0 ≤ v.contador
  socs : (v.identidades.map Prod.snd).Nodup
  soc_pos : ∀ i ∈ v.identidades, 3 ≤ i.2
  cpus : (v.cpus.map Cpu.socCpu).Nodup
  exec : v.ocupadas.map Cpu.ocupante = (v.cola .exec).map PcbOtros.identidad
  libres : ∀ c ∈ v.cpus, c.idProgExec = 0 → c.socProg = 0

/-- How many processes a queue holds. -/
def Vista.cant (v : Vista) (c : Cola) : ℕ := (v.cola c).card

/-- The counters that say how many processes and CPUs there are to take. -/
structure Vista.Cuenta (v : Vista) : Prop where
  new : v.sem .cantNew = v.cant .new
  ready : v.sem .cantReady = v.cant .ready
  exit : v.sem .cantExit = v.cant .exit
  cpuLibres : v.sem .cantCpuLibres = v.libres.card

/-- The processes admitted and the places left add up to `m`. -/
def Vista.Grado (m : ℕ) (v : Vista) : Prop :=
  v.sem .cantMultiprog + v.cant .ready + v.cant .exec + v.cant .block = m

namespace Vista

variable {v : Vista} {p p' q : PcbOtros} {c : Cola} {s : Sem}

/-! ### The parts of a move -/

lemma poner_quitar (hp : p ∈ v.cola c) : (v.quitar c p).poner c p = v := by
  simp [quitar, poner, Multiset.cons_erase hp]

lemma identidades_poner (v : Vista) (c : Cola) (p : PcbOtros) :
    (v.poner c p).identidades = p.identidad ::ₘ v.identidades := by
  rw [identidades, identidades, ← Multiset.map_cons]
  congr 1
  cases c <;>
    simp only [procesos, poner_cola, Function.update_apply, reduceCtorEq, if_true, if_false,
      ← Multiset.singleton_add] <;> abel

lemma identidades_quitar (hp : p ∈ v.cola c) :
    p.identidad ::ₘ (v.quitar c p).identidades = v.identidades := by
  rw [← identidades_poner, poner_quitar hp]

@[simp] lemma llegar_cola (v : Vista) (c : Cola) (p : PcbOtros) :
    (v.llegar c p).cola = (v.poner c p).cola := by cases c <;> rfl

@[simp] lemma llegar_cpus (v : Vista) (c : Cola) (p : PcbOtros) :
    (v.llegar c p).cpus = v.cpus := by cases c <;> rfl

@[simp] lemma llegar_vivos (v : Vista) (c : Cola) (p : PcbOtros) :
    (v.llegar c p).vivos = v.vivos := by cases c <;> rfl

@[simp] lemma llegar_contador (v : Vista) (c : Cola) (p : PcbOtros) :
    (v.llegar c p).contador = v.contador := by cases c <;> rfl

lemma identidades_congr {v' : Vista} (h : v'.cola = v.cola) : v'.identidades = v.identidades := by
  simp [identidades, procesos, h]

lemma identidades_llegar (v : Vista) (c : Cola) (p : PcbOtros) :
    (v.llegar c p).identidades = p.identidad ::ₘ v.identidades := by
  rw [identidades_congr (llegar_cola _ _ _), identidades_poner]

/-- A process that goes from one queue to another, changed or not, is the process it was. -/
lemma identidades_mover (d : Cola) (hp : p ∈ v.cola c) (hp' : p'.identidad = p.identidad) :
    ((v.quitar c p).llegar d p').identidades = v.identidades := by
  rw [identidades_llegar, hp', identidades_quitar hp]

/-! ### Every move keeps the law -/

namespace Bien

/-- The law looks at no more than this. -/
lemma congr {v' : Vista} (h : v.Bien) (hi : v'.identidades = v.identidades)
    (hv : v'.vivos = v.vivos) (hn : v.contador ≤ v'.contador) (hc : v'.cpus = v.cpus)
    (he : (v'.cola .exec).map PcbOtros.identidad = (v.cola .exec).map PcbOtros.identidad) :
    v'.Bien where
  vivos := by rw [hi, hv, h.vivos]
  nodup := hv ▸ h.nodup
  rango i hi' := ⟨(h.rango i (hv ▸ hi')).1, (h.rango i (hv ▸ hi')).2.trans hn⟩
  contador := h.contador.trans hn
  socs := hi ▸ h.socs
  soc_pos := hi ▸ h.soc_pos
  cpus := hc ▸ h.cpus
  exec := by rw [ocupadas, hc, he]; exact h.exec
  libres := hc ▸ h.libres

/-- A free CPU with a socket of its own may join. -/
lemma ponerLibre (h : v.Bien) {soc : ℤ} (hsoc : ∀ c ∈ v.cpus, c.socCpu ≠ soc) :
    (v.ponerCpu ⟨soc, 0, 0⟩).Bien where
  vivos := h.vivos
  nodup := h.nodup
  rango := h.rango
  contador := h.contador
  socs := h.socs
  soc_pos := h.soc_pos
  cpus := by
    rw [ponerCpu_cpus, Multiset.map_cons, Multiset.nodup_cons]
    exact ⟨by simpa using hsoc, h.cpus⟩
  exec := by
    rw [ocupadas, ponerCpu_cpus, Multiset.filter_cons_of_neg _ (by simp)]
    exact h.exec
  libres := by
    intro c hc
    rcases Multiset.mem_cons.1 hc with rfl | hc
    · exact fun _ => rfl
    · exact h.libres c hc

/-- A free CPU may leave. -/
lemma sacarLibre (h : v.Bien) {c : Cpu} (hc : c ∈ v.cpus) (hlibre : c.idProgExec = 0) :
    (v.sacarCpu c).Bien where
  vivos := h.vivos
  nodup := h.nodup
  rango := h.rango
  contador := h.contador
  socs := h.socs
  soc_pos := h.soc_pos
  cpus := Multiset.nodup_of_le (Multiset.map_le_map (Multiset.erase_le c _)) h.cpus
  exec := by
    have hv : (v.sacarCpu c).ocupadas = v.ocupadas := by
      conv_rhs => rw [ocupadas, ← Multiset.cons_erase hc]
      rw [Multiset.filter_cons_of_neg _ (by simpa using hlibre)]
      rfl
    rw [hv]
    exact h.exec
  libres c' hc' := h.libres c' (Multiset.mem_of_mem_erase hc')

/-- The sockets of the other CPUs are other ones. -/
lemma socCpu_ne (h : v.Bien) {c : Cpu} (hc : c ∈ v.cpus) :
    ∀ c' ∈ v.cpus.erase c, c'.socCpu ≠ c.socCpu := by
  have hn := h.cpus
  rw [← Multiset.cons_erase hc, Multiset.map_cons, Multiset.nodup_cons] at hn
  intro c' hc' heq
  exact hn.1 (heq ▸ Multiset.mem_map_of_mem _ hc')

/-- A process that leaves execution leaves with its CPU. -/
lemma soltar (h : v.Bien) {c : Cpu} {d : Cola} (hde : d ≠ .exec) (hp : p ∈ v.cola .exec)
    (hc : c ∈ v.cpus) (hocupada : c.idProgExec ≠ 0) (hcp : c.ocupante = p.identidad)
    (hp' : p'.identidad = p.identidad) :
    (((v.sacarCpu c).quitar .exec p).llegar d p').Bien := by
  have hi : (((v.sacarCpu c).quitar .exec p).llegar d p').identidades = v.identidades :=
    (identidades_mover (v := v.sacarCpu c) d hp hp').trans (identidades_congr rfl)
  refine ⟨by rw [hi]; simpa using h.vivos, by simpa using h.nodup, by simpa using h.rango,
    by simpa using h.contador, hi ▸ h.socs, hi ▸ h.soc_pos, ?_, ?_, ?_⟩
  · rw [llegar_cpus]
    exact Multiset.nodup_of_le (Multiset.map_le_map (Multiset.erase_le c _)) h.cpus
  · have he := h.exec
    rw [ocupadas, ← Multiset.cons_erase hc, Multiset.filter_cons_of_pos _ (by simpa using hocupada),
      Multiset.map_cons, ← Multiset.cons_erase hp, Multiset.map_cons, hcp,
      Multiset.cons_inj_right] at he
    rw [llegar_cola, ocupadas, llegar_cpus, poner_cola, Function.update_of_ne (Ne.symm hde)]
    simpa using he
  · rw [llegar_cpus]
    exact fun c' hc' => h.libres c' (Multiset.mem_of_mem_erase hc')

/-- No process has the id that stands for none. -/
lemma id_ne_zero (h : v.Bien) (hp : p ∈ v.cola c) : p.pcb.id ≠ 0 := by
  have hmem : p.pcb.id ∈ v.vivos := by
    rw [← h.vivos, ← identidades_quitar hp]
    simp [PcbOtros.identidad]
  have := (h.rango _ hmem).1
  omega

/-- A free CPU takes a process that waits for one. -/
lemma despachar (h : v.Bien) {c : Cpu} (hp : p ∈ v.cola .ready) (hc : c ∈ v.cpus)
    (hlibre : c.idProgExec = 0) :
    ((((v.sacarCpu c).quitar .ready p).ponerCpu (c.con p)).poner .exec p).Bien := by
  have hs := h.sacarLibre hc hlibre
  have hi : ((((v.sacarCpu c).quitar .ready p).ponerCpu (c.con p)).poner .exec p).identidades =
      v.identidades := by
    rw [identidades_poner, ← identidades_quitar hp]
    exact congrArg _ (identidades_congr rfl)
  have hid := h.id_ne_zero hp
  refine ⟨by rw [hi]; exact h.vivos, h.nodup, h.rango, h.contador, hi ▸ h.socs, hi ▸ h.soc_pos,
    ?_, ?_, ?_⟩
  · rw [poner_cpus, ponerCpu_cpus, Multiset.map_cons, Multiset.nodup_cons]
    refine ⟨?_, hs.cpus⟩
    simpa [Cpu.con] using h.socCpu_ne hc
  · rw [ocupadas, poner_cpus, ponerCpu_cpus, Multiset.filter_cons_of_pos _ (by simpa [Cpu.con] using hid),
      Multiset.map_cons, poner_cola, Function.update_self, Multiset.map_cons]
    refine congrArg₂ _ rfl ?_
    simpa [ocupadas] using hs.exec
  · intro c' hc'
    rcases Multiset.mem_cons.1 hc' with rfl | hc'
    · exact fun h0 => absurd h0 hid
    · exact hs.libres c' hc'

end Bien

end Vista

open Vista in
/-- **Every move keeps the law.** -/
theorem Transicion.bien {v v' : Vista} {r : Rotulo} (t : Transicion v r v') (h : v.Bien) :
    v'.Bien := by
  cases t with
  | quieto => exact h
  | contar => exact h.congr (identidades_congr rfl) rfl (by simp) rfl rfl
  | crear p hid hsoc hnuevo =>
    have hi : ((v.contar.recordar p.pcb.id).llegar .new p).identidades =
        p.identidad ::ₘ v.identidades := by
      rw [identidades_llegar]
      exact congrArg _ (identidades_congr rfl)
    have hfuera : p.pcb.id ∉ v.vivos := fun hmem => by
      have := (h.rango _ hmem).2
      omega
    refine ⟨?_, ?_, ?_, ?_, ?_, ?_, h.cpus, h.exec, h.libres⟩
    · rw [hi, Multiset.map_cons, h.vivos]
      rfl
    · exact Multiset.nodup_cons.2 ⟨hfuera, h.nodup⟩
    · intro i hmem
      have hc := h.contador
      rcases Multiset.mem_cons.1 hmem with rfl | hmem
      · show 1 ≤ p.pcb.id ∧ p.pcb.id ≤ v.contador + 1
        omega
      · have := h.rango i hmem
        show 1 ≤ i ∧ i ≤ v.contador + 1
        omega
    · have hc := h.contador
      show 0 ≤ v.contador + 1
      omega
    · rw [hi, Multiset.map_cons, Multiset.nodup_cons]
      refine ⟨?_, h.socs⟩
      simpa [identidades, PcbOtros.identidad] using hnuevo
    · rw [hi]
      intro i hmem
      rcases Multiset.mem_cons.1 hmem with rfl | hmem
      · exact hsoc
      · exact h.soc_pos i hmem
  | admitir p hp =>
    exact h.congr ((identidades_mover (v := (v.decre .cantNew).decre .cantMultiprog) _ hp rfl).trans
      (identidades_congr rfl)) rfl le_rfl rfl rfl
  | admitirNadie => exact h.congr (identidades_congr rfl) rfl le_rfl rfl rfl
  | despachar p c hp hc hlibre =>
    exact (h.despachar hp hc hlibre).congr (identidades_congr rfl) rfl le_rfl rfl rfl
  | despacharNadie c hnada hc =>
    cases c with
    | none => exact h.congr (identidades_congr rfl) rfl le_rfl rfl rfl
    | some c => exact (h.sacarLibre (hc c rfl).1 (hc c rfl).2).congr (identidades_congr rfl) rfl le_rfl rfl rfl
  | soltar p p' c d hd hde hp hc hocupada hcp hp' =>
    have hs := h.soltar hde hp hc hocupada hcp hp'
    have hsoc : ∀ c' ∈ (((v.sacarCpu c).quitar .exec p).llegar d p').cpus, c'.socCpu ≠ c.socCpu := by
      simpa using h.socCpu_ne hc
    exact (hs.ponerLibre hsoc).congr (identidades_congr rfl) rfl le_rfl rfl rfl
  | soltarYCerrar p p' c d hd hde hp hc hocupada hcp hp' =>
    exact h.soltar hde hp hc hocupada hcp hp'
  | despertar p hp => exact h.congr (identidades_mover _ hp rfl) rfl le_rfl rfl rfl
  | desconectar p d hd hde hp =>
    refine h.congr (identidades_mover _ hp rfl) rfl le_rfl rfl ?_
    rw [llegar_cola, poner_cola, Function.update_of_ne (by simp), quitar_cola,
      Function.update_of_ne (Ne.symm hde)]
  | destruir p hp =>
    have hi := identidades_quitar hp
    have hv : p.pcb.id ::ₘ (v.quitar .exit p).identidades.map Prod.fst = v.vivos := by
      rw [← h.vivos, ← hi, Multiset.map_cons]
      rfl
    have hle : (v.quitar .exit p).identidades ≤ v.identidades := hi ▸ Multiset.le_cons_self _ _
    refine ⟨?_, ?_, ?_, h.contador, ?_, ?_, h.cpus, h.exec, h.libres⟩
    · show (v.quitar .exit p).identidades.map Prod.fst = v.vivos.erase p.pcb.id
      rw [← hv, Multiset.erase_cons_head]
    · exact h.nodup.erase _
    · exact fun i hmem => h.rango i (Multiset.mem_of_mem_erase hmem)
    · exact Multiset.nodup_of_le (Multiset.map_le_map hle) h.socs
    · exact fun i hmem => h.soc_pos i (Multiset.mem_of_le hle hmem)
  | destruirNadie => exact h.congr (identidades_congr rfl) rfl le_rfl rfl rfl
  | altaCpu soc hsoc => exact (h.ponerLibre hsoc).congr (identidades_congr rfl) rfl le_rfl rfl rfl
  | bajaCpu c hc hlibre => exact (h.sacarLibre hc hlibre).congr (identidades_congr rfl) rfl le_rfl rfl rfl

/-! ### Which moves keep the counts -/

namespace Vista

variable {v : Vista} {p p' : PcbOtros} {c d : Cola}

lemma cant_pos (hp : p ∈ v.cola c) : 0 < v.cant c :=
  Multiset.card_pos_iff_exists_mem.2 ⟨p, hp⟩

lemma cant_congr {v' : Vista} (h : v'.cola = v.cola) : v'.cant = v.cant := by
  funext c
  rw [cant, h, cant]

lemma cant_quitar (hp : p ∈ v.cola c) (d : Cola) :
    (v.quitar c p).cant d = v.cant d - if d = c then 1 else 0 := by
  rw [cant, quitar_cola, Function.update_apply]
  split
  · rename_i hd
    rw [hd, Multiset.card_erase_of_mem hp]
    rfl
  · rfl

@[simp] lemma cant_poner (v : Vista) (c : Cola) (p : PcbOtros) (d : Cola) :
    (v.poner c p).cant d = v.cant d + if d = c then 1 else 0 := by
  rw [cant, poner_cola, Function.update_apply]
  split
  · rename_i hd
    rw [hd, Multiset.card_cons, cant]
  · rfl

@[simp] lemma cant_llegar (v : Vista) (c : Cola) (p : PcbOtros) (d : Cola) :
    (v.llegar c p).cant d = v.cant d + if d = c then 1 else 0 := by
  rw [cant_congr (llegar_cola v c p), cant_poner]

@[simp] lemma cant_incre (v : Vista) (s : Sem) : (v.incre s).cant = v.cant := rfl
@[simp] lemma cant_decre (v : Vista) (s : Sem) : (v.decre s).cant = v.cant := rfl
@[simp] lemma cant_sacarCpu (v : Vista) (x : Cpu) : (v.sacarCpu x).cant = v.cant := rfl
@[simp] lemma cant_contar (v : Vista) : v.contar.cant = v.cant := rfl
@[simp] lemma cant_recordar (v : Vista) (i : ℤ) : (v.recordar i).cant = v.cant := rfl
@[simp] lemma cant_olvidar (v : Vista) (i : ℤ) : (v.olvidar i).cant = v.cant := rfl
@[simp] lemma cant_ponerCpu (v : Vista) (x : Cpu) : (v.ponerCpu x).cant = v.cant := rfl

/-- How far a counter changes when a process arrives. -/
lemma llegar_sem (v : Vista) (c : Cola) (p : PcbOtros) (s : Sem) :
    (v.llegar c p).sem s = v.sem s +
      match c, s with
      | .new, .cantNew | .ready, .cantReady | .exit, .cantExit | .exit, .cantMultiprog => 1
      | _, _ => 0 := by
  cases c <;> cases s <;> simp [llegar]

lemma card_libres_sacar {x : Cpu} (hx : x ∈ v.cpus) :
    (v.sacarCpu x).libres.card + (if x.idProgExec = 0 then 1 else 0) = v.libres.card := by
  conv_rhs => rw [libres, ← Multiset.cons_erase hx, Multiset.filter_cons]
  rw [Multiset.card_add, libres, sacarCpu_cpus, add_comm]
  split <;> rfl

@[simp] lemma card_libres_poner (v : Vista) (x : Cpu) :
    (v.ponerCpu x).libres.card = v.libres.card + if x.idProgExec = 0 then 1 else 0 := by
  rw [libres, ponerCpu_cpus, Multiset.filter_cons, Multiset.card_add, add_comm]
  split <;> rfl

@[simp] lemma libres_quitar (v : Vista) : (v.quitar c p).libres = v.libres := rfl
@[simp] lemma libres_poner (v : Vista) : (v.poner c p).libres = v.libres := rfl
@[simp] lemma libres_incre (v : Vista) (s : Sem) : (v.incre s).libres = v.libres := rfl
@[simp] lemma libres_decre (v : Vista) (s : Sem) : (v.decre s).libres = v.libres := rfl

@[simp] lemma libres_contar (v : Vista) : v.contar.libres = v.libres := rfl
@[simp] lemma libres_recordar (v : Vista) (i : ℤ) : (v.recordar i).libres = v.libres := rfl
@[simp] lemma libres_olvidar (v : Vista) (i : ℤ) : (v.olvidar i).libres = v.libres := rfl

@[simp] lemma libres_llegar (v : Vista) : (v.llegar c p).libres = v.libres := by
  cases c <;> rfl

end Vista

open Vista in
/-- **The degree of multiprogramming** changes only when nobody is admitted, and when a process
that has not been admitted is disconnected. -/
theorem Transicion.grado {v v' : Vista} {r : Rotulo} {m : ℕ} (t : Transicion v r v')
    (hnadie : r ≠ .nadie) (hnew : r ≠ .desconecta .new) (h : v.Grado m) : v'.Grado m := by
  unfold Grado at h ⊢
  cases t with
  | quieto => exact h
  | contar => exact h
  | crear p => simpa [llegar_sem] using h
  | admitir p hp hn hm =>
    rw [llegar_sem]
    simp [cant_quitar (v := (v.decre .cantNew).decre .cantMultiprog) hp]
    omega
  | admitirNadie => exact absurd rfl hnadie
  | despachar p c hp hc hlibre =>
    have := cant_pos hp
    simp [cant_quitar (v := ((v.decre .cantReady).decre .cantCpuLibres).sacarCpu c) hp]
    omega
  | despacharNadie c hnada hc =>
    cases c <;> simpa using h
  | soltar p p' c d hd hde hp hc hocupada hcp hp' =>
    have := cant_pos hp
    cases d <;> simp [llegar_sem, cant_quitar (v := v.sacarCpu c) hp] at hd hde ⊢ <;> omega
  | soltarYCerrar p p' c d hd hde hp hc hocupada hcp hp' =>
    have := cant_pos hp
    cases d <;> simp [llegar_sem, cant_quitar (v := v.sacarCpu c) hp] at hd hde ⊢ <;> omega
  | despertar p hp =>
    have := cant_pos hp
    simp [llegar_sem, cant_quitar hp]
    omega
  | desconectar p d hd hde hp =>
    have := cant_pos hp
    cases d <;> simp [llegar_sem, cant_quitar hp] at hd hde hnew ⊢ <;> omega
  | destruir p hp => simpa [cant_quitar (v := v.decre .cantExit) hp] using h
  | destruirNadie => simpa using h
  | altaCpu => simpa using h
  | bajaCpu => simpa using h

open Vista in
/-- **The counters stand for the queues** after every move but the admission of nobody and the
disconnection of a process that is new or ready. -/
theorem Transicion.cuenta {v v' : Vista} {r : Rotulo} (t : Transicion v r v')
    (hb : v.Bien) (hnadie : r ≠ .nadie) (hnew : r ≠ .desconecta .new)
    (hready : r ≠ .desconecta .ready) (h : v.Cuenta) : v'.Cuenta := by
  obtain ⟨h₁, h₂, h₃, h₄⟩ := h
  cases t with
  | quieto => exact ⟨h₁, h₂, h₃, h₄⟩
  | contar => exact ⟨h₁, h₂, h₃, h₄⟩
  | crear p => constructor <;> simpa [llegar_sem]
  | admitir p hp hn hm =>
    have := cant_pos hp
    constructor <;>
      simp [llegar_sem, cant_quitar (v := (v.decre .cantNew).decre .cantMultiprog) hp] <;> omega
  | admitirNadie => exact absurd rfl hnadie
  | despachar p c hp hc hlibre hr hl =>
    have := cant_pos hp
    have hid : (c.con p).idProgExec ≠ 0 := hb.id_ne_zero hp
    have hs := card_libres_sacar (v := (v.decre .cantReady).decre .cantCpuLibres) hc
    simp [hlibre] at hs
    constructor <;>
      simp [hid, cant_quitar (v := ((v.decre .cantReady).decre .cantCpuLibres).sacarCpu c) hp] <;> omega
  | despacharNadie c hnada hc hr =>
    simp [cant, hnada] at h₂
    omega
  | soltar p p' c d hd hde hp hc hocupada hcp hp' =>
    have := cant_pos hp
    have hs := card_libres_sacar hc
    simp [hocupada] at hs
    cases d <;> simp at hd hde <;>
      constructor <;> simp [llegar_sem, Cpu.libre, cant_quitar (v := v.sacarCpu c) hp] <;> omega
  | soltarYCerrar p p' c d hd hde hp hc hocupada hcp hp' =>
    have := cant_pos hp
    have hs := card_libres_sacar hc
    simp [hocupada] at hs
    cases d <;> simp at hd hde <;>
      constructor <;> simp [llegar_sem, cant_quitar (v := v.sacarCpu c) hp] <;> omega
  | despertar p hp =>
    have := cant_pos hp
    constructor <;> simp [llegar_sem, cant_quitar hp] <;> omega
  | desconectar p d hd hde hp =>
    have := cant_pos hp
    cases d <;> simp at hd hde hnew hready
    constructor <;> simp [llegar_sem, cant_quitar hp] <;> omega
  | destruir p hp hexit =>
    have := cant_pos hp
    constructor <;> simp [cant_quitar (v := v.decre .cantExit) hp] <;> omega
  | destruirNadie hnada hexit =>
    simp [cant, hnada] at h₃
    omega
  | altaCpu => constructor <;> simpa
  | bajaCpu c hc hlibre =>
    have hs := card_libres_sacar hc
    simp [hlibre] at hs
    constructor <;> simp <;> omega

end Ansisop.Kernel
