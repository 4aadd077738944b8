import Ansisop.Kernel.Refinement

/-!
# What holds in every run of the kernel

The law of the moves (`Vista.Bien`) and the counts (`Vista.Cuenta`, `Vista.Grado`), read back in
the queues, the list of CPUs and the semaphores of the kernel.

The counts are kept by every step but two kinds. `mover_pcb_exit` takes a process out of the queue
of the new or of the ready ones without taking it off the semaphore of that queue, and returns a
place of multiprogramming that a new process never took; and `get_peso_min` starts its search from
1000000, so that it gives `NULL` when all new processes are heavier, after `manejador_new_ready` has
taken its tokens.
-/

namespace Ansisop.Kernel

open Ansisop.Sockets Ansisop.Lib

/-! ### Reading the laws back -/

namespace Estado

/-- The ids of the processes in a queue. -/
def ids (k : Estado) (c : Cola) : List ℤ := (k.colas c).filterMap (Option.map fun x => x.pcb.id)

/-- The records of the CPUs that run a process. -/
def ocupadas (k : Estado) : List Cpu := k.listaCpu.filter fun cpu => cpu.idProgExec ≠ 0

/-- The records of the CPUs that run none. -/
def libres (k : Estado) : List Cpu := k.listaCpu.filter fun cpu => cpu.idProgExec = 0

end Estado

/-- No process is lost and none is in two places, and the CPUs run what is in execution. -/
structure Conservado (k : Estado) : Prop where
  sinNulos : ∀ c, none ∉ k.colas c
  nodup : k.vivos.Nodup
  unaVez : ∀ i ∈ k.vivos, ∃ c, (k.ids c).count i = 1 ∧ ∀ d ≠ c, i ∉ k.ids d
  vivos : ∀ c, ∀ i ∈ k.ids c, i ∈ k.vivos
  exec : (k.ocupadas.map Cpu.idProgExec).Perm (k.ids .exec)
  exec_nodup : (k.ids .exec).Nodup
  soc_prog : ∀ cpu ∈ k.ocupadas, ∀ x, some x ∈ k.colas .exec → x.pcb.id = cpu.idProgExec →
    cpu.socProg = x.nSocket

/-- The semaphores have the lengths they stand for, so that a manager that has its tokens finds
what it then takes. -/
structure Contado (k : Estado) : Prop where
  new : k.sem .cantNew = (k.colas .new).length
  ready : k.sem .cantReady = (k.colas .ready).length
  exit : k.sem .cantExit = (k.colas .exit).length
  cpuLibres : k.sem .cantCpuLibres = k.libres.length
  hay_new : 0 < k.sem .cantNew → ∃ x, some x ∈ k.colas .new
  hay_ready : 0 < k.sem .cantReady → (k.colas .ready).head?.join.isSome
  hay_exit : 0 < k.sem .cantExit → (k.colas .exit).head?.join.isSome
  hay_cpu : 0 < k.sem .cantCpuLibres →
    (k.listaCpu.find? fun unCpu => unCpu.idProgExec == 0).isSome

namespace Refleja

variable {k : Estado} {v : Vista}

lemma ids (h : Refleja k v) (c : Cola) :
    (k.ids c : Multiset ℤ) = (v.cola c).map fun x => x.pcb.id := by
  rw [Estado.ids, ← Multiset.filterMap_coe, h.colas, Multiset.filterMap_map]
  exact congrFun (Multiset.filterMap_eq_map _) _

lemma length (h : Refleja k v) (c : Cola) : (k.colas c).length = v.cant c := by
  rw [← Multiset.coe_card, h.colas, Multiset.card_map, Vista.cant]

lemma ocupadas (h : Refleja k v) : (k.ocupadas : Multiset Cpu) = v.ocupadas := by
  simp [Estado.ocupadas, Vista.ocupadas, ← h.cpus]

lemma libres (h : Refleja k v) : (k.libres : Multiset Cpu) = v.libres := by
  simp [Estado.libres, Vista.libres, ← h.cpus]

/-- Each id in use is that of one process, in one queue. -/
lemma count_ids (h : Refleja k v) (hb : v.Bien) (i : ℤ) :
    (k.ids .new).count i + (k.ids .ready).count i + (k.ids .exec).count i + (k.ids .block).count i +
      (k.ids .exit).count i = k.vivos.count i := by
  have hv := congrArg (Multiset.count i) (h.vivos.trans hb.vivos.symm)
  rw [Multiset.coe_count] at hv
  have hc := fun c => congrArg (Multiset.count i) (h.ids c)
  simp only [Multiset.coe_count] at hc
  simp only [hv, hc, Vista.identidades, Vista.procesos, Multiset.map_map, Multiset.map_add,
    Multiset.count_add]
  rfl

/-- **The law of the moves, in the kernel.** -/
theorem conservado (h : Refleja k v) (hb : v.Bien) : Conservado k := by
  have hnodup : k.vivos.Nodup := by
    rw [← Multiset.coe_nodup, h.vivos]
    exact hb.nodup
  have hexec : (v.cola .exec).map (fun x => x.pcb.id) = v.ocupadas.map Cpu.idProgExec := by
    have := congrArg (Multiset.map Prod.fst) hb.exec
    rw [Multiset.map_map, Multiset.map_map] at this
    exact this.symm
  have hle : ∀ c i, (k.ids c).count i ≤ k.vivos.count i := by
    intro c i
    have := h.count_ids hb i
    cases c <;> omega
  have hone : ∀ i, k.vivos.count i ≤ 1 := List.nodup_iff_count_le_one.1 hnodup
  refine ⟨h.sinNulos, hnodup, fun i hi => ?_, fun c i hi => ?_, ?_, ?_, ?_⟩
  · have hsum := h.count_ids hb i
    rw [List.count_eq_one_of_mem hnodup hi] at hsum
    have hcola : ∀ c, (k.ids c).count i = 1 → (∀ d ≠ c, (k.ids d).count i = 0) →
        ∃ c, (k.ids c).count i = 1 ∧ ∀ d ≠ c, i ∉ k.ids d :=
      fun c hc hd => ⟨c, hc, fun d hdc => List.count_eq_zero.1 (hd d hdc)⟩
    by_cases hn : (k.ids .new).count i = 1
    · exact hcola .new hn fun d hd => by cases d <;> first | exact absurd rfl hd | omega
    by_cases hr : (k.ids .ready).count i = 1
    · exact hcola .ready hr fun d hd => by cases d <;> first | exact absurd rfl hd | omega
    by_cases he : (k.ids .exec).count i = 1
    · exact hcola .exec he fun d hd => by cases d <;> first | exact absurd rfl hd | omega
    by_cases hbl : (k.ids .block).count i = 1
    · exact hcola .block hbl fun d hd => by cases d <;> first | exact absurd rfl hd | omega
    · exact hcola .exit (by omega) fun d hd => by cases d <;> first | exact absurd rfl hd | omega
  · exact List.count_pos_iff.1 ((List.count_pos_iff.2 hi).trans_le (hle c i))
  · rw [← Multiset.coe_eq_coe, ← Multiset.map_coe, h.ocupadas, h.ids, hexec]
  · exact List.nodup_iff_count_le_one.2 fun i => (hle .exec i).trans (hone i)
  · intro cpu hcpu x hx hid
    rw [← Multiset.mem_coe, h.ocupadas, Vista.ocupadas, Multiset.mem_filter] at hcpu
    have := (hb.ocupante_eq hcpu.1 (h.mem_cola.1 hx) hid.symm).2
    exact congrArg Prod.snd this

/-- **The counts of the moves, in the kernel.** -/
theorem contado (h : Refleja k v) (hc : v.Cuenta) : Contado k := by
  have hnew : k.sem .cantNew = (k.colas .new).length := by rw [h.sem, h.length, hc.new]
  have hready : k.sem .cantReady = (k.colas .ready).length := by rw [h.sem, h.length, hc.ready]
  have hexit : k.sem .cantExit = (k.colas .exit).length := by rw [h.sem, h.length, hc.exit]
  have hlib : k.sem .cantCpuLibres = k.libres.length := by
    rw [h.sem, hc.cpuLibres, ← h.libres, Multiset.coe_card]
  have hhead : ∀ c, 0 < (k.colas c).length → (k.colas c).head?.join.isSome := by
    intro c hpos
    cases hj : (k.colas c).head?.join with
    | some x => rfl
    | none => exact absurd hpos (by simp [(h.cola_vacia hj).1])
  refine ⟨hnew, hready, hexit, hlib, fun hpos => ?_, fun hpos => hhead _ (hready ▸ hpos),
    fun hpos => hhead _ (hexit ▸ hpos), fun hpos => ?_⟩
  · obtain ⟨x, hx⟩ := Option.isSome_iff_exists.1 (hhead .new (hnew ▸ hpos))
    exact ⟨x, by rw [eq_cons_of_head hx]; exact List.mem_cons_self⟩
  · rw [hlib, List.length_pos_iff_exists_mem] at hpos
    obtain ⟨cpu, hcpu⟩ := hpos
    rw [List.find?_isSome]
    exact ⟨cpu, (List.mem_filter.1 hcpu).1, by simpa using (List.mem_filter.1 hcpu).2⟩

end Refleja

/-! ### Runs -/

/-- The situation at the start. -/
def Vista.inicial (m : ℕ) : Vista where
  cola _ := 0
  cpus := 0
  sem
    | .cantMultiprog => m
    | _ => 0
  vivos := 0
  contador := 0

lemma Vista.inicial_bien (m : ℕ) : (Vista.inicial m).Bien := by
  constructor <;> simp [Vista.inicial, Vista.identidades, Vista.procesos, Vista.ocupadas]

lemma Vista.inicial_cuenta (m : ℕ) : (Vista.inicial m).Cuenta := by
  constructor <;> simp [Vista.inicial, Vista.cant, Vista.libres]

lemma Vista.inicial_grado (m : ℕ) : (Vista.inicial m).Grado m := by
  simp [Vista.Grado, Vista.inicial, Vista.cant]

lemma refleja_inicial (config : Config) (socUmv : ℤ) :
    Refleja (inicial config socUmv) (Vista.inicial config.multiprogramacion) := by
  refine ⟨fun c => rfl, rfl, ?_, rfl, rfl⟩
  funext s
  cases s <;> rfl

variable {metadata : List Byte → MetadataProgram} {config : Config} {socUmv : ℤ}

/-- What every situation of a run is, and what holds in it when the steps keep it. -/
lemma correr_refleja {cond : Estado → Paso → Prop} {I : Vista → Prop}
    (hadm : ∀ k p, cond k p → Admitido k p)
    (hI : ∀ k p v v', cond k p → v.Bien → Mueve (Posible k p) v v' → I v → I v')
    (h0 : I (Vista.inicial config.multiprogramacion)) {pasos : List Paso} {k : Estado}
    (ha : Along (Paso.hacer metadata) cond pasos (inicial config socUmv))
    (hr : run (Paso.hacer metadata) pasos (inicial config socUmv) = some k) :
    ∃ v, Refleja k v ∧ v.Bien ∧ I v := by
  refine run_invariant (I := fun k => ∃ v, Refleja k v ∧ v.Bien ∧ I v) ?_
    ⟨_, refleja_inicial config socUmv, Vista.inicial_bien _, h0⟩ ha hr
  rintro k p k' ⟨v, h, hb, hv⟩ hc hp
  obtain ⟨v', hm, h'⟩ := h.hacer hb (hadm k p hc) hp
  exact ⟨v', h', Mueve.bien hm hb, hI k p v v' hc hb hm hv⟩

/-- **Conservation of processes.** In every state of every run, each pcb that has been created and
not been freed is in one queue, once; no queue holds `NULL`; and the CPUs that run a process are
the processes in execution, each with the connection of its program. -/
theorem correr_conservado {pasos : List Paso} {k : Estado}
    (ha : Along (Paso.hacer metadata) Admitido pasos (inicial config socUmv))
    (hr : run (Paso.hacer metadata) pasos (inicial config socUmv) = some k) : Conservado k := by
  obtain ⟨v, h, hb, -⟩ := correr_refleja (I := fun _ => True) (fun _ _ => id)
    (fun _ _ _ _ _ _ _ _ => trivial) trivial ha hr
  exact h.conservado hb

/-- A step that takes no place of multiprogramming back from a process that had none, and gives
none to nobody: no program whose process is new is disconnected, and when a new process is to be
admitted, one of them weighs no more than 1000000. -/
def GuardaGrado (k : Estado) (p : Paso) : Prop :=
  Admitido k p ∧
    match p with
    | .progCerrado soc => ∀ x, some x ∈ k.colas .new → x.nSocket ≠ soc
    | .newReady => ∃ x, some x ∈ k.colas .new ∧ x.peso ≤ 1000000
    | _ => True

/-- A step as before that does not disconnect a program whose process is ready, either. -/
def GuardaCuenta (k : Estado) (p : Paso) : Prop :=
  GuardaGrado k p ∧
    match p with
    | .progCerrado soc => ∀ x, some x ∈ k.colas .ready → x.nSocket ≠ soc
    | _ => True

lemma GuardaGrado.posible {k : Estado} {p : Paso} {r : Rotulo} (hg : GuardaGrado k p)
    (hr : Posible k p r) : r ≠ .nadie ∧ r ≠ .desconecta .new := by
  obtain ⟨-, hg⟩ := hg
  constructor
  · rintro rfl
    cases p with
    | newReady =>
      obtain ⟨x, hx, hle⟩ := hg
      have := hr x hx
      omega
    | _ => exact hr
  · rintro rfl
    cases p with
    | progCerrado soc =>
      obtain ⟨x, hx, hs⟩ := hr
      exact hg x hx hs
    | _ => exact hr

lemma GuardaCuenta.posible {k : Estado} {p : Paso} {r : Rotulo} (hg : GuardaCuenta k p)
    (hr : Posible k p r) : r ≠ .desconecta .ready := by
  rintro rfl
  cases p with
  | progCerrado soc =>
    obtain ⟨x, hx, hs⟩ := hr
    exact hg.2 x hx hs
  | _ => exact hr

lemma Mueve.cuenta {P : Rotulo → Prop} {v v' : Vista} (hm : Mueve P v v') (hb : v.Bien)
    (hP : ∀ r, P r → r ≠ .nadie ∧ r ≠ .desconecta .new ∧ r ≠ .desconecta .ready) (h : v.Cuenta) :
    v'.Cuenta := by
  induction hm with
  | refl => exact h
  | tail hm ht ih =>
    obtain ⟨r, hr, ht⟩ := ht
    obtain ⟨h₁, h₂, h₃⟩ := hP r hr
    exact ht.cuenta (Mueve.bien hm hb) h₁ h₂ h₃ ih

lemma Mueve.grado {P : Rotulo → Prop} {v v' : Vista} {m : ℕ} (hm : Mueve P v v')
    (hP : ∀ r, P r → r ≠ .nadie ∧ r ≠ .desconecta .new) (h : v.Grado m) : v'.Grado m := by
  induction hm with
  | refl => exact h
  | tail _ ht ih =>
    obtain ⟨r, hr, ht⟩ := ht
    exact ht.grado (hP r hr).1 (hP r hr).2 ih

/-- **The semaphores count the queues** in every run that disconnects no program whose process is
new or ready and that never has only processes heavier than 1000000 to admit. -/
theorem correr_contado {pasos : List Paso} {k : Estado}
    (ha : Along (Paso.hacer metadata) GuardaCuenta pasos (inicial config socUmv))
    (hr : run (Paso.hacer metadata) pasos (inicial config socUmv) = some k) : Contado k := by
  obtain ⟨v, h, -, hc⟩ := correr_refleja (I := Vista.Cuenta) (fun _ _ h => h.1.1)
    (fun _ _ _ _ hg hb hm => hm.cuenta hb fun r hr =>
      ⟨(hg.1.posible hr).1, (hg.1.posible hr).2, hg.posible hr⟩)
    (Vista.inicial_cuenta _) ha hr
  exact h.contado hc

/-- **The degree of multiprogramming** is never exceeded in a run that disconnects no program whose
process is new and that never has only processes heavier than 1000000 to admit. -/
theorem correr_grado {pasos : List Paso} {k : Estado}
    (ha : Along (Paso.hacer metadata) GuardaGrado pasos (inicial config socUmv))
    (hr : run (Paso.hacer metadata) pasos (inicial config socUmv) = some k) :
    k.sem .cantMultiprog + (k.colas .ready).length + (k.colas .exec).length +
        (k.colas .block).length = config.multiprogramacion ∧
      (k.colas .ready).length + (k.colas .exec).length + (k.colas .block).length ≤
        config.multiprogramacion := by
  obtain ⟨v, h, -, hg⟩ := correr_refleja (I := Vista.Grado config.multiprogramacion)
    (fun _ _ h => h.1) (fun _ _ _ _ hg _ hm => hm.grado fun r hr => hg.posible hr)
    (Vista.inicial_grado _) ha hr
  rw [h.sem, h.length, h.length, h.length]
  unfold Vista.Grado at hg
  omega

/-! ### Two runs -/

/-- A parser that finds one instruction in every script. -/
def unaInstruccion : List Byte → MetadataProgram :=
  fun _ => ⟨0, 1, [0, 0, 0, 0, 3, 0, 0, 0], [], 0, 0, rfl⟩

/-- One place of multiprogramming, the semaphore `b`, the device `H` and the variable `c`. -/
def unLugar : Config := ⟨1, 2, 64, [([98], 1)], [([72], 500)], [[99]]⟩

/-- The answers of the UMV to the requests made for a script. -/
def respuestasUmv : List Mensaje :=
  [.comun (crearMenComun TipoDatos.respMemSegCod (cString (stringItoa 100))),
    .comun (crearMenComun TipoDatos.respMemIndEti (cString (stringItoa 200))),
    .comun (crearMenComun TipoDatos.respMemIndCod (cString (stringItoa 300))),
    .comun (crearMenComun TipoDatos.respMemSegStack (cString (stringItoa 400))),
    .comun (crearMenComun TipoDatos.menAlmOk []), .comun (crearMenComun TipoDatos.menAlmOk []),
    .comun (crearMenComun TipoDatos.menAlmOk [])]

/-- The script of the connection 7. -/
def llegada : Paso := .newScript 0 7 (crearMenComun TipoDatos.codigoScript [97, 0]) respuestasUmv

/-- A process from its arrival to its execution on the CPU of the socket 5. -/
def vidaHastaExec : List Paso := [.newCpu 5, llegada, .newReady, .readyExec]

/-- A program that leaves while its process is new. -/
def salidaEnNew : List Paso := [llegada, .progCerrado 7]

lemma vidaHastaExec_guarda :
    Along (Paso.hacer unaInstruccion) GuardaCuenta vidaHastaExec (inicial unLugar 4) := by
  refine .cons rfl ⟨⟨?_, trivial⟩, trivial⟩ (.cons rfl ⟨⟨⟨by decide, ?_⟩, trivial⟩, trivial⟩
    (.cons rfl ⟨⟨trivial, ?_⟩, trivial⟩ (.cons rfl ⟨⟨trivial, trivial⟩, trivial⟩ trivial)))
  · exact fun cpu hcpu => absurd hcpu (List.not_mem_nil)
  · exact fun c x hx => absurd hx (List.not_mem_nil)
  · exact ⟨_, List.mem_cons_self, by decide⟩

theorem vidaHastaExec_conservado :
    ∃ k, run (Paso.hacer unaInstruccion) vidaHastaExec (inicial unLugar 4) = some k ∧
      k.ids .exec = [1] ∧ Conservado k :=
  ⟨_, rfl, rfl, correr_conservado (vidaHastaExec_guarda.mono fun _ _ h => h.1.1) rfl⟩

theorem vidaHastaExec_contado :
    ∃ k, run (Paso.hacer unaInstruccion) vidaHastaExec (inicial unLugar 4) = some k ∧
      k.sem .cantCpuLibres = 0 ∧ Contado k :=
  ⟨_, rfl, rfl, correr_contado vidaHastaExec_guarda rfl⟩

theorem vidaHastaExec_grado :
    ∃ k, run (Paso.hacer unaInstruccion) vidaHastaExec (inicial unLugar 4) = some k ∧
      (k.sem .cantMultiprog + (k.colas .ready).length + (k.colas .exec).length +
          (k.colas .block).length = 1 ∧
        (k.colas .ready).length + (k.colas .exec).length + (k.colas .block).length ≤ 1) :=
  ⟨_, rfl, correr_grado (vidaHastaExec_guarda.mono fun _ _ h => h.1) rfl⟩

lemma salidaEnNew_admitido :
    Along (Paso.hacer unaInstruccion) Admitido salidaEnNew (inicial unLugar 4) :=
  .cons rfl ⟨by decide, fun _ _ hx => absurd hx List.not_mem_nil⟩
    (.cons rfl (by decide : (3 : ℤ) ≤ 7) trivial)

/-- The semaphore of the new processes is left at one, and there is none. -/
theorem salidaEnNew_no_contado :
    Along (Paso.hacer unaInstruccion) Admitido salidaEnNew (inicial unLugar 4) ∧
      ∃ k, run (Paso.hacer unaInstruccion) salidaEnNew (inicial unLugar 4) = some k ∧
        k.sem .cantNew = 1 ∧ k.colas .new = [] ∧ ¬ Contado k := by
  refine ⟨salidaEnNew_admitido, _, rfl, rfl, rfl, fun h => ?_⟩
  have hn : (1 : ℕ) = 0 := h.new
  exact absurd hn (by decide)

/-- There are two places left of the one there is. -/
theorem salidaEnNew_no_grado :
    Along (Paso.hacer unaInstruccion) Admitido salidaEnNew (inicial unLugar 4) ∧
      ∃ k, run (Paso.hacer unaInstruccion) salidaEnNew (inicial unLugar 4) = some k ∧
        k.sem .cantMultiprog = 2 ∧ unLugar.multiprogramacion = 1 :=
  ⟨salidaEnNew_admitido, _, rfl, rfl, rfl⟩

end Ansisop.Kernel
