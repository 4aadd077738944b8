import Ansisop.Kernel.Waiting

/-!
The kernel keeps the records of the waiting processes by the moves of `Movimiento`: one lemma a
handler says which moves it makes, and every step of a run keeps the law of the records.
-/

namespace Ansisop.Kernel

open Ansisop.Sockets Ansisop.Lib Hilo

/-! ### The records of the kernel -/

namespace Estado

/-- The ids recorded in a place. -/
def fila (k : Estado) : Lugar → List ℤ
  | .sem clave => (k.diccSem clave).elim [] Semaforo.procesos
  | .io disp => (k.diccDispIo disp).elim [] fun io => io.procesos.map IoEspera.idProg
  | .servicio disp => (k.diccDispIo disp).elim [] fun io => io.proceso.toList.map IoEspera.idProg

/-- The ids of the processes that are new, ready or in execution. -/
def activos (k : Estado) : Multiset ℤ := k.ids .new + k.ids .ready + k.ids .exec

/-- Who waits for what. -/
@[simps] def espera (k : Estado) : Espera where
  fila := k.fila
  bloqueados := k.ids .block
  activos := k.activos
  contador := k.contadorPrograma

end Estado

namespace Espera

/-- A process joins the queue `c`. -/
def pone (e : Espera) (c : Cola) (i : ℤ) : Espera :=
  match c with
  | .block => { e with bloqueados := i ::ₘ e.bloqueados }
  | .exit => e
  | _ => { e with activos := i ::ₘ e.activos }

end Espera

section Parts

variable {k k' k₁ : Estado} {c d : Cola} {x : PcbOtros} {p : PcbOtros → Bool} {soc : ℤ} {cpu : Cpu}

lemma ids_conCola (k : Estado) (c : Cola) (q : List (Option PcbOtros)) :
    (k.conCola c q).ids c = q.filterMap (Option.map fun x => x.pcb.id) := by
  simp [Estado.ids]

lemma ids_conCola_ne (hdc : d ≠ c) (q : List (Option PcbOtros)) :
    (k.conCola c q).ids d = k.ids d := by
  simp [Estado.ids, Function.update_of_ne hdc]

lemma ids_encolar (k : Estado) (c : Cola) (x : PcbOtros) :
    (k.encolar c (some x)).ids c = k.ids c ++ [x.pcb.id] := by
  rw [Estado.encolar, ids_conCola, List.filterMap_append]
  rfl

lemma ids_encolar_ne (hdc : d ≠ c) (x : Option PcbOtros) : (k.encolar c x).ids d = k.ids d :=
  ids_conCola_ne hdc _

lemma mem_ids {i : ℤ} : i ∈ k.ids c ↔ ∃ x, some x ∈ k.colas c ∧ x.pcb.id = i := by
  simp [Estado.ids]

/-- What is taken out of a queue was in it, and the others stay. -/
lemma ids_saca (hs : k.Saca c p x k') : (k.ids c).Perm (x.pcb.id :: k'.ids c) := by
  obtain ⟨pre, post, hq, -, -, rfl⟩ := hs
  have hx : Option.map (fun x : PcbOtros => x.pcb.id) (some x) = some x.pcb.id := rfl
  rw [ids_conCola, Estado.ids, hq, List.filterMap_append, List.filterMap_cons_some hx,
    List.filterMap_append]
  exact List.perm_middle.trans (List.perm_append_comm.cons _)

lemma ids_saca_ne (hs : k.Saca c p x k') (hdc : d ≠ c) : k'.ids d = k.ids d := by
  obtain ⟨pre, post, -, -, -, rfl⟩ := hs
  exact ids_conCola_ne hdc _

/-- One id more in the queue `c` is all that has changed. -/
lemma espera_pone {i : ℤ} (hsem : k'.diccSem = k.diccSem) (hio : k'.diccDispIo = k.diccDispIo)
    (hcont : k'.contadorPrograma = k.contadorPrograma) (hne : ∀ d ≠ c, k'.ids d = k.ids d)
    (hself : (k'.ids c : Multiset ℤ) = i ::ₘ (k.ids c : Multiset ℤ)) :
    k'.espera = k.espera.pone c i := by
  have hfila : k'.fila = k.fila := by
    funext l
    cases l <;> simp only [Estado.fila, hsem, hio]
  cases c with
  | new =>
    simp [Estado.espera, Estado.activos, Espera.pone, hfila, hcont, hself, hne]
  | ready =>
    simp [Estado.espera, Estado.activos, Espera.pone, hfila, hcont, hself, hne]
  | exec =>
    simp [Estado.espera, Estado.activos, Espera.pone, hfila, hcont, hself, hne]
    rw [← List.append_assoc, ← List.append_assoc]
    exact List.perm_middle
  | block =>
    simp [Estado.espera, Estado.activos, Espera.pone, hfila, hcont, hself, hne]
  | exit =>
    simp [Estado.espera, Estado.activos, Espera.pone, hfila, hcont, hne]

lemma espera_encolar (k : Estado) (c : Cola) (x : PcbOtros) :
    (k.encolar c (some x)).espera = k.espera.pone c x.pcb.id := by
  refine espera_pone rfl rfl rfl (fun d hd => ids_encolar_ne hd _) ?_
  rw [ids_encolar, Multiset.cons_coe, Multiset.coe_eq_coe]
  exact List.perm_append_singleton _ _

lemma espera_saca (hs : k.Saca c p x k') : k.espera = k'.espera.pone c x.pcb.id := by
  have hp := ids_saca hs
  have hne : ∀ d ≠ c, k.ids d = k'.ids d := fun d hd => (ids_saca_ne hs hd).symm
  obtain ⟨pre, post, -, -, -, rfl⟩ := hs
  exact espera_pone rfl rfl rfl hne (Multiset.coe_eq_coe.2 hp)

/-- A semaphore object that is changed in place. -/
lemma fila_conSemaforo {clave : List Byte} {sem : Semaforo} (hsem : k.diccSem clave = some sem)
    (f : Semaforo → Semaforo) :
    (k.conSemaforo clave f).fila = Function.update k.fila (.sem clave) (f sem).procesos := by
  funext l
  cases l with
  | sem clave' =>
    by_cases hc : clave' = clave
    · subst hc
      simp [Estado.fila, hsem]
    · rw [Function.update_of_ne (by simpa using hc)]
      simp [Estado.fila, Function.update_of_ne hc]
  | io disp => rfl
  | servicio disp => rfl

/-- A device object that is changed in place. -/
lemma fila_conIo {disp : List Byte} {io : Io} (hio : k.diccDispIo disp = some io) (f : Io → Io) :
    (k.conIo disp f).fila =
      Function.update (Function.update k.fila (.io disp) ((f io).procesos.map IoEspera.idProg))
        (.servicio disp) ((f io).proceso.toList.map IoEspera.idProg) := by
  funext l
  cases l with
  | sem clave => rfl
  | io disp' =>
    rw [Function.update_of_ne (by simp)]
    by_cases hd : disp' = disp
    · subst hd
      simp [Estado.fila, hio]
    · rw [Function.update_of_ne (by simpa using hd)]
      simp [Estado.fila, Function.update_of_ne hd]
  | servicio disp' =>
    by_cases hd : disp' = disp
    · subst hd
      simp [Estado.fila, hio]
    · rw [Function.update_of_ne (by simpa using hd), Function.update_of_ne (by simp)]
      simp [Estado.fila, Function.update_of_ne hd]

lemma espera_congr (hids : ∀ c, k'.ids c = k.ids c)
    (hcont : k'.contadorPrograma = k.contadorPrograma) (hfila : k'.fila = k.fila) :
    k'.espera = k.espera := by
  simp [Estado.espera, Estado.activos, hids, hcont, hfila]

/-- The value of a semaphore is none of the records. -/
@[simp] lemma espera_conValor (k : Estado) (clave : List Byte) (valor : ℤ) :
    (k.conSemaforo clave fun s => { s with valor := valor }).espera = k.espera := by
  refine espera_congr (fun _ => rfl) rfl (funext fun l => ?_)
  cases l with
  | sem clave' =>
    by_cases hc : clave' = clave
    · subst hc
      cases hsem : k.diccSem clave' <;> simp [Estado.fila, hsem]
    · simp [Estado.fila, Function.update_of_ne hc]
  | io disp => rfl
  | servicio disp => rfl

/-- Nor is the count of the requests of a device. -/
@[simp] lemma espera_conCant (k : Estado) (disp : List Byte) (n : Io → ℕ) :
    (k.conIo disp fun io => { io with contCantProc := n io }).espera = k.espera := by
  refine espera_congr (fun _ => rfl) rfl (funext fun l => ?_)
  cases l with
  | sem clave => rfl
  | io disp' =>
    by_cases hd : disp' = disp
    · subst hd
      cases hio : k.diccDispIo disp' <;> simp [Estado.fila, hio]
    · simp [Estado.fila, Function.update_of_ne hd]
  | servicio disp' =>
    by_cases hd : disp' = disp
    · subst hd
      cases hio : k.diccDispIo disp' <;> simp [Estado.fila, hio]
    · simp [Estado.fila, Function.update_of_ne hd]

end Parts

/-! ### Handlers -/

/-- The records change by moves. -/
def Sigue (deja : ℤ → Prop) (k k' : Estado) : Prop :=
  Relation.ReflTransGen (Movimiento deja) k.espera k'.espera

section Handlers

variable {deja : ℤ → Prop} {k k' k₁ : Estado} {x : PcbOtros} {cpu : Cpu} {soc : ℤ}

lemma Sigue.igual (h : k'.espera = k.espera) : Sigue deja k k' := by
  unfold Sigue
  rw [h]

lemma Sigue.sale {c : Cola} {i : ℤ} (hc : c ≠ .block) (h : k.espera = k'.espera.pone c i) :
    Sigue deja k k' := by
  unfold Sigue
  rw [h]
  cases c with
  | block => exact absurd rfl hc
  | exit => exact .refl
  | _ => exact .single (.activos _ k'.espera.activos (Multiset.le_cons_self _ _))

lemma tomaProceso_espera (ht : k.TomaProceso soc cpu x k₁) :
    cpu.idProgExec = x.pcb.id ∧ k.espera = k₁.espera.pone .exec x.pcb.id := by
  obtain ⟨k₀, ⟨-, rfl⟩, hs⟩ := ht
  have he := espera_saca hs
  obtain ⟨pre, post, -, -, hid, rfl⟩ := hs
  exact ⟨by simpa using hid, he⟩

lemma Sigue.expulsa {tipo : ℤ} (he : k.Expulsa tipo soc k') : Sigue deja k k' := by
  obtain ⟨cpu, x, k₁, ht, rfl⟩ := he
  have hk : ((k₁.encolarExit { x with tipoFinEjecucion := tipo }).volverCpu cpu).espera =
      k₁.espera := espera_encolar k₁ .exit { x with tipoFinEjecucion := tipo }
  refine Sigue.sale (c := .exec) (i := x.pcb.id) (by simp) ?_
  rw [hk]
  exact (tomaProceso_espera ht).2

/-- A process that goes from one of the queues of those that are not blocked to another. -/
lemma Sigue.pasa {e : Espera} {i : ℤ} (h : k.espera = e.pone .exec i)
    (h' : k'.espera = e.pone .ready i) : Sigue deja k k' := Sigue.igual (h'.trans h.symm)

lemma espera_encolarReady_none (k : Estado) : (k.encolarReady none).espera = k.espera := by
  refine espera_congr (fun c => ?_) rfl rfl
  by_cases hc : c = .ready
  · subst hc
    rw [Estado.encolarReady, Estado.sumar, Estado.encolar]
    simp [Estado.ids]
  · exact ids_encolar_ne hc none

lemma Sigue.buscaExec {k₀ : Estado} {r : Option PcbOtros} {id : ℤ} (h₀ : k₀.espera = k.espera)
    (h : k₀.BuscaExec id r k₁) : Sigue deja k (k₁.encolarReady r) := by
  rcases h with ⟨x, rfl, hs⟩ | ⟨rfl, -, rfl⟩
  · exact Sigue.pasa (h₀ ▸ espera_saca hs) (espera_encolar k₁ .ready x)
  · exact Sigue.igual ((espera_encolarReady_none _).trans h₀)

lemma Sigue.finQuantum {men : MenComun} {io io' : Bandeja} {u : Unit}
    (hr : correr (finQuantum soc men) k io = some ((u, k'), io')) : Sigue deja k k' := by
  rcases finQuantum_some hr with ⟨-, cpu, k₁, r, k₂, ⟨-, rfl⟩, hb, rfl⟩ | ⟨-, cpu, x, m, k₁, ht, -, rfl⟩
  · refine Sigue.buscaExec ?_ hb
    rfl
  · exact Sigue.pasa (tomaProceso_espera ht).2 (espera_encolar k₁ .ready _)

lemma Sigue.conecCerradaCpu {io io' : Bandeja} {u : Unit}
    (hr : correr (conecCerradaCpu soc) k io = some ((u, k'), io')) : Sigue deja k k' := by
  obtain ⟨cpu, k₁, ⟨-, rfl⟩, ⟨-, r, k₂, hb, rfl⟩ | ⟨-, -, rfl⟩⟩ := conecCerradaCpu_some hr
  · refine Sigue.buscaExec ?_ hb
    rfl
  · exact Sigue.igual rfl

/-- What the start of `actualizar_pcb_y_bloq` leaves of the records. -/
lemma bloquea_espera {m : MenQuantumPcb} {cierre : MenComun} (hb : k.Bloquea soc cpu x m cierre k') :
    cpu.idProgExec = x.pcb.id ∧ k'.diccSem = k.diccSem ∧ k'.diccDispIo = k.diccDispIo ∧
      ∃ e : Espera, k.espera = e.pone .exec x.pcb.id ∧ k'.espera = e.pone .block x.pcb.id := by
  obtain ⟨k₁, ht, rfl⟩ := hb
  obtain ⟨hid, he⟩ := tomaProceso_espera ht
  obtain ⟨k₀, ⟨-, rfl⟩, pre, post, -, -, -, rfl⟩ := ht
  refine ⟨hid, ?_, ?_, _, he, ?_⟩
  · split <;> rfl
  · split <;> rfl
  · rw [espera_encolar]
    split <;> rfl

/-- A process in execution is blocked, and recorded in the place `l`. -/
lemma Movimiento.bloquear (e : Espera) (l : Lugar) (i : ℤ) : Movimiento deja (e.pone .exec i)
    { e.pone .block i with fila := Function.update e.fila l (e.fila l ++ [i]) } := by
  have hm : Movimiento deja (e.pone .exec i) _ :=
    Movimiento.bloquea (e.pone .exec i) l i (Multiset.mem_cons_self _ _)
  have ha : (e.pone .exec i).activos.erase i = e.activos := Multiset.erase_cons_head _ _
  rw [ha] at hm
  exact hm

lemma Sigue.wait {men : MenComun} {io io' : Bandeja} {u : Unit}
    (hr : correr (wait soc men) k io = some ((u, k'), io')) : Sigue deja k k' := by
  obtain ⟨clave, -, ⟨-, he⟩ | ⟨sem, hsem, ⟨-, rfl⟩ | ⟨-, cpu, x, m, cierre, k₁, hb, -, rfl⟩⟩⟩ :=
    wait_some hr
  · exact Sigue.expulsa he
  · exact Sigue.igual (espera_conValor _ _ _)
  · obtain ⟨-, hds, -, e, he, he₁⟩ := bloquea_espera hb
    rw [espera_conValor] at he
    have hsem₁ : k₁.diccSem clave = some { sem with valor := sem.valor - 1 } := by
      simp [hds, hsem]
    have hfila : k₁.fila = e.fila := congrArg Espera.fila he₁
    have hfila' : e.fila (.sem clave) = sem.procesos := by
      rw [← show k.fila = e.fila from congrArg Espera.fila he]
      simp [Estado.fila, hsem]
    have hk' : (k₁.conSemaforo clave fun s => { s with procesos := s.procesos ++ [x.pcb.id] }).espera =
        { e.pone .block x.pcb.id with
          fila := Function.update e.fila (.sem clave) (e.fila (.sem clave) ++ [x.pcb.id]) } := by
      rw [← he₁, hfila', ← hfila]
      show Espera.mk _ _ _ _ = Espera.mk _ _ _ _
      rw [fila_conSemaforo hsem₁]
      rfl
    unfold Sigue
    rw [he, hk']
    exact .single (.bloquear e _ _)

lemma Sigue.enviarIo {men : MenComun} {io io' : Bandeja} {u : Unit}
    (hr : correr (enviarIo soc men) k io = some ((u, k'), io')) : Sigue deja k k' := by
  obtain ⟨disp, unidades, dato, cpu, x, m, cierre, k₁, -, hdisp, -, hb, -, rfl⟩ := enviarIo_some hr
  obtain ⟨d, hd⟩ := Option.isSome_iff_exists.1 hdisp
  obtain ⟨hid, -, -, e, he, he₁⟩ := bloquea_espera hb
  rw [hid] at he
  have hfila := fila_conIo hd fun d =>
    { d with procesos := d.procesos ++ [⟨x.pcb.id, atoi unidades⟩] }
  have hserv : Function.update (Function.update k.fila (.io disp)
      (k.fila (.io disp) ++ [x.pcb.id])) (.servicio disp) (d.proceso.toList.map IoEspera.idProg) =
      Function.update k.fila (.io disp) (k.fila (.io disp) ++ [x.pcb.id]) := by
    rw [Function.update_eq_self_iff, Function.update_of_ne (by simp)]
    simp [Estado.fila, hd]
  have hio : (d.procesos ++ [(⟨x.pcb.id, atoi unidades⟩ : IoEspera)]).map IoEspera.idProg =
      k.fila (.io disp) ++ [x.pcb.id] := by
    simp [Estado.fila, hd]
  simp only [hio] at hfila
  rw [hserv] at hfila
  have hef : e.fila = Function.update k.fila (.io disp) (k.fila (.io disp) ++ [x.pcb.id]) :=
    (congrArg Espera.fila he).symm.trans hfila
  have hk : k.espera = { e with fila := k.fila }.pone .exec x.pcb.id := by
    have ha := congrArg Espera.activos he
    have hbq := congrArg Espera.bloqueados he
    have hc := congrArg Espera.contador he
    show Espera.mk _ _ _ _ = Espera.mk _ _ _ _
    exact congr (congr (congr rfl hbq) ha) hc
  have hk' : (k₁.conIo disp fun d => { d with contCantProc := d.contCantProc + 1 }).espera =
      { ({ e with fila := k.fila } : Espera).pone .block x.pcb.id with
        fila := Function.update k.fila (.io disp) (k.fila (.io disp) ++ [x.pcb.id]) } := by
    rw [espera_conCant k₁ disp fun d => d.contCantProc + 1, he₁, ← hef]
    rfl
  unfold Sigue
  rw [hk, hk']
  exact .single (.bloquear { e with fila := k.fila } _ _)

/-- `pasar_pcbBlock_ready`, in the records. -/
lemma despierta_espera {i : ℤ} (hr : (∃ x k₁, k.Saca .block (fun x => x.pcb.id == i) x k₁ ∧
      k' = k₁.encolarReady (some x)) ∨ (k.NoHay .block (fun x => x.pcb.id == i) ∧ k' = k)) :
    (i ∈ k.espera.bloqueados ∧ k'.espera = { k.espera with
        bloqueados := k.espera.bloqueados.erase i
        activos := i ::ₘ k.espera.activos }) ∨
      (i ∉ k.espera.bloqueados ∧ k' = k) := by
  rcases hr with ⟨x, k₁, hs, rfl⟩ | ⟨hn, rfl⟩
  · have he := espera_saca hs
    obtain ⟨pre, post, -, -, hid, -⟩ := hs
    obtain rfl : x.pcb.id = i := by simpa using hid
    have hk' : (k₁.encolarReady (some x)).espera = k₁.espera.pone .ready x.pcb.id :=
      espera_encolar k₁ .ready x
    left
    rw [hk', he]
    exact ⟨by simp [Espera.pone], by simp [Espera.pone]⟩
  · refine .inr ⟨fun hm => ?_, rfl⟩
    obtain ⟨x, hx, hid⟩ := mem_ids.1 (Multiset.mem_coe.1 hm)
    obtain ⟨z, hz, hne⟩ := hn _ hx
    obtain rfl := Option.some.inj hz
    simp [hid] at hne

lemma Sigue.signal {men : MenComun} {io io' : Bandeja} {u : Unit}
    (hr : correr (signal soc men) k io = some ((u, k'), io')) : Sigue deja k k' := by
  obtain ⟨clave, -, ⟨-, he⟩ | ⟨sem, hsem, ⟨-, rfl⟩ | ⟨i, r, k₁, hq, rfl, hd⟩⟩⟩ := signal_some hr
  · exact Sigue.expulsa he
  · exact Sigue.igual (espera_conValor _ _ _)
  · have hl : k.espera.fila (.sem clave) = i :: r := by simp [Estado.fila, hsem, hq]
    have hsem₁ : (k.conSemaforo clave fun s => { s with valor := sem.valor + 1 }).diccSem clave =
        some { sem with valor := sem.valor + 1 } := by
      simp [hsem]
    have hk₁ : ((k.conSemaforo clave fun s => { s with valor := sem.valor + 1 }).conSemaforo clave
        fun s => { s with procesos := r }).espera =
        { k.espera with fila := Function.update k.espera.fila (.sem clave) r } := by
      rw [← espera_conValor k clave (sem.valor + 1)]
      show Espera.mk _ _ _ _ = Espera.mk _ _ _ _
      rw [fila_conSemaforo hsem₁]
      rfl
    unfold Sigue
    rcases despierta_espera hd with ⟨hi, hk'⟩ | ⟨hi, rfl⟩
    · rw [hk₁] at hi hk'
      rw [hk']
      exact .single (.despierta _ _ i r hl hi)
    · rw [hk₁] at hi ⊢
      exact .single (.descarta _ _ i r hl hi)

/-- **A message of a CPU** changes the records by moves that leave nobody behind. -/
theorem Sigue.administrarMenCpus {io io' : Bandeja} {u : Unit}
    (hr : correr (administrarMenCpus soc) k io = some ((u, k'), io')) : Sigue deja k k' := by
  obtain ⟨men, io₁, t, -, -, ht, hr⟩ := administrarMenCpus_some hr
  cases ht with
  | conecCerrada => exact Sigue.conecCerradaCpu hr
  | finQuantum => exact Sigue.finQuantum hr
  | finEjecucion => exact Sigue.expulsa (finEjecucion_some hr).1
  | segmenFault => exact Sigue.expulsa (finEjecucion_some hr).1
  | imprimirTexto | imprimirValor => exact Sigue.igual ((imprimir_some hr).1 ▸ rfl)
  | obtenerValor =>
    obtain ⟨clave, -, ⟨-, hx⟩ | ⟨valor, -, rfl, -⟩⟩ := obtenerValorCompartida_some hr
    · exact Sigue.expulsa hx
    · exact Sigue.igual rfl
  | grabarValor =>
    obtain ⟨clave, -, ⟨-, hx⟩ | ⟨-, dato, s, -, -, rfl⟩⟩ := grabarValorCompartida_some hr
    · exact Sigue.expulsa hx
    · exact Sigue.igual rfl
  | wait => exact Sigue.wait hr
  | signal => exact Sigue.signal hr
  | ioId => exact Sigue.enviarIo hr
  | ninguno =>
    obtain ⟨-, rfl, rfl⟩ := correr_some rfl hr
    exact Sigue.igual rfl

/-! ### Manager threads and connections -/

lemma Sigue.manejadorReadyExec {io io' : Bandeja} {u : Unit}
    (hr : correr manejadorReadyExec k io = some ((u, k'), io')) : Sigue deja k k' := by
  obtain ⟨-, -, k₁, rfl, ⟨hnada, rfl⟩ | ⟨x, l, cpu, hq, -, rfl⟩⟩ := manejadorReadyExec_some hr
  · refine Sigue.igual (espera_congr (fun c => ?_) rfl rfl)
    by_cases hc : c = .ready
    · subst hc
      rw [ids_conCola, Estado.ids]
      cases hcola : k.colas .ready with
      | nil => rfl
      | cons y l =>
        obtain rfl : y = none := by simpa [hcola] using hnada
        rfl
    · exact ids_conCola_ne hc _
  · have hs : k.Saca .ready (fun _ => true) x (k.conCola .ready l) :=
      ⟨[], l, hq, by simp, rfl, by simp⟩
    have he : k.espera = (k.conCola .ready l).espera.pone .ready x.pcb.id := espera_saca hs
    exact Sigue.pasa he (espera_encolar _ .exec x)

lemma Sigue.manejadorNewReady {io io' : Bandeja} {u : Unit}
    (hr : correr manejadorNewReady k io = some ((u, k'), io')) : Sigue deja k k' := by
  obtain ⟨-, -, ⟨x, k₁, hs, rfl⟩ | ⟨-, rfl⟩⟩ := manejadorNewReady_some hr
  · have he : ((k.restar .cantNew).restar .cantMultiprog).espera = k₁.espera.pone .new x.pcb.id :=
      espera_saca hs
    exact Sigue.pasa (k := k) he (espera_encolar k₁ .ready x)
  · exact Sigue.igual rfl

lemma Sigue.manejadorExit {io io' : Bandeja} {u : Unit}
    (hr : correr manejadorExit k io = some ((u, k'), io')) : Sigue deja k k' := by
  have hexit : ∀ q, (k.conCola .exit q).espera = k.espera := by
    intro q
    simp [Estado.espera, Estado.activos, ids_conCola_ne]
    rfl
  obtain ⟨-, ⟨-, rfl⟩ | ⟨x, l, -, rfl⟩⟩ := manejadorExit_some hr
  · exact Sigue.igual (hexit _)
  · exact Sigue.igual (hexit l)

/-- The thread of a device takes a request when it has finished the one before. -/
lemma Sigue.manejadorIOTomar {disp : List Byte} {io io' : Bandeja} {u : Unit}
    (hlibre : ∀ d, k.diccDispIo disp = some d → d.proceso = none)
    (hr : correr (manejadorIOTomar disp) k io = some ((u, k'), io')) : Sigue deja k k' := by
  obtain ⟨d, p, l, n, hd, hl, -, rfl⟩ := manejadorIOTomar_some hr
  have hd₁ : (k.conIo disp fun x => { x with contCantProc := n }).diccDispIo disp =
      some { d with contCantProc := n } := by
    simp [hd]
  have hio : k.espera.fila (.io disp) = p.idProg :: l.map IoEspera.idProg := by
    simp [Estado.fila, hd, hl]
  have hserv : k.espera.fila (.servicio disp) = [] := by
    simp [Estado.fila, hd, hlibre d hd]
  have hk' : ((k.conIo disp fun x => { x with contCantProc := n }).conIo disp fun x =>
      { x with procesos := x.procesos.tail, proceso := some p }).espera =
      { k.espera with fila := Function.update (Function.update k.espera.fila (.io disp)
          (l.map IoEspera.idProg)) (.servicio disp) [p.idProg] } := by
    have hmap : l.map IoEspera.idProg = d.procesos.tail.map IoEspera.idProg := by rw [hl, List.tail_cons]
    rw [hmap, ← espera_conCant k disp fun _ => n]
    show Espera.mk _ _ _ _ = Espera.mk _ _ _ _
    rw [fila_conIo hd₁]
    rfl
  unfold Sigue
  rw [hk']
  exact .single (.toma _ disp _ _ hio hserv)

lemma Sigue.manejadorIOServir {disp : List Byte} {io io' : Bandeja} {u : Unit}
    (hr : correr (manejadorIOServir disp) k io = some ((u, k'), io')) : Sigue deja k k' := by
  obtain ⟨d, p, k₁, hd, hp, hb, rfl⟩ := manejadorIOServir_some hr
  have hserv : k.espera.fila (.servicio disp) = p.idProg :: [] := by
    simp [Estado.fila, hd, hp]
  have hio : k.fila (.io disp) = d.procesos.map IoEspera.idProg := by
    simp [Estado.fila, hd]
  have hd₁ : k₁.diccDispIo disp = some d := by
    rcases hb with ⟨x, k₂, ⟨pre, post, -, -, -, rfl⟩, rfl⟩ | ⟨-, rfl⟩ <;> exact hd
  have hvacia : ∀ e : Espera, k₁.espera = e → e.fila = k.fila →
      (k₁.conIo disp fun x => { x with proceso := none }).espera =
        { e with fila := Function.update e.fila (.servicio disp) [] } := by
    rintro e rfl he
    have hself : Function.update k₁.fila (.io disp) (d.procesos.map IoEspera.idProg) = k₁.fila := by
      rw [Function.update_eq_self_iff, ← hio, show k₁.fila = k.fila from he]
    show Espera.mk _ _ _ _ = Espera.mk _ _ _ _
    rw [fila_conIo hd₁]
    simp only [hself]
    rfl
  unfold Sigue
  rcases despierta_espera hb with ⟨hi, hk₁⟩ | ⟨hi, rfl⟩
  · rw [hvacia _ hk₁ rfl]
    exact .single (.despierta _ _ _ [] hserv hi)
  · rw [hvacia _ rfl rfl]
    exact .single (.descarta _ _ _ [] hserv hi)

lemma Sigue.administrarNewScript {metadata : List Byte → MetadataProgram} {basura : ℤ}
    {men : MenComun} {io io' : Bandeja} {u : Unit}
    (hr : correr (administrarNewScript metadata basura soc men) k io = some ((u, k'), io')) :
    Sigue deja k k' := by
  unfold Sigue
  rcases administrarNewScript_some hr with rfl | ⟨pcb, peso, hid, rfl⟩
  · exact .single (.contar k.espera)
  · have he : ((((k.conContador (k.contadorPrograma + 1)).conVivos (pcb.id :: k.vivos)).encolar .new
        (some ⟨pcb, soc, peso, -1⟩)).sumar .cantNew).espera =
        ({ k.espera with contador := k.contadorPrograma + 1 } : Espera).pone .new pcb.id :=
      espera_encolar ((k.conContador (k.contadorPrograma + 1)).conVivos (pcb.id :: k.vivos)) .new
        ⟨pcb, soc, peso, -1⟩
    rw [he, hid]
    exact .single (.nace k.espera)

/-- The search for a disconnected program in one queue. -/
lemma Sigue.desconecta {c : Cola} (hd : k.Desconecta c soc k')
    (hdeja : c = .block → ∀ x, some x ∈ k.colas .block → x.nSocket = soc → deja x.pcb.id) :
    Sigue deja k k' := by
  rcases hd with ⟨x, k₁, hs, rfl⟩ | ⟨-, rfl⟩
  · have he := espera_saca hs
    have hexit : (k₁.encolarExit x).espera = k₁.espera := espera_encolar k₁ .exit x
    by_cases hc : c = .block
    · subst hc
      obtain ⟨pre, post, hq, -, hsoc, -⟩ := hs
      have hx := hdeja rfl x (by rw [hq]; simp) (by simpa using hsoc)
      have hm := Movimiento.abandona k.espera x.pcb.id hx
      have hk' : ({ k.espera with bloqueados := k.espera.bloqueados.erase x.pcb.id } : Espera) =
          (k₁.encolarExit x).espera := by
        rw [hexit, he]
        simp [Espera.pone]
        rfl
      rw [hk'] at hm
      exact .single hm
    · exact Sigue.sale hc (hexit.symm ▸ he)
  · exact Sigue.igual rfl

/-- The blocked process that a step takes out of `cola_block` without waking it. -/
def Abandona (k : Estado) (p : Paso) (i : ℤ) : Prop :=
  ∃ soc, p = .progCerrado soc ∧ ∃ x, some x ∈ k.colas .block ∧ x.nSocket = soc ∧ x.pcb.id = i

lemma Sigue.administrarProgCerrado {io io' : Bandeja} {u : Unit}
    (hr : correr (administrarProgCerrado soc) k io = some ((u, k'), io')) :
    Sigue (Abandona k (.progCerrado soc)) k k' := by
  obtain ⟨k₁, k₂, k₃, k₄, hd₁, hd₂, hd₃, hd₄, hcpu⟩ := administrarProgCerrado_some hr
  have e₁ : k₁.colas .block = k.colas .block := desconecta_colas hd₁ (by simp) (by simp)
  have e₂ : k₂.colas .block = k₁.colas .block := desconecta_colas hd₂ (by simp) (by simp)
  have h₀ : Sigue (Abandona k (.progCerrado soc)) k (k.conSocProgs (k.conjSocProgs.erase soc)) :=
    Sigue.igual rfl
  have h₁ := h₀.trans (Sigue.desconecta hd₁ (by simp))
  have h₂ : Sigue (Abandona k (.progCerrado soc)) k₁ k₂ := Sigue.desconecta hd₂ (by simp)
  have h₃ : Sigue (Abandona k (.progCerrado soc)) k₂ k₃ :=
    Sigue.desconecta hd₃ fun _ x hx hs => ⟨soc, rfl, x, e₁ ▸ e₂ ▸ hx, hs, rfl⟩
  have h₄ : Sigue (Abandona k (.progCerrado soc)) k₃ k₄ := Sigue.desconecta hd₄ (by simp)
  have h₅ : Sigue (Abandona k (.progCerrado soc)) k₄ k' := by
    rcases hcpu with ⟨cpu, -, rfl⟩ | ⟨-, rfl⟩ <;> exact Sigue.igual rfl
  exact (((h₁.trans h₂).trans h₃).trans h₄).trans h₅

end Handlers

/-! ### No `NULL` among the blocked -/

/-- No `NULL` comes into `cola_block`. -/
def Llena (k k' : Estado) : Prop := none ∉ k.colas .block → none ∉ k'.colas .block

section Llena

variable {k k' k₁ : Estado} {c : Cola} {x : PcbOtros} {p : PcbOtros → Bool} {soc : ℤ} {cpu : Cpu}

lemma Llena.igual (h : k'.colas .block = k.colas .block) : Llena k k' := fun hk => h ▸ hk

lemma Llena.trans {k₂ : Estado} (h : Llena k k₁) (h' : Llena k₁ k₂) : Llena k k₂ := fun hk => h' (h hk)

lemma Llena.saca (hs : k.Saca c p x k') : Llena k k' := by
  obtain ⟨pre, post, hq, -, -, rfl⟩ := hs
  by_cases hc : c = .block
  · subst hc
    intro hk hnull
    rw [hq] at hk
    rw [Estado.conCola_colas, Function.update_self] at hnull
    rcases List.mem_append.1 hnull with h | h
    · exact hk (List.mem_append_right _ (List.mem_cons_of_mem _ h))
    · exact hk (List.mem_append_left _ h)
  · exact .igual (by simp [Function.update_of_ne (Ne.symm hc)])

lemma Llena.encolar (k : Estado) (c : Cola) (x : PcbOtros) : Llena k (k.encolar c (some x)) := by
  by_cases hc : c = .block
  · subst hc
    intro hk
    simpa [Estado.encolar] using hk
  · exact .igual (by simp [Estado.encolar, Function.update_of_ne (Ne.symm hc)])

lemma Llena.encolarReady (k : Estado) (y : Option PcbOtros) : Llena k (k.encolarReady y) :=
  .igual (by simp [Estado.encolarReady, Estado.encolar, Estado.sumar])

lemma Llena.tomaProceso (ht : k.TomaProceso soc cpu x k') : Llena k k' := by
  obtain ⟨k₁, ⟨-, rfl⟩, hs⟩ := ht
  exact (Llena.saca hs :)

lemma Llena.expulsa {tipo : ℤ} (he : k.Expulsa tipo soc k') : Llena k k' := by
  obtain ⟨cpu, x, k₁, ht, rfl⟩ := he
  exact (Llena.tomaProceso ht).trans (.encolar k₁ .exit { x with tipoFinEjecucion := tipo })

lemma Llena.buscaExec {id : ℤ} {r : Option PcbOtros} (hb : k.BuscaExec id r k') :
    Llena k (k'.encolarReady r) := by
  rcases hb with ⟨x, -, hs⟩ | ⟨-, -, rfl⟩
  · exact (Llena.saca hs).trans (.encolarReady k' r)
  · exact .encolarReady k' r

lemma Llena.bloquea {m : MenQuantumPcb} {cierre : MenComun} (hb : k.Bloquea soc cpu x m cierre k') :
    Llena k k' := by
  obtain ⟨k₁, ht, rfl⟩ := hb
  refine (Llena.tomaProceso ht).trans (.trans (.igual ?_) (.encolar _ .block _))
  split <;> rfl

lemma Llena.desconecta (hd : k.Desconecta c soc k') : Llena k k' := by
  rcases hd with ⟨x, k₁, hs, rfl⟩ | ⟨-, rfl⟩
  · exact (Llena.saca hs).trans (.encolar k₁ .exit x)
  · exact .igual rfl

lemma Llena.despierta (hr : (∃ x k₁, k.Saca .block p x k₁ ∧ k' = k₁.encolarReady (some x)) ∨
    (k.NoHay .block p ∧ k' = k)) : Llena k k' := by
  rcases hr with ⟨x, k₁, hs, rfl⟩ | ⟨-, rfl⟩
  · exact (Llena.saca hs).trans (.encolarReady k₁ _)
  · exact .igual rfl

lemma Llena.manejador {men : MenComun} {t : Hilo Unit} {io io' : Bandeja} {u : Unit}
    (ht : Manejador soc men t) (hr : correr t k io = some ((u, k'), io')) : Llena k k' := by
  cases ht with
  | conecCerrada =>
    obtain ⟨cpu, k₁, ⟨-, rfl⟩, ⟨-, r, k₂, hb, rfl⟩ | ⟨-, -, rfl⟩⟩ := conecCerradaCpu_some hr
    · exact (Llena.buscaExec hb :)
    · exact .igual rfl
  | finQuantum =>
    rcases finQuantum_some hr with ⟨-, cpu, k₁, r, k₂, ⟨-, rfl⟩, hb, rfl⟩ |
      ⟨-, cpu, x, m, k₁, ht, -, rfl⟩
    · exact (Llena.buscaExec hb :)
    · exact (Llena.tomaProceso ht).trans
        (.encolarReady k₁ (some { x with pcb := actualizar x.pcb m.pcb }))
  | finEjecucion => exact .expulsa (finEjecucion_some hr).1
  | segmenFault => exact .expulsa (finEjecucion_some hr).1
  | imprimirTexto | imprimirValor => exact .igual ((imprimir_some hr).1 ▸ rfl)
  | obtenerValor =>
    obtain ⟨clave, -, ⟨-, hx⟩ | ⟨valor, -, rfl, -⟩⟩ := obtenerValorCompartida_some hr
    · exact .expulsa hx
    · exact .igual rfl
  | grabarValor =>
    obtain ⟨clave, -, ⟨-, hx⟩ | ⟨-, dato, s, -, -, rfl⟩⟩ := grabarValorCompartida_some hr
    · exact .expulsa hx
    · exact .igual rfl
  | wait =>
    obtain ⟨clave, -, ⟨-, he⟩ | ⟨sem, -, ⟨-, rfl⟩ | ⟨-, cpu, x, m, cierre, k₁, hb, -, rfl⟩⟩⟩ :=
      wait_some hr
    · exact .expulsa he
    · exact .igual rfl
    · exact (Llena.bloquea hb :)
  | signal =>
    obtain ⟨clave, -, ⟨-, he⟩ | ⟨sem, -, ⟨-, rfl⟩ | ⟨i, r, k₁, -, rfl, hd⟩⟩⟩ := signal_some hr
    · exact .expulsa he
    · exact .igual rfl
    · exact (Llena.despierta hd :)
  | ioId =>
    obtain ⟨disp, unidades, dato, cpu, x, m, cierre, k₁, -, -, -, hb, -, rfl⟩ := enviarIo_some hr
    exact (Llena.bloquea hb :)
  | ninguno =>
    obtain ⟨-, rfl, rfl⟩ := correr_some rfl hr
    exact .igual rfl

/-- **No step puts `NULL` in `cola_block`.** -/
theorem Llena.hacer {metadata : List Byte → MetadataProgram} {q : Paso}
    (hp : q.hacer metadata k = some k') : Llena k k' := by
  obtain ⟨⟨⟨u, _⟩, io'⟩, hr, rfl⟩ := Option.map_eq_some_iff.1 hp
  cases q with
  | progCerrado soc =>
    obtain ⟨k₁, k₂, k₃, k₄, h₁, h₂, h₃, h₄, hcpu⟩ := administrarProgCerrado_some hr
    have h : Llena k k₄ := (Llena.desconecta h₁ :).trans
      ((Llena.desconecta h₂).trans ((Llena.desconecta h₃).trans (.desconecta h₄)))
    rcases hcpu with ⟨cpu, -, rfl⟩ | ⟨-, rfl⟩ <;> exact h
  | newScript basura soc men entrada =>
    rcases administrarNewScript_some hr with rfl | ⟨pcb, peso, -, rfl⟩
    · exact .igual rfl
    · exact (Llena.encolar ((k.conContador (k.contadorPrograma + 1)).conVivos (pcb.id :: k.vivos))
        .new ⟨pcb, soc, peso, -1⟩ :)
  | newCpu soc =>
    obtain ⟨-, rfl, rfl⟩ := correr_some rfl hr
    exact .igual rfl
  | menCpu soc entrada =>
    obtain ⟨men, io₁, t, -, -, ht, hr⟩ := administrarMenCpus_some hr
    exact .manejador ht hr
  | newReady =>
    obtain ⟨-, -, ⟨x, k₁, hs, rfl⟩ | ⟨-, rfl⟩⟩ := manejadorNewReady_some hr
    · exact (Llena.saca hs :).trans (.encolarReady k₁ _)
    · exact .igual rfl
  | readyExec =>
    obtain ⟨-, -, k₁, rfl, ⟨-, rfl⟩ | ⟨x, l, cpu, -, -, rfl⟩⟩ := manejadorReadyExec_some hr
    · exact .igual (by simp [Estado.restar])
    · exact .igual (by simp [Estado.encolar, Estado.agregarCpu, Estado.restar])
  | exit entrada =>
    obtain ⟨-, ⟨-, rfl⟩ | ⟨x, l, -, rfl⟩⟩ := manejadorExit_some hr <;>
      exact .igual (by simp [Estado.restar])
  | ioTomar disp =>
    obtain ⟨x, q, l, n, -, -, -, rfl⟩ := manejadorIOTomar_some hr
    exact .igual rfl
  | ioServir disp =>
    obtain ⟨x, q, k₁, -, -, hd, rfl⟩ := manejadorIOServir_some hr
    exact (Llena.despierta hd :)

end Llena

/-! ### Runs -/

/-- What the thread of a device does by itself: it takes a request when it serves none. -/
def Ordenado (k : Estado) : Paso → Prop
  | .ioTomar disp => ∀ d, k.diccDispIo disp = some d → d.proceso = none
  | _ => True

section Runs

variable {metadata : List Byte → MetadataProgram} {config : Config} {socUmv : ℤ}
  {k k' : Estado} {p : Paso} {pasos : List Paso}

/-- **Every step of the kernel changes the records by moves.** -/
theorem Sigue.hacer (ho : Ordenado k p) (hp : p.hacer metadata k = some k') :
    Sigue (Abandona k p) k k' := by
  obtain ⟨⟨⟨u, _⟩, io'⟩, hr, rfl⟩ := Option.map_eq_some_iff.1 hp
  cases p with
  | progCerrado soc => exact Sigue.administrarProgCerrado hr
  | newScript basura soc men entrada => exact Sigue.administrarNewScript hr
  | newCpu soc =>
    obtain ⟨-, rfl, rfl⟩ := correr_some rfl hr
    exact Sigue.igual rfl
  | menCpu soc entrada => exact Sigue.administrarMenCpus hr
  | newReady => exact Sigue.manejadorNewReady hr
  | readyExec => exact Sigue.manejadorReadyExec hr
  | exit entrada => exact Sigue.manejadorExit hr
  | ioTomar disp => exact Sigue.manejadorIOTomar ho hr
  | ioServir disp => exact Sigue.manejadorIOServir hr

lemma Sigue.ley {deja : ℤ → Prop} (hs : Sigue deja k k') (h : k.espera.Ley) : k'.espera.Ley := by
  unfold Sigue at hs
  generalize k'.espera = e' at hs ⊢
  induction hs with
  | refl => exact h
  | tail _ hm ih => exact hm.ley ih

lemma Sigue.bloqueado {deja : ℤ → Prop} (hs : Sigue deja k k') (h : k.espera.Ley)
    (hb : ∀ clave, ∀ i ∈ k.espera.fila (.sem clave), i ∈ k.espera.bloqueados ∨ deja i) :
    ∀ clave, ∀ i ∈ k'.espera.fila (.sem clave), i ∈ k'.espera.bloqueados ∨ deja i := by
  have hboth : k'.espera.Ley ∧
      ∀ clave, ∀ i ∈ k'.espera.fila (.sem clave), i ∈ k'.espera.bloqueados ∨ deja i := by
    unfold Sigue at hs
    generalize k'.espera = e' at hs ⊢
    induction hs with
    | refl => exact ⟨h, hb⟩
    | tail _ hm ih => exact ⟨hm.ley ih.1, hm.bloqueado ih.1 ih.2⟩
  exact hboth.2

lemma dictionaryPut_some {β : Type} {l : List (List Byte × β)} {clave : List Byte} {b : β}
    (h : dictionaryPut l clave = some b) : ∃ c, (c, b) ∈ l := by
  induction l using List.reverseRecOn with
  | nil => exact absurd h (by simp [dictionaryPut])
  | append_singleton l e ih =>
    have hput : dictionaryPut (l ++ [e]) = Function.update (dictionaryPut l) e.1 (some e.2) := by
      simp [dictionaryPut]
    rw [hput, Function.update_apply] at h
    split at h
    · exact ⟨e.1, by simp [← Option.some.inj h]⟩
    · obtain ⟨c, hc⟩ := ih h
      exact ⟨c, List.mem_append_left _ hc⟩

/-- Nobody waits at the start. -/
lemma fila_inicial (config : Config) (socUmv : ℤ) (l : Lugar) :
    (inicial config socUmv).fila l = [] := by
  cases l with
  | sem clave =>
    cases hs : (inicial config socUmv).diccSem clave with
    | none => simp [Estado.fila, hs]
    | some sem =>
      obtain ⟨c, hc⟩ := dictionaryPut_some hs
      obtain ⟨e, -, he⟩ := List.mem_map.1 hc
      obtain rfl : _ = sem := congrArg Prod.snd he
      simp [Estado.fila, hs]
  | io disp =>
    cases hd : (inicial config socUmv).diccDispIo disp with
    | none => simp [Estado.fila, hd]
    | some d =>
      obtain ⟨c, hc⟩ := dictionaryPut_some hd
      obtain ⟨e, -, he⟩ := List.mem_map.1 hc
      obtain rfl : _ = d := congrArg Prod.snd he
      simp [Estado.fila, hd]
  | servicio disp =>
    cases hd : (inicial config socUmv).diccDispIo disp with
    | none => simp [Estado.fila, hd]
    | some d =>
      obtain ⟨c, hc⟩ := dictionaryPut_some hd
      obtain ⟨e, -, he⟩ := List.mem_map.1 hc
      obtain rfl : _ = d := congrArg Prod.snd he
      simp [Estado.fila, hd]

lemma ley_inicial : (inicial config socUmv).espera.Ley where
  apart := by
    constructor
    · intro l
      rw [Estado.espera_fila, fila_inicial]
      exact List.nodup_nil
    · intro a l l' ha
      rw [Estado.espera_fila, fila_inicial] at ha
      exact absurd ha List.not_mem_nil
  registrado i hi := absurd hi (Multiset.notMem_zero i)
  libre i hi := absurd hi (Multiset.notMem_zero i)
  nodup := Multiset.nodup_zero
  rango l i hi := by
    rw [Estado.espera_fila, fila_inicial] at hi
    exact absurd hi List.not_mem_nil
  rango_activos i hi := absurd hi (Multiset.notMem_zero i)

/-- **The law of the records holds in every run.** -/
theorem run_ley (ha : Along (Paso.hacer metadata) Ordenado pasos (inicial config socUmv))
    (hr : run (Paso.hacer metadata) pasos (inicial config socUmv) = some k) : k.espera.Ley :=
  run_invariant (I := fun k => k.espera.Ley) (fun _ _ _ h ho hp => (Sigue.hacer ho hp).ley h)
    ley_inicial ha hr

/-- **No `NULL` is in `cola_block` in any run.** -/
theorem run_block_sinNulos
    (ha : Along (Paso.hacer metadata) Ordenado pasos (inicial config socUmv))
    (hr : run (Paso.hacer metadata) pasos (inicial config socUmv) = some k) :
    none ∉ k.colas .block :=
  run_invariant (I := fun k => none ∉ k.colas .block) (fun _ _ _ h _ hp => Llena.hacer hp h)
    List.not_mem_nil ha hr

/-- `pasar_pcbBlock_ready` of a process that is blocked: it goes to the end of the ready ones. -/
lemma correr_pasarPcbBlockReady {x : PcbOtros} {pre post : List (Option PcbOtros)} (io : Bandeja)
    (hcola : k.colas .block = pre ++ some x :: post) (hnulos : none ∉ k.colas .block)
    (hn : (k.ids .block).Nodup) :
    correr (pasarPcbBlockReady x.pcb.id) k io =
      some (((), (k.conCola .block (post ++ pre)).encolarReady (some x)), io) := by
  have hpre : ∀ y ∈ pre, ∃ z, y = some z ∧ (z.pcb.id == x.pcb.id) = false := by
    intro y hy
    cases y with
    | none => exact absurd (by rw [hcola]; exact List.mem_append_left _ hy) hnulos
    | some z =>
      refine ⟨z, rfl, ?_⟩
      have hx : Option.map (fun x : PcbOtros => x.pcb.id) (some x) = some x.pcb.id := rfl
      rw [Estado.ids, hcola, List.filterMap_append, List.filterMap_cons_some hx,
        List.nodup_middle, List.nodup_cons] at hn
      have hz : z.pcb.id ∈ pre.filterMap (Option.map fun x => x.pcb.id) :=
        List.mem_filterMap.2 ⟨some z, hy, rfl⟩
      have hne : z.pcb.id ≠ x.pcb.id := fun heq => hn.1 (heq ▸ List.mem_append_left _ hz)
      simpa using hne
  have hrot := queueRotar_saca io (k := k) (p := fun z => z.pcb.id == x.pcb.id)
    ⟨pre, post, hcola, hpre, by simp, rfl⟩
  simp only [pasarPcbBlockReady, correr_bind, correr_lock, Option.bind_some, hrot]
  rfl

/-- **No blocked process is orphaned, or woken twice.** In every state of every run, each pcb in
`cola_block` is recorded once, in one place; and the call that this record leads to puts it at the
end of `cola_ready` and turns the rest of `cola_block`. -/
theorem bloqueado_unaVez (ha : Along (Paso.hacer metadata) Ordenado pasos (inicial config socUmv))
    (hr : run (Paso.hacer metadata) pasos (inicial config socUmv) = some k) (x : PcbOtros)
    (hx : some x ∈ k.colas .block) :
    (∃ l, (k.fila l).count x.pcb.id = 1 ∧ ∀ l' ≠ l, x.pcb.id ∉ k.fila l') ∧
      ∀ io, ∃ pre post k', k.colas .block = pre ++ some x :: post ∧
        correr (pasarPcbBlockReady x.pcb.id) k io = some (((), k'), io) ∧
        k'.colas .ready = k.colas .ready ++ [some x] ∧ k'.colas .block = post ++ pre ∧
        ∀ c, c ≠ .ready → c ≠ .block → k'.colas c = k.colas c := by
  have hley := run_ley ha hr
  have hid : x.pcb.id ∈ k.espera.bloqueados := Multiset.mem_coe.2 (mem_ids.2 ⟨x, hx, rfl⟩)
  refine ⟨?_, fun io => ?_⟩
  · obtain ⟨l, hl⟩ := hley.registrado _ hid
    refine ⟨l, List.count_eq_one_of_mem (hley.apart.nodup l) hl, fun l' hne hl' => hne ?_⟩
    exact hley.apart.unique _ _ _ hl' hl
  · obtain ⟨pre, post, hcola⟩ := List.append_of_mem hx
    have hn : (k.ids .block).Nodup := Multiset.coe_nodup.1 hley.bloqueados_nodup
    have hnulos := run_block_sinNulos ha hr
    refine ⟨pre, post, _, hcola, correr_pasarPcbBlockReady io hcola hnulos hn, ?_, ?_, ?_⟩
    · simp [Estado.encolarReady, Estado.encolar, Estado.sumar]
    · simp [Estado.encolarReady, Estado.encolar, Estado.sumar]
    · intro c hready hblock
      simp [Estado.encolarReady, Estado.encolar, Estado.sumar, Function.update_of_ne hready,
        Function.update_of_ne hblock]

end Runs

instance (k : Estado) : (p : Paso) → Decidable (Ordenado k p)
  | .ioTomar disp => inferInstanceAs (Decidable (∀ d ∈ k.diccDispIo disp, d.proceso = none))
  | .progCerrado _ | .newScript .. | .newCpu _ | .menCpu .. | .newReady | .readyExec | .exit _
  | .ioServir _ => isTrue trivial

/-- The process in execution asks for two units of the device `H`, and the device takes the
request. -/
def pideIo : List Paso :=
  vidaHastaExec ++ [.menCpu 5 [.comun (crearMenComun TipoDatos.ioId [72, 0]),
    .comun (crearMenComun TipoDatos.ioCantUnidades [50, 0]),
    .quantumPcb ⟨TipoDatos.pcbYQuantum, 0, ⟨0, 400, 300, 200, 100, 400, 1, 1, 0, 0⟩⟩,
    .comun (crearMenComun TipoDatos.sigusr1CpuDesconec [])], .ioTomar [72]]

lemma pideIo_estado : (run (Paso.hacer unaInstruccion) pideIo (inicial unLugar 4)).map
    (fun k => (k.ids .block, k.fila (.servicio [72]))) = some ([1], [1]) := by
  decide +kernel

theorem pideIo_unaVez : ∃ k x, run (Paso.hacer unaInstruccion) pideIo (inicial unLugar 4) = some k ∧
    k.fila (.servicio [72]) = [x.pcb.id] ∧
    ((∃ l, (k.fila l).count x.pcb.id = 1 ∧ ∀ l' ≠ l, x.pcb.id ∉ k.fila l') ∧
      ∀ io, ∃ pre post k', k.colas .block = pre ++ some x :: post ∧
        correr (pasarPcbBlockReady x.pcb.id) k io = some (((), k'), io) ∧
        k'.colas .ready = k.colas .ready ++ [some x] ∧ k'.colas .block = post ++ pre ∧
        ∀ c, c ≠ .ready → c ≠ .block → k'.colas c = k.colas c) := by
  obtain ⟨k, hk, hobs⟩ := Option.map_eq_some_iff.1 pideIo_estado
  obtain ⟨hids, hfila⟩ := Prod.mk.inj hobs
  obtain ⟨x, hx, hid⟩ := mem_ids.1 (hids ▸ List.mem_cons_self : 1 ∈ k.ids .block)
  exact ⟨k, x, hk, hid ▸ hfila, bloqueado_unaVez (by decide +kernel) hk x hx⟩

end Ansisop.Kernel
