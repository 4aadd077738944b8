import Ansisop.Kernel.Handlers

/-!
What a call of each kernel function that moves a process or a CPU has done when it has returned,
in terms of the state before: one lemma a function, which the callers use instead of the body.
-/

namespace Ansisop.Kernel

open Ansisop.Sockets Ansisop.Lib Hilo

/-! ### The parts of a state change -/

namespace Estado

/-- The first element of `c` that satisfies `p` is taken out; those before it go behind. -/
def Saca (k : Estado) (c : Cola) (p : PcbOtros → Bool) (x : PcbOtros) (k' : Estado) : Prop :=
  ∃ pre post, k.colas c = pre ++ some x :: post ∧ (∀ y ∈ pre, ∃ z, y = some z ∧ p z = false) ∧
    p x = true ∧ k' = k.conCola c (post ++ pre)

/-- No element of `c` is `NULL` or satisfies `p`. -/
def NoHay (k : Estado) (c : Cola) (p : PcbOtros → Bool) : Prop :=
  ∀ y ∈ k.colas c, ∃ z, y = some z ∧ p z = false

/-- The record of the CPU of the socket is taken off the list. -/
def TomaCpu (k : Estado) (soc : ℤ) (cpu : Cpu) (k' : Estado) : Prop :=
  k.listaCpu.find? (fun unCpu => unCpu.socCpu == soc) = some cpu ∧
    k' = k.conCpus (k.listaCpu.eraseP fun unCpu => unCpu.socCpu == soc)

def encolar (k : Estado) (c : Cola) (x : Option PcbOtros) : Estado :=
  k.conCola c (k.colas c ++ [x])

def sumar (k : Estado) (s : Sem) : Estado := k.conSem s (k.sem s + 1)

def restar (k : Estado) (s : Sem) : Estado := k.conSem s (k.sem s - 1)

def encolarReady (k : Estado) (x : Option PcbOtros) : Estado :=
  (k.encolar .ready x).sumar .cantReady

def encolarExit (k : Estado) (x : PcbOtros) : Estado :=
  ((k.encolar .exit (some x)).sumar .cantExit).sumar .cantMultiprog

def agregarCpu (k : Estado) (cpu : Cpu) : Estado := k.conCpus (k.listaCpu ++ [cpu])

/-- The CPU goes back to the list as a free one. -/
def volverCpu (k : Estado) (cpu : Cpu) : Estado :=
  (k.agregarCpu { cpu with idProgExec := 0, socProg := 0 }).sumar .cantCpuLibres

/-- The socket of a CPU is no longer looked at. -/
def soltarSoc (k : Estado) (soc : ℤ) : Estado := k.conSocCpus (k.conjSocCpus.erase soc)

/-- The search of `get_pcb_otros_exec`. -/
def BuscaExec (k : Estado) (id : ℤ) (r : Option PcbOtros) (k' : Estado) : Prop :=
  (∃ x, r = some x ∧ k.Saca .exec (fun x => id == x.pcb.id) x k') ∨
    (r = none ∧ k.NoHay .exec (fun x => id == x.pcb.id) ∧ k' = k)

/-- The CPU of the socket and the process it runs are taken out. -/
def TomaProceso (k : Estado) (soc : ℤ) (cpu : Cpu) (x : PcbOtros) (k' : Estado) : Prop :=
  ∃ k₁, k.TomaCpu soc cpu k₁ ∧ k₁.Saca .exec (fun x => cpu.idProgExec == x.pcb.id) x k'

/-- The record of the CPU of the socket names a process in execution. -/
def Ejecutando (k : Estado) (soc : ℤ) : Prop := ∃ cpu x k₁, k.TomaProceso soc cpu x k₁

/-- The search of `mover_pcb_exit` in one queue: what it finds goes to the queue of the ended. -/
def Desconecta (k : Estado) (c : Cola) (soc : ℤ) (k' : Estado) : Prop :=
  (∃ x k₁, k.Saca c (fun x => x.nSocket == soc) x k₁ ∧ k' = k₁.encolarExit x) ∨
    (k.NoHay c (fun x => x.nSocket == soc) ∧ k' = k)

/-- The process of the CPU ends with the given type, and the CPU is free. -/
def Expulsa (k : Estado) (tipo soc : ℤ) (k' : Estado) : Prop :=
  ∃ cpu x k₁, k.TomaProceso soc cpu x k₁ ∧
    k' = (k₁.encolarExit { x with tipoFinEjecucion := tipo }).volverCpu cpu

/-- The process of the CPU is blocked with the pcb received, and the CPU is free or has closed. -/
def Bloquea (k : Estado) (soc : ℤ) (cpu : Cpu) (x : PcbOtros) (m : MenQuantumPcb)
    (cierre : MenComun) (k' : Estado) : Prop :=
  ∃ k₁, k.TomaProceso soc cpu x k₁ ∧
    k' = (if cierre.tamDato = 0 then k₁.volverCpu cpu else k₁.soltarSoc cpu.socCpu).encolar .block
      (some { x with pcb := actualizar x.pcb m.pcb })

end Estado

variable {k k' : Estado} {io io' : Bandeja}

/-- The end of a call whose last steps cannot fail. -/
lemma correr_some {α : Type} {t : Hilo α} {a b : α} {k₁ : Estado} {io₁ : Bandeja}
    (ht : correr t k io = some ((a, k₁), io₁)) (h : correr t k io = some ((b, k'), io')) :
    b = a ∧ k' = k₁ ∧ io' = io₁ := by
  rw [ht] at h
  simpa [eq_comm, and_assoc] using h

/-- A search in a queue, in the terms of this module. -/
lemma queueRotar_some {c : Cola} {p : PcbOtros → Bool} {r : Option PcbOtros}
    (h : correr (queueRotar c p) k io = some ((r, k'), io')) :
    io' = io ∧ ((∃ x, r = some x ∧ k.Saca c p x k') ∨ (r = none ∧ k.NoHay c p ∧ k' = k)) := by
  obtain ⟨rfl, ⟨pre, x, post, hq, hpre, hx, rfl, rfl⟩ | ⟨hq, rfl, rfl⟩⟩ := correr_queueRotar_some h
  · exact ⟨rfl, .inl ⟨x, rfl, pre, post, hq, hpre, hx, rfl⟩⟩
  · exact ⟨rfl, .inr ⟨rfl, hq, rfl⟩⟩

/-- A search finds what there is to be found. -/
lemma queueRotar_saca (io : Bandeja) {c : Cola} {p : PcbOtros → Bool} {x : PcbOtros}
    (hs : k.Saca c p x k') : correr (queueRotar c p) k io = some ((some x, k'), io) := by
  obtain ⟨pre, post, hcola, hpre, hx, rfl⟩ := hs
  have hlen : (k.colas c).length = pre.length + 1 + post.length := by
    rw [hcola, List.length_append, List.length_cons]
    omega
  have hrot : rotateFind (Option.map p) (k.colas c).length (k.colas c) =
      some (some (some x), post ++ pre) := by
    rw [hlen, hcola]
    refine rotateFind_found post.length (fun y hy => ?_) (by simp [hx])
    obtain ⟨z, rfl, hz⟩ := hpre y hy
    simp [hz]
  simp only [queueRotar, correr_bind, correr_get, Option.bind_some, hrot]
  rfl

/-- A search in a queue of processes has a result. -/
lemma queueRotar_isSome (io : Bandeja) {c : Cola} (p : PcbOtros → Bool)
    (hn : none ∉ k.colas c) : ∃ r k₁, correr (queueRotar c p) k io = some ((r, k₁), io) := by
  have hsome : ∀ y ∈ k.colas c, (Option.map p y).isSome := by
    intro y hy
    cases y with
    | none => exact absurd hy hn
    | some y => rfl
  obtain ⟨⟨r, q⟩, hrot⟩ := Option.isSome_iff_exists.1 (rotateFind_isSome _ _ le_rfl hsome)
  refine ⟨r.join, k.conCola c q, ?_⟩
  simp only [queueRotar, correr_bind, correr_get, Option.bind_some, hrot, deref, Option.elim,
    correr_pure, correr_modify]

lemma getPcbOtrosExec_some {id : ℤ} {r : Option PcbOtros}
    (h : correr (getPcbOtrosExec id) k io = some ((r, k'), io')) :
    io' = io ∧ k.BuscaExec id r k' := by
  simp only [getPcbOtrosExec, correr_bind, correr_lock, Option.bind_some] at h
  rw [Option.bind_eq_some_iff] at h
  obtain ⟨⟨⟨x, k₁⟩, io₁⟩, hrot, h⟩ := h
  obtain ⟨rfl, rfl, rfl⟩ := correr_some rfl h
  exact queueRotar_some hrot

/-- `get_pcb_otros_exec` of a caller that uses the pcb at once. -/
lemma deref_getPcbOtrosExec_some {id : ℤ} {x : PcbOtros}
    (h : correr (getPcbOtrosExec id >>= deref) k io = some ((x, k'), io')) :
    io' = io ∧ k.Saca .exec (fun x => id == x.pcb.id) x k' := by
  obtain ⟨r, k₁, io₁, hget, hd⟩ := correr_bind_some h
  obtain ⟨rfl, rfl, rfl⟩ := correr_deref_some hd
  obtain ⟨rfl, ⟨y, hy, hs⟩ | ⟨hn, -⟩⟩ := getPcbOtrosExec_some hget
  · obtain rfl := Option.some.inj hy
    exact ⟨rfl, hs⟩
  · exact absurd hn (by simp)

lemma pasarPcbBlockReady_some {id : ℤ} {u : Unit}
    (h : correr (pasarPcbBlockReady id) k io = some ((u, k'), io')) :
    io' = io ∧ ((∃ x k₁, k.Saca .block (fun x => x.pcb.id == id) x k₁ ∧
        k' = k₁.encolarReady (some x)) ∨
      (k.NoHay .block (fun x => x.pcb.id == id) ∧ k' = k)) := by
  simp only [pasarPcbBlockReady, correr_bind, correr_lock, Option.bind_some] at h
  rw [Option.bind_eq_some_iff] at h
  obtain ⟨⟨⟨x, k₁⟩, io₁⟩, hrot, h⟩ := h
  obtain ⟨rfl, ⟨y, rfl, hs⟩ | ⟨rfl, hn, rfl⟩⟩ := queueRotar_some hrot
  · obtain ⟨-, rfl, rfl⟩ := correr_some rfl h
    exact ⟨rfl, .inl ⟨y, k₁, hs, rfl⟩⟩
  · obtain ⟨-, rfl, rfl⟩ := correr_some rfl h
    exact ⟨rfl, .inr ⟨hn, rfl⟩⟩

@[simp] lemma correr_pasarPcbExit_some (x : PcbOtros) :
    correr (pasarPcbExit (some x)) k io = some (((), k.encolarExit x), io) := rfl

@[simp] lemma correr_pasarPcbExit_none :
    correr (pasarPcbExit none) k io = some (((), k), io) := rfl

@[simp] lemma correr_liberarCpu (cpu : Cpu) :
    correr (liberarCpu cpu) k io = some (((), k.volverCpu cpu), io) := rfl

lemma recvActualizarPcb_some {soc : ℤ} {pcb pcb' : Pcb}
    (h : correr (recvActualizarPcb soc pcb) k io = some ((pcb', k'), io')) :
    ∃ m, io.entrada = .quantumPcb m :: io'.entrada ∧ io'.salida = io.salida ∧ k' = k ∧
      pcb' = actualizar pcb m.pcb := by
  obtain ⟨m, k₁, io₁, hm, h₁⟩ := correr_bind_some h
  obtain ⟨rfl, he, hs⟩ := correr_recvQuantumPcb_some hm
  obtain ⟨rfl, rfl, rfl⟩ := correr_some rfl h₁
  exact ⟨m, he, hs, rfl, rfl⟩

/-- `get_cpu_soc_cpu_remove` of a caller that uses the record at once. -/
lemma deref_getCpuSocCpuRemove_some {soc : ℤ} {cpu : Cpu}
    (h : correr (getCpuSocCpuRemove soc >>= deref) k io = some ((cpu, k'), io')) :
    io' = io ∧ k.TomaCpu soc cpu k' := by
  simp only [getCpuSocCpuRemove, correr_bind, correr_listaCpuRemove, Option.bind_some] at h
  obtain ⟨hf, rfl, rfl⟩ := correr_deref_some h
  exact ⟨rfl, hf, rfl⟩

lemma actualizarPcbYBloq_some {cpu : Cpu} {id : ℤ}
    (h : correr (actualizarPcbYBloq cpu) k io = some ((id, k'), io')) :
    ∃ x k₁ m cierre, k.Saca .exec (fun x => cpu.idProgExec == x.pcb.id) x k₁ ∧
      io.entrada = .quantumPcb m :: .comun cierre :: io'.entrada ∧ id = x.pcb.id ∧
      io'.salida = io.salida ++ (if cierre.tamDato = 0 then [] else [.cerrado cpu.socCpu]) ∧
      k' = (if cierre.tamDato = 0 then k₁.volverCpu cpu else k₁.soltarSoc cpu.socCpu).encolar .block
        (some { x with pcb := actualizar x.pcb m.pcb }) := by
  rw [actualizarPcbYBloq, ← bind_assoc] at h
  obtain ⟨x, k₁, io₁, hx, h₁⟩ := correr_bind_some h
  obtain ⟨rfl, hs⟩ := deref_getPcbOtrosExec_some hx
  obtain ⟨pcb, k₂, io₂, hp, h₂⟩ := correr_bind_some h₁
  obtain ⟨m, hm, hms, rfl, rfl⟩ := recvActualizarPcb_some hp
  obtain ⟨cierre, k₃, io₃, hc, h₃⟩ := correr_bind_some h₂
  obtain ⟨rfl, hc, hcs⟩ := correr_recvComun_some hc
  refine ⟨x, k₃, m, cierre, hs, ?_⟩
  by_cases h0 : cierre.tamDato = 0
  · rw [if_pos h0] at h₃
    obtain ⟨rfl, rfl, rfl⟩ := correr_some rfl h₃
    exact ⟨by rw [hm, hc], rfl, by simp [h0, hcs, hms], by rw [if_pos h0]; rfl⟩
  · rw [if_neg h0] at h₃
    obtain ⟨rfl, rfl, rfl⟩ := correr_some rfl h₃
    exact ⟨by rw [hm, hc], rfl, by simp [h0, hcs, hms], by rw [if_neg h0]; rfl⟩

/-! ### Messages of a CPU -/

/-- The first steps of a handler that takes a CPU and its process. -/
lemma tomar_some {α : Type} {soc : ℤ} {f : Cpu → PcbOtros → Hilo α} {a : α}
    (h : correr (getCpuSocCpuRemove soc >>= fun auxCpu => deref auxCpu >>= fun cpu =>
      getPcbOtrosExec cpu.idProgExec >>= fun aux => deref aux >>= fun x => f cpu x) k io =
        some ((a, k'), io')) :
    ∃ cpu x k₁, k.TomaProceso soc cpu x k₁ ∧ correr (f cpu x) k₁ io = some ((a, k'), io') := by
  rw [← bind_assoc] at h
  obtain ⟨cpu, k₁, io₁, hc, h₁⟩ := correr_bind_some h
  obtain ⟨rfl, ht⟩ := deref_getCpuSocCpuRemove_some hc
  rw [← bind_assoc] at h₁
  obtain ⟨x, k₂, io₂, hx, h₂⟩ := correr_bind_some h₁
  obtain ⟨rfl, hs⟩ := deref_getPcbOtrosExec_some hx
  exact ⟨cpu, x, k₂, ⟨k₁, ht, hs⟩, h₂⟩

lemma finEjecucion_some {tipo soc : ℤ} {u : Unit}
    (h : correr (finEjecucion tipo soc) k io = some ((u, k'), io')) :
    k.Expulsa tipo soc k' ∧ io' = io := by
  obtain ⟨cpu, x, k₁, ht, h₁⟩ := tomar_some (f := fun cpu x => do
    pasarPcbExit (some { x with tipoFinEjecucion := tipo })
    lock .usoListaCpu
    liberarCpu cpu
    unlock .usoListaCpu) (show _ = _ from h)
  obtain ⟨-, rfl, rfl⟩ := correr_some rfl h₁
  exact ⟨⟨cpu, x, k₁, ht, rfl⟩, rfl⟩

lemma llamadaErronea_some {tipo soc : ℤ} {u : Unit}
    (h : correr (llamadaErronea soc tipo) k io = some ((u, k'), io')) :
    k.Expulsa tipo soc k' ∧ io' =
      { io with salida := io.salida ++ [.enviado soc (.comun (crearMenComun tipo []))] } := by
  obtain ⟨cpu, x, k₁, ht, h₁⟩ := tomar_some (f := fun cpu x => do
    pasarPcbExit (some { x with tipoFinEjecucion := tipo })
    enviarMenComun soc tipo []
    lock .usoListaCpu
    liberarCpu cpu
    unlock .usoListaCpu) (show _ = _ from h)
  obtain ⟨-, rfl, rfl⟩ := correr_some rfl h₁
  exact ⟨⟨cpu, x, k₁, ht, rfl⟩, rfl⟩

/-- `llamada_erronea` finds the CPU and its process, ends it and tells the CPU. -/
lemma llamadaErronea_ejecutando (tipo : ℤ) (io : Bandeja) {soc : ℤ} (h : k.Ejecutando soc) :
    ∃ k₁, k.Expulsa tipo soc k₁ ∧ correr (llamadaErronea soc tipo) k io = some (((), k₁),
      { io with salida := io.salida ++ [.enviado soc (.comun (crearMenComun tipo []))] }) := by
  obtain ⟨cpu, x, k₁, ht⟩ := h
  refine ⟨_, ⟨cpu, x, k₁, ht, rfl⟩, ?_⟩
  obtain ⟨k₀, ⟨hf, rfl⟩, hs⟩ := ht
  simp only [llamadaErronea, getCpuSocCpuRemove, getPcbOtrosExec, correr_bind, correr_lock,
    correr_unlock, correr_listaCpuRemove, Option.bind_some, hf, deref, Option.elim, correr_pure,
    queueRotar_saca io hs, correr_pasarPcbExit_some, correr_enviarMenComun, correr_liberarCpu]

lemma finQuantum_some {soc : ℤ} {men : MenComun} {u : Unit}
    (h : correr (finQuantum soc men) k io = some ((u, k'), io')) :
    (men.tamDato = 1 ∧ ∃ cpu k₁ r k₂, k.TomaCpu soc cpu k₁ ∧
      (k₁.soltarSoc soc).BuscaExec cpu.idProgExec r k₂ ∧ k' = k₂.encolarReady r) ∨
    (men.tamDato ≠ 1 ∧ ∃ cpu x m k₁, k.TomaProceso soc cpu x k₁ ∧
      io.entrada = .quantumPcb m :: io'.entrada ∧
      k' = (k₁.encolarReady (some { x with pcb := actualizar x.pcb m.pcb })).volverCpu cpu) := by
  simp only [finQuantum, correr_bind, correr_lock, Option.bind_some] at h
  split at h
  · rename_i h1
    simp only [getCpuSocCpuRemove, correr_listaCpuRemove, correr_bind, correr_fdClrCpus,
      correr_socketCerrar, Option.bind_some] at h
    rw [Option.bind_eq_some_iff] at h
    obtain ⟨⟨⟨cpu, k₁⟩, io₁⟩, hd, h₁⟩ := h
    obtain ⟨hf, rfl, rfl⟩ := correr_deref_some hd
    rw [Option.bind_eq_some_iff] at h₁
    obtain ⟨⟨⟨r, k₂⟩, io₂⟩, hr, h₂⟩ := h₁
    obtain ⟨rfl, hb⟩ := getPcbOtrosExec_some hr
    obtain ⟨-, rfl, rfl⟩ := correr_some (t := do
      lock .ready
      queuePush .ready r
      semIncre .cantReady
      unlock .ready
      unlock .usoListaCpu) rfl (show _ = _ from h₂)
    exact .inl ⟨h1, cpu, _, r, k₂, ⟨hf, rfl⟩, hb, rfl⟩
  · rename_i h1
    obtain ⟨cpu, x, k₁, ht, h₁⟩ := tomar_some (f := fun cpu x => do
      let pcb ← recvActualizarPcb soc x.pcb
      lock .ready
      queuePush .ready (some { x with pcb := pcb })
      semIncre .cantReady
      unlock .ready
      liberarCpu cpu
      unlock .usoListaCpu) (show _ = _ from h)
    obtain ⟨pcb, k₂, io₂, hr, h₂⟩ := correr_bind_some h₁
    obtain ⟨m, hm, -, rfl, rfl⟩ := recvActualizarPcb_some hr
    obtain ⟨-, rfl, rfl⟩ := correr_some rfl h₂
    exact .inr ⟨h1, cpu, x, m, k₂, ht, hm, rfl⟩

lemma conecCerradaCpu_some {soc : ℤ} {u : Unit}
    (h : correr (conecCerradaCpu soc) k io = some ((u, k'), io')) :
    ∃ cpu k₁, k.TomaCpu soc cpu k₁ ∧
      ((cpu.idProgExec ≠ 0 ∧ ∃ r k₂, (k₁.soltarSoc soc).BuscaExec cpu.idProgExec r k₂ ∧
          k' = k₂.encolarReady r) ∨
        (cpu.idProgExec = 0 ∧ 0 < k.sem .cantCpuLibres ∧
          k' = (k₁.soltarSoc soc).restar .cantCpuLibres)) := by
  simp only [conecCerradaCpu, getCpuSocCpuRemove, correr_lock, correr_listaCpuRemove, correr_bind,
    correr_fdClrCpus, correr_socketCerrar, Option.bind_some] at h
  rw [Option.bind_eq_some_iff] at h
  obtain ⟨⟨⟨cpu, k₁⟩, io₁⟩, hd, h₁⟩ := h
  obtain ⟨hf, rfl, rfl⟩ := correr_deref_some hd
  refine ⟨cpu, _, ⟨hf, rfl⟩, ?_⟩
  by_cases h0 : cpu.idProgExec = 0
  · rw [if_neg (by simpa using h0)] at h₁
    obtain ⟨_, k₂, io₂, hs, h₂⟩ := correr_bind_some h₁
    obtain ⟨hpos, rfl, rfl⟩ := correr_semDecre_some hs
    obtain ⟨-, rfl, rfl⟩ := correr_some rfl h₂
    exact .inr ⟨h0, hpos, rfl⟩
  · rw [if_pos (by simpa using h0)] at h₁
    obtain ⟨r, k₂, io₂, hr, h₂⟩ := correr_bind_some h₁
    obtain ⟨rfl, hb⟩ := getPcbOtrosExec_some hr
    obtain ⟨-, rfl, rfl⟩ := correr_some rfl h₂
    exact .inl ⟨h0, r, k₂, hb, rfl⟩

/-- `wait`, with what it answers. -/
lemma wait_spec {soc : ℤ} {men : MenComun} {u : Unit}
    (h : correr (wait soc men) k io = some ((u, k'), io')) :
    ∃ clave, cadena men.dato = some clave ∧
      ((k.diccSem clave = none ∧ k.Expulsa TipoDatos.semInex soc k') ∨
        ∃ sem, k.diccSem clave = some sem ∧
          ((0 < sem.valor ∧ (k' = k.conSemaforo clave fun s => { s with valor := sem.valor - 1 }) ∧
              io'.salida = io.salida ++
                [.enviado soc (.comun (crearMenComun TipoDatos.semOk []))]) ∨
            (sem.valor ≤ 0 ∧ ∃ cpu x m cierre k₁,
              (k.conSemaforo clave fun s => { s with valor := sem.valor - 1 }).Bloquea
                soc cpu x m cierre k₁ ∧
              io.entrada = .quantumPcb m :: .comun cierre :: io'.entrada ∧
              io'.salida = io.salida ++
                .enviado soc (.comun (crearMenComun TipoDatos.semBloqueado [])) ::
                  (if cierre.tamDato = 0 then [] else [.cerrado cpu.socCpu]) ∧
              k' = k₁.conSemaforo clave fun s =>
                { s with procesos := s.procesos ++ [x.pcb.id] }))) := by
  simp only [wait, correr_lock, correr_bind, Option.bind_some] at h
  rw [Option.bind_eq_some_iff] at h
  obtain ⟨⟨⟨clave, k₁⟩, io₁⟩, hd, h₁⟩ := h
  obtain ⟨hclave, rfl, rfl⟩ := correr_deref_some hd
  refine ⟨clave, hclave, ?_⟩
  simp only [correr_get, Option.bind_some] at h₁
  split at h₁
  · rename_i sem hsem
    refine .inr ⟨sem, hsem, ?_⟩
    obtain ⟨valor, k₂, io₂, hv, h₂⟩ := correr_bind_some h₁
    obtain ⟨rfl, -, -, rfl, rfl⟩ := correr_entero_some hv
    simp only [correr_bind, correr_modificarSem, Option.bind_some] at h₂
    by_cases hpos : 0 < sem.valor
    · rw [if_pos hpos] at h₂
      obtain ⟨-, rfl, rfl⟩ := correr_some rfl h₂
      exact .inl ⟨hpos, rfl, rfl⟩
    · rw [if_neg hpos] at h₂
      simp only [getCpuSocCpuRemove, correr_lock, correr_listaCpuRemove, correr_bind,
        correr_enviarMenComun, Option.bind_some] at h₂
      rw [Option.bind_eq_some_iff] at h₂
      obtain ⟨⟨⟨cpu, k₃⟩, io₃⟩, hc, h₃⟩ := h₂
      obtain ⟨hf, rfl, rfl⟩ := correr_deref_some hc
      rw [Option.bind_eq_some_iff] at h₃
      obtain ⟨⟨⟨id, k₄⟩, io₄⟩, hb, h₄⟩ := h₃
      obtain ⟨x, k₅, m, cierre, hs, he, hid, hsal, rfl⟩ := actualizarPcbYBloq_some hb
      subst hid
      obtain ⟨-, rfl, rfl⟩ := correr_some (t := do
        modificarSem clave fun s => { s with procesos := s.procesos ++ [x.pcb.id] }
        unlock .block
        unlock .usoListaCpu
        unlock .diccSem) rfl (show _ = _ from h₄)
      exact .inr ⟨by omega, cpu, x, m, cierre, _, ⟨k₅, ⟨_, ⟨hf, rfl⟩, hs⟩, rfl⟩, he,
        by simpa using hsal, rfl⟩
  · rename_i hsem
    obtain ⟨_, k₂, io₂, hl, h₂⟩ := correr_bind_some h₁
    obtain ⟨he, rfl⟩ := llamadaErronea_some hl
    obtain ⟨-, rfl, rfl⟩ := correr_some rfl h₂
    exact .inl ⟨hsem, he⟩

lemma wait_some {soc : ℤ} {men : MenComun} {u : Unit}
    (h : correr (wait soc men) k io = some ((u, k'), io')) :
    ∃ clave, cadena men.dato = some clave ∧
      ((k.diccSem clave = none ∧ k.Expulsa TipoDatos.semInex soc k') ∨
        ∃ sem, k.diccSem clave = some sem ∧
          ((0 < sem.valor ∧ k' = k.conSemaforo clave fun s => { s with valor := sem.valor - 1 }) ∨
            (sem.valor ≤ 0 ∧ ∃ cpu x m cierre k₁,
              (k.conSemaforo clave fun s => { s with valor := sem.valor - 1 }).Bloquea
                soc cpu x m cierre k₁ ∧
              io.entrada = .quantumPcb m :: .comun cierre :: io'.entrada ∧
              k' = k₁.conSemaforo clave fun s =>
                { s with procesos := s.procesos ++ [x.pcb.id] }))) := by
  obtain ⟨clave, hc, hcases⟩ := wait_spec h
  refine ⟨clave, hc, hcases.imp_right ?_⟩
  rintro ⟨sem, hsem, ⟨hpos, hk', -⟩ | ⟨hle, cpu, x, m, cierre, k₁, hb, he, -, hk'⟩⟩
  · exact ⟨sem, hsem, .inl ⟨hpos, hk'⟩⟩
  · exact ⟨sem, hsem, .inr ⟨hle, cpu, x, m, cierre, k₁, hb, he, hk'⟩⟩

lemma signal_some {soc : ℤ} {men : MenComun} {u : Unit}
    (h : correr (signal soc men) k io = some ((u, k'), io')) :
    ∃ clave, cadena men.dato = some clave ∧
      ((k.diccSem clave = none ∧ k.Expulsa TipoDatos.semInex soc k') ∨
        ∃ sem, k.diccSem clave = some sem ∧
          ((sem.procesos = [] ∧ k' = k.conSemaforo clave fun s => { s with valor := sem.valor + 1 }) ∨
            ∃ id l k₁, sem.procesos = id :: l ∧
              k₁ = (k.conSemaforo clave fun s => { s with valor := sem.valor + 1 }).conSemaforo clave
                (fun s => { s with procesos := l }) ∧
              ((∃ x k₂, k₁.Saca .block (fun x => x.pcb.id == id) x k₂ ∧
                  k' = k₂.encolarReady (some x)) ∨
                (k₁.NoHay .block (fun x => x.pcb.id == id) ∧ k' = k₁)))) := by
  simp only [signal, correr_lock, correr_bind, Option.bind_some] at h
  rw [Option.bind_eq_some_iff] at h
  obtain ⟨⟨⟨clave, k₁⟩, io₁⟩, hd, h₁⟩ := h
  obtain ⟨hclave, rfl, rfl⟩ := correr_deref_some hd
  refine ⟨clave, hclave, ?_⟩
  simp only [correr_get, Option.bind_some] at h₁
  split at h₁
  · rename_i sem hsem
    refine .inr ⟨sem, hsem, ?_⟩
    obtain ⟨valor, k₂, io₂, hv, h₂⟩ := correr_bind_some h₁
    obtain ⟨rfl, -, -, rfl, rfl⟩ := correr_entero_some hv
    simp only [correr_bind, correr_modificarSem, Option.bind_some] at h₂
    split at h₂
    · rename_i id l hl
      simp only [correr_bind, correr_modificarSem, Option.bind_some] at h₂
      rw [Option.bind_eq_some_iff] at h₂
      obtain ⟨⟨⟨_, k₃⟩, io₃⟩, hb, h₃⟩ := h₂
      obtain ⟨rfl, hp⟩ := pasarPcbBlockReady_some hb
      obtain ⟨-, rfl, rfl⟩ := correr_some (t := do
        enviarMenComun soc TipoDatos.semOk []
        unlock .diccSem) rfl (show _ = _ from h₃)
      exact .inr ⟨id, l, _, hl, rfl, hp⟩
    · rename_i hl
      obtain ⟨-, rfl, rfl⟩ := correr_some rfl h₂
      exact .inl ⟨hl, rfl⟩
  · rename_i hsem
    obtain ⟨_, k₂, io₂, hl, h₂⟩ := correr_bind_some h₁
    obtain ⟨he, rfl⟩ := llamadaErronea_some hl
    obtain ⟨-, rfl, rfl⟩ := correr_some rfl h₂
    exact .inl ⟨hsem, he⟩

lemma enviarIo_some {soc : ℤ} {men : MenComun} {u : Unit}
    (h : correr (enviarIo soc men) k io = some ((u, k'), io')) :
    ∃ disp unidades dato cpu x m cierre k₁, cadena men.dato = some disp ∧
      (k.diccDispIo disp).isSome ∧ cadena dato.dato = some unidades ∧
      (k.conIo disp fun d =>
        { d with procesos := d.procesos ++ [⟨cpu.idProgExec, atoi unidades⟩] }).Bloquea
          soc cpu x m cierre k₁ ∧
      io.entrada = .comun dato :: .quantumPcb m :: .comun cierre :: io'.entrada ∧
      k' = k₁.conIo disp fun d => { d with contCantProc := d.contCantProc + 1 } := by
  simp only [enviarIo, getCpuSocCpuRemove, correr_lock, correr_listaCpuRemove, correr_bind,
    Option.bind_some] at h
  rw [Option.bind_eq_some_iff] at h
  obtain ⟨⟨⟨dato, k₁⟩, io₁⟩, hr, h₁⟩ := h
  obtain ⟨rfl, he, -⟩ := correr_recvComun_some hr
  rw [Option.bind_eq_some_iff] at h₁
  obtain ⟨⟨⟨unidades, k₂⟩, io₂⟩, hu, h₂⟩ := h₁
  obtain ⟨hunidades, rfl, rfl⟩ := correr_deref_some hu
  rw [Option.bind_eq_some_iff] at h₂
  obtain ⟨⟨⟨cpu, k₃⟩, io₃⟩, hc, h₃⟩ := h₂
  obtain ⟨hf, rfl, rfl⟩ := correr_deref_some hc
  rw [Option.bind_eq_some_iff] at h₃
  obtain ⟨⟨⟨disp, k₄⟩, io₄⟩, hd, h₄⟩ := h₃
  obtain ⟨hdisp, rfl, rfl⟩ := correr_deref_some hd
  simp only [correr_get, Option.bind_some] at h₄
  rw [Option.bind_eq_some_iff] at h₄
  obtain ⟨⟨⟨x, k₅⟩, io₅⟩, hx, h₅⟩ := h₄
  obtain ⟨hio, rfl, rfl⟩ := correr_deref_some hx
  simp only [correr_modificarIo, Option.bind_some] at h₅
  rw [Option.bind_eq_some_iff] at h₅
  obtain ⟨⟨⟨id, k₆⟩, io₆⟩, hb, h₆⟩ := h₅
  obtain ⟨y, k₇, m, cierre, hs, hm, -, -, rfl⟩ := actualizarPcbYBloq_some hb
  obtain ⟨-, rfl, rfl⟩ := correr_some (t := do
    modificarIo disp fun d => { d with contCantProc := d.contCantProc + 1 }
    unlock .usoListaCpu
    unlock .block) rfl (show _ = _ from h₆)
  refine ⟨disp, unidades, dato, cpu, y, m, cierre, _, hdisp, ?_, hunidades,
    ⟨k₇, ⟨_, ⟨hf, rfl⟩, hs⟩, rfl⟩, by rw [he, hm], rfl⟩
  simpa using Option.isSome_of_eq_some hio

lemma obtenerValorCompartida_some {soc : ℤ} {men : MenComun} {u : Unit}
    (h : correr (obtenerValorCompartida soc men) k io = some ((u, k'), io')) :
    ∃ clave, cadena men.dato = some clave ∧
      ((k.diccVar clave = none ∧ k.Expulsa TipoDatos.varInex soc k') ∨
        ∃ valor, k.diccVar clave = some valor ∧ k' = k ∧ io' = { io with salida := io.salida ++
          [.enviado soc (.comun (crearMenComun TipoDatos.rObtenerValor
            (cString (stringItoa valor))))] }) := by
  simp only [obtenerValorCompartida, correr_lock, correr_bind, Option.bind_some] at h
  rw [Option.bind_eq_some_iff] at h
  obtain ⟨⟨⟨clave, k₁⟩, io₁⟩, hd, h₁⟩ := h
  obtain ⟨hclave, rfl, rfl⟩ := correr_deref_some hd
  refine ⟨clave, hclave, ?_⟩
  simp only [correr_get, Option.bind_some] at h₁
  split at h₁
  · rename_i valor hvalor
    obtain ⟨-, rfl, rfl⟩ := correr_some rfl h₁
    exact .inr ⟨valor, hvalor, rfl, rfl⟩
  · rename_i hnada
    obtain ⟨_, k₂, io₂, hl, h₂⟩ := correr_bind_some h₁
    obtain ⟨he, rfl⟩ := llamadaErronea_some hl
    obtain ⟨-, rfl, rfl⟩ := correr_some rfl h₂
    exact .inl ⟨hnada, he⟩

lemma grabarValorCompartida_some {soc : ℤ} {men : MenComun} {u : Unit}
    (h : correr (grabarValorCompartida soc men) k io = some ((u, k'), io')) :
    ∃ clave, cadena men.dato = some clave ∧
      ((k.diccVar clave = none ∧ k.Expulsa TipoDatos.varInex soc k') ∨
        ((k.diccVar clave).isSome ∧ ∃ dato s, io.entrada = .comun dato :: io'.entrada ∧
          cadena dato.dato = some s ∧ k' = k.conVar clave (atoi s))) := by
  simp only [grabarValorCompartida, correr_lock, correr_bind, Option.bind_some] at h
  rw [Option.bind_eq_some_iff] at h
  obtain ⟨⟨⟨clave, k₁⟩, io₁⟩, hd, h₁⟩ := h
  obtain ⟨hclave, rfl, rfl⟩ := correr_deref_some hd
  refine ⟨clave, hclave, ?_⟩
  simp only [correr_get, Option.bind_some] at h₁
  split at h₁
  · rename_i valor hvalor
    simp only [correr_bind, correr_enviarMenComun, Option.bind_some] at h₁
    rw [Option.bind_eq_some_iff] at h₁
    obtain ⟨⟨⟨dato, k₂⟩, io₂⟩, hr, h₂⟩ := h₁
    obtain ⟨rfl, he, -⟩ := correr_recvComun_some hr
    rw [Option.bind_eq_some_iff] at h₂
    obtain ⟨⟨⟨s, k₃⟩, io₃⟩, hs, h₃⟩ := h₂
    obtain ⟨hdato, rfl, rfl⟩ := correr_deref_some hs
    simp only [correr_modify, correr_unlock, Option.bind_some, Option.some.injEq,
      Prod.mk.injEq] at h₃
    obtain ⟨⟨-, rfl⟩, rfl⟩ := h₃
    exact .inr ⟨by simp [hvalor], dato, s, he, hdato, rfl⟩
  · rename_i hnada
    exact .inl ⟨hnada, (llamadaErronea_some h₁).1⟩

lemma imprimir_some {α : Type} {leido : List Byte → Option α} {soc : ℤ} {men : MenComun} {u : Unit}
    (h : correr (imprimir leido soc men) k io = some ((u, k'), io')) :
    k' = k ∧ ∃ cpu, k.listaCpu.find? (fun unCpu => unCpu.socCpu == soc) = some cpu ∧
      io' = { io with salida := io.salida ++ [.enviado cpu.socProg (.comun men),
        .enviado soc (.comun (crearMenComun TipoDatos.rImprimir []))] } := by
  simp only [imprimir, getCpu, correr_lock, correr_bind, correr_get, correr_pure,
    Option.bind_some] at h
  rw [Option.bind_eq_some_iff] at h
  obtain ⟨⟨⟨cpu, k₁⟩, io₁⟩, hd, h₁⟩ := h
  obtain ⟨hf, rfl, rfl⟩ := correr_deref_some hd
  simp only [correr_enviar, correr_unlock, Option.bind_some] at h₁
  rw [Option.bind_eq_some_iff] at h₁
  obtain ⟨⟨⟨_, k₂⟩, io₂⟩, hl, h₂⟩ := h₁
  obtain ⟨-, rfl, rfl⟩ := correr_deref_some hl
  simp only [correr_enviarMenComun, Option.some.injEq, Prod.mk.injEq] at h₂
  obtain ⟨⟨-, rfl⟩, rfl⟩ := h₂
  exact ⟨rfl, cpu, hf, by simp⟩

/-- The handler of a message of the CPU of the socket. -/
inductive Manejador (soc : ℤ) (men : MenComun) : Hilo Unit → Prop
  | conecCerrada (h : men.tipo = TipoDatos.conecCerrada) : Manejador soc men (conecCerradaCpu soc)
  | finQuantum (h : men.tipo = TipoDatos.finQuantum) : Manejador soc men (finQuantum soc men)
  | finEjecucion (h : men.tipo = TipoDatos.finEjecucion) :
      Manejador soc men (finEjecucion TipoDatos.finEjecucion soc)
  | segmenFault (h : men.tipo = TipoDatos.segmenFault) :
      Manejador soc men (finEjecucion TipoDatos.segmenFault soc)
  | imprimirTexto (h : men.tipo = TipoDatos.imprimirTexto) :
      Manejador soc men (imprimirTexto soc men)
  | imprimirValor (h : men.tipo = TipoDatos.imprimirValor) :
      Manejador soc men (imprimirValor soc men)
  | obtenerValor (h : men.tipo = TipoDatos.obtenerValor) :
      Manejador soc men (obtenerValorCompartida soc men)
  | grabarValor (h : men.tipo = TipoDatos.grabarValor) :
      Manejador soc men (grabarValorCompartida soc men)
  | wait (h : men.tipo = TipoDatos.wait) : Manejador soc men (wait soc men)
  | signal (h : men.tipo = TipoDatos.signal) : Manejador soc men (signal soc men)
  | ioId (h : men.tipo = TipoDatos.ioId) : Manejador soc men (enviarIo soc men)
  | ninguno (hwait : men.tipo ≠ TipoDatos.wait) (hsignal : men.tipo ≠ TipoDatos.signal) :
      Manejador soc men (pure ())

/-- **A message of a CPU** is received and given to its handler. -/
lemma administrarMenCpus_some {soc : ℤ} {u : Unit}
    (h : correr (administrarMenCpus soc) k io = some ((u, k'), io')) :
    ∃ men io₁ t, io.entrada = .comun men :: io₁.entrada ∧ io₁.salida = io.salida ∧
      Manejador soc men t ∧ correr t k io₁ = some ((u, k'), io') := by
  obtain ⟨men, k₁, io₁, hm, h₁⟩ := correr_bind_some h
  obtain ⟨rfl, he, hs⟩ := correr_recvComun_some hm
  have hcall : ∀ t, Manejador soc men t → correr t k₁ io₁ = some ((u, k'), io') → ∃ men io₁ t,
      io.entrada = .comun men :: io₁.entrada ∧ io₁.salida = io.salida ∧ Manejador soc men t ∧
        correr t k₁ io₁ = some ((u, k'), io') := fun t ht hr => ⟨men, io₁, t, he, hs, ht, hr⟩
  by_cases c₁ : men.tipo = TipoDatos.conecCerrada
  · exact hcall _ (.conecCerrada c₁) (by rwa [if_pos c₁] at h₁)
  rw [if_neg c₁] at h₁
  by_cases c₂ : men.tipo = TipoDatos.finQuantum
  · exact hcall _ (.finQuantum c₂) (by rwa [if_pos c₂] at h₁)
  rw [if_neg c₂] at h₁
  by_cases c₃ : men.tipo = TipoDatos.finEjecucion
  · exact hcall _ (.finEjecucion c₃) (by rwa [if_pos c₃] at h₁)
  rw [if_neg c₃] at h₁
  by_cases c₄ : men.tipo = TipoDatos.segmenFault
  · exact hcall _ (.segmenFault c₄) (by rwa [if_pos c₄] at h₁)
  rw [if_neg c₄] at h₁
  by_cases c₅ : men.tipo = TipoDatos.imprimirTexto
  · exact hcall _ (.imprimirTexto c₅) (by rwa [if_pos c₅] at h₁)
  rw [if_neg c₅] at h₁
  by_cases c₆ : men.tipo = TipoDatos.imprimirValor
  · exact hcall _ (.imprimirValor c₆) (by rwa [if_pos c₆] at h₁)
  rw [if_neg c₆] at h₁
  by_cases c₇ : men.tipo = TipoDatos.obtenerValor
  · exact hcall _ (.obtenerValor c₇) (by rwa [if_pos c₇] at h₁)
  rw [if_neg c₇] at h₁
  by_cases c₈ : men.tipo = TipoDatos.grabarValor
  · exact hcall _ (.grabarValor c₈) (by rwa [if_pos c₈] at h₁)
  rw [if_neg c₈] at h₁
  by_cases c₉ : men.tipo = TipoDatos.wait
  · exact hcall _ (.wait c₉) (by rwa [if_pos c₉] at h₁)
  rw [if_neg c₉] at h₁
  by_cases c₁₀ : men.tipo = TipoDatos.signal
  · exact hcall _ (.signal c₁₀) (by rwa [if_pos c₁₀] at h₁)
  rw [if_neg c₁₀] at h₁
  by_cases c₁₁ : men.tipo = TipoDatos.ioId
  · exact hcall _ (.ioId c₁₁) (by rwa [if_pos c₁₁] at h₁)
  · exact hcall _ (.ninguno c₉ c₁₀) (by rwa [if_neg c₁₁] at h₁)

/-! ### Program connections -/

/-- A step of `mover_pcb_exit`. -/
lemma desconecta_some {α : Type} {c : Cola} {soc : ℤ} {f : Hilo α} {a : α}
    (h : correr (buscarPcb c soc >>= fun r => pasarPcbExit r >>= fun _ => f) k io =
      some ((a, k'), io')) :
    ∃ k₁, k.Desconecta c soc k₁ ∧ correr f k₁ io = some ((a, k'), io') := by
  obtain ⟨r, k₁, io₁, hr, h₁⟩ := correr_bind_some h
  obtain ⟨rfl, ⟨x, rfl, hs⟩ | ⟨rfl, hn, rfl⟩⟩ := queueRotar_some hr
  · exact ⟨_, .inl ⟨x, k₁, hs, rfl⟩, h₁⟩
  · exact ⟨_, .inr ⟨hn, rfl⟩, h₁⟩

lemma moverPcbExit_some {soc : ℤ} {u : Unit}
    (h : correr (moverPcbExit soc) k io = some ((u, k'), io')) :
    io' = io ∧ ∃ k₁ k₂ k₃, k.Desconecta .new soc k₁ ∧ k₁.Desconecta .ready soc k₂ ∧
      k₂.Desconecta .block soc k₃ ∧ k₃.Desconecta .exec soc k' := by
  unfold moverPcbExit at h
  obtain ⟨k₁, h₁, hk₁⟩ := desconecta_some h
  obtain ⟨k₂, h₂, hk₂⟩ := desconecta_some hk₁
  obtain ⟨k₃, h₃, hk₃⟩ := desconecta_some hk₂
  obtain ⟨k₄, h₄, hk₄⟩ := desconecta_some hk₃
  obtain ⟨-, rfl, rfl⟩ := correr_some rfl hk₄
  exact ⟨rfl, k₁, k₂, k₃, h₁, h₂, h₃, h₄⟩

lemma administrarProgCerrado_some {soc : ℤ} {u : Unit}
    (h : correr (administrarProgCerrado soc) k io = some ((u, k'), io')) :
    ∃ k₁ k₂ k₃ k₄, (k.conSocProgs (k.conjSocProgs.erase soc)).Desconecta .new soc k₁ ∧
      k₁.Desconecta .ready soc k₂ ∧ k₂.Desconecta .block soc k₃ ∧ k₃.Desconecta .exec soc k₄ ∧
      ((∃ cpu, k₄.listaCpu.find? (fun unCpu => unCpu.socProg == soc) = some cpu ∧
          k' = (k₄.conCpus (k₄.listaCpu.eraseP fun unCpu => unCpu.socProg == soc)).soltarSoc
            cpu.socCpu) ∨
        (k₄.listaCpu.find? (fun unCpu => unCpu.socProg == soc) = none ∧
          k' = k₄.conCpus (k₄.listaCpu.eraseP fun unCpu => unCpu.socProg == soc))) := by
  simp only [administrarProgCerrado, correr_bind, correr_fdClrProgs, correr_lock,
    Option.bind_some] at h
  rw [Option.bind_eq_some_iff] at h
  obtain ⟨⟨⟨_, k₄⟩, io₁⟩, hm, h₁⟩ := h
  obtain ⟨rfl, k₁, k₂, k₃, hk₁, hk₂, hk₃, hk₄⟩ := moverPcbExit_some hm
  refine ⟨k₁, k₂, k₃, k₄, hk₁, hk₂, hk₃, hk₄, ?_⟩
  simp only [correr_listaCpuRemove, Option.bind_some] at h₁
  split at h₁
  · rename_i cpu hcpu
    obtain ⟨-, rfl, rfl⟩ := correr_some rfl h₁
    exact .inl ⟨cpu, hcpu, rfl⟩
  · rename_i hnada
    obtain ⟨-, rfl, rfl⟩ := correr_some rfl h₁
    exact .inr ⟨hnada, rfl⟩

/-- A call that leaves the globals as they are. -/
def NoToca {α : Type} (t : Hilo α) : Prop :=
  ∀ k io a k' io', correr t k io = some ((a, k'), io') → k' = k

namespace NoToca

variable {α β : Type}

lemma bind {t : Hilo α} {f : α → Hilo β} (ht : NoToca t) (hf : ∀ a, NoToca (f a)) :
    NoToca (t >>= f) := by
  intro k io b k' io' h
  obtain ⟨a, k₁, io₁, h₁, h₂⟩ := correr_bind_some h
  rw [hf a _ _ _ _ _ h₂, ht _ _ _ _ _ h₁]

lemma pure (a : α) : NoToca (pure a : Hilo α) := fun _ _ _ _ _ h => (correr_some rfl h).2.1

lemma get : NoToca (get : Hilo Estado) := fun _ _ _ _ _ h => (correr_some rfl h).2.1

lemma enviar (soc : ℤ) (men : Mensaje) : NoToca (enviar soc men) :=
  fun _ _ _ _ _ h => (correr_some rfl h).2.1

lemma recvComun (soc : ℤ) : NoToca (recvComun soc) := fun _ _ _ _ _ h => (correr_recvComun_some h).1

lemma deref (a : Option α) : NoToca (deref a) := fun _ _ _ _ _ h => (correr_deref_some h).2.1

lemma entero (x : ℤ) : NoToca (entero x) := fun _ _ _ _ _ h => (correr_entero_some h).2.2.2.1

lemma gestionarRespSolMem : NoToca gestionarRespSolMem := by
  refine bind get fun k => bind (recvComun _) fun resp => ?_
  split
  · exact pure _
  · exact bind (deref _) fun _ => pure _

lemma pedirSegmento (tipo tam : ℤ) : NoToca (pedirSegmento tipo tam) :=
  bind get fun _ => bind (enviar _ _) fun _ => gestionarRespSolMem

lemma solicitarMem (metadata : List Byte → MetadataProgram) (men : MenComun) :
    NoToca (solicitarMem metadata men) := by
  refine bind (pedirSegmento _ _) fun cod => ?_
  split
  · exact pure _
  refine bind (pedirSegmento _ _) fun eti => ?_
  split
  · exact pure _
  refine bind (entero _) fun tam => bind (pedirSegmento _ _) fun ind => ?_
  split
  · exact pure _
  refine bind get fun k => bind (pedirSegmento _ _) fun stack => ?_
  split <;> exact pure _

lemma escribirSegmento (men : MenComun) : NoToca (escribirSegmento men) :=
  bind get fun _ => bind (enviar _ _) fun _ => bind (enviar _ _) fun _ =>
    bind (recvComun _) fun _ => pure _

end NoToca

lemma crearPcbEscribirSegUmv_some {metadata : List Byte → MetadataProgram} {basura : ℤ}
    {men : MenComun} {resp : RespSolMem} {pcb : Pcb}
    (h : correr (crearPcbEscribirSegUmv metadata basura men resp) k io = some ((pcb, k'), io')) :
    k' = k ∧ pcb.id = k.contadorPrograma := by
  obtain ⟨_, k₁, io₁, h₁, hr⟩ := correr_bind_some h
  obtain rfl := NoToca.escribirSegmento _ _ _ _ _ _ h₁
  obtain ⟨_, k₂, io₂, h₂, hr₂⟩ := correr_bind_some hr
  obtain rfl := NoToca.escribirSegmento _ _ _ _ _ _ h₂
  obtain ⟨_, k₃, io₃, h₃, hr₃⟩ := correr_bind_some hr₂
  obtain rfl := NoToca.escribirSegmento _ _ _ _ _ _ h₃
  obtain ⟨rfl, rfl, rfl⟩ := correr_some rfl hr₃
  exact ⟨rfl, rfl⟩

lemma administrarNewScript_some {metadata : List Byte → MetadataProgram} {basura soc : ℤ}
    {men : MenComun} {u : Unit}
    (h : correr (administrarNewScript metadata basura soc men) k io = some ((u, k'), io')) :
    k' = (k.conContador (k.contadorPrograma + 1)).conSocProgs (k.conjSocProgs.erase soc) ∨
    ∃ pcb peso, pcb.id = k.contadorPrograma + 1 ∧
      k' = (((k.conContador (k.contadorPrograma + 1)).conVivos (pcb.id :: k.vivos)).encolar .new
        (some ⟨pcb, soc, peso, -1⟩)).sumar .cantNew := by
  simp only [administrarNewScript, correr_bind, correr_get, Option.bind_some] at h
  rw [Option.bind_eq_some_iff] at h
  obtain ⟨⟨⟨n, k₁⟩, io₁⟩, hn, h₁⟩ := h
  obtain ⟨rfl, -, -, rfl, rfl⟩ := correr_entero_some hn
  simp only [correr_modify, Option.bind_some] at h₁
  rw [Option.bind_eq_some_iff] at h₁
  obtain ⟨⟨⟨resp, k₂⟩, io₂⟩, hm, h₂⟩ := h₁
  obtain rfl := NoToca.solicitarMem _ _ _ _ _ _ _ hm
  split at h₂
  · obtain ⟨-, rfl, rfl⟩ := correr_some rfl h₂
    exact .inl rfl
  · obtain ⟨pcb, k₃, io₃, hp, h₃⟩ := correr_bind_some h₂
    obtain ⟨rfl, hid⟩ := crearPcbEscribirSegUmv_some hp
    obtain ⟨peso, k₄, io₄, hw, h₄⟩ := correr_bind_some h₃
    obtain ⟨-, -, -, rfl, rfl⟩ := correr_entero_some hw
    simp only [correr_bind, correr_lock, correr_modify, correr_queuePush, correr_semIncre,
      correr_unlock, Option.bind_some, Option.some.injEq, Prod.mk.injEq] at h₄
    obtain ⟨⟨-, rfl⟩, rfl⟩ := h₄
    exact .inr ⟨pcb, peso, hid, rfl⟩

/-! ### Manager threads -/

/-- The smallest weight not above the one it starts from, and a queue that has gone round. -/
lemma pesoMinLoop_some : ∀ (l r : List (Option PcbOtros)) (m m' : ℤ) (q : List (Option PcbOtros)),
    pesoMinLoop l.length (l ++ r) m = some (q, m') →
    q = r ++ l ∧ m' ≤ m ∧ (∀ y ∈ l, ∃ z, y = some z ∧ m' ≤ z.peso) ∧
      (m' = m ∨ ∃ z, some z ∈ l ∧ z.peso = m')
  | [], r, m, m', q, h => by
    obtain ⟨rfl, rfl⟩ := by simpa [pesoMinLoop] using h
    simp
  | none :: l, r, m, m', q, h => absurd h (by simp [pesoMinLoop])
  | some x :: l, r, m, m', q, h => by
    rw [List.length_cons, List.cons_append, pesoMinLoop, List.append_assoc] at h
    obtain ⟨rfl, hle, hall, hex⟩ := pesoMinLoop_some l _ _ _ _ h
    have hx : m' ≤ x.peso ∧ m' ≤ m := by split at hle <;> omega
    refine ⟨by simp, hx.2, ?_, ?_⟩
    · intro y hy
      rcases List.mem_cons.1 hy with rfl | hy
      · exact ⟨x, rfl, hx.1⟩
      · exact hall y hy
    · rcases hex with heq | ⟨z, hz, hpeso⟩
      · by_cases hlt : x.peso < m
        · exact .inr ⟨x, by simp, by rw [heq, if_pos hlt]⟩
        · exact .inl (by rw [heq, if_neg hlt])
      · exact .inr ⟨z, List.mem_cons_of_mem _ hz, hpeso⟩

/-- **`get_peso_min`** takes out the first of the lightest processes, provided that it is no
heavier than 1000000; it gives `NULL` when all are heavier. -/
lemma getPesoMin_some {r : Option PcbOtros}
    (h : correr getPesoMin k io = some ((r, k'), io')) :
    io' = io ∧ ((∃ x, r = some x ∧ k.Saca .new (fun y => x.peso == y.peso) x k' ∧
        x.peso ≤ 1000000 ∧ ∀ y, some y ∈ k.colas .new → x.peso ≤ y.peso) ∨
      (r = none ∧ k' = k ∧ ∀ y ∈ k.colas .new, ∃ z, y = some z ∧ 1000000 < z.peso)) := by
  simp only [getPesoMin, correr_bind, correr_get, Option.bind_some] at h
  rw [Option.bind_eq_some_iff] at h
  obtain ⟨⟨⟨⟨q, m⟩, k₁⟩, io₁⟩, hd, h₁⟩ := h
  obtain ⟨hloop, rfl, rfl⟩ := correr_deref_some hd
  obtain ⟨rfl, hle, hall, hex⟩ := pesoMinLoop_some _ [] _ _ _ (by simpa using hloop)
  simp only [correr_modify, Option.bind_some, List.nil_append, Estado.conCola_self] at h₁
  obtain ⟨rfl, ⟨x, rfl, hs⟩ | ⟨rfl, hn, rfl⟩⟩ := queueRotar_some h₁
  · obtain ⟨pre, post, hq, hpre, hx, rfl⟩ := hs
    obtain rfl : m = x.peso := by simpa using hx
    refine ⟨rfl, .inl ⟨x, rfl, ⟨pre, post, hq, hpre, by simp, rfl⟩, hle, fun y hy => ?_⟩⟩
    obtain ⟨z, hz, hmz⟩ := hall _ hy
    exact Option.some.inj hz ▸ hmz
  · refine ⟨rfl, .inr ⟨rfl, rfl, fun y hy => ?_⟩⟩
    obtain ⟨z, rfl, hmz⟩ := hall y hy
    obtain ⟨z', hz', hne⟩ := hn _ hy
    obtain rfl := Option.some.inj hz'
    have hm : m = 1000000 := by
      rcases hex with heq | ⟨w, hw, hpeso⟩
      · exact heq
      · obtain ⟨w', hw', hne'⟩ := hn _ hw
        obtain rfl := Option.some.inj hw'
        exact absurd hpeso.symm (by simpa using hne')
    have : m ≠ z.peso := by simpa using hne
    exact ⟨z, rfl, by omega⟩

lemma manejadorNewReady_some {u : Unit} (h : correr manejadorNewReady k io = some ((u, k'), io')) :
    0 < k.sem .cantNew ∧ 0 < k.sem .cantMultiprog ∧
    ((∃ x k₁, ((k.restar .cantNew).restar .cantMultiprog).Saca .new (fun y => x.peso == y.peso)
        x k₁ ∧ k' = k₁.encolarReady (some x)) ∨
      ((∀ y ∈ k.colas .new, ∃ z, y = some z ∧ 1000000 < z.peso) ∧
        k' = (k.restar .cantNew).restar .cantMultiprog)) := by
  obtain ⟨_, k₁, io₁, hn, h₁⟩ := correr_bind_some h
  obtain ⟨hpn, rfl, rfl⟩ := correr_semDecre_some hn
  obtain ⟨_, k₂, io₂, hm, h₂⟩ := correr_bind_some h₁
  obtain ⟨hpm, rfl, rfl⟩ := correr_semDecre_some hm
  refine ⟨hpn, by simpa using hpm, ?_⟩
  simp only [correr_bind, correr_lock, Option.bind_some] at h₂
  rw [Option.bind_eq_some_iff] at h₂
  obtain ⟨⟨⟨r, k₃⟩, io₃⟩, hg, h₃⟩ := h₂
  obtain ⟨rfl, ⟨x, rfl, hs, -, -⟩ | ⟨rfl, rfl, hall⟩⟩ := getPesoMin_some hg
  · obtain ⟨-, rfl, rfl⟩ := correr_some rfl h₃
    exact .inl ⟨x, k₃, hs, rfl⟩
  · obtain ⟨-, rfl, rfl⟩ := correr_some rfl h₃
    exact .inr ⟨hall, rfl⟩

lemma eq_cons_of_head {α : Type} {l : List (Option α)} {x : α} (h : l.head?.join = some x) :
    l = some x :: l.tail := by
  cases l with
  | nil => exact absurd h (by simp)
  | cons y l => simpa using h

lemma manejadorReadyExec_some {u : Unit}
    (h : correr manejadorReadyExec k io = some ((u, k'), io')) :
    0 < k.sem .cantReady ∧ 0 < k.sem .cantCpuLibres ∧ ∃ k₁,
      k₁ = ((k.restar .cantReady).restar .cantCpuLibres).conCpus
        (k.listaCpu.eraseP fun unCpu => unCpu.idProgExec == 0) ∧
      (((k.colas .ready).head?.join = none ∧ k' = k₁.conCola .ready (k.colas .ready).tail) ∨
        ∃ x l cpu, k.colas .ready = some x :: l ∧
          k.listaCpu.find? (fun unCpu => unCpu.idProgExec == 0) = some cpu ∧
          k' = ((k₁.conCola .ready l).agregarCpu
            { cpu with idProgExec := x.pcb.id, socProg := x.nSocket }).encolar .exec (some x)) := by
  obtain ⟨_, k₁, io₁, hr, h₁⟩ := correr_bind_some h
  obtain ⟨hpr, rfl, rfl⟩ := correr_semDecre_some hr
  obtain ⟨_, k₂, io₂, hl, h₂⟩ := correr_bind_some h₁
  obtain ⟨hpl, rfl, rfl⟩ := correr_semDecre_some hl
  refine ⟨hpr, by simpa using hpl, _, rfl, ?_⟩
  simp only [getCpuLibreRemove, correr_bind, correr_lock, correr_listaCpuRemove, correr_queuePop,
    Option.bind_some] at h₂
  split at h₂
  · rename_i hnada
    obtain ⟨-, rfl, rfl⟩ := correr_some rfl h₂
    exact .inl ⟨hnada, rfl⟩
  · rename_i x hx
    obtain ⟨cpu, k₃, io₃, hc, h₃⟩ := correr_bind_some h₂
    obtain ⟨hf, rfl, rfl⟩ := correr_deref_some hc
    obtain ⟨-, rfl, rfl⟩ := correr_some rfl h₃
    exact .inr ⟨x, _, cpu, eq_cons_of_head hx, hf, rfl⟩

lemma umvDestruiPcb_noToca (id : ℤ) : NoToca (umvDestruiPcb id) :=
  .bind .get fun _ => .bind (.enviar _ _) fun _ => .bind (.recvComun _) fun _ => .pure _

lemma manejadorExit_some {u : Unit} (h : correr manejadorExit k io = some ((u, k'), io')) :
    0 < k.sem .cantExit ∧
    (((k.colas .exit).head?.join = none ∧
        k' = (k.restar .cantExit).conCola .exit (k.colas .exit).tail) ∨
      ∃ x l, k.colas .exit = some x :: l ∧
        k' = ((k.restar .cantExit).conCola .exit l).conVivos (k.vivos.erase x.pcb.id)) := by
  obtain ⟨_, k₁, io₁, hr, h₁⟩ := correr_bind_some h
  obtain ⟨hpos, rfl, rfl⟩ := correr_semDecre_some hr
  refine ⟨hpos, ?_⟩
  simp only [correr_bind, correr_lock, correr_queuePop, correr_unlock, Option.bind_some] at h₁
  split at h₁
  · rename_i hnada
    obtain ⟨-, rfl, rfl⟩ := correr_some rfl h₁
    exact .inl ⟨hnada, rfl⟩
  · rename_i x hx
    refine .inr ⟨x, _, eq_cons_of_head hx, ?_⟩
    by_cases ht : x.tipoFinEjecucion = -1
    · rw [if_neg (by simpa using ht)] at h₁
      obtain ⟨_, k₂, io₂, hu, h₂⟩ := correr_bind_some h₁
      obtain rfl := umvDestruiPcb_noToca _ _ _ _ _ _ hu
      obtain ⟨-, rfl, rfl⟩ := correr_some rfl h₂
      rfl
    · rw [if_pos (by simpa using ht)] at h₁
      simp only [correr_bind, correr_enviarMenComun, Option.bind_some] at h₁
      rw [Option.bind_eq_some_iff] at h₁
      obtain ⟨⟨⟨_, k₂⟩, io₂⟩, hu, h₂⟩ := h₁
      obtain rfl := umvDestruiPcb_noToca _ _ _ _ _ _ hu
      simp only [correr_modify, Option.some.injEq, Prod.mk.injEq] at h₂
      obtain ⟨⟨-, rfl⟩, rfl⟩ := h₂
      rfl

@[simp] lemma correr_ocupar (n : ℤ) : ∀ u : ℕ, correr (ocupar n u) k io = some (((), k), io)
  | 0 => rfl
  | u + 1 => by rw [ocupar, correr_bind, correr_usleep, Option.bind_some, correr_ocupar n u]

lemma manejadorIOTomar_some {disp : List Byte} {u : Unit}
    (h : correr (manejadorIOTomar disp) k io = some ((u, k'), io')) :
    ∃ x p l n, k.diccDispIo disp = some x ∧ x.procesos = p :: l ∧ x.contCantProc = n + 1 ∧
      k' = (k.conIo disp fun x => { x with contCantProc := n }).conIo disp fun x =>
        { x with procesos := x.procesos.tail, proceso := some p } := by
  obtain ⟨_, k₁, io₁, hr, h₁⟩ := correr_bind_some h
  obtain ⟨x, n, hx, hn, rfl, rfl⟩ := correr_semDecreIo_some hr
  simp only [correr_bind, correr_get, Option.bind_some] at h₁
  rw [Option.bind_eq_some_iff] at h₁
  obtain ⟨⟨⟨y, k₂⟩, io₂⟩, hd, h₂⟩ := h₁
  obtain ⟨hy, rfl, rfl⟩ := correr_deref_some hd
  obtain rfl : y = { x with contCantProc := n } := by simpa [hx, eq_comm] using hy
  rw [Option.bind_eq_some_iff] at h₂
  obtain ⟨⟨⟨p, k₃⟩, io₃⟩, hp, h₃⟩ := h₂
  obtain ⟨hhead, rfl, rfl⟩ := correr_deref_some hp
  simp only [correr_modificarIo, Option.some.injEq, Prod.mk.injEq] at h₃
  obtain ⟨⟨-, rfl⟩, rfl⟩ := h₃
  obtain ⟨l, hl⟩ := List.head?_eq_some_iff.1 hhead
  exact ⟨x, p, l, n, hx, hl, hn, rfl⟩

lemma manejadorIOServir_some {disp : List Byte} {u : Unit}
    (h : correr (manejadorIOServir disp) k io = some ((u, k'), io')) :
    ∃ x p k₁, k.diccDispIo disp = some x ∧ x.proceso = some p ∧
      ((∃ y k₂, k.Saca .block (fun x => x.pcb.id == p.idProg) y k₂ ∧
          k₁ = k₂.encolarReady (some y)) ∨
        (k.NoHay .block (fun x => x.pcb.id == p.idProg) ∧ k₁ = k)) ∧
      k' = k₁.conIo disp fun x => { x with proceso := none } := by
  simp only [manejadorIOServir, correr_bind, correr_get, Option.bind_some] at h
  rw [Option.bind_eq_some_iff] at h
  obtain ⟨⟨⟨x, k₁⟩, io₁⟩, hd, h₁⟩ := h
  obtain ⟨hx, rfl, rfl⟩ := correr_deref_some hd
  rw [Option.bind_eq_some_iff] at h₁
  obtain ⟨⟨⟨p, k₂⟩, io₂⟩, hp, h₂⟩ := h₁
  obtain ⟨hproceso, rfl, rfl⟩ := correr_deref_some hp
  simp only [correr_ocupar, Option.bind_some] at h₂
  rw [Option.bind_eq_some_iff] at h₂
  obtain ⟨⟨⟨_, k₃⟩, io₃⟩, hb, h₃⟩ := h₂
  obtain ⟨rfl, hb'⟩ := pasarPcbBlockReady_some hb
  simp only [correr_modificarIo, Option.some.injEq, Prod.mk.injEq] at h₃
  obtain ⟨⟨-, rfl⟩, rfl⟩ := h₃
  exact ⟨x, p, k₃, hx, hproceso, hb', rfl⟩

end Ansisop.Kernel
