import Ansisop.Kernel.Conservation

/-!
The short-term and the long-term scheduler with nothing to schedule.

`get_peso_min` looks for the lightest process of the queue of the new ones, from a weight of 1000000
on: it finds it exactly when some process is not heavier (`pesoMinimo_iff`). An iteration of
`manejador_new_ready` or of `manejador_ready_exec` that gets `NULL` from its queue goes on to the next
one with what it has taken: the tokens of the semaphores, and a CPU.
-/

namespace Ansisop.Kernel

open Ansisop.Sockets Ansisop.Lib Hilo

variable {k k' : Estado} {io io' : Bandeja}

/-! ### The shortest job -/

/-- The first loop of `get_peso_min` goes round a queue of processes. -/
lemma pesoMinLoop_isSome : ∀ (n : ℕ) (q : List (Option PcbOtros)) (m : ℤ), n ≤ q.length →
    (∀ y ∈ q, y.isSome) → (pesoMinLoop n q m).isSome
  | 0, _, _, _, _ => rfl
  | n + 1, [], _, hn, _ => absurd hn (by simp)
  | n + 1, none :: q, _, _, hq => absurd (hq none (List.mem_cons_self ..)) (by simp)
  | n + 1, some x :: q, m, hn, hq => by
    have hn : n ≤ q.length := by simpa using hn
    rw [pesoMinLoop]
    refine pesoMinLoop_isSome n (q ++ [some x]) _ (by simp; omega) fun y hy => hq y ?_
    simpa [or_comm] using hy

/-- `get_peso_min` has a result on every queue of processes. -/
lemma getPesoMin_isSome (hq : ∀ y ∈ k.colas .new, y.isSome) :
    ∃ r k', correr getPesoMin k io = some ((r, k'), io) := by
  obtain ⟨⟨q, m⟩, hloop⟩ := Option.isSome_iff_exists.1
    (pesoMinLoop_isSome (k.colas .new).length (k.colas .new) 1000000 le_rfl hq)
  obtain ⟨rfl, -⟩ := pesoMinLoop_some (k.colas .new) [] _ _ _ (by simpa using hloop)
  obtain ⟨⟨r, q⟩, hrot⟩ := Option.isSome_iff_exists.1
    (rotateFind_isSome (p := Option.map fun x : PcbOtros => m == x.peso) _ (k.colas .new) le_rfl
      fun y hy => by simpa using hq y hy)
  refine ⟨r.join, k.conCola .new q, ?_⟩
  simp only [getPesoMin, correr_bind, correr_get, Option.bind_some, hloop, deref, Option.elim,
    correr_pure, correr_modify, List.nil_append, Estado.conCola_self, queueRotar, hrot]

/-- What `get_peso_min` should do: it gives a process of the queue that no other one is lighter than,
and leaves exactly the others there. -/
def PesoMinimo (k : Estado) (io : Bandeja) : Prop :=
  ∃ x q, correr getPesoMin k io = some ((some x, k.conCola .new q), io) ∧
    (k.colas .new).Perm (some x :: q) ∧ ∀ y, some y ∈ k.colas .new → x.peso ≤ y.peso

/-- **When the shortest job is found**: exactly when some process of the queue weighs no more than
1000000. Otherwise the answer is `NULL`, on a queue that is not empty. -/
theorem pesoMinimo_iff (k : Estado) (io : Bandeja) (l : List PcbOtros)
    (hq : k.colas .new = l.map some) :
    PesoMinimo k io ↔ ∃ y ∈ l, y.peso ≤ 1000000 := by
  have hmem : ∀ y, some y ∈ k.colas .new ↔ y ∈ l := by
    intro y
    rw [hq]
    simp
  obtain ⟨r, k', hr⟩ : ∃ r k', correr getPesoMin k io = some ((r, k'), io) :=
    getPesoMin_isSome (by rw [hq]; simp)
  obtain ⟨-, ⟨x, rfl, hs, hle, hmin⟩ | ⟨rfl, rfl, hall⟩⟩ := getPesoMin_some hr
  · obtain ⟨pre, post, hcola, -, -, rfl⟩ := hs
    have hx : x ∈ l := (hmem x).1 (by rw [hcola]; simp)
    refine ⟨fun _ => ⟨x, hx, hle⟩, fun _ => ⟨x, post ++ pre, hr, ?_, hmin⟩⟩
    rw [hcola]
    exact List.perm_middle.trans (List.perm_append_comm.cons _)
  · constructor
    · rintro ⟨x, q, hx, -, -⟩
      cases hr.symm.trans hx
    · rintro ⟨y, hy, hle⟩
      obtain ⟨z, hz, hlt⟩ := hall (some y) ((hmem y).2 hy)
      obtain rfl := Option.some.inj hz
      omega

/-- A process of this weight. -/
def dePeso (peso : ℤ) : PcbOtros := ⟨⟨0, 0, 0, 0, 0, 0, 1, 0, 0, 0⟩, 7, peso, -1⟩

/-- New processes of these weights, in a kernel with one free CPU and one token of each semaphore. -/
def conPesos (pesos : List ℤ) : Estado where
  colas
    | .new => (pesos.map dePeso).map some
    | _ => []
  listaCpu := [⟨5, 0, 0⟩]
  sem _ := 1
  diccSem _ := none
  diccDispIo _ := none
  diccVar _ := none
  conjSocProgs := {7}
  conjSocCpus := {5}
  socUmv := 4
  contadorPrograma := 0
  quantumMax := 1
  tamanioStack := 1
  vivos := [1]

/-- Among three programs, two of them with the weight of the bound, the lightest is found. -/
theorem pesoMinimo_conPesos : PesoMinimo (conPesos [1000000, 20, 1000000]) ⟨[], []⟩ :=
  (pesoMinimo_iff _ _ ([1000000, 20, 1000000].map dePeso) rfl).2 ⟨dePeso 20, by decide, by decide⟩

/-- A script of more than a million instructions is alone in the queue, and not found. -/
theorem no_pesoMinimo_conPesos :
    (conPesos [1000001]).colas .new ≠ [] ∧ ¬ PesoMinimo (conPesos [1000001]) ⟨[], []⟩ := by
  refine ⟨by decide, ?_⟩
  rintro ⟨x, q, hr, -, -⟩
  obtain ⟨-, ⟨x, -, hs, hle, -⟩ | ⟨hno, -⟩⟩ := getPesoMin_some hr
  · obtain ⟨pre, post, hcola, -⟩ := hs
    have hx : some x ∈ (conPesos [1000001]).colas .new := by rw [hcola]; simp
    obtain rfl : x = dePeso 1000001 := by simpa [conPesos] using hx
    exact absurd hle (by decide)
  · cases hno

/-! ### Iterations that get nothing -/

/-- What an iteration of `manejador_ready_exec` that dispatches nothing should leave: the same CPUs,
and a token for each that is free. -/
structure CpusRepuestas (k k' : Estado) : Prop where
  mismas : k'.listaCpu.Perm k.listaCpu
  contadas : k'.sem .cantCpuLibres = k'.libres.length

/-- The CPU that is taken out is lost, and so is its token: the lists agree only when none was free,
and the count only when it counted one that is not there. -/
lemma cpusRepuestas_iff {u : Unit} (hr : correr manejadorReadyExec k io = some ((u, k'), io'))
    (hnull : (k.colas .ready).head?.join = none) :
    CpusRepuestas k k' ↔ k.libres = [] ∧ k.sem .cantCpuLibres = 1 := by
  obtain ⟨-, hpos, k₁, rfl, ⟨-, rfl⟩ | ⟨x, l, cpu, hcola, -⟩⟩ := manejadorReadyExec_some hr
  · set k₂ := (((k.restar .cantReady).restar .cantCpuLibres).conCpus
      (k.listaCpu.eraseP fun unCpu => unCpu.idProgExec == 0)).conCola .ready
        (k.colas .ready).tail with hk₂
    have hlista : k₂.listaCpu = k.listaCpu.eraseP fun unCpu => unCpu.idProgExec == 0 := rfl
    have hsem : k₂.sem .cantCpuLibres = k.sem .cantCpuLibres - 1 := by
      simp [hk₂, Estado.restar, Estado.conSem, Estado.conCpus, Estado.conCola]
    have hlibres : k.libres = [] ↔ ∀ cpu ∈ k.listaCpu, ¬ (cpu.idProgExec == 0) = true := by
      simp [Estado.libres]
    constructor
    · rintro ⟨hmismas, hcontadas⟩
      -- no CPU has left the list, so none was free
      have hno : k.libres = [] := by
        rw [hlibres]
        intro cpu hcpu hlibre
        have hlen := hmismas.length_eq
        have hpos := List.length_pos_of_mem hcpu
        rw [hlista, List.length_eraseP_of_mem hcpu hlibre] at hlen
        omega
      refine ⟨hno, ?_⟩
      have herase := List.eraseP_of_forall_not (hlibres.1 hno)
      have hlibres₂ : k₂.libres = [] := by
        unfold Estado.libres at hno ⊢
        rw [hlista, herase]
        exact hno
      rw [hsem, hlibres₂, List.length_nil] at hcontadas
      omega
    · rintro ⟨hno, huno⟩
      have herase := List.eraseP_of_forall_not (hlibres.1 hno)
      refine ⟨by rw [hlista, herase], ?_⟩
      have hlibres₂ : k₂.libres = [] := by
        unfold Estado.libres at hno ⊢
        rw [hlista, herase]
        exact hno
      rw [hsem, hlibres₂, huno]
      rfl
  · rw [hcola] at hnull
    cases hnull

/-- An iteration of `manejador_new_ready` that gets `NULL` keeps its token of `cant_multiprog`. -/
lemma multiprog_perdido {k₁ : Estado} {io₁ : Bandeja} {u : Unit}
    (hr : correr manejadorNewReady k io = some ((u, k'), io'))
    (hnull : correr getPesoMin ((k.restar .cantNew).restar .cantMultiprog) io
      = some ((none, k₁), io₁)) :
    k'.sem .cantMultiprog + 1 = k.sem .cantMultiprog := by
  obtain ⟨_, k₂, io₂, hn, h₁⟩ := correr_bind_some hr
  obtain ⟨-, rfl, rfl⟩ := correr_semDecre_some hn
  obtain ⟨_, k₃, io₃, hm, h₂⟩ := correr_bind_some h₁
  obtain ⟨hpos, rfl, rfl⟩ := correr_semDecre_some hm
  obtain ⟨-, ⟨x, hx, -⟩ | ⟨-, rfl, -⟩⟩ := getPesoMin_some hnull
  · cases hx
  · have hnull : correr getPesoMin ((k.conSem .cantNew (k.sem .cantNew - 1)).conSem .cantMultiprog
        ((k.conSem .cantNew (k.sem .cantNew - 1)).sem .cantMultiprog - 1)) _
          = some ((none, _), io₁) := hnull
    simp only [correr_bind, correr_lock, Option.bind_some, hnull, correr_unlock] at h₂
    obtain ⟨⟨-, rfl⟩, -⟩ := by simpa using h₂
    have hpos : 0 < k.sem .cantMultiprog := hpos
    have hsem : ((k.restar .cantNew).restar .cantMultiprog).sem .cantMultiprog
        = k.sem .cantMultiprog - 1 := by simp [Estado.restar, Estado.conSem]
    omega

/-- **What a failed dispatch leaves.** An iteration of `manejador_ready_exec` that gets `NULL` leaves
the CPUs and their count as they should be exactly when no CPU was free and `cant_cpu_libres` counted
one all the same; one of `manejador_new_ready` never leaves `cant_multiprog` as it was. -/
theorem despachoFallido_iff (k k' : Estado) (io io' : Bandeja) :
    (correr manejadorReadyExec k io = some (((), k'), io') → (k.colas .ready).head?.join = none →
      (CpusRepuestas k k' ↔ k.libres = [] ∧ k.sem .cantCpuLibres = 1)) ∧
    (correr manejadorNewReady k io = some (((), k'), io') → ∀ (k₁ : Estado) (io₁ : Bandeja),
      correr getPesoMin ((k.restar .cantNew).restar .cantMultiprog) io = some ((none, k₁), io₁) →
        k'.sem .cantMultiprog ≠ k.sem .cantMultiprog) := by
  refine ⟨fun hr hnull => cpusRepuestas_iff hr hnull, fun hr k₁ io₁ hnull => ?_⟩
  have := multiprog_perdido hr hnull
  omega

/-- The semaphores counted one CPU that is not there, and the count is right again; the place of a new
process that weighs too much is gone. -/
theorem despachoFallido_conPesos :
    ∃ k' k₁, correr manejadorReadyExec ((conPesos []).conCpus []) ⟨[], []⟩
        = some (((), k'), ⟨[], []⟩) ∧ CpusRepuestas ((conPesos []).conCpus []) k' ∧
      correr manejadorNewReady (conPesos [1000001]) ⟨[], []⟩ = some (((), k₁), ⟨[], []⟩) ∧
      k₁.sem .cantMultiprog ≠ (conPesos [1000001]).sem .cantMultiprog :=
  ⟨_, _, rfl, ((despachoFallido_iff ((conPesos []).conCpus []) _ ⟨[], []⟩ _).1 rfl rfl).2 (by decide), rfl,
    (despachoFallido_iff (conPesos [1000001]) _ ⟨[], []⟩ _).2 rfl _ _ rfl⟩

/-- The program of the only ready process has disconnected: the free CPU is taken out of the list with
its token, and neither comes back. A heavy process that is alone in the queue costs a place. -/
theorem despachoFallido_pierde :
    ∃ k' k₁, correr manejadorReadyExec (conPesos []) ⟨[], []⟩ = some (((), k'), ⟨[], []⟩) ∧
      (conPesos []).listaCpu = [⟨5, 0, 0⟩] ∧ k'.listaCpu = [] ∧ ¬ CpusRepuestas (conPesos []) k' ∧
      correr manejadorNewReady (conPesos [1000001]) ⟨[], []⟩ = some (((), k₁), ⟨[], []⟩) ∧
      (conPesos [1000001]).sem .cantMultiprog = 1 ∧ k₁.sem .cantMultiprog = 0 := by
  refine ⟨_, _, rfl, rfl, rfl, fun h => ?_, rfl, rfl, rfl⟩
  exact absurd h.mismas.length_eq (by decide)

end Ansisop.Kernel
