import Ansisop.Kernel.Conservation
import Ansisop.Kernel.Mutexes
import Ansisop.Lib.Locks

/-!
When the threads of the kernel do not block each other on their mutexes.

A mutex leads to another one (`Lleva`) when the thread that holds it may still ask for that one
before giving it back. A step crosses no other (`SinCruce`) when the mutex it takes is led to by none
of those that its thread may still ask for while it holds it. While no step crosses, no mutex leads
back to itself, and so no set of threads is deadlocked (`sin_abrazoMortal`). The code takes no care
of that: `fin_quantum` takes `mutex_uso_lista_cpu` and then `mutex_ready`, and `manejador_ready_exec`
takes them the other way round (`abrazoMortal`).
-/

namespace Ansisop.Kernel

open Ansisop.Sockets Ansisop.Lib Dialog Hilo Relation

/-- The event gives the mutex back. -/
def suelta (m : Mutex) : Evento → Prop
  | .unlock m' _ => m' = m
  | _ => False

/-- The event asks for the mutex. -/
def pide (m : Mutex) : Evento → Prop
  | .lock m' _ => m' = m
  | _ => False

namespace Sistema

/-- The thread may still ask for `m'` before it gives `m` back. -/
def Pedira (s : Sistema) (t : HiloId) (m m' : Mutex) : Prop :=
  ∃ x, s.resto t = some x ∧ x.Later (suelta m) (pide m')

def Lleva (s : Sistema) : Mutex → Mutex → Prop := Locks.Leads s.duenio s.Pedira

/-- The step takes no mutex to which one of those leads that its thread may still ask for while it
holds it. -/
def SinCruce (s : Sistema) : Turno → Prop
  | .empieza _ => True
  | .sigue t _ => ∀ m k f, s.resto t = some (.ask (.lock m k) f) →
      ∀ m' ≠ m, (f s.k).Later (suelta m) (pide m') → ¬ ReflTransGen s.Lleva m' m

/-- The threads of `S`, two or more, wait for each other's mutexes. -/
def Trabados (s : Sistema) (S : Finset HiloId) : Prop :=
  Locks.Deadlock s.duenio (fun t m => s.pedido t = some m) S

/-- The mutexes that a thread holds. -/
def tomados (s : Sistema) (t : HiloId) : Finset Mutex :=
  Finset.univ.filter fun m => s.duenio m = some t

/-- Each thread holds the mutexes its program gives back, and no mutex leads back to itself. -/
structure Ordenados (s : Sistema) : Prop where
  reposo : ∀ t, s.resto t = none → s.tomados t = ∅
  trabajo : ∀ t x, s.resto t = some x → Keeps mutexes x (s.tomados t) fun _ h => h = ∅
  aciclico : Locks.Acyclic s.Lleva

section Pasos

variable {metadata : List Byte → MetadataProgram} {s s' : Sistema} {t u : HiloId} {m : Mutex}

@[simp] lemma mem_tomados : m ∈ s.tomados t ↔ s.duenio m = some t := by simp [tomados]

/-- What an answer does to the holders. -/
lemma responde_duenio {men : Option Mensaje} {e : Evento} {r : e.Respuesta}
    {d : Mutex → Option HiloId} (h : s.responde t men e = some (r, d)) :
    (∃ m k, e = .lock m k ∧ s.duenio m = none ∧ d = Function.update s.duenio m (some t)) ∨
      (∃ m k, e = .unlock m k ∧ d = Function.update s.duenio m none) ∨
      (∀ m k, e ≠ .lock m k ∧ e ≠ .unlock m k) ∧ d = s.duenio := by
  cases e with
  | lock m k =>
    simp only [responde] at h
    split at h
    · rename_i hm
      obtain ⟨-, rfl⟩ := by simpa using h
      exact .inl ⟨m, k, rfl, hm, rfl⟩
    · exact absurd h (by simp)
  | unlock m k =>
    obtain ⟨-, rfl⟩ := by simpa [responde] using h
    exact .inr (.inl ⟨m, k, rfl, rfl⟩)
  | recvComun soc k =>
    refine .inr (.inr ⟨by simp, ?_⟩)
    simp only [responde] at h
    split at h
    · simpa using (congrArg (Option.map Prod.snd) h).symm
    · exact absurd h (by simp)
  | recvQuantumPcb soc k =>
    refine .inr (.inr ⟨by simp, ?_⟩)
    simp only [responde] at h
    split at h
    · simpa using (congrArg (Option.map Prod.snd) h).symm
    · exact absurd h (by simp)
  | decre x k =>
    refine .inr (.inr ⟨by simp, ?_⟩)
    simp only [responde] at h
    split at h
    · exact absurd h (by simp)
    · simpa using (congrArg (Option.map Prod.snd) h).symm
  | decreIo disp k =>
    refine .inr (.inr ⟨by simp, ?_⟩)
    simp only [responde] at h
    split at h
    · simpa using (congrArg (Option.map Prod.snd) h).symm
    · exact absurd h (by simp)
  | caida => exact absurd h (by simp [responde])
  | enviar soc men k =>
    refine .inr (.inr ⟨by simp, ?_⟩)
    simpa [responde] using (congrArg (Option.map Prod.snd) h).symm
  | cerrar soc k =>
    refine .inr (.inr ⟨by simp, ?_⟩)
    simpa [responde] using (congrArg (Option.map Prod.snd) h).symm
  | usleep n k =>
    refine .inr (.inr ⟨by simp, ?_⟩)
    simpa [responde] using (congrArg (Option.map Prod.snd) h).symm

lemma tomados_update_self {v : Option HiloId} : { s with duenio := Function.update s.duenio m v }.tomados t =
    if v = some t then insert m (s.tomados t) else (s.tomados t).erase m := by
  ext m'
  by_cases hm : m' = m
  · subst hm
    split <;> simp [*]
  · split <;> simp [hm]

lemma tomados_update_ne {v : Option HiloId} (hm : s.duenio m ≠ some u) (hv : v ≠ some u) :
    { s with duenio := Function.update s.duenio m v }.tomados u = s.tomados u := by
  rw [tomados_update_self, if_neg hv, Finset.erase_eq_of_notMem]
  rwa [mem_tomados]

/-- The monitor of a thread follows the holders; those of the others are as they were. -/
lemma responde_tomados {men : Option Mensaje} {e : Evento} {r : e.Respuesta}
    {d : Mutex → Option HiloId} (h : s.responde t men e = some (r, d))
    (hp : mutexes.allows (s.tomados t) e) :
    mutexes.next (s.tomados t) e r ({ s with duenio := d }.tomados t) ∧
      ∀ u ≠ t, { s with duenio := d }.tomados u = s.tomados u := by
  rcases responde_duenio h with ⟨m, k, rfl, hm, rfl⟩ | ⟨m, k, rfl, rfl⟩ | ⟨hne, rfl⟩
  · refine ⟨by simp [mutexes, tomados_update_self], fun u hu => tomados_update_ne ?_ ?_⟩
    · simp [hm]
    · simpa using hu.symm
  · have ht : s.duenio m = some t := mem_tomados.1 hp
    refine ⟨by simp [mutexes, tomados_update_self], fun u hu => tomados_update_ne ?_ (by simp)⟩
    rw [ht]
    simpa using hu.symm
  · refine ⟨?_, fun _ _ => rfl⟩
    cases e with
    | lock m k => exact absurd rfl (hne m k).1
    | unlock m k => exact absurd rfl (hne m k).2
    | _ => rfl

lemma deja_resto_some {x y : Resto} (h : (s.deja t x).resto t = some y) : y = x := by
  rw [deja_resto_self] at h
  cases x with
  | ret _ => exact absurd h (by simp)
  | ask _ _ => exact (Option.some.inj h).symm

/-- A thread goes on to what is left of its program. -/
lemma deja_keeps {x : Resto} (hx : Keeps mutexes x (s.tomados t) fun _ h => h = ∅) :
    ((s.deja t x).resto t = none → s.tomados t = ∅) ∧
      ∀ y, (s.deja t x).resto t = some y → Keeps mutexes y (s.tomados t) fun _ h => h = ∅ := by
  refine ⟨fun h => ?_, fun y hy => deja_resto_some hy ▸ hx⟩
  rw [deja_resto_self] at h
  cases x with
  | ret r => exact hx
  | ask e f => exact absurd h (by simp)

@[simp] lemma deja_tomados (x : Resto) : (s.deja t x).tomados u = s.tomados u := by
  unfold tomados
  rw [deja_duenio]

lemma responde_lock {men : Option Mensaje} {k : Estado} {r : Estado} {d : Mutex → Option HiloId}
    (h : s.responde t men (.lock m k) = some (r, d)) :
    r = s.k ∧ s.duenio m = none ∧ d = Function.update s.duenio m (some t) := by
  simp only [responde] at h
  split at h
  · rename_i hm
    obtain ⟨rfl, rfl⟩ := by simpa using h
    exact ⟨rfl, hm, rfl⟩
  · exact absurd h (by simp)

/-- A thread that holds another mutex after its step has not given it back. -/
lemma pedira_sigue {e : Evento} {f : e.Respuesta → Resto} {r : e.Respuesta} {m' : Mutex}
    {d : Mutex → Option HiloId} (hr : s.resto t = some (.ask e f)) (he : ¬ suelta m e)
    (h : ({ s with duenio := d }.deja t (f r)).Pedira t m m') : s.Pedira t m m' := by
  obtain ⟨x, hx, hl⟩ := h
  exact ⟨_, hr, .next r he (deja_resto_some hx ▸ hl)⟩

lemma pedira_ne {x : Resto} {m' : Mutex} {d : Mutex → Option HiloId} (hu : u ≠ t)
    (h : ({ s with duenio := d }.deja t x).Pedira u m m') : s.Pedira u m m' := by
  obtain ⟨y, hy, hl⟩ := h
  exact ⟨y, by rwa [deja_resto_ne x hu] at hy, hl⟩

/-- Who holds a mutex after a step held it before and did not give it back, or has just taken it. -/
lemma duenio_sigue {men : Option Mensaje} {e : Evento} {r : e.Respuesta} {d : Mutex → Option HiloId}
    (h : s.responde t men e = some (r, d)) (hu : d m = some u) :
    s.duenio m = some u ∧ ¬ suelta m e ∨ u = t ∧ ∃ k, e = .lock m k := by
  rcases responde_duenio h with ⟨m', k, rfl, hm, rfl⟩ | ⟨m', k, rfl, rfl⟩ | ⟨hne, rfl⟩
  · by_cases hmm : m = m'
    · subst hmm
      exact .inr ⟨by simpa using hu.symm, k, rfl⟩
    · exact .inl ⟨by simpa [hmm] using hu, by simp [suelta]⟩
  · by_cases hmm : m = m'
    · exact absurd hu (by simp [hmm])
    · exact .inl ⟨by simpa [hmm] using hu, by simpa [suelta] using Ne.symm hmm⟩
  · refine .inl ⟨hu, ?_⟩
    cases e with
    | unlock m' k => exact absurd rfl (hne m' k).2
    | _ => exact fun h => h

/-- Where a mutex leads to after a step it did before, or it has just been taken. -/
lemma lleva_sigue {men : Option Mensaje} {e : Evento} {f : e.Respuesta → Resto} {r : e.Respuesta}
    {d : Mutex → Option HiloId} {m' : Mutex} (hr : s.resto t = some (.ask e f))
    (hd : s.responde t men e = some (r, d))
    (h : ({ s with duenio := d }.deja t (f r)).Lleva m m') :
    s.Lleva m m' ∨ (∃ k, e = .lock m k) ∧ m' ≠ m ∧ (f r).Later (suelta m) (pide m') := by
  obtain ⟨hne, u, hu, hp⟩ := h
  rw [deja_duenio] at hu
  rcases duenio_sigue hd hu with ⟨hu, he⟩ | ⟨rfl, hk⟩
  · refine .inl ⟨hne, u, hu, ?_⟩
    by_cases hut : u = t
    · subst hut
      exact pedira_sigue hr he hp
    · exact pedira_ne hut hp
  · obtain ⟨x, hx, hl⟩ := hp
    exact .inr ⟨hk, hne.symm, deja_resto_some hx ▸ hl⟩

/-- **A task is started** by a thread that holds nothing. -/
lemma Ordenados.empieza (h : s.Ordenados) {tarea : Tarea} (hr : s.resto tarea.hilo = none) :
    (s.deja tarea.hilo (tarea.cuerpo metadata s.k)).Ordenados := by
  have hvacio := h.reposo _ hr
  have hx : Keeps mutexes (tarea.cuerpo metadata s.k) (s.tomados tarea.hilo) fun _ h => h = ∅ := by
    rw [hvacio]
    exact (toma_cuerpo metadata tarea).keeps s.k
  refine ⟨fun u hu => ?_, fun u y hy => ?_, h.aciclico.mono ?_⟩
  · rw [deja_tomados]
    by_cases hut : u = tarea.hilo
    · exact hut ▸ hvacio
    · exact h.reposo u (by rwa [deja_resto_ne _ hut] at hu)
  · rw [deja_tomados]
    by_cases hut : u = tarea.hilo
    · subst hut
      exact (deja_keeps hx).2 y hy
    · exact h.trabajo u y (by rwa [deja_resto_ne _ hut] at hy)
  · rintro m m' ⟨hne, u, hu, hp⟩
    rw [deja_duenio] at hu
    have hut : u ≠ tarea.hilo := by
      rintro rfl
      exact absurd (mem_tomados.2 hu) (by simp [hvacio])
    exact ⟨hne, u, hu, pedira_ne hut hp⟩

/-- **A thread goes on**, and crosses no other. -/
lemma Ordenados.sigue (h : s.Ordenados) {men : Option Mensaje} {e : Evento}
    {f : e.Respuesta → Resto} {r : e.Respuesta} {d : Mutex → Option HiloId}
    (hr : s.resto t = some (.ask e f)) (hd : s.responde t men e = some (r, d))
    (hc : s.SinCruce (.sigue t men)) : ({ s with duenio := d }.deja t (f r)).Ordenados := by
  obtain ⟨hp, hk⟩ := h.trabajo t _ hr
  obtain ⟨hnext, hotros⟩ := responde_tomados hd hp
  have hx := hk r _ hnext
  refine ⟨fun u hu => ?_, fun u y hy => ?_, ?_⟩
  · rw [deja_tomados]
    by_cases hut : u = t
    · subst hut
      exact (deja_keeps hx).1 hu
    · rw [hotros u hut]
      exact h.reposo u (by rwa [deja_resto_ne _ hut] at hu)
  · rw [deja_tomados]
    by_cases hut : u = t
    · subst hut
      exact (deja_keeps hx).2 y hy
    · rw [hotros u hut]
      exact h.trabajo u y (by rwa [deja_resto_ne _ hut] at hy)
  · by_cases he : ∃ m k, e = .lock m k
    · -- the edges that are new go out of the mutex that is taken
      obtain ⟨m, k, rfl⟩ := he
      obtain rfl := (responde_lock hd).1
      refine h.aciclico.take (l := m)
        (N := fun m' => m' ≠ m ∧ (f s.k).Later (suelta m) (pide m')) (fun x y hxy => ?_)
        fun m' hm' => hc m k f hr m' hm'.1 hm'.2
      refine (lleva_sigue hr hd hxy).imp_right ?_
      rintro ⟨⟨_, hx⟩, hl⟩
      obtain ⟨rfl, -⟩ := by simpa using hx
      exact ⟨rfl, hl⟩
    · refine h.aciclico.mono fun x y hxy => ?_
      rcases lleva_sigue hr hd hxy with h | ⟨⟨k, hk⟩, -⟩
      · exact h
      · exact absurd ⟨x, k, hk⟩ he

/-- **The step lemma.** -/
theorem Ordenados.paso {a : Turno} (h : s.Ordenados) (hc : s.SinCruce a)
    (hs : Sistema.paso metadata a s = some s') : s'.Ordenados := by
  cases a with
  | empieza tarea =>
    obtain ⟨hr, rfl⟩ := paso_empieza hs
    exact h.empieza hr
  | sigue t men =>
    obtain ⟨e, f, r, d, hr, hd, rfl⟩ := paso_sigue hs
    exact h.sigue hr hd hc

lemma ordenados_alInicio (config : Config) (socUmv : ℤ) : (alInicio config socUmv).Ordenados where
  reposo t _ := by simp [tomados, alInicio]
  trabajo t x h := absurd h (by simp [alInicio])
  aciclico m h := by
    obtain ⟨m', ⟨-, t, ht, -⟩, -⟩ := TransGen.head'_iff.1 h
    exact absurd ht (by simp [alInicio])

/-- Who waits for a mutex will ask for it before giving back anything. -/
lemma pedira_of_pedido (h : s.pedido t = some m) (m' : Mutex) : s.Pedira t m' m := by
  unfold pedido at h
  split at h
  · rename_i m₁ k f hr
    obtain rfl := Option.some.inj h
    exact ⟨_, hr, .here rfl⟩
  · exact absurd h (by simp)

end Pasos

/-- **No deadlock.** In no state of a run whose steps cross no other is there a set of two or more
threads each of which waits for a mutex held by another one of the set. -/
theorem sin_abrazoMortal {metadata : List Byte → MetadataProgram} {config : Config} {socUmv : ℤ}
    {turnos : List Turno} {s : Sistema}
    (ha : Along (paso metadata) SinCruce turnos (alInicio config socUmv))
    (hr : run (paso metadata) turnos (alInicio config socUmv) = some s) (S : Finset HiloId) :
    ¬ s.Trabados S := by
  have h : s.Ordenados := run_invariant (fun _ _ _ h hc hs => h.paso hc hs)
    (ordenados_alInicio config socUmv) ha hr
  exact h.aciclico.not_deadlock (fun _ _ _ _ hw => pedira_of_pedido hw _) S

end Sistema

/-! ### Steps that cross no other -/

section UnaVez

/-- Each mutex is taken at most once. The state is those taken so far. -/
def unaVez : Monitor Evento Evento.Respuesta (Finset Mutex) where
  allows h
    | .lock m _ => m ∉ h
    | _ => True
  next h e _ h' := h' = match e with
    | .lock m _ => insert m h
    | _ => h

/-- Nothing is asked for. -/
def Calla {α : Type} (x : Hilo α) : Prop := ∀ h k, Safe unaVez x k h fun _ _ h' => h' = h

lemma Calla.sigue {α β : Type} {x : Hilo α} {f : α → Hilo β} {h : Finset Mutex} {k : Estado}
    {Q : β → Estado → Finset Mutex → Prop} (hx : Calla x) (hf : ∀ a k, Safe unaVez (f a) k h Q) :
    Safe unaVez (x >>= f) k h Q := (hx h k).bind fun a k _ hh => hh ▸ hf a k

lemma Calla.bind {α β : Type} {x : Hilo α} {f : α → Hilo β} (hx : Calla x) (hf : ∀ a, Calla (f a)) :
    Calla (x >>= f) := fun h _ => hx.sigue fun a k => hf a h k

lemma Calla.segura {α : Type} {x : Hilo α} {h : Finset Mutex} {k : Estado} (hx : Calla x) :
    Safe unaVez x k h fun _ _ _ => True := (hx h k).mono fun _ _ _ _ => trivial

lemma pide_lock {β : Type} {m : Mutex} {f : Unit → Hilo β} {h : Finset Mutex} {k : Estado}
    {Q : β → Estado → Finset Mutex → Prop} (hm : m ∉ h)
    (hf : ∀ k, Safe unaVez (f ()) k (insert m h) Q) : Safe unaVez (lock m >>= f) k h Q :=
  ⟨hm, fun k _ hh => hh ▸ hf k⟩

lemma calla_get : Calla (get : Hilo Estado) := fun _ _ => rfl

lemma calla_deref {α : Type} (a : Option α) : Calla (deref a) := fun _ _ => by
  cases a with
  | none => exact ⟨trivial, nofun⟩
  | some a => exact rfl

lemma calla_modify (g : Estado → Estado) : Calla (modify g : Hilo Unit) := fun _ _ => rfl

lemma calla_unlock (m : Mutex) : Calla (unlock m) := fun _ _ => ⟨trivial, fun _ _ hh => hh⟩

lemma calla_semDecre (x : Sem) : Calla (semDecre x) := fun _ _ => ⟨trivial, fun _ _ hh => hh⟩

lemma unaVez_manejadorNewReady (k : Estado) :
    Safe unaVez manejadorNewReady k ∅ fun _ _ _ => True := by
  refine (calla_semDecre _).sigue fun _ _ => (calla_semDecre _).sigue fun _ _ => ?_
  refine pide_lock (by decide) fun _ => pide_lock (by decide) fun _ => ?_
  have hpeso : Calla getPesoMin := calla_get.bind fun _ => (calla_deref _).bind fun _ =>
    (calla_modify _).bind fun _ => calla_get.bind fun _ => (calla_deref _).bind fun _ =>
    (calla_modify _).bind fun _ _ _ => rfl
  refine hpeso.sigue fun aux _ => ?_
  have hfin : Calla (do unlock .new; unlock .ready) := (calla_unlock _).bind fun _ => calla_unlock _
  cases aux with
  | none => exact hfin.segura
  | some aux =>
    exact (calla_modify _).sigue fun _ _ => (calla_modify _).sigue fun _ _ =>
      hfin.segura

lemma unaVez_manejadorReadyExec (k : Estado) :
    Safe unaVez manejadorReadyExec k ∅ fun _ _ _ => True := by
  refine (calla_semDecre _).sigue fun _ _ => (calla_semDecre _).sigue fun _ _ => ?_
  refine pide_lock (by decide) fun _ => pide_lock (by decide) fun _ => ?_
  have hcpu : Calla getCpuLibreRemove := fun _ _ => rfl
  have hcola : Calla (queuePop .ready) := fun _ _ => rfl
  have hfin : Calla (do unlock .ready; unlock .usoListaCpu) :=
    (calla_unlock _).bind fun _ => calla_unlock _
  refine hcpu.sigue fun cpu _ => hcola.sigue fun aux _ => ?_
  cases aux with
  | none => exact hfin.segura
  | some aux =>
    have henvio : ∀ soc pcb, Calla (enviarCpuPcb soc pcb) :=
      fun _ _ _ _ => ⟨trivial, fun _ _ hh => hh⟩
    exact (calla_deref _).sigue fun cpu _ => (henvio _ _).sigue fun _ _ =>
      (calla_modify _).sigue fun _ _ => (calla_modify _).sigue fun _ _ =>
      hfin.segura

/-- A mutex that may still be asked for has not been taken. -/
lemma notMem_of_later {x : Resto} {h : Finset Mutex} {stop : Evento → Prop} {m : Mutex}
    (hx : Keeps unaVez x h fun _ _ => True) (hl : x.Later stop (pide m)) : m ∉ h := by
  induction hl generalizing h with
  | @here e f he =>
    cases e with
    | lock m' k => exact he ▸ hx.1
    | _ => exact he.elim
  | @next e f r _ _ ih =>
    have := ih (hx.2 r _ rfl)
    cases e with
    | lock m' k => exact fun hm => this (Finset.mem_insert_of_mem hm)
    | _ => exact this

end UnaVez

namespace Sistema

/-- The threads that take processes from one queue to the next. -/
def gestores : List HiloId := [.newReady, .readyExec]

/-- What is left of the tasks of the two threads asks for no mutex that they hold. -/
def SinRepetir (s : Sistema) : Prop :=
  ∀ t ∈ gestores, ∀ x, s.resto t = some x →
    ∃ h, s.tomados t ⊆ h ∧ Keeps unaVez x h fun _ _ => True

/-- What is left of a task gives the mutex back at once. -/
def devuelveYa (m : Mutex) : Resto → Bool
  | .ask (.unlock m' _) _ => m' = m
  | _ => false

/-- The mutex that the thread waits for is given back at once. -/
def tomaYDevuelve (s : Sistema) (t : HiloId) : Bool :=
  match s.resto t with
  | some (.ask (.lock m _) f) => devuelveYa m (f s.k)
  | _ => false

/-- In a form that can be decided: the step takes a mutex that is given back at once, or it takes one
while each of those that are held is, or is held by the same of the two threads. -/
def Suelto (s : Sistema) : Turno → Prop
  | .empieza _ => True
  | .sigue t _ => (s.pedido t).isSome → s.tomaYDevuelve t ∨
      ∀ m, ∀ u ∈ s.duenio m, u = t ∧ t ∈ gestores ∨ ∃ x ∈ s.resto u, devuelveYa m x

instance (s : Sistema) : (a : Turno) → Decidable (s.Suelto a)
  | .empieza _ => isTrue trivial
  | .sigue t _ => inferInstanceAs (Decidable ((s.pedido t).isSome → s.tomaYDevuelve t ∨
      ∀ m, ∀ u ∈ s.duenio m, u = t ∧ t ∈ gestores ∨ ∃ x ∈ s.resto u, devuelveYa m x))

/-- Nothing is asked for before a mutex that is given back at once. -/
lemma not_later_of_devuelveYa {m m' : Mutex} {x : Resto} (h : devuelveYa m x) :
    ¬ x.Later (suelta m) (pide m') := by
  intro hl
  unfold devuelveYa at h
  split at h
  · cases hl with
    | here hp => exact hp
    | next _ hs _ => exact hs (of_decide_eq_true (p := _ = m) h)
  · exact absurd h (by simp)

variable {metadata : List Byte → MetadataProgram} {s s' : Sistema}

lemma SinRepetir.paso {a : Turno} (h : s.SinRepetir) (ho : s.Ordenados)
    (hs : Sistema.paso metadata a s = some s') : s'.SinRepetir := by
  intro u hu y hy
  cases a with
  | empieza tarea =>
    obtain ⟨hr, rfl⟩ := paso_empieza hs
    rw [deja_tomados]
    by_cases hut : u = tarea.hilo
    · subst hut
      refine ⟨∅, (ho.reposo _ hr).subset, deja_resto_some hy ▸ ?_⟩
      cases tarea with
      | newReady => exact unaVez_manejadorNewReady s.k
      | readyExec => exact unaVez_manejadorReadyExec s.k
      | _ => exact absurd hu (by simp [gestores, Tarea.hilo])
    · exact h u hu y (by rwa [deja_resto_ne _ hut] at hy)
  | sigue t men =>
    obtain ⟨e, f, r, d, hr, hd, rfl⟩ := paso_sigue hs
    obtain ⟨hnext, hotros⟩ := responde_tomados hd (ho.trabajo t _ hr).1
    rw [deja_tomados]
    by_cases hut : u = t
    · subst hut
      obtain ⟨h₁, hsub, -, hk⟩ := h u hu _ hr
      refine ⟨_, ?_, deja_resto_some hy ▸ hk r _ rfl⟩
      change Sistema.tomados { s with duenio := d } u = _ at hnext
      rw [hnext]
      cases e with
      | lock m k => exact Finset.insert_subset_insert _ hsub
      | unlock m k => exact (Finset.erase_subset _ _).trans hsub
      | _ => exact hsub
    · rw [hotros u hut]
      exact h u hu y (by rwa [deja_resto_ne _ hut] at hy)

lemma SinRepetir.sinCruce {a : Turno} (h : s.SinRepetir) (ha : s.Suelto a) : s.SinCruce a := by
  cases a with
  | empieza tarea => trivial
  | sigue t men =>
    intro m k f hr m' hne hl hm
    have hpedido : (s.pedido t).isSome := by simp [pedido, hr]
    rcases ha hpedido with hya | hya
    · refine not_later_of_devuelveYa ?_ hl
      simpa [tomaYDevuelve, hr] using hya
    · rcases hm.cases_head with heq | ⟨x, ⟨-, u, hu, y, hy, hl'⟩, -⟩
      · exact hne heq
      · rcases hya m' u hu with ⟨rfl, ht⟩ | ⟨z, hz, hya⟩
        · obtain ⟨h₁, hsub, hk⟩ := h u ht _ hr
          exact notMem_of_later hk (.next s.k (by simp [suelta]) hl) (hsub (mem_tomados.2 hu))
        · obtain rfl := Option.some.inj (hy.symm.trans hz)
          exact not_later_of_devuelveYa hya hl'

end Sistema

/-! ### Two programs and two CPUs -/

open Sistema

/-- Two places of multiprogramming. -/
def dosLugares : Config := ⟨2, 2, 64, [], [], []⟩

/-- A task from its start, with the messages its thread receives. -/
def Tarea.turnos (tarea : Tarea) (mens : List (Option Mensaje)) : List Turno :=
  .empieza tarea :: mens.map (.sigue tarea.hilo)

/-- The script of the connection `soc` arrives, and the UMV has room for it. -/
def llegaScript (soc : ℤ) : List Turno :=
  (Tarea.menProgs 0 soc).turnos <|
    some (.comun (crearMenComun TipoDatos.codigoScript [97, 0])) ::
      (respuestasUmv.take 4).flatMap (fun m => [none, some m]) ++
      (respuestasUmv.drop 4).flatMap (fun m => [none, none, some m]) ++ [none, none]

/-- A CPU connects and a script arrives. -/
def llegan : List Turno := (Tarea.newCpu 5).turnos [none, none] ++ llegaScript 7

/-- The script of the first program is in execution on the CPU of the socket 5. The second one
arrives, and has taken `mutex_new`, when the quantum of the first one ends, which takes
`mutex_uso_lista_cpu` and, holding it, `mutex_ready`. -/
def solapados : List Turno :=
  llegan ++ Tarea.newReady.turnos (List.replicate 6 none) ++
    Tarea.readyExec.turnos (List.replicate 7 none) ++ (llegaScript 8).dropLast ++
    (Tarea.menCpus 5).turnos
      [some (.comun (crearMenComun TipoDatos.finQuantum [])), none, none, none,
        some (.quantumPcb ⟨TipoDatos.pcbYQuantum, 0, ⟨0, 400, 300, 200, 100, 400, 1, 1, 0, 0⟩⟩), none]

lemma solapados_estado : ((run (paso unaInstruccion) solapados (alInicio dosLugares 4)).map fun s =>
    (s.duenio .new, s.duenio .usoListaCpu, s.duenio .ready)) =
      some (some .plp, some .pcp, some .pcp) := by
  decide +kernel

theorem solapados_sinAbrazo : ∃ s, run (paso unaInstruccion) solapados (alInicio dosLugares 4) = some s ∧
    s.duenio .new = some .plp ∧ s.duenio .usoListaCpu = some .pcp ∧ s.duenio .ready = some .pcp ∧
      ¬ s.Trabados {.plp, .pcp} := by
  obtain ⟨s, hs, hobs⟩ := Option.map_eq_some_iff.1 solapados_estado
  obtain ⟨hnew, huso, hready⟩ := by simpa using hobs
  have ha : Along (paso unaInstruccion) Suelto solapados (alInicio dosLugares 4) := by decide +kernel
  have hc := ha.strengthen (I := fun s => s.Ordenados ∧ s.SinRepetir)
    (fun _ _ _ h hc hs => ⟨h.1.paso hc hs, h.2.paso h.1 hs⟩) (fun _ _ h ha => h.2.sinCruce ha)
    ⟨ordenados_alInicio _ _, fun _ _ _ h => absurd h nofun⟩
  exact ⟨s, hs, hnew, huso, hready, sin_abrazoMortal hc hs _⟩

/-- The first program is in execution on the CPU of the socket 5, the second one is about to be
dispatched to the other CPU when the quantum of the first one ends. -/
def quantumYDespacho : List Turno :=
  (Tarea.newCpu 5).turnos [none, none] ++ (Tarea.newCpu 6).turnos [none, none] ++
    llegaScript 7 ++ Tarea.newReady.turnos (List.replicate 6 none) ++
    Tarea.readyExec.turnos (List.replicate 7 none) ++
    llegaScript 8 ++ Tarea.newReady.turnos (List.replicate 6 none) ++
    Tarea.readyExec.turnos (List.replicate 3 none) ++
    (Tarea.menCpus 5).turnos
      [some (.comun (crearMenComun TipoDatos.finQuantum [])), none, none, none,
        some (.quantumPcb ⟨TipoDatos.pcbYQuantum, 0, ⟨0, 400, 300, 200, 100, 400, 1, 1, 0, 0⟩⟩)]

lemma quantumYDespacho_estado :
    ((run (paso unaInstruccion) quantumYDespacho (alInicio dosLugares 4)).map fun s =>
      (s.duenio .ready, s.duenio .usoListaCpu, s.pedido .readyExec, s.pedido .pcp)) =
        some (some .readyExec, some .pcp, some .usoListaCpu, some .ready) := by
  decide +kernel

theorem abrazoMortal : ∃ s, run (paso unaInstruccion) quantumYDespacho (alInicio dosLugares 4) =
    some s ∧ s.Trabados {.pcp, .readyExec} := by
  obtain ⟨s, hs, hobs⟩ := Option.map_eq_some_iff.1 quantumYDespacho_estado
  obtain ⟨hready, huso, hexec, hpcp⟩ := by simpa using hobs
  refine ⟨s, hs, by decide, fun t ht => ?_⟩
  rcases Finset.mem_insert.1 ht with rfl | ht
  · exact ⟨.ready, hpcp, .readyExec, by simp, by simp, hready⟩
  · obtain rfl := Finset.mem_singleton.1 ht
    exact ⟨.usoListaCpu, hexec, .pcp, by simp, by simp, huso⟩

end Ansisop.Kernel
