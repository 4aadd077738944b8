import Ansisop.Kernel.Specs
import Ansisop.Kernel.Threads
import Ansisop.Lib.Monitor
import Mathlib.Data.List.ReduceOption

/-!
What the tasks of the threads do to the multiprogramming level.

The level in use is the number of free places and of admitted processes (`Estado.nivel`). A thread
that takes a place or a process out of its queue lowers it, and has it in hand until it puts it back.
`EnMano tarea x c c'` says of a function that its thread, in the task `tarea`, starts it with `c` in
hand and leaves it with `c'`, and that it has nothing in hand wherever it waits for a semaphore. The
rules follow the text of the functions. Three things are left to the others to keep: no queue hands
out `NULL`, `manejador_new_ready` finds a process of a weight it can find, and the program that
disconnects has no process among the new ones (`propicio`).
-/

namespace Ansisop.Kernel

open Ansisop.Sockets Ansisop.Lib Dialog Hilo
open TipoDatos hiding signal wait

/-! ### The level in use -/

/-- The level as `cambiar_multiprog` adds it up. -/
def Estado.nivel (k : Estado) : ℤ :=
  (k.colas .ready).length + (k.colas .block).length + (k.colas .exec).length + k.sem .cantMultiprog

/-- The places that a process takes up in the queue. -/
def Cola.lugares : Cola → ℤ
  | ready | block | exec => 1
  | new | exit => 0

/-- `cola_ready` has no `NULL`. -/
def SinNulos (k : Estado) : Prop := none ∉ k.colas .ready

section Nivel

variable {k : Estado} {c : Cola} {q : List (Option PcbOtros)}

lemma nivel_conCola :
    (k.conCola c q).nivel = k.nivel + c.lugares * (q.length - (k.colas c).length) := by
  cases c <;> simp [Estado.nivel, Cola.lugares] <;> ring

lemma nivel_conSem (s : Sem) (n : ℕ) : (k.conSem s n).nivel =
    k.nivel + if s = .cantMultiprog then (n : ℤ) - k.sem .cantMultiprog else 0 := by
  cases s <;> simp [Estado.nivel]

lemma sinNulos_conCola (h : SinNulos k) (hq : c = .ready → none ∉ q) : SinNulos (k.conCola c q) := by
  cases c with
  | ready => simpa [SinNulos] using hq rfl
  | _ => simpa [SinNulos] using h

end Nivel

/-! ### Threads under watch -/

namespace Evento

/-- The globals with which the thread goes on. -/
def globales : (e : Evento) → e.Respuesta → Estado
  | recvComun _ _, r => r.2
  | recvQuantumPcb _ _, r => r.2
  | caida, r => nomatch r
  | enviar _ _ _, k => k
  | cerrar _ _, k => k
  | lock _ _, k => k
  | unlock _ _, k => k
  | decre _ _, k => k
  | decreIo _ _, k => k
  | usleep _ _, k => k

/-- The places that the thread gets. -/
def lugares : Evento → ℤ
  | decre .cantMultiprog _ => 1
  | _ => 0

/-- The thread waits for a semaphore. -/
def espera : Evento → Bool
  | decre _ _ | decreIo _ _ => true
  | _ => false

end Evento

/-- The queues are as the task needs them, where the thread gets a mutex with the globals `k`. -/
def propicio : Tarea → Evento → Estado → Bool
  | .newReady, .lock .ready _, k => (k.colas .new).reduceOption.any fun x => x.peso ≤ 1000000
  | .menProgs _ soc, .lock .exec _, k => (k.colas .new).reduceOption.all fun x => x.nSocket ≠ soc
  | _, _, _ => true

/-- What a thread has in hand. The monitor adds it to the level of the globals it goes on with, and
writes down how many places were free in them: only the answers take places. -/
def mano (tarea : Tarea) : Monitor Evento Evento.Respuesta (ℤ × ℕ) where
  allows m e := ∀ k, e.vista = some k →
    m.2 ≤ k.sem .cantMultiprog ∧ (e.espera = true → m.1 = k.nivel)
  next m e r m' := ∃ k, e.vista = some k ∧ SinNulos k ∧ SinNulos (e.globales r) ∧
    propicio tarea e (e.globales r) ∧
    m' = (m.1 - k.nivel + e.lugares + (e.globales r).nivel, (e.globales r).sem .cantMultiprog)

/-- The monitor says that the thread has `c` in hand in the globals `k`. -/
structure Tiene (c : ℤ) (k : Estado) (m : ℤ × ℕ) : Prop where
  sinNulos : SinNulos k
  cuenta : m.1 = k.nivel + c
  libres : m.2 ≤ k.sem .cantMultiprog

section Reglas

variable {tarea : Tarea} {α β : Type} {x : Hilo α} {f : α → Hilo β} {c : ℤ} {c₁ : α → ℤ} {c' : β → ℤ}
  {k : Estado} {m : ℤ × ℕ}

def EnMano (tarea : Tarea) (x : Hilo α) (c : ℤ) (c' : α → ℤ) : Prop :=
  ∀ k m, Tiene c k m → Safe (mano tarea) x k m fun a k' m' => Tiene (c' a) k' m'

/-- The function leaves in hand what it finds there. -/
def Neutra (x : Hilo α) : Prop := ∀ tarea c, EnMano tarea x c fun _ => c

lemma EnMano.bind (hx : EnMano tarea x c c₁) (hf : ∀ a, EnMano tarea (f a) (c₁ a) c') :
    EnMano tarea (x >>= f) c c' :=
  fun k m h => (hx k m h).bind fun a k' m' h' => hf a k' m' h'

lemma Neutra.sigue (hx : Neutra x) (hf : ∀ a, EnMano tarea (f a) c c') :
    EnMano tarea (x >>= f) c c' := (hx tarea c).bind hf

lemma Neutra.bind (hx : Neutra x) (hf : ∀ a, Neutra (f a)) : Neutra (x >>= f) :=
  fun tarea c => hx.sigue fun a => hf a tarea c

lemma enMano_pure {c₁ : α → ℤ} (a : α) : EnMano tarea (pure a) (c₁ a) c₁ := fun _ _ h => h

lemma enMano_modify {g : Estado → Estado} (d : ℤ) (hg : ∀ k, SinNulos k → SinNulos (g k) ∧
      (g k).nivel + d = k.nivel + c ∧ k.sem .cantMultiprog ≤ (g k).sem .cantMultiprog) :
    EnMano tarea (modify g : Hilo Unit) c fun _ => d := by
  intro k m h
  obtain ⟨hk, hn, hl⟩ := hg k h.sinNulos
  exact ⟨hk, h.cuenta.trans hn.symm, h.libres.trans hl⟩

/-! ### Operations that leave the level alone -/

lemma neutra_pure (a : α) : Neutra (pure a : Hilo α) := fun _ _ _ _ h => h

lemma neutra_get : Neutra (get : Hilo Estado) := fun _ _ _ _ h => h

lemma neutra_modify {g : Estado → Estado} (hg : ∀ k, (g k).colas .ready = k.colas .ready ∧
      (g k).nivel = k.nivel ∧ (g k).sem .cantMultiprog = k.sem .cantMultiprog) :
    Neutra (modify g : Hilo Unit) := by
  intro tarea c
  refine enMano_modify c fun k hk => ?_
  obtain ⟨hr, hn, hl⟩ := hg k
  exact ⟨by rwa [SinNulos, hr], by rw [hn], hl.ge⟩

lemma mano_caida {f : Empty → Dialog Evento Evento.Respuesta β} {Q : β → ℤ × ℕ → Prop} :
    Keeps (mano tarea) (.ask .caida f) m Q :=
  ⟨nofun, fun _ _ h => absurd h (by simp [mano, Evento.vista])⟩

lemma enMano_caida {c' : α → ℤ} : EnMano tarea (caida : Hilo α) c c' := fun _ _ _ => mano_caida

lemma neutra_deref (a : Option α) : Neutra (deref a) := by
  cases a with
  | none => exact fun _ _ => enMano_caida
  | some a => exact neutra_pure a

/-- A pointer is followed, and it is not `NULL`. -/
lemma enMano_deref {o : Option α} (h : ∀ a, o = some a → EnMano tarea (f a) c c') :
    EnMano tarea (deref o >>= f) c c' := by
  cases o with
  | none => exact fun _ _ _ => mano_caida
  | some a => exact h a rfl

lemma neutra_entero (n : ℤ) : Neutra (entero n) := by
  unfold entero
  split
  · exact neutra_pure _
  · exact fun _ _ => enMano_caida

/-- The event is allowed, and the thread gets what it takes. -/
lemma mano_allows {e : Evento} (hv : e.vista = some k) (h : Tiene c k m)
    (hc : e.espera = true → c = 0) : (mano tarea).allows m e := by
  intro k' hk'
  obtain rfl := Option.some.inj (hv.symm.trans hk')
  exact ⟨h.libres, fun he => by rw [h.cuenta, hc he, add_zero]⟩

lemma mano_next {e : Evento} {r : e.Respuesta} {m' : ℤ × ℕ} (hv : e.vista = some k)
    (h : Tiene c k m) (hn : (mano tarea).next m e r m') :
    propicio tarea e (e.globales r) ∧ Tiene (c + e.lugares) (e.globales r) m' := by
  obtain ⟨k', hk', -, hr, hp, rfl⟩ := hn
  obtain rfl := Option.some.inj (hv.symm.trans hk')
  refine ⟨hp, hr, ?_, le_rfl⟩
  rw [h.cuenta]
  ring

lemma mano_next_cero {e : Evento} {r : e.Respuesta} {m' : ℤ × ℕ} (hv : e.vista = some k)
    (hl : e.lugares = 0) (h : Tiene c k m) (hn : (mano tarea).next m e r m') :
    propicio tarea e (e.globales r) ∧ Tiene c (e.globales r) m' := by
  have hnext := mano_next hv h hn
  rwa [hl, add_zero] at hnext

lemma neutra_enviar (soc : ℤ) (men : Mensaje) : Neutra (enviar soc men) :=
  fun _ _ _ _ h => ⟨mano_allows rfl h nofun, fun _ _ hn => (mano_next_cero rfl rfl h hn).2⟩

lemma neutra_recvComun (soc : ℤ) : Neutra (recvComun soc) :=
  fun _ _ _ _ h => ⟨mano_allows rfl h nofun, fun _ _ hn => (mano_next_cero rfl rfl h hn).2⟩

lemma neutra_recvQuantumPcb (soc : ℤ) : Neutra (recvQuantumPcb soc) :=
  fun _ _ _ _ h => ⟨mano_allows rfl h nofun, fun _ _ hn => (mano_next_cero rfl rfl h hn).2⟩

lemma neutra_socketCerrar (soc : ℤ) : Neutra (socketCerrar soc) :=
  fun _ _ _ _ h => ⟨mano_allows rfl h nofun, fun _ _ hn => (mano_next_cero rfl rfl h hn).2⟩

lemma neutra_lock (m : Mutex) : Neutra (lock m) :=
  fun _ _ _ _ h => ⟨mano_allows rfl h nofun, fun _ _ hn => (mano_next_cero rfl rfl h hn).2⟩

lemma neutra_unlock (m : Mutex) : Neutra (unlock m) :=
  fun _ _ _ _ h => ⟨mano_allows rfl h nofun, fun _ _ hn => (mano_next_cero rfl rfl h hn).2⟩

lemma neutra_usleep (n : ℤ) : Neutra (Hilo.usleep n) :=
  fun _ _ _ _ h => ⟨mano_allows rfl h nofun, fun _ _ hn => (mano_next_cero rfl rfl h hn).2⟩

/-- The mutex is taken where the queues are as the task needs them. -/
lemma enMano_lock {x : Mutex} {f : Unit → Hilo β} (hf : ∀ k m, Tiene c k m →
      (∃ k', propicio tarea (.lock x k') k) →
      Safe (mano tarea) (f ()) k m fun a k' m' => Tiene (c' a) k' m') :
    EnMano tarea (lock x >>= f) c c' := by
  refine fun _ _ h => ⟨mano_allows rfl h nofun, fun r m' hn => ?_⟩
  obtain ⟨hp, hk⟩ := mano_next_cero rfl rfl h hn
  exact hf r m' hk ⟨_, hp⟩

/-- A thread waits for a semaphore with nothing in hand. -/
lemma enMano_semDecre (s : Sem) : EnMano tarea (semDecre s) 0 fun _ =>
    if s = .cantMultiprog then 1 else 0 := by
  refine fun k _ h => ⟨mano_allows rfl h fun _ => rfl, fun r m' hn => ?_⟩
  have hr := (mano_next rfl h hn).2
  cases s <;> exact hr

lemma enMano_semDecreIo (disp : List Byte) : EnMano tarea (semDecreIo disp) 0 fun _ => 0 :=
  fun _ _ h =>
    ⟨mano_allows rfl h fun _ => rfl, fun _ _ hn => (mano_next_cero rfl rfl h hn).2⟩

/-! ### Operations on the queues -/

/-- The processes of an answer. -/
def cuantos : Option PcbOtros → ℤ
  | none => 0
  | some _ => 1

/-- What a function without events computes it computes at once. -/
def Muda (x : Hilo α) : Prop := ∀ k, (∃ r, x k = .ret r) ∨ ∃ f, x k = .ask .caida f

lemma muda_deref (a : Option α) : Muda (deref a) := by
  intro k
  cases a with
  | none => exact .inr ⟨_, rfl⟩
  | some a => exact .inl ⟨_, rfl⟩

lemma Muda.bind (hx : Muda x) (hf : ∀ a, Muda (f a)) : Muda (x >>= f) := by
  intro k
  have hk : (x >>= f) k = x k >>= fun r => f r.1 r.2 := rfl
  rcases hx k with ⟨⟨a, k'⟩, hr⟩ | ⟨g, hr⟩
  · rw [hk, hr, ret_bind]
    exact hf a k'
  · rw [hk, hr, ask_bind]
    exact .inr ⟨_, rfl⟩

lemma muda_get_bind {f : Estado → Hilo β} (hf : ∀ k, Muda (f k)) : Muda (get >>= f) := fun k => hf k k

lemma muda_queueRotar (c : Cola) (p : PcbOtros → Bool) : Muda (queueRotar c p) :=
  muda_get_bind fun _ => (muda_deref _).bind fun _ _ => .inl ⟨_, rfl⟩

lemma muda_getPesoMin : Muda getPesoMin :=
  muda_get_bind fun _ => (muda_deref _).bind fun _ _ => muda_queueRotar .new _ _

/-- A function without events does what its calls do when nobody interrupts them. -/
lemma Muda.safe {Q : α → Estado → ℤ × ℕ → Prop} (hx : Muda x)
    (h : ∀ a k', correr x k ⟨[], []⟩ = some ((a, k'), ⟨[], []⟩) → Q a k' m) :
    Safe (mano tarea) x k m Q := by
  unfold Safe
  rcases hx k with ⟨⟨a, k'⟩, hr⟩ | ⟨g, hr⟩
  · rw [hr]
    exact h a k' (by rw [correr, hr]; rfl)
  · rw [hr]
    exact mano_caida

/-- A search in a queue of the level takes a process in hand. -/
lemma enMano_queueRotar (c : Cola) (p : PcbOtros → Bool) {n : ℤ} :
    EnMano tarea (queueRotar c p) n fun r => n + c.lugares * cuantos r := by
  refine fun k m h => (muda_queueRotar c p).safe fun r k' hr => ?_
  obtain ⟨-, ⟨pre, x, post, hq, -, -, rfl, rfl⟩ | ⟨-, rfl, rfl⟩⟩ := correr_queueRotar_some hr
  · refine ⟨sinNulos_conCola h.sinNulos ?_, ?_, h.libres⟩
    · rintro rfl
      have hk := h.sinNulos
      rw [SinNulos, hq] at hk
      simp only [List.mem_append, List.mem_cons, not_or] at hk ⊢
      exact ⟨hk.2.2, hk.1⟩
    · rw [h.cuenta, nivel_conCola, hq]
      simp only [cuantos, List.length_append, List.length_cons]
      push_cast
      ring
  · exact ⟨h.sinNulos, by simp [cuantos, h.cuenta], h.libres⟩

lemma enMano_queuePush {c : Cola} {x : PcbOtros} {n : ℤ} :
    EnMano tarea (queuePush c (some x)) n fun _ => n - c.lugares := by
  refine enMano_modify _ fun k hk => ⟨sinNulos_conCola hk ?_, ?_, le_rfl⟩
  · rintro rfl
    simpa [SinNulos] using hk
  · rw [nivel_conCola, List.length_append, List.length_singleton]
    push_cast
    ring

/-- The head of `cola_ready` is a process, or the queue is empty. -/
lemma enMano_queuePop_ready : EnMano tarea (queuePop .ready) 0 cuantos := by
  intro k m h
  have hk := h.sinNulos
  have hres : Tiene (cuantos (k.colas .ready).head?.join)
      (k.conCola .ready (k.colas .ready).tail) m := by
    refine ⟨sinNulos_conCola hk fun _ hm => hk (List.mem_of_mem_tail hm), ?_, h.libres⟩
    rw [h.cuenta, nivel_conCola]
    rcases hq : k.colas .ready with _ | ⟨_ | x, q⟩
    · simp [cuantos]
    · exact absurd (by simp [hq]) hk
    · simp [cuantos, Cola.lugares]
  exact hres

lemma neutra_queuePop_exit : Neutra (queuePop .exit) := by
  refine neutra_get.bind fun _ => Neutra.bind (neutra_modify fun k => ⟨rfl, rfl, rfl⟩) fun _ => ?_
  exact neutra_pure _

lemma neutra_fdClrCpus (soc : ℤ) : Neutra (fdClrCpus soc) := neutra_modify fun _ => ⟨rfl, rfl, rfl⟩

lemma neutra_fdClrProgs (soc : ℤ) : Neutra (fdClrProgs soc) := neutra_modify fun _ => ⟨rfl, rfl, rfl⟩

lemma neutra_modificarIo (disp : List Byte) (f : Io → Io) : Neutra (modificarIo disp f) :=
  neutra_modify fun _ => ⟨rfl, rfl, rfl⟩

lemma neutra_modificarSem (clave : List Byte) (f : Semaforo → Semaforo) :
    Neutra (modificarSem clave f) := neutra_modify fun _ => ⟨rfl, rfl, rfl⟩

lemma neutra_listaCpuAdd (cpu : Cpu) : Neutra (listaCpuAdd cpu) := neutra_modify fun _ => ⟨rfl, rfl, rfl⟩

/-- The queues of the level are not touched. -/
lemma neutra_queuePush {c : Cola} (hc : c.lugares = 0) (x : Option PcbOtros) :
    Neutra (queuePush c x) := by
  refine neutra_modify fun k => ⟨?_, by rw [nivel_conCola, hc, zero_mul, add_zero], rfl⟩
  exact Function.update_of_ne (by rintro rfl; exact absurd hc (by decide)) _ _

lemma neutra_listaCpuRemove (p : Cpu → Bool) : Neutra (listaCpuRemove p) := by
  refine neutra_get.bind fun _ => Neutra.bind (neutra_modify fun k => ⟨rfl, rfl, rfl⟩) fun _ => ?_
  exact neutra_pure _

lemma neutra_semIncre {s : Sem} (hs : s ≠ .cantMultiprog) : Neutra (semIncre s) :=
  neutra_modify fun k => ⟨rfl, by rw [nivel_conSem, if_neg hs, add_zero],
    Function.update_of_ne (Ne.symm hs) _ _⟩

/-- A place is given back. -/
lemma enMano_semIncre : EnMano tarea (semIncre .cantMultiprog) 1 fun _ => 0 := by
  refine enMano_modify _ fun k hk => ⟨hk, ?_, by simp⟩
  rw [nivel_conSem, if_pos rfl]
  push_cast
  ring

end Reglas

lemma EnMano.safe {tarea : Tarea} {α : Type} {x : Hilo α} {c : ℤ} {c' : α → ℤ} {k : Estado}
    {m : ℤ × ℕ} (hx : EnMano tarea x c c') (h : Tiene c k m) :
    Safe (mano tarea) x k m fun a k' m' => Tiene (c' a) k' m' := hx k m h

attribute [irreducible] EnMano

/-! ### Functions of the handlers -/

section Funciones

variable {tarea : Tarea} {β : Type} {c' : β → ℤ}

lemma enMano_getPcbOtrosExec (id : ℤ) : EnMano tarea (getPcbOtrosExec id) 0 cuantos := by
  refine (neutra_lock _).sigue fun _ => (enMano_queueRotar _ _).bind fun r => ?_
  refine (neutra_unlock _).sigue fun _ => ?_
  have h : (0 + Cola.lugares .exec * cuantos r : ℤ) = cuantos r := by simp [Cola.lugares]
  rw [h]
  exact enMano_pure r

lemma enMano_pasarPcbExit (x : Option PcbOtros) : EnMano tarea (pasarPcbExit x) (cuantos x) fun _ => 0 := by
  cases x with
  | none => exact neutra_pure () _ _
  | some x =>
    refine (neutra_lock _).sigue fun _ => (neutra_queuePush rfl _).sigue fun _ => ?_
    refine (neutra_semIncre (by decide)).sigue fun _ => (neutra_unlock _).sigue fun _ => ?_
    exact enMano_semIncre

lemma enMano_pasarPcbBlockReady (id : ℤ) :
    EnMano tarea (pasarPcbBlockReady id) 0 fun _ => 0 := by
  refine (neutra_lock _).sigue fun _ => (enMano_queueRotar _ _).bind fun r => ?_
  cases r with
  | none => exact neutra_unlock _ _ _
  | some x =>
    refine (neutra_lock _).sigue fun _ => enMano_queuePush.bind fun _ => ?_
    refine (neutra_semIncre (by decide)).sigue fun _ => (neutra_unlock _).sigue fun _ => ?_
    exact neutra_unlock _ _ _

/-- A search in a queue and the way to `cola_exit`. -/
lemma enMano_buscarPcb {c : Cola} (hc : c.lugares = 1) (soc : ℤ) {y : Hilo β}
    (hy : EnMano tarea y 0 c') : EnMano tarea (do pasarPcbExit (← buscarPcb c soc); y) 0 c' := by
  refine (enMano_queueRotar _ _).bind fun r => ?_
  rw [hc, zero_add, one_mul]
  exact (enMano_pasarPcbExit r).bind fun _ => hy

/-- A disconnected program gives back its places, when none of its processes is new. -/
lemma enMano_moverPcbExit (basura soc : ℤ) :
    EnMano (.menProgs basura soc) (moverPcbExit soc) 0 fun _ => 0 := by
  refine (neutra_lock _).sigue fun _ => (neutra_lock _).sigue fun _ => (neutra_lock _).sigue fun _ => ?_
  refine enMano_lock fun k m h hp => ?_
  have hsoc : ∀ x ∈ (k.colas .new).reduceOption, x.nSocket ≠ soc := by
    obtain ⟨k', hp⟩ := hp
    simpa [propicio] using hp
  have hno : Safe (mano (.menProgs basura soc)) (buscarPcb .new soc) k m
      fun r k' m' => r = none ∧ Tiene 0 k' m' := by
    refine (muda_queueRotar _ _).safe fun r k' hr => ?_
    obtain ⟨-, ⟨pre, x, post, hq, -, hx, -, -⟩ | ⟨-, rfl, rfl⟩⟩ := correr_queueRotar_some hr
    · exact absurd (by simpa using hx) (hsoc x (List.reduceOption_mem_iff.2 (by simp [hq])))
    · exact ⟨rfl, h⟩
  refine hno.bind fun r k' m' hr => ?_
  obtain ⟨rfl, hk'⟩ := hr
  refine EnMano.safe ?_ hk'
  refine (enMano_pasarPcbExit none).bind fun _ => ?_
  refine enMano_buscarPcb (c := .ready) rfl soc ?_
  refine enMano_buscarPcb (c := .block) rfl soc ?_
  refine enMano_buscarPcb (c := .exec) rfl soc ?_
  refine (neutra_unlock _).sigue fun _ => (neutra_unlock _).sigue fun _ => ?_
  exact (neutra_unlock _).sigue fun _ => neutra_unlock _ _ _

lemma neutra_liberarCpu (cpu : Cpu) : Neutra (liberarCpu cpu) :=
  (neutra_listaCpuAdd _).bind fun _ => neutra_semIncre (by decide)

lemma neutra_recvActualizarPcb (soc : ℤ) (pcb : Pcb) : Neutra (recvActualizarPcb soc pcb) :=
  (neutra_recvQuantumPcb _).bind fun _ => neutra_pure _

lemma enMano_actualizarPcbYBloq (cpu : Cpu) :
    EnMano tarea (actualizarPcbYBloq cpu) 0 fun _ => 0 := by
  refine (enMano_getPcbOtrosExec _).bind fun _ => enMano_deref fun aux h => ?_
  subst h
  refine (neutra_recvActualizarPcb _ _).sigue fun pcb => (neutra_recvComun _).sigue fun men => ?_
  have hfin : EnMano tarea (do queuePush .block (some { aux with pcb := pcb }); pure pcb.id)
      (cuantos (some aux)) fun _ => 0 := enMano_queuePush.bind fun _ => neutra_pure _ _ _
  split
  · exact (neutra_liberarCpu _).sigue fun _ => hfin
  · exact (neutra_fdClrCpus _).sigue fun _ => (neutra_socketCerrar _).sigue fun _ => hfin

lemma enMano_llamadaErronea (soc tipo : ℤ) :
    EnMano tarea (llamadaErronea soc tipo) 0 fun _ => 0 := by
  refine (neutra_lock _).sigue fun _ => (neutra_listaCpuRemove _).sigue fun _ => ?_
  refine (neutra_unlock _).sigue fun _ => (neutra_deref _).sigue fun cpu => ?_
  refine (enMano_getPcbOtrosExec _).bind fun _ => enMano_deref fun aux h => ?_
  subst h
  refine EnMano.bind (enMano_pasarPcbExit (some _)) fun _ => (neutra_enviar _ _).sigue fun _ => ?_
  refine (neutra_lock _).sigue fun _ => (neutra_liberarCpu _).sigue fun _ => ?_
  exact neutra_unlock _ _ _

end Funciones

/-! ### Tasks of the PLP -/

section Plp

variable (metadata : List Byte → MetadataProgram)

lemma neutra_ingresarNuevoPrograma (soc : ℤ) : Neutra (ingresarNuevoPrograma soc) :=
  neutra_modify fun _ => ⟨rfl, rfl, rfl⟩

lemma neutra_pedirSegmento (tipo tam : ℤ) : Neutra (pedirSegmento tipo tam) := by
  refine neutra_get.bind fun _ => (neutra_enviar _ _).bind fun _ => neutra_get.bind fun _ =>
    (neutra_recvComun _).bind fun resp => ?_
  split
  · exact neutra_pure _
  · exact (neutra_deref _).bind fun _ => neutra_pure _

lemma neutra_solicitarMem (men : MenComun) : Neutra (solicitarMem metadata men) := by
  refine (neutra_pedirSegmento _ _).bind fun _ => ?_
  split
  · exact neutra_pure _
  refine (neutra_pedirSegmento _ _).bind fun _ => ?_
  split
  · exact neutra_pure _
  refine (neutra_entero _).bind fun _ => (neutra_pedirSegmento _ _).bind fun _ => ?_
  split
  · exact neutra_pure _
  refine neutra_get.bind fun _ => (neutra_pedirSegmento _ _).bind fun _ => ?_
  split
  · exact neutra_pure _
  · exact neutra_pure _

lemma neutra_escribirSegmento (men : MenComun) : Neutra (escribirSegmento men) :=
  neutra_get.bind fun _ => (neutra_enviar _ _).bind fun _ => (neutra_enviar _ _).bind fun _ =>
    (neutra_recvComun _).bind fun _ => neutra_pure _

lemma neutra_crearPcbEscribirSegUmv (basura : ℤ) (men : MenComun) (resp : RespSolMem) :
    Neutra (crearPcbEscribirSegUmv metadata basura men resp) :=
  (neutra_escribirSegmento _).bind fun _ => (neutra_escribirSegmento _).bind fun _ =>
    (neutra_escribirSegmento _).bind fun _ => neutra_get.bind fun _ => neutra_pure _

lemma neutra_administrarNewScript (basura soc : ℤ) (men : MenComun) :
    Neutra (administrarNewScript metadata basura soc men) := by
  refine neutra_get.bind fun _ => (neutra_entero _).bind fun _ => ?_
  refine Neutra.bind (neutra_modify fun k => ⟨rfl, rfl, rfl⟩) fun _ => ?_
  refine (neutra_solicitarMem metadata _).bind fun r => ?_
  cases r with
  | none =>
    exact (neutra_fdClrProgs _).bind fun _ => (neutra_enviar _ _).bind fun _ => neutra_socketCerrar _
  | some resp =>
    refine (neutra_crearPcbEscribirSegUmv metadata _ _ _).bind fun _ => ?_
    refine (neutra_entero _).bind fun _ => (neutra_lock _).bind fun _ => ?_
    refine Neutra.bind (neutra_modify fun _ => ⟨rfl, rfl, rfl⟩) fun _ => ?_
    refine (neutra_queuePush rfl _).bind fun _ => ?_
    exact (neutra_semIncre (by decide)).bind fun _ => neutra_unlock _

lemma enMano_administrarProgCerrado (basura soc : ℤ) :
    EnMano (.menProgs basura soc) (administrarProgCerrado soc) 0 fun _ => 0 := by
  refine (neutra_fdClrProgs _).sigue fun _ => (neutra_lock _).sigue fun _ => ?_
  refine (enMano_moverPcbExit basura soc).bind fun _ => (neutra_listaCpuRemove _).sigue fun r => ?_
  cases r with
  | none => exact neutra_unlock _ _ _
  | some cpu =>
    refine (neutra_fdClrCpus _).sigue fun _ => ?_
    exact (neutra_socketCerrar _).sigue fun _ => neutra_unlock _ _ _

lemma enMano_administrarMenProgs (basura soc : ℤ) :
    EnMano (.menProgs basura soc) (administrarMenProgs metadata basura soc) 0 fun _ => 0 := by
  refine (neutra_recvComun _).sigue fun men => ?_
  split
  · exact enMano_administrarProgCerrado basura soc
  · split
    · exact neutra_administrarNewScript metadata _ _ _ _ _
    · exact neutra_pure _ _ _

end Plp

/-! ### Tasks of the PCP -/

section Pcp

variable {tarea : Tarea}

lemma neutra_ingresarNewCpu (soc : ℤ) : Neutra (ingresarNewCpu soc) := by
  refine Neutra.bind (neutra_modify fun _ => ⟨rfl, rfl, rfl⟩) fun _ => (neutra_lock _).bind fun _ => ?_
  exact (neutra_listaCpuAdd _).bind fun _ => (neutra_semIncre (by decide)).bind fun _ => neutra_unlock _

/-- The end of the handlers that push a process in `cola_ready`. When they push `NULL` there is
nothing to be watched any more. -/
lemma enMano_encolarReady (x : Option PcbOtros) {y : Hilo Unit} (hy : EnMano tarea y 0 fun _ => 0) :
    EnMano tarea (do
      lock .ready
      queuePush .ready x
      semIncre .cantReady
      unlock .ready
      y) (cuantos x) fun _ => 0 := by
  cases x with
  | none =>
    refine enMano_lock fun k m h _ => ⟨fun k' hk' => ⟨?_, nofun⟩, fun _ _ hn => ?_⟩
    · obtain rfl := Option.some.inj hk'
      exact h.libres
    · obtain ⟨k', hk', hnull, -⟩ := hn
      obtain rfl := Option.some.inj hk'
      exact absurd (by simp) hnull
  | some x =>
    refine (neutra_lock _).sigue fun _ => enMano_queuePush.bind fun _ => ?_
    exact (neutra_semIncre (by decide)).sigue fun _ => (neutra_unlock _).sigue fun _ => hy

lemma enMano_conecCerradaCpu (soc : ℤ) : EnMano tarea (conecCerradaCpu soc) 0 fun _ => 0 := by
  refine (neutra_lock _).sigue fun _ => (neutra_listaCpuRemove _).sigue fun _ => ?_
  refine (neutra_fdClrCpus _).sigue fun _ => (neutra_socketCerrar _).sigue fun _ => ?_
  refine (neutra_deref _).sigue fun cpu => ?_
  split
  · refine (enMano_getPcbOtrosExec _).bind fun aux => ?_
    exact enMano_encolarReady aux (neutra_unlock _ _ _)
  · exact (enMano_semDecre .cantCpuLibres).bind fun _ => neutra_unlock _ _ _

lemma enMano_finEjecucion (tipo soc : ℤ) : EnMano tarea (finEjecucion tipo soc) 0 fun _ => 0 := by
  refine (neutra_lock _).sigue fun _ => (neutra_listaCpuRemove _).sigue fun _ => ?_
  refine (neutra_unlock _).sigue fun _ => (neutra_deref _).sigue fun cpu => ?_
  refine (enMano_getPcbOtrosExec _).bind fun _ => enMano_deref fun aux h => ?_
  subst h
  refine EnMano.bind (enMano_pasarPcbExit (some _)) fun _ => (neutra_lock _).sigue fun _ => ?_
  exact (neutra_liberarCpu _).sigue fun _ => neutra_unlock _ _ _

lemma enMano_wait (soc : ℤ) (men : MenComun) : EnMano tarea (wait soc men) 0 fun _ => 0 := by
  refine (neutra_lock _).sigue fun _ => (neutra_deref _).sigue fun clave => ?_
  refine neutra_get.sigue fun k => ?_
  split
  · refine (neutra_entero _).sigue fun _ => (neutra_modificarSem _ _).sigue fun _ => ?_
    split
    · exact (neutra_enviar _ _).sigue fun _ => neutra_unlock _ _ _
    · refine (neutra_lock _).sigue fun _ => (neutra_lock _).sigue fun _ => ?_
      refine (neutra_listaCpuRemove _).sigue fun _ => (neutra_enviar _ _).sigue fun _ => ?_
      refine (neutra_deref _).sigue fun cpu => (enMano_actualizarPcbYBloq cpu).bind fun _ => ?_
      refine (neutra_modificarSem _ _).sigue fun _ => (neutra_unlock _).sigue fun _ => ?_
      exact (neutra_unlock _).sigue fun _ => neutra_unlock _ _ _
  · exact (enMano_llamadaErronea _ _).bind fun _ => neutra_unlock _ _ _

lemma enMano_signal (soc : ℤ) (men : MenComun) : EnMano tarea (signal soc men) 0 fun _ => 0 := by
  refine (neutra_lock _).sigue fun _ => (neutra_deref _).sigue fun clave => ?_
  refine neutra_get.sigue fun k => ?_
  split
  · refine (neutra_entero _).sigue fun _ => (neutra_modificarSem _ _).sigue fun _ => ?_
    split
    · refine (neutra_modificarSem _ _).sigue fun _ => (enMano_pasarPcbBlockReady _).bind fun _ => ?_
      exact (neutra_enviar _ _).sigue fun _ => neutra_unlock _ _ _
    · exact (neutra_enviar _ _).sigue fun _ => neutra_unlock _ _ _
  · exact (enMano_llamadaErronea _ _).bind fun _ => neutra_unlock _ _ _

lemma enMano_enviarIo (soc : ℤ) (men : MenComun) : EnMano tarea (enviarIo soc men) 0 fun _ => 0 := by
  refine (neutra_lock _).sigue fun _ => (neutra_lock _).sigue fun _ => ?_
  refine (neutra_listaCpuRemove _).sigue fun _ => (neutra_recvComun _).sigue fun _ => ?_
  refine (neutra_deref _).sigue fun _ => (neutra_deref _).sigue fun cpu => ?_
  refine (neutra_deref _).sigue fun _ => neutra_get.sigue fun _ => (neutra_deref _).sigue fun _ => ?_
  refine (neutra_modificarIo _ _).sigue fun _ => (enMano_actualizarPcbYBloq cpu).bind fun _ => ?_
  refine (neutra_modificarIo _ _).sigue fun _ => (neutra_unlock _).sigue fun _ => ?_
  exact neutra_unlock _ _ _

lemma enMano_finQuantum (soc : ℤ) (men : MenComun) :
    EnMano tarea (finQuantum soc men) 0 fun _ => 0 := by
  refine (neutra_lock _).sigue fun _ => ?_
  split
  · refine (neutra_listaCpuRemove _).sigue fun _ => (neutra_fdClrCpus _).sigue fun _ => ?_
    refine (neutra_socketCerrar _).sigue fun _ => (neutra_deref _).sigue fun cpu => ?_
    refine (enMano_getPcbOtrosExec _).bind fun aux => ?_
    exact enMano_encolarReady aux (neutra_unlock _ _ _)
  · refine (neutra_listaCpuRemove _).sigue fun _ => (neutra_deref _).sigue fun cpu => ?_
    refine (enMano_getPcbOtrosExec _).bind fun _ => enMano_deref fun aux h => ?_
    subst h
    refine (neutra_recvActualizarPcb _ _).sigue fun pcb => ?_
    refine enMano_encolarReady (some _) ((neutra_liberarCpu _).sigue fun _ => ?_)
    exact neutra_unlock _ _ _

lemma enMano_obtenerValorCompartida (soc : ℤ) (men : MenComun) :
    EnMano tarea (obtenerValorCompartida soc men) 0 fun _ => 0 := by
  refine (neutra_lock _).sigue fun _ => (neutra_deref _).sigue fun clave => ?_
  refine neutra_get.sigue fun k => ?_
  split
  · exact (neutra_enviar _ _).sigue fun _ => neutra_unlock _ _ _
  · exact (enMano_llamadaErronea _ _).bind fun _ => neutra_unlock _ _ _

lemma enMano_grabarValorCompartida (soc : ℤ) (men : MenComun) :
    EnMano tarea (grabarValorCompartida soc men) 0 fun _ => 0 := by
  refine (neutra_lock _).sigue fun _ => (neutra_deref _).sigue fun clave => ?_
  refine neutra_get.sigue fun k => ?_
  split
  · refine (neutra_enviar _ _).sigue fun _ => (neutra_recvComun _).sigue fun _ => ?_
    refine (neutra_deref _).sigue fun _ => Neutra.sigue (neutra_modify fun _ => ⟨rfl, rfl, rfl⟩) fun _ => ?_
    exact (neutra_unlock _).sigue fun _ => neutra_enviar _ _ _ _
  · exact (neutra_unlock _).sigue fun _ => enMano_llamadaErronea _ _

lemma neutra_imprimir {α : Type} (leido : List Byte → Option α) (soc : ℤ) (men : MenComun) :
    Neutra (imprimir leido soc men) := by
  refine (neutra_lock _).bind fun _ => (neutra_get.bind fun _ => neutra_pure _).bind fun _ => ?_
  refine (neutra_deref _).bind fun _ => (neutra_enviar _ _).bind fun _ => ?_
  exact (neutra_unlock _).bind fun _ => (neutra_deref _).bind fun _ => neutra_enviar _ _

lemma enMano_administrarMenCpus (soc : ℤ) :
    EnMano tarea (administrarMenCpus soc) 0 fun _ => 0 := by
  refine (neutra_recvComun _).sigue fun men => ?_
  repeat' split
  · exact enMano_conecCerradaCpu soc
  · exact enMano_finQuantum soc men
  · exact enMano_finEjecucion _ soc
  · exact enMano_finEjecucion _ soc
  · exact neutra_imprimir _ soc men _ _
  · exact neutra_imprimir _ soc men _ _
  · exact enMano_obtenerValorCompartida soc men
  · exact enMano_grabarValorCompartida soc men
  · exact enMano_wait soc men
  · exact enMano_signal soc men
  · exact enMano_enviarIo soc men
  · exact neutra_pure () _ _

end Pcp

/-! ### Tasks of the manager threads -/

section Gestores

variable {tarea : Tarea}

/-- A process of a weight that `get_peso_min` can find is waiting, so it finds one. -/
lemma enMano_manejadorNewReady : EnMano .newReady manejadorNewReady 0 fun _ => 0 := by
  refine (enMano_semDecre _).bind fun _ => (enMano_semDecre _).bind fun _ => ?_
  refine (neutra_lock _).sigue fun _ => enMano_lock fun k m h hp => ?_
  obtain ⟨y, hy, hle⟩ : ∃ y ∈ (k.colas .new).reduceOption, y.peso ≤ 1000000 := by
    obtain ⟨k', hp⟩ := hp
    simpa [propicio] using hp
  have hpeso : Safe (mano .newReady) getPesoMin k m fun r k' m' => r.isSome ∧ Tiene 1 k' m' := by
    refine muda_getPesoMin.safe fun r k' hr => ?_
    obtain ⟨-, ⟨x, rfl, ⟨pre, post, -, -, -, rfl⟩, -, -⟩ | ⟨-, -, hall⟩⟩ := getPesoMin_some hr
    · refine ⟨rfl, sinNulos_conCola h.sinNulos (by simp), ?_, h.libres⟩
      rw [h.cuenta, nivel_conCola]
      simp [Cola.lugares]
    · obtain ⟨z, hz, hlt⟩ := hall _ (List.reduceOption_mem_iff.1 hy)
      obtain rfl := Option.some.inj hz
      omega
  refine hpeso.bind fun r k' m' hr => ?_
  obtain ⟨hsome, hk'⟩ := hr
  obtain ⟨aux, rfl⟩ := Option.isSome_iff_exists.1 hsome
  refine EnMano.safe ?_ hk'
  refine enMano_queuePush.bind fun _ => (neutra_semIncre (by decide)).sigue fun _ => ?_
  exact (neutra_unlock _).sigue fun _ => neutra_unlock _ _ _

lemma enMano_manejadorReadyExec : EnMano tarea manejadorReadyExec 0 fun _ => 0 := by
  refine (enMano_semDecre _).bind fun _ => (enMano_semDecre _).bind fun _ => ?_
  refine (neutra_lock _).sigue fun _ => (neutra_lock _).sigue fun _ => ?_
  refine (neutra_listaCpuRemove _).sigue fun cpu => enMano_queuePop_ready.bind fun aux => ?_
  cases aux with
  | none => exact (neutra_unlock _).sigue fun _ => neutra_unlock _ _ _
  | some aux =>
    have henvio : ∀ soc pcb, Neutra (enviarCpuPcb soc pcb) := fun soc pcb =>
      neutra_get.bind fun _ => neutra_enviar _ _
    refine (neutra_deref _).sigue fun cpu => (henvio _ _).sigue fun _ => ?_
    refine (neutra_listaCpuAdd _).sigue fun _ => enMano_queuePush.bind fun _ => ?_
    exact (neutra_unlock _).sigue fun _ => neutra_unlock _ _ _

lemma enMano_manejadorExit : EnMano tarea manejadorExit 0 fun _ => 0 := by
  refine (enMano_semDecre _).bind fun _ => (neutra_lock _).sigue fun _ => ?_
  refine neutra_queuePop_exit.sigue fun aux => (neutra_unlock _).sigue fun _ => ?_
  have hdestruye : ∀ id, Neutra (umvDestruiPcb id) := fun id => neutra_get.bind fun _ =>
    (neutra_enviar _ _).bind fun _ => (neutra_recvComun _).bind fun _ => neutra_pure _
  cases aux with
  | none => exact neutra_pure () _ _
  | some aux =>
    have hfin : Neutra (do
        umvDestruiPcb aux.pcb.id
        modify fun k => k.conVivos (k.vivos.erase aux.pcb.id)) :=
      (hdestruye _).bind fun _ => neutra_modify fun _ => ⟨rfl, rfl, rfl⟩
    show EnMano tarea (if _ then _ else _) 0 _
    split
    · exact (neutra_enviar _ _).sigue fun _ => hfin _ _
    · exact hfin _ _

lemma neutra_ocupar (micros : ℤ) (n : ℕ) : Neutra (ocupar micros n) := by
  induction n with
  | zero => exact neutra_pure ()
  | succ n ih => exact (neutra_usleep _).bind fun _ => ih

lemma enMano_manejadorIO (disp : List Byte) :
    EnMano tarea (do manejadorIOTomar disp; manejadorIOServir disp) 0 fun _ => 0 := by
  have htomar : EnMano tarea (manejadorIOTomar disp) 0 fun _ => 0 :=
    (enMano_semDecreIo _).bind fun _ => neutra_get.sigue fun _ => (neutra_deref _).sigue fun _ =>
      (neutra_deref _).sigue fun _ => neutra_modificarIo _ _ _ _
  refine htomar.bind fun _ => neutra_get.sigue fun _ => (neutra_deref _).sigue fun _ => ?_
  refine (neutra_deref _).sigue fun _ => (neutra_ocupar _ _).sigue fun _ => ?_
  exact (enMano_pasarPcbBlockReady _).bind fun _ => neutra_modificarIo _ _ _ _

end Gestores

/-- **Every task of a thread other than the console puts back what it takes out**, and waits for
semaphores with nothing in hand. -/
theorem enMano_cuerpo (metadata : List Byte → MetadataProgram) (tarea : Tarea)
    (ht : tarea.hilo ≠ .consola) : EnMano tarea (tarea.cuerpo metadata) 0 fun _ => 0 := by
  cases tarea with
  | nuevoPrograma soc => exact neutra_ingresarNuevoPrograma soc _ _
  | menProgs basura soc => exact enMano_administrarMenProgs metadata basura soc
  | newCpu soc => exact neutra_ingresarNewCpu soc _ _
  | menCpus soc => exact enMano_administrarMenCpus soc
  | newReady => exact enMano_manejadorNewReady
  | readyExec => exact enMano_manejadorReadyExec
  | exit => exact enMano_manejadorExit
  | io disp => exact enMano_manejadorIO disp
  | _ => exact absurd rfl ht

end Ansisop.Kernel
