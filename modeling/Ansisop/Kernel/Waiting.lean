import Ansisop.Kernel.Conservation
import Ansisop.Lib.Waiting

/-!
# Who waits for what

A blocked process is in two places: its pcb is in `cola_block`, and its id is in the queue of a
semaphore or of a device, or is the request that the thread of a device serves. `Espera` is what
this says of the kernel, `Movimiento` are the moves of ids in it, and `Espera.Ley` is what they
keep: each blocked process is recorded in one place, once. The ids of processes that have been
disconnected while they waited stay where they are recorded until they come to the front.
-/

namespace Ansisop.Kernel

open Ansisop.Sockets Ansisop.Lib

/-! ### Places and moves -/

/-- Where the id of a waiting process is recorded. -/
inductive Lugar where
  | sem (clave : List Byte)
  | io (disp : List Byte)
  | servicio (disp : List Byte)
  deriving DecidableEq

/-- The records of the waiting processes, the ids of the processes that are blocked and of those
that are new, ready or in execution, and the last id given. -/
structure Espera where
  fila : Lugar → List ℤ
  bloqueados : Multiset ℤ
  activos : Multiset ℤ
  contador : ℤ

/-- The moves. A blocked process that ends without being woken is one of `deja`. -/
inductive Movimiento (deja : ℤ → Prop) : Espera → Espera → Prop
  | activos (e : Espera) (a : Multiset ℤ) (ha : a ≤ e.activos) :
      Movimiento deja e { e with activos := a }
  | contar (e : Espera) : Movimiento deja e { e with contador := e.contador + 1 }
  | nace (e : Espera) : Movimiento deja e
      { e with contador := e.contador + 1, activos := (e.contador + 1) ::ₘ e.activos }
  | abandona (e : Espera) (i : ℤ) (hi : deja i) :
      Movimiento deja e { e with bloqueados := e.bloqueados.erase i }
  | bloquea (e : Espera) (l : Lugar) (i : ℤ) (hi : i ∈ e.activos) : Movimiento deja e
      { e with
        fila := Function.update e.fila l (e.fila l ++ [i])
        bloqueados := i ::ₘ e.bloqueados
        activos := e.activos.erase i }
  | despierta (e : Espera) (l : Lugar) (i : ℤ) (r : List ℤ) (hl : e.fila l = i :: r)
      (hi : i ∈ e.bloqueados) : Movimiento deja e
      { e with
        fila := Function.update e.fila l r
        bloqueados := e.bloqueados.erase i
        activos := i ::ₘ e.activos }
  | descarta (e : Espera) (l : Lugar) (i : ℤ) (r : List ℤ) (hl : e.fila l = i :: r)
      (hi : i ∉ e.bloqueados) : Movimiento deja e { e with fila := Function.update e.fila l r }
  | toma (e : Espera) (disp : List Byte) (i : ℤ) (r : List ℤ) (hl : e.fila (.io disp) = i :: r)
      (hs : e.fila (.servicio disp) = []) : Movimiento deja e
      { e with fila := Function.update (Function.update e.fila (.io disp) r) (.servicio disp) [i] }

/-- **The law of the records.** Nobody is recorded twice; whoever is blocked is recorded, and
whoever is not yet blocked is not; and a process is in one queue only. -/
structure Espera.Ley (e : Espera) : Prop where
  apart : Apart e.fila
  registrado : ∀ i ∈ e.bloqueados, ∃ l, i ∈ e.fila l
  libre : ∀ i ∈ e.activos, ∀ l, i ∉ e.fila l
  nodup : (e.bloqueados + e.activos).Nodup
  rango : ∀ l, ∀ i ∈ e.fila l, i ≤ e.contador
  rango_activos : ∀ i ∈ e.activos, i ≤ e.contador

namespace Espera.Ley

variable {e : Espera} {i : ℤ} {l : Lugar} {r : List ℤ}

lemma bloqueado_le (h : e.Ley) (hi : i ∈ e.bloqueados) : i ≤ e.contador := by
  obtain ⟨l, hl⟩ := h.registrado i hi
  exact h.rango l i hl

lemma bloqueados_nodup (h : e.Ley) : e.bloqueados.Nodup :=
  Multiset.nodup_of_le (Multiset.le_add_right _ _) h.nodup

lemma notMem_activos (h : e.Ley) (hi : i ∈ e.bloqueados) : i ∉ e.activos := fun ha =>
  Multiset.disjoint_left.1 (Multiset.nodup_add.1 h.nodup).2.2 hi ha

lemma menosActivos (h : e.Ley) {a : Multiset ℤ} (ha : a ≤ e.activos) :
    Ley { e with activos := a } where
  apart := h.apart
  registrado := h.registrado
  libre j hj := h.libre j (Multiset.mem_of_le ha hj)
  nodup := Multiset.nodup_of_le (Multiset.add_le_add_left ha) h.nodup
  rango := h.rango
  rango_activos j hj := h.rango_activos j (Multiset.mem_of_le ha hj)

lemma contar (h : e.Ley) : Ley { e with contador := e.contador + 1 } where
  apart := h.apart
  registrado := h.registrado
  libre := h.libre
  nodup := h.nodup
  rango l j hj := (h.rango l j hj).trans (by simp)
  rango_activos j hj := (h.rango_activos j hj).trans (by simp)

/-- A new process has an id that nobody has had. -/
lemma nace (h : e.Ley) : Ley
    { e with contador := e.contador + 1, activos := (e.contador + 1) ::ₘ e.activos } where
  apart := h.apart
  registrado := h.registrado
  libre j hj l hl := by
    rcases Multiset.mem_cons.1 hj with rfl | hj
    · have := h.rango l _ hl
      omega
    · exact h.libre j hj l hl
  nodup := by
    rw [Multiset.add_cons, Multiset.nodup_cons]
    refine ⟨fun hm => ?_, h.nodup⟩
    rcases Multiset.mem_add.1 hm with hm | hm
    · have := h.bloqueado_le hm
      omega
    · have := h.rango_activos _ hm
      omega
  rango l j hj := (h.rango l j hj).trans (by simp)
  rango_activos j hj := by
    rcases Multiset.mem_cons.1 hj with rfl | hj
    · exact le_rfl
    · exact (h.rango_activos j hj).trans (by simp)

lemma abandona (h : e.Ley) (i : ℤ) : Ley { e with bloqueados := e.bloqueados.erase i } where
  apart := h.apart
  registrado j hj := h.registrado j (Multiset.mem_of_mem_erase hj)
  libre := h.libre
  nodup := Multiset.nodup_of_le (Multiset.add_le_add_right (Multiset.erase_le _ _)) h.nodup
  rango := h.rango
  rango_activos := h.rango_activos

/-- A process in execution is blocked, and recorded at the end of a queue. -/
lemma bloquea (h : e.Ley) (l : Lugar) (hi : i ∈ e.activos) : Ley
    { e with
      fila := Function.update e.fila l (e.fila l ++ [i])
      bloqueados := i ::ₘ e.bloqueados
      activos := e.activos.erase i } where
  apart := h.apart.push (h.libre i hi) l
  registrado j hj := by
    rcases Multiset.mem_cons.1 hj with rfl | hj
    · exact ⟨l, by simp⟩
    · obtain ⟨l', hl'⟩ := h.registrado j hj
      exact ⟨l', mem_push hl'⟩
  libre j hj l' hl' := by
    have hn : e.activos.Nodup := Multiset.nodup_of_le (Multiset.le_add_left _ _) h.nodup
    obtain ⟨hji, hja⟩ := (Multiset.Nodup.mem_erase_iff hn).1 hj
    rcases mem_update hl' with ⟨rfl, hm⟩ | ⟨-, hm⟩
    · rcases List.mem_append.1 hm with hm | hm
      · exact h.libre j hja _ hm
      · exact hji (List.mem_singleton.1 hm)
    · exact h.libre j hja _ hm
  nodup := by
    have hcons : i ::ₘ e.bloqueados + e.activos.erase i = e.bloqueados + e.activos := by
      rw [Multiset.cons_add, ← Multiset.add_cons, Multiset.cons_erase hi]
    rw [hcons]
    exact h.nodup
  rango l' j hj := by
    rcases mem_update hj with ⟨rfl, hj⟩ | ⟨-, hj⟩
    · rcases List.mem_append.1 hj with hj | hj
      · exact h.rango _ j hj
      · exact List.mem_singleton.1 hj ▸ h.rango_activos i hi
    · exact h.rango l' j hj
  rango_activos j hj := h.rango_activos j (Multiset.mem_of_mem_erase hj)

/-- The first one of a queue is woken. -/
lemma despierta (h : e.Ley) (hl : e.fila l = i :: r) (hi : i ∈ e.bloqueados) : Ley
    { e with
      fila := Function.update e.fila l r
      bloqueados := e.bloqueados.erase i
      activos := i ::ₘ e.activos } where
  apart := (h.apart.pop hl).1
  registrado j hj := by
    obtain ⟨hji, hj⟩ := (Multiset.Nodup.mem_erase_iff h.bloqueados_nodup).1 hj
    obtain ⟨l', hl'⟩ := h.registrado j hj
    exact ⟨l', mem_pop hl hji hl'⟩
  libre j hj l' hl' := by
    rcases Multiset.mem_cons.1 hj with rfl | hj
    · exact (h.apart.pop hl).2 l' hl'
    · exact h.libre j hj l' (mem_of_pop hl hl')
  nodup := by
    have hcons : e.bloqueados.erase i + i ::ₘ e.activos = e.bloqueados + e.activos := by
      rw [Multiset.add_cons, ← Multiset.cons_add, Multiset.cons_erase hi]
    rw [hcons]
    exact h.nodup
  rango l' j hj := h.rango l' j (mem_of_pop hl hj)
  rango_activos j hj := by
    rcases Multiset.mem_cons.1 hj with rfl | hj
    · exact h.bloqueado_le hi
    · exact h.rango_activos j hj

/-- The record of a process that is not blocked any more is dropped. -/
lemma descarta (h : e.Ley) (hl : e.fila l = i :: r) (hi : i ∉ e.bloqueados) :
    Ley { e with fila := Function.update e.fila l r } where
  apart := (h.apart.pop hl).1
  registrado j hj := by
    obtain ⟨l', hl'⟩ := h.registrado j hj
    exact ⟨l', mem_pop hl (fun hji => hi (hji ▸ hj)) hl'⟩
  libre j hj l' hl' := h.libre j hj l' (mem_of_pop hl hl')
  nodup := h.nodup
  rango l' j hj := h.rango l' j (mem_of_pop hl hj)
  rango_activos := h.rango_activos

/-- Whoever stands somewhere after a device has taken its first request stood somewhere before. -/
lemma mem_toma {disp : List Byte} (hl : e.fila (.io disp) = i :: r) {l' : Lugar} {j : ℤ}
    (hj : j ∈ Function.update (Function.update e.fila (.io disp) r) (.servicio disp) [i] l') :
    ∃ l, j ∈ e.fila l := by
  rcases mem_update hj with ⟨rfl, hi⟩ | ⟨-, hi⟩
  · refine ⟨.io disp, ?_⟩
    rw [hl, List.mem_singleton.1 hi]
    exact List.mem_cons_self
  · exact ⟨l', mem_of_pop hl hi⟩

/-- A device that serves nobody takes its first request. -/
lemma toma (h : e.Ley) {disp : List Byte} (hl : e.fila (.io disp) = i :: r)
    (hs : e.fila (.servicio disp) = []) : Ley { e with
      fila := Function.update (Function.update e.fila (.io disp) r) (.servicio disp) [i] } where
  apart := by
    obtain ⟨hap, hno⟩ := h.apart.pop hl
    have hnil : Function.update e.fila (.io disp) r (.servicio disp) = [] := by
      rw [Function.update_of_ne (by simp), hs]
    have hpush := hap.push hno (.servicio disp)
    rwa [hnil, List.nil_append] at hpush
  registrado j hj := by
    obtain ⟨l', hl'⟩ := h.registrado j hj
    by_cases hji : j = i
    · exact ⟨.servicio disp, by simp [hji]⟩
    · have hne : l' ≠ .servicio disp := by
        rintro rfl
        exact absurd hl' (by simp [hs])
      refine ⟨l', ?_⟩
      show j ∈ Function.update (Function.update e.fila (.io disp) r) (.servicio disp) [i] l'
      rw [Function.update_of_ne hne]
      exact mem_pop hl hji hl'
  libre j hj l' hl' := by
    obtain ⟨l, hl⟩ := mem_toma hl hl'
    exact h.libre j hj l hl
  nodup := h.nodup
  rango l' j hj := by
    obtain ⟨l, hl⟩ := mem_toma hl hj
    exact h.rango l j hl
  rango_activos := h.rango_activos

end Espera.Ley

namespace Movimiento

variable {deja : ℤ → Prop} {e e' : Espera}

/-- **Every move keeps the law.** -/
theorem ley (hm : Movimiento deja e e') (h : e.Ley) : e'.Ley := by
  cases hm with
  | activos a ha => exact h.menosActivos ha
  | contar => exact h.contar
  | nace => exact h.nace
  | abandona i => exact h.abandona i
  | bloquea l i hi => exact h.bloquea l hi
  | despierta l i r hl hi => exact h.despierta hl hi
  | descarta l i r hl hi => exact h.descarta hl hi
  | toma disp i r hl hs => exact h.toma hl hs

/-- **Whoever is recorded at a semaphore is blocked**, unless he has been left there. -/
theorem bloqueado (hm : Movimiento deja e e') (h : e.Ley)
    (hb : ∀ clave, ∀ i ∈ e.fila (.sem clave), i ∈ e.bloqueados ∨ deja i) :
    ∀ clave, ∀ i ∈ e'.fila (.sem clave), i ∈ e'.bloqueados ∨ deja i := by
  intro clave j hj
  cases hm with
  | activos a ha => exact hb clave j hj
  | contar => exact hb clave j hj
  | nace => exact hb clave j hj
  | abandona i hi =>
    by_cases hji : j = i
    · exact .inr (hji ▸ hi)
    · exact (hb clave j hj).imp_left (Multiset.mem_erase_of_ne hji).2
  | bloquea l i hi =>
    rcases mem_update hj with ⟨rfl, hj⟩ | ⟨-, hj⟩
    · rcases List.mem_append.1 hj with hj | hj
      · exact (hb clave j hj).imp_left Multiset.mem_cons_of_mem
      · exact .inl (List.mem_singleton.1 hj ▸ Multiset.mem_cons_self _ _)
    · exact (hb clave j hj).imp_left Multiset.mem_cons_of_mem
  | despierta l i r hl hi =>
    have hji : j ≠ i := fun hji => (h.apart.pop hl).2 _ (hji ▸ hj)
    exact (hb clave j (mem_of_pop hl hj)).imp_left (Multiset.mem_erase_of_ne hji).2
  | descarta l i r hl hi => exact hb clave j (mem_of_pop hl hj)
  | toma disp i r hl hs =>
    have hj' : j ∈ Function.update e.fila (.io disp) r (.sem clave) := by simpa using hj
    exact hb clave j (mem_of_pop hl hj')

end Movimiento

end Ansisop.Kernel
