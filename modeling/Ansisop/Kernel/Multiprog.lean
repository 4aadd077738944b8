import Ansisop.Kernel.Deadlock
import Ansisop.Kernel.Level

/-!
When `cambiar_multiprog` leaves the multiprogramming level at the value asked for.

It reads the level with the mutexes of the queues, but not all of it is there: a process that a
thread has taken out of one queue and not yet pushed in the next one is missing, and so is a place
that `manejador_new_ready` has taken or that `pasar_pcb_exit` has not given back. Beside the system
goes a count (`Cuenta`): what the other threads have in hand, the level asked for, and where the
console is (`Fase`). The level in use and what is in hand make up the level asked for (`Cuadra`), in
every state of a run whose steps are made where nobody is in the way (`nivel_exacto`). When a process
is in hand as the level is read, or a place that has been counted is taken, it is not exact, or the
console waits with all its mutexes (`nivel_no_exacto`).
-/

namespace Ansisop.Kernel

open Ansisop.Sockets Ansisop.Lib Dialog Hilo

/-! ### The console -/

/-- Where the console is in `cambiar_multiprog`: it has not read the level yet, or it has still to
take `j` places. -/
inductive Fase where
  | pide (n : ℤ)
  | baja (j : ℕ)
  | otra
  deriving DecidableEq, Repr

/-- The free places are enough to bring the level down to `n`. -/
def Estado.Alcanza (k : Estado) (n : ℤ) : Prop := k.nivel - n ≤ k.sem .cantMultiprog

instance (k : Estado) (n : ℤ) : Decidable (k.Alcanza n) := Int.decLe _ _

namespace Fase

/-- The value asked for, where the answer to the event is the last mutex, with which the level is
read. -/
def lee : Fase → Evento → Option ℤ
  | pide n, .lock .usoListaCpu _ => some n
  | _, _ => none

/-- The console goes on with the globals `k`. -/
def tras : Fase → Evento → Estado → Fase
  | pide n, .lock .usoListaCpu _, k => baja (if k.Alcanza n then (k.nivel - n).toNat else 0)
  | baja j, .decre .cantMultiprog _, _ => baja (j - 1)
  | fase, _, _ => fase

/-- The places that the console has still to take. -/
def faltan : Fase → ℕ
  | baja j => j
  | _ => 0

/-- The level when the console has gone on with the globals `k`: a rise is made at once. -/
def nivelTras : Fase → Evento → Estado → ℤ
  | pide n, .lock .usoListaCpu _, k => max n k.nivel
  | _, _, k => k.nivel

/-- The level asked for, when the console has gone on with the globals `k`: the value it has just
read for, if the free places reach down to it. -/
def pedidoTras (pedido : ℤ) (fase : Fase) (e : Evento) (k : Estado) : ℤ :=
  match fase.lee e with
  | some n => if k.Alcanza n then n else pedido
  | none => pedido

/-- What the console may do. -/
def Permite : Fase → Evento → Prop
  | pide _, .lock _ _ => True
  | pide _, _ => False
  | baja _, .lock _ _ => False
  | baja j, .decre s _ => s = .cantMultiprog ∧ 0 < j
  | otra, .decre _ _ => False
  | _, _ => True

end Fase

/-- The console under watch: its phase, the level that its next event shows, and the places that are
free then at least. -/
def consola : Monitor Evento Evento.Respuesta (Fase × ℤ × ℕ) where
  allows m e := m.1.Permite e ∧ ∀ k, e.vista = some k →
    k.nivel = m.2.1 ∧ m.2.2 ≤ k.sem .cantMultiprog
  next m e r m' := m' = (m.1.tras e (e.globales r), m.1.nivelTras e (e.globales r),
    (e.globales r).sem .cantMultiprog)

/-- The phase in the globals `k`. -/
structure Fase.En (fase : Fase) (k : Estado) (m : Fase × ℤ × ℕ) : Prop where
  fase : m.1 = fase
  nivel : k.nivel = m.2.1
  libres : m.2.2 ≤ k.sem .cantMultiprog

section Consola

variable {α β : Type} {x : Hilo α} {f : α → Hilo β} {a b c : Fase} {k : Estado} {m : Fase × ℤ × ℕ}

/-- The function brings the console from one phase to another. -/
def Lleva (x : Hilo α) (a b : Fase) : Prop :=
  ∀ k m, a.En k m → Safe consola x k m fun _ k' m' => b.En k' m'

lemma Lleva.bind (hx : Lleva x a b) (hf : ∀ y, Lleva (f y) b c) : Lleva (x >>= f) a c :=
  fun k m h => (hx k m h).bind fun y k' m' h' => hf y k' m' h'

lemma lleva_pure (y : α) : Lleva (pure y) a a := fun _ _ h => h

lemma lleva_get : Lleva (get : Hilo Estado) a a := fun _ _ h => h

lemma lleva_caida (h : a.Permite .caida) : Lleva (caida : Hilo α) a b :=
  fun _ _ hm => ⟨⟨hm.fase ▸ h, nofun⟩, nofun⟩

lemma lleva_deref (h : a.Permite .caida) (y : Option α) : Lleva (deref y) a a := by
  cases y with
  | none => exact lleva_caida h
  | some y => exact lleva_pure y

/-- The rule for an event that is not the reading of the level. -/
lemma lleva_evento {e : Evento} {r : e.Respuesta} {m' : Fase × ℤ × ℕ}
    (hnext : consola.next m e r m') (hm : a.En k m) (hf : a.tras e (e.globales r) = b)
    (hn : a.nivelTras e (e.globales r) = (e.globales r).nivel) : b.En (e.globales r) m' := by
  obtain ⟨rfl, -, -⟩ := hm
  rw [show m' = _ from hnext]
  exact ⟨hf, hn.symm, le_rfl⟩

lemma consola_allows {e : Evento} (hv : e.vista = some k) (hm : a.En k m) (h : a.Permite e) :
    consola.allows m e := by
  refine ⟨hm.fase ▸ h, fun k' hk' => ?_⟩
  obtain rfl := Option.some.inj (hv.symm.trans hk')
  exact ⟨hm.nivel, hm.libres⟩

lemma lleva_lock_pide {n : ℤ} {x : Mutex} (hx : x ≠ .usoListaCpu) :
    Lleva (lock x) (.pide n) (.pide n) := by
  refine fun k m hm => ⟨consola_allows rfl hm trivial, fun r m' hn => ?_⟩
  cases x with
  | usoListaCpu => exact absurd rfl hx
  | _ => exact lleva_evento hn hm rfl rfl

lemma lleva_lock_otra (x : Mutex) : Lleva (lock x) .otra .otra :=
  fun _ _ hm => ⟨consola_allows rfl hm trivial, fun _ _ hn => lleva_evento hn hm rfl rfl⟩

lemma lleva_unlock_baja (x : Mutex) (j : ℕ) : Lleva (unlock x) (.baja j) (.baja j) :=
  fun _ _ hm => ⟨consola_allows rfl hm trivial, fun _ _ hn => lleva_evento hn hm rfl rfl⟩

lemma lleva_unlock_otra (x : Mutex) : Lleva (unlock x) .otra .otra :=
  fun _ _ hm => ⟨consola_allows rfl hm trivial, fun _ _ hn => lleva_evento hn hm rfl rfl⟩

lemma lleva_semDecre (j : ℕ) : Lleva (semDecre .cantMultiprog) (.baja (j + 1)) (.baja j) :=
  fun _ _ hm => ⟨consola_allows rfl hm ⟨rfl, j.succ_pos⟩, fun _ _ hn => lleva_evento hn hm rfl rfl⟩

/-! ### `cambiar_multiprog` -/

lemma lleva_unlockTodo : Lleva unlockTodo (.baja 0) (.baja 0) :=
  (lleva_unlock_baja _ _).bind fun _ => (lleva_unlock_baja _ _).bind fun _ =>
    (lleva_unlock_baja _ _).bind fun _ => (lleva_unlock_baja _ _).bind fun _ =>
      (lleva_unlock_baja _ _).bind fun _ => lleva_unlock_baja _ _

/-- The places are taken one after another. -/
lemma lleva_repetir_semDecre : ∀ j : ℕ,
    Lleva (repetir (semDecre .cantMultiprog) j) (.baja j) (.baja 0)
  | 0 => lleva_pure ()
  | j + 1 => (lleva_semDecre j).bind fun _ => lleva_repetir_semDecre j

/-- New places are given out at once. -/
lemma safe_repetir_semIncre : ∀ (j : ℕ) (k : Estado) (m : Fase × ℤ × ℕ),
    Safe consola (repetir (semIncre .cantMultiprog) j) k m fun _ k' m' =>
      m' = m ∧ k'.nivel = k.nivel + j ∧ k.sem .cantMultiprog ≤ k'.sem .cantMultiprog
  | 0, k, m => ⟨rfl, by simp, le_rfl⟩
  | j + 1, k, m => by
    refine safe_modify_bind ((safe_repetir_semIncre j _ m).mono fun _ k' m' h => ?_)
    obtain ⟨rfl, hn, hl⟩ := h
    rw [nivel_conSem, if_pos rfl] at hn
    simp only [Estado.conSem_sem, Function.update_self] at hl
    exact ⟨rfl, by rw [hn]; push_cast; ring, by omega⟩

/-- What the monitor says when the level has been read. -/
def leido (n : ℤ) (k : Estado) : Fase × ℤ × ℕ :=
  (.baja (if k.Alcanza n then (k.nivel - n).toNat else 0), max n k.nivel, k.sem .cantMultiprog)

lemma safe_lockTodo {n : ℤ} (hm : (Fase.pide n).En k m) :
    Safe consola lockTodo k m fun _ k' m' => m' = leido n k' := by
  have hlock : ∀ x, x ≠ .usoListaCpu → Lleva (lock x) (.pide n) (.pide n) := fun _ => lleva_lock_pide
  refine (hlock .new (by decide) k m hm).bind fun _ k m hm => ?_
  refine (hlock .ready (by decide) k m hm).bind fun _ k m hm => ?_
  refine (hlock .block (by decide) k m hm).bind fun _ k m hm => ?_
  refine (hlock .exec (by decide) k m hm).bind fun _ k m hm => ?_
  refine (hlock .exit (by decide) k m hm).bind fun _ k m hm => ?_
  refine ⟨consola_allows rfl hm trivial, fun r m' hn => ?_⟩
  rw [show m' = _ from hn, hm.fase]
  rfl

lemma safe_entero {z : ℤ} {f : ℤ → Hilo β} {j : ℕ} {Q : β → Estado → Fase × ℤ × ℕ → Prop}
    (hm : m.1 = .baja j) (h : Safe consola (f z) k m Q) : Safe consola (entero z >>= f) k m Q := by
  unfold entero
  split
  · exact h
  · exact ⟨⟨by rw [hm]; trivial, nofun⟩, nofun⟩

/-- The level rises, it comes down, or the free places are not enough for it to come down. -/
lemma safe_decidir {n dif : ℤ} (hdif : dif = n - k.nivel) :
    Safe consola
      (if 0 < dif then do
        repetir (semIncre .cantMultiprog) dif.toNat
        unlockTodo
      else do
        let baja ← entero (dif * (-1))
        if baja ≤ k.sem .cantMultiprog then do
          repetir (semDecre .cantMultiprog) baja.toNat
          unlockTodo
        else
          unlockTodo) k (leido n k) fun _ k' m' => (Fase.baja 0).En k' m' := by
  by_cases hsube : 0 < dif
  · rw [if_pos hsube]
    refine (safe_repetir_semIncre dif.toNat k (leido n k)).bind fun _ k' m' h => ?_
    obtain ⟨rfl, hn, hl⟩ := h
    refine lleva_unlockTodo k' _ ⟨?_, ?_, hl⟩
    · show Fase.baja _ = _
      rw [show (k.nivel - n).toNat = 0 by omega, ite_self]
    · rw [hn]
      show _ = max n k.nivel
      omega
  · rw [if_neg hsube]
    have hnivel : k.nivel = max n k.nivel := by omega
    refine safe_entero rfl ?_
    by_cases hbaja : dif * (-1) ≤ k.sem .cantMultiprog
    · rw [if_pos hbaja]
      have hen : (Fase.baja (dif * (-1)).toNat).En k (leido n k) := by
        refine ⟨?_, hnivel, le_rfl⟩
        have hle : k.Alcanza n := by
          show k.nivel - n ≤ k.sem .cantMultiprog
          omega
        show Fase.baja (if k.Alcanza n then _ else 0) = _
        rw [if_pos hle, show k.nivel - n = dif * (-1) by omega]
      exact (lleva_repetir_semDecre _).bind (fun _ => lleva_unlockTodo) k _ hen
    · rw [if_neg hbaja]
      have hle : ¬ k.Alcanza n := by
        intro hle
        have hle : k.nivel - n ≤ k.sem .cantMultiprog := hle
        omega
      refine lleva_unlockTodo k _ ⟨?_, hnivel, le_rfl⟩
      show Fase.baja (if k.Alcanza n then _ else 0) = _
      rw [if_neg hle]

lemma lleva_cambiarMultiprog (n : ℤ) : Lleva (cambiarMultiprog n) (.pide n) (.baja 0) := by
  intro k m hm
  refine (safe_lockTodo hm).bind fun _ k m h => safe_get_bind ?_
  subst h
  refine safe_entero rfl (safe_decidir ?_)
  rw [Estado.nivel]
  push_cast
  rfl

/-! ### The other tasks of the console -/

lemma lleva_modify {g : Estado → Estado} (hg : ∀ k, (g k).nivel = k.nivel ∧
    (g k).sem .cantMultiprog = k.sem .cantMultiprog) : Lleva (modify g : Hilo Unit) a a := by
  intro k m hm
  exact ⟨hm.fase, (hg k).1.trans hm.nivel, hm.libres.trans (hg k).2.ge⟩

lemma lleva_quantum (n : ℤ) : Lleva (modify fun k => { k with quantumMax := n }) a a :=
  lleva_modify fun _ => ⟨rfl, rfl⟩

lemma lleva_stack (n : ℤ) : Lleva (modify fun k => { k with tamanioStack := n }) a a :=
  lleva_modify fun _ => ⟨rfl, rfl⟩

lemma lleva_impColas : Lleva impColas .otra .otra := by
  have hlock : Lleva lockTodo .otra .otra := (lleva_lock_otra _).bind fun _ =>
    (lleva_lock_otra _).bind fun _ => (lleva_lock_otra _).bind fun _ =>
      (lleva_lock_otra _).bind fun _ => (lleva_lock_otra _).bind fun _ => lleva_lock_otra _
  have hcola : ∀ c, Lleva (imprimirCola c) .otra .otra := fun c =>
    lleva_get.bind fun _ => (lleva_deref (a := .otra) trivial _).bind fun _ => lleva_pure _
  refine hlock.bind fun _ => (hcola _).bind fun _ => (hcola _).bind fun _ => (hcola _).bind fun _ => ?_
  refine (hcola _).bind fun _ => (hcola _).bind fun _ => ?_
  refine (lleva_unlock_otra _).bind fun _ => (lleva_unlock_otra _).bind fun _ => ?_
  refine (lleva_unlock_otra _).bind fun _ => (lleva_unlock_otra _).bind fun _ => ?_
  exact (lleva_unlock_otra _).bind fun _ => lleva_unlock_otra _

lemma lleva_lock_unlock (x : Mutex) : Lleva (do lock x; unlock x) .otra .otra :=
  (lleva_lock_otra x).bind fun _ => lleva_unlock_otra x

lemma lleva_imprimirSemBlocks (libre : Mutex → Bool) :
    Lleva (imprimirSemBlocks libre) .otra .otra := by
  have htry : ∀ x, Lleva (trylock (libre x) x) .otra .otra := by
    intro x
    unfold trylock
    split
    · exact lleva_lock_unlock x
    · exact lleva_pure ()
  exact (htry _).bind fun _ => (htry _).bind fun _ => (htry _).bind fun _ => (htry _).bind fun _ =>
    (htry _).bind fun _ => (htry _).bind fun _ => (htry _).bind fun _ => htry _

end Consola

/-- The phase in which a task of the console starts. -/
def Tarea.fase : Tarea → Fase
  | multiprog n => .pide n
  | _ => .otra

/-- The phases in which a task of the console may end. -/
def Fase.Final (fase : Fase) : Prop := fase = .baja 0 ∨ fase = .otra

/-- **Every task of the console**: only `cambiar_multiprog` changes the level. -/
theorem lleva_cuerpo (metadata : List Byte → MetadataProgram) (tarea : Tarea)
    (ht : tarea.hilo = .consola) : ∃ fase, fase.Final ∧ Lleva (tarea.cuerpo metadata) tarea.fase fase := by
  cases tarea with
  | impColas => exact ⟨.otra, .inr rfl, lleva_impColas⟩
  | impVariables => exact ⟨.otra, .inr rfl, lleva_lock_unlock .diccVar⟩
  | impSemaforos => exact ⟨.otra, .inr rfl, lleva_lock_unlock .diccSem⟩
  | impSemBlocks libre => exact ⟨.otra, .inr rfl, lleva_imprimirSemBlocks libre⟩
  | multiprog n => exact ⟨.baja 0, .inl rfl, lleva_cambiarMultiprog n⟩
  | quantum n => exact ⟨.otra, .inr rfl, lleva_quantum n⟩
  | stack n => exact ⟨.otra, .inr rfl, lleva_stack n⟩
  | _ => exact absurd ht (by simp [Tarea.hilo])

/-! ### The count -/

/-- The system and the task of each thread. All threads other than the console together have
`enMano` places and processes in hand; `pedido` is the level asked for last that could be reached. -/
structure Cuenta where
  sis : Sistema
  tarea : HiloId → Option Tarea
  enMano : ℤ
  fase : Fase
  pedido : ℤ

namespace Cuenta

/-- The count after the system has come to `s`. -/
def anota (c : Cuenta) (s : Sistema) : Turno → Cuenta
  | .empieza tarea =>
    { sis := s
      tarea := Function.update c.tarea tarea.hilo (some tarea)
      enMano := if tarea.hilo = .consola then c.enMano else c.enMano + (c.sis.k.nivel - s.k.nivel)
      fase := if tarea.hilo = .consola then tarea.fase else c.fase
      pedido := c.pedido }
  | .sigue .consola _ =>
    match c.sis.resto .consola with
    | some (.ask e _) =>
      { c with
        sis := s
        fase := c.fase.tras e c.sis.k
        pedido := c.fase.pedidoTras c.pedido e c.sis.k }
    | _ => { c with sis := s }
  | .sigue _ _ => { c with sis := s, enMano := c.enMano + (c.sis.k.nivel - s.k.nivel) }

def paso (metadata : List Byte → MetadataProgram) (a : Turno) (c : Cuenta) : Option Cuenta :=
  (Sistema.paso metadata a c.sis).map fun s => c.anota s a

def alInicio (config : Config) (socUmv : ℤ) : Cuenta :=
  ⟨Sistema.alInicio config socUmv, fun _ => none, 0, .otra, config.multiprogramacion⟩

/-- The thread `t` goes on where nobody is in its way: the queues are as its task needs them; a place
that it takes is none of those that `cambiar_multiprog` has still to take; and when
`cambiar_multiprog` reads the level, the others have nothing in hand, or the free places are too few
anyway. -/
def Despejado (c : Cuenta) (t : HiloId) (e : Evento) : Prop :=
  (c.tarea t).all (fun tarea => propicio tarea e c.sis.k) = true ∧
    (t ≠ .consola → e.lugares ≠ 0 → c.fase.faltan < c.sis.k.sem .cantMultiprog) ∧
    (t = .consola → ∀ n ∈ c.fase.lee e, c.enMano = 0 ∨ ¬ c.sis.k.Alcanza n)

instance (c : Cuenta) (t : HiloId) (e : Evento) : Decidable (c.Despejado t e) :=
  inferInstanceAs (Decidable (_ ∧ _ ∧ _))

/-- The next step of the thread is made where nobody is in its way. -/
def Puede (c : Cuenta) : Turno → Prop
  | .empieza _ => True
  | .sigue t _ =>
    match c.sis.resto t with
    | some (.ask e _) => c.Despejado t e
    | _ => True

instance (c : Cuenta) : (a : Turno) → Decidable (c.Puede a)
  | .empieza _ => isTrue trivial
  | .sigue t _ =>
    match h : c.sis.resto t with
    | some (.ask e _) => decidable_of_iff (c.Despejado t e) (by simp [Puede, h])
    | some (.ret _) => isTrue (by simp [Puede, h])
    | none => isTrue (by simp [Puede, h])

/-- The step is made where nobody is in its way, and puts no `NULL` in `cola_ready`. -/
def EnRegla (metadata : List Byte → MetadataProgram) (c : Cuenta) (a : Turno) : Prop :=
  c.Puede a ∧ ∀ s ∈ Sistema.paso metadata a c.sis, SinNulos s.k

instance (k : Estado) : Decidable (SinNulos k) := inferInstanceAs (Decidable (¬ _ ∈ _))

instance (metadata : List Byte → MetadataProgram) (c : Cuenta) (a : Turno) :
    Decidable (EnRegla metadata c a) := inferInstanceAs (Decidable (_ ∧ ∀ _ ∈ _, _))

end Cuenta

/-! ### What is left of a task -/

/-- What is left of a task of another thread than the console, with `n` in hand. -/
def Pendiente (tarea : Tarea) (x : Resto) (n : ℤ) : Prop :=
  ∃ e f k m, x = .ask e f ∧ e.vista = some k ∧ SinNulos k ∧ m.1 = k.nivel + n ∧
    Keeps (mano tarea) x m fun r m' => Tiene 0 r.2 m'

/-- What is left of a task of the console, in this phase. -/
def PendienteConsola (fase : Fase) (x : Resto) : Prop :=
  ∃ e f k m, x = .ask e f ∧ e.vista = some k ∧ m.1 = fase ∧
    Keeps consola x m fun r m' => ∃ fase : Fase, fase.Final ∧ fase.En r.2 m'

namespace Sistema

variable {s : Sistema} {t : HiloId} {x : Resto}

lemma deja_mano {tarea : Tarea} {m : ℤ × ℕ} {l n : ℤ}
    (hx : Keeps (mano tarea) x m fun r m' => Tiene 0 r.2 m') (hm : m.1 = l + n)
    (hvivo : (s.deja t x).vivo) (hnull : SinNulos (s.deja t x).k) :
    m.2 ≤ (s.deja t x).k.sem .cantMultiprog ∧
      ((s.deja t x).resto t = none → n + (l - (s.deja t x).k.nivel) = 0) ∧
      ∀ y, (s.deja t x).resto t = some y → Pendiente tarea y (n + (l - (s.deja t x).k.nivel)) := by
  cases x with
  | ret r =>
    have hk : (s.deja t (.ret r)).k = r.2 := rfl
    have hr : Tiene 0 r.2 m := hx
    refine ⟨hr.libres, fun _ => ?_, fun y hy => absurd hy (by simp [deja_resto_self])⟩
    have hcuenta := hr.cuenta
    rw [hk]
    omega
  | ask e f =>
    obtain ⟨k, hk⟩ := Option.isSome_iff_exists.1 hvivo
    have hks : (s.deja t (.ask e f)).k = k := by
      show e.vista.getD s.k = k
      rw [hk, Option.getD_some]
    refine ⟨?_, fun h => absurd h (by simp [deja_resto_self]), fun y hy => ?_⟩
    · rw [hks]
      exact (hx.1 k hk).1
    · rw [deja_resto_some hy]
      rw [hks] at hnull ⊢
      exact ⟨e, f, k, m, rfl, hk, hnull, by omega, hx⟩

lemma deja_consola {m : Fase × ℤ × ℕ}
    (hx : Keeps consola x m fun r m' => ∃ fase : Fase, fase.Final ∧ fase.En r.2 m')
    (hvivo : (s.deja t x).vivo) :
    (s.deja t x).k.nivel = m.2.1 ∧ m.2.2 ≤ (s.deja t x).k.sem .cantMultiprog ∧
      ((s.deja t x).resto t = none → m.1.Final) ∧
      ∀ y, (s.deja t x).resto t = some y → PendienteConsola m.1 y := by
  cases x with
  | ret r =>
    obtain ⟨fase, hfin, hen⟩ := hx
    refine ⟨hen.nivel, hen.libres, fun _ => hen.fase ▸ hfin, fun y hy => ?_⟩
    exact absurd hy (by simp [deja_resto_self])
  | ask e f =>
    obtain ⟨k, hk⟩ := Option.isSome_iff_exists.1 hvivo
    have hks : (s.deja t (.ask e f)).k = k := by
      show e.vista.getD s.k = k
      rw [hk, Option.getD_some]
    obtain ⟨hn, hl⟩ := hx.1.2 k hk
    rw [hks]
    refine ⟨hn, hl, fun h => absurd h (by simp [deja_resto_self]), fun y hy => ?_⟩
    rw [deja_resto_some hy]
    exact ⟨e, f, k, m, rfl, hk, rfl, hx⟩

/-- What the answer to an event does to the globals. -/
structure Responde (k : Estado) (e : Evento) (k' : Estado) : Prop where
  colas : k'.colas = k.colas
  lugares : (k'.sem .cantMultiprog + e.lugares : ℤ) = k.sem .cantMultiprog
  uno : e.lugares = 0 ∨ e.lugares = 1
  lock : ∀ m k₀, e = .lock m k₀ → k' = k

lemma Responde.nivel {k k' : Estado} {e : Evento} (h : Responde k e k') :
    k'.nivel + e.lugares = k.nivel := by
  have hl := h.lugares
  rw [Estado.nivel, Estado.nivel, h.colas]
  omega

lemma Responde.propicio {k k' : Estado} {e : Evento} {tarea : Tarea} (h : Responde k e k')
    (hp : propicio tarea e k) : propicio tarea e k' := by
  cases e with
  | lock m k₀ => rwa [h.lock m k₀ rfl]
  | _ => cases tarea <;> rfl

lemma responde_igual {k : Estado} {e : Evento} (h : e.lugares = 0) : Responde k e k :=
  ⟨rfl, by rw [h, add_zero], .inl h, fun _ _ _ => rfl⟩

lemma responde_globales {men : Option Mensaje} {e : Evento} {r : e.Respuesta}
    {d : Mutex → Option HiloId} (h : s.responde t men e = some (r, d)) :
    Responde s.k e (e.globales r) := by
  cases e with
  | decre x k =>
    simp only [responde] at h
    split at h
    · exact absurd h (by simp)
    · rename_i hx
      obtain ⟨rfl, -⟩ := by simpa using h
      refine ⟨rfl, ?_, ?_, fun m _ he => by cases he⟩
      · cases x with
        | cantMultiprog =>
          show ((Function.update s.k.sem .cantMultiprog (s.k.sem .cantMultiprog - 1)
            .cantMultiprog : ℕ) : ℤ) + 1 = _
          rw [Function.update_self]
          omega
        | _ => exact add_zero _
      · cases x with
        | cantMultiprog => exact .inr rfl
        | _ => exact .inl rfl
  | decreIo disp k =>
    simp only [responde] at h
    split at h
    · obtain ⟨rfl, -⟩ := by simpa using h
      exact ⟨rfl, add_zero _, .inl rfl, fun m _ he => by cases he⟩
    · exact absurd h (by simp)
  | lock m k =>
    obtain ⟨rfl, -⟩ := responde_lock h
    exact responde_igual rfl
  | recvComun soc k =>
    simp only [responde] at h
    split at h
    · obtain ⟨rfl, -⟩ := by simpa using h
      exact responde_igual rfl
    · exact absurd h (by simp)
  | recvQuantumPcb soc k =>
    simp only [responde] at h
    split at h
    · obtain ⟨rfl, -⟩ := by simpa using h
      exact responde_igual rfl
    · exact absurd h (by simp)
  | caida => exact absurd h (by simp [responde])
  | enviar soc men k =>
    obtain ⟨rfl, -⟩ := by simpa [responde] using h
    exact responde_igual rfl
  | cerrar soc k =>
    obtain ⟨rfl, -⟩ := by simpa [responde] using h
    exact responde_igual rfl
  | unlock m k =>
    obtain ⟨rfl, -⟩ := by simpa [responde] using h
    exact responde_igual rfl
  | usleep n k =>
    obtain ⟨rfl, -⟩ := by simpa [responde] using h
    exact responde_igual rfl

end Sistema

/-! ### What every step keeps -/

/-- What the console can do next, and what it does to the level. -/
lemma Fase.tras_cases {fase : Fase} {e : Evento} (h : fase.Permite e) :
    (∃ n k, fase = .pide n ∧ e = .lock .usoListaCpu k) ∨
      (∃ j k, fase = .baja (j + 1) ∧ e = .decre .cantMultiprog k) ∨
      e.lugares = 0 ∧ fase.lee e = none ∧ ∀ k, fase.tras e k = fase ∧ fase.nivelTras e k = k.nivel := by
  cases fase with
  | pide n =>
    cases e with
    | lock m k =>
      cases m with
      | usoListaCpu => exact .inl ⟨n, k, rfl, rfl⟩
      | _ => exact .inr (.inr ⟨rfl, rfl, fun _ => ⟨rfl, rfl⟩⟩)
    | _ => exact absurd h id
  | baja j =>
    cases e with
    | decre x k =>
      obtain ⟨rfl, hj⟩ := h
      obtain ⟨j, rfl⟩ := Nat.exists_eq_succ_of_ne_zero hj.ne'
      exact .inr (.inl ⟨j, k, rfl, rfl⟩)
    | lock m k => exact absurd h id
    | _ => exact .inr (.inr ⟨rfl, rfl, fun _ => ⟨rfl, rfl⟩⟩)
  | otra =>
    cases e with
    | decre x k => exact absurd h id
    | _ => exact .inr (.inr ⟨rfl, rfl, fun _ => ⟨rfl, rfl⟩⟩)

namespace Cuenta

/-- The level in use and what the threads have in hand make up the level asked for. -/
structure Cuadra (c : Cuenta) : Prop where
  suma : c.sis.k.nivel + c.enMano = c.pedido + c.fase.faltan
  lugares : c.fase.faltan ≤ c.sis.k.sem .cantMultiprog
  sinNulos : SinNulos c.sis.k
  manos : ∃ f : HiloId →₀ ℤ, f.degree = c.enMano ∧ f .consola = 0 ∧ ∀ t ≠ .consola,
    (c.sis.resto t = none → f t = 0) ∧
      ∀ x, c.sis.resto t = some x → ∃ tarea, c.tarea t = some tarea ∧ Pendiente tarea x (f t)
  reposo : c.sis.resto .consola = none → c.fase.Final
  menu : ∀ x, c.sis.resto .consola = some x → PendienteConsola c.fase x

lemma cuadra_alInicio (config : Config) (socUmv : ℤ) : (alInicio config socUmv).Cuadra where
  suma := by simp [alInicio, Sistema.alInicio, Estado.nivel, inicial, Fase.faltan]
  lugares := Nat.zero_le _
  sinNulos := by simp [alInicio, Sistema.alInicio, SinNulos, inicial]
  manos := ⟨0, by simp [alInicio], rfl, fun t _ => ⟨fun _ => rfl, fun x h => absurd h nofun⟩⟩
  reposo _ := .inr rfl
  menu x h := absurd h nofun

section Pasos

variable {metadata : List Byte → MetadataProgram} {c c' : Cuenta} {s : Sistema} {t : HiloId}

@[simp] lemma anota_sis (a : Turno) : (c.anota s a).sis = s := by
  cases a with
  | empieza tarea => rfl
  | sigue t men =>
    cases t with
    | consola =>
      rw [anota]
      split <;> rfl
    | _ => rfl

/-- **The count goes beside the system** and changes nothing of what it does. -/
theorem run_sis (turnos : List Turno) (c : Cuenta) :
    (run (paso metadata) turnos c).map sis = run (Sistema.paso metadata) turnos c.sis := by
  induction turnos generalizing c with
  | nil => rfl
  | cons a turnos ih =>
    rw [run, run, paso]
    cases hs : Sistema.paso metadata a c.sis with
    | none => rfl
    | some s =>
      rw [Option.map_some, Option.bind_some, Option.bind_some, ih, anota_sis]

lemma anota_sigue (ht : t ≠ .consola) (men : Option Mensaje) : c.anota s (.sigue t men) =
    { c with sis := s, enMano := c.enMano + (c.sis.k.nivel - s.k.nivel) } := by
  cases t with
  | consola => exact absurd rfl ht
  | _ => rfl

lemma anota_consola {e : Evento} {f : e.Respuesta → Resto} (hr : c.sis.resto .consola = some (.ask e f))
    (men : Option Mensaje) : c.anota s (.sigue .consola men) =
      { c with
        sis := s
        fase := c.fase.tras e c.sis.k
        pedido := c.fase.pedidoTras c.pedido e c.sis.k } := by
  show (match c.sis.resto .consola with | some (.ask e _) => _ | _ => _) = _
  rw [hr]

/-- **Another thread than the console goes on**, from globals of the same level with what it takes. -/
lemma Cuadra.otro (h : c.Cuadra) {g : HiloId →₀ ℤ} (hg : g.degree = c.enMano)
    (hg0 : g .consola = 0) (hmanos : ∀ u ≠ .consola, (c.sis.resto u = none → g u = 0) ∧
      ∀ x, c.sis.resto u = some x → ∃ tarea, c.tarea u = some tarea ∧ Pendiente tarea x (g u))
    (ht : t ≠ .consola) (hs : s.resto = c.sis.resto) {tareas : HiloId → Option Tarea} {tarea : Tarea}
    (htarea : tareas t = some tarea) (htareas : ∀ u ≠ t, tareas u = c.tarea u) {x : Resto} {m : ℤ × ℕ}
    (hx : Keeps (mano tarea) x m fun r m' => Tiene 0 r.2 m') (hm : m.1 = c.sis.k.nivel + g t)
    (hl : c.fase.faltan ≤ m.2) (hvivo : (s.deja t x).vivo) (hnull : SinNulos (s.deja t x).k) :
    Cuadra { c with
      sis := s.deja t x
      tarea := tareas
      enMano := c.enMano + (c.sis.k.nivel - (s.deja t x).k.nivel) } := by
  obtain ⟨hlib, hrep, hpend⟩ := Sistema.deja_mano hx hm hvivo hnull
  have hcons : (s.deja t x).resto .consola = c.sis.resto .consola := by
    rw [Sistema.deja_resto_ne x (Ne.symm ht), hs]
  refine ⟨?_, hl.trans hlib, hnull, ?_, fun hr => h.reposo (hcons ▸ hr),
    fun y hy => h.menu y (hcons ▸ hy)⟩
  · have hsuma := h.suma
    show (s.deja t x).k.nivel + (c.enMano + (c.sis.k.nivel - (s.deja t x).k.nivel)) =
      c.pedido + c.fase.faltan
    omega
  · refine ⟨g + Finsupp.single t (c.sis.k.nivel - (s.deja t x).k.nivel), ?_, ?_, fun u hu => ?_⟩
    · rw [map_add, hg, Finsupp.degree_single]
    · rw [Finsupp.add_apply, hg0, Finsupp.single_eq_of_ne (Ne.symm ht), add_zero]
    · by_cases hut : u = t
      · subst hut
        rw [Finsupp.add_apply, Finsupp.single_eq_same]
        exact ⟨hrep, fun y hy => ⟨tarea, htarea, hpend y hy⟩⟩
      · rw [Finsupp.add_apply, Finsupp.single_eq_of_ne hut, add_zero]
        show ((s.deja t x).resto u = none → _) ∧ ∀ y, (s.deja t x).resto u = some y →
          ∃ tarea, tareas u = some tarea ∧ _
        rw [Sistema.deja_resto_ne x hut, hs, htareas u hut]
        exact hmanos u hu

/-- **The console goes on**, to the level that its monitor says. -/
lemma Cuadra.menu_sigue (h : c.Cuadra) (hs : s.resto = c.sis.resto)
    {tareas : HiloId → Option Tarea} (htareas : ∀ u ≠ .consola, tareas u = c.tarea u) {x : Resto}
    {m : Fase × ℤ × ℕ} (hx : Keeps Kernel.consola x m fun r m' => ∃ fase : Fase, fase.Final ∧ fase.En r.2 m')
    {pedido : ℤ} (hsuma : m.2.1 + c.enMano = pedido + m.1.faltan) (hl : m.1.faltan ≤ m.2.2)
    (hvivo : (s.deja .consola x).vivo) (hnull : SinNulos (s.deja .consola x).k) :
    Cuadra { c with sis := s.deja .consola x, tarea := tareas, fase := m.1, pedido := pedido } := by
  obtain ⟨hn, hlib, hrep, hpend⟩ := Sistema.deja_consola hx hvivo
  obtain ⟨g, hg, hg0, hmanos⟩ := h.manos
  refine ⟨?_, hl.trans hlib, hnull, ⟨g, hg, hg0, fun u hu => ?_⟩, hrep, hpend⟩
  · show (s.deja .consola x).k.nivel + c.enMano = pedido + m.1.faltan
    rw [hn, hsuma]
  · show ((s.deja .consola x).resto u = none → _) ∧ ∀ y, (s.deja .consola x).resto u = some y →
      ∃ tarea, tareas u = some tarea ∧ _
    rw [Sistema.deja_resto_ne x hu, hs, htareas u hu]
    exact hmanos u hu

/-- A thread starts a task. -/
lemma Cuadra.empieza (h : c.Cuadra) {tarea : Tarea} (hr : c.sis.resto tarea.hilo = none)
    (hvivo : (c.sis.deja tarea.hilo (tarea.cuerpo metadata c.sis.k)).vivo)
    (hnull : SinNulos (c.sis.deja tarea.hilo (tarea.cuerpo metadata c.sis.k)).k) :
    (c.anota (c.sis.deja tarea.hilo (tarea.cuerpo metadata c.sis.k)) (.empieza tarea)).Cuadra := by
  by_cases ht : tarea.hilo = .consola
  · -- the console starts with nothing left to take
    obtain ⟨fase, hfin, hlleva⟩ := lleva_cuerpo metadata tarea ht
    have hx : Keeps Kernel.consola (tarea.cuerpo metadata c.sis.k)
        (tarea.fase, c.sis.k.nivel, c.sis.k.sem .cantMultiprog)
        fun r m' => ∃ fase : Fase, fase.Final ∧ fase.En r.2 m' :=
      Keeps.mono (fun r m' hr => ⟨fase, hfin, hr⟩) (hlleva _ _ ⟨rfl, rfl, le_rfl⟩)
    have hfaltan : c.fase.faltan = 0 := by
      rcases h.reposo (ht ▸ hr) with hf | hf <;> rw [hf] <;> rfl
    have hcero : tarea.fase.faltan = 0 := by cases tarea <;> rfl
    have hsuma := h.suma
    simp only [anota, if_pos ht]
    rw [ht] at hvivo hnull ⊢
    refine h.menu_sigue rfl (fun u hu => Function.update_of_ne hu _ _) hx ?_ ?_ hvivo hnull
    · rw [hcero, ← hfaltan]
      exact hsuma
    · rw [hcero]
      exact Nat.zero_le _
  · obtain ⟨g, hg, hg0, hmanos⟩ := h.manos
    have hx : Keeps (mano tarea) (tarea.cuerpo metadata c.sis.k)
        (c.sis.k.nivel + 0, c.sis.k.sem .cantMultiprog) fun r m' => Tiene 0 r.2 m' :=
      (enMano_cuerpo metadata tarea ht).safe ⟨h.sinNulos, rfl, le_rfl⟩
    have hcero : g tarea.hilo = 0 := (hmanos _ ht).1 hr
    simp only [anota, if_neg ht]
    exact h.otro hg hg0 hmanos ht rfl (Function.update_self ..) (fun u hu => Function.update_of_ne hu _ _)
      hx (by rw [hcero]) h.lugares hvivo hnull

/-- Another thread than the console gets an answer. -/
lemma Cuadra.sigue (h : c.Cuadra) (ht : t ≠ .consola) {men : Option Mensaje} {e : Evento}
    {f : e.Respuesta → Resto} {r : e.Respuesta} {d : Mutex → Option HiloId}
    (hr : c.sis.resto t = some (.ask e f)) (hd : c.sis.responde t men e = some (r, d))
    (hc : c.Despejado t e) (hvivo : ({ c.sis with duenio := d }.deja t (f r)).vivo)
    (hnull : SinNulos ({ c.sis with duenio := d }.deja t (f r)).k) :
    (c.anota ({ c.sis with duenio := d }.deja t (f r)) (.sigue t men)).Cuadra := by
  obtain ⟨g, hg, hg0, hmanos⟩ := h.manos
  obtain ⟨tarea, htarea, e', f', k, m, hx, hk, hknull, hm, hkeeps⟩ := (hmanos t ht).2 _ hr
  obtain ⟨rfl, hf⟩ := by simpa using hx
  obtain rfl := eq_of_heq hf
  have hresp := Sistema.responde_globales hd
  have hprop : propicio tarea e (e.globales r) := by
    have hp := hc.1
    rw [htarea] at hp
    exact hresp.propicio hp
  have hnext := hkeeps.2 r _ ⟨k, hk, hknull, by rw [SinNulos, hresp.colas]; exact h.sinNulos, hprop, rfl⟩
  rw [anota_sigue ht]
  refine h.otro (s := { c.sis with duenio := d }) hg hg0 hmanos ht rfl htarea (fun _ _ => rfl) hnext
    ?_ ?_ hvivo hnull
  · have hn := hresp.nivel
    show m.1 - k.nivel + e.lugares + (e.globales r).nivel = c.sis.k.nivel + g t
    omega
  · have hl := hresp.lugares
    have hlib := h.lugares
    show c.fase.faltan ≤ (e.globales r).sem .cantMultiprog
    rcases hresp.uno with h0 | h1
    · omega
    · have hlt := hc.2.1 ht (by omega)
      omega

/-- The console gets an answer. -/
lemma Cuadra.sigue_consola (h : c.Cuadra) {men : Option Mensaje} {e : Evento}
    {f : e.Respuesta → Resto} {r : e.Respuesta} {d : Mutex → Option HiloId}
    (hr : c.sis.resto .consola = some (.ask e f)) (hd : c.sis.responde .consola men e = some (r, d))
    (hc : c.Despejado .consola e)
    (hvivo : ({ c.sis with duenio := d }.deja .consola (f r)).vivo)
    (hnull : SinNulos ({ c.sis with duenio := d }.deja .consola (f r)).k) :
    (c.anota ({ c.sis with duenio := d }.deja .consola (f r)) (.sigue .consola men)).Cuadra := by
  obtain ⟨e', f', k, m, hx, hk, hm, hkeeps⟩ := h.menu _ hr
  obtain ⟨rfl, hf⟩ := by simpa using hx
  obtain rfl := eq_of_heq hf
  have hresp := Sistema.responde_globales hd
  have hnivel := hresp.nivel
  have hlug := hresp.lugares
  have hsuma := h.suma
  have hlib := h.lugares
  have hperm : c.fase.Permite e := hm ▸ hkeeps.1.1
  have hnext := hkeeps.2 r _ rfl
  rw [hm] at hnext
  rw [anota_consola hr]
  rcases Fase.tras_cases hperm with ⟨n, k₀, hfase, rfl⟩ | ⟨j, k₀, hfase, rfl⟩ | ⟨hcero, hlee, hotro⟩
  · -- the level is read: the others have nothing in hand, or nothing is done
    obtain rfl : r = c.sis.k := hresp.lock _ _ rfl
    refine h.menu_sigue (s := { c.sis with duenio := d }) rfl (fun _ _ => rfl) hnext ?_ ?_ hvivo hnull
    · have hmano := hc.2.2 rfl n (by rw [hfase]; rfl)
      rw [hfase] at hsuma ⊢
      have hcero : (Fase.pide n).faltan = 0 := rfl
      show max n c.sis.k.nivel + c.enMano = (if c.sis.k.Alcanza n then n else c.pedido) +
        (if c.sis.k.Alcanza n then (c.sis.k.nivel - n).toNat else 0 : ℕ)
      by_cases ha : c.sis.k.Alcanza n
      · have hen : c.enMano = 0 := hmano.resolve_right fun hn => hn ha
        rw [if_pos ha, if_pos ha]
        omega
      · have hle : ¬ c.sis.k.nivel - n ≤ c.sis.k.sem .cantMultiprog := ha
        rw [if_neg ha, if_neg ha]
        omega
    · rw [hfase]
      show (if c.sis.k.Alcanza n then (c.sis.k.nivel - n).toNat else 0) ≤ c.sis.k.sem .cantMultiprog
      split
      · rename_i ha
        have hle : c.sis.k.nivel - n ≤ c.sis.k.sem .cantMultiprog := ha
        omega
      · exact Nat.zero_le _
  · -- a place is taken
    rw [hfase] at hnext hsuma hlib ⊢
    have hj : (Fase.baja (j + 1)).faltan = j + 1 := rfl
    have huno : (Evento.decre .cantMultiprog k₀).lugares = 1 := rfl
    refine h.menu_sigue (s := { c.sis with duenio := d }) rfl (fun _ _ => rfl) hnext ?_ ?_ hvivo hnull
    · show (Evento.globales (.decre .cantMultiprog k₀) r).nivel + c.enMano = c.pedido + (j : ℕ)
      omega
    · show j ≤ (Evento.globales (.decre .cantMultiprog k₀) r).sem .cantMultiprog
      omega
  · rw [(hotro _).1, (hotro _).2] at hnext
    have hped : c.fase.pedidoTras c.pedido e c.sis.k = c.pedido := by rw [Fase.pedidoTras, hlee]
    rw [(hotro _).1, hped]
    refine h.menu_sigue (s := { c.sis with duenio := d }) rfl (fun _ _ => rfl) hnext ?_ ?_ hvivo hnull
    · show (e.globales r).nivel + c.enMano = c.pedido + c.fase.faltan
      omega
    · show c.fase.faltan ≤ (e.globales r).sem .cantMultiprog
      omega

/-- **The step lemma.** -/
theorem Cuadra.paso {a : Turno} (h : c.Cuadra) (hc : c.EnRegla metadata a)
    (hs : Cuenta.paso metadata a c = some c') (hvivo : c'.sis.vivo) : c'.Cuadra := by
  obtain ⟨s', hs', rfl⟩ := Option.map_eq_some_iff.1 hs
  have hnull := hc.2 s' hs'
  cases a with
  | empieza tarea =>
    obtain ⟨hr, rfl⟩ := Sistema.paso_empieza hs'
    exact h.empieza hr hvivo hnull
  | sigue t men =>
    obtain ⟨e, f, r, d, hr, hd, rfl⟩ := Sistema.paso_sigue hs'
    have hp : c.Despejado t e := by
      have hp := hc.1
      simpa only [Puede, hr] using hp
    by_cases ht : t = .consola
    · subst ht
      rw [anota_consola hr] at hvivo
      exact h.sigue_consola hr hd hp hvivo hnull
    · rw [anota_sigue ht] at hvivo
      exact h.sigue ht hr hd hp hvivo hnull

end Pasos

end Cuenta

/-! ### The level is exact -/

/-- The thread that makes the step. -/
def Turno.hilo : Turno → HiloId
  | .empieza tarea => tarea.hilo
  | .sigue t _ => t

namespace Sistema

lemma run_resto {metadata : List Byte → MetadataProgram} {t : HiloId} {turnos : List Turno} :
    ∀ {s s' : Sistema}, run (paso metadata) turnos s = some s' → (∀ a ∈ turnos, a.hilo ≠ t) →
      s'.resto t = s.resto t := by
  induction turnos with
  | nil =>
    intro s s' h _
    obtain rfl := Option.some.inj h
    rfl
  | cons a turnos ih =>
    intro s s' h ha
    obtain ⟨s₁, h₁, h₂⟩ := run_cons h
    have hne : t ≠ a.hilo := (ha a (List.mem_cons_self ..)).symm
    rw [ih h₂ fun b hb => ha b (List.mem_cons_of_mem _ hb)]
    cases a with
    | empieza tarea =>
      obtain ⟨-, rfl⟩ := paso_empieza h₁
      exact deja_resto_ne _ hne
    | sigue u men =>
      obtain ⟨e, f, r, d, -, -, rfl⟩ := paso_sigue h₁
      exact deja_resto_ne _ hne

/-- Nothing is under way: the threads are at rest, or wait for a semaphore; the console is at rest. -/
def Quieto (s : Sistema) : Prop :=
  s.vivo ∧ ∀ t, s.resto t = none ∨
    t ≠ .consola ∧ ∃ e f, s.resto t = some (.ask e f) ∧ e.espera = true

/-- `cambiar_multiprog` is about to take a place; it holds all its mutexes then. -/
def pideLugar (s : Sistema) : Bool :=
  match s.resto .consola with
  | some (.ask (.decre .cantMultiprog _) _) => true
  | _ => false

/-- `cambiar_multiprog` waits for a place. -/
def EsperaLugar (s : Sistema) : Prop := s.vivo ∧ s.pideLugar ∧ s.k.sem .cantMultiprog = 0

lemma pideLugar_some {s : Sistema} (h : s.pideLugar) :
    ∃ k f, s.resto .consola = some (.ask (.decre .cantMultiprog k) f) := by
  unfold pideLugar at h
  split at h
  · exact ⟨_, _, ‹_›⟩
  · exact absurd h (by simp)

lemma vivo_of_paso {metadata : List Byte → MetadataProgram} {s s' : Sistema} {a : Turno}
    (h : paso metadata a s = some s') : s.vivo := by
  by_contra hv
  cases a <;> simp [paso, hv] at h

end Sistema

namespace Cuenta

variable {c : Cuenta}

lemma Cuadra.nivel_eq (h : c.Cuadra) (hq : c.sis.Quieto) : c.sis.k.nivel = c.pedido := by
  obtain ⟨g, hg, hg0, hmanos⟩ := h.manos
  have hcero : g = 0 := by
    ext t
    by_cases ht : t = .consola
    · rw [ht, hg0]
      rfl
    · obtain ⟨hrep, hpend⟩ := hmanos t ht
      rcases hq.2 t with hr | ⟨-, e, f, hr, hesp⟩
      · exact hrep hr
      · -- who waits for a semaphore has nothing in hand
        obtain ⟨tarea, -, e', f', k, m, hx, hk, -, hm, hkeeps⟩ := hpend _ hr
        obtain ⟨rfl, -⟩ := by simpa using hx
        have hallow := (hkeeps.1 k hk).2 hesp
        show g t = 0
        omega
  have hfaltan : c.fase.faltan = 0 := by
    have hr : c.sis.resto .consola = none := (hq.2 .consola).resolve_right fun h => h.1 rfl
    rcases h.reposo hr with hf | hf <;> rw [hf] <;> rfl
  have hen : c.enMano = 0 := by rw [← hg, hcero, map_zero]
  have hsuma := h.suma
  omega

lemma Cuadra.no_espera (h : c.Cuadra) : ¬ c.sis.EsperaLugar := by
  rintro ⟨-, hp, hsem⟩
  obtain ⟨k, f, hr⟩ := Sistema.pideLugar_some hp
  obtain ⟨e, f', k', m, hx, -, hm, hkeeps⟩ := h.menu _ hr
  obtain ⟨rfl, -⟩ := by simpa using hx
  have hperm : c.fase.Permite (.decre .cantMultiprog k) := hm ▸ hkeeps.1.1
  have hlib := h.lugares
  rcases Fase.tras_cases hperm with ⟨n, k₀, -, he⟩ | ⟨j, k₀, hfase, -⟩ | ⟨hcero, -⟩
  · exact absurd he (by simp)
  · have hj : c.fase.faltan = j + 1 := by rw [hfase]; rfl
    omega
  · exact absurd (show (1 : ℤ) = 0 from hcero) (by decide)

/-- **The level is exact.** In every state of a run whose steps are made where nobody is in the way,
the level in use is the one asked for last that could be reached, once nothing is under way; and
`cambiar_multiprog` does not wait for a place. -/
theorem nivel_exacto {metadata : List Byte → MetadataProgram} {config : Config} {socUmv : ℤ}
    {turnos : List Turno} (ha : Along (paso metadata) (EnRegla metadata) turnos (alInicio config socUmv))
    (hr : run (paso metadata) turnos (alInicio config socUmv) = some c) :
    (c.sis.Quieto → c.sis.k.nivel = c.pedido) ∧ ¬ c.sis.EsperaLugar := by
  have h : c.sis.vivo → c.Cuadra := by
    refine run_invariant (I := fun c => c.sis.vivo → c.Cuadra) (fun c a c' h hc hs hv => ?_)
      (fun _ => cuadra_alInicio config socUmv) ha hr
    obtain ⟨s', hs', -⟩ := Option.map_eq_some_iff.1 hs
    exact (h (Sistema.vivo_of_paso hs')).paso hc hs hv
  exact ⟨fun hq => (h hq.1).nivel_eq hq, fun he => (h he.1).no_espera he⟩

/-! ### A process ends while the level is changed -/

/-- The threads that there are whatever the devices are. -/
def hilosFijos : List HiloId := [.plp, .pcp, .newReady, .readyExec, .exit, .consola]

/-- Where the others rest, nothing is under way. -/
lemma quieto_of_run {metadata : List Byte → MetadataProgram} {turnos : List Turno} {config : Config}
    {socUmv : ℤ} (hr : run (paso metadata) turnos (alInicio config socUmv) = some c)
    (ht : ∀ a ∈ turnos, a.hilo ∈ hilosFijos) (hv : c.sis.vivo)
    (hq : ∀ t ∈ hilosFijos, (c.sis.resto t).isNone) : c.sis.Quieto := by
  refine ⟨hv, fun t => .inl ?_⟩
  by_cases h : t ∈ hilosFijos
  · exact Option.isNone_iff_eq_none.1 (hq t h)
  · have hs : run (Sistema.paso metadata) turnos (Sistema.alInicio config socUmv) = some c.sis :=
      (run_sis turnos (alInicio config socUmv)).symm.trans (congrArg _ hr)
    exact Sistema.run_resto hs fun a ha hat => h (hat ▸ ht a ha)

/-- The first process is in execution on the CPU of the socket 5. -/
def hastaExec : List Turno :=
  llegan ++ Tarea.newReady.turnos (List.replicate 6 none) ++
    Tarea.readyExec.turnos (List.replicate 7 none)

/-- The CPU of the socket 5 has ended its process, and the kernel has it in hand. -/
def terminando : List Turno :=
  (Tarea.menCpus 5).turnos
    [some (.comun (crearMenComun TipoDatos.finEjecucion [])), none, none, none, none]

/-- It goes to `cola_exit`, and its place is given back. -/
def terminado : List Turno := List.replicate 4 (.sigue .pcp none)

/-- Three places of multiprogramming. -/
def tresLugares : Config := { dosLugares with multiprogramacion := 3 }

/-- The level comes down to two while `manejador_new_ready` admits a second process and the first one
ends. `manejador_new_ready` takes its place after `cambiar_multiprog` has read the level and before it
has taken its own one; the process that ends and the one that is admitted are in hand together. -/
def bajaYTermina : List Turno :=
  hastaExec ++ llegaScript 8 ++ Tarea.newReady.turnos [none] ++
    (Tarea.menCpus 5).turnos [some (.comun (crearMenComun TipoDatos.finEjecucion []))] ++
    (Tarea.multiprog 2).turnos (List.replicate 6 none) ++ [.sigue .newReady none] ++
    List.replicate 7 (.sigue .consola none) ++
    (List.replicate 4 [.sigue .pcp none, .sigue .newReady none]).flatten ++ terminado

lemma bajaYTermina_corre : ((run (paso unaInstruccion) bajaYTermina (alInicio tresLugares 4)).map
    fun c => (c.sis.vivo, hilosFijos.all fun t => (c.sis.resto t).isNone, c.pedido)) =
      some (true, true, 2) := by
  decide +kernel

theorem nivel_exacto_bajaYTermina : ∃ c,
    run (paso unaInstruccion) bajaYTermina (alInicio tresLugares 4) = some c ∧
      c.sis.k.nivel = 2 ∧ ¬ c.sis.EsperaLugar := by
  obtain ⟨c, hc, hobs⟩ := Option.map_eq_some_iff.1 bajaYTermina_corre
  obtain ⟨hv, hq, hped⟩ := by simpa using hobs
  have ha : Along (paso unaInstruccion) (EnRegla unaInstruccion) bajaYTermina
      (alInicio tresLugares 4) := by decide +kernel
  obtain ⟨hnivel, hesp⟩ := nivel_exacto ha hc
  exact ⟨c, hc, (hnivel (quieto_of_run hc (by decide +kernel) hv (by simpa using hq))).trans hped, hesp⟩

/-- The level is changed to five while the process is in hand. -/
def terminaEntretanto : List Turno :=
  hastaExec ++ terminando ++ (Tarea.multiprog 5).turnos (List.replicate 12 none) ++ terminado

lemma terminaEntretanto_corre :
    ((run (paso unaInstruccion) terminaEntretanto (alInicio dosLugares 4)).map fun c =>
      (c.sis.vivo, hilosFijos.all fun t => (c.sis.resto t).isNone, c.sis.k.nivel, c.pedido)) =
        some (true, true, 6, 5) := by
  decide +kernel

/-- `manejador_new_ready` takes one of the two places that `cambiar_multiprog` counts on. -/
def lugarTomado : List Turno :=
  llegan ++ Tarea.newReady.turnos [none] ++ (Tarea.multiprog 0).turnos (List.replicate 6 none) ++
    [.sigue .newReady none, .sigue .consola none]

lemma lugarTomado_corre : ((run (paso unaInstruccion) lugarTomado (alInicio dosLugares 4)).map
    fun c => (c.sis.vivo, c.sis.pideLugar, c.sis.k.sem .cantMultiprog)) = some (true, true, 0) := by
  decide +kernel

/-- The level asked for is five, and it is six when nothing is under way any more; and
`cambiar_multiprog` waits for a place. -/
theorem nivel_no_exacto :
    (∃ c, run (paso unaInstruccion) terminaEntretanto (alInicio dosLugares 4) = some c ∧
      c.sis.Quieto ∧ c.pedido = 5 ∧ c.sis.k.nivel = 6) ∧
    ∃ c, run (paso unaInstruccion) lugarTomado (alInicio dosLugares 4) = some c ∧
      c.sis.EsperaLugar := by
  obtain ⟨c, hc, hobs⟩ := Option.map_eq_some_iff.1 terminaEntretanto_corre
  obtain ⟨hv, hq, hnivel, hped⟩ := by simpa using hobs
  obtain ⟨c', hc', hobs'⟩ := Option.map_eq_some_iff.1 lugarTomado_corre
  obtain ⟨hv', hp', hsem'⟩ := by simpa using hobs'
  refine ⟨⟨c, hc, ?_, hped, hnivel⟩, c', hc', hv', hp', hsem'⟩
  exact quieto_of_run hc (by decide +kernel) hv (by simpa using hq)

end Cuenta

end Ansisop.Kernel
