import Ansisop.Cpu.Program
import Ansisop.Sockets.Wire
import Ansisop.Lib.Memory

/-!
A CPU whose process meets no fault: the stack of the process as the UMV serves it, what the other
segments hold, and what each primitive does to the pcb, to the bytes of the stack and to
`dic_Variables`.

A request that the UMV would answer with a fault has no answer here, so a run with a result is one
without faults. The dictionary that `regenerar_dicc_var` builds is `dicc`, a function of the bytes
of the stack; a state is at a frame (`EnMarco`) when its dictionary is the one of the variables of
the frame.
-/

namespace Ansisop.Cpu

open Ansisop.Sockets Ansisop.Lib Ansisop.Lib.Memory Prog
open TipoDatos hiding signal wait imprimirTexto cambioPA finQuantum finEjecucion

/-! ### The surroundings -/

/-- What the functions of a process find around them: a stack segment, what reads of the other
segments give, `metadata_buscar_etiqueta`, the answers of the kernel and what was never written. -/
structure Entorno where
  base : ℤ
  tamStack : ℤ
  otros : ℤ → ℤ → ℤ → Option (List Byte)
  buscar : List Byte → Etiquetas → ℤ → ℤ
  kernel : ℕ → MenComun
  basura : ℕ → ℕ → Byte
  buscar_int32 : ∀ nombre etiquetas tam, EsInt32 (buscar nombre etiquetas tam)

/-- The bytes of the stack by logical address, and how many answers have been used up. -/
structure Memoria where
  pila : ℤ → Byte
  turno : ℕ

/-- The bytes `[offset, offset + tam)` are in the stack segment. -/
def Entorno.EnPila (e : Entorno) (offset tam : ℤ) : Prop :=
  0 ≤ offset ∧ 0 ≤ tam ∧ offset + tam ≤ e.tamStack

instance (e : Entorno) (offset tam : ℤ) : Decidable (e.EnPila offset tam) :=
  inferInstanceAs (Decidable (_ ∧ _ ∧ _))

instance (x : ℤ) : Decidable (EsInt32 x) := inferInstanceAs (Decidable (_ ∧ _))

/-- The answer to a request to the UMV that is not a fault. -/
def Entorno.atender (e : Entorno) (men : MenCpuUmv) (m : Memoria) : Option (MenComun × Memoria) :=
  if men.base = e.base then
    if e.EnPila men.offset men.tam then
      if men.tipo = solBytes then
        some (⟨men.tam, rSolBytes, read m.pila (e.base + men.offset) men.tam.toNat⟩, m)
      else if men.tipo = almBytes ∧ men.buffer.length = men.tam then
        some (⟨0, rAlmBytes, []⟩, { m with pila := memcpy m.pila (e.base + men.offset) men.buffer })
      else none
    else none
  else if men.tipo = solBytes then
    (e.otros men.base men.offset men.tam).map fun l => (⟨men.tam, rSolBytes, l⟩, m)
  else none

/-- The answer to an action. -/
def Entorno.responder (e : Entorno) : (ev : Evento) → Memoria → Option (ev.Respuesta × Memoria)
  | .pedirUmv men, m => e.atender men m
  | .buscarEtiqueta nombre etiquetas tam, m => some (e.buscar nombre etiquetas tam, m)
  | .basura _, m => some (fun i => e.basura m.turno i, { m with turno := m.turno + 1 })
  | .recvKernel, m => some (e.kernel m.turno, { m with turno := m.turno + 1 })
  | .quitSistema, m => some (true, m)
  | .enviarKernel _, m | .enviarUmv _, m | .analizar _, m | .primitiva _ _, m => some ((), m)
  | .caida, _ => none

/-- A run of a function of the CPU that meets no fault. -/
def correr {α : Type} (e : Entorno) (p : Prog α) (s : Estado) (m : Memoria) :
    Option ((α × Estado) × Memoria) :=
  Dialog.interp e.responder (p s) m

/-! ### Runs of the operations -/

section Correr

variable {α β : Type} {e : Entorno} {s : Estado} {m : Memoria}

lemma correr_bind (p : Prog α) (f : α → Prog β) : correr e (p >>= f) s m =
    (correr e p s m).bind fun r => correr e (f r.1.1) r.1.2 r.2 :=
  Dialog.interp_bind e.responder _ (p s) m

/-- A finished sequence has a finished first part. -/
lemma correr_bind_some {p : Prog α} {f : α → Prog β} {r : (β × Estado) × Memoria}
    (h : correr e (p >>= f) s m = some r) :
    ∃ a s₁ m₁, correr e p s m = some ((a, s₁), m₁) ∧ correr e (f a) s₁ m₁ = some r := by
  rw [correr_bind, Option.bind_eq_some_iff] at h
  obtain ⟨⟨⟨a, s₁⟩, m₁⟩, h₁, h₂⟩ := h
  exact ⟨a, s₁, m₁, h₁, h₂⟩

@[simp] lemma correr_pure (a : α) : correr e (pure a) s m = some ((a, s), m) := rfl

@[simp] lemma correr_get : correr e (get : Prog Estado) s m = some ((s, s), m) := rfl

@[simp] lemma correr_modify (f : Estado → Estado) :
    correr e (modify f : Prog Unit) s m = some (((), f s), m) := rfl

@[simp] lemma correr_modificarPcb (f : Pcb → Pcb) :
    correr e (modificarPcb f) s m = some (((), s.conPcb (f s.pcb)), m) := rfl

@[simp] lemma correr_actualizarPcb (cant pc dir : ℤ) : correr e (actualizarPcb cant pc dir) s m =
    some (((), s.conPcb { s.pcb with
      cantVarContActual := cant, programCounter := pc, dirContActual := dir }), m) := rfl

@[simp] lemma correr_caida : correr e (caida : Prog α) s m = none := rfl

@[simp] lemma correr_deref (a : Option α) :
    correr e (deref a) s m = a.map fun a => ((a, s), m) := by
  cases a <;> rfl

@[simp] lemma correr_entero (x : ℤ) :
    correr e (entero x) s m = if EsInt32 x then some ((x, s), m) else none := by
  by_cases hx : EsInt32 x
  · rw [if_pos hx, entero, if_pos (show _ ∧ _ from hx)]
    rfl
  · rw [if_neg hx, entero, if_neg (show ¬ (_ ∧ _) from hx)]
    rfl

@[simp] lemma correr_copia (l : List Byte) (n : ℕ) : correr e (Prog.memcpy l n) s m =
    if n ≤ l.length then some ((l.take n, s), m) else none := by
  unfold Prog.memcpy
  split <;> rfl

@[simp] lemma correr_buscar (nombre : List Byte) : correr e (metadataBuscarEtiqueta nombre) s m =
    some ((e.buscar nombre s.etiquetas s.pcb.tamIndiceEtiquetas, s), m) := rfl

@[simp] lemma correr_basura (n : ℕ) : correr e (Prog.basura n) s m =
    some ((List.ofFn fun i : Fin n => e.basura m.turno i, s), { m with turno := m.turno + 1 }) := rfl

@[simp] lemma correr_enviarMenComun (tipo : ℤ) (dato : List Byte) :
    correr e (enviarMenComun tipo dato) s m = some (((), s), m) := rfl

@[simp] lemma correr_cambioPA (id : ℤ) : correr e (cambioPA id) s m = some (((), s), m) := rfl

@[simp] lemma correr_recibirRespKernel : correr e recibirRespKernel s m =
    some (((), s), { m with turno := m.turno + 1 }) := rfl

lemma correr_pedirUmv (tipo base offset tam : ℤ) (buffer : List Byte) :
    correr e (pedirUmv tipo base offset tam buffer) s m =
      (e.atender ⟨tipo, base, offset, tam, buffer⟩ m).map fun r => ((r.1, s), r.2) := by
  unfold correr pedirUmv hacer
  rw [Dialog.interp_ask]
  show (e.atender _ m).bind _ = _
  cases e.atender ⟨tipo, base, offset, tam, buffer⟩ m <;> rfl

/-- A read of the stack. -/
lemma correr_solBytes (offset tam : ℤ) :
    correr e (pedirUmv solBytes e.base offset tam []) s m =
      if e.EnPila offset tam then
        some ((⟨tam, rSolBytes, read m.pila (e.base + offset) tam.toNat⟩, s), m)
      else none := by
  rw [correr_pedirUmv, Entorno.atender, if_pos rfl]
  split <;> rfl

/-- A write to the stack. -/
lemma correr_almBytes {offset tam : ℤ} {buffer : List Byte} (h : buffer.length = tam) :
    correr e (pedirUmv almBytes e.base offset tam buffer) s m =
      if e.EnPila offset tam then
        some ((⟨0, rAlmBytes, []⟩, s), { m with pila := memcpy m.pila (e.base + offset) buffer })
      else none := by
  have hne : ¬ (almBytes : ℤ) = solBytes := by decide
  rw [correr_pedirUmv, Entorno.atender, if_pos rfl]
  simp only [hne, if_false, true_and, h, if_true]
  split <;> rfl

/-- A write of an integer. -/
lemma correr_almInt (offset x : ℤ) :
    correr e (pedirUmv almBytes e.base offset 4 (bytesOfInt x)) s m =
      if e.EnPila offset 4 then
        some ((⟨0, rAlmBytes, []⟩, s),
          { m with pila := memcpy m.pila (e.base + offset) (bytesOfInt x) })
      else none := correr_almBytes (by simp)

/-- A write of a name and the four bytes after it. -/
lemma correr_almNombre (offset : ℤ) (nombre : Byte) (f : Fin 3 → Byte) :
    correr e (pedirUmv almBytes e.base offset 5 (nombre :: 0 :: List.ofFn f)) s m =
      if e.EnPila offset 5 then
        some ((⟨0, rAlmBytes, []⟩, s),
          { m with pila := memcpy m.pila (e.base + offset) (nombre :: 0 :: List.ofFn f) })
      else none := correr_almBytes (by simp)

lemma bind_guard {c : Prop} [Decidable c] {a : α} {f : α → Option β} :
    ((if c then some a else none).bind f) = if c then f a else none := by
  split <;> rfl

/-! What a finished sequence says about its first operation. -/

section Bind

variable {f : ℤ → Prog β} {g : MenComun → Prog β} {r : (β × Estado) × Memoria}

lemma get_bind (f : Estado → Prog β) : correr e (get >>= f) s m = correr e (f s) s m := rfl

lemma entero_bind {x : ℤ} (h : correr e (entero x >>= f) s m = some r) :
    EsInt32 x ∧ correr e (f x) s m = some r := by
  rw [correr_bind, correr_entero, bind_guard, Option.ite_none_right_eq_some] at h
  exact h

lemma solBytes_bind {offset tam : ℤ}
    (h : correr e (pedirUmv solBytes e.base offset tam [] >>= g) s m = some r) :
    e.EnPila offset tam ∧
      correr e (g ⟨tam, rSolBytes, Memory.read m.pila (e.base + offset) tam.toNat⟩) s m = some r := by
  rw [correr_bind, correr_solBytes, bind_guard, Option.ite_none_right_eq_some] at h
  exact h

lemma almInt_bind {offset x : ℤ}
    (h : correr e (pedirUmv almBytes e.base offset 4 (bytesOfInt x) >>= g) s m = some r) :
    e.EnPila offset 4 ∧ correr e (g ⟨0, rAlmBytes, []⟩) s
      ⟨memcpy m.pila (e.base + offset) (bytesOfInt x), m.turno⟩ = some r := by
  rw [correr_bind, correr_almInt, bind_guard, Option.ite_none_right_eq_some] at h
  exact h

lemma copia_bind {l : List Byte} {n : ℕ} {f : List Byte → Prog β} (hl : l.length = n)
    (h : correr e (Prog.memcpy l n >>= f) s m = some r) : correr e (f l) s m = some r := by
  rw [correr_bind, correr_copia, if_pos hl.ge, List.take_of_length_le hl.le] at h
  exact h

end Bind

end Correr

/-! ### The dictionary of a frame -/

/-- The dictionary of `n` variables from `dir` on. The last variable of a name is the one that is
found. -/
def dicc (pila : ℤ → Byte) (dir : ℤ) : ℕ → Byte → Option ℤ
  | 0 => fun _ => none
  | n + 1 => Function.update (dicc pila dir n)
      (esNumeroPasarChar (pila (dir + 5 * n))) (some (dir + 5 * n))

lemma dicc_congr {pila pila' : ℤ → Byte} {dir : ℤ} {n : ℕ}
    (h : ∀ i < n, pila (dir + 5 * i) = pila' (dir + 5 * i)) : dicc pila dir n = dicc pila' dir n := by
  induction n with
  | zero => rfl
  | succ n ih =>
    have hn := h n (Nat.lt_succ_self n)
    rw [dicc, dicc, ih fun i hi => h i (Nat.lt_succ_of_lt hi), hn]

/-- **What is in the dictionary**: under each name, the last variable that has it. -/
lemma dicc_eq_some {pila : ℤ → Byte} {dir d : ℤ} {n : ℕ} {c : Byte} : dicc pila dir n c = some d ↔
    ∃ i < n, d = dir + 5 * (i : ℤ) ∧ esNumeroPasarChar (pila (dir + 5 * i)) = c ∧
      ∀ j < n, i < j → esNumeroPasarChar (pila (dir + 5 * j)) ≠ c := by
  induction n with
  | zero => simp [dicc]
  | succ n ih =>
    rw [dicc, Function.update_apply]
    split
    · rename_i hc
      constructor
      · intro h
        obtain rfl := Option.some.inj h
        exact ⟨n, Nat.lt_succ_self n, rfl, hc.symm, fun j hj hlt => by omega⟩
      · rintro ⟨i, hi, rfl, -, hlast⟩
        have hin : i = n := by
          by_contra hne
          exact hlast n (Nat.lt_succ_self n) (by omega) hc.symm
        rw [hin]
    · rename_i hc
      rw [ih]
      constructor
      · rintro ⟨i, hi, rfl, hname, hlast⟩
        refine ⟨i, by omega, rfl, hname, fun j hj hlt heq => ?_⟩
        by_cases hjn : j = n
        · exact hc (hjn ▸ heq.symm)
        · exact hlast j (by omega) hlt heq
      · rintro ⟨i, hi, rfl, hname, hlast⟩
        have hin : i ≠ n := fun h => hc (h ▸ hname.symm)
        exact ⟨i, by omega, rfl, hname, fun j hj => hlast j (by omega)⟩

/-- The name of the variable `i` of the frame at `dir` can be read. -/
def Entorno.Legible (e : Entorno) (dir : ℤ) (i : ℕ) : Prop :=
  EsInt32 (dir - e.base + i * 5) ∧ e.EnPila (dir - e.base + i * 5) 1 ∧ EsInt32 (dir + i * 5)

section Primitivas

variable {e : Entorno} {s s' : Estado} {m m' : Memoria}

lemma base_add_sub (e : Entorno) (x y : ℤ) : e.base + (x - e.base + y) = x + y := by ring

lemma head_read (pila : ℤ → Byte) (p : ℤ) : (read pila p (Int.toNat 1)).head? = some (pila p) := by
  simp [Memory.read]

/-- The loop adds the variables from `i` on to a dictionary of those before. -/
lemma correr_regenerarLoop (hb : s.pcb.dirSegStack = e.base) (n : ℕ) :
    ∀ (i : ℕ) (r : (Unit × Estado) × Memoria),
      correr e (regenerarLoop n i) (s.conVariables (dicc m.pila s.pcb.dirContActual i)) m = some r ↔
        (∀ j < n, e.Legible s.pcb.dirContActual (i + j)) ∧
          r = (((), s.conVariables (dicc m.pila s.pcb.dirContActual (i + n))), m) := by
  induction n with
  | zero =>
    intro i r
    simp [regenerarLoop, eq_comm]
  | succ n ih =>
    intro i r
    have hdir : s.pcb.dirContActual + (i : ℤ) * 5 = s.pcb.dirContActual + 5 * (i : ℤ) := by ring
    have hsig := ih (i + 1) r
    rw [dicc, Nat.cast_add, Nat.cast_one] at hsig
    have hleg : (∀ j < n + 1, e.Legible s.pcb.dirContActual (i + j)) ↔
        e.Legible s.pcb.dirContActual i ∧ ∀ j < n, e.Legible s.pcb.dirContActual (i + 1 + j) := by
      rw [Nat.forall_lt_succ_left]
      simp only [Nat.add_zero, Nat.add_assoc, Nat.add_comm 1]
    rw [hleg, and_assoc, show i + (n + 1) = i + 1 + n by omega, ← hsig]
    simp only [regenerarLoop, correr_bind, correr_get, Option.bind_some, correr_entero, bind_guard,
      Estado.conVariables_pcb, hb, correr_solBytes, correr_deref, correr_modify, base_add_sub,
      head_read, Option.map_some, Option.ite_none_right_eq_some, Entorno.Legible, and_assoc, hdir]
    rfl

/-- **What `regenerar_dicc_var` leaves**: the dictionary of the variables of the frame. -/
theorem correr_regenerarDiccVar (hb : s.pcb.dirSegStack = e.base) (r : (Unit × Estado) × Memoria) :
    correr e regenerarDiccVar s m = some r ↔
      (∀ j < s.pcb.cantVarContActual.toNat, e.Legible s.pcb.dirContActual j) ∧
        r = (((), s.conVariables
          (dicc m.pila s.pcb.dirContActual s.pcb.cantVarContActual.toNat)), m) := by
  have h := correr_regenerarLoop (m := m) hb s.pcb.cantVarContActual.toNat 0 r
  simp only [Nat.zero_add] at h
  rw [← h]
  simp only [regenerarDiccVar, correr_bind, correr_modify, Option.bind_some, correr_get]
  rfl

/-! ### Primitives -/

lemma esNumeroPasarChar_idem (c : Byte) :
    esNumeroPasarChar (esNumeroPasarChar c) = esNumeroPasarChar c := by
  unfold esNumeroPasarChar
  by_cases hc : c ≤ 9
  · have h : c.toNat ≤ 9 := UInt8.le_iff_toNat_le.1 hc
    have h48 : ¬ c + 48 ≤ 9 := by
      rw [UInt8.le_iff_toNat_le, UInt8.toNat_add]
      simp
      omega
    rw [if_pos hc, if_neg h48]
  · rw [if_neg hc, if_neg hc]

/-- The first cell behind the variables of the frame. -/
def Estado.tope (s : Estado) : ℤ := s.pcb.dirContActual + s.pcb.cantVarContActual * 5

lemma tope_offset (s : Estado) (e : Entorno) :
    s.pcb.dirContActual - e.base + s.pcb.cantVarContActual * 5 = s.tope - e.base := by
  unfold Estado.tope
  ring

lemma base_tope (s : Estado) (e : Entorno) : e.base + (s.tope - e.base) = s.tope := by ring

/-- `definirVariable` puts the name in the first cell behind the variables of the frame. -/
lemma correr_definirVariable (hb : s.pcb.dirSegStack = e.base) {c : Byte} {v : ℤ}
    (h : correr e (definirVariable c) s m = some ((v, s'), m')) :
    ∃ resto, resto.length = 3 ∧ EsInt32 s.tope ∧ EsInt32 (s.tope - e.base) ∧
      e.EnPila (s.tope - e.base) 5 ∧ EsInt32 (s.pcb.cantVarContActual + 1) ∧ v = s.tope ∧
      s' = { s with
        pcb := { s.pcb with cantVarContActual := s.pcb.cantVarContActual + 1 }
        dicVariables := Function.update s.dicVariables (esNumeroPasarChar c) (some s.tope) } ∧
      m' = ⟨memcpy m.pila s.tope (esNumeroPasarChar c :: 0 :: resto), m.turno + 1⟩ := by
  simp only [definirVariable, correr_bind, correr_get, Option.bind_some, correr_entero, bind_guard,
    hb, tope_offset, base_tope, correr_basura, correr_almNombre, if_true, correr_modify,
    correr_pure, correr_modificarPcb, Option.ite_none_right_eq_some, Option.some.injEq,
    Prod.mk.injEq, esNumeroPasarChar_idem] at h
  obtain ⟨h₁, h₂, h₃, h₄, ⟨rfl, rfl⟩, rfl⟩ := h
  exact ⟨_, List.length_ofFn, h₂, h₁, h₃, h₄, rfl, rfl, rfl⟩

lemma correr_obtenerPosicionVariable {c : Byte} {v : ℤ}
    (h : correr e (obtenerPosicionVariable c) s m = some ((v, s'), m')) :
    s.dicVariables (esNumeroPasarChar c) = some v ∧ s' = s ∧ m' = m := by
  simp only [obtenerPosicionVariable, correr_bind, correr_get, Option.bind_some, correr_deref,
    Option.map_eq_some_iff, Prod.mk.injEq] at h
  obtain ⟨_, hv, ⟨rfl, rfl⟩, rfl⟩ := h
  exact ⟨hv, rfl, rfl⟩

lemma drop_ofFn {n : ℕ} (f : Fin n → Byte) : (List.ofFn f).drop n = [] :=
  List.drop_eq_nil_of_le (by simp)

/-- The address of the value of the variable at `d`, with the sum of 32 bits of `dereferenciar` and
`asignar`. -/
def dirValor (base d : ℤ) : ℤ := base + int32 (d - base + 1)

lemma dirValor_eq {base d : ℤ} (h : int32 (d - base + 1) = d - base + 1) :
    dirValor base d = d + 1 := by
  unfold dirValor
  rw [h]
  ring

/-- `dereferenciar` gives the four bytes of the value. -/
lemma correr_dereferenciar (hb : s.pcb.dirSegStack = e.base) {d v : ℤ}
    (h : correr e (dereferenciar d) s m = some ((v, s'), m')) :
    e.EnPila (int32 (d - e.base + 1)) 4 ∧ v = intOfBytes (Memory.read m.pila (dirValor e.base d) 4) ∧
      s' = s ∧ m' = ⟨m.pila, m.turno + 1⟩ := by
  simp only [dereferenciar, correr_bind, correr_get, Option.bind_some, bind_guard, hb, correr_basura,
    correr_solBytes, if_true, Option.ite_none_right_eq_some, Int.reduceToNat, read_length, le_refl,
    drop_ofFn, List.append_nil, correr_pure, Option.some.injEq, Prod.mk.injEq] at h
  obtain ⟨hp, ⟨rfl, rfl⟩, rfl⟩ := h
  exact ⟨hp, rfl, rfl, rfl⟩

/-- `asignar` writes the four bytes of the value, or nothing after a fault. -/
lemma correr_asignar (hb : s.pcb.dirSegStack = e.base) {d v : ℤ}
    (h : correr e (asignar d v) s m = some (((), s'), m')) :
    s' = s ∧ (m' = m ∨ e.EnPila (int32 (d - e.base + 1)) 4 ∧
      m' = ⟨memcpy m.pila (dirValor e.base d) (bytesOfInt v), m.turno⟩) := by
  rw [asignar, get_bind] at h
  split at h
  · obtain ⟨⟨-, rfl⟩, rfl⟩ := by simpa only [correr_pure, Option.some.injEq, Prod.mk.injEq] using h
    exact ⟨rfl, .inl rfl⟩
  · dsimp only at h
    rw [hb] at h
    obtain ⟨hp, h⟩ := almInt_bind h
    rw [if_neg (by decide), correr_pure] at h
    obtain ⟨⟨-, rfl⟩, rfl⟩ := by simpa only [Option.some.injEq, Prod.mk.injEq] using h
    exact ⟨rfl, .inr ⟨hp, rfl⟩⟩

lemma correr_irAlLabel {stringTrim : List Byte → List Byte} {etiq : List Byte}
    (h : correr e (irAlLabel stringTrim etiq) s m = some (((), s'), m')) :
    m' = m ∧ (s' = s.conFin true ∨
      ∃ pc, EsInt32 pc ∧ s' = s.conPcb { s.pcb with programCounter := pc }) := by
  simp only [irAlLabel, correr_bind, correr_buscar, Option.bind_some] at h
  split at h
  · obtain ⟨⟨-, rfl⟩, rfl⟩ := by simpa using h
    exact ⟨rfl, .inr ⟨_, e.buscar_int32 _ _ _, rfl⟩⟩
  · obtain ⟨⟨-, rfl⟩, rfl⟩ := by simpa using h
    exact ⟨rfl, .inl rfl⟩

/-- `preservarContexto` writes the address of the frame and the program counter behind it. -/
lemma correr_preservarContexto (hb : s.pcb.dirSegStack = e.base)
    (h : correr e preservarContexto s m = some (((), s'), m')) :
    e.EnPila (s.tope - e.base) 4 ∧ e.EnPila (s.tope - e.base + 4) 4 ∧ s' = s ∧
      m' = ⟨memcpy (memcpy m.pila s.tope (bytesOfInt s.pcb.dirContActual)) (s.tope + 4)
        (bytesOfInt s.pcb.programCounter), m.turno⟩ := by
  simp only [preservarContexto, correr_bind, correr_get, Option.bind_some, correr_entero,
    bind_guard, hb, tope_offset, base_tope, base_add_sub, correr_almInt, if_true, correr_pure,
    Option.ite_none_right_eq_some, Option.some.injEq, Prod.mk.injEq, true_and] at h
  obtain ⟨-, h₁, -, h₂, rfl, rfl⟩ := h
  exact ⟨h₁, h₂, rfl, rfl⟩

/-- The state at the start of a function: an empty frame at `dir`, and the line of a label. -/
def Estado.enFuncion (s : Estado) (dir pc : ℤ) : Estado :=
  { s with
    pcb := { s.pcb with dirContActual := dir, cantVarContActual := 0, programCounter := pc }
    dicVariables := fun _ => none }

lemma regenerarDiccVar_vacia (hb : s.pcb.dirSegStack = e.base) (hc : s.pcb.cantVarContActual = 0) :
    correr e regenerarDiccVar s m = some (((), s.conVariables fun _ => none), m) := by
  rw [correr_regenerarDiccVar hb, hc]
  exact ⟨by simp, rfl⟩

/-- The end of both calls. -/
lemma correr_entrar (hb : s.pcb.dirSegStack = e.base) (etiq : List Byte) (dir : ℤ) :
    correr e (do
      modificarPcb fun pcb => { pcb with dirContActual := dir, cantVarContActual := 0 }
      regenerarDiccVar
      let posRetorno ← metadataBuscarEtiqueta etiq
      modificarPcb fun pcb => { pcb with programCounter := posRetorno }) s m =
    some (((), s.enFuncion dir (e.buscar etiq s.etiquetas s.pcb.tamIndiceEtiquetas)), m) := by
  rw [correr_bind, correr_modificarPcb, Option.bind_some, correr_bind,
    regenerarDiccVar_vacia (by exact hb) rfl]
  rfl

/-- `llamarSinRetorno` leaves eight bytes of context below the new frame. -/
lemma correr_llamarSinRetorno (hb : s.pcb.dirSegStack = e.base) {etiq : List Byte}
    (h : correr e (llamarSinRetorno etiq) s m = some (((), s'), m')) :
    e.EnPila (s.tope - e.base) 8 ∧ EsInt32 (s.tope + 8) ∧
      s' = s.enFuncion (s.tope + 8) (e.buscar etiq s.etiquetas s.pcb.tamIndiceEtiquetas) ∧
      m' = ⟨memcpy (memcpy m.pila s.tope (bytesOfInt s.pcb.dirContActual)) (s.tope + 4)
        (bytesOfInt s.pcb.programCounter), m.turno⟩ := by
  have hdir : s.pcb.dirContActual + 5 * s.pcb.cantVarContActual + 8 = s.tope + 8 := by
    unfold Estado.tope
    ring
  obtain ⟨_, s₁, m₁, hp, h⟩ := correr_bind_some h
  obtain ⟨h₁, h₂, hs, hm⟩ := correr_preservarContexto hb hp
  rw [hs, hm, get_bind] at h
  obtain ⟨h₃, h⟩ := entero_bind h
  rw [correr_entrar hb, hdir] at h
  rw [hdir] at h₃
  obtain ⟨⟨-, rfl⟩, rfl⟩ := by simpa only [Option.some.injEq, Prod.mk.injEq] using h
  exact ⟨⟨h₁.1, by decide, by have := h₂.2.2; omega⟩, h₃, rfl, rfl⟩

/-- `llamarConRetorno` leaves twelve bytes of context below the new frame. -/
lemma correr_llamarConRetorno (hb : s.pcb.dirSegStack = e.base) {etiq : List Byte} {d : ℤ}
    (h : correr e (llamarConRetorno etiq d) s m = some (((), s'), m')) :
    e.EnPila (s.tope - e.base) 12 ∧ EsInt32 (s.tope + 12) ∧
      s' = s.enFuncion (s.tope + 12) (e.buscar etiq s.etiquetas s.pcb.tamIndiceEtiquetas) ∧
      m' = ⟨memcpy (memcpy (memcpy m.pila s.tope (bytesOfInt s.pcb.dirContActual)) (s.tope + 4)
        (bytesOfInt s.pcb.programCounter)) (s.tope + 8) (bytesOfInt d), m.turno⟩ := by
  have hoff : s.pcb.dirContActual - e.base + s.pcb.cantVarContActual * 5 + 8 = s.tope - e.base + 8 := by
    rw [tope_offset]
  have hdir : e.base + (s.tope - e.base + 8) + 4 = s.tope + 12 := by ring
  obtain ⟨_, s₁, m₁, hp, h⟩ := correr_bind_some h
  obtain ⟨h₁, h₂, hs, hm⟩ := correr_preservarContexto hb hp
  rw [hs, hm, get_bind] at h
  dsimp only at h
  rw [hb] at h
  obtain ⟨-, h⟩ := entero_bind h
  obtain ⟨h₃, h⟩ := almInt_bind h
  rw [if_pos rfl] at h
  obtain ⟨h₄, h⟩ := entero_bind h
  rw [correr_entrar hb, hoff, hdir, base_add_sub] at h
  rw [hoff] at h₃ h₄
  rw [hdir] at h₄
  obtain ⟨⟨-, rfl⟩, rfl⟩ := by simpa only [Option.some.injEq, Prod.mk.injEq] using h
  exact ⟨⟨h₁.1, by decide, by have := h₃.2.2; omega⟩, h₄, rfl, rfl⟩

/-- The context a frame was entered from, as the bytes below it say: where the frame of the caller
is, how many variables it has, and the line to go on with. -/
def Estado.enLlamador (s : Estado) (m : Memoria) (dir cant pc : ℤ) : Estado :=
  { s with
    pcb := { s.pcb with cantVarContActual := cant, programCounter := pc, dirContActual := dir }
    dicVariables := dicc m.pila dir cant.toNat }

/-- The integer at an address of the stack. -/
def Memoria.entero (m : Memoria) (p : ℤ) : ℤ := intOfBytes (Memory.read m.pila p 4)

/-- The integers in a part of the stack that was read. -/
lemma entero_read (m : Memoria) (p : ℤ) {n o : ℕ} (h : o + 4 ≤ n) :
    intOfBytes (((Memory.read m.pila p n).drop o).take 4) = m.entero (p + o) := by
  rw [read_drop_take _ _ h]
  rfl

lemma entero_read_last (m : Memoria) (p : ℤ) (o : ℕ) :
    intOfBytes ((Memory.read m.pila p (o + 4)).drop o) = m.entero (p + o) := by
  rw [read_drop]
  rfl

/-- The end of both returns: the pcb and the dictionary of the frame at `dir`. -/
lemma correr_volver {α : Type} (hb : s.pcb.dirSegStack = e.base) {cant pc dir : ℤ} {f : Prog α}
    {r : (α × Estado) × Memoria}
    (h : correr e (do actualizarPcb cant pc dir; regenerarDiccVar; f) s m = some r) :
    (∀ j < cant.toNat, e.Legible dir j) ∧ correr e f (s.enLlamador m dir cant pc) m = some r := by
  rw [correr_bind, correr_actualizarPcb, Option.bind_some] at h
  obtain ⟨_, s₁, m₁, hr, h⟩ := correr_bind_some h
  obtain ⟨hleg, hr⟩ := (correr_regenerarDiccVar (by exact hb) _).1 hr
  obtain ⟨⟨-, rfl⟩, rfl⟩ := by simpa only [Prod.mk.injEq] using hr
  exact ⟨hleg, h⟩

/-- `finalizar` in a function goes back to the context in the eight bytes below the frame. -/
lemma correr_finalizar (hb : s.pcb.dirSegStack = e.base) (hf : s.pcb.dirContActual ≠ e.base)
    (h : correr e finalizar s m = some (((), s'), m')) :
    ∃ dir cant, dir = m.entero (s.pcb.dirContActual - 8) ∧
      cant = (s.pcb.dirContActual - dir - 8).tdiv 5 ∧ EsInt32 (s.pcb.dirContActual - dir - 8) ∧
      (∀ j < cant.toNat, e.Legible dir j) ∧
      s' = s.enLlamador m dir cant (m.entero (s.pcb.dirContActual - 4)) ∧ m' = m := by
  have hoff : e.base + (s.pcb.dirContActual - e.base - 8) = s.pcb.dirContActual - 8 := by ring
  have hpc : s.pcb.dirContActual - 8 + ((4 : ℕ) : ℤ) = s.pcb.dirContActual - 4 := by
    push_cast
    ring
  have hdir := entero_read m (s.pcb.dirContActual - 8) (show 0 + 4 ≤ 8 by decide)
  have hlast := entero_read_last m (s.pcb.dirContActual - 8) 4
  rw [List.drop_zero, Nat.cast_zero, add_zero] at hdir
  rw [hpc] at hlast
  rw [finalizar, get_bind] at h
  dsimp only at h
  rw [hb, if_neg hf] at h
  obtain ⟨-, h⟩ := entero_bind h
  obtain ⟨-, h⟩ := solBytes_bind h
  rw [if_pos rfl] at h
  have h := copia_bind (by simp) h
  rw [hoff] at h
  dsimp only at h
  obtain ⟨hcant, h⟩ := entero_bind h
  rw [← bind_pure_unit (x := regenerarDiccVar)] at h
  obtain ⟨hleg, h⟩ := correr_volver hb h
  obtain ⟨⟨-, rfl⟩, rfl⟩ := by simpa only [correr_pure, Option.some.injEq, Prod.mk.injEq] using h
  exact ⟨_, _, hdir, rfl, hcant, hleg, by rw [← hlast]; rfl, rfl⟩

/-- `retornar` goes back to the context in the twelve bytes below the frame, and writes the value
where they say. -/
lemma correr_retornar (hb : s.pcb.dirSegStack = e.base) {v : ℤ}
    (h : correr e (retornar v) s m = some (((), s'), m')) :
    ∃ dir cant d, dir = m.entero (s.pcb.dirContActual - 12) ∧
      cant = (s.pcb.dirContActual - dir - 12).tdiv 5 ∧ EsInt32 (s.pcb.dirContActual - dir - 12) ∧
      d = m.entero (s.pcb.dirContActual - 4) ∧ (∀ j < cant.toNat, e.Legible dir j) ∧
      e.EnPila (d - e.base + 1) 4 ∧
      s' = s.enLlamador m dir cant (m.entero (s.pcb.dirContActual - 8)) ∧
      m' = ⟨memcpy m.pila (d + 1) (bytesOfInt v), m.turno⟩ := by
  have hoff : e.base + (s.pcb.dirContActual - e.base - 12) = s.pcb.dirContActual - 12 := by ring
  have hpc : s.pcb.dirContActual - 12 + ((4 : ℕ) : ℤ) = s.pcb.dirContActual - 8 := by
    push_cast
    ring
  have hret : s.pcb.dirContActual - 12 + ((8 : ℕ) : ℤ) = s.pcb.dirContActual - 4 := by
    push_cast
    ring
  have hdir := entero_read m (s.pcb.dirContActual - 12) (show 0 + 4 ≤ 12 by decide)
  have hmid := entero_read m (s.pcb.dirContActual - 12) (show 4 + 4 ≤ 12 by decide)
  have hlast := entero_read_last m (s.pcb.dirContActual - 12) 8
  rw [List.drop_zero, Nat.cast_zero, add_zero] at hdir
  rw [hpc] at hmid
  rw [hret] at hlast
  rw [retornar, get_bind] at h
  dsimp only at h
  rw [hb] at h
  obtain ⟨-, h⟩ := entero_bind h
  obtain ⟨-, h⟩ := solBytes_bind h
  rw [if_pos rfl] at h
  have h := copia_bind (by simp) h
  rw [hoff] at h
  dsimp only at h
  obtain ⟨hcant, h⟩ := entero_bind h
  obtain ⟨hleg, h⟩ := correr_volver hb h
  obtain ⟨-, h⟩ := entero_bind h
  obtain ⟨hd, h⟩ := almInt_bind h
  rw [correr_pure, base_add_sub] at h
  obtain ⟨⟨-, rfl⟩, rfl⟩ := by simpa only [Option.some.injEq, Prod.mk.injEq] using h
  refine ⟨_, _, _, hdir, rfl, hcant, hlast, hleg, hd, ?_, rfl⟩
  rw [← hmid]
  rfl

/-- The variables are printed with nothing changed. -/
lemma correr_imprimirVariables (hb : s.pcb.dirContActual = e.base) (n : ℕ) : ∀ (i : ℤ) (m : Memoria),
    correr e (imprimirVariables n i) s m = some (((), s'), m') → s' = s ∧ m'.pila = m.pila := by
  induction n with
  | zero =>
    intro i m h
    obtain ⟨⟨-, rfl⟩, rfl⟩ := by
      simpa only [imprimirVariables, correr_pure, Option.some.injEq, Prod.mk.injEq] using h
    exact ⟨rfl, rfl⟩
  | succ n ih =>
    intro i m h
    rw [imprimirVariables, get_bind] at h
    dsimp only at h
    rw [hb] at h
    obtain ⟨-, h⟩ := entero_bind h
    obtain ⟨-, h⟩ := solBytes_bind h
    obtain ⟨-, h⟩ := entero_bind h
    obtain ⟨-, h⟩ := solBytes_bind h
    have h := copia_bind (by simp) h
    simp only [correr_bind, correr_deref, head_read, Option.map_some, Option.bind_some,
      correr_enviarMenComun, correr_recibirRespKernel] at h
    obtain ⟨hs, hm⟩ := ih _ _ h
    exact ⟨hs, hm⟩

/-- `finalizar` at the bottom of the stack prints and ends the process. -/
lemma correr_finalizar_main (hb : s.pcb.dirSegStack = e.base) (hf : s.pcb.dirContActual = e.base)
    (h : correr e finalizar s m = some (((), s'), m')) :
    s' = s.conFin true ∧ m'.pila = m.pila := by
  rw [finalizar, get_bind] at h
  dsimp only at h
  rw [hb, if_pos hf, finalizarContexto, if_neg (by decide), if_pos rfl] at h
  simp only [correr_bind, correr_enviarMenComun, correr_recibirRespKernel, Option.bind_some,
    correr_get] at h
  rw [Option.bind_eq_some_iff] at h
  obtain ⟨⟨⟨_, s₁⟩, m₁⟩, hi, h⟩ := h
  obtain ⟨rfl, hm⟩ := correr_imprimirVariables hf _ _ _ hi
  obtain ⟨⟨-, rfl⟩, rfl⟩ := by simpa only [correr_modify, Option.some.injEq, Prod.mk.injEq] using h
  exact ⟨rfl, hm⟩

end Primitivas

/-! ### The start of a dispatch -/

/-- The first lines of `despacho`. -/
def reanudar (men : MenQuantumPcb) : Prog Unit := do
  tomarPcb men
  cambioPA (← get).pcb.id
  traerIndiceEtiquetas
  regenerarDiccVar

lemma despacho_reanudar (stringTrim : List Byte → List Byte)
    (analizadorLinea : Option (List Byte) → Analisis) (men : MenQuantumPcb) :
    despacho stringTrim analizadorLinea men = (do
      reanudar men
      cicloQuantum stringTrim analizadorLinea (← get).quantumMax.toNat
      if (← get).fueFinEjecucion then pure () else salirPorQuantum
      freeEtiquetas
      cambioPA 0
      modify fun s => (s.conFin false).conSegFault false) := by
  simp only [despacho, reanudar, bind_assoc]

section Despacho

variable {e : Entorno} {s s' : Estado} {m m' : Memoria}

lemma correr_traerIndiceEtiquetas (h : correr e traerIndiceEtiquetas s m = some (((), s'), m')) :
    ∃ l, s' = s.conEtiquetas (.datos l) ∧ m' = m ∧ (s.pcb.dirIndiceEtiquetas ≠ e.base →
      e.otros s.pcb.dirIndiceEtiquetas 0 s.pcb.tamIndiceEtiquetas = some l) := by
  rw [traerIndiceEtiquetas, get_bind] at h
  dsimp only at h
  rw [correr_bind, correr_pedirUmv, Entorno.atender] at h
  by_cases hbase : s.pcb.dirIndiceEtiquetas = e.base
  · rw [if_pos hbase] at h
    split at h
    · rw [if_pos rfl, Option.map_some, Option.bind_some, if_pos rfl, correr_modify] at h
      obtain ⟨⟨-, rfl⟩, rfl⟩ := by simpa only [Option.some.injEq, Prod.mk.injEq] using h
      exact ⟨_, rfl, rfl, fun hne => absurd hbase hne⟩
    · exact absurd h (by simp)
  · rw [if_neg hbase, if_pos rfl, Option.map_map, Option.bind_eq_some_iff] at h
    obtain ⟨r, hr, h⟩ := h
    obtain ⟨l, hl, rfl⟩ := Option.map_eq_some_iff.1 hr
    dsimp only [Function.comp] at h
    rw [if_pos rfl, correr_modify] at h
    obtain ⟨⟨-, rfl⟩, rfl⟩ := by simpa only [Option.some.injEq, Prod.mk.injEq] using h
    exact ⟨l, rfl, rfl, fun _ => hl⟩

/-- The globals after `reanudar`: the pcb of the message, and the labels and variables that the
memory holds for it. -/
lemma correr_reanudar {men : MenQuantumPcb} (hb : men.pcb.dirSegStack = e.base)
    (h : correr e (reanudar men) s m = some (((), s'), m')) :
    men.tipo = pcbYQuantum ∧ m' = m ∧
      (∀ j < men.pcb.cantVarContActual.toNat, e.Legible men.pcb.dirContActual j) ∧
      ∃ l, s' = { s with
          pcb := men.pcb
          quantumMax := men.quantum
          etiquetas := .datos l
          dicVariables := dicc m.pila men.pcb.dirContActual men.pcb.cantVarContActual.toNat } ∧
        (men.pcb.dirIndiceEtiquetas ≠ e.base →
          e.otros men.pcb.dirIndiceEtiquetas 0 men.pcb.tamIndiceEtiquetas = some l) := by
  obtain ⟨_, s₁, m₁, ht, h⟩ := correr_bind_some h
  rw [tomarPcb] at ht
  split at ht
  · rename_i htipo
    rw [correr_modify] at ht
    obtain ⟨⟨-, rfl⟩, rfl⟩ := by simpa only [Option.some.injEq, Prod.mk.injEq] using ht
    rw [get_bind, correr_bind, correr_cambioPA, Option.bind_some] at h
    obtain ⟨_, s₂, m₂, he, h⟩ := correr_bind_some h
    obtain ⟨l, rfl, rfl, hl⟩ := correr_traerIndiceEtiquetas he
    obtain ⟨hleg, hr⟩ := (correr_regenerarDiccVar (by exact hb) _).1 h
    obtain ⟨⟨-, rfl⟩, rfl⟩ := by simpa only [Prod.mk.injEq] using hr
    exact ⟨htipo, rfl, hleg, l, rfl, hl⟩
  · exact absurd ht (by simp)

end Despacho

end Ansisop.Cpu
