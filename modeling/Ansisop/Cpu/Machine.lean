import Ansisop.Cpu.Rebuild
import Ansisop.Lib.Activation

/-!
The AnSISOP machine, and how it lies in the stack segment. The machine knows no bytes and no
addresses: it has a stack of activation records whose cells are the variables, a line, and whether
the process leaves the CPU; a pointer is a variable of a record. In the segment a variable takes five
bytes, its name and its value, and behind the variables of a record that has called a function are
the eight or twelve bytes of what it goes back to (`Guarda`).

The addresses of the variables follow from the shape of the stack (`dirDe`), so that a pointer keeps
its address as long as its record is there.
-/

namespace Ansisop.Cpu

open Ansisop.Sockets Ansisop.Lib Ansisop.Lib.Memory Ansisop.Lib.Activation

/-! ### The machine -/

/-- What a call saves: the line to go on with, and the variable that gets the value. -/
structure Regreso where
  pc : ℤ
  donde : Option Ptr
  deriving DecidableEq, Repr

/-- The records of the functions that run. -/
abbrev Pila := Stack Byte ℤ Regreso

/-- What is saved makes sense: the lines are `int32_t`, and the variables are there. -/
def EnOrden : Pila → Prop
  | .bottom _ => True
  | .call b r _ => EnOrden b ∧ EsInt32 r.pc ∧ ∀ p, r.donde = some p → b.Live p

/-- A process as its script sees it. -/
structure Maquina where
  pila : Pila
  pc : ℤ
  fin : Bool
  enOrden : EnOrden pila

namespace Maquina

/-- The machine has this stack, this line and this flag. -/
def Es (M : Maquina) (pila : Pila) (pc : ℤ) (fin : Bool) : Prop :=
  M.pila = pila ∧ M.pc = pc ∧ M.fin = fin

end Maquina

lemma EnOrden.define {P : Pila} (h : EnOrden P) (n : Byte) (v : ℤ) : EnOrden (P.define n v) := by
  cases P with
  | bottom xs => trivial
  | call b r xs => exact h

lemma EnOrden.set {P : Pila} (h : EnOrden P) (p : Ptr) (v : ℤ) : EnOrden (P.set p v) := by
  induction P with
  | bottom xs => trivial
  | call b r xs ih =>
    rw [Stack.set_call]
    split
    · exact h
    · exact ⟨ih h.1, h.2.1, fun q hq => Stack.live_set.2 (h.2.2 q hq)⟩

/-! ### Addresses -/

section Direcciones

/-- The bytes of what a call saves. -/
def Regreso.tam (r : Regreso) : ℤ := if r.donde.isSome then 12 else 8

lemma Regreso.tam_le (r : Regreso) : 8 ≤ r.tam := by
  unfold Regreso.tam
  split <;> decide

variable (base : ℤ)

/-- The address of the last record. -/
def dirMarco : Pila → ℤ
  | .bottom _ => base
  | .call b r _ => dirMarco b + 5 * b.cells.length + r.tam

/-- The first cell behind it. -/
def topeDe (P : Pila) : ℤ := dirMarco base P + 5 * P.cells.length

/-- The address of a variable. -/
def dirDe : Pila → Ptr → ℤ
  | .bottom _, p => base + 5 * p.slot
  | .call b r xs, p =>
    if p.record = b.depth + 1 then dirMarco base (.call b r xs) + 5 * p.slot else dirDe b p

/-- The frame of the last record. -/
def marcoDe (P : Pila) : Marco := ⟨dirMarco base P, P.cells.length⟩

/-- The frames of the callers, the last one first. -/
def llamadores : Pila → List Marco
  | .bottom _ => []
  | .call b _ _ => marcoDe base b :: llamadores b

variable {base} {P : Pila} {p : Ptr} {n : Byte} {v : ℤ}

lemma dirMarco_call (b : Pila) (r : Regreso) (xs : List (Byte × ℤ)) :
    dirMarco base (.call b r xs) = topeDe base b + r.tam := rfl

lemma dirDe_call (b : Pila) (r : Regreso) (xs : List (Byte × ℤ)) (p : Ptr) :
    dirDe base (.call b r xs) p = if p.record = b.depth + 1
      then dirMarco base (.call b r xs) + 5 * p.slot else dirDe base b p := rfl

lemma base_le_dirMarco (base : ℤ) (P : Pila) : base ≤ dirMarco base P := by
  induction P with
  | bottom xs => exact le_rfl
  | call b r xs ih =>
    have := r.tam_le
    unfold dirMarco
    omega

lemma topeDe_lt (base : ℤ) (b : Pila) (r : Regreso) (xs : List (Byte × ℤ)) :
    topeDe base b + 8 ≤ dirMarco base (.call b r xs) := by
  have := r.tam_le
  rw [dirMarco_call]
  omega

lemma topeDe_call (b : Pila) (r : Regreso) :
    topeDe base (.call b r []) = topeDe base b + r.tam := by
  rw [topeDe, dirMarco_call]
  simp [Stack.cells]

lemma topeDe_le_call (b : Pila) (r : Regreso) (xs : List (Byte × ℤ)) :
    topeDe base b ≤ topeDe base (.call b r xs) := by
  have := topeDe_lt base b r xs
  have : topeDe base (.call b r xs) = dirMarco base (.call b r xs) + 5 * xs.length := rfl
  omega

/-- The frames of the callers end below a frame. -/
lemma apilados_llamadores {e : Entorno} (P : Pila) :
    Apilados e (llamadores e.base P) (dirMarco e.base P) := by
  induction P with
  | bottom xs =>
    intro f hf
    exact absurd hf List.not_mem_nil
  | call b r xs ih =>
    intro f hf
    have h₁ := topeDe_lt e.base b r xs
    have h₂ := base_le_dirMarco e.base b
    have h₃ : topeDe e.base b = dirMarco e.base b + 5 * b.cells.length := rfl
    rcases List.mem_cons.1 hf with rfl | hf
    · exact ⟨h₂, by simp only [marcoDe]; omega⟩
    · have h₄ := ih f hf
      omega

/-- A pointer leads to a variable of one of the frames. -/
lemma viva_dirDe (h : P.Live p) : Viva (marcoDe base P :: llamadores base P) (dirDe base P p) := by
  induction P with
  | bottom xs =>
    rw [Stack.Live, Stack.cell?_bottom] at h
    split at h
    · obtain ⟨hlt, -⟩ := List.getElem?_eq_some_iff.1 (Option.some_get h).symm
      exact ⟨_, List.mem_cons_self, p.slot, hlt, rfl⟩
    · cases h
  | call b r xs ih =>
    rw [Stack.Live, Stack.cell?_call] at h
    rw [dirDe_call]
    split at h
    · obtain ⟨hlt, -⟩ := List.getElem?_eq_some_iff.1 (Option.some_get h).symm
      rw [if_pos ‹_›]
      exact ⟨_, List.mem_cons_self, p.slot, hlt, rfl⟩
    · rw [if_neg ‹_›]
      obtain ⟨f, hf, hd⟩ := ih h
      exact ⟨f, List.mem_cons_of_mem _ hf, hd⟩

/-- A variable lies between the base and what is behind the last record. -/
lemma dirDe_rango (h : P.Live p) : base ≤ dirDe base P p ∧ dirDe base P p + 5 ≤ topeDe base P := by
  induction P with
  | bottom xs =>
    rw [Stack.Live, Stack.cell?_bottom] at h
    split at h
    · obtain ⟨hlt, -⟩ := List.getElem?_eq_some_iff.1 (Option.some_get h).symm
      simp only [dirDe, topeDe, dirMarco, Stack.cells]
      omega
    · cases h
  | call b r xs ih =>
    have h₁ := topeDe_lt base b r xs
    have h₂ := base_le_dirMarco base (.call b r xs)
    rw [Stack.Live, Stack.cell?_call] at h
    rw [dirDe_call]
    unfold topeDe
    split at h
    · obtain ⟨hlt, -⟩ := List.getElem?_eq_some_iff.1 (Option.some_get h).symm
      rw [if_pos ‹_›]
      simp only [Stack.cells]
      omega
    · rw [if_neg ‹_›]
      have := ih h
      simp only [Stack.cells]
      omega

/-! The addresses follow from the shape. -/

@[simp] lemma dirMarco_define (P : Pila) : dirMarco base (P.define n v) = dirMarco base P := by
  cases P <;> rfl

lemma topeDe_define (P : Pila) : topeDe base (P.define n v) = topeDe base P + 5 := by
  rw [topeDe, topeDe, dirMarco_define, Stack.cells_define, List.length_append]
  push_cast
  simp only [List.length_singleton]
  ring

@[simp] lemma dirMarco_set (P : Pila) : dirMarco base (P.set p v) = dirMarco base P := by
  induction P with
  | bottom xs => rfl
  | call b r xs ih =>
    rw [Stack.set_call]
    split
    · rfl
    · rw [dirMarco, dirMarco, ih, Stack.cells_set_length]

@[simp] lemma topeDe_set (P : Pila) : topeDe base (P.set p v) = topeDe base P := by
  rw [topeDe, topeDe, dirMarco_set, Stack.cells_set_length]

lemma dirDe_set (P : Pila) (p q : Ptr) (v : ℤ) : dirDe base (P.set p v) q = dirDe base P q := by
  induction P with
  | bottom xs => rfl
  | call b r xs ih =>
    rw [Stack.set_call]
    split
    · rfl
    · rw [dirDe_call, dirDe_call, Stack.depth_set, ih, dirMarco_call, dirMarco_call, topeDe_set]

lemma dirDe_top (P : Pila) (i : ℕ) : dirDe base P ⟨P.depth, i⟩ = dirMarco base P + 5 * i := by
  cases P with
  | bottom xs => rfl
  | call b r xs => exact if_pos rfl

lemma dirDe_define (P : Pila) (p : Ptr) : dirDe base (P.define n v) p = dirDe base P p := by
  cases P <;> rfl

end Direcciones

/-! ### The bytes -/

section Bytes

/-- The variables of a record, at the address `dir`. -/
def Celdas (m : Memoria) (dir : ℤ) (xs : List (Byte × ℤ)) : Prop :=
  ∀ (i : ℕ) n v, xs[i]? = some (n, v) →
    esNumeroPasarChar (m.pila (dir + 5 * i)) = n ∧ m.entero (dir + 5 * i + 1) = v

/-- The bytes hold the stack. -/
def Guarda (base : ℤ) (m : Memoria) : Pila → Prop
  | .bottom xs => Celdas m base xs
  | .call b r xs => Guarda base m b ∧ m.entero (topeDe base b) = dirMarco base b ∧
    m.entero (topeDe base b + 4) = r.pc ∧
    (∀ p, r.donde = some p → m.entero (topeDe base b + 8) = dirDe base b p) ∧
    Celdas m (dirMarco base (.call b r xs)) xs

variable {base dir : ℤ} {m m' : Memoria} {xs : List (Byte × ℤ)} {P : Pila} {p : Ptr} {n : Byte}
  {v : ℤ}

lemma Celdas.congr (h : Celdas m dir xs)
    (hm : ∀ a, dir ≤ a → a < dir + 5 * xs.length → m'.pila a = m.pila a) : Celdas m' dir xs := by
  intro i n v hi
  obtain ⟨hlt, -⟩ := List.getElem?_eq_some_iff.1 hi
  obtain ⟨hn, hv⟩ := h i n v hi
  refine ⟨?_, ?_⟩
  · rw [hm _ (by omega) (by omega)]
    exact hn
  · rw [entero_congr fun a h₁ h₂ => hm a (by omega) (by omega)]
    exact hv

/-- A variable behind the others. -/
lemma Celdas.append (h : Celdas m dir xs) (hn : esNumeroPasarChar (m.pila (dir + 5 * xs.length)) = n)
    (hv : m.entero (dir + 5 * xs.length + 1) = v) : Celdas m dir (xs ++ [(n, v)]) := by
  intro i n' v' hi
  rcases Nat.lt_or_ge i xs.length with hlt | hge
  · rw [List.getElem?_append_left hlt] at hi
    exact h i n' v' hi
  · rw [List.getElem?_append_right hge] at hi
    obtain ⟨hlt, heq⟩ := List.getElem?_eq_some_iff.1 hi
    have hlt : i - xs.length < 1 := hlt
    obtain rfl : i = xs.length := by omega
    obtain ⟨rfl, rfl⟩ := Prod.mk.inj (by simpa using heq)
    exact ⟨hn, hv⟩

/-- A variable with another value. -/
lemma Celdas.modify {i : ℕ} (h : Celdas m dir xs) (hv : m'.entero (dir + 5 * i + 1) = v)
    (hm : ∀ a, ¬ (dir + 5 * i < a ∧ a ≤ dir + 5 * i + 4) → m'.pila a = m.pila a) :
    Celdas m' dir (xs.modify i fun x => (x.1, v)) := by
  intro j n v' hj
  rw [List.getElem?_modify] at hj
  obtain ⟨⟨n', w⟩, hi, heq⟩ := Option.map_eq_some_iff.1 hj
  obtain ⟨hn, hw⟩ := h j _ _ hi
  by_cases hij : i = j
  · subst hij
    rw [if_pos rfl] at heq
    obtain ⟨rfl, rfl⟩ := Prod.mk.inj heq
    refine ⟨?_, hv⟩
    rw [hm _ (by omega)]
    exact hn
  · rw [if_neg hij] at heq
    obtain ⟨rfl, rfl⟩ := Prod.mk.inj heq
    refine ⟨?_, ?_⟩
    · rw [hm _ (by omega)]
      exact hn
    · rw [entero_congr fun a h₁ h₂ => hm a (by omega)]
      exact hw

/-- What a pointer leads to is at its address. -/
lemma Guarda.cell (h : Guarda base m P) (hp : P.cell? p = some (n, v)) :
    esNumeroPasarChar (m.pila (dirDe base P p)) = n ∧ m.entero (dirDe base P p + 1) = v := by
  induction P with
  | bottom xs =>
    rw [Stack.cell?_bottom] at hp
    split at hp
    · exact h _ _ _ hp
    · cases hp
  | call b r xs ih =>
    rw [Stack.cell?_call] at hp
    rw [dirDe_call]
    split at hp
    · rw [if_pos ‹_›]
      exact h.2.2.2.2 _ _ _ hp
    · rw [if_neg ‹_›]
      exact ih h.1 hp

/-- The variables of the last record. -/
lemma Guarda.celdas (h : Guarda base m P) : Celdas m (dirMarco base P) P.cells := by
  cases P with
  | bottom xs => exact h
  | call b r xs => exact h.2.2.2.2

/-- Only the bytes below the end of the last record matter. -/
lemma Guarda.congr (h : Guarda base m P)
    (hm : ∀ a, base ≤ a → a < topeDe base P → m'.pila a = m.pila a) : Guarda base m' P := by
  induction P with
  | bottom xs => exact Celdas.congr h fun a h₁ h₂ => hm a h₁ h₂
  | call b r xs ih =>
    obtain ⟨hb, hdir, hpc, hdonde, hc⟩ := h
    have h₁ := topeDe_lt base b r xs
    have h₂ := base_le_dirMarco base b
    have h₃ : topeDe base (.call b r xs) = dirMarco base (.call b r xs) + 5 * xs.length := rfl
    have h₄ : topeDe base b = dirMarco base b + 5 * b.cells.length := rfl
    have hentero : ∀ x, base ≤ x → x + 4 ≤ dirMarco base (.call b r xs) →
        m'.entero x = m.entero x := by
      intro x hx hx'
      exact entero_congr fun a ha ha' => hm a (by omega) (by omega)
    refine ⟨ih hb fun a ha ha' => hm a ha (by omega), ?_, ?_, fun p hp => ?_, ?_⟩
    · rw [hentero _ (by omega) (by omega)]
      exact hdir
    · rw [hentero _ (by omega) (by omega)]
      exact hpc
    · have h₅ : r.tam = 12 := by
        unfold Regreso.tam
        rw [hp]
        rfl
      have h₆ : dirMarco base (.call b r xs) = topeDe base b + r.tam := rfl
      rw [hentero _ (by omega) (by omega)]
      exact hdonde p hp
    · exact hc.congr fun a ha ha' => hm a (by omega) (by omega)

/-- A variable is added to the last record. -/
lemma Guarda.define (h : Guarda base m P)
    (hm : ∀ a, base ≤ a → a < topeDe base P → m'.pila a = m.pila a)
    (hn : esNumeroPasarChar (m'.pila (topeDe base P)) = n)
    (hv : m'.entero (topeDe base P + 1) = v) : Guarda base m' (P.define n v) := by
  have h' := h.congr hm
  cases P with
  | bottom xs => exact Celdas.append h' hn hv
  | call b r xs => exact ⟨h'.1, h'.2.1, h'.2.2.1, h'.2.2.2.1, Celdas.append h'.2.2.2.2 hn hv⟩

/-- A variable is given a value. -/
lemma Guarda.set (h : Guarda base m P) (hp : P.Live p)
    (hv : m'.entero (dirDe base P p + 1) = v)
    (hm : ∀ a, ¬ (dirDe base P p < a ∧ a ≤ dirDe base P p + 4) → m'.pila a = m.pila a) :
    Guarda base m' (P.set p v) := by
  induction P with
  | bottom xs =>
    rw [Stack.Live, Stack.cell?_bottom] at hp
    split at hp
    · rw [Stack.set, if_pos ‹_›]
      exact Celdas.modify h hv hm
    · cases hp
  | call b r xs ih =>
    obtain ⟨hb, hdir, hpc, hdonde, hc⟩ := h
    have h₁ := topeDe_lt base b r xs
    have h₂ : topeDe base b = dirMarco base b + 5 * b.cells.length := rfl
    rw [Stack.Live, Stack.cell?_call] at hp
    rw [dirDe_call] at hv hm
    rw [Stack.set_call]
    by_cases hrec : p.record = b.depth + 1
    · -- the variable is one of the last record
      rw [if_pos hrec] at hp hv hm ⊢
      have hbajo : ∀ a, a < dirMarco base (.call b r xs) → m'.pila a = m.pila a :=
        fun a ha => hm a (by omega)
      have hentero : ∀ x, x + 4 ≤ dirMarco base (.call b r xs) → m'.entero x = m.entero x :=
        fun x hx => entero_congr fun a _ ha => hbajo a (by omega)
      refine ⟨hb.congr fun a _ ha => hbajo a (by omega), ?_, ?_, fun q hq => ?_,
        Celdas.modify hc hv hm⟩
      · rw [hentero _ (by omega)]
        exact hdir
      · rw [hentero _ (by omega)]
        exact hpc
      · have h₃ : r.tam = 12 := by
          unfold Regreso.tam
          rw [hq]
          rfl
        have h₄ : dirMarco base (.call b r xs) = topeDe base b + r.tam := rfl
        rw [hentero _ (by omega)]
        exact hdonde q hq
    · -- it is one of a caller
      rw [if_neg hrec] at hp hv hm ⊢
      have hrango : base ≤ dirDe base b p ∧ dirDe base b p + 5 ≤ topeDe base b := dirDe_rango hp
      have harriba : ∀ a, topeDe base b ≤ a → m'.pila a = m.pila a :=
        fun a ha => hm a (by omega)
      have hentero : ∀ x, topeDe base b ≤ x → m'.entero x = m.entero x :=
        fun x hx => entero_congr fun a ha _ => harriba a (by omega)
      refine ⟨ih hb hp hv hm, ?_, ?_, fun q hq => ?_, ?_⟩
      · rw [topeDe_set, dirMarco_set, hentero _ le_rfl]
        exact hdir
      · rw [topeDe_set, hentero _ (by omega)]
        exact hpc
      · rw [topeDe_set, dirDe_set, hentero _ (by omega)]
        exact hdonde q hq
      · rw [dirMarco_call, topeDe_set, ← dirMarco_call b r xs]
        exact hc.congr fun a ha _ => harriba a (by omega)

end Bytes

end Ansisop.Cpu
