import Ansisop.Cpu.Stack
import Ansisop.Lib.Run

/-!
# Calls and returns of the AnSISOP stack

A well-nested trace is a tree of calls (`Cuerpo`), and the frames that are live while it runs are
known without running it (`Marco`). A body leaves everything below its frame as it was but for the
cells it assigns to (`conserva_run`), so the return finds the context that the call has saved, and
the number of variables comes back from the distance of the two frames (`Cerrada`).
-/

namespace Ansisop.Cpu

open Ansisop.Sockets Ansisop.Lib Ansisop.Lib.Memory
open TipoDatos hiding signal wait imprimirTexto cambioPA finQuantum finEjecucion

/-! ### Steps -/

/-- One call of a primitive, with no fault. -/
def Primitiva.paso (e : Entorno) (stringTrim : List Byte → List Byte) (p : Primitiva)
    (w : Estado × Memoria) : Option (Estado × Memoria) :=
  (correr e (p.ejecutar stringTrim) w.1 w.2).map fun r => (r.1.2, r.2)

lemma Primitiva.paso_some {e : Entorno} {stringTrim : List Byte → List Byte} {p : Primitiva}
    {w w' : Estado × Memoria} (h : p.paso e stringTrim w = some w') :
    ∃ v, correr e (p.ejecutar stringTrim) w.1 w.2 = some ((v, w'.1), w'.2) := by
  obtain ⟨⟨⟨v, s⟩, m⟩, hr, rfl⟩ := Option.map_eq_some_iff.1 h
  exact ⟨v, hr⟩

/-! ### Frames -/

/-- A frame: the address of its first variable, and how many it has. -/
structure Marco where
  dir : ℤ
  cant : ℕ

/-- `d` is the address of a variable of the frame. -/
def Marco.Tiene (f : Marco) (d : ℤ) : Prop := ∃ i < f.cant, d = f.dir + 5 * (i : ℤ)

instance (f : Marco) (d : ℤ) : Decidable (f.Tiene d) :=
  inferInstanceAs (Decidable (∃ i < f.cant, d = f.dir + 5 * (i : ℤ)))

/-- `d` is the address of a variable of one of the frames. -/
def Viva (fs : List Marco) (d : ℤ) : Prop := ∃ f ∈ fs, f.Tiene d

/-- The frames of `fs` are in the stack and end below `dir`. -/
def Apilados (e : Entorno) (fs : List Marco) (dir : ℤ) : Prop :=
  ∀ f ∈ fs, e.base ≤ f.dir ∧ f.dir + 5 * f.cant ≤ dir

lemma Marco.Tiene.le {f : Marco} {d : ℤ} (h : f.Tiene d) :
    f.dir ≤ d ∧ d + 5 ≤ f.dir + 5 * f.cant := by
  obtain ⟨i, hi, rfl⟩ := h
  constructor <;> omega

/-- A frame with no variables adds none. -/
lemma Viva.tail {fs : List Marco} {dir d : ℤ} (h : Viva (⟨dir, 0⟩ :: fs) d) : Viva fs d := by
  obtain ⟨g, hg, hd⟩ := h
  rcases List.mem_cons.1 hg with rfl | hg
  · obtain ⟨i, hi, -⟩ := hd
    exact absurd hi (Nat.not_lt_zero i)
  · exact ⟨g, hg, hd⟩

/-- A cell in the value of a variable. -/
def Tocada (ds : List ℤ) (a : ℤ) : Prop := ∃ d ∈ ds, d < a ∧ a ≤ d + 4

/-! ### Traces -/

/-- A well-nested trace of primitives: what is called before the call that closes it. -/
inductive Cuerpo where
  | nil
  | definir (c : Byte) (sigue : Cuerpo)
  | asignar (d v : ℤ) (sigue : Cuerpo)
  | sinRetorno (etiqueta : List Byte) (cuerpo sigue : Cuerpo)
  | conRetorno (etiqueta : List Byte) (d : ℤ) (cuerpo : Cuerpo) (v : ℤ) (sigue : Cuerpo)

namespace Cuerpo

/-- The calls of primitives in the order they are made. -/
def llamadas : Cuerpo → List Primitiva
  | nil => []
  | definir c t => .definirVariable c :: t.llamadas
  | asignar d v t => .asignar d v :: t.llamadas
  | sinRetorno etiqueta b t => .llamarSinRetorno etiqueta :: (b.llamadas ++ .finalizar :: t.llamadas)
  | conRetorno etiqueta d b v t =>
    .llamarConRetorno etiqueta d :: (b.llamadas ++ .retornar v :: t.llamadas)

/-- In the frame `f`, over the frames `fs`: `asignar` and the returns go to variables of live
frames, and the values returned are those of an `int32_t`. -/
def Valido : Cuerpo → List Marco → Marco → Prop
  | nil, _, _ => True
  | definir _ t, fs, f => t.Valido fs ⟨f.dir, f.cant + 1⟩
  | asignar d _ t, fs, f => Viva (f :: fs) d ∧ t.Valido fs f
  | sinRetorno _ b t, fs, f => b.Valido (f :: fs) ⟨f.dir + 5 * f.cant + 8, 0⟩ ∧ t.Valido fs f
  | conRetorno _ d b v t, fs, f =>
    Viva (f :: fs) d ∧ EsInt32 v ∧ b.Valido (f :: fs) ⟨f.dir + 5 * f.cant + 12, 0⟩ ∧ t.Valido fs f

/-- How many variables the trace adds to its frame. -/
def definidas : Cuerpo → ℕ
  | nil => 0
  | definir _ t => t.definidas + 1
  | asignar _ _ t | sinRetorno _ _ t | conRetorno _ _ _ _ t => t.definidas

/-- The targets of `asignar`. -/
def asignadas : Cuerpo → List ℤ
  | nil => []
  | definir _ t => t.asignadas
  | asignar d _ t => d :: t.asignadas
  | sinRetorno _ b t | conRetorno _ _ b _ t => b.asignadas ++ t.asignadas

/-- The variables that the returns write. -/
def retornos : Cuerpo → List ℤ
  | nil => []
  | definir _ t | asignar _ _ t => t.retornos
  | sinRetorno _ b t => b.retornos ++ t.retornos
  | conRetorno _ d b _ t => d :: (b.retornos ++ t.retornos)

/-- The variables that the returns write outside the frame of their call. -/
def ajenos : Cuerpo → Marco → List ℤ
  | nil, _ => []
  | definir _ t, f => t.ajenos ⟨f.dir, f.cant + 1⟩
  | asignar _ _ t, f => t.ajenos f
  | sinRetorno _ b t, f => b.ajenos ⟨f.dir + 5 * f.cant + 8, 0⟩ ++ t.ajenos f
  | conRetorno _ d b _ t, f =>
    (if f.Tiene d then [] else [d]) ++ (b.ajenos ⟨f.dir + 5 * f.cant + 12, 0⟩ ++ t.ajenos f)

/-- What a body writes is a variable of a live frame, or lies in its own frames. -/
lemma Valido.destino (t : Cuerpo) : ∀ {fs : List Marco} {f : Marco}, t.Valido fs f →
    ∀ d ∈ t.asignadas ++ t.retornos, f.dir + 5 * f.cant ≤ d ∨ Viva (f :: fs) d := by
  induction t with
  | nil =>
    intro fs f _ d hd
    exact absurd hd (by simp [asignadas, retornos])
  | definir c t ih =>
    intro fs f h d hd
    rcases ih h d hd with hle | ⟨g, hg, hd⟩
    · left
      push_cast at hle
      omega
    · rcases List.mem_cons.1 hg with rfl | hg
      · obtain ⟨i, hi, rfl⟩ := hd
        by_cases hlt : i < f.cant
        · exact .inr ⟨f, List.mem_cons_self .., i, hlt, rfl⟩
        · left
          dsimp only
          omega
      · exact .inr ⟨g, List.mem_cons_of_mem _ hg, hd⟩
  | asignar d' v t ih =>
    intro fs f h d hd
    simp only [asignadas, retornos, List.cons_append, List.mem_cons] at hd
    rcases hd with rfl | hd
    · exact .inr h.1
    · exact ih h.2 d hd
  | sinRetorno etiqueta b t ihb iht =>
    intro fs f h d hd
    simp only [asignadas, retornos, List.mem_append] at hd ihb iht
    have hb : d ∈ b.asignadas ∨ d ∈ b.retornos → f.dir + 5 * f.cant ≤ d ∨ Viva (f :: fs) d := by
      intro hd
      refine (ihb h.1 d hd).imp (fun hle => ?_) Viva.tail
      dsimp only at hle
      omega
    rcases hd with (hd | hd) | hd | hd
    · exact hb (.inl hd)
    · exact iht h.2 d (.inl hd)
    · exact hb (.inr hd)
    · exact iht h.2 d (.inr hd)
  | conRetorno etiqueta d' b v t ihb iht =>
    intro fs f h d hd
    obtain ⟨hd', -, hvb, hvt⟩ := h
    simp only [asignadas, retornos, List.mem_append, List.mem_cons] at hd ihb iht
    have hb : d ∈ b.asignadas ∨ d ∈ b.retornos → f.dir + 5 * f.cant ≤ d ∨ Viva (f :: fs) d := by
      intro hd
      refine (ihb hvb d hd).imp (fun hle => ?_) Viva.tail
      dsimp only at hle
      omega
    rcases hd with (hd | hd) | rfl | hd | hd
    · exact hb (.inl hd)
    · exact iht hvt d (.inl hd)
    · exact .inr hd'
    · exact hb (.inr hd)
    · exact iht hvt d (.inr hd)

/-- A return goes outside the frame of its call, or at or above the frame of the trace. -/
lemma retorno_ajeno (t : Cuerpo) : ∀ {f : Marco}, ∀ d ∈ t.retornos, d ∈ t.ajenos f ∨ f.dir ≤ d := by
  induction t with
  | nil =>
    intro f d hd
    exact absurd hd (by simp [retornos])
  | definir c t ih =>
    intro f d hd
    exact ih d hd
  | asignar d' v t ih =>
    intro f d hd
    exact ih d hd
  | sinRetorno etiqueta b t ihb iht =>
    intro f d hd
    simp only [retornos, ajenos, List.mem_append] at hd ⊢
    rcases hd with hd | hd
    · rcases ihb (f := ⟨f.dir + 5 * f.cant + 8, 0⟩) d hd with hd | hle
      · exact .inl (.inl hd)
      · right
        dsimp only at hle
        omega
    · exact (iht d hd).imp_left .inr
  | conRetorno etiqueta d' b v t ihb iht =>
    intro f d hd
    simp only [retornos, ajenos, List.mem_append, List.mem_cons] at hd ⊢
    rcases hd with rfl | hd | hd
    · by_cases hf : f.Tiene d
      · exact .inr hf.le.1
      · simp [hf]
    · rcases ihb (f := ⟨f.dir + 5 * f.cant + 12, 0⟩) d hd with hd | hle
      · exact .inl (.inr (.inl hd))
      · right
        dsimp only at hle
        omega
    · exact (iht d hd).imp_left fun hd => .inr (.inr hd)

end Cuerpo

/-! ### One frame -/

/-- The CPU is at the frame `f`: the pcb says so, and the dictionary has its variables. -/
structure EnMarco (e : Entorno) (w : Estado × Memoria) (f : Marco) : Prop where
  base : w.1.pcb.dirSegStack = e.base
  dir : w.1.pcb.dirContActual = f.dir
  cant : w.1.pcb.cantVarContActual = f.cant
  dic : w.1.dicVariables = dicc w.2.pila f.dir f.cant
  abajo : e.base ≤ f.dir
  base_int32 : EsInt32 e.base
  dir_int32 : EsInt32 f.dir
  pc_int32 : EsInt32 w.1.pcb.programCounter
  alto : f.dir + 5 * f.cant ≤ e.base + 2 ^ 32

section Pasos

variable {e : Entorno} {stringTrim : List Byte → List Byte} {w w' : Estado × Memoria} {f : Marco}

lemma EnMarco.tope (h : EnMarco e w f) : w.1.tope = f.dir + 5 * f.cant := by
  unfold Estado.tope
  rw [h.dir, h.cant]
  ring

lemma entero_memcpy {x : ℤ} (hx : EsInt32 x) (pila : ℤ → Byte) (p : ℤ) (n : ℕ) :
    (⟨memcpy pila p (bytesOfInt x), n⟩ : Memoria).entero p = x := by
  have hr := read_memcpy_self pila p (bytesOfInt x)
  rw [bytesOfInt_length] at hr
  unfold Memoria.entero
  rw [hr, ← List.append_nil (bytesOfInt x)]
  exact intOfBytes_bytesOfInt hx.1 hx.2 []

lemma entero_congr {m m' : Memoria} {p : ℤ} (h : ∀ a, p ≤ a → a < p + 4 → m'.pila a = m.pila a) :
    m'.entero p = m.entero p := by
  unfold Memoria.entero
  rw [read_congr fun i hi => h (p + i) (by omega) (by omega)]

/-- The bytes of a write to `d + 1` are those of the value of `d`. -/
lemma memcpy_valor (pila : ℤ → Byte) (d v : ℤ) {a : ℤ} (h : ¬ (d < a ∧ a ≤ d + 4)) :
    memcpy pila (d + 1) (bytesOfInt v) a = pila a := by
  refine memcpy_out _ _ _ ?_
  rw [bytesOfInt_length]
  by_contra hin
  exact h (by omega)

/-- The value of a live variable is apart from the names of the frame. -/
lemma nombre_aparte {fs : List Marco} {d : ℤ} (hf : Apilados e fs f.dir) (hd : Viva (f :: fs) d)
    {i : ℕ} (hi : i < f.cant) : ¬ (d < f.dir + 5 * (i : ℤ) ∧ f.dir + 5 * (i : ℤ) ≤ d + 4) := by
  obtain ⟨g, hg, hd⟩ := hd
  rcases List.mem_cons.1 hg with rfl | hg
  · obtain ⟨j, hj, rfl⟩ := hd
    omega
  · have h₁ := hd.le
    have h₂ := hf g hg
    omega

lemma dicc_memcpy {fs : List Marco} {d : ℤ} (hf : Apilados e fs f.dir) (hd : Viva (f :: fs) d)
    (pila : ℤ → Byte) (v : ℤ) :
    dicc (memcpy pila (d + 1) (bytesOfInt v)) f.dir f.cant = dicc pila f.dir f.cant := by
  exact dicc_congr fun i hi => memcpy_valor _ _ _ (nombre_aparte hf hd hi)

lemma EnMarco.viva_rango (h : EnMarco e w f) {fs : List Marco} {d : ℤ} (hf : Apilados e fs f.dir)
    (hd : Viva (f :: fs) d) : e.base ≤ d ∧ d + 5 ≤ f.dir + 5 * f.cant := by
  obtain ⟨g, hg, hd⟩ := hd
  have habajo := h.abajo
  have h₁ := hd.le
  rcases List.mem_cons.1 hg with rfl | hg
  · omega
  · have h₂ := hf g hg
    omega

/-- The sum of `asignar` does not wrap at a variable of a live frame. -/
lemma EnMarco.dirValor (h : EnMarco e w f) {fs : List Marco} {d : ℤ} (hf : Apilados e fs f.dir)
    (hd : Viva (f :: fs) d) (hp : e.EnPila (int32 (d - e.base + 1)) 4) :
    dirValor e.base d = d + 1 := by
  obtain ⟨h₁, h₂⟩ := h.viva_rango hf hd
  have h₃ := h.alto
  exact dirValor_eq (int32_of_nonneg (by omega) (by omega) hp.1)

/-- The frame of a call is below that of the function. -/
lemma EnMarco.apilados (h : EnMarco e w f) {fs : List Marco} {k : ℤ} (hf : Apilados e fs f.dir)
    (hk : 0 ≤ k) : Apilados e (f :: fs) (f.dir + 5 * f.cant + k) := by
  intro g hg
  have habajo := h.abajo
  rcases List.mem_cons.1 hg with rfl | hg
  · omega
  · have := hf g hg
    omega

/-- `definirVariable` in the frame. -/
lemma EnMarco.definir (h : EnMarco e w f) {c : Byte}
    (hp : (Primitiva.definirVariable c).paso e stringTrim w = some w') :
    EnMarco e w' ⟨f.dir, f.cant + 1⟩ ∧ w'.1.pcb.programCounter = w.1.pcb.programCounter ∧
      ∀ a < f.dir + 5 * f.cant, w'.2.pila a = w.2.pila a := by
  obtain ⟨v, hr⟩ := Primitiva.paso_some hp
  obtain ⟨resto, hlen, -, hoff, -, -, -, hs, hm⟩ := correr_definirVariable h.base hr
  rw [h.tope] at hoff hs hm
  have habajo : ∀ a < f.dir + 5 * f.cant, w'.2.pila a = w.2.pila a := by
    intro a ha
    rw [hm]
    exact memcpy_out _ _ _ (.inl ha)
  have hnombre : w'.2.pila (f.dir + 5 * f.cant) = esNumeroPasarChar c := by
    rw [hm]
    exact memcpy_cons_self ..
  have hdic : dicc w'.2.pila f.dir f.cant = dicc w.2.pila f.dir f.cant :=
    dicc_congr fun i hi => habajo _ (by omega)
  refine ⟨⟨?_, ?_, ?_, ?_, h.abajo, h.base_int32, h.dir_int32, ?_, ?_⟩, by rw [hs], habajo⟩
  · rw [hs]
    exact h.base
  · rw [hs]
    exact h.dir
  · rw [hs]
    show w.1.pcb.cantVarContActual + 1 = _
    rw [h.cant]
    push_cast
    rfl
  · rw [dicc, hnombre, hdic, esNumeroPasarChar_idem, hs, ← h.dic]
  · rw [hs]
    exact h.pc_int32
  · have := hoff.2
    push_cast
    omega

/-- `asignar` in the frame. -/
lemma EnMarco.asignar (h : EnMarco e w f) {fs : List Marco} {d v : ℤ} (hf : Apilados e fs f.dir)
    (hd : Viva (f :: fs) d) (hp : (Primitiva.asignar d v).paso e stringTrim w = some w') :
    EnMarco e w' f ∧ w'.1.pcb.programCounter = w.1.pcb.programCounter ∧
      ∀ a, ¬ (d < a ∧ a ≤ d + 4) → w'.2.pila a = w.2.pila a := by
  obtain ⟨⟨⟩, hr⟩ := Primitiva.paso_some hp
  obtain ⟨hs, hm⟩ := correr_asignar h.base hr
  have hpila : (∀ a, ¬ (d < a ∧ a ≤ d + 4) → w'.2.pila a = w.2.pila a) ∧
      dicc w'.2.pila f.dir f.cant = dicc w.2.pila f.dir f.cant := by
    rcases hm with hm | ⟨hp, hm⟩
    · rw [hm]
      exact ⟨fun _ _ => rfl, rfl⟩
    · rw [hm, h.dirValor hf hd hp]
      exact ⟨fun a ha => memcpy_valor _ _ _ ha, dicc_memcpy hf hd _ _⟩
  refine ⟨⟨?_, ?_, ?_, ?_, h.abajo, h.base_int32, h.dir_int32, ?_, h.alto⟩, by rw [hs], hpila.1⟩
  · rw [hs]
    exact h.base
  · rw [hs]
    exact h.dir
  · rw [hs]
    exact h.cant
  · rw [hs, hpila.2]
    exact h.dic
  · rw [hs]
    exact h.pc_int32

/-- A frame without variables. -/
lemma EnMarco.alto_vacio (h : EnMarco e w f) {dir : ℤ} (hdir : EsInt32 dir) :
    dir + 5 * (0 : ℕ) ≤ e.base + 2 ^ 32 := by
  have := h.base_int32.1
  have := hdir.2
  omega

/-- The context saved behind the frame `f` for the line `pc`. -/
structure Guardado (m : Memoria) (f : Marco) (pc : ℤ) : Prop where
  dir : m.entero (f.dir + 5 * f.cant) = f.dir
  pc : m.entero (f.dir + 5 * f.cant + 4) = pc

/-- `llamarSinRetorno` saves the context and goes to an empty frame behind it. -/
lemma EnMarco.sinRetorno (h : EnMarco e w f) {etiqueta : List Byte}
    (hp : (Primitiva.llamarSinRetorno etiqueta).paso e stringTrim w = some w') :
    EnMarco e w' ⟨f.dir + 5 * f.cant + 8, 0⟩ ∧ Guardado w'.2 f w.1.pcb.programCounter ∧
      ∀ a < f.dir + 5 * f.cant, w'.2.pila a = w.2.pila a := by
  obtain ⟨⟨⟩, hr⟩ := Primitiva.paso_some hp
  obtain ⟨-, hint, hs, hm⟩ := correr_llamarSinRetorno h.base hr
  have habajo := h.abajo
  rw [h.tope] at hint hs hm
  rw [h.dir] at hm
  refine ⟨⟨?_, ?_, ?_, ?_, ?_, h.base_int32, hint, ?_, h.alto_vacio hint⟩, ⟨?_, ?_⟩, ?_⟩
  · rw [hs]
    exact h.base
  · rw [hs]
    rfl
  · rw [hs]
    rfl
  · rw [hs]
    rfl
  · dsimp only
    omega
  · rw [hs]
    exact e.buscar_int32 _ _ _
  · have hself := entero_memcpy h.dir_int32 w.2.pila (f.dir + 5 * f.cant) w.2.turno
    rw [hm]
    exact (entero_congr fun a h₁ h₂ => memcpy_out _ _ _ (.inl h₂)).trans hself
  · rw [hm, entero_memcpy h.pc_int32]
  · intro a ha
    rw [hm]
    exact (memcpy_out _ _ _ (.inl (by omega))).trans (memcpy_out _ _ _ (.inl ha))

/-- `llamarConRetorno` saves the context and the address too. -/
lemma EnMarco.conRetorno (h : EnMarco e w f) {fs : List Marco} {etiqueta : List Byte} {d : ℤ}
    (hf : Apilados e fs f.dir) (hd : Viva (f :: fs) d)
    (hp : (Primitiva.llamarConRetorno etiqueta d).paso e stringTrim w = some w') :
    EnMarco e w' ⟨f.dir + 5 * f.cant + 12, 0⟩ ∧ Guardado w'.2 f w.1.pcb.programCounter ∧
      w'.2.entero (f.dir + 5 * f.cant + 8) = d ∧
      ∀ a < f.dir + 5 * f.cant, w'.2.pila a = w.2.pila a := by
  obtain ⟨⟨⟩, hr⟩ := Primitiva.paso_some hp
  obtain ⟨-, hint, hs, hm⟩ := correr_llamarConRetorno h.base hr
  have habajo := h.abajo
  rw [h.tope] at hint hs hm
  rw [h.dir] at hm
  refine ⟨⟨?_, ?_, ?_, ?_, ?_, h.base_int32, hint, ?_, h.alto_vacio hint⟩, ⟨?_, ?_⟩, ?_, ?_⟩
  · rw [hs]
    exact h.base
  · rw [hs]
    rfl
  · rw [hs]
    rfl
  · rw [hs]
    rfl
  · dsimp only
    omega
  · rw [hs]
    exact e.buscar_int32 _ _ _
  · have hself := entero_memcpy h.dir_int32 w.2.pila (f.dir + 5 * f.cant) w.2.turno
    rw [hm]
    refine (entero_congr fun a h₁ h₂ => ?_).trans hself
    exact (memcpy_out _ _ _ (.inl (by omega))).trans (memcpy_out _ _ _ (.inl h₂))
  · have hself := entero_memcpy h.pc_int32 (memcpy w.2.pila (f.dir + 5 * f.cant) (bytesOfInt f.dir))
      (f.dir + 5 * f.cant + 4) w.2.turno
    rw [hm]
    exact (entero_congr fun a h₁ h₂ => memcpy_out _ _ _ (.inl (by omega))).trans hself
  · have hd : EsInt32 d := by
      obtain ⟨h₁, h₂⟩ := h.viva_rango hf hd
      exact ⟨h.base_int32.1.trans h₁, by have := hint.2; omega⟩
    rw [hm, entero_memcpy hd]
  · intro a ha
    rw [hm]
    exact (memcpy_out _ _ _ (.inl (by omega))).trans
      ((memcpy_out _ _ _ (.inl (by omega))).trans (memcpy_out _ _ _ (.inl ha)))

/-- The number of variables of a frame comes back from its distance to the next one. -/
lemma cant_tdiv (dir k : ℤ) (n : ℕ) : (dir + 5 * n + k - dir - k).tdiv 5 = n := by
  have h : dir + 5 * n + k - dir - k = 5 * n := by ring
  rw [h, Int.mul_tdiv_cancel_left _ (by decide)]

/-- A return to the frame of `w₀`. -/
lemma EnMarco.volver {w₀ : Estado × Memoria} (h₀ : EnMarco e w₀ f) (hb : w.1.pcb.dirSegStack = e.base)
    (m : Memoria) (hdic : dicc m.pila f.dir f.cant = dicc w.2.pila f.dir f.cant) :
    EnMarco e (w.1.enLlamador w.2 f.dir f.cant w₀.1.pcb.programCounter, m) f :=
  ⟨hb, rfl, rfl, hdic.symm, h₀.abajo, h₀.base_int32, h₀.dir_int32, h₀.pc_int32, h₀.alto⟩

/-- `finalizar` goes back to the frame whose context is saved below. -/
lemma EnMarco.finalizar {w₀ : Estado × Memoria} {n : ℕ} (h₀ : EnMarco e w₀ f)
    (h : EnMarco e w ⟨f.dir + 5 * f.cant + 8, n⟩) (hg : Guardado w.2 f w₀.1.pcb.programCounter)
    (hp : Primitiva.finalizar.paso e stringTrim w = some w') :
    EnMarco e w' f ∧ w'.1.pcb.programCounter = w₀.1.pcb.programCounter ∧ w'.2 = w.2 := by
  obtain ⟨⟨⟩, hr⟩ := Primitiva.paso_some hp
  have habajo := h₀.abajo
  have hne : w.1.pcb.dirContActual ≠ e.base := by
    rw [h.dir]
    dsimp only
    omega
  have hpos₁ : f.dir + 5 * (f.cant : ℤ) + 8 - 8 = f.dir + 5 * f.cant := by ring
  have hpos₂ : f.dir + 5 * (f.cant : ℤ) + 8 - 4 = f.dir + 5 * f.cant + 4 := by ring
  obtain ⟨dir, cant, hdir, hcant, -, -, hs, hm⟩ := correr_finalizar h.base hne hr
  rw [h.dir] at hdir hcant hs
  dsimp only at hdir hcant hs
  rw [hpos₁, hg.dir] at hdir
  rw [hpos₂, hg.pc] at hs
  subst hdir
  rw [cant_tdiv] at hcant
  subst hcant
  have hw : w' = (w.1.enLlamador w.2 f.dir f.cant w₀.1.pcb.programCounter, w.2) := Prod.ext hs hm
  rw [hw]
  exact ⟨h₀.volver h.base w.2 rfl, rfl, rfl⟩

/-- `retornar` does so too, and gives the variable at the saved address its value. -/
lemma EnMarco.retornar {w₀ : Estado × Memoria} {n : ℕ} {fs : List Marco} {d v : ℤ}
    (h₀ : EnMarco e w₀ f) (h : EnMarco e w ⟨f.dir + 5 * f.cant + 12, n⟩)
    (hg : Guardado w.2 f w₀.1.pcb.programCounter) (hret : w.2.entero (f.dir + 5 * f.cant + 8) = d)
    (hf : Apilados e fs f.dir) (hd : Viva (f :: fs) d)
    (hp : (Primitiva.retornar v).paso e stringTrim w = some w') :
    EnMarco e w' f ∧ w'.1.pcb.programCounter = w₀.1.pcb.programCounter ∧
      w'.2 = ⟨memcpy w.2.pila (d + 1) (bytesOfInt v), w.2.turno⟩ := by
  obtain ⟨⟨⟩, hr⟩ := Primitiva.paso_some hp
  have hpos₁ : f.dir + 5 * (f.cant : ℤ) + 12 - 12 = f.dir + 5 * f.cant := by ring
  have hpos₂ : f.dir + 5 * (f.cant : ℤ) + 12 - 8 = f.dir + 5 * f.cant + 4 := by ring
  have hpos₃ : f.dir + 5 * (f.cant : ℤ) + 12 - 4 = f.dir + 5 * f.cant + 8 := by ring
  obtain ⟨dir, cant, d', hdir, hcant, -, hd', -, -, hs, hm⟩ := correr_retornar h.base hr
  rw [h.dir] at hdir hcant hs hd'
  dsimp only at hdir hcant hs hd'
  rw [hpos₁, hg.dir] at hdir
  rw [hpos₂, hg.pc] at hs
  rw [hpos₃, hret] at hd'
  subst hdir hd'
  rw [cant_tdiv] at hcant
  subst hcant
  have hw : w' = (w.1.enLlamador w.2 f.dir f.cant w₀.1.pcb.programCounter, _) := Prod.ext hs hm
  rw [hw]
  exact ⟨h₀.volver h.base _ (dicc_memcpy hf hd _ _), rfl, rfl⟩

end Pasos

/-! ### A body -/

section Cuerpos

variable {e : Entorno} {stringTrim : List Byte → List Byte} {w w' : Estado × Memoria} {f : Marco}

/-- What a body leaves: its frame, larger by the variables it has defined, and below the cells it
has added nothing changed but the values it assigns. -/
structure Conserva (e : Entorno) (t : Cuerpo) (f : Marco) (w w' : Estado × Memoria) : Prop where
  marco : EnMarco e w' ⟨f.dir, f.cant + t.definidas⟩
  pc : w'.1.pcb.programCounter = w.1.pcb.programCounter
  bytes : ∀ a < f.dir + 5 * f.cant, ¬ Tocada (t.asignadas ++ t.retornos) a →
    w'.2.pila a = w.2.pila a

/-- A body does not write between the frame of the call and its own. -/
lemma contexto_aparte {fs : List Marco} {b : Cuerpo} {k a : ℤ} (hf : Apilados e fs f.dir)
    (hb : b.Valido (f :: fs) ⟨f.dir + 5 * f.cant + k, 0⟩) (ha : f.dir + 5 * f.cant ≤ a)
    (ha' : a < f.dir + 5 * f.cant + k) : ¬ Tocada (b.asignadas ++ b.retornos) a := by
  rintro ⟨d, hd, h₁, h₂⟩
  rcases hb.destino b d hd with hle | hviva
  · dsimp only at hle
    omega
  · obtain ⟨g, hg, hd⟩ := hviva.tail
    have h₃ := hd.le
    rcases List.mem_cons.1 hg with rfl | hg
    · omega
    · have h₄ := hf g hg
      omega

/-- A body does not write the names of the frame of the call. -/
lemma nombres_aparte {fs : List Marco} {b : Cuerpo} {k : ℤ} (hk : 0 ≤ k) (hf : Apilados e fs f.dir)
    (hb : b.Valido (f :: fs) ⟨f.dir + 5 * f.cant + k, 0⟩) {i : ℕ} (hi : i < f.cant) :
    ¬ Tocada (b.asignadas ++ b.retornos) (f.dir + 5 * i) := by
  rintro ⟨d, hd, h₁, h₂⟩
  rcases hb.destino b d hd with hle | hviva
  · dsimp only at hle
    omega
  · exact nombre_aparte hf hviva.tail hi ⟨h₁, h₂⟩

/-- `d` is the address of the last variable of the frame of `w` with the name `c`. -/
def Nombra (w : Estado × Memoria) (c : Byte) (d : ℤ) : Prop :=
  ∃ i < w.1.pcb.cantVarContActual.toNat, d = w.1.pcb.dirContActual + 5 * (i : ℤ) ∧
    esNumeroPasarChar (w.2.pila (w.1.pcb.dirContActual + 5 * i)) = c ∧
    ∀ j < w.1.pcb.cantVarContActual.toNat, i < j →
      esNumeroPasarChar (w.2.pila (w.1.pcb.dirContActual + 5 * j)) ≠ c

lemma EnMarco.nombra (h : EnMarco e w f) (c : Byte) (d : ℤ) :
    w.1.dicVariables c = some d ↔ Nombra w c d := by
  unfold Nombra
  rw [h.dic, h.dir, h.cant]
  exact dicc_eq_some

/-- What holds at `w'`, after the return that closes a call made at `w`; the function started at
`w₁`, and `ds` is what it may have written outside its frames. -/
structure Cerrada (w w₁ w' : Estado × Memoria) (ds : List ℤ) : Prop where
  dirContActual : w'.1.pcb.dirContActual = w.1.pcb.dirContActual
  cantVarContActual : w'.1.pcb.cantVarContActual = w.1.pcb.cantVarContActual
  programCounter : w'.1.pcb.programCounter = w.1.pcb.programCounter
  dicVariables : w'.1.dicVariables = w.1.dicVariables
  nombres : ∀ c d, w'.1.dicVariables c = some d ↔ Nombra w' c d
  abajo : ∀ a < w.1.tope, ¬ Tocada ds a → w'.2.pila a = w.2.pila a
  contexto : ∀ a < w₁.1.pcb.dirContActual, ¬ Tocada ds a → w'.2.pila a = w₁.2.pila a

/-- A call, its body and its return. -/
structure Llamada (e : Entorno) (b : Cuerpo) (f : Marco) (k : ℤ) (ds : List ℤ)
    (w w₁ w₂ w' : Estado × Memoria) : Prop where
  antes : EnMarco e w f
  entra : EnMarco e w₁ ⟨f.dir + 5 * f.cant + k, 0⟩
  igual : ∀ a < f.dir + 5 * f.cant, w₁.2.pila a = w.2.pila a
  cuerpo : Conserva e b ⟨f.dir + 5 * f.cant + k, 0⟩ w₁ w₂
  vuelve : EnMarco e w' f
  pc : w'.1.pcb.programCounter = w.1.pcb.programCounter
  escribe : ∀ a, ¬ Tocada ds a → w'.2.pila a = w₂.2.pila a

lemma Tocada.append {ds ds' : List ℤ} {a : ℤ} :
    Tocada (ds ++ ds') a ↔ Tocada ds a ∨ Tocada ds' a := by
  simp only [Tocada, List.mem_append, or_and_right, exists_or]

section Llamada

variable {b : Cuerpo} {k : ℤ} {ds : List ℤ} {w₁ w₂ : Estado × Memoria} {fs : List Marco}

/-- Below the first variable of the function nothing has changed since it started. -/
lemma Llamada.bytes (h : Llamada e b f k ds w w₁ w₂ w') {a : ℤ} (ha : a < f.dir + 5 * f.cant + k)
    (hds : ¬ Tocada ds a) (hb : ¬ Tocada (b.asignadas ++ b.retornos) a) :
    w'.2.pila a = w₁.2.pila a :=
  (h.escribe a hds).trans (h.cuerpo.bytes a (by simpa using ha) hb)

/-- The returns inside the function that write its own frames write nothing below them. -/
lemma Llamada.tocada {a : ℤ} (ha : a < f.dir + 5 * f.cant + k)
    (h : Tocada (b.asignadas ++ b.retornos) a) :
    Tocada (b.asignadas ++ b.ajenos ⟨f.dir + 5 * f.cant + k, 0⟩) a := by
  obtain ⟨d, hd, h₁, h₂⟩ := h
  refine ⟨d, ?_, h₁, h₂⟩
  rcases List.mem_append.1 hd with hd | hd
  · exact List.mem_append_left _ hd
  · refine List.mem_append_right _ ((b.retorno_ajeno d hd).resolve_right fun hle => ?_)
    dsimp only at hle
    omega

/-- **A call and its return leave the frame of the call.** -/
lemma Llamada.cerrada (h : Llamada e b f k ds w w₁ w₂ w') (hk : 0 ≤ k) (hf : Apilados e fs f.dir)
    (hb : b.Valido (f :: fs) ⟨f.dir + 5 * f.cant + k, 0⟩) (hds : ∀ d ∈ ds, Viva (f :: fs) d) :
    Cerrada w w₁ w' (ds ++ (b.asignadas ++ b.ajenos ⟨f.dir + 5 * f.cant + k, 0⟩)) := by
  have hcontexto : ∀ a < f.dir + 5 * f.cant + k,
      ¬ Tocada (ds ++ (b.asignadas ++ b.ajenos ⟨f.dir + 5 * f.cant + k, 0⟩)) a →
      w'.2.pila a = w₁.2.pila a := by
    intro a ha hno
    rw [Tocada.append, not_or] at hno
    exact h.bytes ha hno.1 fun ht => hno.2 (Llamada.tocada ha ht)
  have hdic : dicc w'.2.pila f.dir f.cant = dicc w.2.pila f.dir f.cant := by
    refine dicc_congr fun i hi => (h.bytes (by omega) ?_ (nombres_aparte hk hf hb hi)).trans
      (h.igual _ (by omega))
    rintro ⟨d, hd, h₁, h₂⟩
    exact nombre_aparte hf (hds d hd) hi ⟨h₁, h₂⟩
  constructor
  · rw [h.vuelve.dir, h.antes.dir]
  · rw [h.vuelve.cant, h.antes.cant]
  · exact h.pc
  · rw [h.vuelve.dic, h.antes.dic, hdic]
  · exact h.vuelve.nombra
  · intro a ha hno
    rw [h.antes.tope] at ha
    exact (hcontexto a (by omega) hno).trans (h.igual a ha)
  · intro a ha hno
    rw [h.entra.dir] at ha
    exact hcontexto a ha hno

/-- The context that a call has saved is there when its body is over. -/
lemma Conserva.guardado {pc : ℤ} (h : Conserva e b ⟨f.dir + 5 * f.cant + k, 0⟩ w₁ w₂)
    (hf : Apilados e fs f.dir) (hb : b.Valido (f :: fs) ⟨f.dir + 5 * f.cant + k, 0⟩) :
    (∀ p, f.dir + 5 * f.cant ≤ p → p + 4 ≤ f.dir + 5 * f.cant + k →
      w₂.2.entero p = w₁.2.entero p) ∧
    (8 ≤ k → Guardado w₁.2 f pc → Guardado w₂.2 f pc) := by
  have hentero : ∀ p, f.dir + 5 * f.cant ≤ p → p + 4 ≤ f.dir + 5 * f.cant + k →
      w₂.2.entero p = w₁.2.entero p := by
    intro p h₁ h₂
    refine entero_congr fun a h₃ h₄ => h.bytes a ?_ (contexto_aparte hf hb (by omega) (by omega))
    dsimp only
    omega
  refine ⟨hentero, fun hk hg => ⟨?_, ?_⟩⟩
  · rw [hentero _ le_rfl (by omega)]
    exact hg.dir
  · rw [hentero _ (by omega) (by omega)]
    exact hg.pc

lemma EnMarco.llamada_sinRetorno (h : EnMarco e w f) (hf : Apilados e fs f.dir)
    {etiqueta : List Byte} (hb : b.Valido (f :: fs) ⟨f.dir + 5 * f.cant + 8, 0⟩)
    (hc : (Primitiva.llamarSinRetorno etiqueta).paso e stringTrim w = some w₁)
    (hrun : Conserva e b ⟨f.dir + 5 * f.cant + 8, 0⟩ w₁ w₂)
    (hr : Primitiva.finalizar.paso e stringTrim w₂ = some w') : Llamada e b f 8 [] w w₁ w₂ w' := by
  obtain ⟨hentra, hg, higual⟩ := h.sinRetorno hc
  obtain ⟨hvuelve, hpc, hm⟩ := h.finalizar hrun.marco ((hrun.guardado hf hb).2 le_rfl hg) hr
  exact ⟨h, hentra, higual, hrun, hvuelve, hpc, fun a _ => by rw [hm]⟩

lemma EnMarco.llamada_conRetorno (h : EnMarco e w f) (hf : Apilados e fs f.dir)
    {etiqueta : List Byte} {d v : ℤ} (hd : Viva (f :: fs) d) (hv : EsInt32 v)
    (hb : b.Valido (f :: fs) ⟨f.dir + 5 * f.cant + 12, 0⟩)
    (hc : (Primitiva.llamarConRetorno etiqueta d).paso e stringTrim w = some w₁)
    (hrun : Conserva e b ⟨f.dir + 5 * f.cant + 12, 0⟩ w₁ w₂)
    (hr : (Primitiva.retornar v).paso e stringTrim w₂ = some w') :
    Llamada e b f 12 [d] w w₁ w₂ w' ∧ w'.2.entero (d + 1) = v := by
  obtain ⟨hentra, hg, hret, higual⟩ := h.conRetorno hf hd hc
  obtain ⟨hentero, hguardado⟩ := hrun.guardado hf hb
  have hret₂ : w₂.2.entero (f.dir + 5 * f.cant + 8) = d := by
    rw [hentero _ (by omega) (by omega)]
    exact hret
  obtain ⟨hvuelve, hpc, hm⟩ := h.retornar hrun.marco (hguardado (by decide) hg) hret₂ hf hd hr
  refine ⟨⟨h, hentra, higual, hrun, hvuelve, hpc, fun a ha => ?_⟩, ?_⟩
  · rw [hm]
    exact memcpy_valor _ _ _ fun hin => ha ⟨d, List.mem_singleton.2 rfl, hin⟩
  · rw [hm, entero_memcpy hv]

/-- A call that is closed, and what comes after it, make the body they are part of. -/
lemma Llamada.conserva {t t' : Cuerpo} {w₃ : Estado × Memoria} (h : Llamada e b f k ds w w₁ w₂ w₃)
    (hk : 0 ≤ k) (ht : Conserva e t f w₃ w') (hdef : t'.definidas = t.definidas)
    (hdest : ∀ a, Tocada ds a ∨ Tocada (b.asignadas ++ b.retornos) a ∨
      Tocada (t.asignadas ++ t.retornos) a → Tocada (t'.asignadas ++ t'.retornos) a) :
    Conserva e t' f w w' := by
  refine ⟨?_, ht.pc.trans h.pc, fun a ha hno => ?_⟩
  · rw [hdef]
    exact ht.marco
  · rw [ht.bytes a ha fun hin => hno (hdest a (.inr (.inr hin))),
      h.bytes (by omega) (fun hin => hno (hdest a (.inl hin)))
        (fun hin => hno (hdest a (.inr (.inl hin))))]
    exact h.igual a ha

end Llamada

/-! ### The discipline -/

/-- At every call of the trace, from `w` on: after the return the CPU is where it was, and nothing
below the function has changed but what it was told to write; a variable given a return has the
value. -/
def Disciplina (e : Entorno) (stringTrim : List Byte → List Byte) :
    Cuerpo → Estado × Memoria → Prop
  | .nil, _ => True
  | .definir c t, w => ∀ w', (Primitiva.definirVariable c).paso e stringTrim w = some w' →
    Disciplina e stringTrim t w'
  | .asignar d v t, w => ∀ w', (Primitiva.asignar d v).paso e stringTrim w = some w' →
    Disciplina e stringTrim t w'
  | .sinRetorno etiqueta b t, w =>
    ∀ w₁, (Primitiva.llamarSinRetorno etiqueta).paso e stringTrim w = some w₁ →
      Disciplina e stringTrim b w₁ ∧
      ∀ w₂ w', run (Primitiva.paso e stringTrim) b.llamadas w₁ = some w₂ →
        Primitiva.finalizar.paso e stringTrim w₂ = some w' →
        Cerrada w w₁ w' (b.asignadas ++ b.ajenos ⟨w₁.1.pcb.dirContActual, 0⟩) ∧
          Disciplina e stringTrim t w'
  | .conRetorno etiqueta d b v t, w =>
    ∀ w₁, (Primitiva.llamarConRetorno etiqueta d).paso e stringTrim w = some w₁ →
      Disciplina e stringTrim b w₁ ∧
      ∀ w₂ w', run (Primitiva.paso e stringTrim) b.llamadas w₁ = some w₂ →
        (Primitiva.retornar v).paso e stringTrim w₂ = some w' →
        Cerrada w w₁ w' (d :: (b.asignadas ++ b.ajenos ⟨w₁.1.pcb.dirContActual, 0⟩)) ∧
          w'.2.entero (d + 1) = v ∧ Disciplina e stringTrim t w'

/-- A run of a call with its body, its return and what follows. -/
lemma run_llamada {p q : Primitiva} {b t : Cuerpo}
    (h : run (Primitiva.paso e stringTrim) (p :: (b.llamadas ++ q :: t.llamadas)) w = some w') :
    ∃ w₁ w₂ w₃, p.paso e stringTrim w = some w₁ ∧
      run (Primitiva.paso e stringTrim) b.llamadas w₁ = some w₂ ∧
      q.paso e stringTrim w₂ = some w₃ ∧
      run (Primitiva.paso e stringTrim) t.llamadas w₃ = some w' := by
  obtain ⟨w₁, h₁, h⟩ := run_cons h
  rw [run_append, Option.bind_eq_some_iff] at h
  obtain ⟨w₂, h₂, h⟩ := h
  obtain ⟨w₃, h₃, h₄⟩ := run_cons h
  exact ⟨w₁, w₂, w₃, h₁, h₂, h₃, h₄⟩

/-- **A body keeps the discipline, and what is below its frame.** -/
theorem Cuerpo.Valido.disciplina (t : Cuerpo) : ∀ {fs : List Marco} {f : Marco}
    {w : Estado × Memoria}, t.Valido fs f → Apilados e fs f.dir → EnMarco e w f →
    Disciplina e stringTrim t w ∧
      ∀ w', run (Primitiva.paso e stringTrim) t.llamadas w = some w' → Conserva e t f w w' := by
  induction t with
  | nil =>
    intro fs f w _ _ h
    refine ⟨trivial, fun w' hr => ?_⟩
    obtain rfl := Option.some.inj hr
    exact ⟨h, rfl, fun _ _ _ => rfl⟩
  | definir c t ih =>
    intro fs f w hv hf h
    refine ⟨fun w' hp => (ih hv hf (h.definir hp).1).1, fun w' hr => ?_⟩
    obtain ⟨w₁, hp, hr⟩ := run_cons hr
    obtain ⟨h₁, hpc, hbytes⟩ := h.definir hp
    have ht := (ih hv hf h₁).2 w' hr
    refine ⟨?_, ht.pc.trans hpc, fun a ha hno => (ht.bytes a ?_ hno).trans (hbytes a ha)⟩
    · have hmarco := ht.marco
      rwa [Nat.add_assoc, Nat.add_comm 1] at hmarco
    · push_cast
      omega
  | asignar d v t ih =>
    intro fs f w hv hf h
    refine ⟨fun w' hp => (ih hv.2 hf (h.asignar hf hv.1 hp).1).1, fun w' hr => ?_⟩
    obtain ⟨w₁, hp, hr⟩ := run_cons hr
    obtain ⟨h₁, hpc, hbytes⟩ := h.asignar hf hv.1 hp
    have ht := (ih hv.2 hf h₁).2 w' hr
    refine ⟨ht.marco, ht.pc.trans hpc, fun a ha hno => ?_⟩
    refine (ht.bytes a ha ?_).trans (hbytes a ?_)
    · rintro ⟨d', hd', hin⟩
      exact hno ⟨d', List.mem_cons_of_mem _ hd', hin⟩
    · intro hin
      exact hno ⟨d, List.mem_cons_self .., hin⟩
  | sinRetorno etiqueta b t ihb iht =>
    intro fs f w hv hf h
    have hfs := h.apilados hf (show 0 ≤ 8 by decide)
    have hcall : ∀ w₁ w₂ w', (Primitiva.llamarSinRetorno etiqueta).paso e stringTrim w = some w₁ →
        run (Primitiva.paso e stringTrim) b.llamadas w₁ = some w₂ →
        Primitiva.finalizar.paso e stringTrim w₂ = some w' → Llamada e b f 8 [] w w₁ w₂ w' :=
      fun w₁ w₂ w' hc hb hr => h.llamada_sinRetorno hf hv.1 hc
        ((ihb hv.1 hfs (h.sinRetorno hc).1).2 w₂ hb) hr
    refine ⟨fun w₁ hc => ⟨(ihb hv.1 hfs (h.sinRetorno hc).1).1, fun w₂ w' hb hr => ?_⟩,
      fun w' hr => ?_⟩
    · have hl := hcall w₁ w₂ w' hc hb hr
      have hcerrada := hl.cerrada (by decide) hf hv.1 (by simp)
      rw [hl.entra.dir]
      exact ⟨hcerrada, (iht hv.2 hf hl.vuelve).1⟩
    · obtain ⟨w₁, w₂, w₃, hc, hb, hr, ht⟩ := run_llamada hr
      have hl := hcall w₁ w₂ w₃ hc hb hr
      refine hl.conserva (by decide) ((iht hv.2 hf hl.vuelve).2 w' ht) rfl fun a ha => ?_
      simp only [asignadas, retornos, Tocada.append] at ha ⊢
      rcases ha with ⟨d, hd, -⟩ | (ha | ha) | ha | ha
      · exact absurd hd (by simp)
      · exact .inl (.inl ha)
      · exact .inr (.inl ha)
      · exact .inl (.inr ha)
      · exact .inr (.inr ha)
  | conRetorno etiqueta d b v t ihb iht =>
    intro fs f w hv hf h
    obtain ⟨hd, hv₁, hvb, hvt⟩ := hv
    have hfs := h.apilados hf (show 0 ≤ 12 by decide)
    have hcall : ∀ w₁ w₂ w', (Primitiva.llamarConRetorno etiqueta d).paso e stringTrim w = some w₁ →
        run (Primitiva.paso e stringTrim) b.llamadas w₁ = some w₂ →
        (Primitiva.retornar v).paso e stringTrim w₂ = some w' →
        Llamada e b f 12 [d] w w₁ w₂ w' ∧ w'.2.entero (d + 1) = v :=
      fun w₁ w₂ w' hc hb hr => h.llamada_conRetorno hf hd hv₁ hvb hc
        ((ihb hvb hfs (h.conRetorno hf hd hc).1).2 w₂ hb) hr
    refine ⟨fun w₁ hc => ⟨(ihb hvb hfs (h.conRetorno hf hd hc).1).1, fun w₂ w' hb hr => ?_⟩,
      fun w' hr => ?_⟩
    · obtain ⟨hl, hval⟩ := hcall w₁ w₂ w' hc hb hr
      have hcerrada := hl.cerrada (by decide) hf hvb (by simpa using hd)
      rw [hl.entra.dir]
      exact ⟨hcerrada, hval, (iht hvt hf hl.vuelve).1⟩
    · obtain ⟨w₁, w₂, w₃, hc, hb, hr, ht⟩ := run_llamada hr
      obtain ⟨hl, -⟩ := hcall w₁ w₂ w₃ hc hb hr
      refine hl.conserva (by decide) ((iht hvt hf hl.vuelve).2 w' ht) rfl fun a ha => ?_
      have hcons : d :: (b.retornos ++ t.retornos) = [d] ++ (b.retornos ++ t.retornos) := rfl
      simp only [asignadas, retornos, hcons, Tocada.append] at ha ⊢
      rcases ha with ha | (ha | ha) | ha | ha
      · exact .inr (.inl ha)
      · exact .inl (.inl ha)
      · exact .inr (.inr (.inl ha))
      · exact .inl (.inr ha)
      · exact .inr (.inr (.inr ha))

/-- A pcb of the stack segment: its frame has no negative number of variables, and its fields are
`int32_t`. -/
structure PcbValido (e : Entorno) (pcb : Pcb) : Prop where
  base : pcb.dirSegStack = e.base
  cant : 0 ≤ pcb.cantVarContActual
  int32 : ∀ x ∈ [pcb.dirSegStack, pcb.dirContActual, pcb.programCounter], EsInt32 x

/-- The CPU that has been sent a pcb is at the frame of the pcb. -/
lemma enMarco_reanudar {men : MenQuantumPcb} {s : Estado} {m : Memoria}
    (hp : PcbValido e men.pcb) (hm : e.base ≤ men.pcb.dirContActual)
    (h : correr e (reanudar men) s m = some (((), w.1), w.2)) :
    EnMarco e w ⟨men.pcb.dirContActual, men.pcb.cantVarContActual.toNat⟩ := by
  have hcant := hp.cant
  have hint := hp.int32
  simp only [List.forall_mem_cons, List.not_mem_nil, false_implies, implies_true, and_true] at hint
  obtain ⟨-, hmem, hleg, l, hs, -⟩ := correr_reanudar hp.base h
  refine ⟨?_, ?_, ?_, ?_, hm, hp.base ▸ hint.1, hint.2.1, ?_, ?_⟩
  · rw [hs]
    exact hp.base
  · rw [hs]
  · rw [hs]
    dsimp only
    omega
  · rw [hs, hmem]
  · rw [hs]
    exact hint.2.2
  · have hbase : -2 ^ 31 ≤ e.base := hp.base ▸ hint.1.1
    have hdir := hint.2.1.2
    dsimp only
    cases hn : men.pcb.cantVarContActual.toNat with
    | zero => omega
    | succ n =>
      -- the last variable has been read
      have hultima := (hleg n (by omega)).1.2
      push_cast
      omega

/-- In an empty frame below the stack segment nothing can be done without a fault. -/
lemma Cuerpo.Valido.disciplina_fuera {t : Cuerpo} {fs : List Marco} {dir : ℤ}
    (ht : t.Valido fs ⟨dir, 0⟩) (hf : Apilados e fs dir) (hdir : dir < e.base)
    (hb : w.1.pcb.dirSegStack = e.base) (htope : w.1.tope = dir) : Disciplina e stringTrim t w := by
  have hviva : ∀ d, ¬ Viva (⟨dir, 0⟩ :: fs) d := by
    intro d hd
    obtain ⟨g, hg, hd⟩ := hd.tail
    have h₁ := hd.le
    have h₂ := hf g hg
    omega
  cases t with
  | nil => trivial
  | definir c t =>
    intro w' hp
    obtain ⟨v, hr⟩ := Primitiva.paso_some hp
    obtain ⟨resto, -, -, -, hpila, -⟩ := correr_definirVariable hb hr
    have := hpila.1
    omega
  | asignar d v t => exact absurd ht.1 (hviva d)
  | sinRetorno etiqueta b t =>
    intro w₁ hp
    obtain ⟨⟨⟩, hr⟩ := Primitiva.paso_some hp
    have := (correr_llamarSinRetorno hb hr).1.1
    omega
  | conRetorno etiqueta d b v t => exact absurd ht.1 (hviva d)

/-- **Calls and returns match.** A CPU that has been sent a valid pcb, over a stack with the frames
`fs` below, keeps the discipline on every well-nested trace that meets no fault. -/
theorem despachado_disciplinado (men : MenQuantumPcb) {s : Estado} {m : Memoria} {fs : List Marco} {t : Cuerpo}
    (hp : PcbValido e men.pcb) (hf : Apilados e fs men.pcb.dirContActual)
    (ht : t.Valido fs ⟨men.pcb.dirContActual, men.pcb.cantVarContActual.toNat⟩)
    (h : correr e (reanudar men) s m = some (((), w.1), w.2)) : Disciplina e stringTrim t w := by
  by_cases hm : e.base ≤ men.pcb.dirContActual
  · exact (ht.disciplina t hf (enMarco_reanudar hp hm h)).1
  · obtain ⟨-, -, hleg, l, hs, -⟩ := correr_reanudar hp.base h
    -- a variable below the segment could not have been read
    have hcant : men.pcb.cantVarContActual.toNat = 0 := by
      by_contra hne
      have := (hleg 0 (Nat.pos_of_ne_zero hne)).2.1.1
      push_cast at this
      omega
    rw [hcant] at ht
    refine ht.disciplina_fuera hf (not_le.1 hm) ?_ ?_
    · rw [hs]
      exact hp.base
    · have := hp.cant
      rw [hs, Estado.tope]
      dsimp only
      omega

end Cuerpos

/-! ### Two functions -/

/-- A stack of a hundred bytes, one instruction everywhere, and a label for every name. -/
def unEntorno : Entorno where
  base := 1000
  tamStack := 100
  otros _ _ tam := some (if tam = 8 then [0, 0, 0, 0, 1, 0, 0, 0] else [65])
  buscar _ _ _ := 3
  kernel _ := ⟨0, 0, []⟩
  basura _ _ := 0
  buscar_int32 _ _ _ := by decide

/-- A process with one variable, at its sixth line. -/
def pcbEnPila : Pcb := ⟨1, 1000, 200, 300, 100, 1000, 7, 5, 0, 0⟩

/-- A function that returns a value to the variable, and calls one that returns none and assigns to
the variable too. -/
def dosFunciones : Cuerpo :=
  .conRetorno (bytes "f") 1000
    (.definir 1 (.sinRetorno (bytes "g") (.definir 120 (.asignar 1000 8 .nil)) .nil)) 9 .nil

theorem dosFunciones_disciplinadas : ∃ w,
    correr unEntorno (reanudar ⟨pcbYQuantum, 2, pcbEnPila⟩)
      ⟨pcbEnPila, 0, .nulo, false, false, fun _ => none⟩ ⟨fun _ => 97, 0⟩ =
        some (((), w.1), w.2) ∧
      (run (Primitiva.paso unEntorno id) dosFunciones.llamadas w).isSome ∧
      Disciplina unEntorno id dosFunciones w := by
  have hvar : ∀ fs : List Marco, Viva (fs ++ [⟨1000, 1⟩]) 1000 :=
    fun fs => ⟨⟨1000, 1⟩, by simp, 0, by decide, rfl⟩
  have hvalido : dosFunciones.Valido [] ⟨1000, 1⟩ :=
    ⟨hvar [], by decide, ⟨⟨hvar [_, _], trivial⟩, trivial⟩, trivial⟩
  have hvacia : Apilados unEntorno [] 1000 := by simp [Apilados]
  exact ⟨(_, _), rfl, by decide +kernel,
    despachado_disciplinado ⟨pcbYQuantum, 2, pcbEnPila⟩ ⟨rfl, by decide, by decide⟩ hvacia hvalido rfl⟩

/-- The body of a function that calls another one for the variable of the caller. -/
def retornoAjeno : Cuerpo := .conRetorno (bytes "f") 1000 .nil 9 .nil

/-- The same process with a negative number of variables. -/
def pcbNegativo : Pcb := { pcbEnPila with cantVarContActual := -1, dirContActual := 1005 }

/-- **What the returns inside a call write counts, and a negative number of variables does too.** A
function that assigns nothing changes a byte below its frame; and from a frame with minus one
variables a function that does nothing leaves the dictionary without the one defined before it. -/
theorem retornoAjeno_no_disciplinado :
    (∃ w w₁ w₂ w', correr unEntorno (reanudar ⟨pcbYQuantum, 2, pcbEnPila⟩)
        ⟨pcbEnPila, 0, .nulo, false, false, fun _ => none⟩ ⟨fun _ => 97, 0⟩ =
          some (((), w.1), w.2) ∧
      (Cuerpo.sinRetorno (bytes "g") retornoAjeno .nil).Valido [] ⟨1000, 1⟩ ∧
      (Primitiva.llamarSinRetorno (bytes "g")).paso unEntorno id w = some w₁ ∧
      run (Primitiva.paso unEntorno id) retornoAjeno.llamadas w₁ = some w₂ ∧
      Primitiva.finalizar.paso unEntorno id w₂ = some w' ∧ retornoAjeno.asignadas = [] ∧
      ¬ ∀ a < w₁.1.pcb.dirContActual, w'.2.pila a = w₁.2.pila a) ∧
    ∃ w w₀ w₁ w', correr unEntorno (reanudar ⟨pcbYQuantum, 2, pcbNegativo⟩)
        ⟨pcbEnPila, 0, .nulo, false, false, fun _ => none⟩ ⟨fun _ => 97, 0⟩ =
          some (((), w.1), w.2) ∧
      (Cuerpo.definir 120 (.sinRetorno (bytes "g") .nil .nil)).Valido [] ⟨1005, 0⟩ ∧
      (Primitiva.definirVariable 120).paso unEntorno id w = some w₀ ∧
      (Primitiva.llamarSinRetorno (bytes "g")).paso unEntorno id w₀ = some w₁ ∧
      Primitiva.finalizar.paso unEntorno id w₁ = some w' ∧
      w₀.1.dicVariables 120 = some 1000 ∧ w'.1.dicVariables 120 = none := by
  have hajeno : ((correr unEntorno (reanudar ⟨pcbYQuantum, 2, pcbEnPila⟩)
      ⟨pcbEnPila, 0, .nulo, false, false, fun _ => none⟩ ⟨fun _ => 97, 0⟩).bind fun r =>
        ((Primitiva.llamarSinRetorno (bytes "g")).paso unEntorno id (r.1.2, r.2)).bind fun w₁ =>
        (run (Primitiva.paso unEntorno id) retornoAjeno.llamadas w₁).bind fun w₂ =>
        (Primitiva.finalizar.paso unEntorno id w₂).map fun w' =>
          (w₁.1.pcb.dirContActual, w₁.2.pila 1001, w'.2.pila 1001)) = some (1013, 97, 9) := by
    decide +kernel
  have hnegativo : ((correr unEntorno (reanudar ⟨pcbYQuantum, 2, pcbNegativo⟩)
      ⟨pcbEnPila, 0, .nulo, false, false, fun _ => none⟩ ⟨fun _ => 97, 0⟩).bind fun r =>
        ((Primitiva.definirVariable 120).paso unEntorno id (r.1.2, r.2)).bind fun w₀ =>
        ((Primitiva.llamarSinRetorno (bytes "g")).paso unEntorno id w₀).bind fun w₁ =>
        (Primitiva.finalizar.paso unEntorno id w₁).map fun w' =>
          (w₀.1.dicVariables 120, w'.1.dicVariables 120)) = some (some 1000, none) := by
    decide +kernel
  simp only [Option.bind_eq_some_iff, Option.map_eq_some_iff, Prod.mk.injEq] at hajeno hnegativo
  constructor
  · obtain ⟨⟨⟨⟨⟩, s⟩, m⟩, hr, w₁, h₁, w₂, h₂, w', h', hdir, hantes, hdespues⟩ := hajeno
    have hviva : Viva [⟨1013, 0⟩, ⟨1000, 1⟩] 1000 := ⟨⟨1000, 1⟩, by simp, 0, by decide, rfl⟩
    have hvalido : (Cuerpo.sinRetorno (bytes "g") retornoAjeno .nil).Valido [] ⟨1000, 1⟩ :=
      ⟨⟨hviva, by decide, trivial, trivial⟩, trivial⟩
    refine ⟨(s, m), w₁, w₂, w', hr, hvalido, h₁, h₂, h', rfl, fun h => ?_⟩
    have := h 1001 (by omega)
    rw [hantes, hdespues] at this
    exact absurd this (by decide)
  · obtain ⟨⟨⟨⟨⟩, s⟩, m⟩, hr, w₀, h₀, w₁, h₁, w', h', hantes, hdespues⟩ := hnegativo
    exact ⟨(s, m), w₀, w₁, w', hr, ⟨trivial, trivial⟩, h₀, h₁, h', hantes, hdespues⟩

end Ansisop.Cpu
