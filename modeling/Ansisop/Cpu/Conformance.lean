import Ansisop.Cpu.Session

/-!
# The code of a CPU keeps to its sessions

For every parser, and whatever the kernel and the UMV answer, the actions of a dispatch are those of
a session, and the session has stopped when the dispatch is over. Each function has one lemma,
stated with `Safe` for the monitor `Sesion.monitor`; between primitives the session is at `nada` and
knows whether `fueFinEjecucion` is set (`Acorde`).
-/

namespace Ansisop.Cpu

open Ansisop.Sockets Ansisop.Lib Dialog Prog
open TipoDatos hiding signal wait imprimirTexto cambioPA

/-! ### Rules for the operations -/

section Reglas

variable {α : Type} {s : Estado} {m : Sesion} {Q : α → Estado → Sesion → Prop}

lemma safe_hacer {e : Evento} {Q : e.Respuesta → Estado → Sesion → Prop} (he : m.Permite e)
    (h : ∀ r, Q r s (m.sigue ⟨e, r⟩)) : Safe Sesion.monitor (hacer e) s m Q :=
  ⟨he, fun r _ hm => hm ▸ h r⟩

lemma safe_hacer_bind {e : Evento} {f : e.Respuesta → Prog α} (he : m.Permite e)
    (h : ∀ r, Safe Sesion.monitor (f r) s (m.sigue ⟨e, r⟩) Q) :
    Safe Sesion.monitor (hacer e >>= f) s m Q :=
  (safe_hacer he h).bind fun _ _ _ h => h

lemma safe_caida : Safe Sesion.monitor (caida : Prog α) s m Q := ⟨trivial, nofun⟩

lemma safe_entero_bind {x : ℤ} {f : ℤ → Prog α} (h : Safe Sesion.monitor (f x) s m Q) :
    Safe Sesion.monitor (entero x >>= f) s m Q := by
  unfold entero
  split
  · exact h
  · exact safe_caida.bind (P := fun _ _ _ => False) fun _ _ _ h => h.elim

lemma safe_memcpy_bind {dato : List Byte} {n : ℕ} {f : List Byte → Prog α}
    (h : ∀ l, Safe Sesion.monitor (f l) s m Q) : Safe Sesion.monitor (memcpy dato n >>= f) s m Q := by
  unfold memcpy
  split
  · exact h _
  · exact safe_caida.bind (P := fun _ _ _ => False) fun _ _ _ h => h.elim

lemma safe_deref {β : Type} {x : Option β} {Q : β → Estado → Sesion → Prop} (h : ∀ a, Q a s m) :
    Safe Sesion.monitor (deref x) s m Q := by
  cases x with
  | none => exact safe_caida
  | some a => exact h a

lemma safe_deref_bind {β : Type} {x : Option β} {f : β → Prog α}
    (h : ∀ a, Safe Sesion.monitor (f a) s m Q) : Safe Sesion.monitor (deref x >>= f) s m Q :=
  (safe_deref h).bind fun _ _ _ h => h

lemma safe_pedirUmv_bind {tipo base offset tam : ℤ} {buffer : List Byte} {f : MenComun → Prog α}
    (h : ∀ r, Safe Sesion.monitor (f r) s (m.sigue ⟨.pedirUmv ⟨tipo, base, offset, tam, buffer⟩, r⟩) Q) :
    Safe Sesion.monitor (pedirUmv tipo base offset tam buffer >>= f) s m Q :=
  safe_hacer_bind trivial h

lemma safe_basura_bind {n : ℕ} {f : List Byte → Prog α}
    (h : ∀ l, Safe Sesion.monitor (f l) s ⟨m.punto, m.enCurso, m.fin, false, false⟩ Q) :
    Safe Sesion.monitor (basura n >>= f) s m Q :=
  ⟨trivial, fun r _ hm => hm ▸ h (List.ofFn r)⟩

lemma safe_buscar_bind {nombre : List Byte} {f : ℤ → Prog α}
    (h : ∀ z, Safe Sesion.monitor (f z) s
      (m.sigue ⟨.buscarEtiqueta nombre s.etiquetas s.pcb.tamIndiceEtiquetas, z⟩) Q) :
    Safe Sesion.monitor (metadataBuscarEtiqueta nombre >>= f) s m Q :=
  safe_hacer_bind (e := .buscarEtiqueta nombre s.etiquetas s.pcb.tamIndiceEtiquetas) trivial h

end Reglas

/-! ### Helpers -/

/-- The session is at the point `q` in the primitive `p`, and knows whether the process has
stopped. -/
def En (q : Punto) (p : Option Primitiva) (s : Estado) (m : Sesion) : Prop :=
  ∃ informe recien, m = ⟨q, p, s.fueFinEjecucion, informe, recien⟩

/-- The session has nothing to say in the primitive `p`. -/
abbrev Acorde (p : Option Primitiva) (s : Estado) (m : Sesion) : Prop := En .nada p s m

section Funciones

variable {s : Estado} {m : Sesion} {p : Option Primitiva}

/-- A fault that may be reported. -/
lemma finalizarContexto_falta (h : Acorde p s m) (hi : m.informe = true) :
    Safe Sesion.monitor (finalizarContexto segmenFault) s m fun _ s' m' =>
      Acorde p s' m' ∧ m'.recien = true := by
  obtain ⟨i, c, rfl⟩ := h
  refine safe_get_bind (safe_hacer_bind (.inr ⟨rfl, _, rfl, .inl ⟨rfl, hi⟩⟩) fun r => ?_)
  refine safe_modify ⟨⟨false, true, ?_⟩, ?_⟩ <;>
    simp [Sesion.sigue, Punto.trasDecir, Punto.termina, crearMenComun]

/-- The same where it is not used that the report is recent. -/
lemma finalizarContexto_acorde (h : Acorde p s m) (hi : m.informe = true) :
    Safe Sesion.monitor (finalizarContexto segmenFault) s m fun _ => Acorde p :=
  (finalizarContexto_falta h hi).mono fun _ _ _ h => h.1

lemma En.pedirUmv {q : Punto} (h : En q p s m) (men : MenCpuUmv) (r : MenComun) :
    En q p s (m.sigue ⟨.pedirUmv men, r⟩) := by
  obtain ⟨i, c, rfl⟩ := h
  exact ⟨_, _, rfl⟩

lemma En.conPcb {q : Punto} (h : En q p s m) (pcb : Pcb) : En q p (s.conPcb pcb) m := h

lemma En.quieto {q : Punto} (h : En q p s m) : En q p s ⟨m.punto, m.enCurso, m.fin, false, false⟩ := by
  obtain ⟨i, c, rfl⟩ := h
  exact ⟨_, _, rfl⟩

lemma En.buscar {q : Punto} {f : Primitiva} (h : En q (some f) s m) (hf : f.salta = false)
    {nombre : List Byte} {e : Etiquetas} {tam z : ℤ} :
    En q (some f) s (m.sigue ⟨.buscarEtiqueta nombre e tam, z⟩) := by
  obtain ⟨i, c, rfl⟩ := h
  exact ⟨false, false, by simp [Sesion.sigue, hf]⟩

/-- When the answer `r` to a request of the primitive `p` may be reported. -/
lemma En.informe {q : Primitiva} {men : MenCpuUmv} {r : MenComun} (h : Acorde (some q) s m)
    (hr : informa q men r = true) : (m.sigue ⟨.pedirUmv men, r⟩).informe = true := by
  obtain ⟨i, c, rfl⟩ := h
  simp [Sesion.sigue, hr]

lemma regenerarLoop_acorde : ∀ (n : ℕ) (i : ℤ) {s : Estado} {m : Sesion}, Acorde p s m →
    Safe Sesion.monitor (regenerarLoop n i) s m fun _ => Acorde p
  | 0, _, _, _, h => h
  | n + 1, i, s, m, h => by
    refine safe_get_bind (safe_entero_bind (safe_pedirUmv_bind fun r => ?_))
    refine safe_entero_bind (safe_deref_bind fun c => safe_modify_bind ?_)
    exact regenerarLoop_acorde n (i + 1) (h.pedirUmv _ r)

lemma regenerarDiccVar_acorde (h : Acorde p s m) :
    Safe Sesion.monitor regenerarDiccVar s m fun _ => Acorde p :=
  safe_modify_bind (safe_get_bind (regenerarLoop_acorde _ _ h))

lemma preservarContexto_acorde {q : Primitiva} (h : Acorde (some q) s m)
    (hq : ∀ (men : MenCpuUmv) (r : MenComun), men.tipo = almBytes → r.tipo = segmenFault →
      informa q men r = true) :
    Safe Sesion.monitor preservarContexto s m fun _ => Acorde (some q) := by
  refine safe_get_bind (safe_entero_bind (safe_pedirUmv_bind fun r => ?_))
  by_cases hr : r.tipo = rAlmBytes
  · rw [if_pos hr]
    refine safe_entero_bind (safe_pedirUmv_bind fun r' => ?_)
    by_cases hr' : r'.tipo = rAlmBytes
    · rw [if_pos hr']
      exact (h.pedirUmv _ r).pedirUmv _ r'
    rw [if_neg hr']
    by_cases hf : r'.tipo = segmenFault
    · rw [if_pos hf]
      exact finalizarContexto_acorde ((h.pedirUmv _ r).pedirUmv _ r')
        ((h.pedirUmv _ r).informe (hq _ _ rfl hf))
    · rw [if_neg hf]
      exact safe_caida
  rw [if_neg hr]
  by_cases hf : r.tipo = segmenFault
  · rw [if_pos hf]
    exact finalizarContexto_acorde (h.pedirUmv _ r) (h.informe (hq _ _ rfl hf))
  · rw [if_neg hf]
    exact h.pedirUmv _ r

end Funciones

/-! ### Primitives that talk to the UMV only -/

section Memoria

variable {s : Estado} {m : Sesion}

lemma definirVariable_acorde {c : Byte} (h : Acorde (some (.definirVariable c)) s m) :
    Safe Sesion.monitor (definirVariable c) s m fun _ => Acorde (some (.definirVariable c)) := by
  refine safe_get_bind (safe_entero_bind (safe_entero_bind (safe_basura_bind fun l => ?_)))
  refine safe_pedirUmv_bind fun r => ?_
  have hl := h.quieto
  by_cases hr : r.tipo = rAlmBytes
  · rw [if_pos hr]
    exact safe_modify_bind (safe_entero_bind (safe_modify_bind (hl.pedirUmv _ r)))
  · rw [if_neg hr]
    exact (finalizarContexto_acorde (hl.pedirUmv _ r) (hl.informe (decide_eq_true hr))).bind
      fun _ _ _ h => h

lemma obtenerPosicionVariable_acorde {c : Byte} {p : Option Primitiva} (h : Acorde p s m) :
    Safe Sesion.monitor (obtenerPosicionVariable c) s m fun _ => Acorde p :=
  safe_get_bind (safe_deref fun _ => h)

lemma dereferenciar_acorde {dir : ℤ} (h : Acorde (some (.dereferenciar dir)) s m) :
    Safe Sesion.monitor (dereferenciar dir) s m fun _ => Acorde (some (.dereferenciar dir)) := by
  refine safe_get_bind (safe_basura_bind fun l => safe_pedirUmv_bind fun r => ?_)
  have hl := h.quieto
  by_cases hr : r.tipo = rSolBytes
  · rw [if_pos hr]
    split
    · exact hl.pedirUmv _ r
    · exact safe_caida
  rw [if_neg hr]
  by_cases hf : r.tipo = segmenFault
  · simp only [if_pos hf]
    exact (finalizarContexto_acorde (hl.pedirUmv _ r) (hl.informe (decide_eq_true hf))).bind
      fun _ _ _ h => h
  · simp only [if_neg hf]
    exact hl.pedirUmv _ r

lemma asignar_acorde {dir valor : ℤ} (h : Acorde (some (.asignar dir valor)) s m) :
    Safe Sesion.monitor (asignar dir valor) s m fun _ => Acorde (some (.asignar dir valor)) := by
  refine safe_get_bind ?_
  split
  · exact h
  refine safe_pedirUmv_bind fun r => ?_
  by_cases hf : r.tipo = segmenFault
  · rw [if_pos hf]
    exact finalizarContexto_acorde (h.pedirUmv _ r) (h.informe (decide_eq_true hf))
  · rw [if_neg hf]
    exact h.pedirUmv _ r

lemma irAlLabel_acorde {stringTrim : List Byte → List Byte} {etiq : List Byte}
    (h : Acorde (some (.irAlLabel etiq)) s m) :
    Safe Sesion.monitor (irAlLabel stringTrim etiq) s m fun _ => Acorde (some (.irAlLabel etiq)) := by
  obtain ⟨i, c, rfl⟩ := h
  refine safe_buscar_bind fun z => ?_
  by_cases hz : z = -1
  · rw [if_neg (not_not.2 hz)]
    exact safe_modify ⟨false, false, by simp [Sesion.sigue, hz, Primitiva.salta]⟩
  · rw [if_pos hz]
    exact safe_modify ⟨false, false, by simp [Sesion.sigue, hz]⟩

lemma llamarSinRetorno_acorde {etiq : List Byte} (h : Acorde (some (.llamarSinRetorno etiq)) s m) :
    Safe Sesion.monitor (llamarSinRetorno etiq) s m
      fun _ => Acorde (some (.llamarSinRetorno etiq)) := by
  refine (preservarContexto_acorde h fun _ _ ht hr => decide_eq_true ⟨ht, hr⟩).bind
    fun _ s m h => ?_
  refine safe_get_bind (safe_entero_bind (safe_modify_bind ?_))
  refine (regenerarDiccVar_acorde (h.conPcb _)).bind fun _ s m h => ?_
  exact safe_buscar_bind fun z => safe_modify (h.buscar rfl)

lemma llamarConRetorno_acorde {etiq : List Byte} {dir : ℤ}
    (h : Acorde (some (.llamarConRetorno etiq dir)) s m) :
    Safe Sesion.monitor (llamarConRetorno etiq dir) s m
      fun _ => Acorde (some (.llamarConRetorno etiq dir)) := by
  have hinf : ∀ (men : MenCpuUmv) (r : MenComun), men.tipo = almBytes → r.tipo = segmenFault →
      informa (.llamarConRetorno etiq dir) men r = true :=
    fun _ _ ht hr => decide_eq_true ⟨ht, hr⟩
  refine (preservarContexto_acorde h hinf).bind fun _ s m h => ?_
  refine safe_get_bind (safe_entero_bind (safe_pedirUmv_bind fun r => ?_))
  by_cases hr : r.tipo = rAlmBytes
  · rw [if_pos hr]
    refine safe_entero_bind (safe_modify_bind ?_)
    refine (regenerarDiccVar_acorde ((h.pedirUmv _ r).conPcb _)).bind fun _ s m h => ?_
    exact safe_buscar_bind fun z => safe_modify (h.buscar rfl)
  rw [if_neg hr]
  by_cases hf : r.tipo = segmenFault
  · rw [if_pos hf]
    exact finalizarContexto_acorde (h.pedirUmv _ r) (h.informe (hinf _ _ rfl hf))
  · rw [if_neg hf]
    exact h.pedirUmv _ r

lemma retornar_acorde {valor : ℤ} (h : Acorde (some (.retornar valor)) s m) :
    Safe Sesion.monitor (retornar valor) s m fun _ => Acorde (some (.retornar valor)) := by
  refine safe_get_bind (safe_entero_bind (safe_pedirUmv_bind fun r => ?_))
  by_cases hr : r.tipo = rSolBytes
  · rw [if_pos hr]
    refine safe_memcpy_bind fun l => safe_entero_bind (safe_modify_bind ?_)
    refine (regenerarDiccVar_acorde ((h.pedirUmv _ r).conPcb _)).bind fun _ s m h => ?_
    generalize intOfBytes (l.drop 8) = dirRetorno
    exact safe_entero_bind (safe_pedirUmv_bind fun r => safe_pure (h.pedirUmv _ r))
  · rw [if_neg hr]
    exact finalizarContexto_acorde (h.pedirUmv _ r) (h.informe (decide_eq_true ⟨rfl, hr⟩))

end Memoria

/-! ### Primitives that talk to the kernel -/

section Conversaciones

variable {s : Estado} {m : Sesion} {p : Option Primitiva}

/-- The message `men` takes a conversation from the point `q` to the point `q'`. -/
def Punto.Abre (q : Punto) (men : Mensaje) (q' : Punto) : Prop :=
  q.Dice men ∧ q.trasDecir men = q' ∧ q.termina men = false

/-- Any answer of the kernel takes a conversation from the point `q` to the point `q'`. -/
def Punto.Oye (q q' : Punto) : Prop := q.Escucha ∧ ∀ r, q.trasOir r = q' ∧ q.mata r = false

lemma En.decir_bind {α : Type} {q : Punto} (q' : Punto) {tipo : ℤ} {dato : List Byte}
    {f : Unit → Prog α} {Q : α → Estado → Sesion → Prop} (h : En q p s m)
    (hq : q.Abre (.comun (crearMenComun tipo dato)) q')
    (hf : ∀ m, En q' p s m → Safe Sesion.monitor (f ()) s m Q) :
    Safe Sesion.monitor (enviarMenComun tipo dato >>= f) s m Q := by
  obtain ⟨i, c, rfl⟩ := h
  exact safe_hacer_bind (.inl hq.1) fun _ =>
    hf _ ⟨false, false, by simp [Sesion.sigue, hq.2.1, hq.2.2]⟩

lemma En.oir {q q' : Punto} (h : En q p s m) (hq : q.Oye q') :
    Safe Sesion.monitor recibirRespKernel s m fun _ => En q' p := by
  obtain ⟨i, c, rfl⟩ := h
  exact safe_hacer_bind hq.1 fun r =>
    safe_pure ⟨false, false, by simp [Sesion.sigue, (hq.2 r).1, (hq.2 r).2]⟩

lemma abre_imprimeFinal {dato : List Byte} :
    Punto.imprimeFinal.Abre (.comun (crearMenComun TipoDatos.imprimirTexto dato)) .esperaFinal := by
  simp [Punto.Abre, Punto.Dice, Punto.trasDecir, Punto.termina, crearMenComun]

lemma oye_esperaFinal : Punto.esperaFinal.Oye .imprimeFinal := ⟨trivial, fun _ => ⟨rfl, rfl⟩⟩

lemma imprimirVariables_en : ∀ (n : ℕ) (i : ℤ) {s : Estado} {m : Sesion}, En .imprimeFinal p s m →
    Safe Sesion.monitor (imprimirVariables n i) s m fun _ => En .imprimeFinal p
  | 0, _, _, _, h => h
  | n + 1, i, s, m, h => by
    refine safe_get_bind (safe_entero_bind (safe_pedirUmv_bind fun r => ?_))
    refine safe_entero_bind (safe_pedirUmv_bind fun r' => safe_memcpy_bind fun l => ?_)
    refine safe_deref_bind fun nombre => ?_
    refine ((h.pedirUmv _ r).pedirUmv _ r').decir_bind _ abre_imprimeFinal fun m h => ?_
    refine (h.oir oye_esperaFinal).bind fun _ s m h => ?_
    exact imprimirVariables_en n (i + 1) h

lemma finalizarContexto_ok (h : En .imprimeFinal p s m) :
    Safe Sesion.monitor (finalizarContexto 0) s m fun _ => Acorde p := by
  unfold finalizarContexto
  rw [if_neg (by decide), if_pos rfl]
  refine h.decir_bind _ abre_imprimeFinal fun m h => ?_
  refine (h.oir oye_esperaFinal).bind fun _ s m h => ?_
  refine safe_get_bind ((imprimirVariables_en _ _ h).bind ?_)
  rintro _ s m ⟨_, _, rfl⟩
  refine safe_get_bind (safe_hacer_bind (.inl (.inr rfl)) fun _ => safe_modify ⟨false, false, ?_⟩)
  simp [Sesion.sigue, Punto.trasDecir, Punto.termina, crearMenComun]

lemma finalizar_acorde (h : En (.conversa .finalizar s) (some .finalizar) s m) :
    Safe Sesion.monitor finalizar s m fun _ => Acorde (some .finalizar) := by
  refine safe_get_bind ?_
  by_cases hb : s.pcb.dirContActual = s.pcb.dirSegStack
  · rw [Punto.conversa, if_pos hb] at h
    rw [if_pos hb]
    exact finalizarContexto_ok h
  rw [Punto.conversa, if_neg hb] at h
  rw [if_neg hb]
  refine safe_entero_bind (safe_pedirUmv_bind fun r => ?_)
  by_cases hr : r.tipo = rSolBytes
  · rw [if_pos hr]
    refine safe_memcpy_bind fun l => safe_entero_bind (safe_modify_bind ?_)
    exact regenerarDiccVar_acorde ((h.pedirUmv _ r).conPcb _)
  · rw [if_neg hr]
    exact finalizarContexto_acorde (h.pedirUmv _ r) (h.informe (decide_eq_true ⟨rfl, hr⟩))

lemma obtenerValorCompartida_acorde {x : List Byte} (h : En .obtiene p s m) :
    Safe Sesion.monitor (obtenerValorCompartida x) s m fun _ => Acorde p := by
  refine h.decir_bind .esperaValor ?_ ?_
  · simp [Punto.Abre, Punto.Dice, Punto.trasDecir, Punto.termina, crearMenComun]
  rintro _ ⟨i, c, rfl⟩
  refine safe_hacer_bind trivial fun r => ?_
  by_cases hr : r.tipo = varInex
  · rw [if_pos hr]
    exact safe_modify_bind (safe_pure ⟨false, false, by simp [Sesion.sigue, Punto.mata, hr]; rfl⟩)
  · rw [if_neg hr]
    exact safe_deref_bind fun _ =>
      safe_pure ⟨false, false, by simp [Sesion.sigue, Punto.mata, hr]; rfl⟩

lemma asignarValorCompartida_acorde {x : List Byte} {valor : ℤ} (h : En .graba p s m) :
    Safe Sesion.monitor (asignarValorCompartida x valor) s m fun _ => Acorde p := by
  refine h.decir_bind .esperaGrabar ?_ ?_
  · simp [Punto.Abre, Punto.Dice, Punto.trasDecir, Punto.termina, crearMenComun]
  rintro _ ⟨i, c, rfl⟩
  refine safe_hacer_bind trivial fun r => ?_
  by_cases hr : r.tipo = varInex
  · rw [if_pos hr]
    refine safe_modify_bind (safe_pure ⟨false, false, ?_⟩)
    simp [Sesion.sigue, Punto.trasOir, Punto.mata, hr]
  rw [if_neg hr]
  by_cases hg : r.tipo = rGrabarValor
  · rw [if_pos hg]
    have h : En .asigna p s (Sesion.sigue ⟨.esperaGrabar, p, s.fueFinEjecucion, i, c⟩
        ⟨.recvKernel, r⟩) := ⟨false, false, by simp [Sesion.sigue, Punto.trasOir, Punto.mata, hg]⟩
    refine h.decir_bind .esperaAsignado ?_ ?_
    · simp [Punto.Abre, Punto.Dice, Punto.trasDecir, Punto.termina, crearMenComun]
    rintro _ ⟨i, c, rfl⟩
    exact safe_hacer_bind trivial fun r =>
      safe_pure ⟨false, false, by simp [Sesion.sigue, Punto.trasOir, Punto.mata]⟩
  · rw [if_neg hg]
    exact safe_pure ⟨false, false, by simp [Sesion.sigue, Punto.trasOir, Punto.mata, hr, hg]⟩

lemma imprimir_acorde {valor : ℤ} (h : En (.conversa (.imprimir valor) s) p s m) :
    Safe Sesion.monitor (imprimir valor) s m fun _ => Acorde p := by
  refine safe_get_bind ?_
  by_cases hf : s.huboSegFault = true
  · rw [Punto.conversa, if_pos hf] at h
    rw [if_pos hf]
    exact h
  rw [Punto.conversa, if_neg hf] at h
  rw [if_neg hf]
  refine h.decir_bind .esperaImpresion ?_ fun m h => ?_
  · simp [Punto.Abre, Punto.Dice, Punto.trasDecir, Punto.termina, crearMenComun]
  exact h.oir ⟨trivial, fun _ => ⟨rfl, rfl⟩⟩

lemma imprimirTexto_acorde {stringTrim : List Byte → List Byte} {texto : List Byte}
    (h : En .imprime p s m) :
    Safe Sesion.monitor (imprimirTexto stringTrim texto) s m fun _ => Acorde p := by
  refine h.decir_bind .esperaImpresion ?_ fun m h => ?_
  · simp [Punto.Abre, Punto.Dice, Punto.trasDecir, Punto.termina, crearMenComun]
  exact h.oir ⟨trivial, fun _ => ⟨rfl, rfl⟩⟩

lemma safe_enviarPcb {q q' : Punto} {b i c : Bool}
    (hq : (q = .ioPcb ∨ q = .bloquea) ∧ q' = .cierre ∨ q = .quantum ∧ q' = .nada) :
    Safe Sesion.monitor enviarPcb s ⟨q, p, b, i, c⟩
      fun _ s' m' => s' = s ∧ m' = ⟨q', p, true, false, false⟩ := by
  have hd : ∀ pcb, q.Dice (.quantumPcb pcb) ∧ q.trasDecir (.quantumPcb pcb) = q' ∧
      q.termina (.quantumPcb pcb) = true := by
    rcases hq with ⟨rfl | rfl, rfl⟩ | ⟨rfl, rfl⟩ <;> exact fun _ => ⟨trivial, rfl, rfl⟩
  have hn : q ≠ .nada := by
    rcases hq with ⟨rfl | rfl, -⟩ | ⟨rfl, -⟩ <;> nofun
  exact safe_get_bind (safe_hacer (.inl (hd _).1) fun _ =>
    ⟨rfl, by simp [Sesion.sigue, (hd _).2.1, (hd _).2.2, hn]⟩)

lemma safe_avisarCierre {tipo : ℤ} {q : Punto} {b i c : Bool} (m' : Sesion)
    (h : ∀ dato, Sesion.Permite ⟨q, p, b, false, false⟩
        (.enviarKernel (.comun (crearMenComun tipo dato))) ∧
      Sesion.sigue ⟨q, p, b, false, false⟩
        ⟨.enviarKernel (.comun (crearMenComun tipo dato)), ()⟩ = m') :
    Safe Sesion.monitor (avisarCierre tipo) s ⟨q, p, b, i, c⟩
      fun _ s₁ m₁ => s₁ = s ∧ m₁ = m' := by
  refine safe_hacer_bind trivial fun r => ?_
  cases r
  · exact safe_hacer (h _).1 fun _ => ⟨rfl, (h _).2⟩
  · exact safe_hacer (h _).1 fun _ => ⟨rfl, (h _).2⟩

lemma permite_cierre {b : Bool} (dato : List Byte) :
    Sesion.Permite ⟨.cierre, p, b, false, false⟩
        (.enviarKernel (.comun (crearMenComun TipoDatos.wait dato))) ∧
      Sesion.sigue ⟨.cierre, p, b, false, false⟩
        ⟨.enviarKernel (.comun (crearMenComun TipoDatos.wait dato)), ()⟩ =
      ⟨.nada, p, b, false, false⟩ :=
  ⟨.inl rfl, by simp [Sesion.sigue, Punto.trasDecir, Punto.termina]⟩

lemma entradaSalida_acorde {disp : List Byte} {tiempo : ℤ} (h : En .pideIo p s m) :
    Safe Sesion.monitor (entradaSalida disp tiempo) s m fun _ => Acorde p := by
  refine h.decir_bind .ioUnidades ?_ fun m h => ?_
  · simp [Punto.Abre, Punto.Dice, Punto.trasDecir, Punto.termina, crearMenComun]
  refine h.decir_bind .ioPcb ?_ ?_
  · simp [Punto.Abre, Punto.Dice, Punto.trasDecir, Punto.termina, crearMenComun]
  rintro _ ⟨i, c, rfl⟩
  refine (safe_enviarPcb (.inl ⟨.inl rfl, rfl⟩)).bind ?_
  rintro _ s _ ⟨rfl, rfl⟩
  refine (safe_avisarCierre _ permite_cierre).bind ?_
  rintro _ s _ ⟨rfl, rfl⟩
  exact safe_modify ⟨false, false, rfl⟩

lemma wait_acorde {x : List Byte} (h : En .pideSem p s m) :
    Safe Sesion.monitor (wait x) s m fun _ => Acorde p := by
  refine h.decir_bind .esperaSem ?_ ?_
  · simp [Punto.Abre, Punto.Dice, Punto.trasDecir, Punto.termina, crearMenComun]
  rintro _ ⟨i, c, rfl⟩
  refine safe_hacer_bind trivial fun r => ?_
  by_cases ho : r.tipo = semOk
  · rw [if_pos ho]
    exact safe_pure ⟨false, false, by simp [Sesion.sigue, Punto.trasOir, Punto.mata, ho]⟩
  rw [if_neg ho]
  by_cases hb : r.tipo = semBloqueado
  · rw [if_pos hb]
    refine safe_modify_bind ?_
    have hm : Sesion.sigue ⟨.esperaSem, p, s.fueFinEjecucion, i, c⟩ ⟨.recvKernel, r⟩ =
        ⟨.bloquea, p, s.fueFinEjecucion, false, false⟩ := by
      simp [Sesion.sigue, Punto.trasOir, Punto.mata, hb]
    rw [hm]
    refine (safe_enviarPcb (.inl ⟨.inr rfl, rfl⟩)).bind ?_
    rintro _ s _ ⟨rfl, rfl⟩
    refine (safe_avisarCierre _ permite_cierre).mono ?_
    rintro _ s _ ⟨rfl, rfl⟩
    exact ⟨false, false, rfl⟩
  rw [if_neg hb]
  by_cases hi : r.tipo = semInex
  · rw [if_pos hi]
    exact safe_modify ⟨false, false, by simp [Sesion.sigue, Punto.trasOir, Punto.mata, hi]⟩
  · rw [if_neg hi]
    exact safe_pure ⟨false, false, by simp [Sesion.sigue, Punto.trasOir, Punto.mata, hb, hi]⟩

lemma miSignal_acorde {x : List Byte} (h : En .avisaSem p s m) :
    Safe Sesion.monitor (miSignal x) s m fun _ => Acorde p := by
  refine h.decir_bind .esperaSignal ?_ ?_
  · simp [Punto.Abre, Punto.Dice, Punto.trasDecir, Punto.termina, crearMenComun]
  rintro _ ⟨i, c, rfl⟩
  refine safe_hacer_bind trivial fun r => ?_
  have hm : Acorde p s (Sesion.sigue ⟨.esperaSignal, p, s.fueFinEjecucion, i, c⟩ ⟨.recvKernel, r⟩) :=
    ⟨false, false, by simp [Sesion.sigue, Punto.trasOir, Punto.mata]⟩
  by_cases hi : r.tipo = semInex
  · rw [if_pos hi]
    unfold finalizarContexto
    rw [if_neg (by decide), if_neg (by decide)]
    exact safe_pure hm
  · rw [if_neg hi]
    exact safe_pure hm

end Conversaciones

/-! ### Lines and dispatches -/

section Despacho

variable {stringTrim : List Byte → List Byte} {analizadorLinea : Option (List Byte) → Analisis}
variable {s : Estado} {m : Sesion}

/-- **Every primitive** holds the conversation it has to hold, and no other. -/
theorem ejecutar_primitiva (p : Primitiva) (h : En (.conversa p s) (some p) s m) :
    Safe Sesion.monitor (p.ejecutar stringTrim) s m fun _ => Acorde (some p) := by
  cases p with
  | definirVariable c => exact definirVariable_acorde h
  | obtenerPosicionVariable c => exact obtenerPosicionVariable_acorde h
  | dereferenciar dir => exact dereferenciar_acorde h
  | asignar dir valor => exact asignar_acorde h
  | obtenerValorCompartida x => exact obtenerValorCompartida_acorde h
  | asignarValorCompartida x valor => exact asignarValorCompartida_acorde h
  | irAlLabel etiq => exact irAlLabel_acorde h
  | llamarSinRetorno etiq => exact llamarSinRetorno_acorde h
  | llamarConRetorno etiq dir => exact llamarConRetorno_acorde h
  | finalizar => exact finalizar_acorde h
  | retornar valor => exact retornar_acorde h
  | imprimir valor => exact imprimir_acorde h
  | imprimirTexto texto => exact imprimirTexto_acorde h
  | entradaSalida disp tiempo => exact entradaSalida_acorde h
  | wait x => exact wait_acorde h
  | signal x => exact miSignal_acorde h

/-- A line keeps to the session, for every parser. -/
lemma ejecutar_acorde : ∀ (t : Analisis) {s : Estado} {m : Sesion}, (∃ p, Acorde p s m) →
    Safe Sesion.monitor (ejecutar stringTrim t) s m fun _ s' m' => ∃ p, Acorde p s' m'
  | .ret _, _, _, h => h
  | .ask p sigue, s, m, h => by
    obtain ⟨_, i, c, rfl⟩ := h
    refine safe_get_bind (safe_hacer_bind rfl fun _ => ?_)
    refine (ejecutar_primitiva p ⟨false, false, rfl⟩).bind fun v s m h => ?_
    exact ejecutar_acorde (sigue v) ⟨_, h⟩

lemma traerIndiceEtiquetas_acorde (h : Acorde none s m) (hf : m.fin = false) :
    Safe Sesion.monitor traerIndiceEtiquetas s m fun _ => Acorde none := by
  refine safe_get_bind (safe_pedirUmv_bind fun r => ?_)
  by_cases hr : r.tipo = rSolBytes
  · rw [if_pos hr]
    exact safe_modify (h.pedirUmv _ r)
  rw [if_neg hr]
  by_cases hs : r.tipo = segmenFault
  · rw [if_pos hs]
    exact finalizarContexto_acorde (h.pedirUmv _ r) (by simp [Sesion.sigue, hf])
  · rw [if_neg hs]
    exact h.pedirUmv _ r

/-- The line is fetched, or a fault has just been reported. -/
lemma solicitarProxSentenciaAUmv_acorde {p : Option Primitiva} (h : Acorde p s m)
    (hf : m.fin = false) :
    Safe Sesion.monitor (solicitarProxSentenciaAUmv stringTrim) s m fun _ s' m' =>
      Acorde p s' m' ∧ (m'.fin = false ∨ m'.recien = true) := by
  refine safe_get_bind (safe_pedirUmv_bind fun r => safe_memcpy_bind fun l => ?_)
  generalize intOfBytes (l.take 4) = offset, intOfBytes (l.drop 4) = tam
  refine safe_pedirUmv_bind fun r' => ?_
  have h' := (h.pedirUmv ⟨solBytes, s.pcb.dirIndiceCodigo, int32 (s.pcb.programCounter * 8), 8, []⟩
    r).pedirUmv ⟨solBytes, s.pcb.dirSegCodigo, offset, tam, []⟩ r'
  split
  · exact safe_caida
  by_cases hr : r'.tipo = rSolBytes
  · rw [if_pos hr]
    exact safe_memcpy_bind fun _ => safe_entero_bind (safe_modify_bind (safe_pure ⟨h', .inl hf⟩))
  rw [if_neg hr]
  by_cases hs : r'.tipo = segmenFault
  · rw [if_pos hs]
    refine (finalizarContexto_falta h' (by simp [Sesion.sigue, hf])).bind fun _ s m h => ?_
    exact safe_pure ⟨h.1, .inr h.2⟩
  · rw [if_neg hs]
    exact safe_pure ⟨h', .inl hf⟩

lemma cicloQuantum_acorde : ∀ (n : ℕ) {s : Estado} {m : Sesion}, (∃ p, Acorde p s m) →
    Safe Sesion.monitor (cicloQuantum stringTrim analizadorLinea n) s m
      fun _ s' m' => ∃ p, Acorde p s' m'
  | 0, _, _, h => h
  | n + 1, s, m, ⟨p, h⟩ => by
    refine safe_get_bind ?_
    by_cases hf : s.fueFinEjecucion = true
    · rw [if_pos hf]
      exact ⟨p, h⟩
    rw [if_neg hf]
    have hm : m.fin = false := by
      obtain ⟨i, c, rfl⟩ := h
      simpa using hf
    refine (solicitarProxSentenciaAUmv_acorde h hm).bind ?_
    rintro linea s _ ⟨⟨i, c, rfl⟩, hfin⟩
    refine safe_hacer_bind ⟨rfl, hfin⟩ fun _ => ?_
    refine (ejecutar_acorde (m := ⟨.nada, p, s.fueFinEjecucion, false, false⟩) _ ⟨p, _, _, rfl⟩).bind
      fun _ s m h => ?_
    exact cicloQuantum_acorde n h

/-- The end of the loop of `main`, after the process has stopped. -/
lemma finDespacho_acorde {p : Option Primitiva} {i c : Bool} :
    Safe Sesion.monitor
      (do freeEtiquetas; cambioPA 0; modify fun s => (s.conFin false).conSegFault false) s
      ⟨.nada, p, true, i, c⟩ fun _ s' m' =>
        s'.fueFinEjecucion = false ∧ s'.huboSegFault = false ∧ m'.punto = .nada ∧ m'.fin = true := by
  have hfree : Safe Sesion.monitor freeEtiquetas s ⟨.nada, p, true, i, c⟩
      fun _ _ m' => m' = ⟨.nada, p, true, i, c⟩ := by
    refine safe_get_bind ?_
    cases s.etiquetas with
    | nulo => exact safe_pure rfl
    | datos l => exact safe_modify rfl
    | liberado => exact safe_caida
  refine hfree.bind ?_
  rintro _ s _ rfl
  exact safe_hacer_bind trivial fun _ => safe_modify ⟨rfl, rfl, rfl, rfl⟩

lemma salirPorQuantum_acorde {p : Option Primitiva} {i c : Bool} :
    Safe Sesion.monitor salirPorQuantum s ⟨.nada, p, false, i, c⟩
      fun _ _ m' => m' = ⟨.nada, p, true, false, false⟩ := by
  refine (safe_avisarCierre ⟨.quantum, p, false, false, false⟩ fun dato => ?_).bind ?_
  · exact ⟨.inr ⟨rfl, _, rfl, .inr ⟨rfl, rfl⟩⟩,
      by simp [Sesion.sigue, Punto.trasDecir, Punto.termina, crearMenComun]⟩
  rintro _ s _ ⟨rfl, rfl⟩
  exact (safe_enviarPcb (.inr ⟨rfl, rfl⟩)).mono fun _ _ _ h => h.2

/-- **A dispatch keeps to a session**, and the session has stopped when it is over; then the flags
are as they were at the start. -/
theorem despacho_acorde (men : MenQuantumPcb) (hf : s.fueFinEjecucion = false) :
    Safe Sesion.monitor (despacho stringTrim analizadorLinea men) s .inicial fun _ s' m' =>
      s'.fueFinEjecucion = false ∧ s'.huboSegFault = false ∧ m'.punto = .nada ∧ m'.fin = true := by
  have htomar : Safe Sesion.monitor (tomarPcb men) s .inicial fun _ s' m' =>
      Acorde none s' m' ∧ m'.fin = false := by
    unfold tomarPcb
    split
    · exact safe_modify ⟨⟨false, false, by simp [Sesion.inicial, hf]⟩, rfl⟩
    · exact safe_caida
  refine htomar.bind ?_
  rintro _ s _ ⟨⟨i, c, rfl⟩, hf⟩
  refine safe_get_bind (safe_hacer_bind trivial fun _ => ?_)
  refine (traerIndiceEtiquetas_acorde (m := ⟨.nada, none, s.fueFinEjecucion, false, false⟩)
    ⟨_, _, rfl⟩ hf).bind fun _ s m h => ?_
  refine (regenerarDiccVar_acorde h).bind fun _ s m h => ?_
  refine safe_get_bind ((cicloQuantum_acorde _ ⟨_, h⟩).bind ?_)
  rintro _ s _ ⟨p, i, c, rfl⟩
  refine safe_get_bind ?_
  by_cases hf : s.fueFinEjecucion = true
  · rw [hf]
    exact finDespacho_acorde
  · rw [Bool.not_eq_true] at hf
    rw [hf]
    refine (salirPorQuantum_acorde (s := s)).bind ?_
    rintro _ s _ rfl
    exact finDespacho_acorde

end Despacho

end Ansisop.Cpu
