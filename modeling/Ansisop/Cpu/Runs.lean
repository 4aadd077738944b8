import Ansisop.Cpu.Conformance

/-!
# The dispatches of a CPU

The loop of `main`, one dispatch after another, and what `despacho_acorde` says about the actions of
each: a process that the CPU stops running has been handed back, unless `irAlLabel` has not found
its label.
-/

namespace Ansisop.Cpu

open Ansisop.Sockets Ansisop.Lib Dialog

/-- The globals when `main` starts; the fields of the pcb are read after one has come. -/
def arranque (pcb : Pcb) : Estado := ⟨pcb, 0, .nulo, false, false, fun _ => none⟩

section Vida

variable (stringTrim : List Byte → List Byte) (analizadorLinea : Option (List Byte) → Analisis)

/-- The globals that the loop of `main` can have at its head. -/
inductive Vida : Estado → Prop
  | inicio (pcb) : Vida (arranque pcb)
  | vuelta {s s' men tr} (h : Vida s)
      (ht : Goes (despacho stringTrim analizadorLinea men s) tr (.ret ((), s'))) : Vida s'

variable {stringTrim analizadorLinea} {s s' : Estado} {men : MenQuantumPcb} {tr : List Suceso}

lemma follows_foldl : ∀ (tr : List Suceso) (m : Sesion),
    Follows Sesion.monitor m tr (tr.foldl Sesion.sigue m)
  | [], m => .nil m
  | ⟨_, _⟩ :: tr, _ => .cons rfl (follows_foldl tr _)

/-- The flag is down at the head of the loop. -/
lemma Vida.fueFinEjecucion (h : Vida stringTrim analizadorLinea s) : s.fueFinEjecucion = false := by
  induction h with
  | inicio pcb => rfl
  | vuelta _ ht ih => exact ((despacho_acorde _ ih).goes ht (follows_foldl _ _)).1

/-- **The actions of a dispatch are those of a session.** -/
theorem Vida.corrida (h : Vida stringTrim analizadorLinea s)
    {t : Dialog Evento Evento.Respuesta (Unit × Estado)}
    (ht : Goes (despacho stringTrim analizadorLinea men s) tr t) : Sesion.Corrida tr := by
  rintro pre ⟨e, r⟩ post rfl
  exact (despacho_acorde men h.fueFinEjecucion).allows ht (follows_foldl pre _)

/-- The session has stopped when the dispatch is over. -/
lemma Vida.tras (h : Vida stringTrim analizadorLinea s)
    (ht : Goes (despacho stringTrim analizadorLinea men s) tr (.ret ((), s'))) :
    (Sesion.tras tr).punto = .nada ∧ (Sesion.tras tr).fin = true :=
  ((despacho_acorde men h.fueFinEjecucion).goes ht (follows_foldl tr _)).2.2

/-- **A process that the CPU stops running has been handed back**, if no jump has missed its
label. -/
theorem despacho_devuelto (h : Vida stringTrim analizadorLinea s)
    (ht : Goes (despacho stringTrim analizadorLinea men s) tr (.ret ((), s')))
    (he : EachStep EtiquetaConocida tr) : Devuelto (charla tr) := by
  obtain ⟨hq, hf⟩ := h.tras ht
  exact ((Sesion.rastro (h.corrida ht)).fin he hf).resolve_right (by simp [hq])

end Vida

/-! ### Two dispatches -/

/-- A pcb whose code and stack lie at given places. -/
def unPcb : Pcb := ⟨0, 400, 100, 200, 300, 400, 7, 0, 0, 0⟩

/-- A UMV that holds one instruction of one byte, a kernel that answers `SEM_OK`, and no labels. -/
def unaInstruccion : (e : Evento) → Unit → Option (e.Respuesta × Unit)
  | .recvKernel, _ => some (⟨0, TipoDatos.semOk, []⟩, ())
  | .pedirUmv men, _ =>
    some (if men.base = 100 then ⟨8, TipoDatos.rSolBytes, [0, 0, 0, 0, 1, 0, 0, 0]⟩
      else ⟨1, TipoDatos.rSolBytes, [65]⟩, ())
  | .quitSistema, _ => some (true, ())
  | .buscarEtiqueta _ _ _, _ => some (-1, ())
  | .basura _, _ => some (fun _ => 0, ())
  | .enviarKernel _, _ | .enviarUmv _, _ | .analizar _, _ | .primitiva _ _, _ => some ((), ())
  | .caida, _ => none

/-- The dispatch of `unPcb` for a quantum of one, and the actions in it. -/
def unDespacho (linea : Analisis) : Option ((Unit × Estado) × Unit × List Suceso) :=
  interp (logged unaInstruccion)
    (despacho id (fun _ => linea) ⟨TipoDatos.pcbYQuantum, 1, unPcb⟩ (arranque unPcb)) ((), [])

lemma unDespacho_goes {linea : Analisis} {β : Type} (f : List Suceso → β) {b : β}
    (h : (unDespacho linea).map (fun r => f r.2.2) = some b) :
    ∃ s' tr, Goes (despacho id (fun _ => linea) ⟨TipoDatos.pcbYQuantum, 1, unPcb⟩
      (arranque unPcb)) tr (.ret ((), s')) ∧ f tr = b := by
  obtain ⟨⟨⟨_, s'⟩, _, tr⟩, hr, hb⟩ := Option.map_eq_some_iff.1 h
  obtain ⟨l, hl, hg⟩ := goes_of_interp unaInstruccion hr
  rw [List.nil_append] at hl
  subst hl
  exact ⟨s', tr, hg, hb⟩

/-- An action that asks for no label. -/
def sinEtiqueta : Suceso → Bool
  | ⟨.buscarEtiqueta _ _ _, _⟩ => false
  | _ => true

/-- A line that does nothing: the quantum ends, and the pcb goes back. -/
theorem despacho_devuelto_quantum : ∃ s' tr,
    Goes (despacho id (fun _ => .ret ()) ⟨TipoDatos.pcbYQuantum, 1, unPcb⟩ (arranque unPcb)) tr
      (.ret ((), s')) ∧ Devuelto (charla tr) := by
  have hvacia : (unDespacho (.ret ())).map (fun r => r.2.2.all sinEtiqueta) = some true := by decide
  obtain ⟨s', tr, hg, hs⟩ := unDespacho_goes (fun tr => tr.all sinEtiqueta) hvacia
  refine ⟨s', tr, hg, despacho_devuelto (.inicio _) hg ?_⟩
  rintro pre ⟨e, r⟩ post rfl
  have := List.all_eq_true.1 hs ⟨e, r⟩ (by simp)
  cases e <;> trivial

/-- A line that jumps to a label that does not exist: nothing is said. -/
theorem despacho_no_devuelto : ∃ analizadorLinea men s s' tr, Vida id analizadorLinea s ∧
    Goes (despacho id analizadorLinea men s) tr (.ret ((), s')) ∧ ¬ Devuelto (charla tr) := by
  have hsalto : (unDespacho (.ask (.irAlLabel (bytes "fin")) fun _ => .ret ())).map
      (fun r => charla r.2.2) = some [] := by decide
  obtain ⟨s', tr, hg, hs⟩ := unDespacho_goes charla hsalto
  refine ⟨_, _, _, s', tr, .inicio unPcb, hg, ?_⟩
  rw [hs]
  rintro (⟨_, h, _⟩ | ⟨_, h, _⟩ | ⟨_, _, _, _, h, _⟩ | ⟨_, _, h, _⟩)
  · exact absurd h (by simp)
  · exact absurd h (by simp)
  · exact absurd (List.infix_nil.1 h) (by simp)
  · exact absurd (List.infix_nil.1 h) (by simp)

end Ansisop.Cpu
