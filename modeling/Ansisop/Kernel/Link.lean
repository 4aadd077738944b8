import Ansisop.Kernel.Custody
import Ansisop.Kernel.Script
import Ansisop.Umv.Clients

/-!
The two sides of a call with the UMV behind it. For the kernel it is a call like any other, whose
messages happen to come from the UMV; for the UMV it is the messages that the kernel sends, one after
the other (`correrConUmv_some`).
-/

namespace Ansisop.Kernel

open Ansisop.Sockets Ansisop.Lib Hilo
open TipoDatos hiding signal wait

section Ambos

variable {entorno : ℕ → Umv.Entorno}

/-- A message of the kernel that keeps `P` in the UMV. -/
lemma Enlace.atiende_conserva {P : Umv.Estado → Prop} {s s' : Enlace} {men : Mensaje}
    (hseg : ∀ n m, men = .seg m → P s.umv → P (Umv.adminConecKernel (entorno n) m s.umv).1)
    (hcomun : ∀ idProc m, P s.umv → P (Umv.gestionarAlmSeg idProc m s.umv).1)
    (h : s.atiende entorno men = some s') (hs : P s.umv) : P s'.umv := by
  unfold Enlace.atiende at h
  split at h
  · rename_i men
    split at h
    · cases h
    · have hu := hseg s.pedidos men rfl hs
      dsimp only at h
      split at h <;> cases h <;> exact hu
  · split at h
    · cases h
    · cases h
      exact hcomun _ _ hs
  · cases h

/-- What an action is for both sides: the kernel is answered as if the messages of the UMV had been
there before, and the UMV takes what is sent. -/
lemma respuestaConUmv_some {P : Umv.Estado → Prop} {S : Salida → Prop}
    (hseg : ∀ n soc m u, S (.enviado soc (.seg m)) → P u →
      P (Umv.adminConecKernel (entorno n) m u).1)
    (hcomun : ∀ idProc m u, P u → P (Umv.gestionarAlmSeg idProc m u).1) {e : Evento}
    {s s' : Enlace} {r : e.Respuesta} (h : respuestaConUmv entorno e s = some (r, s')) :
    ∃ q l, (∀ q' l', respuestaAtomica e ⟨q ++ q', l'⟩ = some (r, ⟨q', l' ++ l⟩)) ∧
      ((∀ o ∈ l, S o) → P s.umv → P s'.umv) := by
  cases e with
  | enviar soc men k =>
    refine ⟨[], [.enviado soc men], ?_⟩
    simp only [respuestaConUmv] at h
    split at h
    · obtain ⟨s₁, hat, he⟩ := Option.map_eq_some_iff.1 h
      obtain ⟨rfl, rfl⟩ := Prod.mk.inj he
      refine ⟨fun q' l' => rfl, fun hl => Enlace.atiende_conserva (fun n m hm => ?_)
        (fun idProc m => hcomun idProc m _) hat⟩
      subst hm
      exact hseg n soc m _ (hl _ (List.mem_singleton.2 rfl))
    · cases h
      exact ⟨fun q' l' => rfl, fun _ hs => hs⟩
  | recvComun soc k =>
    simp only [respuestaConUmv] at h
    split at h
    · split at h
      · rename_i men l hl
        cases h
        exact ⟨[.comun men], [], fun q' l' => by simp [respuestaAtomica], fun _ hs => hs⟩
      · cases h
    · cases h
  | recvQuantumPcb soc k => cases h
  | cerrar soc k =>
    cases h
    exact ⟨[], [.cerrado soc], fun q' l' => rfl, fun _ hs => hs⟩
  | decre sem k =>
    simp only [respuestaConUmv] at h
    split at h
    · cases h
    · rename_i hsem
      cases h
      exact ⟨[], [], fun q' l' => by simp [respuestaAtomica, hsem], fun _ hs => hs⟩
  | decreIo disp k => cases h
  | caida => cases h
  | _ =>
    cases h
    exact ⟨[], [], fun q' l' => by simp [respuestaAtomica], fun _ hs => hs⟩

/-- **A call with the UMV is a call of the kernel** that receives what the UMV answers; and what the
messages it sends keep in the UMV holds there when it is over. -/
theorem correrConUmv_some {P : Umv.Estado → Prop} {S : Salida → Prop}
    (hseg : ∀ n soc m u, S (.enviado soc (.seg m)) → P u →
      P (Umv.adminConecKernel (entorno n) m u).1)
    (hcomun : ∀ idProc m u, P u → P (Umv.gestionarAlmSeg idProc m u).1) {α : Type} {t : Hilo α}
    {k : Estado} {s s' : Enlace} {r : α × Estado}
    (h : correrConUmv entorno t k s = some (r, s')) :
    ∃ q l, correr t k ⟨q, []⟩ = some (r, ⟨[], l⟩) ∧ ((∀ o ∈ l, S o) → P s.umv → P s'.umv) := by
  have htree : ∀ (d : Dialog Evento Evento.Respuesta (α × Estado)) (s : Enlace),
      Dialog.interp (respuestaConUmv entorno) d s = some (r, s') →
      ∃ q l, (∀ q' l', Dialog.interp respuestaAtomica d ⟨q ++ q', l'⟩ = some (r, ⟨q', l' ++ l⟩)) ∧
        ((∀ o ∈ l, S o) → P s.umv → P s'.umv) := by
    intro d
    induction d with
    | ret a =>
      intro s h
      cases h
      exact ⟨[], [], fun q' l' => by simp, fun _ hs => hs⟩
    | ask e next ih =>
      intro s h
      obtain ⟨⟨x, s₁⟩, hx, hn⟩ := Option.bind_eq_some_iff.1 h
      obtain ⟨q₁, l₁, h₁, hP₁⟩ := respuestaConUmv_some hseg hcomun hx
      obtain ⟨q₂, l₂, h₂, hP₂⟩ := ih x s₁ hn
      refine ⟨q₁ ++ q₂, l₁ ++ l₂, fun q' l' => ?_, fun hl hs => ?_⟩
      · rw [Dialog.interp_ask, List.append_assoc, h₁, Option.bind_some, h₂, List.append_assoc]
      · exact hP₂ (fun o ho => hl o (List.mem_append_right l₁ ho))
          (hP₁ (fun o ho => hl o (List.mem_append_left l₂ ho)) hs)
  obtain ⟨q, l, hall, hP⟩ := htree (t k) s h
  refine ⟨q, l, ?_, hP⟩
  have h := hall [] []
  rw [List.append_nil, List.nil_append] at h
  exact h

/-- A turn of `admin_conec_kernel` makes a segment, destroys those of a process, or both. -/
lemma adminConecKernel_conserva {P : Umv.Estado → Prop} (e : Umv.Entorno) (m : MenSeg)
    {u : Umv.Estado} (hcrea : P (Umv.crearSegmento e m u).1)
    (hdestruye : ∀ v, P v → P (Umv.destruirSegmentos m.idProg v)) (hu : P u) :
    P (Umv.adminConecKernel e m u).1 := by
  have hped : ∀ tipoResp, P (Umv.gestionarPedSeg e m tipoResp u).1 := by
    intro tipoResp
    unfold Umv.gestionarPedSeg
    dsimp only
    split
    · exact hdestruye _ hcrea
    · exact hcrea
  unfold Umv.adminConecKernel
  split
  · exact hu
  split
  · exact hdestruye u hu
  split
  · exact hped _
  split
  · exact hped _
  split
  · exact hped _
  split
  · exact hped _
  split <;> exact hu

end Ambos

end Ansisop.Kernel
