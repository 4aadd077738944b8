import Ansisop.Kernel.Steps
import Ansisop.Sockets.Wire
import Ansisop.Umv.Server

/-!
A new script, in the kernel and in the UMV together.

`correrConUmv` is a call of the kernel with the UMV behind `soc_umv`: each message sent there is a
turn of `admin_conec_kernel`, and the answers wait in the connection until they are received. Nobody
else uses the connection meanwhile, so it makes no difference when the UMV takes its turn.
-/

namespace Ansisop.Kernel

open Ansisop.Sockets Ansisop.Lib Hilo
open TipoDatos hiding signal wait
open Umv (Descriptor Valida Contiene Unico EsPedido ajenos propios)

/-! ### The UMV behind its socket -/

/-- The UMV, whether it waits for the contents of a segment, its answers still to be received, how
many messages it has taken, and what the call has sent to others. -/
structure Enlace where
  umv : Umv.Estado
  espera : Option ℤ
  respuestas : List MenComun
  pedidos : ℕ
  salida : List Salida

section

variable (entorno : ℕ → Umv.Entorno)

/-- A message reaches the UMV. -/
def Enlace.atiende (s : Enlace) : Mensaje → Option Enlace
  | .seg men =>
    match s.espera with
    | some _ => none
    | none =>
      let r := Umv.adminConecKernel (entorno s.pedidos) men s.umv
      let s := { s with umv := r.1, pedidos := s.pedidos + 1 }
      match r.2 with
      | .responde men => some { s with respuestas := s.respuestas ++ [men] }
      | .espera idProc => some { s with espera := some idProc }
      | .termina => none
      | .sigue => some s
  | .comun men =>
    match s.espera with
    | none => none
    | some idProc =>
      let r := Umv.gestionarAlmSeg idProc men s.umv
      some { s with umv := r.1, espera := none, respuestas := s.respuestas ++ [r.2] }
  | _ => none

/-- The answer to an action of the kernel. -/
def respuestaConUmv : (e : Evento) → Enlace → Option (e.Respuesta × Enlace)
  | .enviar soc men k, s =>
    if soc = k.socUmv then (s.atiende entorno men).map fun s => (k, s)
    else some (k, { s with salida := s.salida ++ [.enviado soc men] })
  | .recvComun soc k, s =>
    if soc = k.socUmv then
      match s.respuestas with
      | men :: l => some ((men, k), { s with respuestas := l })
      | [] => none
    else none
  | .recvQuantumPcb _ _, _ => none
  | .cerrar soc k, s => some (k, { s with salida := s.salida ++ [.cerrado soc] })
  | .lock _ k, s => some (k, s)
  | .unlock _ k, s => some (k, s)
  | .decre sem k, s => if k.sem sem = 0 then none else some (k.conSem sem (k.sem sem - 1), s)
  | .decreIo _ _, _ => none
  | .usleep _ k, s => some (k, s)
  | .caida, _ => none

/-- A call of the kernel with the UMV behind it, from start to end. -/
def correrConUmv {α : Type} (t : Hilo α) (k : Estado) (s : Enlace) : Option ((α × Estado) × Enlace) :=
  Dialog.interp (respuestaConUmv entorno) (t k) s

end

section Correr

variable {entorno : ℕ → Umv.Entorno} {α β : Type} {k k' : Estado} {s s' : Enlace}

@[simp] lemma correrConUmv_pure (a : α) : correrConUmv entorno (pure a) k s = some ((a, k), s) :=
  rfl

lemma correrConUmv_bind (t : Hilo α) (f : α → Hilo β) (k : Estado) (s : Enlace) :
    correrConUmv entorno (t >>= f) k s
      = (correrConUmv entorno t k s).bind fun r => correrConUmv entorno (f r.1.1) r.1.2 r.2 :=
  Dialog.interp_bind (respuestaConUmv entorno) _ (t k) s

@[simp] lemma correrConUmv_get : correrConUmv entorno (get : Hilo Estado) k s = some ((k, k), s) :=
  rfl

@[simp] lemma correrConUmv_modify (f : Estado → Estado) :
    correrConUmv entorno (modify f : Hilo Unit) k s = some (((), f k), s) := rfl

@[simp] lemma correrConUmv_enviarUmv (men : Mensaje) :
    correrConUmv entorno (enviar k.socUmv men) k s
      = (s.atiende entorno men).map fun s => (((), k), s) := by
  unfold correrConUmv enviar
  rw [Dialog.interp_ask]
  simp only [respuestaConUmv, if_true]
  cases s.atiende entorno men <;> rfl

@[simp] lemma correrConUmv_enviarOtro {soc : ℤ} (h : soc ≠ k.socUmv) (men : Mensaje) :
    correrConUmv entorno (enviar soc men) k s
      = some (((), k), { s with salida := s.salida ++ [.enviado soc men] }) := by
  unfold correrConUmv enviar
  rw [Dialog.interp_ask]
  simp only [respuestaConUmv, if_neg h]
  rfl

@[simp] lemma correrConUmv_recvUmv {men : MenComun} {l : List MenComun}
    (h : s.respuestas = men :: l) : correrConUmv entorno (recvComun k.socUmv) k s
      = some ((men, k), { s with respuestas := l }) := by
  unfold correrConUmv recvComun
  rw [Dialog.interp_ask]
  simp only [respuestaConUmv, if_true, h]
  rfl

@[simp] lemma correrConUmv_socketCerrar (soc : ℤ) : correrConUmv entorno (socketCerrar soc) k s
      = some (((), k), { s with salida := s.salida ++ [.cerrado soc] }) := rfl

@[simp] lemma correrConUmv_lock (m : Mutex) : correrConUmv entorno (lock m) k s
      = some (((), k), s) := rfl

@[simp] lemma correrConUmv_unlock (m : Mutex) : correrConUmv entorno (unlock m) k s
      = some (((), k), s) := rfl

@[simp] lemma correrConUmv_deref (a : α) : correrConUmv entorno (deref (some a)) k s
      = some ((a, k), s) := rfl

lemma correrConUmv_entero (x : ℤ) : correrConUmv entorno (entero x) k s
      = if -2 ^ 31 ≤ x ∧ x < 2 ^ 31 then some ((x, k), s) else none := by
  unfold entero
  split <;> rfl

end Correr

/-! ### Requests -/

/-- Nothing is under way in the connection. -/
def Enlace.Quieto (s : Enlace) : Prop := s.espera = none ∧ s.respuestas = []

/-- The connection at rest, with the UMV in another state. -/
@[simps] def Enlace.con (s : Enlace) (u : Umv.Estado) (n : ℕ) : Enlace :=
  { s with umv := u, pedidos := n }

lemma Enlace.Quieto.con {s : Enlace} (h : s.Quieto) (u : Umv.Estado) (n : ℕ) : (s.con u n).Quieto :=
  h

/-- `rand()` answers what an `int` holds and nothing negative. -/
def RandValido (entorno : ℕ → Umv.Entorno) : Prop :=
  ∀ n, 0 ≤ (entorno n).rand ∧ (entorno n).rand < 2 ^ 31

section Pedidos

variable {entorno : ℕ → Umv.Entorno} {k : Estado} {s : Enlace}

/-- The kernel's end of a request: what it makes of the answer. -/
lemma gestionarRespSolMem_run {men : MenComun} (hs : s.respuestas = [men]) :
    (men = crearMenComun memOverload [] →
      correrConUmv entorno gestionarRespSolMem k s
        = some ((-1, k), { s with respuestas := [] })) ∧
    ∀ (resp : TipoDatos) (dir : ℤ), resp ≠ memOverload → 0 ≤ dir → dir < 2 ^ 31 →
      men = crearMenComun resp (cString (stringItoa dir)) →
      correrConUmv entorno gestionarRespSolMem k s
        = some ((dir, k), { s with respuestas := [] }) := by
  unfold gestionarRespSolMem
  simp only [correrConUmv_bind, correrConUmv_get, Option.bind_some, correrConUmv_recvUmv hs]
  constructor
  · rintro rfl
    rfl
  · rintro resp dir hresp h0 h31 rfl
    have hne : resp.val ≠ memOverload.val := fun h => hresp (TipoDatos.val_injective h)
    simp only [crearMenComun, if_neg hne, cadena_stringItoa, correrConUmv_bind,
      correrConUmv_deref, Option.bind_some, correrConUmv_pure,
      atoi_stringItoa (show -2 ^ 31 ≤ dir by omega) h31]

/-- **A request for a segment and its answer**: a logical address and one more segment, or `-1` and
none left of the process. -/
lemma pedirSegmento_run {tipo : TipoDatos} (htipo : EsPedido tipo) {tam : ℤ} (h0 : 0 ≤ tam)
    (hs : s.Quieto) (hu : Valida s.umv) (hid : k.contadorPrograma ≠ 0)
    (hrand : RandValido entorno) :
    ∃ dir u', Valida u' ∧ correrConUmv entorno (pedirSegmento tipo tam) k s
        = some ((dir, k), s.con u' (s.pedidos + 1)) ∧
      (dir = -1 ∧ u'.descriptores.Perm (ajenos k.contadorPrograma s.umv.descriptores) ∨
        0 ≤ dir ∧ u'.descriptores.Perm (s.umv.descriptores ++
          [⟨k.contadorPrograma, Umv.tipoSegDePedido tipo, tam, dir⟩])) := by
  obtain ⟨hr0, hr31⟩ := hrand s.pedidos
  obtain ⟨hespera, hresp⟩ := hs
  obtain ⟨resp, hne, hturno⟩ := Umv.adminConecKernel_pedido (entorno s.pedidos) htipo
    k.contadorPrograma tam s.umv
  have hatiende : ∀ u' men, Umv.gestionarPedSeg (entorno s.pedidos) ⟨tipo, k.contadorPrograma, tam⟩
      resp s.umv = (u', men) → s.atiende entorno (.seg ⟨tipo, k.contadorPrograma, tam⟩)
        = some { s.con u' (s.pedidos + 1) with respuestas := [men] } := by
    intro u' men h
    simp only [Enlace.atiende, hespera, hturno, h, hresp, Enlace.con, List.nil_append]
  have hfin : ∀ u' men, { s.con u' (s.pedidos + 1) with respuestas := ([] : List MenComun) }
      = s.con u' (s.pedidos + 1) ∧ (({ s.con u' (s.pedidos + 1) with respuestas := [men] } :
        Enlace).respuestas = [men]) := by
    intro u' men
    rw [← hresp]
    exact ⟨rfl, rfl⟩
  obtain ⟨u', hu', hcaso⟩ := Umv.gestionarPedSeg_spec (entorno s.pedidos)
    ⟨tipo, k.contadorPrograma, tam⟩ resp hu h0 hid hr0
  unfold pedirSegmento enviarUmvMemSeg
  simp only [correrConUmv_bind, correrConUmv_get, Option.bind_some, correrConUmv_enviarUmv]
  rcases hcaso with ⟨hped, hperm⟩ | ⟨hped, hperm⟩
  · refine ⟨-1, u', hu', ?_, .inl ⟨rfl, hperm⟩⟩
    rw [hatiende _ _ hped, Option.map_some, Option.bind_some,
      (gestionarRespSolMem_run (hfin u' _).2).1 rfl, (hfin u' (crearMenComun memOverload [])).1]
  · refine ⟨(entorno s.pedidos).rand, u', hu', ?_, .inr ⟨hr0, hperm⟩⟩
    rw [hatiende _ _ hped, Option.map_some, Option.bind_some,
      (gestionarRespSolMem_run (hfin u' _).2).2 resp _ hne hr0 hr31 rfl,
      (hfin u' (crearMenComun memOverload [])).1]

/-- The segments of a process that `solicitar_mem` asks for, where it got them. -/
def segmentosDe (id tamCodigo tamEtiquetas tamIndice tamStack : ℤ) (resp : RespSolMem) :
    List Descriptor :=
  [⟨id, codigoScript, tamCodigo, resp.dirSegCodigo⟩,
    ⟨id, indEtiFunc, tamEtiquetas, resp.dirIndiceEtiquetas⟩,
    ⟨id, indCod, tamIndice, resp.dirIndiceCodigo⟩, ⟨id, indStack, tamStack, resp.dirSegStack⟩]

variable (metadata : List Byte → MetadataProgram)

/-- What `solicitar_mem` comes to: all four segments or none, whatever the UMV had to move. It has
no result when the size of the index of code does not fit. -/
def Solicitado (men : MenComun) (k : Estado) (s : Enlace)
    (r : Option ((Option RespSolMem × Estado) × Enlace)) : Prop :=
  (r = none ∧ ¬ ((metadata men.dato).instruccionesSize * 8 : ℤ) < 2 ^ 31) ∨
    ∃ resp u' n, r = some ((resp, k), s.con u' n) ∧ Valida u' ∧
      u'.descriptores.Perm (s.umv.descriptores ++ resp.elim [] (segmentosDe k.contadorPrograma
        men.tamDato (metadata men.dato).etiquetas.length
        ((metadata men.dato).instruccionesSize * 8) k.tamanioStack))

/-- A request that `solicitar_mem` goes on from when it is granted. -/
lemma pedir_o_salir {β : Type} {f : ℤ → Hilo (Option β)}
    {P : Option ((Option β × Estado) × Enlace) → Prop} {tipo : TipoDatos} (htipo : EsPedido tipo)
    {tam : ℤ} (h0 : 0 ≤ tam) (hs : s.Quieto) (hu : Valida s.umv) (hid : k.contadorPrograma ≠ 0)
    (hrand : RandValido entorno)
    (hno : ∀ u', Valida u' →
      u'.descriptores.Perm (ajenos k.contadorPrograma s.umv.descriptores) →
      P (some ((none, k), s.con u' (s.pedidos + 1))))
    (hsi : ∀ dir u', Valida u' → u'.descriptores.Perm (s.umv.descriptores ++
        [⟨k.contadorPrograma, Umv.tipoSegDePedido tipo, tam, dir⟩]) →
      P (correrConUmv entorno (f dir) k (s.con u' (s.pedidos + 1)))) :
    P (correrConUmv entorno
      (pedirSegmento tipo tam >>= fun x => if x = -1 then pure none else f x) k s) := by
  obtain ⟨dir, u', hu', hr, hc⟩ := pedirSegmento_run (k := k) htipo h0 hs hu hid hrand
  rw [correrConUmv_bind, hr, Option.bind_some]
  rcases hc with ⟨rfl, hp⟩ | ⟨hdir, hp⟩
  · exact hno u' hu' hp
  · have hne : ¬ dir = -1 := by omega
    simp only [if_neg hne]
    exact hsi dir u' hu' hp

/-- **`solicitar_mem` gets all four segments or none.** -/
theorem solicitarMem_run (men : MenComun) (hs : s.Quieto) (hu : Valida s.umv)
    (hid : k.contadorPrograma ≠ 0) (hrand : RandValido entorno)
    (hnuevo : ∀ d ∈ s.umv.descriptores, d.idProc ≠ k.contadorPrograma) (hn : 0 ≤ men.tamDato)
    (hstack : 0 ≤ k.tamanioStack) :
    Solicitado metadata men k s (correrConUmv entorno (solicitarMem metadata men) k s) := by
  -- a refusal leaves what was there before the first request
  have hmenos : ∀ (u u' : Umv.Estado) (n : ℕ) (l : List Descriptor), Valida u' →
      u.descriptores.Perm (s.umv.descriptores ++ l) → (∀ d ∈ l, d.idProc = k.contadorPrograma) →
      u'.descriptores.Perm (ajenos k.contadorPrograma u.descriptores) →
      Solicitado metadata men k s (some ((none, k), s.con u' n)) := by
    intro u u' n l hu' hp hl hp'
    refine .inr ⟨none, u', n, rfl, hu', ?_⟩
    have hperm := hp'.trans (hp.filter _)
    have heq : (s.umv.descriptores ++ l).filter (fun d => !(d.idProc == k.contadorPrograma))
        = s.umv.descriptores := Umv.ajenos_append hnuevo hl
    rw [heq] at hperm
    simpa using hperm
  unfold solicitarMem
  refine pedir_o_salir (.inl rfl) hn hs hu hid hrand
    (fun u' hu' hp => hmenos s.umv u' _ [] hu' (by simp) (by simp) hp) fun d₁ u₁ hu₁ hp₁ => ?_
  refine pedir_o_salir (.inr (.inl rfl)) (Int.natCast_nonneg _) (hs.con _ _) hu₁ hid hrand
    (fun u' hu' hp => hmenos u₁ u' _ _ hu' hp₁ (by simp) hp) fun d₂ u₂ hu₂ hp₂ => ?_
  have hp₂ := hp₂.trans (hp₁.append_right _)
  rw [correrConUmv_bind, correrConUmv_entero]
  by_cases hcabe : ((metadata men.dato).instruccionesSize * 8 : ℤ) < 2 ^ 31
  · have h8 : 0 ≤ ((metadata men.dato).instruccionesSize * 8 : ℤ) := by omega
    rw [if_pos ⟨by omega, hcabe⟩, Option.bind_some]
    refine pedir_o_salir (.inr (.inr (.inl rfl))) h8 (hs.con _ _) hu₂ hid hrand
      (fun u' hu' hp => hmenos u₂ u' _ _ hu' (by rw [List.append_assoc] at hp₂; exact hp₂)
        (by simp) hp) fun d₃ u₃ hu₃ hp₃ => ?_
    have hp₃ := hp₃.trans (hp₂.append_right _)
    rw [correrConUmv_bind, correrConUmv_get, Option.bind_some]
    refine pedir_o_salir (.inr (.inr (.inr rfl))) hstack (hs.con _ _) hu₃ hid hrand
      (fun u' hu' hp => hmenos u₃ u' _ _ hu'
        (by rw [List.append_assoc, List.append_assoc] at hp₃; exact hp₃) (by simp) hp)
      fun d₄ u₄ hu₄ hp₄ => ?_
    have hp₄ := hp₄.trans (hp₃.append_right _)
    rw [List.append_assoc, List.append_assoc, List.append_assoc] at hp₄
    exact .inr ⟨some ⟨d₁, d₄, d₃, d₂⟩, u₄, _, rfl, hu₄, hp₄⟩
  · rw [if_neg fun h => hcabe h.2, Option.bind_none]
    exact .inl ⟨rfl, hcabe⟩

end Pedidos

/-! ### Contents -/

section Contenido

variable (entorno : ℕ → Umv.Entorno) {k : Estado} {s : Enlace}

/-- **A segment is written** with two messages and an acknowledgement. -/
lemma escribirSegmento_run (men : MenComun) (hs : s.Quieto) (hu : Valida s.umv)
    (hun : Unico s.umv k.contadorPrograma men.tipo men.tamDato)
    (hdato : men.tamDato = men.dato.length) :
    ∃ u', Valida u' ∧ u'.listSeg = s.umv.listSeg ∧
      correrConUmv entorno (escribirSegmento men) k s
        = some (((), k), s.con u' (s.pedidos + 1)) ∧
      Contiene u' k.contadorPrograma men.tipo men.dato ∧
      ∀ tipo dato, tipo ≠ men.tipo → Contiene s.umv k.contadorPrograma tipo dato →
        Contiene u' k.contadorPrograma tipo dato := by
  obtain ⟨hespera, hresp⟩ := hs
  obtain ⟨u', hturno, hu', hlist, hcont, hotros⟩ := Umv.gestionarAlmSeg_spec hu hun hdato
  have hpide : s.atiende entorno (.seg ⟨escribirSeg, k.contadorPrograma, 0⟩)
      = some { s.con s.umv (s.pedidos + 1) with espera := some k.contadorPrograma } := by
    have hadm : ∀ e, Umv.adminConecKernel e ⟨escribirSeg, k.contadorPrograma, 0⟩ s.umv
        = (s.umv, .espera k.contadorPrograma) := fun _ => rfl
    simp only [Enlace.atiende, hespera, hadm, Enlace.con]
  have hmanda : Enlace.atiende entorno
      { s.con s.umv (s.pedidos + 1) with espera := some k.contadorPrograma } (.comun men)
        = some { s.con u' (s.pedidos + 1) with respuestas := [crearMenComun menAlmOk []] } := by
    simp only [Enlace.atiende, Enlace.con, hturno, hresp, hespera, List.nil_append]
  have hrecv : correrConUmv entorno (recvComun k.socUmv) k
      { s.con u' (s.pedidos + 1) with respuestas := [crearMenComun menAlmOk []] }
        = some ((crearMenComun menAlmOk [], k), s.con u' (s.pedidos + 1)) := by
    rw [correrConUmv_recvUmv rfl]
    simp only [Enlace.con, hresp]
  refine ⟨u', hu', hlist, ?_, hcont, hotros⟩
  unfold escribirSegmento enviarUmvMemSeg
  simp only [correrConUmv_bind, correrConUmv_get, Option.bind_some, correrConUmv_enviarUmv, hpide,
    Option.map_some, hmanda, hrecv, correrConUmv_pure]

variable (metadata : List Byte → MetadataProgram)

/-- **The three segments are written**, and the pcb gets their logical addresses. -/
theorem crearPcbEscribirSegUmv_run (basura : ℤ) {men : MenComun} (resp : RespSolMem)
    (hs : s.Quieto) (hu : Valida s.umv) (hmen : men.tamDato = men.dato.length)
    (hcod : Unico s.umv k.contadorPrograma codigoScript men.tamDato)
    (heti : Unico s.umv k.contadorPrograma indEtiFunc (metadata men.dato).etiquetas.length)
    (hind : Unico s.umv k.contadorPrograma indCod
      ((metadata men.dato).instruccionesSize * 8)) :
    ∃ u' n pcb, correrConUmv entorno (crearPcbEscribirSegUmv metadata basura men resp) k s
        = some ((pcb, k), s.con u' n) ∧ Valida u' ∧ u'.listSeg = s.umv.listSeg ∧
      Contiene u' k.contadorPrograma codigoScript men.dato ∧
      Contiene u' k.contadorPrograma indEtiFunc (metadata men.dato).etiquetas ∧
      Contiene u' k.contadorPrograma indCod (metadata men.dato).instruccionesSerializado ∧
      pcb.id = k.contadorPrograma ∧ pcb.dirSegCodigo = resp.dirSegCodigo ∧
      pcb.dirIndiceEtiquetas = resp.dirIndiceEtiquetas ∧
      pcb.dirIndiceCodigo = resp.dirIndiceCodigo ∧ pcb.dirSegStack = resp.dirSegStack := by
  have hunico : ∀ {u u' : Umv.Estado} {id tipo tam : ℤ}, u'.listSeg = u.listSeg →
      Unico u id tipo tam → Unico u' id tipo tam := by
    intro u u' id tipo tam h hun
    unfold Unico at hun ⊢
    rwa [h]
  have hlen := (metadata men.dato).serializado_length
  obtain ⟨u₁, hu₁, hl₁, hr₁, hc₁, -⟩ := escribirSegmento_run entorno (k := k) (s := s)
    ⟨men.tamDato, codigoScript, men.dato⟩ hs hu hcod hmen
  obtain ⟨u₂, hu₂, hl₂, hr₂, hc₂, ho₂⟩ := escribirSegmento_run entorno (k := k)
    (s := s.con u₁ (s.pedidos + 1)) (crearMenComun indEtiFunc (metadata men.dato).etiquetas)
    (hs.con _ _) hu₁ (hunico hl₁ heti) rfl
  obtain ⟨u₃, hu₃, hl₃, hr₃, hc₃, ho₃⟩ := escribirSegmento_run entorno (k := k)
    (s := s.con u₂ (s.pedidos + 2))
    (crearMenComun indCod (metadata men.dato).instruccionesSerializado)
    (hs.con _ _) hu₂ (hunico (hl₂.trans hl₁) (by simpa [crearMenComun, hlen] using hind)) rfl
  have hrun : ∃ pcb : Pcb, correrConUmv entorno (crearPcbEscribirSegUmv metadata basura men resp) k s
        = some ((pcb, k), s.con u₃ (s.pedidos + 3)) ∧
      pcb.id = k.contadorPrograma ∧ pcb.dirSegCodigo = resp.dirSegCodigo ∧
      pcb.dirIndiceEtiquetas = resp.dirIndiceEtiquetas ∧
      pcb.dirIndiceCodigo = resp.dirIndiceCodigo ∧ pcb.dirSegStack = resp.dirSegStack := by
    unfold crearPcbEscribirSegUmv
    have hr₂ : correrConUmv entorno
        (escribirSegmento (crearMenComun indEtiFunc (metadata men.dato).etiquetas)) k
        (s.con u₁ (s.pedidos + 1)) = some (((), k), s.con u₂ (s.pedidos + 2)) := hr₂
    simp only [correrConUmv_bind, hr₁, Option.bind_some, hr₂, hr₃]
    exact ⟨_, rfl, rfl, rfl, rfl, rfl, rfl⟩
  obtain ⟨pcb, hpcb, hcampos⟩ := hrun
  have h₁₂ : codigoScript.val ≠ indEtiFunc.val := by decide
  have h₁₃ : codigoScript.val ≠ indCod.val := by decide
  have h₂₃ : indEtiFunc.val ≠ indCod.val := by decide
  exact ⟨u₃, _, pcb, hpcb, hu₃, hl₃.trans (hl₂.trans hl₁), ho₃ _ _ h₁₃ (ho₂ _ _ h₁₂ hc₁),
    ho₃ _ _ h₂₃ hc₂, hc₃, hcampos⟩

end Contenido

/-! ### The whole call -/

section Carga

variable {entorno : ℕ → Umv.Entorno} {k k' : Estado} {s s' : Enlace}
variable (metadata : List Byte → MetadataProgram)

/-- **The script is loaded**: the UMV holds the four segments of the process and no other of it, the
first three with their contents, and a pcb with their addresses is the last one of `cola_new`. -/
structure Cargado (socProg : ℤ) (men : MenComun) (k k' : Estado) (u' : Umv.Estado) (id : ℤ)
    (resp : RespSolMem) : Prop where
  segmentos : (propios id u'.descriptores).Perm (segmentosDe id men.tamDato
    (metadata men.dato).etiquetas.length ((metadata men.dato).instruccionesSize * 8)
    k.tamanioStack resp)
  codigo : Contiene u' id codigoScript men.dato
  etiquetas : Contiene u' id indEtiFunc (metadata men.dato).etiquetas
  indice : Contiene u' id indCod (metadata men.dato).instruccionesSerializado
  encolado : ∃ aux, k'.colas .new = k.colas .new ++ [some aux] ∧ aux.nSocket = socProg ∧
    aux.pcb.id = id ∧ aux.pcb.dirSegCodigo = resp.dirSegCodigo ∧
    aux.pcb.dirIndiceEtiquetas = resp.dirIndiceEtiquetas ∧
    aux.pcb.dirIndiceCodigo = resp.dirIndiceCodigo ∧ aux.pcb.dirSegStack = resp.dirSegStack

/-- **The script is refused**: the UMV holds no segment of the process, the program is told, and the
kernel has no pcb of it. -/
structure Rechazado (socProg : ℤ) (k k' : Estado) (s' : Enlace) (id : ℤ) : Prop where
  segmentos : propios id s'.umv.descriptores = []
  avisado : .enviado socProg (.comun (crearMenComun memOverload (cString (stringItoa id))))
    ∈ s'.salida
  colas : k'.colas = k.colas
  vivos : k'.vivos = k.vivos

/-- The two ends, with what both leave alone. -/
def Termina (socProg : ℤ) (men : MenComun) (k : Estado) (s : Enlace) (id : ℤ) (k' : Estado)
    (s' : Enlace) : Prop :=
  ((∃ resp, Cargado metadata socProg men k k' s'.umv id resp) ∨ Rechazado socProg k k' s' id) ∧
    (ajenos id s'.umv.descriptores).Perm (ajenos id s.umv.descriptores)

/-- The weight of a script, as a number that need not fit. -/
def pesoDe (men : MenComun) : ℤ :=
  5 * (metadata men.dato).cantidadDeEtiquetas + 3 * (metadata men.dato).cantidadDeFunciones
    + (metadata men.dato).instruccionesSize

/-- The numbers the kernel computes from the metadata fit in an `int32_t`. -/
def Cabe (men : MenComun) : Prop :=
  ((metadata men.dato).instruccionesSize * 8 : ℤ) < 2 ^ 31 ∧ pesoDe metadata men < 2 ^ 31

/-- Each of the four types of a loaded process has one segment. -/
lemma unico_segmentosDe {u : Umv.Estado} {l : List Descriptor} {id n e i st : ℤ}
    {resp : RespSolMem} (hnuevo : ∀ d ∈ l, d.idProc ≠ id)
    (h : u.descriptores.Perm (l ++ segmentosDe id n e i st resp)) :
    Unico u id codigoScript n ∧ Unico u id indEtiFunc e ∧ Unico u id indCod i := by
  have hfiltro : ∀ tipo : ℤ, (u.descriptores.filter fun x => x.idProc == id && x.tipoSeg == tipo).Perm
      ((segmentosDe id n e i st resp).filter fun x => x.idProc == id && x.tipoSeg == tipo) := by
    intro tipo
    have hl : l.filter (fun x => x.idProc == id && x.tipoSeg == tipo) = [] :=
      List.filter_eq_nil_iff.2 fun d hd => by simp [hnuevo d hd]
    have hp := h.filter fun x => x.idProc == id && x.tipoSeg == tipo
    rwa [List.filter_append, hl, List.nil_append] at hp
  refine ⟨Umv.unico_of_descriptores (d := ⟨id, codigoScript, n, resp.dirSegCodigo⟩) ?_,
    Umv.unico_of_descriptores (d := ⟨id, indEtiFunc, e, resp.dirIndiceEtiquetas⟩) ?_,
    Umv.unico_of_descriptores (d := ⟨id, indCod, i, resp.dirIndiceCodigo⟩) ?_⟩
  · simpa [segmentosDe] using hfiltro codigoScript
  · simpa [segmentosDe] using hfiltro indEtiFunc
  · simpa [segmentosDe] using hfiltro indCod

/-- The end of a call that was refused memory. -/
lemma rechazado_run {socProg id : ℤ} (hsoc : socProg ≠ k.socUmv) :
    ∃ k' s', correrConUmv entorno (do
        fdClrProgs socProg
        enviarMenComun socProg memOverload (cString (stringItoa id))
        socketCerrar socProg) k s = some (((), k'), s') ∧ k'.colas = k.colas ∧
      k'.vivos = k.vivos ∧ s'.umv = s.umv ∧
      .enviado socProg (.comun (crearMenComun memOverload (cString (stringItoa id))))
        ∈ s'.salida := by
  have hsoc' : socProg ≠ (k.conSocProgs (k.conjSocProgs.erase socProg)).socUmv := hsoc
  unfold fdClrProgs enviarMenComun
  simp only [correrConUmv_bind, correrConUmv_modify, Option.bind_some,
    correrConUmv_enviarOtro hsoc', correrConUmv_socketCerrar]
  exact ⟨_, _, rfl, rfl, rfl, rfl, by simp⟩

lemma calcularPeso_run (men : MenComun) : correrConUmv entorno (calcularPeso metadata men) k s
      = if pesoDe metadata men < 2 ^ 31 then some ((pesoDe metadata men, k), s) else none := by
  have hpos : -2 ^ 31 ≤ pesoDe metadata men := by
    unfold pesoDe
    omega
  have hrun : correrConUmv entorno (calcularPeso metadata men) k s
      = correrConUmv entorno (entero (pesoDe metadata men)) k s := rfl
  rw [hrun, correrConUmv_entero]
  by_cases h : pesoDe metadata men < 2 ^ 31
  · rw [if_pos ⟨hpos, h⟩, if_pos h]
  · rw [if_neg fun hc => h hc.2, if_neg h]

/-- The end of a call that got its memory: the contents are sent and the pcb is queued. -/
lemma encolado_run {basura : ℤ} (socProg : ℤ) {men : MenComun} {resp : RespSolMem} {pcb : Pcb}
    {s₁ : Enlace} (hpcb : correrConUmv entorno (crearPcbEscribirSegUmv metadata basura men resp) k s
      = some ((pcb, k), s₁)) :
    (pesoDe metadata men < 2 ^ 31 → ∃ k', correrConUmv entorno (do
        let pcb ← crearPcbEscribirSegUmv metadata basura men resp
        let peso ← calcularPeso metadata men
        lock .new
        modify fun k => k.conVivos (pcb.id :: k.vivos)
        queuePush .new (some ⟨pcb, socProg, peso, -1⟩)
        semIncre .cantNew
        unlock .new) k s = some (((), k'), s₁) ∧
      k'.colas .new = k.colas .new ++ [some ⟨pcb, socProg, pesoDe metadata men, -1⟩]) ∧
    (¬ pesoDe metadata men < 2 ^ 31 → correrConUmv entorno (do
        let pcb ← crearPcbEscribirSegUmv metadata basura men resp
        let peso ← calcularPeso metadata men
        lock .new
        modify fun k => k.conVivos (pcb.id :: k.vivos)
        queuePush .new (some ⟨pcb, socProg, peso, -1⟩)
        semIncre .cantNew
        unlock .new) k s = none) := by
  constructor
  · intro hpeso
    rw [correrConUmv_bind, hpcb, Option.bind_some, correrConUmv_bind, calcularPeso_run,
      if_pos hpeso, Option.bind_some]
    exact ⟨_, rfl, by simp⟩
  · intro hpeso
    rw [correrConUmv_bind, hpcb, Option.bind_some, correrConUmv_bind, calcularPeso_run,
      if_neg hpeso, Option.bind_none]

/-- **One call of `administrar_new_script`**, from a UMV in order and a connection at rest. -/
theorem administrarNewScript_run (basura : ℤ) {socProg : ℤ} {men : MenComun} (hs : s.Quieto)
    (hu : Valida s.umv) (hrand : RandValido entorno) (hsoc : socProg ≠ k.socUmv)
    (hmen : men.tamDato = men.dato.length) (hstack : 0 ≤ k.tamanioStack)
    (hint : EsInt32 (k.contadorPrograma + 1)) (hid : k.contadorPrograma + 1 ≠ 0)
    (hnuevo : ∀ d ∈ s.umv.descriptores, d.idProc ≠ k.contadorPrograma + 1) :
    (correrConUmv entorno (administrarNewScript metadata basura socProg men) k s = none ∧
        ¬ Cabe metadata men) ∨
      ∃ k' s', correrConUmv entorno (administrarNewScript metadata basura socProg men) k s
          = some (((), k'), s') ∧
        Termina metadata socProg men k s (k.contadorPrograma + 1) k' s' := by
  generalize hiddef : k.contadorPrograma + 1 = id at hint hid hnuevo ⊢
  have hvacia : ∀ d ∈ ([] : List Descriptor), d.idProc = id := by simp
  have hajenos : ajenos id s.umv.descriptores = s.umv.descriptores := by
    have h := Umv.ajenos_append hnuevo hvacia
    rwa [List.append_nil] at h
  have hpropios : propios id s.umv.descriptores = [] := by
    have h := Umv.propios_append hnuevo hvacia
    rwa [List.append_nil] at h
  have hrango : -2 ^ 31 ≤ id ∧ id < 2 ^ 31 := hint
  unfold administrarNewScript
  simp only [correrConUmv_bind, correrConUmv_get, Option.bind_some, correrConUmv_entero,
    hiddef, if_pos hrango, correrConUmv_modify]
  rcases solicitarMem_run (k := k.conContador id) metadata men hs hu
    hid hrand hnuevo (by omega) hstack with ⟨hr, hcabe⟩ | ⟨resp, u', n, hr, hu', hperm⟩
  · rw [hr, Option.bind_none]
    exact .inl ⟨rfl, fun h => hcabe h.1⟩
  rw [hr, Option.bind_some]
  cases resp with
  | none =>
    -- refused: what the UMV holds is what it held before
    obtain ⟨k', s', hfin, hcolas, hvivos, humv, hsalida⟩ := rechazado_run
      (k := k.conContador id) (s := s.con u' n) hsoc
    have hperm : u'.descriptores.Perm s.umv.descriptores := by simpa using hperm
    refine .inr ⟨k', s', hfin, .inr ⟨?_, hsalida, hcolas, hvivos⟩, ?_⟩
    · rw [humv, Enlace.con_umv]
      have h := hperm.filter fun d => d.idProc == id
      exact List.perm_nil.1 (h.trans (.of_eq hpropios))
    · rw [humv, Enlace.con_umv]
      exact hperm.filter _
  | some resp =>
    have hperm : u'.descriptores.Perm (s.umv.descriptores ++ segmentosDe id men.tamDato
        (metadata men.dato).etiquetas.length ((metadata men.dato).instruccionesSize * 8)
        k.tamanioStack resp) := hperm
    obtain ⟨hcod, heti, hind⟩ := unico_segmentosDe hnuevo hperm
    obtain ⟨u₂, n₂, pcb, hpcb, hu₂, hlist, hc₁, hc₂, hc₃, hpid, hdirs⟩ :=
      crearPcbEscribirSegUmv_run (k := k.conContador id) (s := s.con u' n)
        entorno metadata basura resp (hs.con u' n) hu' hmen hcod heti hind
    have hdesc : u₂.descriptores = u'.descriptores := congrArg (List.map Umv.Seg.descriptor) hlist
    have hpropio : ∀ d ∈ segmentosDe id men.tamDato (metadata men.dato).etiquetas.length
        ((metadata men.dato).instruccionesSize * 8) k.tamanioStack resp, d.idProc = id := by
      simp [segmentosDe]
    have hfin := encolado_run metadata socProg hpcb
    by_cases hpeso : pesoDe metadata men < 2 ^ 31
    · obtain ⟨k', hrun, hnew⟩ := hfin.1 hpeso
      refine .inr ⟨k', _, hrun, .inl ⟨resp, ?_, hc₁, hc₂, hc₃, _, hnew, rfl, hpid, hdirs⟩, ?_⟩
      · rw [Enlace.con_umv, hdesc, ← Umv.propios_append hnuevo hpropio]
        exact hperm.filter _
      · rw [Enlace.con_umv, hdesc, hajenos]
        have h := hperm.filter fun d => !(d.idProc == id)
        exact h.trans (.of_eq (Umv.ajenos_append hnuevo hpropio))
    · exact .inl ⟨hfin.2 hpeso, fun h => hpeso h.2⟩

end Carga

/-- The script of the connection 7. -/
def unScript : MenComun := crearMenComun codigoScript [97, 0]

end Ansisop.Kernel
