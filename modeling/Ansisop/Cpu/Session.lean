import Ansisop.Cpu.Program

/-!
What a CPU may say to the kernel while it has a process: a session.

A session is at a point of the conversation with the kernel. The point a primitive starts at is
fixed when the parser calls it (`conversa`); each message moves it on, and at `nada` the CPU has
nothing to say but a memory fault or the end of the quantum. A session also knows whether the
process has stopped (`fin`), whether a memory fault may be reported now (`informe`), and whether the
last action was such a report (`recien`).

The sessions do not follow from the code here; the theorem that the code of the CPU keeps to them is
in `Cpu.Conformance`. The second half says what can be read off the actions of a session.
-/

namespace Ansisop.Cpu

open Ansisop.Sockets Ansisop.Lib Dialog
open TipoDatos hiding signal wait imprimirTexto

/-! ### Points of the conversation -/

/-- Where the conversation with the kernel is. -/
inductive Punto where
  | nada
  | imprime | imprimeFinal | obtiene | graba | pideIo | pideSem | avisaSem
  | esperaImpresion | esperaFinal | esperaValor | esperaGrabar | esperaAsignado | esperaSem
  | esperaSignal
  | asigna | ioUnidades | ioPcb | bloquea | cierre | quantum
  deriving DecidableEq, Repr

namespace Punto

/-- The conversation that the primitive `p` holds when it is called in the state `s`. -/
def conversa (p : Primitiva) (s : Estado) : Punto :=
  match p with
  | .obtenerValorCompartida _ => obtiene
  | .asignarValorCompartida _ _ => graba
  | .finalizar => if s.pcb.dirContActual = s.pcb.dirSegStack then imprimeFinal else nada
  | .imprimir _ => if s.huboSegFault then nada else imprime
  | .imprimirTexto _ => imprime
  | .entradaSalida _ _ => pideIo
  | .wait _ => pideSem
  | .signal _ => avisaSem
  | _ => nada

/-- The messages that may be sent at a point, apart from those of `nada`. -/
def Dice : Punto → Mensaje → Prop
  | imprime, .comun men => men.tipo = imprimirValor ∨ men.tipo = TipoDatos.imprimirTexto
  | imprimeFinal, .comun men => men.tipo = TipoDatos.imprimirTexto ∨ men.tipo = finEjecucion
  | obtiene, .comun men => men.tipo = obtenerValor
  | graba, .comun men => men.tipo = grabarValor
  | asigna, .comun men => men.tipo = valorAsignado
  | pideIo, .comun men => men.tipo = ioId
  | ioUnidades, .comun men => men.tipo = ioCantUnidades
  | cierre, .comun men => men.tipo = TipoDatos.wait
  | pideSem, .comun men => men.tipo = TipoDatos.wait
  | avisaSem, .comun men => men.tipo = TipoDatos.signal
  | ioPcb, .quantumPcb _ => True
  | bloquea, .quantumPcb _ => True
  | quantum, .quantumPcb _ => True
  | _, _ => False

/-- The point after a message to the kernel. -/
def trasDecir : Punto → Mensaje → Punto
  | nada, .comun men => if men.tipo = finQuantum then quantum else nada
  | imprime, _ => esperaImpresion
  | imprimeFinal, .comun men => if men.tipo = finEjecucion then nada else esperaFinal
  | obtiene, _ => esperaValor
  | graba, _ => esperaGrabar
  | asigna, _ => esperaAsignado
  | pideIo, _ => ioUnidades
  | ioUnidades, _ => ioPcb
  | ioPcb, _ => cierre
  | bloquea, _ => cierre
  | pideSem, _ => esperaSem
  | avisaSem, _ => esperaSignal
  | _, _ => nada

/-- The points at which a message of the kernel is awaited. -/
def Escucha : Punto → Prop
  | esperaImpresion | esperaFinal | esperaValor | esperaGrabar | esperaAsignado | esperaSem
  | esperaSignal => True
  | _ => False

/-- The point after a message of the kernel. -/
def trasOir : Punto → MenComun → Punto
  | esperaFinal, _ => imprimeFinal
  | esperaGrabar, men => if men.tipo = rGrabarValor then asigna else nada
  | esperaSem, men => if men.tipo = semBloqueado then bloquea else nada
  | _, _ => nada

/-- The messages to the kernel with which the process stops. -/
def termina : Punto → Mensaje → Bool
  | nada, .comun men => men.tipo = segmenFault
  | imprimeFinal, .comun men => men.tipo = finEjecucion
  | ioPcb, _ | bloquea, _ | quantum, _ => true
  | _, _ => false

/-- The messages of the kernel with which the process stops. -/
def mata : Punto → MenComun → Bool
  | esperaValor, men => men.tipo = varInex
  | esperaGrabar, men => men.tipo = varInex
  | esperaSem, men => men.tipo = semInex
  | _, _ => false

end Punto

/-- The answers of the UMV to the request `men` of the primitive `p` that are reported to the kernel
as a memory fault. -/
def informa (p : Primitiva) (men : MenCpuUmv) (r : MenComun) : Bool :=
  match p with
  | .definirVariable _ => r.tipo ≠ rAlmBytes
  | .dereferenciar _ | .asignar _ _ => r.tipo = segmenFault
  | .llamarSinRetorno _ | .llamarConRetorno _ _ => men.tipo = almBytes ∧ r.tipo = segmenFault
  | .finalizar => men.tam = 8 ∧ r.tipo ≠ rSolBytes
  | .retornar _ => men.tam = 12 ∧ r.tipo ≠ rSolBytes
  | _ => false

/-- The primitive that jumps to a label. -/
def Primitiva.salta : Primitiva → Bool
  | irAlLabel _ => true
  | _ => false

/-! ### Sessions -/

/-- A session of a CPU with the kernel. -/
structure Sesion where
  punto : Punto
  enCurso : Option Primitiva
  fin : Bool
  informe : Bool
  recien : Bool
  deriving DecidableEq, Repr

namespace Sesion

/-- The session when a pcb has come. -/
def inicial : Sesion := ⟨.nada, none, false, false, false⟩

/-- The events that the session may put. -/
def Permite (m : Sesion) : Evento → Prop
  | .enviarKernel men =>
    m.punto.Dice men ∨ (m.punto = .nada ∧ ∃ x, men = .comun x ∧
      ((x.tipo = segmenFault ∧ m.informe) ∨ (x.tipo = finQuantum ∧ m.fin = false)))
  | .recvKernel => m.punto.Escucha
  | .analizar _ => m.punto = .nada ∧ (m.fin = false ∨ m.recien)
  | .primitiva _ _ => m.punto = .nada
  | _ => True

/-- The session after an action. -/
def sigue (m : Sesion) : Suceso → Sesion
  | ⟨.enviarKernel men, _⟩ =>
    ⟨m.punto.trasDecir men, m.enCurso, m.fin || m.punto.termina men, false,
      m.punto == .nada && m.punto.termina men⟩
  | ⟨.recvKernel, r⟩ => ⟨m.punto.trasOir r, m.enCurso, m.fin || m.punto.mata r, false, false⟩
  | ⟨.pedirUmv men, r⟩ =>
    ⟨m.punto, m.enCurso, m.fin, !m.fin || m.enCurso.any fun p => informa p men r, false⟩
  | ⟨.buscarEtiqueta _ _ _, z⟩ =>
    ⟨m.punto, m.enCurso, m.fin || (z == -1 && m.enCurso.any Primitiva.salta), false, false⟩
  | ⟨.primitiva p s, _⟩ => ⟨.conversa p s, some p, m.fin, false, false⟩
  | _ => ⟨m.punto, m.enCurso, m.fin, false, false⟩

/-- The session as a monitor of the code. -/
def monitor : Monitor Evento Evento.Respuesta Sesion where
  allows := Permite
  next m e r m' := m' = m.sigue ⟨e, r⟩

/-- The session after a list of actions. -/
def tras (tr : List Suceso) : Sesion := tr.foldl sigue inicial

/-- The actions are those of a session. -/
def Corrida (tr : List Suceso) : Prop := EachStep (fun pre x => (tras pre).Permite x.1) tr

lemma tras_concat (tr : List Suceso) (x : Suceso) : tras (tr ++ [x]) = (tras tr).sigue x := by
  rw [tras, List.foldl_append]
  rfl

end Sesion

/-! ### What is said -/

/-- A message to the kernel, or one from it. -/
inductive Dicho where
  | envia (men : Mensaje)
  | recibe (men : MenComun)
  deriving DecidableEq, Repr

/-- What an action says. -/
def dicho : Suceso → Option Dicho
  | ⟨.enviarKernel men, _⟩ => some (.envia men)
  | ⟨.recvKernel, r⟩ => some (.recibe r)
  | _ => none

/-- The conversation with the kernel. -/
def charla (tr : List Suceso) : List Dicho := tr.filterMap dicho

/-- The primitive that an action calls. -/
def llamada : Suceso → Option Primitiva
  | ⟨.primitiva p _, _⟩ => some p
  | _ => none

/-- The primitive that was called last. -/
def enCurso (tr : List Suceso) : Option Primitiva := (tr.filterMap llamada).getLast?

lemma charla_concat (tr : List Suceso) (x : Suceso) :
    charla (tr ++ [x]) = charla tr ++ (dicho x).toList := by
  rw [charla, charla, List.filterMap_append]
  cases h : dicho x <;> simp [h]

lemma enCurso_concat (tr : List Suceso) (x : Suceso) :
    enCurso (tr ++ [x]) = (llamada x).or (enCurso tr) := by
  rw [enCurso, enCurso, List.filterMap_append, List.getLast?_append]
  cases h : llamada x <;> simp [h]

/-- **The process has been handed back**, or the kernel has said that it has ended it. -/
inductive Devuelto (c : List Dicho) : Prop
  | aviso (men : MenComun) (h : .envia (.comun men) ∈ c)
      (ht : men.tipo = finQuantum ∨ men.tipo = finEjecucion ∨ men.tipo = segmenFault)
  | muerte (men : MenComun) (h : .recibe men ∈ c) (ht : men.tipo = varInex ∨ men.tipo = semInex)
  | io (id cant : MenComun) (pcb : MenQuantumPcb) (cierre : MenComun)
      (h : [.envia (.comun id), .envia (.comun cant), .envia (.quantumPcb pcb),
        .envia (.comun cierre)] <:+: c)
      (ht : id.tipo = ioId ∧ cant.tipo = ioCantUnidades ∧ cierre.tipo = TipoDatos.wait)
  | sem (men : MenComun) (pcb : MenQuantumPcb) (h : [.recibe men, .envia (.quantumPcb pcb)] <:+: c)
      (ht : men.tipo = semBloqueado)

lemma Devuelto.mono {c c' : List Dicho} (h : Devuelto c) (hc : c <:+: c') : Devuelto c' := by
  cases h with
  | aviso men h ht => exact .aviso men (hc.subset h) ht
  | muerte men h ht => exact .muerte men (hc.subset h) ht
  | io id cant pcb cierre h ht => exact .io id cant pcb cierre (h.trans hc) ht
  | sem men pcb h ht => exact .sem men pcb (h.trans hc) ht

/-- A jump to a label looks for one that exists. -/
def EtiquetaConocida (pre : List Suceso) : Suceso → Prop
  | ⟨.buscarEtiqueta _ _ _, z⟩ => z = -1 → ¬ (enCurso pre).any Primitiva.salta
  | _ => True

/-! ### What a session has said -/

/-- The last thing said is a message of the kind `tipo`. -/
def Dijo (tipo : ℤ) (c : List Dicho) : Prop :=
  ∃ men : MenComun, [.envia (.comun men)] <:+ c ∧ men.tipo = tipo

/-- The last words of a conversation that is at the given point. -/
def Punto.Ultimo : Punto → List Dicho → Prop
  | esperaValor, c => Dijo obtenerValor c
  | esperaGrabar, c => Dijo grabarValor c
  | esperaAsignado, c => Dijo valorAsignado c
  | esperaSem, c => Dijo TipoDatos.wait c
  | esperaSignal, c => Dijo TipoDatos.signal c
  | esperaImpresion, c | esperaFinal, c => Dijo imprimirValor c ∨ Dijo TipoDatos.imprimirTexto c
  | ioUnidades, c => Dijo ioId c
  | ioPcb, c => ∃ id cant : MenComun, [.envia (.comun id), .envia (.comun cant)] <:+ c ∧
      id.tipo = ioId ∧ cant.tipo = ioCantUnidades
  | cierre, c => Devuelto c ∨ ∃ (id cant : MenComun) (pcb : MenQuantumPcb),
      [.envia (.comun id), .envia (.comun cant), .envia (.quantumPcb pcb)] <:+ c ∧
      id.tipo = ioId ∧ cant.tipo = ioCantUnidades
  | bloquea, c => ∃ r : MenComun, [.recibe r] <:+ c ∧ r.tipo = semBloqueado
  | quantum, c => Devuelto c
  | _, _ => True

lemma suffix_concat {α : Type*} {l c : List α} (h : l <:+ c) (x : α) : l ++ [x] <:+ c ++ [x] := by
  obtain ⟨t, rfl⟩ := h
  exact ⟨t, by simp⟩

lemma dijo_concat {c : List Dicho} {men : MenComun} {tipo : ℤ} (h : men.tipo = tipo) :
    Dijo tipo (c ++ [.envia (.comun men)]) := ⟨men, ⟨c, rfl⟩, h⟩

namespace Sesion

/-- A message to the kernel that opens or continues a conversation. -/
lemma ultimo_decir {q : Punto} {c : List Dicho} {men : Mensaje} (hu : q.Ultimo c) (hd : q.Dice men) :
    (q.trasDecir men).Ultimo (c ++ [.envia men]) ∧
      (q.termina men = true → Devuelto (c ++ [.envia men]) ∨ q.trasDecir men = .cierre) ∧
      (q = .cierre → Devuelto (c ++ [.envia men])) := by
  have hmono : ∀ {d}, Devuelto c → Devuelto (c ++ [d]) := fun h => h.mono (List.infix_append' [] _ _)
  cases q <;> cases men <;> first | exact hd.elim | skip
  case imprime.comun men => exact ⟨hd.imp dijo_concat dijo_concat, nofun, nofun⟩
  case imprimeFinal.comun men =>
    rcases hd with ht | ht
    · refine ⟨?_, ?_, nofun⟩
      · rw [Punto.trasDecir, if_neg (by simp [ht])]
        exact .inr (dijo_concat ht)
      · simp [Punto.termina, ht]
    · refine ⟨?_, fun _ => .inl (.aviso men (by simp) (.inr (.inl ht))), nofun⟩
      rw [Punto.trasDecir, if_pos ht]
      trivial
  case obtiene.comun men => exact ⟨dijo_concat hd, nofun, nofun⟩
  case graba.comun men => exact ⟨dijo_concat hd, nofun, nofun⟩
  case pideIo.comun men => exact ⟨dijo_concat hd, nofun, nofun⟩
  case pideSem.comun men => exact ⟨dijo_concat hd, nofun, nofun⟩
  case avisaSem.comun men => exact ⟨dijo_concat hd, nofun, nofun⟩
  case asigna.comun men => exact ⟨dijo_concat hd, nofun, nofun⟩
  case ioUnidades.comun men =>
    obtain ⟨id, hs, ht⟩ := hu
    exact ⟨⟨id, men, suffix_concat hs _, ht, hd⟩, nofun, nofun⟩
  case ioPcb.quantumPcb pcb =>
    obtain ⟨id, cant, hs, ht⟩ := hu
    exact ⟨.inr ⟨id, cant, pcb, suffix_concat hs _, ht⟩, fun _ => .inr rfl, nofun⟩
  case bloquea.quantumPcb pcb =>
    obtain ⟨r, hs, ht⟩ := hu
    have hdev : Devuelto (c ++ [.envia (.quantumPcb pcb)]) :=
      .sem r pcb (suffix_concat hs _).isInfix ht
    exact ⟨.inl hdev, fun _ => .inl hdev, nofun⟩
  case cierre.comun men =>
    refine ⟨trivial, nofun, fun _ => ?_⟩
    rcases hu with hdev | ⟨id, cant, pcb, hs, hid, hcant⟩
    · exact hmono hdev
    · exact .io id cant pcb men (suffix_concat hs _).isInfix ⟨hid, hcant, hd⟩
  case quantum.quantumPcb pcb => exact ⟨trivial, fun _ => .inl (hmono hu), nofun⟩

/-- A message of the kernel. -/
lemma ultimo_oir {q : Punto} {c : List Dicho} {r : MenComun} (hd : q.Escucha) :
    (q.trasOir r).Ultimo (c ++ [.recibe r]) ∧ (q.mata r = true → Devuelto (c ++ [.recibe r])) ∧
      q ≠ .cierre := by
  cases q <;> first | exact hd.elim | skip
  case esperaValor =>
    refine ⟨trivial, fun h => .muerte r (by simp) (.inl ?_), nofun⟩
    simpa [Punto.mata] using h
  case esperaGrabar =>
    refine ⟨?_, fun h => .muerte r (by simp) (.inl (by simpa [Punto.mata] using h)), nofun⟩
    rw [Punto.trasOir]
    split <;> trivial
  case esperaSem =>
    refine ⟨?_, fun h => .muerte r (by simp) (.inr (by simpa [Punto.mata] using h)), nofun⟩
    rw [Punto.trasOir]
    split
    · rename_i hb
      exact ⟨r, ⟨c, rfl⟩, hb⟩
    · trivial
  all_goals exact ⟨trivial, nofun, nofun⟩

/-- The primitive that runs is the one called last. -/
lemma tras_enCurso (tr : List Suceso) : (tras tr).enCurso = Cpu.enCurso tr := by
  induction tr using List.reverseRecOn with
  | nil => rfl
  | append_singleton tr x ih =>
    rw [tras_concat, enCurso_concat, ← ih]
    obtain ⟨e, r⟩ := x
    cases e <;> rfl

/-- What a session has said, and what it has said when it stops. -/
structure Rastro (tr : List Suceso) : Prop where
  ultimo : (tras tr).punto.Ultimo (charla tr)
  fin : EachStep EtiquetaConocida tr → (tras tr).fin = true →
    Devuelto (charla tr) ∨ (tras tr).punto = .cierre

/-- An action that says nothing, and does not stop the process unless a label is unknown. -/
lemma Rastro.callado {tr : List Suceso} {x : Suceso} (h : Rastro tr) (hx : dicho x = none)
    (hq : ((tras tr).sigue x).punto = (tras tr).punto ∨
      (tras tr).punto = .nada ∧ ∃ p s, ((tras tr).sigue x).punto = .conversa p s)
    (hf : EtiquetaConocida tr x → ((tras tr).sigue x).fin = (tras tr).fin) :
    Rastro (tr ++ [x]) := by
  have hc : charla (tr ++ [x]) = charla tr := by simp [charla_concat, hx]
  refine ⟨?_, fun he => ?_⟩
  · rw [tras_concat, hc]
    rcases hq with hq | ⟨-, p, s, hq⟩
    · rw [hq]
      exact h.ultimo
    · rw [hq]
      cases p <;> simp only [Punto.conversa] <;> (try split) <;> trivial
  · obtain ⟨he, hxe⟩ := eachStep_concat.1 he
    rw [tras_concat, hc, hf hxe]
    intro hfin
    rcases hq with hq | ⟨hn, -⟩
    · rw [hq]
      exact h.fin he hfin
    · exact .inl ((h.fin he hfin).resolve_right (by simp [hn]))

/-- An action that says `d`. -/
lemma Rastro.dice {tr : List Suceso} {x : Suceso} {d : Dicho} (h : Rastro tr)
    (hx : dicho x = some d) (hu : ((tras tr).sigue x).punto.Ultimo (charla tr ++ [d]))
    (hf : ((tras tr).sigue x).fin = true → (tras tr).fin = true ∨ Devuelto (charla tr ++ [d]) ∨
      ((tras tr).sigue x).punto = .cierre)
    (hcierre : (tras tr).punto = .cierre → Devuelto (charla tr ++ [d])) : Rastro (tr ++ [x]) := by
  have hc : charla (tr ++ [x]) = charla tr ++ [d] := by simp [charla_concat, hx]
  refine ⟨by rwa [tras_concat, hc], fun he => ?_⟩
  rw [tras_concat, hc]
  intro hfin
  rcases hf hfin with hfin | hd
  · rcases h.fin (eachStep_concat.1 he).1 hfin with hd | hq
    · exact .inl (hd.mono (List.infix_append' [] _ _))
    · exact .inl (hcierre hq)
  · exact hd

/-- **What a session says**, and that the process has been handed back when it stops, unless a jump
has not found its label. -/
theorem rastro : ∀ {tr : List Suceso}, Corrida tr → Rastro tr := by
  intro tr
  induction tr using List.reverseRecOn with
  | nil => exact fun _ => ⟨trivial, nofun⟩
  | append_singleton tr x ih =>
    intro hc
    obtain ⟨hc, hp⟩ := eachStep_concat.1 hc
    have h := ih hc
    obtain ⟨e, r⟩ := x
    cases e with
    | enviarKernel men =>
      rcases hp with hd | ⟨hq, x, rfl, hx⟩
      · obtain ⟨hu, hter, hcie⟩ := ultimo_decir h.ultimo hd
        refine h.dice rfl hu (fun hfin => ?_) hcie
        exact (Bool.or_eq_true _ _ ▸ hfin).imp_right hter
      · have hdev : Devuelto (charla tr ++ [.envia (.comun x)]) :=
          .aviso x (by simp) (hx.elim (fun h => .inr (.inr h.1)) fun h => .inl h.1)
        refine h.dice rfl ?_ (fun _ => .inr (.inl hdev)) fun _ => hdev
        simp only [sigue, hq, Punto.trasDecir]
        split
        · exact hdev
        · trivial
    | recvKernel =>
      obtain ⟨hu, hmata, hcie⟩ := ultimo_oir (c := charla tr) (r := r) hp
      refine h.dice rfl hu (fun hfin => ?_) fun hq => absurd hq hcie
      exact (Bool.or_eq_true _ _ ▸ hfin).imp_right fun h => .inl (hmata h)
    | buscarEtiqueta nombre e tam =>
      refine h.callado rfl (.inl rfl) fun hx => ?_
      simp only [sigue, tras_enCurso]
      by_cases hr : r = -1
      · simp [Bool.eq_false_iff.2 (hx hr)]
      · simp [hr]
    | primitiva p s => exact h.callado rfl (.inr ⟨hp, p, s, rfl⟩) fun _ => rfl
    | pedirUmv men => exact h.callado rfl (.inl rfl) fun _ => rfl
    | enviarUmv men => exact h.callado rfl (.inl rfl) fun _ => rfl
    | quitSistema => exact h.callado rfl (.inl rfl) fun _ => rfl
    | basura n => exact h.callado rfl (.inl rfl) fun _ => rfl
    | analizar linea => exact h.callado rfl (.inl rfl) fun _ => rfl
    | caida => exact r.elim

end Sesion

/-! ### Silence -/

/-- An action, in the primitive `p`, after which nothing has to be said: a primitive that holds no
conversation, an answer of the UMV that is not reported, or an action of another kind. -/
def Discreta (p : Option Primitiva) : Suceso → Prop
  | ⟨.primitiva p s, _⟩ => Punto.conversa p s = .nada
  | ⟨.pedirUmv men, r⟩ => ¬ p.any fun p => informa p men r
  | _ => True

/-- After an action as in `C` all actions are discreet. -/
def DiscretaTras (C : List Suceso → Suceso → Prop) (tr : List Suceso) : Prop :=
  EachStep (fun pre x => SomeStep C pre → Discreta (enCurso pre) x) tr

/-- The parser is called with a line. -/
def Analiza (x : Suceso) : Prop := ∃ linea, x.1 = .analizar linea

namespace Sesion

/-- The process has stopped, and there is nothing left to say. -/
structure Callada (m : Sesion) : Prop where
  punto : m.punto = .nada
  fin : m.fin = true
  informe : m.informe = false

lemma Callada.sigue {m : Sesion} {x : Suceso} (h : m.Callada) (hp : m.Permite x.1)
    (hd : Discreta m.enCurso x) :
    (m.sigue x).Callada ∧ (m.sigue x).recien = false ∧ dicho x = none ∧
      (m.recien = false → ¬ Analiza x) := by
  obtain ⟨q, p, fin, informe, recien⟩ := m
  obtain ⟨rfl, rfl, rfl⟩ := h
  obtain ⟨e, r⟩ := x
  cases e with
  | enviarKernel men => rcases hp with hd | ⟨-, x, -, ⟨-, h⟩ | ⟨-, h⟩⟩ <;> contradiction
  | recvKernel => exact hp.elim
  | pedirUmv men =>
    refine ⟨⟨rfl, rfl, ?_⟩, rfl, rfl, fun _ ⟨l, hl⟩ => nomatch hl⟩
    simpa [Sesion.sigue, Discreta] using hd
  | primitiva p s => exact ⟨⟨hd, rfl, rfl⟩, rfl, rfl, fun _ ⟨l, hl⟩ => nomatch hl⟩
  | analizar linea =>
    refine ⟨⟨rfl, rfl, rfl⟩, rfl, rfl, fun hr => ?_⟩
    exact absurd hp.2 (by simpa using hr)
  | enviarUmv men => exact ⟨⟨rfl, rfl, rfl⟩, rfl, rfl, fun _ ⟨l, hl⟩ => nomatch hl⟩
  | quitSistema => exact ⟨⟨rfl, rfl, rfl⟩, rfl, rfl, fun _ ⟨l, hl⟩ => nomatch hl⟩
  | buscarEtiqueta nombre e tam => exact ⟨⟨rfl, rfl, rfl⟩, rfl, rfl, fun _ ⟨l, hl⟩ => nomatch hl⟩
  | basura n => exact ⟨⟨rfl, rfl, rfl⟩, rfl, rfl, fun _ ⟨l, hl⟩ => nomatch hl⟩
  | caida => exact r.elim

/-- **A session that has nothing left to say says nothing**, as long as its actions are discreet. -/
theorem Callada.run {pre : List Suceso} (h : (tras pre).Callada) : ∀ {post : List Suceso},
    Corrida (pre ++ post) →
    EachStep (fun l x => Discreta (Cpu.enCurso (pre ++ l)) x) post →
      (tras (pre ++ post)).Callada ∧ (∀ x ∈ post, dicho x = none) ∧
      ((tras pre).recien = false →
        (tras (pre ++ post)).recien = false ∧ ∀ x ∈ post, ¬ Analiza x) := by
  intro post
  induction post using List.reverseRecOn with
  | nil => exact fun _ _ => ⟨by simpa using h, by simp, fun hr => ⟨by simpa using hr, by simp⟩⟩
  | append_singleton post x ih =>
    intro hc hd
    rw [← List.append_assoc] at hc ⊢
    obtain ⟨hc, hp⟩ := eachStep_concat.1 hc
    obtain ⟨hd, hx⟩ := eachStep_concat.1 hd
    obtain ⟨hcal, hdicho, hana⟩ := ih hc hd
    obtain ⟨h₁, h₂, h₃, h₄⟩ := hcal.sigue hp (by rwa [tras_enCurso])
    rw [tras_concat]
    refine ⟨h₁, ?_, fun hr => ⟨h₂, ?_⟩⟩
    · simpa [or_imp, forall_and, h₃] using hdicho
    · obtain ⟨hr, hana⟩ := hana hr
      simpa [or_imp, forall_and, h₄ hr] using hana

end Sesion

end Ansisop.Cpu
