import Ansisop.Cpu.Runs
import Ansisop.Kernel.Conservation

/-!
# Memory faults, from the CPU to the kernel

The first `SEGMEN_FAULT` of a dispatch is the last thing the CPU says in it, as long as what is left
of the line is discreet: no primitive that talks to the kernel is called, and no request of one is
answered with a fault that it reports (`falta_ultima`).

On the other side, the kernel keeps a CPU with its process as long as it neither hears from the CPU
that the process stops nor tells it so (`retiene_run`), and then `fin_ejecucion` finds both
(`finEjecucion_ocupada`).
-/

namespace Ansisop.Cpu

open Ansisop.Sockets Ansisop.Lib Dialog
open TipoDatos hiding signal wait imprimirTexto

/-! ### The CPU -/

/-- The CPU reports a memory fault. -/
def Falta (x : Suceso) : Prop :=
  ∃ men : MenComun, x.1 = .enviarKernel (.comun men) ∧ men.tipo = segmenFault

/-- From the first report of a memory fault on, all actions are discreet. -/
def DiscretoTrasFalta (tr : List Suceso) : Prop := DiscretaTras (fun _ => Falta) tr

/-- The process still runs, as far as has been said. -/
structure EnMarcha (c : List Dicho) : Prop where
  tipos : ∀ men : MenComun, .envia (.comun men) ∈ c → men.tipo ≠ conecCerrada ∧
    men.tipo ≠ finQuantum ∧ men.tipo ≠ finEjecucion ∧ men.tipo ≠ segmenFault
  pcb : ∀ pcb : MenQuantumPcb, .envia (.quantumPcb pcb) ∉ c
  vive : ∀ men : MenComun, .recibe men ∈ c → men.tipo ≠ varInex ∧ men.tipo ≠ semInex

namespace Sesion

/-- The messages in the middle of a conversation are none of these. -/
lemma dice_tipo {q : Punto} {men : MenComun} (h : q.Dice (.comun men)) :
    men.tipo ≠ segmenFault ∧ men.tipo ≠ conecCerrada := by
  cases q <;> first | exact h.elim | skip
  case imprime => rcases h with h | h <;> rw [h] <;> decide
  case imprimeFinal => rcases h with h | h <;> rw [h] <;> decide
  all_goals
    rw [show men.tipo = _ from h]
    decide

/-- A report of a memory fault comes when nothing is being talked about, and ends the talk. -/
lemma callada_falta {m : Sesion} {x : Suceso} (hp : m.Permite x.1) (hx : Falta x) :
    m.punto = .nada ∧ (m.sigue x).Callada := by
  obtain ⟨e, r⟩ := x
  obtain ⟨men, rfl, ht⟩ := hx
  have hn : m.punto = .nada := by
    rcases hp with hd | ⟨hn, -⟩
    · exact absurd ht (dice_tipo hd).1
    · exact hn
  refine ⟨hn, ?_, ?_, rfl⟩ <;> simp [sigue, hn, Punto.trasDecir, Punto.termina, ht]

/-- **Nothing is said after a memory fault** in a session that is discreet from there on. -/
theorem calla_tras_falta {pre post : List Suceso} {x : Suceso} (h : Corrida (pre ++ x :: post))
    (hd : DiscretoTrasFalta (pre ++ x :: post)) (hx : Falta x) : ∀ y ∈ post, dicho y = none := by
  have hcal : (tras (pre ++ [x])).Callada := by
    rw [tras_concat]
    exact (callada_falta (h pre x post rfl) hx).2
  have hassoc : pre ++ x :: post = pre ++ [x] ++ post := by simp
  rw [hassoc] at h hd
  refine (hcal.run h fun l y rest hl => ?_).2.1
  subst hl
  refine hd (pre ++ [x] ++ l) y rest (by simp) ⟨pre, x, l, by simp, hx⟩

/-- No message says that the connection is closed. -/
lemma tipo_enviado {tr : List Suceso} (h : Corrida tr) {men : MenComun}
    (hm : .envia (.comun men) ∈ charla tr) : men.tipo ≠ conecCerrada := by
  obtain ⟨⟨e, r⟩, hx, hdicho⟩ := List.mem_filterMap.1 hm
  obtain ⟨pre, post, rfl⟩ := List.append_of_mem hx
  cases e with
  | enviarKernel men' =>
    obtain rfl : men' = .comun men := by simpa [dicho] using hdicho
    rcases h pre _ post rfl with hd | ⟨-, x, hx, ht⟩
    · exact (dice_tipo hd).2
    · obtain rfl : men = x := by simpa using hx
      rcases ht with ⟨ht, -⟩ | ⟨ht, -⟩ <;> rw [ht] <;> decide
  | _ => exact absurd hdicho (by simp [dicho])

/-- A pcb that has been sent has been handed back, but for the last message of that. -/
lemma pcb_enviado : ∀ {tr : List Suceso}, Corrida tr → ∀ {pcb : MenQuantumPcb},
    .envia (.quantumPcb pcb) ∈ charla tr → Devuelto (charla tr) ∨ (tras tr).punto = .cierre := by
  intro tr
  induction tr using List.reverseRecOn with
  | nil => exact fun _ _ hm => absurd hm (by simp [charla])
  | append_singleton tr x ih =>
    intro hc pcb hm
    obtain ⟨e, r⟩ := x
    obtain ⟨htr, hp⟩ := eachStep_concat.1 hc
    rw [charla_concat, List.mem_append] at hm
    rcases hm with hm | hm
    · -- it was sent before: the last message of a hand-over is the only thing that can come
      rcases ih htr hm with hd | hq
      · refine .inl (hd.mono ?_)
        rw [charla_concat]
        exact List.infix_append' [] _ _
      · cases e with
        | enviarKernel men =>
          rcases hp with hdice | ⟨hn, -⟩
          · refine .inl ?_
            rw [charla_concat]
            exact (ultimo_decir (rastro htr).ultimo hdice).2.2 hq
          · exact absurd (hn.symm.trans hq) (by decide)
        | recvKernel => exact absurd (hq ▸ hp : Punto.cierre.Escucha) id
        | analizar linea => exact absurd (hp.1.symm.trans hq) (by decide)
        | primitiva p s => exact absurd (hp.symm.trans hq) (by decide)
        | caida => exact r.elim
        | _ =>
          right
          rw [tras_concat]
          exact hq
    · -- it is sent now
      cases e with
      | enviarKernel men =>
        obtain rfl : .quantumPcb pcb = men := by simpa [dicho] using hm
        rcases hp with hdice | ⟨-, y, hy, -⟩
        · have hdec := ultimo_decir (rastro htr).ultimo hdice
          rw [charla_concat, tras_concat]
          refine (hdec.2.1 ?_).imp_right id
          revert hdice
          cases (tras tr).punto <;> first | exact fun h => h.elim | exact fun _ => rfl
        · cases hy
      | _ => exact absurd hm (by simp [dicho])

/-- A process that has not been handed back when nothing is being talked about still runs. -/
lemma enMarcha {tr : List Suceso} (h : Corrida tr) (hq : (tras tr).punto = .nada)
    (hd : ¬ Devuelto (charla tr)) : EnMarcha (charla tr) := by
  refine ⟨fun men hm => ⟨tipo_enviado h hm, ?_, ?_, ?_⟩, fun pcb hm => ?_, fun men hm => ⟨?_, ?_⟩⟩
  · exact fun ht => hd (.aviso men hm (.inl ht))
  · exact fun ht => hd (.aviso men hm (.inr (.inl ht)))
  · exact fun ht => hd (.aviso men hm (.inr (.inr ht)))
  · exact hd ((pcb_enviado h hm).resolve_right (by simp [hq]))
  · exact fun ht => hd (.muerte men hm (.inl ht))
  · exact fun ht => hd (.muerte men hm (.inr ht))

end Sesion

variable {stringTrim : List Byte → List Byte} {analizadorLinea : Option (List Byte) → Analisis}

/-- **The first report of a memory fault is the last thing a CPU says** in a dispatch that is discreet
from there on. -/
lemma falta_ultima {s : Estado} {men : MenQuantumPcb} {pre post : List Suceso} {x : Suceso}
    {t : Dialog Evento Evento.Respuesta (Unit × Estado)} (h : Vida stringTrim analizadorLinea s)
    (ht : Goes (despacho stringTrim analizadorLinea men s) (pre ++ x :: post) t)
    (hd : DiscretoTrasFalta (pre ++ x :: post)) (hx : Falta x) : ∀ y ∈ post, dicho y = none :=
  Sesion.calla_tras_falta (h.corrida ht) hd hx

end Ansisop.Cpu

namespace Ansisop.Kernel

open Ansisop.Sockets Ansisop.Lib Hilo
open Ansisop.Cpu (Dicho EnMarcha)

/-! ### The kernel keeps the CPU -/

/-- The record of the CPU of the socket is what it was. -/
def Retiene (soc : ℤ) (k k' : Estado) : Prop :=
  ∀ cpu, cpu.idProgExec ≠ 0 → k.listaCpu.find? (fun unCpu => unCpu.socCpu == soc) = some cpu →
    k'.listaCpu.find? (fun unCpu => unCpu.socCpu == soc) = some cpu

lemma find?_eraseP {α : Type} {p q : α → Bool} {a : α} (hq : q a = false) :
    ∀ {l : List α}, l.find? p = some a → (l.eraseP q).find? p = some a
  | [], h => absurd h (by simp)
  | b :: l, h => by
    cases hb : p b with
    | true =>
      obtain rfl : b = a := by simpa [hb] using h
      rw [List.eraseP_cons_of_neg (by simp [hq]), List.find?_cons_of_pos hb]
    | false =>
      rw [List.find?_cons_of_neg (by simp [hb])] at h
      cases hqb : q b with
      | true => rwa [List.eraseP_cons_of_pos hqb]
      | false =>
        rw [List.eraseP_cons_of_neg (by simp [hqb]), List.find?_cons_of_neg (by simp [hb])]
        exact find?_eraseP hq h

section Retiene

variable {k k' k₁ : Estado} {io io' : Bandeja} {soc soc' : ℤ} {cpu : Cpu} {x : PcbOtros}

lemma Retiene.of_eq (h : k'.listaCpu = k.listaCpu) : Retiene soc k k' := by
  intro cpu _ hf
  rwa [h]

lemma Retiene.trans {k₂ : Estado} (h : Retiene soc k k₁) (h' : Retiene soc k₁ k₂) :
    Retiene soc k k₂ := fun cpu h0 hf => h' cpu h0 (h cpu h0 hf)

lemma retiene_append {l : List Cpu} (h : k'.listaCpu = k.listaCpu ++ l) : Retiene soc k k' := by
  intro cpu _ hf
  rw [h, List.find?_append, hf]
  rfl

/-- A record that is not that of the socket, or is free, is taken off the list. -/
lemma retiene_eraseP {q : Cpu → Bool} (h : k'.listaCpu = k.listaCpu.eraseP q)
    (hq : ∀ cpu, cpu.idProgExec ≠ 0 →
      k.listaCpu.find? (fun unCpu => unCpu.socCpu == soc) = some cpu → q cpu = false) :
    Retiene soc k k' := by
  intro cpu h0 hf
  rw [h]
  exact find?_eraseP (hq cpu h0 hf) hf

lemma saca_lista {c : Cola} {p : PcbOtros → Bool} (h : k.Saca c p x k') :
    k'.listaCpu = k.listaCpu := by
  obtain ⟨pre, post, -, -, -, rfl⟩ := h
  rfl

lemma buscaExec_lista {id : ℤ} {r : Option PcbOtros} (h : k.BuscaExec id r k') :
    k'.listaCpu = k.listaCpu := by
  obtain ⟨x, -, hs⟩ | ⟨-, -, rfl⟩ := h
  · exact saca_lista hs
  · rfl

lemma desconecta_lista {c : Cola} (h : k.Desconecta c soc' k') : k'.listaCpu = k.listaCpu := by
  obtain ⟨x, k₁, hs, rfl⟩ | ⟨-, rfl⟩ := h
  · exact (saca_lista hs :)
  · rfl

lemma despierta_lista {p : PcbOtros → Bool}
    (h : (∃ x k₁, k.Saca .block p x k₁ ∧ k' = k₁.encolarReady (some x)) ∨
      (k.NoHay .block p ∧ k' = k)) : k'.listaCpu = k.listaCpu := by
  obtain ⟨x, k₁, hs, rfl⟩ | ⟨-, rfl⟩ := h
  · exact (saca_lista hs :)
  · rfl

variable (hne : soc' ≠ soc)

include hne

lemma tomaCpu_retiene (h : k.TomaCpu soc' cpu k') : Retiene soc k k' := by
  obtain ⟨-, rfl⟩ := h
  refine retiene_eraseP rfl fun c _ hf => ?_
  have hc : c.socCpu = soc := by simpa using List.find?_some hf
  simpa [hc] using hne.symm

lemma tomaProceso_retiene (h : k.TomaProceso soc' cpu x k') : Retiene soc k k' := by
  obtain ⟨k₁, ht, hs⟩ := h
  exact (tomaCpu_retiene hne ht).trans (.of_eq (saca_lista hs))

lemma expulsa_retiene {tipo : ℤ} (h : k.Expulsa tipo soc' k') : Retiene soc k k' := by
  obtain ⟨cpu, x, k₁, ht, rfl⟩ := h
  exact (tomaProceso_retiene hne ht).trans (retiene_append rfl)

lemma bloquea_retiene {m : MenQuantumPcb} {cierre : MenComun}
    (h : k.Bloquea soc' cpu x m cierre k') : Retiene soc k k' := by
  obtain ⟨k₁, ht, rfl⟩ := h
  refine (tomaProceso_retiene hne ht).trans ?_
  split
  · exact retiene_append rfl
  · exact .of_eq rfl

/-- A message of another CPU. -/
lemma menCpu_retiene {u : Unit} (h : correr (administrarMenCpus soc') k io = some ((u, k'), io')) :
    Retiene soc k k' := by
  obtain ⟨men, io₁, t, -, -, hm, hr⟩ := administrarMenCpus_some h
  cases hm with
  | conecCerrada =>
    obtain ⟨cpu, k₁, ht, ⟨-, r, k₂, hb, rfl⟩ | ⟨-, -, rfl⟩⟩ := conecCerradaCpu_some hr
    · exact (tomaCpu_retiene hne ht).trans (.of_eq (buscaExec_lista hb :))
    · exact (tomaCpu_retiene hne ht :)
  | finQuantum =>
    obtain ⟨-, cpu, k₁, r, k₂, ht, hb, rfl⟩ | ⟨-, cpu, x, m, k₁, ht, -, rfl⟩ := finQuantum_some hr
    · exact (tomaCpu_retiene hne ht).trans (.of_eq (buscaExec_lista hb :))
    · exact (tomaProceso_retiene hne ht).trans (retiene_append rfl)
  | finEjecucion => exact expulsa_retiene hne (finEjecucion_some hr).1
  | segmenFault => exact expulsa_retiene hne (finEjecucion_some hr).1
  | imprimirTexto | imprimirValor =>
    obtain ⟨rfl, -⟩ := imprimir_some hr
    exact .of_eq rfl
  | obtenerValor =>
    obtain ⟨clave, -, ⟨-, he⟩ | ⟨valor, -, rfl, -⟩⟩ := obtenerValorCompartida_some hr
    · exact expulsa_retiene hne he
    · exact .of_eq rfl
  | grabarValor =>
    obtain ⟨clave, -, ⟨-, he⟩ | ⟨-, dato, s, -, -, rfl⟩⟩ := grabarValorCompartida_some hr
    · exact expulsa_retiene hne he
    · exact .of_eq rfl
  | wait =>
    obtain ⟨clave, -, ⟨-, he⟩ | ⟨sem, -, ⟨-, rfl⟩ | ⟨-, cpu, x, m, cierre, k₁, hb, -, rfl⟩⟩⟩ :=
      wait_some hr
    · exact expulsa_retiene hne he
    · exact .of_eq rfl
    · exact (bloquea_retiene hne hb :)
  | signal =>
    obtain ⟨clave, -, ⟨-, he⟩ | ⟨sem, -, ⟨-, rfl⟩ | ⟨id, l, k₁, -, rfl, hd⟩⟩⟩ := signal_some hr
    · exact expulsa_retiene hne he
    · exact .of_eq rfl
    · exact .of_eq (despierta_lista hd :)
  | ioId =>
    obtain ⟨disp, unidades, dato, cpu, x, m, cierre, k₁, -, -, -, hb, -, rfl⟩ := enviarIo_some hr
    exact (bloquea_retiene hne hb :)
  | ninguno =>
    obtain ⟨-, rfl, rfl⟩ := correr_some rfl hr
    exact .of_eq rfl

end Retiene

/-! ### What a CPU is told when its process is ended -/

section Muerte

variable {k k' : Estado} {io io' : Bandeja} {soc : ℤ} {men : MenComun} {clave : List Byte} {u : Unit}

lemma wait_inex (h : correr (wait soc men) k io = some ((u, k'), io'))
    (hc : cadena men.dato = some clave) (hn : k.diccSem clave = none) :
    .enviado soc (.comun (crearMenComun TipoDatos.semInex [])) ∈ io'.salida := by
  simp only [wait, correr_lock, correr_bind, Option.bind_some, hc, deref, Option.elim, correr_pure,
    correr_get, hn] at h
  rw [Option.bind_eq_some_iff] at h
  obtain ⟨⟨⟨_, k₁⟩, io₁⟩, hl, h₁⟩ := h
  obtain ⟨-, rfl⟩ := llamadaErronea_some hl
  obtain ⟨-, rfl, rfl⟩ := correr_some rfl h₁
  simp

lemma signal_inex (h : correr (signal soc men) k io = some ((u, k'), io'))
    (hc : cadena men.dato = some clave) (hn : k.diccSem clave = none) :
    .enviado soc (.comun (crearMenComun TipoDatos.semInex [])) ∈ io'.salida := by
  simp only [signal, correr_lock, correr_bind, Option.bind_some, hc, deref, Option.elim, correr_pure,
    correr_get, hn] at h
  rw [Option.bind_eq_some_iff] at h
  obtain ⟨⟨⟨_, k₁⟩, io₁⟩, hl, h₁⟩ := h
  obtain ⟨-, rfl⟩ := llamadaErronea_some hl
  obtain ⟨-, rfl, rfl⟩ := correr_some rfl h₁
  simp

lemma obtenerValorCompartida_inex
    (h : correr (obtenerValorCompartida soc men) k io = some ((u, k'), io'))
    (hc : cadena men.dato = some clave) (hn : k.diccVar clave = none) :
    .enviado soc (.comun (crearMenComun TipoDatos.varInex [])) ∈ io'.salida := by
  simp only [obtenerValorCompartida, correr_lock, correr_bind, Option.bind_some, hc, deref,
    Option.elim, correr_pure, correr_get, hn] at h
  rw [Option.bind_eq_some_iff] at h
  obtain ⟨⟨⟨_, k₁⟩, io₁⟩, hl, h₁⟩ := h
  obtain ⟨-, rfl⟩ := llamadaErronea_some hl
  obtain ⟨-, rfl, rfl⟩ := correr_some rfl h₁
  simp

lemma grabarValorCompartida_inex
    (h : correr (grabarValorCompartida soc men) k io = some ((u, k'), io'))
    (hc : cadena men.dato = some clave) (hn : k.diccVar clave = none) :
    .enviado soc (.comun (crearMenComun TipoDatos.varInex [])) ∈ io'.salida := by
  simp only [grabarValorCompartida, correr_lock, correr_bind, Option.bind_some, hc, deref,
    Option.elim, correr_pure, correr_get, hn, correr_unlock] at h
  obtain ⟨-, rfl⟩ := llamadaErronea_some h
  simp

variable {c : List Dicho}

/-- **A CPU keeps its process** through a message of its own, when neither that nor the answers say
that the process stops. -/
lemma menCpu_enMarcha (h : correr (administrarMenCpus soc) k io = some ((u, k'), io'))
    (hm : EnMarcha c) (hoye : ∀ men ∈ io.entrada, .envia men ∈ c)
    (hdice : ∀ men, .enviado soc (.comun men) ∈ io'.salida → .recibe men ∈ c) :
    k'.listaCpu = k.listaCpu := by
  obtain ⟨men, io₁, t, he, -, ht, hr⟩ := administrarMenCpus_some h
  obtain ⟨hcerrada, hquantum, hfin, hfalta⟩ := hm.tipos men (hoye _ (by rw [he]; simp))
  have hpcb : ∀ pcb, .quantumPcb pcb ∉ io₁.entrada := fun pcb hp =>
    hm.pcb pcb (hoye _ (by rw [he]; exact List.mem_cons_of_mem _ hp))
  have hinex : ∀ tipo : ℤ, .enviado soc (.comun (crearMenComun tipo [])) ∈ io'.salida →
      tipo ≠ TipoDatos.varInex ∧ tipo ≠ TipoDatos.semInex := fun tipo hs => hm.vive _ (hdice _ hs)
  cases ht with
  | conecCerrada ht => exact absurd ht hcerrada
  | finQuantum ht => exact absurd ht hquantum
  | finEjecucion ht => exact absurd ht hfin
  | segmenFault ht => exact absurd ht hfalta
  | imprimirTexto | imprimirValor =>
    obtain ⟨rfl, -⟩ := imprimir_some hr
    rfl
  | obtenerValor =>
    obtain ⟨clave, hc, ⟨hn, -⟩ | ⟨valor, -, rfl, -⟩⟩ := obtenerValorCompartida_some hr
    · exact absurd rfl (hinex _ (obtenerValorCompartida_inex hr hc hn)).1
    · rfl
  | grabarValor =>
    obtain ⟨clave, hc, ⟨hn, -⟩ | ⟨-, dato, s, -, -, rfl⟩⟩ := grabarValorCompartida_some hr
    · exact absurd rfl (hinex _ (grabarValorCompartida_inex hr hc hn)).1
    · rfl
  | wait =>
    obtain ⟨clave, hc, ⟨hn, -⟩ | ⟨sem, -, ⟨-, rfl⟩ | ⟨-, cpu, x, m, cierre, k₁, -, he, rfl⟩⟩⟩ :=
      wait_some hr
    · exact absurd rfl (hinex _ (wait_inex hr hc hn)).2
    · rfl
    · exact absurd (by rw [he]; simp) (hpcb m)
  | signal =>
    obtain ⟨clave, hc, ⟨hn, -⟩ | ⟨sem, -, ⟨-, rfl⟩ | ⟨id, l, k₁, -, rfl, hd⟩⟩⟩ := signal_some hr
    · exact absurd rfl (hinex _ (signal_inex hr hc hn)).2
    · rfl
    · exact (despierta_lista hd :)
  | ioId =>
    obtain ⟨disp, unidades, dato, cpu, x, m, cierre, k₁, -, -, -, -, he, rfl⟩ := enviarIo_some hr
    exact absurd (by rw [he]; simp) (hpcb m)
  | ninguno =>
    obtain ⟨-, rfl, rfl⟩ := correr_some rfl hr
    rfl

end Muerte

/-! ### Runs -/

section Runs

variable {metadata : List Byte → MetadataProgram} {k k' : Estado} {soc : ℤ} {c : List Dicho}
  {cpu : Cpu}

/-- In a step for the CPU of the socket, the kernel hears and tells only what is in the
conversation. -/
def EnCharla (soc : ℤ) (c : List Dicho) (k : Estado) (p : Paso) : Prop :=
  ∀ entrada, p = .menCpu soc entrada → (∀ men ∈ entrada, .envia men ∈ c) ∧
    ∀ r, correr (administrarMenCpus soc) k ⟨entrada, []⟩ = some r →
      ∀ men, .enviado soc (.comun men) ∈ r.2.salida → .recibe men ∈ c

/-- A step that the outside promises, in which the CPU of the socket says only what is in the
conversation and the program that it runs does not disconnect. -/
def EnSesion (soc : ℤ) (cpu : Cpu) (c : List Dicho) (k : Estado) (p : Paso) : Prop :=
  Admitido k p ∧ EnCharla soc c k p ∧ p ≠ .progCerrado cpu.socProg

/-- One step keeps the CPU. -/
lemma retiene_hacer {p : Paso} (hm : EnMarcha c) (ha : EnSesion soc cpu c k p)
    (hp : p.hacer metadata k = some k') (h0 : cpu.idProgExec ≠ 0)
    (hf : k.listaCpu.find? (fun unCpu => unCpu.socCpu == soc) = some cpu) :
    k'.listaCpu.find? (fun unCpu => unCpu.socCpu == soc) = some cpu := by
  obtain ⟨-, hcharla, hprog⟩ := ha
  obtain ⟨⟨⟨u, _⟩, io'⟩, hr, rfl⟩ := Option.map_eq_some_iff.1 hp
  have hlista : ∀ {k₁ : Estado}, Retiene soc k k₁ →
      k₁.listaCpu.find? (fun unCpu => unCpu.socCpu == soc) = some cpu := fun h => h cpu h0 hf
  cases p with
  | progCerrado soc' =>
    have hne : cpu.socProg ≠ soc' := fun he => hprog (by rw [he])
    obtain ⟨k₁, k₂, k₃, k₄, h₁, h₂, h₃, h₄, hcpu⟩ := administrarProgCerrado_some hr
    have hk₄ : k₄.listaCpu = k.listaCpu := (desconecta_lista h₄).trans
      ((desconecta_lista h₃).trans ((desconecta_lista h₂).trans (desconecta_lista h₁ :)))
    have herase : (k₄.listaCpu.eraseP fun unCpu => unCpu.socProg == soc').find?
        (fun unCpu => unCpu.socCpu == soc) = some cpu :=
      find?_eraseP (by simpa using hne) (by rwa [hk₄])
    obtain ⟨cpu', -, rfl⟩ | ⟨-, rfl⟩ := hcpu <;> exact herase
  | newScript basura soc' men entrada =>
    obtain rfl | ⟨pcb, peso, -, rfl⟩ := administrarNewScript_some hr <;> exact hf
  | newCpu soc' =>
    obtain ⟨-, rfl, rfl⟩ := correr_some rfl hr
    exact hlista (retiene_append rfl)
  | menCpu soc' entrada =>
    by_cases hne : soc' = soc
    · subst hne
      obtain ⟨hoye, hdice⟩ := hcharla _ rfl
      rwa [menCpu_enMarcha hr hm hoye fun men hs => hdice _ hr men hs]
    · exact hlista (menCpu_retiene hne hr)
  | newReady =>
    obtain ⟨-, -, ⟨x, k₁, hs, rfl⟩ | ⟨-, rfl⟩⟩ := manejadorNewReady_some hr
    · exact hlista (.of_eq (saca_lista hs :))
    · exact hf
  | readyExec =>
    obtain ⟨-, -, k₁, rfl, ⟨-, rfl⟩ | ⟨x, l, cpu', -, -, rfl⟩⟩ := manejadorReadyExec_some hr
    all_goals
      have hlibre : Retiene soc k
          (k.conCpus (k.listaCpu.eraseP fun unCpu => unCpu.idProgExec == 0)) :=
        retiene_eraseP rfl fun cpu h0 _ => by simpa using h0
    · exact hlista (hlibre.trans (.of_eq rfl))
    · exact hlista (hlibre.trans (retiene_append rfl))
  | exit entrada =>
    obtain ⟨-, ⟨-, rfl⟩ | ⟨x, l, -, rfl⟩⟩ := manejadorExit_some hr <;> exact hf
  | ioTomar disp =>
    obtain ⟨x, p, l, n, -, -, -, rfl⟩ := manejadorIOTomar_some hr
    exact hf
  | ioServir disp =>
    obtain ⟨x, p, k₁, -, -, hd, rfl⟩ := manejadorIOServir_some hr
    exact hlista (.of_eq (despierta_lista hd :))

/-- **The kernel keeps a CPU with its process** in every run in which the conversation with the CPU
does not say that the process stops. -/
lemma retiene_run (hm : EnMarcha c) (h0 : cpu.idProgExec ≠ 0) {pasos : List Paso}
    (hf : k.listaCpu.find? (fun unCpu => unCpu.socCpu == soc) = some cpu)
    (ha : Along (Paso.hacer metadata) (EnSesion soc cpu c) pasos k)
    (hr : run (Paso.hacer metadata) pasos k = some k') :
    k'.listaCpu.find? (fun unCpu => unCpu.socCpu == soc) = some cpu :=
  run_invariant
    (I := fun k : Estado => k.listaCpu.find? (fun unCpu => unCpu.socCpu == soc) = some cpu)
    (fun _ _ _ hf ha hp => retiene_hacer hm ha hp h0 hf) hf ha hr

/-- A search in a queue finds what is there. -/
lemma queueRotar_hay (io : Bandeja) {q : Cola} {p : PcbOtros → Bool} {x : PcbOtros}
    (hn : none ∉ k.colas q) (hx : some x ∈ k.colas q) (hp : p x = true) :
    ∃ y k₁, correr (queueRotar q p) k io = some ((some y, k₁), io) ∧ k.Saca q p y k₁ := by
  obtain ⟨r, k₁, hcorre⟩ := queueRotar_isSome io p hn
  obtain ⟨-, ⟨y, hy, hs⟩ | ⟨-, hno, -⟩⟩ := queueRotar_some hcorre
  · exact ⟨y, _, hy ▸ hcorre, hs⟩
  · obtain ⟨z, hz, hpz⟩ := hno _ hx
    obtain rfl := Option.some.inj hz
    exact absurd hp (by simp [hpz])

/-- The record of a CPU that runs a process names one in execution, which is found. -/
lemma Conservado.ejecutando (hk : Conservado k)
    (hf : k.listaCpu.find? (fun unCpu => unCpu.socCpu == soc) = some cpu)
    (h0 : cpu.idProgExec ≠ 0) :
    ∃ x k₁, some x ∈ k.colas .exec ∧ x.pcb.id = cpu.idProgExec ∧ k.TomaProceso soc cpu x k₁ := by
  have hocupada : cpu.idProgExec ∈ k.ocupadas.map Cpu.idProgExec :=
    List.mem_map_of_mem (List.mem_filter.2 ⟨List.mem_of_find?_eq_some hf, by simpa using h0⟩)
  obtain ⟨y, hy, hmap⟩ := List.mem_filterMap.1 (hk.exec.mem_iff.1 hocupada)
  obtain ⟨x, rfl, hid⟩ := Option.map_eq_some_iff.1 hmap
  obtain ⟨z, k₁, -, hs⟩ := queueRotar_hay ⟨[], []⟩
    (k := k.conCpus (k.listaCpu.eraseP fun unCpu => unCpu.socCpu == soc))
    (p := fun x => cpu.idProgExec == x.pcb.id) (hk.sinNulos .exec) hy (by simp [hid])
  have hz : some z ∈ k.colas .exec ∧ z.pcb.id = cpu.idProgExec := by
    obtain ⟨pre, post, hq, -, hz, -⟩ := hs
    rw [show k.colas .exec = _ from hq]
    exact ⟨by simp, (beq_iff_eq.1 hz).symm⟩
  exact ⟨z, k₁, hz.1, hz.2, _, ⟨hf, rfl⟩, hs⟩

/-- **`fin_ejecucion` finds the CPU and its process** when the CPU runs one. -/
lemma finEjecucion_ocupada (tipo : ℤ) (io : Bandeja) (hk : Conservado k)
    (hf : k.listaCpu.find? (fun unCpu => unCpu.socCpu == soc) = some cpu)
    (h0 : cpu.idProgExec ≠ 0) :
    ∃ x k₁, some x ∈ k.colas .exec ∧ x.pcb.id = cpu.idProgExec ∧
      correr (finEjecucion tipo soc) k io = some (((), k₁), io) := by
  obtain ⟨x, k₁, hx, hid, k₀, ⟨-, rfl⟩, hs⟩ := hk.ejecutando hf h0
  refine ⟨x, (k₁.encolarExit { x with tipoFinEjecucion := tipo }).volverCpu cpu, hx, hid, ?_⟩
  simp only [finEjecucion, getCpuSocCpuRemove, getPcbOtrosExec, correr_bind, correr_lock,
    correr_unlock, correr_listaCpuRemove, Option.bind_some, hf, deref, Option.elim, correr_pure,
    queueRotar_saca io hs, correr_pasarPcbExit_some, correr_liberarCpu]

end Runs

/-- A report of a memory fault is given to `fin_ejecucion`. -/
lemma correr_segmenFault {soc : ℤ} {falta : MenComun} {k : Estado} {l : List Mensaje}
    {s : List Salida} (ht : falta.tipo = TipoDatos.segmenFault) :
    correr (administrarMenCpus soc) k ⟨.comun falta :: l, s⟩ =
      correr (finEjecucion TipoDatos.segmenFault soc) k ⟨l, s⟩ := by
  have hrecv : correr (recvComun soc) k ⟨.comun falta :: l, s⟩ = some ((falta, k), ⟨l, s⟩) := rfl
  rw [administrarMenCpus, correr_bind, hrecv, Option.bind_some, ht, if_neg (by decide),
    if_neg (by decide), if_neg (by decide), if_pos rfl]

/-! ### Both -/

/-- A kernel that has given the CPU of the socket the process of the record `cpu`, and has gone on to
`k` while the conversation with the CPU was `c`. -/
def Despachado (metadata : List Byte → MetadataProgram) (soc : ℤ) (cpu : Cpu) (c : List Dicho)
    (k : Estado) : Prop :=
  ∃ config socUmv pasos k₀ pasos',
    Along (Paso.hacer metadata) Admitido pasos (inicial config socUmv) ∧
      run (Paso.hacer metadata) pasos (inicial config socUmv) = some k₀ ∧
      k₀.listaCpu.find? (fun unCpu => unCpu.socCpu == soc) = some cpu ∧ cpu.idProgExec ≠ 0 ∧
      Along (Paso.hacer metadata) (EnSesion soc cpu c) pasos' k₀ ∧
      run (Paso.hacer metadata) pasos' k₀ = some k

/-- The kernel takes the report as it should: the record of the CPU names a process in execution,
which ends, and the CPU is free. -/
def TomaFalta (metadata : List Byte → MetadataProgram) (soc : ℤ) (cpu : Cpu) (falta : MenComun)
    (k : Estado) : Prop :=
  ∃ x k', k.listaCpu.find? (fun unCpu => unCpu.socCpu == soc) = some cpu ∧
    some x ∈ k.colas .exec ∧ x.pcb.id = cpu.idProgExec ∧
    (Paso.menCpu soc [.comun falta]).hacer metadata k = some k' ∧
    k.Expulsa TipoDatos.segmenFault soc k'

lemma Despachado.tomaFalta {metadata : List Byte → MetadataProgram} {soc : ℤ} {cpu : Cpu}
    {c : List Dicho} {k : Estado} {falta : MenComun} (h : Despachado metadata soc cpu c k)
    (hm : EnMarcha c) (ht : falta.tipo = TipoDatos.segmenFault) :
    TomaFalta metadata soc cpu falta k := by
  obtain ⟨config, socUmv, pasos, k₀, pasos', ha, hr, hf, h0, ha', hr'⟩ := h
  obtain ⟨v₀, hv₀, hb₀, -⟩ := correr_refleja (I := fun _ => True) (fun _ _ => id)
    (fun _ _ _ _ _ _ _ _ => trivial) trivial ha hr
  -- the laws of the moves go on from the dispatch
  obtain ⟨v, hv, hb⟩ := run_invariant (I := fun k => ∃ v, Refleja k v ∧ v.Bien)
    (fun k p k' ⟨v, hv, hb⟩ hc hp => by
      obtain ⟨v', hmu, hv'⟩ := hv.hacer hb hc.1 hp
      exact ⟨v', hv', Mueve.bien hmu hb⟩) ⟨v₀, hv₀, hb₀⟩ ha' hr'
  have hcpu := retiene_run hm h0 hf ha' hr'
  obtain ⟨x, k', hx, hid, hfin⟩ := finEjecucion_ocupada TipoDatos.segmenFault
    ⟨[], []⟩ (hv.conservado hb) hcpu h0
  refine ⟨x, k', hcpu, hx, hid, ?_, (finEjecucion_some hfin).1⟩
  rw [Paso.hacer, Paso.hilo, Paso.entrada, correr_segmenFault ht, hfin]
  rfl

section Falta

open Ansisop.Cpu

/-- **A memory fault is reported once**, and ends the conversation, in every dispatch that is discreet
from the first report on; and unless the process had been handed back before, the kernel finds the
process of the CPU in execution, and ends it. -/
theorem falta_unaVez {stringTrim : List Byte → List Byte}
    {analizadorLinea : Option (List Byte) → Analisis} {s : Cpu.Estado} {men : MenQuantumPcb}
    {pre post : List Suceso} {falta : MenComun} {r : Unit}
    {t : Dialog Cpu.Evento Cpu.Evento.Respuesta (Unit × Cpu.Estado)}
    (h : Vida stringTrim analizadorLinea s)
    (ht : Dialog.Goes (despacho stringTrim analizadorLinea men s)
      (pre ++ ⟨.enviarKernel (.comun falta), r⟩ :: post) t)
    (hd : DiscretoTrasFalta (pre ++ ⟨.enviarKernel (.comun falta), r⟩ :: post))
    (hf : falta.tipo = TipoDatos.segmenFault) :
    (∀ y ∈ pre ++ post, ¬ Falta y) ∧ (∀ y ∈ post, dicho y = none) ∧
      (¬ Devuelto (charla pre) → ∀ metadata soc cpu k,
        Despachado metadata soc cpu (charla pre) k → TomaFalta metadata soc cpu falta k) := by
  have hcorrida := h.corrida ht
  have hx : Falta ⟨.enviarKernel (.comun falta), r⟩ := ⟨falta, rfl, hf⟩
  have hcalla := Sesion.calla_tras_falta hcorrida hd hx
  refine ⟨fun y hy hfy => ?_, hcalla, fun hdev metadata soc cpu k hk => hk.tomaFalta ?_ hf⟩
  · rcases List.mem_append.1 hy with hy | hy
    · -- after an earlier report this one could not have been made
      obtain ⟨l, l', rfl⟩ := List.append_of_mem hy
      rw [List.append_assoc, List.cons_append] at hcorrida hd
      have hno := Sesion.calla_tras_falta hcorrida hd hfy _
        (List.mem_append_right _ (List.mem_cons_self ..))
      exact absurd hno (by simp [dicho])
    · obtain ⟨e, r⟩ := y
      obtain ⟨men, rfl, -⟩ := hfy
      exact absurd (hcalla _ hy) (by simp [dicho])
  · have hpre : Sesion.Corrida pre := EachStep.take hcorrida
    have hp : (Sesion.tras pre).Permite (.enviarKernel (.comun falta)) := hcorrida pre _ post rfl
    exact Sesion.enMarcha hpre
      (Sesion.callada_falta (x := ⟨.enviarKernel (.comun falta), r⟩) hp hx).1 hdev

/-! ### Two dispatches -/

/-- A UMV that takes no write. -/
def sinEscritura : (e : Cpu.Evento) → Unit → Option (e.Respuesta × Unit)
  | .pedirUmv men, u =>
    if men.tipo = TipoDatos.almBytes then some (⟨0, TipoDatos.segmenFault, []⟩, u)
    else Cpu.unaInstruccion (.pedirUmv men) u
  | e, u => Cpu.unaInstruccion e u

/-- The dispatch of `unPcb` with that UMV, and the actions in it. -/
def despachoSinEscritura (linea : Analisis) : Option ((Unit × Cpu.Estado) × Unit × List Suceso) :=
  Dialog.interp (Dialog.logged sinEscritura)
    (despacho id (fun _ => linea) ⟨TipoDatos.pcbYQuantum, 1, unPcb⟩ (arranque unPcb)) ((), [])

/-- The report of `unPcb`. -/
def unaFalta : MenComun := crearMenComun TipoDatos.segmenFault [55, 0]

/-- A line that assigns to a variable. -/
def unaAsignacion : Analisis := .ask (.asignar 0 1) fun _ => .ret ()

/-- What is done before the report in the dispatch of that line. -/
def antesDeFalta : List Suceso := ((despachoSinEscritura unaAsignacion).elim [] fun r => r.2.2).take 7

lemma despachoSinEscritura_goes : ∃ s', Dialog.Goes
    (despacho id (fun _ => unaAsignacion) ⟨TipoDatos.pcbYQuantum, 1, unPcb⟩ (arranque unPcb))
    (antesDeFalta ++ ⟨.enviarKernel (.comun unaFalta), ()⟩ ::
      [⟨.enviarUmv ⟨TipoDatos.cambioPA, 0, 0, 0, []⟩, ()⟩]) (.ret ((), s')) := by
  have hrun : ∃ s', despachoSinEscritura unaAsignacion = some (((), s'), (),
      antesDeFalta ++ ⟨.enviarKernel (.comun unaFalta), ()⟩ ::
        [⟨.enviarUmv ⟨TipoDatos.cambioPA, 0, 0, 0, []⟩, ()⟩]) := ⟨_, rfl⟩
  obtain ⟨s', hs⟩ := hrun
  obtain ⟨l, hl, hg⟩ := Dialog.goes_of_interp sinEscritura hs
  exact ⟨s', hl ▸ hg⟩

lemma discreto_ultimo {pre : List Suceso} {x y : Suceso} (hpre : charla pre = [])
    (hy : ∀ p, Discreta p y) : DiscretoTrasFalta (pre ++ x :: [y]) := by
  have hno : ∀ l l', l ++ l' = pre → ¬ SomeStep (fun _ => Falta) l := by
    rintro l l' rfl ⟨a, ⟨e, r⟩, b, rfl, men, rfl, -⟩
    exact absurd hpre (by simp [charla, dicho])
  have hassoc : pre ++ x :: [y] = pre ++ [x] ++ [y] := by simp
  rw [DiscretoTrasFalta, DiscretaTras, hassoc, eachStep_concat, eachStep_concat]
  refine ⟨⟨fun l z l' hl h => absurd h (hno l (z :: l') hl.symm), ?_⟩, fun _ => hy _⟩
  exact fun h => absurd h (hno pre [] (by simp))

/-- An assignment is answered with a fault, and the line ends. -/
theorem falta_unaVez_asignar : ∃ pre post s',
    Dialog.Goes (despacho id (fun _ => unaAsignacion) ⟨TipoDatos.pcbYQuantum, 1, unPcb⟩
      (arranque unPcb)) (pre ++ ⟨.enviarKernel (.comun unaFalta), ()⟩ :: post) (.ret ((), s')) ∧
    (∀ y ∈ pre ++ post, ¬ Falta y) ∧ (∀ y ∈ post, dicho y = none) ∧
    ∃ k, TomaFalta unaInstruccion 5 ⟨5, 7, 1⟩ unaFalta k := by
  obtain ⟨s', hg⟩ := despachoSinEscritura_goes
  have hpre : charla antesDeFalta = [] := by decide
  obtain ⟨hunica, hcalla, hkernel⟩ := falta_unaVez (.inicio unPcb) hg
    (discreto_ultimo hpre fun _ => trivial) rfl
  have hdev : ¬ Devuelto (charla antesDeFalta) := by
    rw [hpre]
    rintro (⟨_, h, _⟩ | ⟨_, h, _⟩ | ⟨_, _, _, _, h, _⟩ | ⟨_, _, h, _⟩)
    · exact absurd h (by simp)
    · exact absurd h (by simp)
    · exact absurd (List.infix_nil.1 h) (by simp)
    · exact absurd (List.infix_nil.1 h) (by simp)
  exact ⟨_, _, s', hg, hunica, hcalla, _, hkernel hdev unaInstruccion 5 ⟨5, 7, 1⟩ _
    ⟨unLugar, 4, vidaHastaExec, _, [], vidaHastaExec_guarda.mono fun _ _ h => h.1.1, rfl, rfl,
      by decide, trivial, rfl⟩⟩

/-- A call saves the context and then the address of its result: both writes are answered with a
fault and both are reported, and the second report finds no process on the CPU. -/
theorem falta_dosVeces : ∃ analizadorLinea men s s' tr, Vida id analizadorLinea s ∧
    Dialog.Goes (despacho id analizadorLinea men s) tr (.ret ((), s')) ∧
    charla tr = [.envia (.comun unaFalta), .envia (.comun unaFalta)] ∧
    ∃ k k', run (Paso.hacer unaInstruccion) vidaHastaExec (inicial unLugar 4) = some k ∧
      (Paso.menCpu 5 [.comun unaFalta]).hacer unaInstruccion k = some k' ∧
      (Paso.menCpu 5 [.comun unaFalta]).hacer unaInstruccion k' = none := by
  have hcharla : (despachoSinEscritura (.ask (.llamarConRetorno (bytes "f") 0) fun _ => .ret ())).map
      (fun r => charla r.2.2) = some [.envia (.comun unaFalta), .envia (.comun unaFalta)] := by decide
  obtain ⟨⟨⟨_, s'⟩, _, tr⟩, hr, htr⟩ := Option.map_eq_some_iff.1 hcharla
  obtain ⟨l, hl, hg⟩ := Dialog.goes_of_interp sinEscritura hr
  rw [List.nil_append] at hl
  subst hl
  exact ⟨_, _, _, s', _, .inicio unPcb, hg, htr, _, _, rfl, rfl, rfl⟩

end Falta

end Ansisop.Kernel
