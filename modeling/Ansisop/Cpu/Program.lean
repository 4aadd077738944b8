import Ansisop.Cpu.State

/-!
The functions of `cpu.c` that run while a process is on the CPU: the primitives, the helpers they
share, and the body of the loop of `main`.

The parser is the function `analizadorLinea`, and `stringTrim` is `string_trim` of the commons
library. Logs and the texts printed on the console are left out.
-/

namespace Ansisop.Cpu

open Ansisop.Sockets Ansisop.Lib Prog
open TipoDatos hiding signal wait imprimirTexto

/-! ### Helpers -/

/-- The bytes of a text. -/
def bytes (s : String) : List Byte := s.toList.map fun c => UInt8.ofNat c.toNat

/-- `es_numero_pasar_char`. -/
def esNumeroPasarChar (c : Byte) : Byte := if c ≤ 9 then c + 48 else c

/-- `cambio_PA`. -/
def cambioPA (idProc : ℤ) : Prog Unit := hacer (.enviarUmv ⟨TipoDatos.cambioPA, idProc, 0, 0, []⟩)

/-- `recibir_resp_kernel`, which goes on with an answer of any kind. -/
def recibirRespKernel : Prog Unit := do
  let _ ← recvKernel

/-- `enviar_pcb_destruir`. -/
def enviarPcb : Prog Unit := do
  enviarKernel (.quantumPcb ⟨pcbYQuantum, 0, (← get).pcb⟩)

/-- The message whose length says whether the CPU closes. -/
def avisarCierre (tipo : ℤ) : Prog Unit := do
  if ← quitSistema then enviarMenComun tipo []
  else enviarMenComun tipo [0]

/-- `salirPorQuantum`. -/
def salirPorQuantum : Prog Unit := do
  avisarCierre finQuantum
  enviarPcb

/-- The loop of `regenerar_dicc_var`, with `n` variables left from the variable `i` on. -/
def regenerarLoop : ℕ → ℤ → Prog Unit
  | 0, _ => pure ()
  | n + 1, i => do
    let pcb := (← get).pcb
    let base := pcb.dirSegStack
    let offset ← entero (pcb.dirContActual - base + i * 5)
    let menVar ← pedirUmv solBytes base offset 1 []
    let pos ← entero (base + offset)
    let c ← deref menVar.dato.head?
    modify fun s => s.conVariables (Function.update s.dicVariables (esNumeroPasarChar c) (some pos))
    regenerarLoop n (i + 1)

/-- `regenerar_dicc_var`. -/
def regenerarDiccVar : Prog Unit := do
  modify fun s => s.conVariables fun _ => none
  regenerarLoop (← get).pcb.cantVarContActual.toNat 0

/-- The loop of `finalizarContexto` that prints the `n` variables left from the variable `i` on. -/
def imprimirVariables : ℕ → ℤ → Prog Unit
  | 0, _ => pure ()
  | n + 1, i => do
    let base := (← get).pcb.dirContActual
    let offset ← entero (5 * i)
    let menNombreVar ← pedirUmv solBytes base offset 1 []
    let offset ← entero (5 * i + 1)
    let menContVar ← pedirUmv solBytes base offset 4 []
    let contVar ← memcpy menContVar.dato 4
    let nombre ← deref menNombreVar.dato.head?
    let texto := nombre :: 61 :: stringItoa (intOfBytes contVar)
    enviarMenComun TipoDatos.imprimirTexto (cString (texto.takeWhile (· ≠ 0)))
    recibirRespKernel
    imprimirVariables n (i + 1)

/-- `finalizarContexto`. The kind is `SEGMEN_FAULT` or `OK`; for any other one nothing is done. -/
def finalizarContexto (tipoFin : ℤ) : Prog Unit := do
  if tipoFin = segmenFault then
    enviarMenComun segmenFault (cString (stringItoa (← get).pcb.id))
    modify fun s => (s.conFin true).conSegFault true
  else if tipoFin = 0 then
    enviarMenComun TipoDatos.imprimirTexto
      (cString (bytes "\n----------Imprimo el estado final de las variable----------\n"))
    recibirRespKernel
    imprimirVariables (← get).pcb.cantVarContActual.toNat 0
    enviarMenComun finEjecucion (cString (stringItoa (← get).pcb.id))
    modify fun s => s.conFin true
  else pure ()

/-- `preservarContexto`. After a second answer of an unknown kind the first one, already freed, is
read. -/
def preservarContexto : Prog Unit := do
  let pcb := (← get).pcb
  let base := pcb.dirSegStack
  let offset ← entero (pcb.dirContActual - base + pcb.cantVarContActual * 5)
  let rCon ← pedirUmv almBytes base offset 4 (bytesOfInt pcb.dirContActual)
  if rCon.tipo = rAlmBytes then
    let offset ← entero (offset + 4)
    let rProxins ← pedirUmv almBytes base offset 4 (bytesOfInt pcb.programCounter)
    if rProxins.tipo = rAlmBytes then pure ()
    else if rProxins.tipo = segmenFault then finalizarContexto segmenFault
    else caida
  else if rCon.tipo = segmenFault then finalizarContexto segmenFault
  else pure ()

/-- `actualizar_pcb`. -/
def actualizarPcb (cantVar programCounter dirPrimerByteUmv : ℤ) : Prog Unit :=
  modificarPcb fun pcb =>
    { pcb with
      cantVarContActual := cantVar
      programCounter := programCounter
      dirContActual := dirPrimerByteUmv }

/-! ### Primitives of the parser -/

section Primitivas

variable (stringTrim : List Byte → List Byte)

/-- `definirVariable`. Five bytes are sent out of a string of two. -/
def definirVariable (idVar : Byte) : Prog ℤ := do
  let pcb := (← get).pcb
  let base := pcb.dirSegStack
  let offset ← entero (pcb.dirContActual - base + pcb.cantVarContActual * 5)
  let posMem ← entero (base + offset)
  let key := esNumeroPasarChar (esNumeroPasarChar idVar)
  let resto ← basura 3
  let rAlm ← pedirUmv almBytes base offset 5 (key :: 0 :: resto)
  if rAlm.tipo = rAlmBytes then
    modify fun s => s.conVariables (Function.update s.dicVariables key (some posMem))
    let cant ← entero (pcb.cantVarContActual + 1)
    modificarPcb fun pcb => { pcb with cantVarContActual := cant }
    pure posMem
  else
    finalizarContexto segmenFault
    pure (-1)

/-- `obtenerPosicionVariable`. The pointer is followed before it is compared with `NULL`. -/
def obtenerPosicionVariable (identificadorVariable : Byte) : Prog ℤ := do
  deref ((← get).dicVariables (esNumeroPasarChar identificadorVariable))

/-- `dereferenciar`. The sum is one of the unsigned `t_puntero`. -/
def dereferenciar (direccionVariable : ℤ) : Prog ℤ := do
  let base := (← get).pcb.dirSegStack
  let offset := int32 (direccionVariable - base + 1)
  let valor ← basura 4
  let men ← pedirUmv solBytes base offset 4 []
  if men.tipo = rSolBytes then
    if men.dato.length ≤ 4 then pure (intOfBytes (men.dato ++ valor.drop men.dato.length))
    else caida
  else
    if men.tipo = segmenFault then finalizarContexto segmenFault
    pure (intOfBytes valor)

/-- `asignar`. The sum is that of `dereferenciar`. -/
def asignar (direccionVariable valor : ℤ) : Prog Unit := do
  let s ← get
  if s.huboSegFault then pure ()
  else
    let base := s.pcb.dirSegStack
    let offset := int32 (direccionVariable - base + 1)
    let rAlm ← pedirUmv almBytes base offset 4 (bytesOfInt valor)
    if rAlm.tipo = segmenFault then finalizarContexto segmenFault

/-- `obtenerValorCompartida`. -/
def obtenerValorCompartida (compartida : List Byte) : Prog ℤ := do
  enviarMenComun obtenerValor (cString compartida)
  let respuesta ← recvKernel
  if respuesta.tipo = varInex then
    modify fun s => s.conFin true
    pure 0
  else
    let dato ← deref (cadena respuesta.dato)
    pure (atoi dato)

/-- `asignarValorCompartida`. -/
def asignarValorCompartida (compartida : List Byte) (valor : ℤ) : Prog ℤ := do
  enviarMenComun grabarValor (cString compartida)
  let menResp ← recvKernel
  if menResp.tipo = varInex then
    modify fun s => s.conFin true
    pure (-1)
  else if menResp.tipo = rGrabarValor then
    enviarMenComun valorAsignado (cString (stringItoa valor))
    let _ ← recvKernel
    pure valor
  else pure (-1)

/-- `irAlLabel`. -/
def irAlLabel (nombreEtiqueta : List Byte) : Prog Unit := do
  let posEtiqueta ← metadataBuscarEtiqueta (stringTrim nombreEtiqueta)
  if posEtiqueta ≠ -1 then modificarPcb fun pcb => { pcb with programCounter := posEtiqueta }
  else modify fun s => s.conFin true

/-- `llamarSinRetorno`. -/
def llamarSinRetorno (etiqueta : List Byte) : Prog Unit := do
  preservarContexto
  let pcb := (← get).pcb
  let dir ← entero (pcb.dirContActual + 5 * pcb.cantVarContActual + 8)
  modificarPcb fun pcb => { pcb with dirContActual := dir, cantVarContActual := 0 }
  regenerarDiccVar
  let posRetorno ← metadataBuscarEtiqueta etiqueta
  modificarPcb fun pcb => { pcb with programCounter := posRetorno }

/-- `llamarConRetorno`, which goes on after `preservarContexto` has failed. -/
def llamarConRetorno (etiqueta : List Byte) (dondeRetornar : ℤ) : Prog Unit := do
  preservarContexto
  let pcb := (← get).pcb
  let base := pcb.dirSegStack
  let offset ← entero (pcb.dirContActual - base + pcb.cantVarContActual * 5 + 8)
  let rAlm ← pedirUmv almBytes base offset 4 (bytesOfInt dondeRetornar)
  if rAlm.tipo = rAlmBytes then
    let dir ← entero (base + offset + 4)
    modificarPcb fun pcb => { pcb with dirContActual := dir, cantVarContActual := 0 }
    regenerarDiccVar
    let posRetorno ← metadataBuscarEtiqueta etiqueta
    modificarPcb fun pcb => { pcb with programCounter := posRetorno }
  else if rAlm.tipo = segmenFault then finalizarContexto segmenFault
  else pure ()

/-- `finalizar`. -/
def finalizar : Prog Unit := do
  let pcb := (← get).pcb
  if pcb.dirContActual = pcb.dirSegStack then finalizarContexto 0
  else
    let base := pcb.dirSegStack
    let offset ← entero (pcb.dirContActual - base - 8)
    let recRet ← pedirUmv solBytes base offset 8 []
    if recRet.tipo = rSolBytes then
      let l ← memcpy recRet.dato 8
      let dirContextAnt := intOfBytes (l.take 4)
      let cantVar ← entero (pcb.dirContActual - dirContextAnt - 8)
      actualizarPcb (cantVar.tdiv 5) (intOfBytes (l.drop 4)) dirContextAnt
      regenerarDiccVar
    else finalizarContexto segmenFault

/-- `retornar`. The answer to the second request is not looked at. -/
def retornar (retorno : ℤ) : Prog Unit := do
  let pcb := (← get).pcb
  let base := pcb.dirSegStack
  let offset ← entero (pcb.dirContActual - base - 12)
  let recRet ← pedirUmv solBytes base offset 12 []
  if recRet.tipo = rSolBytes then
    let l ← memcpy recRet.dato 12
    let dirContextAnt := intOfBytes (l.take 4)
    let dirRetorno := intOfBytes (l.drop 8)
    let cantVar ← entero (pcb.dirContActual - dirContextAnt - 12)
    actualizarPcb (cantVar.tdiv 5) (intOfBytes ((l.drop 4).take 4)) dirContextAnt
    regenerarDiccVar
    let offset ← entero (dirRetorno - base + 1)
    let _ ← pedirUmv almBytes base offset 4 (bytesOfInt retorno)
  else finalizarContexto segmenFault

/-- `imprimir`. -/
def imprimir (valorMostrar : ℤ) : Prog Unit := do
  if (← get).huboSegFault then pure ()
  else
    enviarMenComun imprimirValor (cString (stringItoa valorMostrar))
    recibirRespKernel

/-- `imprimirTexto`. -/
def imprimirTexto (texto : List Byte) : Prog Unit := do
  enviarMenComun TipoDatos.imprimirTexto (cString (stringTrim texto))
  recibirRespKernel

/-- `entradaSalida`. -/
def entradaSalida (dispositivo : List Byte) (tiempo : ℤ) : Prog Unit := do
  enviarMenComun ioId (cString dispositivo)
  enviarMenComun ioCantUnidades (cString (stringItoa tiempo))
  enviarPcb
  avisarCierre TipoDatos.wait
  modify fun s => s.conFin true

/-- `wait`. -/
def wait (identificadorSemaforo : List Byte) : Prog Unit := do
  enviarMenComun TipoDatos.wait (cString identificadorSemaforo)
  let menResp ← recvKernel
  if menResp.tipo = semOk then pure ()
  else if menResp.tipo = semBloqueado then
    modify fun s => s.conFin true
    enviarPcb
    avisarCierre TipoDatos.wait
  else if menResp.tipo = semInex then modify fun s => s.conFin true
  else pure ()

/-- `mi_signal`. -/
def miSignal (identificadorSemaforo : List Byte) : Prog Unit := do
  enviarMenComun TipoDatos.signal (cString identificadorSemaforo)
  let respuesta ← recvKernel
  if respuesta.tipo = semInex then finalizarContexto semInex

/-- The tables `functions` and `kernel_functions`. -/
def Primitiva.ejecutar : (p : Primitiva) → Prog p.Valor
  | .definirVariable c => Cpu.definirVariable c
  | .obtenerPosicionVariable c => Cpu.obtenerPosicionVariable c
  | .dereferenciar dir => Cpu.dereferenciar dir
  | .asignar dir valor => Cpu.asignar dir valor
  | .obtenerValorCompartida x => Cpu.obtenerValorCompartida x
  | .asignarValorCompartida x valor => Cpu.asignarValorCompartida x valor
  | .irAlLabel etiq => Cpu.irAlLabel stringTrim etiq
  | .llamarSinRetorno etiq => Cpu.llamarSinRetorno etiq
  | .llamarConRetorno etiq dir => Cpu.llamarConRetorno etiq dir
  | .finalizar => Cpu.finalizar
  | .retornar valor => Cpu.retornar valor
  | .imprimir valor => Cpu.imprimir valor
  | .imprimirTexto texto => Cpu.imprimirTexto stringTrim texto
  | .entradaSalida disp tiempo => Cpu.entradaSalida disp tiempo
  | .wait sem => Cpu.wait sem
  | .signal sem => miSignal sem

/-- A line as the parser runs it. -/
def ejecutar : Analisis → Prog Unit
  | .ret _ => pure ()
  | .ask p sigue => do
    hacer (.primitiva p (← get))
    let valor ← p.ejecutar stringTrim
    ejecutar (sigue valor)

end Primitivas

/-! ### `main` -/

/-- `traerIndiceEtiquetas`. -/
def traerIndiceEtiquetas : Prog Unit := do
  let pcb := (← get).pcb
  let recEtiq ← pedirUmv solBytes pcb.dirIndiceEtiquetas 0 pcb.tamIndiceEtiquetas []
  if recEtiq.tipo = rSolBytes then modify fun s => s.conEtiquetas (.datos recEtiq.dato)
  else if recEtiq.tipo = segmenFault then finalizarContexto segmenFault
  else pure ()

section Main

variable (stringTrim : List Byte → List Byte) (analizadorLinea : Option (List Byte) → Analisis)

/-- `solicitarProxSentenciaAUmv`. The offset is a product of unsigned integers. -/
def solicitarProxSentenciaAUmv : Prog (Option (List Byte)) := do
  let pcb := (← get).pcb
  let offset := int32 (pcb.programCounter * 8)
  let menBaseOffset ← pedirUmv solBytes pcb.dirIndiceCodigo offset 8 []
  let l ← memcpy menBaseOffset.dato 8
  let offset := intOfBytes (l.take 4)
  let tam := intOfBytes (l.drop 4)
  let recInst ← pedirUmv solBytes pcb.dirSegCodigo offset tam []
  if tam < 0 then caida
  else if recInst.tipo = rSolBytes then
    let proxInst ← memcpy recInst.dato tam.toNat
    let pc ← entero (pcb.programCounter + 1)
    modificarPcb fun pcb => { pcb with programCounter := pc }
    pure (some (stringTrim (proxInst.takeWhile (· ≠ 0))))
  else if recInst.tipo = segmenFault then
    finalizarContexto segmenFault
    pure none
  else pure none

/-- The loop over the quantum, with `n` turns left. -/
def cicloQuantum : ℕ → Prog Unit
  | 0 => pure ()
  | n + 1 => do
    if (← get).fueFinEjecucion then pure ()
    else
      let proxInstrucc ← solicitarProxSentenciaAUmv stringTrim
      hacer (.analizar proxInstrucc)
      ejecutar stringTrim (analizadorLinea proxInstrucc)
      cicloQuantum n

/-- `free` of `etiquetas`. -/
def freeEtiquetas : Prog Unit := do
  match (← get).etiquetas with
  | .nulo => pure ()
  | .datos _ => modify fun s => s.conEtiquetas .liberado
  | .liberado => caida

/-- The end of `recibirUnPcb`: a message of another kind leaves `pcb` freed. -/
def tomarPcb (men : MenQuantumPcb) : Prog Unit :=
  if men.tipo = pcbYQuantum then
    modify fun s => { s with pcb := men.pcb, quantumMax := men.quantum }
  else caida

/-- The body of the loop of `main` after the message `men` has come. -/
def despacho (men : MenQuantumPcb) : Prog Unit := do
  tomarPcb men
  cambioPA (← get).pcb.id
  traerIndiceEtiquetas
  regenerarDiccVar
  cicloQuantum stringTrim analizadorLinea (← get).quantumMax.toNat
  if (← get).fueFinEjecucion then pure () else salirPorQuantum
  freeEtiquetas
  cambioPA 0
  modify fun s => (s.conFin false).conSegFault false

end Main

end Ansisop.Cpu
