import Ansisop.Kernel.State

/-!
The functions of `kernel.c` that move processes between the five queues: those of the PLP (program
connections), those of the PCP (messages of the CPUs), and the manager threads, one iteration of
the loop of each.

The external parser is the function `metadataDesdeLiteral`; `basura` is what `malloc` leaves in a
field that is never assigned. Logs and the texts printed on the console are left out.
-/

namespace Ansisop.Kernel

open Ansisop.Sockets Ansisop.Lib Hilo
open TipoDatos hiding signal wait

/-! ### CPU records and pcbs -/

/-- `get_cpu_soc_cpu_remove`. -/
def getCpuSocCpuRemove (socCpu : ℤ) : Hilo (Option Cpu) :=
  listaCpuRemove fun unCpu => unCpu.socCpu == socCpu

/-- `get_cpu`. -/
def getCpu (socCpu : ℤ) : Hilo (Option Cpu) := do
  pure ((← get).listaCpu.find? fun unCpu => unCpu.socCpu == socCpu)

/-- `get_cpu_libre_remove`. -/
def getCpuLibreRemove : Hilo (Option Cpu) := listaCpuRemove fun unCpu => unCpu.idProgExec == 0

/-- `get_pcb_otros_exec`. -/
def getPcbOtrosExec (idProc : ℤ) : Hilo (Option PcbOtros) := do
  lock .exec
  let aux ← queueRotar .exec fun x => idProc == x.pcb.id
  unlock .exec
  pure aux

/-- `buscar_pcb`. -/
def buscarPcb (cola : Cola) (socProg : ℤ) : Hilo (Option PcbOtros) :=
  queueRotar cola fun x => x.nSocket == socProg

/-- `pasar_pcbBlock_ready`. -/
def pasarPcbBlockReady (idPcb : ℤ) : Hilo Unit := do
  lock .block
  match ← queueRotar .block fun x => x.pcb.id == idPcb with
  | some pcbAux =>
    lock .ready
    queuePush .ready (some pcbAux)
    semIncre .cantReady
    unlock .ready
    unlock .block
  | none => unlock .block

/-- `pasar_pcb_exit`. -/
def pasarPcbExit : Option PcbOtros → Hilo Unit
  | none => pure ()
  | some pcb => do
    lock .exit
    queuePush .exit (some pcb)
    semIncre .cantExit
    unlock .exit
    semIncre .cantMultiprog

/-- `mover_pcb_exit`. -/
def moverPcbExit (socProg : ℤ) : Hilo Unit := do
  lock .new
  lock .ready
  lock .block
  lock .exec
  pasarPcbExit (← buscarPcb .new socProg)
  pasarPcbExit (← buscarPcb .ready socProg)
  pasarPcbExit (← buscarPcb .block socProg)
  pasarPcbExit (← buscarPcb .exec socProg)
  unlock .new
  unlock .ready
  unlock .block
  unlock .exec

/-- The three fields that a CPU changes, taken over from the pcb it sent. -/
@[simps] def actualizar (pcb recibido : Pcb) : Pcb :=
  { pcb with
    cantVarContActual := recibido.cantVarContActual
    dirContActual := recibido.dirContActual
    programCounter := recibido.programCounter }

/-- `recv_actualizar_pcb`. -/
def recvActualizarPcb (socCpu : ℤ) (pcb : Pcb) : Hilo Pcb := do
  let men ← recvQuantumPcb socCpu
  pure (actualizar pcb men.pcb)

/-- The end of `fin_quantum`, `fin_ejecucion`, `llamada_erronea` and `actualizar_pcb_y_bloq`: the
CPU goes back to the list as a free one. -/
def liberarCpu (auxCpu : Cpu) : Hilo Unit := do
  listaCpuAdd { auxCpu with idProgExec := 0, socProg := 0 }
  semIncre .cantCpuLibres

/-- `actualizar_pcb_y_bloq`. -/
def actualizarPcbYBloq (auxCpu : Cpu) : Hilo ℤ := do
  let aux ← deref (← getPcbOtrosExec auxCpu.idProgExec)
  let pcb ← recvActualizarPcb auxCpu.socCpu aux.pcb
  let menCerrar ← recvComun auxCpu.socCpu
  if menCerrar.tamDato = 0 then
    liberarCpu auxCpu
  else
    fdClrCpus auxCpu.socCpu
    socketCerrar auxCpu.socCpu
  queuePush .block (some { aux with pcb := pcb })
  pure pcb.id

/-! ### PLP -/

section Plp

variable (metadataDesdeLiteral : List Byte → MetadataProgram)

/-- `administrar_prog_cerrado`. -/
def administrarProgCerrado (socProg : ℤ) : Hilo Unit := do
  fdClrProgs socProg
  lock .usoListaCpu
  moverPcbExit socProg
  match ← listaCpuRemove fun unCpu => unCpu.socProg == socProg with
  | some auxCpu =>
    fdClrCpus auxCpu.socCpu
    socketCerrar auxCpu.socCpu
    unlock .usoListaCpu
  | none => unlock .usoListaCpu

/-- `gestionar_resp_sol_mem`. -/
def gestionarRespSolMem : Hilo ℤ := do
  let resp ← recvComun (← get).socUmv
  if resp.tipo = memOverload then pure (-1)
  else
    let s ← deref (cadena resp.dato)
    pure (atoi s)

/-- One request of `solicitar_mem` and its answer. -/
def pedirSegmento (tipo tam : ℤ) : Hilo ℤ := do
  let k ← get
  enviarUmvMemSeg k.socUmv tipo k.contadorPrograma tam
  gestionarRespSolMem

/-- `solicitar_mem`. -/
def solicitarMem (men : MenComun) : Hilo (Option RespSolMem) := do
  let cod ← pedirSegmento pedMemSegCod men.tamDato
  if cod = -1 then return none
  let metadata := metadataDesdeLiteral men.dato
  let eti ← pedirSegmento pedMemIndEti metadata.etiquetas.length
  if eti = -1 then return none
  let tam ← entero (metadata.instruccionesSize * 8)
  let ind ← pedirSegmento pedMemIndCod tam
  if ind = -1 then return none
  let stack ← pedirSegmento pedMemSegStack (← get).tamanioStack
  if stack = -1 then return none
  return some ⟨cod, stack, ind, eti⟩

/-- One segment written by `crear_pcb_escribir_seg_UMV`, with `recibir_resp_escrbir_seg`. -/
def escribirSegmento (men : MenComun) : Hilo Unit := do
  let k ← get
  enviarUmvMemSeg k.socUmv escribirSeg k.contadorPrograma 0
  enviar k.socUmv (.comun men)
  let _ ← recvComun k.socUmv

/-- `crear_pcb_escribir_seg_UMV`. -/
def crearPcbEscribirSegUmv (basura : ℤ) (men : MenComun) (resp : RespSolMem) : Hilo Pcb := do
  let metadata := metadataDesdeLiteral men.dato
  escribirSegmento ⟨men.tamDato, codigoScript, men.dato⟩
  escribirSegmento (crearMenComun indEtiFunc metadata.etiquetas)
  escribirSegmento (crearMenComun indCod metadata.instruccionesSerializado)
  pure
    { cantVarContActual := 0
      dirContActual := resp.dirSegStack
      dirIndiceCodigo := resp.dirIndiceCodigo
      dirIndiceEtiquetas := resp.dirIndiceEtiquetas
      dirSegCodigo := resp.dirSegCodigo
      dirSegStack := resp.dirSegStack
      id := (← get).contadorPrograma
      programCounter := metadata.instruccionInicio
      tamIndiceEtiquetas := metadata.etiquetas.length
      cantInstrucciones := basura }

/-- `calcular_peso`. -/
def calcularPeso (men : MenComun) : Hilo ℤ :=
  let metadata := metadataDesdeLiteral men.dato
  entero (5 * metadata.cantidadDeEtiquetas + 3 * metadata.cantidadDeFunciones
    + metadata.instruccionesSize)

/-- `administrar_new_script`. -/
def administrarNewScript (basura socProg : ℤ) (men : MenComun) : Hilo Unit := do
  let contador ← entero ((← get).contadorPrograma + 1)
  modify fun k => k.conContador contador
  match ← solicitarMem metadataDesdeLiteral men with
  | none =>
    fdClrProgs socProg
    enviarMenComun socProg memOverload (cString (stringItoa contador))
    socketCerrar socProg
  | some resp =>
    let pcb ← crearPcbEscribirSegUmv metadataDesdeLiteral basura men resp
    let peso ← calcularPeso metadataDesdeLiteral men
    lock .new
    modify fun k => k.conVivos (pcb.id :: k.vivos)
    queuePush .new (some ⟨pcb, socProg, peso, -1⟩)
    semIncre .cantNew
    unlock .new

end Plp

/-! ### PCP -/

/-- `ingresar_new_cpu`, the handshake left out. -/
def ingresarNewCpu (newSocCpu : ℤ) : Hilo Unit := do
  modify fun k => k.conSocCpus (insert newSocCpu k.conjSocCpus)
  lock .usoListaCpu
  listaCpuAdd ⟨newSocCpu, 0, 0⟩
  semIncre .cantCpuLibres
  unlock .usoListaCpu

/-- `conec_cerrada_cpu`. -/
def conecCerradaCpu (socCpu : ℤ) : Hilo Unit := do
  lock .usoListaCpu
  let auxCpu ← getCpuSocCpuRemove socCpu
  fdClrCpus socCpu
  socketCerrar socCpu
  let auxCpu ← deref auxCpu
  if auxCpu.idProgExec ≠ 0 then
    let aux ← getPcbOtrosExec auxCpu.idProgExec
    lock .ready
    queuePush .ready aux
    semIncre .cantReady
    unlock .ready
  else
    semDecre .cantCpuLibres
  unlock .usoListaCpu

/-- `llamada_erronea`. -/
def llamadaErronea (socCpu tipoError : ℤ) : Hilo Unit := do
  lock .usoListaCpu
  let auxCpu ← getCpuSocCpuRemove socCpu
  unlock .usoListaCpu
  let auxCpu ← deref auxCpu
  let aux ← deref (← getPcbOtrosExec auxCpu.idProgExec)
  pasarPcbExit (some { aux with tipoFinEjecucion := tipoError })
  enviarMenComun socCpu tipoError []
  lock .usoListaCpu
  liberarCpu auxCpu
  unlock .usoListaCpu

/-- `fin_ejecucion`. -/
def finEjecucion (tipo socCpu : ℤ) : Hilo Unit := do
  lock .usoListaCpu
  let auxCpu ← getCpuSocCpuRemove socCpu
  unlock .usoListaCpu
  let auxCpu ← deref auxCpu
  let aux ← deref (← getPcbOtrosExec auxCpu.idProgExec)
  pasarPcbExit (some { aux with tipoFinEjecucion := tipo })
  lock .usoListaCpu
  liberarCpu auxCpu
  unlock .usoListaCpu

/-- `wait`. -/
def wait (socCpu : ℤ) (men : MenComun) : Hilo Unit := do
  lock .diccSem
  let clave ← deref (cadena men.dato)
  match (← get).diccSem clave with
  | some semaforo =>
    let valor ← entero (semaforo.valor - 1)
    modificarSem clave fun s => { s with valor := valor }
    if 0 < semaforo.valor then
      enviarMenComun socCpu semOk []
    else
      lock .block
      lock .usoListaCpu
      let auxCpu ← getCpuSocCpuRemove socCpu
      enviarMenComun socCpu semBloqueado []
      let auxCpu ← deref auxCpu
      let idProc ← actualizarPcbYBloq auxCpu
      modificarSem clave fun s => { s with procesos := s.procesos ++ [idProc] }
      unlock .block
      unlock .usoListaCpu
  | none => llamadaErronea socCpu semInex
  unlock .diccSem

/-- `signal`. -/
def signal (socCpu : ℤ) (men : MenComun) : Hilo Unit := do
  lock .diccSem
  let clave ← deref (cadena men.dato)
  match (← get).diccSem clave with
  | some semaforo =>
    let valor ← entero (semaforo.valor + 1)
    modificarSem clave fun s => { s with valor := valor }
    match semaforo.procesos with
    | procId :: procesos =>
      modificarSem clave fun s => { s with procesos := procesos }
      pasarPcbBlockReady procId
    | [] => pure ()
    enviarMenComun socCpu semOk []
  | none => llamadaErronea socCpu semInex
  unlock .diccSem

/-- `enviar_IO`. -/
def enviarIo (socCpu : ℤ) (menCpu : MenComun) : Hilo Unit := do
  lock .usoListaCpu
  lock .block
  let auxCpu ← getCpuSocCpuRemove socCpu
  let men ← recvComun socCpu
  let unidades ← deref (cadena men.dato)
  let auxCpu ← deref auxCpu
  let disp ← deref (cadena menCpu.dato)
  let _ ← deref ((← get).diccDispIo disp)
  modificarIo disp fun io => { io with procesos := io.procesos ++ [⟨auxCpu.idProgExec, atoi unidades⟩] }
  let _ ← actualizarPcbYBloq auxCpu
  modificarIo disp fun io => { io with contCantProc := io.contCantProc + 1 }
  unlock .usoListaCpu
  unlock .block

/-- `fin_quantum`. A length of one says that the CPU closes; its pcb is then pushed as it is. -/
def finQuantum (socCpu : ℤ) (men : MenComun) : Hilo Unit := do
  lock .usoListaCpu
  if men.tamDato = 1 then
    let auxCpu ← getCpuSocCpuRemove socCpu
    fdClrCpus socCpu
    socketCerrar socCpu
    let auxCpu ← deref auxCpu
    let aux ← getPcbOtrosExec auxCpu.idProgExec
    lock .ready
    queuePush .ready aux
    semIncre .cantReady
    unlock .ready
    unlock .usoListaCpu
  else
    let auxCpu ← deref (← getCpuSocCpuRemove socCpu)
    let aux ← deref (← getPcbOtrosExec auxCpu.idProgExec)
    let pcb ← recvActualizarPcb socCpu aux.pcb
    lock .ready
    queuePush .ready (some { aux with pcb := pcb })
    semIncre .cantReady
    unlock .ready
    liberarCpu auxCpu
    unlock .usoListaCpu

/-- `obtener_valor_compartida`. -/
def obtenerValorCompartida (socCpu : ℤ) (men : MenComun) : Hilo Unit := do
  lock .diccVar
  let clave ← deref (cadena men.dato)
  match (← get).diccVar clave with
  | some valor => enviarMenComun socCpu rObtenerValor (cString (stringItoa valor))
  | none => llamadaErronea socCpu varInex
  unlock .diccVar

/-- `grabar_valor_compartida`. -/
def grabarValorCompartida (socCpu : ℤ) (men : MenComun) : Hilo Unit := do
  lock .diccVar
  let clave ← deref (cadena men.dato)
  match (← get).diccVar clave with
  | some _ =>
    enviarMenComun socCpu rGrabarValor []
    let menValor ← recvComun socCpu
    let s ← deref (cadena menValor.dato)
    modify fun k => k.conVar clave (atoi s)
    unlock .diccVar
    enviarMenComun socCpu rGrabarValor []
  | none =>
    unlock .diccVar
    llamadaErronea socCpu varInex

/-- What `imprimir_valor` and `imprimir_texto` share: the message goes on to the program of the CPU.
`leido` is what the line of the log takes of the payload. -/
def imprimir {α : Type} (leido : List Byte → Option α) (socCpu : ℤ) (men : MenComun) : Hilo Unit := do
  lock .usoListaCpu
  let auxCpu ← deref (← getCpu socCpu)
  enviar auxCpu.socProg (.comun men)
  unlock .usoListaCpu
  let _ ← deref (leido men.dato)
  enviarMenComun socCpu rImprimir []

/-- `imprimir_valor`: the log takes the `atoi` of the payload. -/
def imprimirValor : ℤ → MenComun → Hilo Unit := imprimir fun dato => (cadena dato).map atoi

/-- `imprimir_texto`: the log takes nothing of the payload. -/
def imprimirTexto : ℤ → MenComun → Hilo Unit := imprimir some

/-- `administrar_men_cpus`. -/
def administrarMenCpus (socCpu : ℤ) : Hilo Unit := do
  let men ← recvComun socCpu
  if men.tipo = conecCerrada then conecCerradaCpu socCpu
  else if men.tipo = TipoDatos.finQuantum then finQuantum socCpu men
  else if men.tipo = TipoDatos.finEjecucion then finEjecucion TipoDatos.finEjecucion socCpu
  else if men.tipo = segmenFault then finEjecucion segmenFault socCpu
  else if men.tipo = TipoDatos.imprimirTexto then imprimirTexto socCpu men
  else if men.tipo = TipoDatos.imprimirValor then imprimirValor socCpu men
  else if men.tipo = obtenerValor then obtenerValorCompartida socCpu men
  else if men.tipo = grabarValor then grabarValorCompartida socCpu men
  else if men.tipo = TipoDatos.wait then wait socCpu men
  else if men.tipo = TipoDatos.signal then signal socCpu men
  else if men.tipo = ioId then enviarIo socCpu men
  else pure ()

/-! ### Manager threads -/

/-- The first loop of `get_peso_min`: `n` turns of the queue are left. -/
def pesoMinLoop : ℕ → List (Option PcbOtros) → ℤ → Option (List (Option PcbOtros) × ℤ)
  | 0, q, pesoMin => some (q, pesoMin)
  | n + 1, some aux :: q, pesoMin =>
    pesoMinLoop n (q ++ [some aux]) (if aux.peso < pesoMin then aux.peso else pesoMin)
  | _ + 1, _, _ => none

/-- `get_peso_min`. -/
def getPesoMin : Hilo (Option PcbOtros) := do
  let k ← get
  let r ← deref (pesoMinLoop (k.colas .new).length (k.colas .new) 1000000)
  modify fun k => k.conCola .new r.1
  queueRotar .new fun x => r.2 == x.peso

/-- `manejador_new_ready`. -/
def manejadorNewReady : Hilo Unit := do
  semDecre .cantNew
  semDecre .cantMultiprog
  lock .new
  lock .ready
  match ← getPesoMin with
  | none =>
    unlock .new
    unlock .ready
  | some aux =>
    queuePush .ready (some aux)
    semIncre .cantReady
    unlock .new
    unlock .ready

/-- `enviar_cpu_pcb_destruir`. -/
def enviarCpuPcb (soc : ℤ) (pcb : Pcb) : Hilo Unit := do
  enviar soc (.quantumPcb ⟨pcbYQuantum, (← get).quantumMax, pcb⟩)

/-- `manejador_ready_exec`. -/
def manejadorReadyExec : Hilo Unit := do
  semDecre .cantReady
  semDecre .cantCpuLibres
  lock .ready
  lock .usoListaCpu
  let auxCpu ← getCpuLibreRemove
  match ← queuePop .ready with
  | none =>
    unlock .ready
    unlock .usoListaCpu
  | some aux =>
    let auxCpu ← deref auxCpu
    enviarCpuPcb auxCpu.socCpu aux.pcb
    listaCpuAdd { auxCpu with idProgExec := aux.pcb.id, socProg := aux.nSocket }
    queuePush .exec (some aux)
    unlock .ready
    unlock .usoListaCpu

/-- `umv_destrui_pcb`. -/
def umvDestruiPcb (idPcb : ℤ) : Hilo Unit := do
  let k ← get
  enviarUmvMemSeg k.socUmv destrSegs idPcb 0
  let _ ← recvComun k.socUmv

/-- `manejador_exit`. -/
def manejadorExit : Hilo Unit := do
  semDecre .cantExit
  lock .exit
  let aux ← queuePop .exit
  unlock .exit
  match aux with
  | none => pure ()
  | some aux =>
    if aux.tipoFinEjecucion ≠ -1 then
      enviarMenComun aux.nSocket aux.tipoFinEjecucion []
    umvDestruiPcb aux.pcb.id
    modify fun k => k.conVivos (k.vivos.erase aux.pcb.id)

/-- The time a device is busy with a request. -/
def ocupar (micros : ℤ) : ℕ → Hilo Unit
  | 0 => pure ()
  | n + 1 => do
    Hilo.usleep micros
    ocupar micros n

/-- `manejador_IO` up to the request it takes. -/
def manejadorIOTomar (disp : List Byte) : Hilo Unit := do
  semDecreIo disp
  let io ← deref ((← get).diccDispIo disp)
  let proceso ← deref io.procesos.head?
  modificarIo disp fun io => { io with procesos := io.procesos.tail, proceso := some proceso }

/-- `manejador_IO` from there to the end of the request. -/
def manejadorIOServir (disp : List Byte) : Hilo Unit := do
  let io ← deref ((← get).diccDispIo disp)
  let proceso ← deref io.proceso
  ocupar (io.ioSleep * 1000) proceso.unidades.toNat
  pasarPcbBlockReady proceso.idProg
  modificarIo disp fun io => { io with proceso := none }

end Ansisop.Kernel
