import Ansisop.Lib.Blocks
import Ansisop.Lib.Memory
import Ansisop.Sockets.Types

/-!
The segments of the UMV: the table `list_seg`, the main memory `mem_prin`, and the functions of
`UMV.c` that search free space, create and destroy segments, compact the memory, and read and
write bytes of a segment.

What a call takes from outside the program is an argument: the order `list_sort` gives to equal
addresses (`ListSort`), the value of `rand()`, and the bytes that happen to lie on the stack from
the address of a local variable on. A call whose behaviour C leaves undefined (a field of `NULL`,
a copy of a negative length, a limit `offset + tam` that no `int` holds) has no result.
-/

namespace Ansisop.Umv

open Ansisop.Sockets Ansisop.Lib Ansisop.Lib.Memory

/-- `t_seg`. -/
structure Seg where
  idProc : ℤ
  dirLogica : ℤ
  dirFisica : ℤ
  tamSeg : ℤ
  tipoSeg : ℤ
  deriving DecidableEq, Repr

/-- `list_sort` of the commons library under the comparator of the physical addresses: some
permutation that does not decrease, equal addresses in any order. -/
structure ListSort where
  sort : List Seg → List Seg
  perm : ∀ l, (sort l).Perm l
  sorted : ∀ l, Blocks.Sorted Seg.dirFisica (sort l)

/-- Insertion sort is such a sorting. -/
def ListSort.insercion : ListSort where
  sort := List.insertionSort fun a b => a.dirFisica ≤ b.dirFisica
  perm := List.perm_insertionSort _
  sorted := List.pairwise_insertionSort _

/-- The values of `alg_actual`. -/
def firstFitMode : ℤ := 1

@[inherit_doc firstFitMode]
def worstFitMode : ℤ := 2

/-- The globals of the UMV that the segment functions use. -/
structure Estado where
  memPrin : ℤ → Byte
  algActual : ℤ
  listSeg : List Seg
  tamMemTotal : ℤ

/-! ### Looking a segment up -/

/-- `buscar_segmento_tipo_seg`. -/
def buscarSegmentoTipoSeg (u : Estado) (idProc tipoSeg : ℤ) : Option Seg :=
  u.listSeg.find? fun seg => seg.tipoSeg == tipoSeg && seg.idProc == idProc

/-- `buscar_segmento_dir_logica`. -/
def buscarSegmentoDirLogica (u : Estado) (idProc dirLogica : ℤ) : Option Seg :=
  u.listSeg.find? fun seg => seg.dirLogica == dirLogica && seg.idProc == idProc

/-- `ordenar_lista_seg_por_dir_fisica`. -/
def ordenarListaSegPorDirFisica (ls : ListSort) (u : Estado) : Estado :=
  { u with listSeg := ls.sort u.listSeg }

/-! ### Searching free space -/

/-- The inner loop of the first-fit search: `n` turns are left until `ind_mem` reaches the next
segment, `tam_seg` counts the free bytes passed. `inl` is the early return. -/
def huecoFirst (tamAReservar : ℤ) : ℕ → ℤ → ℤ → ℤ ⊕ ℤ
  | 0, indMem, _ => .inr indMem
  | n + 1, indMem, tamSeg =>
    if tamSeg = tamAReservar then .inl (indMem - tamSeg)
    else huecoFirst tamAReservar n (indMem + 1) (tamSeg + 1)

/-- The first-fit branch of `buscar_espacio_mem_prin` from the cursor `ind_mem` on. -/
def firstFit (tamMemTotal tamAReservar : ℤ) : List Seg → ℤ → ℤ
  | [], indMem => if tamAReservar ≤ tamMemTotal - indMem then indMem else -1
  | auxSeg :: l, indMem =>
    match huecoFirst tamAReservar (auxSeg.dirFisica - indMem).toNat indMem 0 with
    | .inl pos => pos
    | .inr indMem => firstFit tamMemTotal tamAReservar l (indMem + auxSeg.tamSeg)

/-- `pos_seg_max` and `tam_seg_max`. -/
structure SegMax where
  pos : ℤ
  tam : ℤ
  deriving DecidableEq, Repr

/-- The inner loop of the worst-fit search. -/
def huecoWorst : ℕ → ℤ → ℤ → SegMax → ℤ × SegMax
  | 0, indMem, _, m => (indMem, m)
  | n + 1, indMem, tamSeg, m =>
    huecoWorst n (indMem + 1) (tamSeg + 1)
      (if m.tam < tamSeg then ⟨indMem - tamSeg, tamSeg⟩ else m)

/-- The worst-fit branch of `buscar_espacio_mem_prin` from the cursor `ind_mem` on. -/
def worstFit (tamMemTotal tamAReservar : ℤ) : List Seg → ℤ → SegMax → ℤ
  | [], indMem, m =>
    let m := if m.tam < tamMemTotal - indMem then ⟨indMem, tamMemTotal - indMem⟩ else m
    if tamAReservar ≤ m.tam then m.pos else -1
  | auxSeg :: l, indMem, m =>
    let r := huecoWorst (auxSeg.dirFisica - indMem).toNat indMem 0 m
    worstFit tamMemTotal tamAReservar l (r.1 + auxSeg.tamSeg) r.2

/-- `buscar_espacio_mem_prin`: the table is left ordered. -/
def buscarEspacioMemPrin (ls : ListSort) (tamAReservar : ℤ) (u : Estado) : Estado × ℤ :=
  let u := ordenarListaSegPorDirFisica ls u
  (u, if u.algActual = firstFitMode then firstFit u.tamMemTotal tamAReservar u.listSeg 0
      else worstFit u.tamMemTotal tamAReservar u.listSeg 0 ⟨-1, -1⟩)

/-! ### Compaction -/

/-- The loop of `compactar` from the `i`-th segment on. The copy is taken from `&aux_seg`, the
address of the local variable: `pila i` is what lies there in the `i`-th turn, first the bytes of
the pointer itself. -/
def compactarLoop (pila : ℕ → ℕ → Byte) : ℕ → ℤ → (ℤ → Byte) → List Seg → List Seg × (ℤ → Byte)
  | _, _, mem, [] => ([], mem)
  | i, indMem, mem, auxSeg :: l =>
    if indMem = auxSeg.dirFisica then
      let r := compactarLoop pila (i + 1) (indMem + auxSeg.tamSeg) mem l
      (auxSeg :: r.1, r.2)
    else
      let mem := memcpy mem indMem ((List.range auxSeg.tamSeg.toNat).map (pila i))
      let r := compactarLoop pila (i + 1) (indMem + auxSeg.tamSeg) mem l
      ({ auxSeg with dirFisica := indMem } :: r.1, r.2)

/-- `compactar`. -/
def compactar (ls : ListSort) (pila : ℕ → ℕ → Byte) (u : Estado) : Estado :=
  let u := ordenarListaSegPorDirFisica ls u
  let r := compactarLoop pila 0 0 u.memPrin u.listSeg
  { u with listSeg := r.1, memPrin := r.2 }

/-! ### Creating and destroying segments -/

/-- What a call of `crearSegmento` takes from outside: the sorting of its successive searches and
of its compaction, the stack under the compaction, and `rand()`. -/
structure Entorno where
  listSort : ℕ → ListSort
  pila : ℕ → ℕ → Byte
  rand : ℤ

/-- The kind of segment a request asks for. -/
def tipoSegDePedido (tipo : ℤ) : ℤ :=
  if tipo = TipoDatos.pedMemSegCod then TipoDatos.codigoScript
  else if tipo = TipoDatos.pedMemIndEti then TipoDatos.indEtiFunc
  else if tipo = TipoDatos.pedMemIndCod then TipoDatos.indCod
  else if tipo = TipoDatos.pedMemSegStack then TipoDatos.indStack
  else tipo

/-- The end of `crearSegmento`, once the search has answered the address `resp`. -/
def agregarSegmento (rand : ℤ) (menPed : MenSeg) (resp : ℤ) (u : Estado) : Estado × ℤ :=
  let auxSeg : Seg :=
    { idProc := menPed.idProg, dirLogica := rand, dirFisica := resp, tamSeg := menPed.tamSeg,
      tipoSeg := tipoSegDePedido menPed.tipo }
  ({ u with listSeg := u.listSeg ++ [auxSeg] }, auxSeg.dirLogica)

/-- `crearSegmento`: the logical address of the new segment, or `-1`. -/
def crearSegmento (e : Entorno) (menPed : MenSeg) (u : Estado) : Estado × ℤ :=
  let r := buscarEspacioMemPrin (e.listSort 0) menPed.tamSeg u
  if r.2 = -1 then
    let u := compactar (e.listSort 1) e.pila r.1
    let r := buscarEspacioMemPrin (e.listSort 2) menPed.tamSeg u
    if r.2 = -1 then (r.1, -1)
    else agregarSegmento e.rand menPed r.2 r.1
  else agregarSegmento e.rand menPed r.2 r.1

/-- The loop of `destruirSegmentos`: while some segment is of the process, the first one that is
goes. The list is as long as the fuel it starts with. -/
def eliminarMientras (esIdProg : Seg → Bool) : ℕ → List Seg → List Seg
  | 0, l => l
  | n + 1, l => if l.any esIdProg then eliminarMientras esIdProg n (l.eraseP esIdProg) else l

/-- `destruirSegmentos`: the process `0` stands for all of them. -/
def destruirSegmentos (idProg : ℤ) (u : Estado) : Estado :=
  if idProg = 0 then { u with listSeg := [] }
  else
    { u with
      listSeg := eliminarMientras (fun seg => seg.idProc == idProg) u.listSeg.length u.listSeg }

/-- `cambiarAlgoritmo`. -/
def cambiarAlgoritmo (u : Estado) : Estado :=
  if u.algActual = worstFitMode then { u with algActual := firstFitMode }
  else { u with algActual := worstFitMode }

/-! ### Reading and writing -/

/-- `almacenar_segmento`: a whole segment, if the message has exactly its size. -/
def almacenarSegmento (auxMen : MenComun) (idProc : ℤ) (u : Estado) : Estado :=
  match buscarSegmentoTipoSeg u idProc auxMen.tipo with
  | none => u
  | some auxSeg =>
    if auxMen.tamDato ≠ auxSeg.tamSeg then u
    else { u with
      memPrin := memcpy u.memPrin auxSeg.dirFisica (auxMen.dato.take auxMen.tamDato.toNat) }

/-- The guards both byte functions start with. -/
def fueraDeRango (u : Estado) (base offset tam : ℤ) : Bool :=
  decide (offset < 0) || decide (base < 0) || decide (u.tamMemTotal < offset) ||
    decide (u.tamMemTotal < tam)

/-- What `solicitar_bytes` returns: `NULL`, the buffer as `malloc` gave it, or the bytes. -/
inductive RetBytes where
  | null
  | sinInicializar (tam : ℤ)
  | bytes (l : List Byte)
  deriving DecidableEq, Repr

/-- `solicitar_bytes`. A negative `tam` makes `malloc` fail and the copy undefined. -/
def solicitarBytes (u : Estado) (idProc base offset tam : ℤ) : Option RetBytes :=
  if fueraDeRango u base offset tam then some .null
  else
    match buscarSegmentoDirLogica u idProc base with
    | none => some (if tam < 0 then .null else .sinInicializar tam)
    | some auxSeg =>
      let pos := auxSeg.dirFisica + offset
      if 2 ^ 31 ≤ offset + tam then none
      else if auxSeg.tamSeg < offset + tam then some .null
      else if tam < 0 then none
      else some (.bytes (read u.memPrin pos tam.toNat))

/-- `almacenar_bytes`: the answer `R_ALM_BYTES` or `SEGMEN_FAULT`. The segment found is used
before it is compared with `NULL`, and the copy reads `tam` bytes of the buffer. -/
def almacenarBytes (idProc base offset tam : ℤ) (buffer : List Byte) (u : Estado) :
    Option (Estado × ℤ) :=
  if fueraDeRango u base offset tam then some (u, TipoDatos.segmenFault)
  else
    match buscarSegmentoDirLogica u idProc base with
    | none => none
    | some auxSeg =>
      let pos := auxSeg.dirFisica + offset
      if 2 ^ 31 ≤ offset + tam then none
      else if auxSeg.tamSeg < offset + tam then some (u, TipoDatos.segmenFault)
      else if tam < 0 ∨ buffer.length < tam then none
      else some ({ u with memPrin := memcpy u.memPrin pos (buffer.take tam.toNat) },
        TipoDatos.rAlmBytes)

/-! ### The calls, as steps -/

/-- A call of one of the functions above, with what it takes from outside. -/
inductive Llamada where
  | crearSegmento (e : Entorno) (menPed : MenSeg)
  | destruirSegmentos (idProg : ℤ)
  | compactar (ls : ListSort) (pila : ℕ → ℕ → Byte)
  | cambiarAlgoritmo
  | almacenarSegmento (auxMen : MenComun) (idProc : ℤ)
  | almacenarBytes (idProc base offset tam : ℤ) (buffer : List Byte)
  | solicitarBytes (idProc base offset tam : ℤ)

/-- The state a call leaves. -/
def Llamada.paso : Llamada → Estado → Option Estado
  | .crearSegmento e menPed, u => some (Umv.crearSegmento e menPed u).1
  | .destruirSegmentos idProg, u => some (Umv.destruirSegmentos idProg u)
  | .compactar ls pila, u => some (Umv.compactar ls pila u)
  | .cambiarAlgoritmo, u => some (Umv.cambiarAlgoritmo u)
  | .almacenarSegmento auxMen idProc, u => some (Umv.almacenarSegmento auxMen idProc u)
  | .almacenarBytes idProc base offset tam buffer, u =>
    (Umv.almacenarBytes idProc base offset tam buffer u).map Prod.fst
  | .solicitarBytes idProc base offset tam, u =>
    (Umv.solicitarBytes u idProc base offset tam).map fun _ => u

/-- The sizes asked for are not negative. -/
def Llamada.Admitida : Llamada → Prop
  | .crearSegmento _ menPed => 0 ≤ menPed.tamSeg
  | _ => True

/-- A sequence of calls, one after the other. -/
def correr (ls : List Llamada) (u : Estado) : Option Estado := ls.foldlM (fun u c => c.paso u) u

/-- The UMV as `main` leaves it: memory of the configured size, no segment. -/
def inicial (memPrin : ℤ → Byte) (algActual tamMemTotal : ℤ) : Estado :=
  ⟨memPrin, algActual, [], tamMemTotal⟩

end Ansisop.Umv
