import Ansisop.Lib.Frames
import Ansisop.Sockets.Types

/-!
The wire format: the serializers and deserializers of `sockets_lib.c`, and the stream of messages
that a connection carries.

A serializer fills a fresh buffer with its fields, a deserializer reads them back at the same
offsets; each runs its offset over the buffer as the source does. Both take from outside what C
leaves open (`Memoria`): what `malloc` finds in a fresh buffer, and what lies behind a payload that
is shorter than its length says. A deserializer that reads past the bytes received has no result.
-/

namespace Ansisop.Sockets

open Ansisop.Lib.Frames

/-! ### Integers in four bytes -/

@[simp] lemma bytesOfInt_length (x : ℤ) : (bytesOfInt x).length = 4 := by simp [bytesOfInt]

/-- Four digits in base 256 make the number again. -/
lemma digitos_cuatro (n : ℕ) (h : n < 2 ^ 32) :
    n % 256 + 256 * (n / 256 % 256 + 256 * (n / 65536 % 256 + 256 * (n / 16777216 % 256))) = n := by
  omega

/-- **An integer is read back** from its four bytes, whatever follows them. -/
theorem intOfBytes_bytesOfInt {x : ℤ} (h₁ : -2 ^ 31 ≤ x) (h₂ : x < 2 ^ 31) (l : List Byte) :
    intOfBytes (bytesOfInt x ++ l) = x := by
  have hpos : 0 ≤ x % 2 ^ 32 := Int.emod_nonneg _ (by norm_num)
  have hlt : x % 2 ^ 32 < 2 ^ 32 := Int.emod_lt_of_pos _ (by norm_num)
  have hcifras := digitos_cuatro (x % 2 ^ 32).toNat (by omega)
  have hsuma : (List.range 4).foldr
      (fun i acc => (((bytesOfInt x ++ l).getD i 0).toNat : ℤ) + 256 * acc) 0 = x % 2 ^ 32 := by
    simp only [bytesOfInt, List.range_succ, List.range_zero, List.nil_append,
      List.map_cons, List.map_nil, List.cons_append, List.foldr_cons,
      List.foldr_nil, List.getD_cons_zero, List.getD_cons_succ, UInt8.toNat_ofNat']
    omega
  have hmod : int32 (x % 2 ^ 32) = int32 x := by
    have h := Int.emod_bmod x (2 ^ 32)
    push_cast at h
    exact h
  unfold intOfBytes
  rw [hsuma, hmod, int32_of_range h₁ h₂]

/-! ### Serializers -/

/-- What C leaves open: the bytes of a fresh buffer, and those behind a payload. -/
structure Memoria where
  malloc : ℕ → Byte
  detras : ℕ → Byte

/-- The bytes `memcpy` takes from a buffer. A negative length makes the copy undefined. -/
def Memoria.copia (mem : Memoria) (l : List Byte) (n : ℤ) : Option (List Byte) :=
  if n < 0 then none else some ((List.range n.toNat).map fun i => l.getD i (mem.detras i))

/-- A buffer of `malloc(length)` with the fields copied into it, the offset running. -/
def volcar (mem : Memoria) (length : ℤ) (campos : List (List Byte)) : Option (List Byte) :=
  if length < 0 then none else fill campos 0 ((List.range length.toNat).map mem.malloc)

/-- `men_serealizer_comun`. -/
def menSerealizerComun (mem : Memoria) (self : MenComun) : Option (List Byte) := do
  let length := int32 (4 * 3 + self.tamDato)
  let dato ← mem.copia self.dato self.tamDato
  volcar mem length [bytesOfInt length, bytesOfInt self.tipo, bytesOfInt self.tamDato, dato]

/-- `men_serealizer_quantum_pcb`. -/
def menSerealizerQuantumPcb (mem : Memoria) (self : MenQuantumPcb) : Option (List Byte) :=
  let length := 4 * 13
  volcar mem length
    [bytesOfInt length, bytesOfInt self.tipo, bytesOfInt self.quantum,
      bytesOfInt self.pcb.cantVarContActual, bytesOfInt self.pcb.dirContActual,
      bytesOfInt self.pcb.dirIndiceCodigo, bytesOfInt self.pcb.dirIndiceEtiquetas,
      bytesOfInt self.pcb.dirSegCodigo, bytesOfInt self.pcb.dirSegStack, bytesOfInt self.pcb.id,
      bytesOfInt self.pcb.programCounter, bytesOfInt self.pcb.tamIndiceEtiquetas,
      bytesOfInt self.pcb.cantInstrucciones]

/-- `men_serealizer_cpu_umv`. -/
def menSerealizerCpuUmv (mem : Memoria) (self : MenCpuUmv) : Option (List Byte) := do
  let length := int32 (4 * 5 + self.tam)
  let buffer ← mem.copia self.buffer self.tam
  volcar mem length
    [bytesOfInt length, bytesOfInt self.tipo, bytesOfInt self.base, bytesOfInt self.offset,
      bytesOfInt self.tam, buffer]

/-- `men_serealizer_seg`. -/
def menSerealizerSeg (mem : Memoria) (self : MenSeg) : Option (List Byte) :=
  let length := 4 * 4
  volcar mem length
    [bytesOfInt length, bytesOfInt self.tipo, bytesOfInt self.idProg, bytesOfInt self.tamSeg]

/-- The serializer of the record a message is. -/
def serealizar (mem : Memoria) : Mensaje → Option (List Byte)
  | .comun men => menSerealizerComun mem men
  | .quantumPcb men => menSerealizerQuantumPcb mem men
  | .cpuUmv men => menSerealizerCpuUmv mem men
  | .seg men => menSerealizerSeg mem men

/-! ### Deserializers -/

/-- What a deserializer returns. A payload is a pointer, `NULL` or a fresh buffer. -/
inductive Recibido where
  | comun (tipo tamDato : ℤ) (dato : Option (List Byte))
  | quantumPcb (men : MenQuantumPcb)
  | cpuUmv (tipo base offset tam : ℤ) (buffer : Option (List Byte))
  | seg (men : MenSeg)
  deriving DecidableEq, Repr

/-- An `int32_t` at an offset of the stream. -/
def leerInt (stream : List Byte) (offset : ℤ) : Option ℤ := (slice stream offset 4).map intOfBytes

/-- A payload at an offset of the stream, `NULL` when its length is zero. -/
def leerDato (stream : List Byte) (offset tam : ℤ) : Option (Option (List Byte)) :=
  if tam = 0 then some none else (slice stream offset tam).map some

/-- `men_deserealizer_comun`. -/
def menDeserealizerComun (stream : List Byte) : Option Recibido := do
  let offset : ℤ := 4
  let tipo ← leerInt stream offset
  let offset := offset + 4
  let tamDato ← leerInt stream offset
  let offset := offset + 4
  let dato ← leerDato stream offset tamDato
  some (.comun tipo tamDato dato)

/-- `men_deserealizer_quantum_pcb`. -/
def menDeserealizerQuantumPcb (stream : List Byte) : Option Recibido := do
  let offset : ℤ := 4
  let tipo ← leerInt stream offset
  let offset := offset + 4
  let quantum ← leerInt stream offset
  let offset := offset + 4
  let cantVarContActual ← leerInt stream offset
  let offset := offset + 4
  let dirContActual ← leerInt stream offset
  let offset := offset + 4
  let dirIndiceCodigo ← leerInt stream offset
  let offset := offset + 4
  let dirIndiceEtiquetas ← leerInt stream offset
  let offset := offset + 4
  let dirSegCodigo ← leerInt stream offset
  let offset := offset + 4
  let dirSegStack ← leerInt stream offset
  let offset := offset + 4
  let id ← leerInt stream offset
  let offset := offset + 4
  let programCounter ← leerInt stream offset
  let offset := offset + 4
  let tamIndiceEtiquetas ← leerInt stream offset
  let offset := offset + 4
  let cantInstrucciones ← leerInt stream offset
  some (.quantumPcb ⟨tipo, quantum,
    { cantVarContActual, dirContActual, dirIndiceCodigo, dirIndiceEtiquetas, dirSegCodigo,
      dirSegStack, id, programCounter, tamIndiceEtiquetas, cantInstrucciones }⟩)

/-- `men_deserealizer_cpu_umv`. -/
def menDeserealizerCpuUmv (stream : List Byte) : Option Recibido := do
  let offset : ℤ := 4
  let tipo ← leerInt stream offset
  let offset := offset + 4
  let base ← leerInt stream offset
  let offset := offset + 4
  let desplazamiento ← leerInt stream offset
  let offset := offset + 4
  let tam ← leerInt stream offset
  let offset := offset + 4
  let buffer ← leerDato stream offset tam
  some (.cpuUmv tipo base desplazamiento tam buffer)

/-- `men_deserealizer_seg`. -/
def menDeserealizerSeg (stream : List Byte) : Option Recibido := do
  let offset : ℤ := 4
  let tipo ← leerInt stream offset
  let offset := offset + 4
  let idProg ← leerInt stream offset
  let offset := offset + 4
  let tamSeg ← leerInt stream offset
  some (.seg ⟨tipo, idProg, tamSeg⟩)

/-- The four kinds of record. -/
inductive Clase where
  | comun | quantumPcb | cpuUmv | seg
  deriving DecidableEq, Repr

/-- The kind of record a message is. -/
def Mensaje.clase : Mensaje → Clase
  | .comun _ => .comun
  | .quantumPcb _ => .quantumPcb
  | .cpuUmv _ => .cpuUmv
  | .seg _ => .seg

/-- The deserializer of a kind of record. -/
def deserealizar : Clase → List Byte → Option Recibido
  | .comun => menDeserealizerComun
  | .quantumPcb => menDeserealizerQuantumPcb
  | .cpuUmv => menDeserealizerCpuUmv
  | .seg => menDeserealizerSeg

/-- The payload of a record as a pointer. -/
def puntero (l : List Byte) : Option (List Byte) := if l = [] then none else some l

/-- The record with the fields and the payload of a message. -/
def Mensaje.recibido : Mensaje → Recibido
  | .comun men => .comun men.tipo men.tamDato (puntero men.dato)
  | .quantumPcb men => .quantumPcb men
  | .cpuUmv men => .cpuUmv men.tipo men.base men.offset men.tam (puntero men.buffer)
  | .seg men => .seg men

/-- The length field in front of a stream, once its four bytes are there. -/
def longitud (stream : List Byte) : Option ℕ :=
  (slice stream 0 4).bind fun l => if 0 ≤ intOfBytes l then some (intOfBytes l).toNat else none

/-- A stream cut by the length fields into records of the given kinds, and what is left of it. -/
def decodificar : List Clase → List Byte → Option (List Recibido × List Byte) :=
  frames longitud deserealizar

/-! ### Records that fit -/

/-- An `int32_t` holds the value. -/
def EsInt32 (x : ℤ) : Prop := -2 ^ 31 ≤ x ∧ x < 2 ^ 31

/-- The integers of a record, in the order they travel in. -/
def Mensaje.campos : Mensaje → List ℤ
  | .comun men => [men.tipo, men.tamDato]
  | .quantumPcb men =>
    [men.tipo, men.quantum, men.pcb.cantVarContActual, men.pcb.dirContActual,
      men.pcb.dirIndiceCodigo, men.pcb.dirIndiceEtiquetas, men.pcb.dirSegCodigo,
      men.pcb.dirSegStack, men.pcb.id, men.pcb.programCounter, men.pcb.tamIndiceEtiquetas,
      men.pcb.cantInstrucciones]
  | .cpuUmv men => [men.tipo, men.base, men.offset, men.tam]
  | .seg men => [men.tipo, men.idProg, men.tamSeg]

/-- The payload of a record. -/
def Mensaje.dato : Mensaje → List Byte
  | .comun men => men.dato
  | .cpuUmv men => men.buffer
  | _ => []

/-- The bytes of a record, its own length and its payload included. -/
def Mensaje.largo (m : Mensaje) : ℤ := 4 * (m.campos.length + 1) + m.dato.length

/-- The field that says how long the payload is says so. -/
def Mensaje.TamCierto : Mensaje → Prop
  | .comun men => men.tamDato = men.dato.length
  | .cpuUmv men => men.tam = men.buffer.length
  | _ => True

/-- The fields are `int32_t`, a payload has the length its field says, and the length of the whole
is an `int`. -/
structure Mensaje.EnRango (m : Mensaje) : Prop where
  campos : ∀ x ∈ m.campos, EsInt32 x
  tam : m.TamCierto
  largo : m.largo < 2 ^ 31

/-- The integers of the record and its payload, one after the other. -/
def Mensaje.trama (m : Mensaje) : List Byte := (m.largo :: m.campos).flatMap bytesOfInt ++ m.dato

lemma flatMap_bytesOfInt_length (xs : List ℤ) :
    (xs.flatMap bytesOfInt).length = 4 * xs.length := by
  induction xs with
  | nil => rfl
  | cons x xs ih =>
    rw [List.flatMap_cons, List.length_append, ih, bytesOfInt_length, List.length_cons]
    omega

lemma Mensaje.trama_length (m : Mensaje) : (m.trama.length : ℤ) = m.largo := by
  unfold trama largo
  rw [List.length_append, flatMap_bytesOfInt_length, List.length_cons]
  push_cast
  ring

/-! ### Serializing -/

/-- A payload of the length its field says is copied as it is. -/
lemma Memoria.copia_exacta (mem : Memoria) {l : List Byte} {n : ℤ} (hn : n = l.length) :
    mem.copia l n = some l := by
  subst hn
  have hl : (List.range l.length).map (fun i => l.getD i (mem.detras i)) = l :=
    List.ext_getElem (by simp) fun i h₁ h₂ => by simp [h₂]
  unfold Memoria.copia
  rw [if_neg (by omega), Int.toNat_natCast, hl]

/-- A buffer of exactly the size of its fields holds nothing else. -/
lemma volcar_trama (mem : Memoria) (m : Mensaje) {length : ℤ} {campos : List (List Byte)}
    (hlargo : length = m.largo) (hcampos : campos.flatten = m.trama) :
    volcar mem length campos = some m.trama := by
  have hlen := m.trama_length
  have hbuf : 0 + campos.flatten.length = ((List.range length.toNat).map mem.malloc).length := by
    rw [hcampos, List.length_map, List.length_range]
    omega
  unfold volcar
  rw [if_neg (by omega), fill_exact campos 0 _ hbuf, List.take_zero, List.nil_append, hcampos]

/-- The length a serializer computes is the length of the frame. -/
lemma EnRango.int32_largo {m : Mensaje} (h : m.EnRango) : int32 m.largo = m.largo := by
  refine int32_of_range ?_ h.largo
  unfold Mensaje.largo
  omega

/-- **A serializer writes the frame of its record**, whatever the fresh buffer held. -/
theorem serealizar_trama (mem : Memoria) {m : Mensaje} (h : m.EnRango) :
    serealizar mem m = some m.trama := by
  have hint := EnRango.int32_largo h
  cases m with
  | comun men =>
    have htam : men.tamDato = men.dato.length := h.tam
    have hlargo : 4 * 3 + men.tamDato = Mensaje.largo (.comun men) := by
      simp [Mensaje.largo, Mensaje.campos, Mensaje.dato, htam]
    simp only [serealizar, menSerealizerComun, mem.copia_exacta htam, hlargo, hint]
    exact volcar_trama mem (.comun men) rfl (by simp [Mensaje.trama, Mensaje.campos, Mensaje.dato])
  | quantumPcb men =>
    have hlargo : 4 * 13 = Mensaje.largo (.quantumPcb men) := by
      simp [Mensaje.largo, Mensaje.campos, Mensaje.dato]
    unfold serealizar menSerealizerQuantumPcb
    exact volcar_trama mem (.quantumPcb men) hlargo
      (by rw [hlargo]; simp [Mensaje.trama, Mensaje.campos, Mensaje.dato])
  | cpuUmv men =>
    have htam : men.tam = men.buffer.length := h.tam
    have hlargo : 4 * 5 + men.tam = Mensaje.largo (.cpuUmv men) := by
      simp [Mensaje.largo, Mensaje.campos, Mensaje.dato, htam]
    simp only [serealizar, menSerealizerCpuUmv, mem.copia_exacta htam, hlargo, hint]
    exact volcar_trama mem (.cpuUmv men) rfl
      (by simp [Mensaje.trama, Mensaje.campos, Mensaje.dato])
  | seg men =>
    have hlargo : 4 * 4 = Mensaje.largo (.seg men) := by
      simp [Mensaje.largo, Mensaje.campos, Mensaje.dato]
    unfold serealizar menSerealizerSeg
    exact volcar_trama mem (.seg men) hlargo
      (by rw [hlargo]; simp [Mensaje.trama, Mensaje.campos, Mensaje.dato])

/-! ### Deserializing -/

/-- An integer of a frame, at four times its place. -/
lemma leerInt_campo {xs : List ℤ} (hxs : ∀ x ∈ xs, EsInt32 x) (l : List Byte) {i : ℕ} {x p : ℤ}
    (hi : xs[i]? = some x) (hp : p = 4 * i) :
    leerInt (xs.flatMap bytesOfInt ++ l) p = some x := by
  obtain ⟨hlt, rfl⟩ := List.getElem?_eq_some_iff.1 hi
  have hsplit : xs = xs.take i ++ xs[i] :: xs.drop (i + 1) := by simp
  have hlen : ((xs.take i).flatMap bytesOfInt).length = 4 * i := by
    rw [flatMap_bytesOfInt_length, List.length_take]
    omega
  have hx := hxs xs[i] (List.getElem_mem hlt)
  have hread : slice (xs.flatMap bytesOfInt ++ l) p 4 = some (bytesOfInt xs[i]) := by
    conv_lhs => rw [hsplit]
    rw [List.flatMap_append, List.flatMap_cons, List.append_assoc, List.append_assoc]
    exact slice_middle _ _ _ (by rw [hlen, hp]; push_cast; rfl) (by simp)
  unfold leerInt
  rw [hread, Option.map_some, ← List.append_nil (bytesOfInt xs[i]),
    intOfBytes_bytesOfInt hx.1 hx.2]

/-- The payload of a frame, behind its integers. -/
lemma leerDato_dato (xs : List ℤ) (l : List Byte) {p n : ℤ} (hp : p = 4 * xs.length)
    (hn : n = l.length) : leerDato (xs.flatMap bytesOfInt ++ l) p n = some (puntero l) := by
  have hread : slice (xs.flatMap bytesOfInt ++ l) p n = some l := by
    have h := slice_middle (xs.flatMap bytesOfInt) l [] (p := p) (n := n)
      (by rw [hp, flatMap_bytesOfInt_length]; push_cast; rfl) hn
    rwa [List.append_nil] at h
  unfold leerDato puntero
  by_cases hl : l = []
  · rw [if_pos (by simp [hn, hl]), if_pos hl]
  · have hpos := List.length_pos_of_ne_nil hl
    rw [if_neg (by omega), if_neg hl, hread]
    rfl

/-- **A deserializer undoes its serializer.** -/
theorem deserealizar_trama {m : Mensaje} (h : m.EnRango) :
    deserealizar m.clase m.trama = some m.recibido := by
  have hxs : ∀ x ∈ m.largo :: m.campos, EsInt32 x := by
    intro x hx
    rcases List.mem_cons.1 hx with rfl | hx
    · refine ⟨?_, h.largo⟩
      unfold Mensaje.largo
      omega
    · exact h.campos x hx
  have hint : ∀ (i : ℕ) (x p : ℤ), (m.largo :: m.campos)[i]? = some x → p = 4 * i →
      leerInt m.trama p = some x := fun i x p => leerInt_campo hxs m.dato
  have hdato : ∀ p n : ℤ, p = 4 * (m.campos.length + 1) → n = m.dato.length →
      leerDato m.trama p n = some (puntero m.dato) := by
    intro p n hp hn
    exact leerDato_dato _ _ (by rw [hp]; simp) hn
  cases m with
  | comun men =>
    have h1 := hint 1 men.tipo 4 rfl (by norm_num)
    have h2 := hint 2 men.tamDato 8 rfl (by norm_num)
    have h3 := hdato 12 men.tamDato (by norm_num [Mensaje.campos]) h.tam
    unfold deserealizar Mensaje.clase menDeserealizerComun
    norm_num [h1, h2, h3]
    rfl
  | quantumPcb men =>
    have h1 := hint 1 men.tipo 4 rfl (by norm_num)
    have h2 := hint 2 men.quantum 8 rfl (by norm_num)
    have h3 := hint 3 men.pcb.cantVarContActual 12 rfl (by norm_num)
    have h4 := hint 4 men.pcb.dirContActual 16 rfl (by norm_num)
    have h5 := hint 5 men.pcb.dirIndiceCodigo 20 rfl (by norm_num)
    have h6 := hint 6 men.pcb.dirIndiceEtiquetas 24 rfl (by norm_num)
    have h7 := hint 7 men.pcb.dirSegCodigo 28 rfl (by norm_num)
    have h8 := hint 8 men.pcb.dirSegStack 32 rfl (by norm_num)
    have h9 := hint 9 men.pcb.id 36 rfl (by norm_num)
    have h10 := hint 10 men.pcb.programCounter 40 rfl (by norm_num)
    have h11 := hint 11 men.pcb.tamIndiceEtiquetas 44 rfl (by norm_num)
    have h12 := hint 12 men.pcb.cantInstrucciones 48 rfl (by norm_num)
    unfold deserealizar Mensaje.clase menDeserealizerQuantumPcb
    norm_num [h1, h2, h3, h4, h5, h6, h7, h8, h9, h10, h11, h12]
    rfl
  | cpuUmv men =>
    have h1 := hint 1 men.tipo 4 rfl (by norm_num)
    have h2 := hint 2 men.base 8 rfl (by norm_num)
    have h3 := hint 3 men.offset 12 rfl (by norm_num)
    have h4 := hint 4 men.tam 16 rfl (by norm_num)
    have h5 := hdato 20 men.tam (by norm_num [Mensaje.campos]) h.tam
    unfold deserealizar Mensaje.clase menDeserealizerCpuUmv
    norm_num [h1, h2, h3, h4, h5]
    rfl
  | seg men =>
    have h1 := hint 1 men.tipo 4 rfl (by norm_num)
    have h2 := hint 2 men.idProg 8 rfl (by norm_num)
    have h3 := hint 3 men.tamSeg 12 rfl (by norm_num)
    unfold deserealizar Mensaje.clase menDeserealizerSeg
    norm_num [h1, h2, h3]
    rfl

/-- The length in front of a frame is its length, whatever follows it. -/
lemma longitud_trama {m : Mensaje} (h : m.EnRango) (l : List Byte) :
    longitud (m.trama ++ l) = some m.trama.length := by
  have hlen := m.trama_length
  have hmin : -2 ^ 31 ≤ m.largo := by omega
  have hread : slice (m.trama ++ l) 0 4 = some (bytesOfInt m.largo) := by
    have h := slice_middle [] (bytesOfInt m.largo) (m.campos.flatMap bytesOfInt ++ (m.dato ++ l))
      (p := 0) (n := 4) (by simp) (by simp)
    simpa [Mensaje.trama] using h
  unfold longitud
  rw [hread, Option.bind_some, ← List.append_nil (bytesOfInt m.largo),
    intOfBytes_bytesOfInt hmin h.largo, if_pos (by omega)]
  congr 1
  omega

/-- The message a receiver works with. -/
def Recibido.mensaje : Recibido → Mensaje
  | .comun tipo tamDato dato => .comun ⟨tamDato, tipo, dato.getD []⟩
  | .quantumPcb men => .quantumPcb men
  | .cpuUmv tipo base offset tam buffer => .cpuUmv ⟨tipo, base, offset, tam, buffer.getD []⟩
  | .seg men => .seg men

/-- What arrives of a message that is sent. -/
def llega (mem : Memoria) (m : Mensaje) : Option Mensaje :=
  (serealizar mem m).bind fun stream => (deserealizar m.clase stream).map Recibido.mensaje

lemma puntero_getD (l : List Byte) : (puntero l).getD [] = l := by
  unfold puntero
  split
  · rename_i h
    rw [h]
    rfl
  · rfl

/-- A message that fits arrives as it was sent. -/
lemma llega_eq (mem : Memoria) {m : Mensaje} (h : m.EnRango) : llega mem m = some m := by
  rw [llega, serealizar_trama mem h, Option.bind_some, deserealizar_trama h, Option.map_some]
  cases m <;> simp [Mensaje.recibido, Recibido.mensaje, puntero_getD]

/-- **Decoding undoes encoding**, message by message and in a stream: each message is serialized,
its length field is the number of its bytes, its deserializer gives its fields and its payload back;
and the frames one after the other are cut into exactly the messages sent, with no byte left. -/
theorem decodificar_serealizar (l : List (Memoria × Mensaje)) (h : ∀ e ∈ l, e.2.EnRango) :
    ∃ streams : List (List Byte),
      List.Forall₂ (fun e stream => serealizar e.1 e.2 = some stream ∧
        longitud stream = some stream.length ∧
        deserealizar e.2.clase stream = some e.2.recibido) l streams ∧
      decodificar (l.map fun e => e.2.clase) streams.flatten
        = some (l.map fun e => e.2.recibido, []) := by
  refine ⟨l.map fun e => e.2.trama, ?_, ?_⟩
  · rw [List.forall₂_map_right_iff, List.forall₂_same]
    intro e he
    have hlong := longitud_trama (h e he) []
    rw [List.append_nil] at hlong
    exact ⟨serealizar_trama e.1 (h e he), hlong, deserealizar_trama (h e he)⟩
  · have hframes : decodificar (l.map fun e => e.2.clase) (l.flatMap (fun e => e.2.trama) ++ [])
        = some (l.map fun e => e.2.recibido, []) :=
      frames_flatMap l (fun e he rest => longitud_trama (h e he) rest)
        (fun e he => deserealizar_trama (h e he)) []
    rwa [List.append_nil, List.flatMap_def] at hframes

/-- Messages of the test program: an empty one, one with a zero inside, a request for a segment, and
a pcb whose fields all differ. -/
def mensajesDePrueba : List (Memoria × Mensaje) :=
  [.comun (crearMenComun TipoDatos.conecCerrada []), .comun (crearMenComun 10 [1, 0, 4]),
    .quantumPcb ⟨15, 6, ⟨-1, 2, 3, 4, 5, 6, 7, 8, 9, 10⟩⟩, .cpuUmv ⟨1, 2, 2, 3, [5, 0, 1]⟩,
    .seg ⟨1, 2, 100⟩].map fun m => (⟨fun _ => 7, fun _ => 9⟩, m)

lemma enRango_mensajesDePrueba : ∀ e ∈ mensajesDePrueba, e.2.EnRango := by
  intro e he
  simp only [mensajesDePrueba, List.map_cons, List.map_nil, List.mem_cons, List.not_mem_nil,
    or_false] at he
  rcases he with rfl | rfl | rfl | rfl | rfl <;>
    exact ⟨by simp [Mensaje.campos, EsInt32, crearMenComun, TipoDatos.val],
      by simp [Mensaje.TamCierto, crearMenComun],
      by simp [Mensaje.largo, Mensaje.campos, Mensaje.dato, crearMenComun]⟩

theorem decodificar_mensajesDePrueba :
    ∃ streams : List (List Byte), streams.length = 5 ∧
      decodificar [.comun, .comun, .quantumPcb, .cpuUmv, .seg] streams.flatten
        = some ([.comun 0 0 none, .comun 10 3 (some [1, 0, 4]),
            .quantumPcb ⟨15, 6, ⟨-1, 2, 3, 4, 5, 6, 7, 8, 9, 10⟩⟩, .cpuUmv 1 2 2 3 (some [5, 0, 1]),
            .seg ⟨1, 2, 100⟩], []) := by
  obtain ⟨streams, hstreams, hdec⟩ := decodificar_serealizar mensajesDePrueba enRango_mensajesDePrueba
  exact ⟨streams, hstreams.length_eq.symm, hdec⟩

end Ansisop.Sockets
