import Ansisop.Sockets.Wire

/-!
The receiving side of `sockets_lib.c`, on a connection whose bytes arrive little by little.

The four functions differ in the deserializer they end with and in the message they make up for a
closed connection. Each first peeks at the length of the frame, four bytes, and then receives that
many bytes. The peek may return fewer than four: the rest of the length is then what `malloc` found
in `aux_len`. The second receive may return fewer than asked for when the peer has closed, and the
deserializer reads on all the same; in the model a byte that has not been received makes it fail.
-/

namespace Ansisop.Sockets

open Ansisop.Lib.Frames

/-! ### The connection -/

/-- What the peer has sent and nobody has received yet, and whether the peer has closed after it. -/
structure Conexion where
  bytes : List Byte
  cierra : Bool
  deriving DecidableEq, Repr

/-- The moment of a peek: how many of the bytes that have arrived it hands over, and what the fresh
block it copies them to held before. -/
structure Momento where
  vistos : ℕ
  auxLen : ℕ → Byte
  uno : 1 ≤ vistos
  cuatro : vistos ≤ 4

/-- `recv` of four bytes with `MSG_PEEK`: it waits for the first byte or for the end. -/
def Conexion.recvPeek (c : Conexion) (t : Momento) : Option (List Byte) :=
  if c.bytes = [] ∧ c.cierra = false then none else some (c.bytes.take t.vistos)

/-- `recv` of `n` bytes with `MSG_WAITALL`: it waits for all of them or for the end. -/
def Conexion.recvWaitall (c : Conexion) (n : ℕ) : Option (List Byte × Conexion) :=
  if c.bytes.length < n ∧ c.cierra = false then none
  else some (c.bytes.take n, { c with bytes := c.bytes.drop n })

/-- The block `aux_len` once the bytes peeked at are in its front. -/
def Momento.bloque (t : Momento) (visto : List Byte) : List Byte :=
  visto ++ ((List.range 4).drop visto.length).map t.auxLen

/-- The length a peek at these bytes reads. -/
def Momento.longitud (t : Momento) (bytes : List Byte) : ℤ :=
  intOfBytes (t.bloque (bytes.take t.vistos))

/-! ### Receiving -/

/-- What a call returns: the message it makes up for a closed connection, or the one it decodes. -/
inductive Recepcion where
  | cerrada (men : Recibido)
  | mensaje (men : Recibido)
  deriving DecidableEq, Repr

/-- The record returned. -/
def Recepcion.recibido : Recepcion → Recibido
  | cerrada men => men
  | mensaje men => men

/-- What the four receiving functions share. An array of negative length is undefined; a length of
zero makes the second `recv` return zero, as a closed connection does. -/
def recibir (menDeserealizer : List Byte → Option Recibido) (aviso : Option Recibido) (t : Momento)
    (c : Conexion) : Option (Recepcion × Conexion) := do
  let visto ← c.recvPeek t
  if visto = [] then aviso.map fun men => (.cerrada men, c)
  else
    let length := intOfBytes (t.bloque visto)
    if length < 0 then none
    else
      let r ← c.recvWaitall length.toNat
      if r.1 = [] then aviso.map fun men => (.cerrada men, r.2)
      else (menDeserealizer r.1).map fun men => (.mensaje men, r.2)

/-- `crear_men_quantum_pcb`, which copies the pcb from a pointer. -/
def crearMenQuantumPcb (tipo quantum : ℤ) (pcb : Option Pcb) : Option MenQuantumPcb :=
  pcb.map fun pcb => ⟨tipo, quantum, pcb⟩

/-- `socket_recv_comun`. -/
def socketRecvComun : Momento → Conexion → Option (Recepcion × Conexion) :=
  recibir menDeserealizerComun (some (.comun TipoDatos.conecCerrada 0 (some [])))

/-- `socket_recv_quantum_pcb`. -/
def socketRecvQuantumPcb : Momento → Conexion → Option (Recepcion × Conexion) :=
  recibir menDeserealizerQuantumPcb
    ((crearMenQuantumPcb TipoDatos.conecCerrada 0 none).map .quantumPcb)

/-- `socket_recv_cpu_umv`. -/
def socketRecvCpuUmv : Momento → Conexion → Option (Recepcion × Conexion) :=
  recibir menDeserealizerCpuUmv (some (.cpuUmv TipoDatos.conecCerrada 0 0 0 (some [])))

/-- `socket_recv_seg`. -/
def socketRecvSeg : Momento → Conexion → Option (Recepcion × Conexion) :=
  recibir menDeserealizerSeg (some (.seg ⟨TipoDatos.conecCerrada, 0, 0⟩))

/-- The receiving function of a kind of record. -/
def socketRecv : Clase → Momento → Conexion → Option (Recepcion × Conexion)
  | .comun => socketRecvComun
  | .quantumPcb => socketRecvQuantumPcb
  | .cpuUmv => socketRecvCpuUmv
  | .seg => socketRecvSeg

/-- The message of that kind for a closed connection; the one with a pcb copies it from `NULL`. -/
def avisoCierre : Clase → Option Recibido
  | .comun => some (.comun TipoDatos.conecCerrada 0 (some []))
  | .quantumPcb => none
  | .cpuUmv => some (.cpuUmv TipoDatos.conecCerrada 0 0 0 (some []))
  | .seg => some (.seg ⟨TipoDatos.conecCerrada, 0, 0⟩)

lemma socketRecv_eq (k : Clase) : socketRecv k = recibir (deserealizar k) (avisoCierre k) := by
  cases k <;> rfl

section Cases

variable {k : Clase} {t : Momento} {c c' : Conexion} {r : Recepcion}

/-- With nothing left a call waits, or says that the connection is closed. -/
lemma socketRecv_vacia (h : c.bytes = []) :
    socketRecv k t c =
      if c.cierra = false then none else (avisoCierre k).map fun men => (.cerrada men, c) := by
  rw [socketRecv_eq]
  unfold recibir Conexion.recvPeek
  by_cases hc : c.cierra = false
  · rw [if_pos ⟨h, hc⟩, if_pos hc]
    rfl
  · rw [if_neg fun hand => hc hand.2, if_neg hc, h, List.take_nil]
    rfl

/-- With bytes left a call receives as many as the length it has read. -/
lemma socketRecv_bytes (h : c.bytes ≠ []) :
    socketRecv k t c =
      if t.longitud c.bytes < 0 then none
      else if (c.bytes.length : ℤ) < t.longitud c.bytes ∧ c.cierra = false then none
      else if t.longitud c.bytes = 0 then (avisoCierre k).map fun men => (.cerrada men, c)
      else (deserealizar k (c.bytes.take (t.longitud c.bytes).toNat)).map fun men =>
        (.mensaje men, { c with bytes := c.bytes.drop (t.longitud c.bytes).toNat }) := by
  have huno := t.uno
  have hlen := List.length_pos_of_ne_nil h
  have hvisto : c.bytes.take t.vistos ≠ [] := by
    rw [Ne, List.take_eq_nil_iff]
    rintro (h0 | hnil)
    · omega
    · exact h hnil
  rw [socketRecv_eq]
  unfold recibir Conexion.recvPeek
  rw [if_neg fun hand => h hand.1]
  simp only [Option.bind_eq_bind, Option.bind_some]
  rw [if_neg hvisto]
  have hlong : intOfBytes (t.bloque (c.bytes.take t.vistos)) = t.longitud c.bytes := by
    rw [Momento.longitud]
  rw [hlong]
  generalize t.longitud c.bytes = n
  by_cases hneg : n < 0
  · rw [if_pos hneg, if_pos hneg]
  · rw [if_neg hneg, if_neg hneg]
    unfold Conexion.recvWaitall
    by_cases hespera : (c.bytes.length : ℤ) < n ∧ c.cierra = false
    · rw [if_pos hespera, if_pos ⟨by omega, hespera.2⟩, Option.bind_none]
    · rw [if_neg hespera, if_neg fun hand => hespera ⟨by omega, hand.2⟩]
      rw [Option.bind_some]
      by_cases h0 : n = 0
      · rw [if_pos h0, h0, Int.toNat_zero, List.take_zero, List.drop_zero, if_pos rfl]
      · rw [if_neg h0, if_neg]
        rw [List.take_eq_nil_iff]
        rintro (hn | hnil)
        · omega
        · exact h hnil

/-- **A call that returns**: there was nothing left, or the length read was zero, or that many bytes
were received (all there were, if the peer had closed) and decoded. -/
lemma socketRecv_some (h : socketRecv k t c = some (r, c')) :
    (c' = c ∧ (c.bytes = [] ∨ t.longitud c.bytes = 0) ∧
        ∃ men, avisoCierre k = some men ∧ r = .cerrada men) ∨
      (c.bytes ≠ [] ∧ 0 < t.longitud c.bytes ∧
        (t.longitud c.bytes ≤ c.bytes.length ∨ c.cierra = true) ∧
        c' = { c with bytes := c.bytes.drop (t.longitud c.bytes).toNat } ∧
        ∃ men, deserealizar k (c.bytes.take (t.longitud c.bytes).toNat) = some men ∧
          r = .mensaje men) := by
  by_cases hnil : c.bytes = []
  · rw [socketRecv_vacia hnil] at h
    split at h
    · cases h
    · obtain ⟨men, hmen, heq⟩ := Option.map_eq_some_iff.1 h
      obtain ⟨rfl, rfl⟩ := Prod.mk.inj heq
      exact .inl ⟨rfl, .inl hnil, men, hmen, rfl⟩
  · rw [socketRecv_bytes hnil] at h
    split at h
    · cases h
    · split at h
      · cases h
      · rename_i hneg hespera
        split at h
        · rename_i h0
          obtain ⟨men, hmen, heq⟩ := Option.map_eq_some_iff.1 h
          obtain ⟨rfl, rfl⟩ := Prod.mk.inj heq
          exact .inl ⟨rfl, .inr h0, men, hmen, rfl⟩
        · rename_i h0
          obtain ⟨men, hmen, heq⟩ := Option.map_eq_some_iff.1 h
          obtain ⟨rfl, rfl⟩ := Prod.mk.inj heq
          refine .inr ⟨hnil, by omega, ?_, rfl, men, hmen, rfl⟩
          by_cases hle : t.longitud c.bytes ≤ c.bytes.length
          · exact .inl hle
          · right
            by_contra hc
            exact hespera ⟨by omega, by simpa using hc⟩

end Cases

/-! ### What a deserializer needs -/

lemma slice_isSome {l : List Byte} {p n : ℤ} :
    (slice l p n).isSome ↔ 0 ≤ p ∧ 0 ≤ n ∧ p + n ≤ l.length := by
  unfold slice
  split <;> simp_all

lemma leerInt_isSome {l : List Byte} {p : ℤ} (hp : 0 ≤ p) :
    (leerInt l p).isSome ↔ p + 4 ≤ l.length := by
  unfold leerInt
  rw [Option.isSome_map, slice_isSome]
  omega

lemma leerDato_isSome {l : List Byte} {p n : ℤ} (hp : 0 ≤ p) (hle : p ≤ l.length) :
    (leerDato l p n).isSome ↔ 0 ≤ n ∧ p + n ≤ l.length := by
  unfold leerDato
  split
  · rename_i hn
    subst hn
    simp only [Option.isSome_some, true_iff]
    omega
  · rw [Option.isSome_map, slice_isSome]
    omega

/-- The bytes of a frame in front of the payload. -/
def Clase.tamFijo : Clase → ℤ
  | .comun => 12
  | .quantumPcb => 52
  | .cpuUmv => 20
  | .seg => 16

/-- Where a frame says how long its payload is. -/
def Clase.campoTam : Clase → Option ℤ
  | .comun => some 8
  | .cpuUmv => some 16
  | _ => none

/-- The length of the payload that a record says it has. -/
def Recibido.tam : Recibido → ℤ
  | .comun _ tamDato _ => tamDato
  | .cpuUmv _ _ _ tam _ => tam
  | _ => 0

/-- **What a deserializer needs**: the fixed part of the frame, and the payload that the record says
it has. -/
theorem deserealizar_some {k : Clase} {stream : List Byte} {r : Recibido}
    (h : deserealizar k stream = some r) :
    0 ≤ r.tam ∧ k.tamFijo + r.tam ≤ stream.length ∧
      ∀ p, k.campoTam = some p → leerInt stream p = some r.tam := by
  have hint : ∀ {p x : ℤ}, 0 ≤ p → leerInt stream p = some x → p + 4 ≤ stream.length :=
    fun hp hx => (leerInt_isSome hp).1 (by rw [hx]; rfl)
  have hdato : ∀ {p n : ℤ} {d : Option (List Byte)}, 0 ≤ p → p ≤ stream.length →
      leerDato stream p n = some d → 0 ≤ n ∧ p + n ≤ stream.length :=
    fun hp hle hd => (leerDato_isSome hp hle).1 (by rw [hd]; rfl)
  cases k with
  | comun =>
    simp only [deserealizar, menDeserealizerComun, Option.bind_eq_bind,
      Option.bind_eq_some_iff] at h
    obtain ⟨tipo, -, tam, htam, dato, hd, h⟩ := h
    obtain rfl := Option.some.inj h
    have h12 := hint (by norm_num) htam
    obtain ⟨h0, hle⟩ := hdato (by norm_num) (by omega) hd
    refine ⟨h0, by simpa [Clase.tamFijo, Recibido.tam] using hle, fun p hp => ?_⟩
    obtain rfl := Option.some.inj hp
    exact htam
  | quantumPcb =>
    obtain ⟨_, -, h⟩ := Option.bind_eq_some_iff.1 h
    obtain ⟨_, -, h⟩ := Option.bind_eq_some_iff.1 h
    obtain ⟨_, -, h⟩ := Option.bind_eq_some_iff.1 h
    obtain ⟨_, -, h⟩ := Option.bind_eq_some_iff.1 h
    obtain ⟨_, -, h⟩ := Option.bind_eq_some_iff.1 h
    obtain ⟨_, -, h⟩ := Option.bind_eq_some_iff.1 h
    obtain ⟨_, -, h⟩ := Option.bind_eq_some_iff.1 h
    obtain ⟨_, -, h⟩ := Option.bind_eq_some_iff.1 h
    obtain ⟨_, -, h⟩ := Option.bind_eq_some_iff.1 h
    obtain ⟨_, -, h⟩ := Option.bind_eq_some_iff.1 h
    obtain ⟨_, -, h⟩ := Option.bind_eq_some_iff.1 h
    obtain ⟨_, hx, h⟩ := Option.bind_eq_some_iff.1 h
    obtain rfl := Option.some.inj h
    have h52 := hint (by norm_num) hx
    refine ⟨le_rfl, ?_, fun p hp => by cases hp⟩
    simp only [Clase.tamFijo, Recibido.tam]
    omega
  | cpuUmv =>
    simp only [deserealizar, menDeserealizerCpuUmv, Option.bind_eq_bind,
      Option.bind_eq_some_iff] at h
    obtain ⟨tipo, -, base, -, offset, -, tam, htam, buffer, hd, h⟩ := h
    obtain rfl := Option.some.inj h
    have h20 := hint (by norm_num) htam
    obtain ⟨h0, hle⟩ := hdato (by norm_num) (by omega) hd
    refine ⟨h0, by simpa [Clase.tamFijo, Recibido.tam] using hle, fun p hp => ?_⟩
    obtain rfl := Option.some.inj hp
    exact htam
  | seg =>
    simp only [deserealizar, menDeserealizerSeg, Option.bind_eq_bind,
      Option.bind_eq_some_iff] at h
    obtain ⟨_, -, _, -, _, hx, h⟩ := h
    obtain rfl := Option.some.inj h
    have h16 := hint (by norm_num) hx
    refine ⟨le_rfl, ?_, fun p hp => by cases hp⟩
    simp only [Clase.tamFijo, Recibido.tam]
    omega

/-- A frame is as long as its fixed part and its payload. -/
lemma Mensaje.largo_eq {m : Mensaje} (h : m.EnRango) :
    m.largo = m.clase.tamFijo + m.recibido.tam := by
  have htam := h.tam
  cases m with
  | comun men =>
    have htam : men.tamDato = men.dato.length := htam
    simp [largo, campos, Mensaje.dato, clase, Clase.tamFijo, recibido, Recibido.tam, htam]
  | quantumPcb men => rfl
  | cpuUmv men =>
    have htam : men.tam = men.buffer.length := htam
    simp [largo, campos, Mensaje.dato, clase, Clase.tamFijo, recibido, Recibido.tam, htam]
  | seg men => rfl

/-- A frame is well formed: it says how long it is, it holds the fixed part, and the rest is as long
as it says the payload is. -/
structure BienFormada (k : Clase) (frame : List Byte) : Prop where
  longitud : longitud frame = some frame.length
  fijo : k.tamFijo ≤ frame.length
  tam : ∀ p, k.campoTam = some p → leerInt frame p = some (frame.length - k.tamFijo)

/-- A well-formed frame is decoded. -/
lemma BienFormada.exists_deserealizar {k : Clase} {frame : List Byte} (h : BienFormada k frame) :
    ∃ men, deserealizar k frame = some men := by
  have hint : ∀ p : ℤ, 0 ≤ p → p + 4 ≤ k.tamFijo → ∃ x, leerInt frame p = some x := by
    intro p hp hle
    have hfijo := h.fijo
    exact Option.isSome_iff_exists.1 ((leerInt_isSome hp).2 (by omega))
  have hfijo := h.fijo
  cases k with
  | comun =>
    obtain ⟨tipo, h4⟩ := hint 4 (by decide) (by decide)
    have h8 := h.tam 8 rfl
    simp only [Clase.tamFijo] at h8 hfijo
    obtain ⟨dato, hd⟩ := Option.isSome_iff_exists.1
      ((leerDato_isSome (l := frame) (p := 12) (n := frame.length - 12) (by norm_num)
        (by omega)).2 ⟨by omega, by omega⟩)
    refine ⟨.comun tipo (frame.length - 12) dato, ?_⟩
    simp only [deserealizar, menDeserealizerComun]
    norm_num [h4, h8, hd]
  | quantumPcb =>
    obtain ⟨x1, h1⟩ := hint 4 (by decide) (by decide)
    obtain ⟨x2, h2⟩ := hint 8 (by decide) (by decide)
    obtain ⟨x3, h3⟩ := hint 12 (by decide) (by decide)
    obtain ⟨x4, h4⟩ := hint 16 (by decide) (by decide)
    obtain ⟨x5, h5⟩ := hint 20 (by decide) (by decide)
    obtain ⟨x6, h6⟩ := hint 24 (by decide) (by decide)
    obtain ⟨x7, h7⟩ := hint 28 (by decide) (by decide)
    obtain ⟨x8, h8⟩ := hint 32 (by decide) (by decide)
    obtain ⟨x9, h9⟩ := hint 36 (by decide) (by decide)
    obtain ⟨x10, h10⟩ := hint 40 (by decide) (by decide)
    obtain ⟨x11, h11⟩ := hint 44 (by decide) (by decide)
    obtain ⟨x12, h12⟩ := hint 48 (by decide) (by decide)
    refine ⟨.quantumPcb ⟨x1, x2, ⟨x3, x4, x5, x6, x7, x8, x9, x10, x11, x12⟩⟩, ?_⟩
    simp only [deserealizar, menDeserealizerQuantumPcb]
    norm_num [h1, h2, h3, h4, h5, h6, h7, h8, h9, h10, h11, h12]
  | cpuUmv =>
    obtain ⟨tipo, h4⟩ := hint 4 (by decide) (by decide)
    obtain ⟨base, h8⟩ := hint 8 (by decide) (by decide)
    obtain ⟨offset, h12⟩ := hint 12 (by decide) (by decide)
    have h16 := h.tam 16 rfl
    simp only [Clase.tamFijo] at h16 hfijo
    obtain ⟨buffer, hd⟩ := Option.isSome_iff_exists.1
      ((leerDato_isSome (l := frame) (p := 20) (n := frame.length - 20) (by norm_num)
        (by omega)).2 ⟨by omega, by omega⟩)
    refine ⟨.cpuUmv tipo base offset (frame.length - 20) buffer, ?_⟩
    simp only [deserealizar, menDeserealizerCpuUmv]
    norm_num [h4, h8, h12, h16, hd]
  | seg =>
    obtain ⟨tipo, h4⟩ := hint 4 (by decide) (by decide)
    obtain ⟨idProg, h8⟩ := hint 8 (by decide) (by decide)
    obtain ⟨tamSeg, h12⟩ := hint 12 (by decide) (by decide)
    refine ⟨.seg ⟨tipo, idProg, tamSeg⟩, ?_⟩
    simp only [deserealizar, menDeserealizerSeg]
    norm_num [h4, h8, h12]

/-! ### A stream of messages -/

/-- Successive calls of the receiving functions of these kinds, and what they return. -/
def recibirTodos : List (Clase × Momento) → Conexion → Option (List Recibido × Conexion)
  | [], c => some ([], c)
  | (k, t) :: l, c => do
    let r ← socketRecv k t c
    let rs ← recibirTodos l r.2
    some (r.1.recibido :: rs.1, rs.2)

section Stream

variable {m : Mensaje} {t : Momento} {rest : List Byte} {cierra : Bool}

lemma Mensaje.trama_append_ne_nil (m : Mensaje) (rest : List Byte) : m.trama ++ rest ≠ [] := by
  intro h
  have hlen := m.trama_length
  rw [(List.append_eq_nil_iff.1 h).1] at hlen
  unfold Mensaje.largo at hlen
  simp only [List.length_nil] at hlen
  omega

/-- A peek at a frame sees nothing of what follows it. -/
lemma Momento.longitud_append (t : Momento) (m : Mensaje) (rest : List Byte) :
    t.longitud (m.trama ++ rest) = t.longitud m.trama := by
  have hlen := m.trama_length
  have hcuatro := t.cuatro
  have hle : t.vistos ≤ m.trama.length := by
    unfold Mensaje.largo at hlen
    omega
  unfold longitud
  rw [List.take_append_of_le_length hle]

/-- A peek that returns the four bytes of the length reads the length. -/
lemma Momento.longitud_cuatro (h : m.EnRango) (ht : t.vistos = 4) :
    t.longitud m.trama = m.largo := by
  have hlen := m.trama_length
  have hmin : -2 ^ 31 ≤ m.largo := by omega
  have htrama : m.trama = bytesOfInt m.largo ++ (m.campos.flatMap bytesOfInt ++ m.dato) := by
    simp [Mensaje.trama]
  have htake : m.trama.take 4 = bytesOfInt m.largo := by
    rw [htrama]
    exact List.take_left' (bytesOfInt_length _)
  unfold longitud bloque
  rw [ht, htake, intOfBytes_bytesOfInt hmin h.largo]

-- from here on a length is only what the lemmas above say of it
attribute [irreducible] Momento.longitud

/-- **A frame whose length the peek reads right is received.** -/
lemma socketRecv_trama (h : m.EnRango) (ht : t.longitud m.trama = m.largo) :
    socketRecv m.clase t ⟨m.trama ++ rest, cierra⟩
      = some (.mensaje m.recibido, ⟨rest, cierra⟩) := by
  have hlen := m.trama_length
  have hlong : t.longitud (m.trama ++ rest) = m.trama.length := by
    rw [t.longitud_append, ht, hlen]
  have hpos : 0 < (m.trama.length : ℤ) := by
    rw [hlen]
    unfold Mensaje.largo
    omega
  rw [socketRecv_bytes (m.trama_append_ne_nil rest)]
  simp only [hlong]
  rw [if_neg (by omega), if_neg (by simp), if_neg (by omega), Int.toNat_natCast, List.take_left,
    List.drop_left, deserealizar_trama h]
  rfl

/-- A call that returns the record of a message has taken at least the bytes of its frame, as many as
the length it has read. -/
lemma socketRecv_gasta {c c' : Conexion} {r : Recepcion} (h : m.EnRango) (hc : c.cierra = false)
    (haviso : avisoCierre m.clase ≠ some m.recibido)
    (hr : socketRecv m.clase t c = some (r, c')) (hrec : r.recibido = m.recibido) :
    c'.cierra = false ∧ m.largo ≤ t.longitud c.bytes ∧
      (c.bytes.length : ℤ) = t.longitud c.bytes + c'.bytes.length ∧
      c'.bytes = c.bytes.drop (t.longitud c.bytes).toNat := by
  rcases socketRecv_some hr with ⟨-, -, men, hmen, rfl⟩ | ⟨-, hpos, hle, rfl, men, hmen, rfl⟩
  · exact absurd (hmen.trans (congrArg some hrec)) haviso
  · have hrec : men = m.recibido := hrec
    obtain ⟨-, hlargo, -⟩ := deserealizar_some hmen
    rw [hrec, ← m.largo_eq h, List.length_take] at hlargo
    have hle : t.longitud c.bytes ≤ c.bytes.length := hle.resolve_right (by simp [hc])
    clear hmen hr
    generalize t.longitud c.bytes = n at *
    refine ⟨hc, by omega, ?_, rfl⟩
    rw [List.length_drop]
    omega

end Stream

/-- What the peer sends for these messages. -/
def enviados (mem : Memoria) (l : List Mensaje) : List Byte :=
  l.flatMap fun m => (serealizar mem m).getD []

lemma enviados_eq (mem : Memoria) {l : List Mensaje} (h : ∀ m ∈ l, m.EnRango) :
    enviados mem l = l.flatMap Mensaje.trama := by
  induction l with
  | nil => rfl
  | cons m l ih =>
    have ih := ih fun m' hm => h m' (List.mem_cons_of_mem _ hm)
    unfold enviados at ih ⊢
    rw [List.flatMap_cons, List.flatMap_cons, ih, serealizar_trama mem (h m (List.mem_cons_self ..)),
      Option.getD_some]

/-- Calls whose peeks read the lengths right return the messages and leave what follows them. -/
lemma recibirTodos_trama (cierra : Bool) (l : List (Mensaje × Momento)) : ∀ rest : List Byte,
    (∀ e ∈ l, e.1.EnRango) → (∀ e ∈ l, e.2.longitud e.1.trama = e.1.largo) →
    recibirTodos (l.map fun e => (e.1.clase, e.2)) ⟨l.flatMap (fun e => e.1.trama) ++ rest, cierra⟩
      = some (l.map fun e => e.1.recibido, ⟨rest, cierra⟩) := by
  induction l with
  | nil => exact fun _ _ _ => rfl
  | cons e l ih =>
    intro rest h ht
    have hmem : ∀ {e'}, e' ∈ l → e' ∈ e :: l := fun he => List.mem_cons_of_mem _ he
    have he : socketRecv e.1.clase e.2
        ⟨e.1.trama ++ (l.flatMap (fun e => e.1.trama) ++ rest), cierra⟩ =
          some (.mensaje e.1.recibido, ⟨l.flatMap (fun e => e.1.trama) ++ rest, cierra⟩) :=
      socketRecv_trama (h e (List.mem_cons_self ..)) (ht e (List.mem_cons_self ..))
    rw [List.map_cons, List.flatMap_cons, List.append_assoc, recibirTodos]
    simp only [Option.bind_eq_bind]
    rw [he, Option.bind_some, ih rest (fun e' he => h e' (hmem he)) (fun e' he => ht e' (hmem he)),
      Option.bind_some]
    rfl

/-- Calls that return the messages have taken as many bytes as their frames have, or more. -/
lemma recibirTodos_gasta (l : List (Mensaje × Momento)) : ∀ (c c' : Conexion),
    (∀ e ∈ l, e.1.EnRango) → (∀ e ∈ l, avisoCierre e.1.clase ≠ some e.1.recibido) →
    c.cierra = false →
    recibirTodos (l.map fun e => (e.1.clase, e.2)) c = some (l.map fun e => e.1.recibido, c') →
    ((l.flatMap fun e => e.1.trama).length : ℤ) + c'.bytes.length ≤ c.bytes.length := by
  induction l with
  | nil =>
    intro c c' _ _ _ hr
    obtain ⟨-, rfl⟩ := Prod.mk.inj (Option.some.inj hr)
    simp
  | cons e l ih =>
    intro c c' h haviso hc hr
    rw [List.map_cons, recibirTodos] at hr
    simp only [Option.bind_eq_bind, Option.bind_eq_some_iff] at hr
    obtain ⟨⟨r, c₁⟩, hr₁, ⟨rs, c₂⟩, hr₂, heq⟩ := hr
    obtain ⟨hlista, rfl⟩ := Prod.mk.inj (Option.some.inj heq)
    obtain ⟨hrec, rfl⟩ := List.cons.inj hlista
    obtain ⟨hc₁, hge, hlen, -⟩ := socketRecv_gasta (h e (List.mem_cons_self ..)) hc
      (haviso e (List.mem_cons_self ..)) hr₁ hrec
    have ih := ih c₁ c₂ (fun e' he => h e' (List.mem_cons_of_mem _ he))
      (fun e' he => haviso e' (List.mem_cons_of_mem _ he)) hc₁ hr₂
    have htrama := e.1.trama_length
    rw [List.flatMap_cons, List.length_append]
    push_cast
    show _ + (c₂.bytes.length : ℤ) ≤ _
    generalize e.2.longitud c.bytes = n at *
    omega

/-- Calls that return exactly the messages sent have read every length right. -/
lemma longitud_of_recibirTodos (l : List (Mensaje × Momento)) : ∀ c' : Conexion,
    (∀ e ∈ l, e.1.EnRango) → (∀ e ∈ l, avisoCierre e.1.clase ≠ some e.1.recibido) →
    recibirTodos (l.map fun e => (e.1.clase, e.2)) ⟨l.flatMap fun e => e.1.trama, false⟩
      = some (l.map fun e => e.1.recibido, c') →
    ∀ e ∈ l, e.2.longitud e.1.trama = e.1.largo := by
  induction l with
  | nil =>
    intro c' _ _ _ e he
    exact absurd he List.not_mem_nil
  | cons e l ih =>
    intro c' h haviso hr
    have h' : ∀ e' ∈ l, e'.1.EnRango := fun e' he => h e' (List.mem_cons_of_mem _ he)
    have haviso' : ∀ e' ∈ l, avisoCierre e'.1.clase ≠ some e'.1.recibido :=
      fun e' he => haviso e' (List.mem_cons_of_mem _ he)
    rw [List.map_cons, recibirTodos] at hr
    simp only [Option.bind_eq_bind, Option.bind_eq_some_iff] at hr
    obtain ⟨⟨r, c₁⟩, hr₁, ⟨rs, c₂⟩, hr₂, heq⟩ := hr
    obtain ⟨hlista, rfl⟩ := Prod.mk.inj (Option.some.inj heq)
    obtain ⟨hrec, rfl⟩ := List.cons.inj hlista
    obtain ⟨hc₁, hge, hlen, hdrop⟩ := socketRecv_gasta (h e (List.mem_cons_self ..)) rfl
      (haviso e (List.mem_cons_self ..)) hr₁ hrec
    -- the calls that follow need all the bytes behind the frame, so this one took no more
    have hgasta := recibirTodos_gasta l c₁ c₂ h' haviso' hc₁ hr₂
    have htrama := e.1.trama_length
    have hsuma : ((e :: l).flatMap fun e => e.1.trama)
        = e.1.trama ++ l.flatMap fun e => e.1.trama := List.flatMap_cons
    simp only [hsuma, List.length_append, Nat.cast_add] at hlen hge hdrop
    have hlargo : e.2.longitud (e.1.trama ++ l.flatMap fun e => e.1.trama) = e.1.largo := by
      generalize e.2.longitud (e.1.trama ++ l.flatMap fun e => e.1.trama) = n at *
      omega
    have hbytes : c₁.bytes = l.flatMap fun e => e.1.trama := by
      rw [hdrop, hlargo, ← htrama, Int.toNat_natCast, List.drop_left]
    have hcon : c₁ = ⟨l.flatMap fun e => e.1.trama, false⟩ := by
      rw [← hbytes, ← hc₁]
    intro e' he'
    rcases List.mem_cons.1 he' with rfl | he'
    · rw [← hlargo, Momento.longitud_append]
    · exact ih c₂ h' haviso' (hcon ▸ hr₂) e' he'

/-- **When a stream is cut into the messages sent.** The bytes of the messages follow one another on
an open connection; each call peeks at some moment. The calls return exactly the messages when every
peek, with what `aux_len` held, reads the length of its frame; and only then, unless one of the
messages is the very one that `socket_recv_seg` makes up for a closed connection. -/
theorem recibirTodos_iff (mem : Memoria) (l : List (Mensaje × Momento))
    (h : ∀ e ∈ l, e.1.EnRango) :
    ((∀ e ∈ l, e.2.longitud e.1.trama = e.1.largo) →
      recibirTodos (l.map fun e => (e.1.clase, e.2)) ⟨enviados mem (l.map Prod.fst), false⟩
        = some (l.map fun e => e.1.recibido, ⟨[], false⟩)) ∧
    ((∀ e ∈ l, avisoCierre e.1.clase ≠ some e.1.recibido) →
      (∃ c', recibirTodos (l.map fun e => (e.1.clase, e.2)) ⟨enviados mem (l.map Prod.fst), false⟩
        = some (l.map fun e => e.1.recibido, c')) →
      ∀ e ∈ l, e.2.longitud e.1.trama = e.1.largo) := by
  have hbytes : enviados mem (l.map Prod.fst) = l.flatMap fun e => e.1.trama := by
    rw [enviados_eq mem (by simpa using fun m t hm => h (m, t) hm), List.flatMap_map]
  rw [hbytes]
  refine ⟨fun ht => ?_, fun haviso ⟨c', hr⟩ => longitud_of_recibirTodos l c' h haviso hr⟩
  have hr := recibirTodos_trama false l [] h ht
  rwa [List.append_nil] at hr

/-- A peek that returns so many bytes, into a block of bytes with the value one. -/
def vistazo (vistos : ℕ) (h₁ : 1 ≤ vistos) (h₂ : vistos ≤ 4) : Momento := ⟨vistos, fun _ => 1, h₁, h₂⟩

/-- With the four bytes of each length there, the messages of the test program arrive. -/
theorem recibirTodos_mensajesDePrueba :
    recibirTodos (mensajesDePrueba.map fun e => (e.2.clase, vistazo 4 (by decide) (by decide)))
      ⟨enviados ⟨fun _ => 7, fun _ => 9⟩ (mensajesDePrueba.map Prod.snd), false⟩
        = some (mensajesDePrueba.map fun e => e.2.recibido, ⟨[], false⟩) := by
  have hrango : ∀ e ∈ mensajesDePrueba.map fun e => (e.2, vistazo 4 (by decide) (by decide)),
      e.1.EnRango := by
    intro e he
    obtain ⟨e', he', rfl⟩ := List.mem_map.1 he
    exact enRango_mensajesDePrueba e' he'
  have hr := (recibirTodos_iff ⟨fun _ => 7, fun _ => 9⟩ _ hrango).1 fun e he =>
    Momento.longitud_cuatro (hrango e he) (by
      obtain ⟨e', -, rfl⟩ := List.mem_map.1 he
      rfl)
  simp only [List.map_map] at hr
  exact hr

/-- With one byte of the length there, a message of fifteen bytes is waited for as one of more than
sixteen million. -/
theorem recibirTodos_no_mensajesDePrueba :
    Mensaje.EnRango (.comun (crearMenComun 10 [1, 0, 4])) ∧
      ∀ c', recibirTodos [(.comun, vistazo 1 (by decide) (by decide))]
          ⟨enviados ⟨fun _ => 7, fun _ => 9⟩ [.comun (crearMenComun 10 [1, 0, 4])], false⟩
        ≠ some ([(Mensaje.comun (crearMenComun 10 [1, 0, 4])).recibido], c') := by
  refine ⟨⟨by simp [Mensaje.campos, EsInt32, crearMenComun],
    by simp [Mensaje.TamCierto, crearMenComun],
    by simp [Mensaje.largo, Mensaje.campos, Mensaje.dato, crearMenComun]⟩, fun c' h => ?_⟩
  have hnone : recibirTodos [(.comun, vistazo 1 (by decide) (by decide))]
      ⟨enviados ⟨fun _ => 7, fun _ => 9⟩ [.comun (crearMenComun 10 [1, 0, 4])], false⟩ = none := by
    decide +kernel
  rw [hnone] at h
  cases h

/-! ### Any bytes -/

/-- The record is what the frame holds: the frame says how long it is, every byte read is one of it,
and the payload is the rest of it. -/
structure Decodifica (k : Clase) (frame : List Byte) (men : Recibido) : Prop where
  longitud : longitud frame = some frame.length
  campos : deserealizar k frame = some men
  tamNonneg : 0 ≤ men.tam
  tam : k.campoTam ≠ none → k.tamFijo + men.tam = frame.length

/-- What a receiving function should do with whatever bytes a peer sends before it closes: report the
end of the connection, or return what the bytes received hold. -/
def RecepcionSegura (k : Clase) (t : Momento) (bytes : List Byte) : Prop :=
  ∃ r c', socketRecv k t ⟨bytes, true⟩ = some (r, c') ∧
    ∀ men, r = .mensaje men → ∃ frame, bytes = frame ++ c'.bytes ∧ Decodifica k frame men

/-- **When a receiving function is safe**: at the end of the connection, or at a length that reads as
zero, if the message for it has no pcb; and when the bytes received, as many as the length read or
all there are, are a well-formed frame. -/
theorem recepcionSegura_iff (k : Clase) (t : Momento) (bytes : List Byte) :
    RecepcionSegura k t bytes ↔
      (k ≠ .quantumPcb ∧ (bytes = [] ∨ t.longitud bytes = 0)) ∨
        (bytes ≠ [] ∧ 0 < t.longitud bytes ∧
          BienFormada k (bytes.take (t.longitud bytes).toNat)) := by
  have haviso : k ≠ .quantumPcb ↔ ∃ men, avisoCierre k = some men := by
    cases k <;> simp [avisoCierre]
  constructor
  · rintro ⟨r, c', hr, hmen⟩
    rcases socketRecv_some hr with ⟨-, hfin, men, ha, -⟩ | ⟨hne, hpos, -, rfl, men, hd, rfl⟩
    · exact .inl ⟨haviso.2 ⟨men, ha⟩, hfin⟩
    · obtain ⟨frame, hframe, hdec⟩ := hmen men rfl
      -- the frame is what has been received
      have htake : bytes.take (t.longitud bytes).toNat = frame := by
        have hsplit := List.take_append_drop (t.longitud bytes).toNat bytes
        exact (List.append_inj_left' (hsplit.trans hframe) rfl)
      refine .inr ⟨hne, hpos, ?_⟩
      rw [htake]
      obtain ⟨-, hle, hcampo⟩ := deserealizar_some hdec.campos
      refine ⟨hdec.longitud, ?_, fun p hp => ?_⟩
      · have := hdec.tamNonneg
        omega
      · rw [hcampo p hp]
        have htam := hdec.tam (by rw [hp]; simp)
        congr 1
        omega
  · rintro (⟨hk, hfin⟩ | ⟨hne, hpos, hbien⟩)
    · obtain ⟨men, ha⟩ := haviso.1 hk
      refine ⟨.cerrada men, ⟨bytes, true⟩, ?_, fun men' h => by cases h⟩
      by_cases hnil : bytes = []
      · rw [socketRecv_vacia hnil, if_neg (by simp), ha]
        rfl
      · have h0 := hfin.resolve_left hnil
        rw [socketRecv_bytes (c := ⟨bytes, true⟩) hnil]
        simp only [h0]
        rw [if_neg (by decide), if_neg (by simp), if_pos trivial, ha]
        rfl
    · obtain ⟨men, hd⟩ := hbien.exists_deserealizar
      have hr : socketRecv k t ⟨bytes, true⟩
          = some (.mensaje men, ⟨bytes.drop (t.longitud bytes).toNat, true⟩) := by
        rw [socketRecv_bytes (c := ⟨bytes, true⟩) hne]
        simp only
        rw [if_neg (by omega), if_neg (by simp), if_neg (by omega), hd]
        rfl
      refine ⟨_, _, hr, fun men' h => ⟨_, (List.take_append_drop _ _).symm, ?_⟩⟩
      obtain rfl : men = men' := by injection h
      obtain ⟨h0, hle, hcampo⟩ := deserealizar_some hd
      refine ⟨hbien.longitud, hd, h0, fun hsome => ?_⟩
      obtain ⟨p, hp⟩ := Option.ne_none_iff_exists'.1 hsome
      have htam := Option.some.inj ((hcampo p hp).symm.trans (hbien.tam p hp))
      omega

/-- A frame of three payload bytes, with a byte of the next one behind it, is decoded safely, and so is
the end of the connection. -/
theorem recepcionSegura_tramaEntera :
    RecepcionSegura .comun (vistazo 4 (by decide) (by decide))
        [15, 0, 0, 0, 10, 0, 0, 0, 3, 0, 0, 0, 1, 0, 4, 15] ∧
      RecepcionSegura .seg (vistazo 1 (by decide) (by decide)) [] := by
  constructor
  · refine (recepcionSegura_iff _ _ _).2 (.inr ⟨by decide, by decide +kernel, ?_⟩)
    refine ⟨by decide +kernel, by decide +kernel, fun p hp => ?_⟩
    obtain rfl := Option.some.inj hp
    decide +kernel
  · exact (recepcionSegura_iff _ _ _).2 (.inl ⟨by decide, .inl rfl⟩)

/-- A pcb is copied from `NULL` when the peer closes; a payload of a hundred bytes is read out of a
frame of twelve; and a frame cut off in the middle is decoded, one payload byte past its end. -/
theorem no_recepcionSegura :
    ¬ RecepcionSegura .quantumPcb (vistazo 4 (by decide) (by decide)) [] ∧
      ¬ RecepcionSegura .comun (vistazo 4 (by decide) (by decide))
        [12, 0, 0, 0, 10, 0, 0, 0, 100, 0, 0, 0] ∧
      ¬ RecepcionSegura .comun (vistazo 4 (by decide) (by decide))
        [15, 0, 0, 0, 10, 0, 0, 0, 3, 0, 0, 0, 1, 0] := by
  have hno : ∀ {k t bytes}, socketRecv k t ⟨bytes, true⟩ = none → ¬ RecepcionSegura k t bytes := by
    rintro k t bytes hnone ⟨r, c', hr, -⟩
    rw [hnone] at hr
    cases hr
  exact ⟨hno (by decide +kernel), hno (by decide +kernel), hno (by decide +kernel)⟩

end Ansisop.Sockets
