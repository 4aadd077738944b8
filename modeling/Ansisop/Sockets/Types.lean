import Mathlib

/-!
The messages of the socket library: the message kinds, the four records that travel on the
sockets, and the machine integers they are made of.

An `int32_t` is an integer; `int32` is what is left of a sum that does not fit. A `char *` with
its length is the list of its bytes.
-/

namespace Ansisop.Sockets

/-! ### Machine integers -/

/-- The value a 32-bit signed variable holds after it is assigned `x`. -/
def int32 (x : ℤ) : ℤ := Int.bmod x (2 ^ 32)

lemma int32_of_range {x : ℤ} (h₁ : -2 ^ 31 ≤ x) (h₂ : x < 2 ^ 31) : int32 x = x := by
  unfold int32
  exact Int.bmod_eq_of_le (by omega) (by omega)

/-- A sum of less than `2 ^ 32` that comes out nonnegative has not wrapped. -/
lemma int32_of_nonneg {x : ℤ} (h₁ : 0 ≤ x) (h₂ : x < 2 ^ 32) (h : 0 ≤ int32 x) : int32 x = x := by
  refine int32_of_range (by omega) ?_
  by_contra hge
  have hmod : x % (2 ^ 32 : ℕ) = x := Int.emod_eq_of_lt h₁ h₂
  rw [int32, Int.bmod_neg _ _ (by rw [hmod]; omega), hmod] at h
  omega

/-- A byte of memory or of a payload. -/
abbrev Byte := UInt8

/-- The four bytes of an integer, as `memcpy` reads them on a little-endian machine. -/
def bytesOfInt (x : ℤ) : List Byte :=
  (List.range 4).map fun i => UInt8.ofNat ((x % 2 ^ 32).toNat / 256 ^ i % 256)

/-- The integer whose four bytes are given, as `memcpy` writes it into an `int32_t`. -/
def intOfBytes (l : List Byte) : ℤ :=
  int32 ((List.range 4).foldr (fun i acc => ((l.getD i 0).toNat : ℤ) + 256 * acc) 0 : ℤ)

/-- The bytes of a C string, its final zero included. -/
def cString (s : List Byte) : List Byte := s ++ [0]

/-! ### Kinds of message -/

/-- `tipo_datos`. -/
inductive TipoDatos where
  | conecCerrada | hsKernel | hsProg | hsCpu | hsUmv
  | finQuantum | cpuDesconec | imprimirValor | imprimirTexto | finEjecucion
  | obtenerValor | grabarValor | valorAsignado | semBloqueado | semOk | sigusr1CpuDesconec
  | rImprimir | rObtenerValor | rGrabarValor | rValorAsignado | rSemBloqueado
  | sincroOk | idProg | ioId | ioCantUnidades | signal | wait | proxInstruccion
  | pcbYQuantum | varInex | semInex
  | pedMemSegCod | pedMemIndEti | pedMemIndCod | pedMemSegStack | destrSegs | escribirSeg
  | codigoScript | indEtiFunc | indCod | indStack
  | respMemSegCod | respMemIndEti | respMemIndCod | respMemSegStack | menAlmOk
  | solBytes | almBytes | cambioPA | rSolBytes | rAlmBytes | memOverload | segmenFault
  | quitSistemaUmv
  deriving DecidableEq, Repr

namespace TipoDatos

/-- The number a kind of message stands for on the wire. -/
def val : TipoDatos → ℤ
  | conecCerrada => 0 | hsKernel => 10 | hsProg => 11 | hsCpu => 12 | hsUmv => 13
  | finQuantum => 20 | cpuDesconec => 21 | imprimirValor => 22 | imprimirTexto => 23
  | finEjecucion => 24 | obtenerValor => 25 | grabarValor => 26 | valorAsignado => 27
  | semBloqueado => 28 | semOk => 29 | sigusr1CpuDesconec => 30
  | rImprimir => 50 | rObtenerValor => 52 | rGrabarValor => 53 | rValorAsignado => 54
  | rSemBloqueado => 55 | sincroOk => 61 | idProg => 62 | ioId => 63 | ioCantUnidades => 64
  | signal => 65 | wait => 66 | proxInstruccion => 67 | pcbYQuantum => 68 | varInex => 69
  | semInex => 70
  | pedMemSegCod => 200 | pedMemIndEti => 201 | pedMemIndCod => 202 | pedMemSegStack => 203
  | destrSegs => 204 | escribirSeg => 205 | codigoScript => 206 | indEtiFunc => 207
  | indCod => 208 | indStack => 209
  | respMemSegCod => 250 | respMemIndEti => 251 | respMemIndCod => 252 | respMemSegStack => 253
  | menAlmOk => 254
  | solBytes => 300 | almBytes => 301 | cambioPA => 302
  | rSolBytes => 350 | rAlmBytes => 351 | memOverload => 352 | segmenFault => 353
  | quitSistemaUmv => 500

instance : Coe TipoDatos ℤ := ⟨val⟩

/-- Distinct kinds have distinct numbers. -/
theorem val_injective : Function.Injective val := by
  have hidx : ∀ i < 54, ∀ j < 54, val (ofNat i) = val (ofNat j) → i = j := by decide +kernel
  have hlt : ∀ t : TipoDatos, t.ctorIdx < 54 := fun t => by cases t <;> decide
  intro a b h
  have hab : a.ctorIdx = b.ctorIdx :=
    hidx _ (hlt a) _ (hlt b) (by rw [ofNat_ctorIdx, ofNat_ctorIdx]; exact h)
  rw [← ofNat_ctorIdx a, ← ofNat_ctorIdx b, hab]

@[simp] theorem val_inj {a b : TipoDatos} : (a : ℤ) = b ↔ a = b := val_injective.eq_iff

end TipoDatos

/-! ### The records -/

/-- `t_men_comun`: a kind and one payload. -/
structure MenComun where
  tamDato : ℤ
  tipo : ℤ
  dato : List Byte
  deriving DecidableEq, Repr

/-- `crear_men_comun` on a payload of known length. -/
def crearMenComun (tipo : ℤ) (dato : List Byte) : MenComun := ⟨dato.length, tipo, dato⟩

/-- `t_pcb`. -/
structure Pcb where
  cantVarContActual : ℤ
  dirContActual : ℤ
  dirIndiceCodigo : ℤ
  dirIndiceEtiquetas : ℤ
  dirSegCodigo : ℤ
  dirSegStack : ℤ
  id : ℤ
  programCounter : ℤ
  tamIndiceEtiquetas : ℤ
  cantInstrucciones : ℤ
  deriving DecidableEq, Repr

/-- `t_men_quantum_pcb`. -/
structure MenQuantumPcb where
  tipo : ℤ
  quantum : ℤ
  pcb : Pcb
  deriving DecidableEq, Repr

/-- `t_men_cpu_umv`: a request of a CPU for bytes of a segment, or with bytes for it. -/
structure MenCpuUmv where
  tipo : ℤ
  base : ℤ
  offset : ℤ
  tam : ℤ
  buffer : List Byte
  deriving DecidableEq, Repr

/-- `t_men_seg`: a request of the kernel about a segment. -/
structure MenSeg where
  tipo : ℤ
  idProg : ℤ
  tamSeg : ℤ
  deriving DecidableEq, Repr

/-- A message of one of the four kinds of record. -/
inductive Mensaje where
  | comun (men : MenComun)
  | quantumPcb (men : MenQuantumPcb)
  | cpuUmv (men : MenCpuUmv)
  | seg (men : MenSeg)
  deriving DecidableEq, Repr

end Ansisop.Sockets
