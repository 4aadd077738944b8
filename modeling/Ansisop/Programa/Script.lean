import Ansisop.Sockets.Text
import Ansisop.Sockets.Wire

/-!
`main` of `programa.c` up to the message it sends: the size of the file, the loop that reads it and
the message with the script.

The loop asks `feof` before it reads and not after: the indicator is set only by the read that finds
no byte, whose result is stored like the others. What it stores it in is an array of as many bytes
as the file has.
-/

namespace Ansisop.Programa

open Ansisop.Sockets

/-! ### Files -/

/-- A file that is being read: its bytes, the position, and the end-of-file indicator. -/
structure Archivo where
  bytes : List Byte
  pos : ℕ
  fin : Bool

/-- `fopen`. -/
def fopen (bytes : List Byte) : Archivo := ⟨bytes, 0, false⟩

/-- `feof`. -/
def feof (archivo : Archivo) : Bool := archivo.fin

/-- `fgetc`: the next byte, or `EOF`. -/
def fgetc (archivo : Archivo) : ℤ × Archivo :=
  match archivo.bytes[archivo.pos]? with
  | some b => (b.toNat, { archivo with pos := archivo.pos + 1 })
  | none => (-1, { archivo with fin := true })

/-- `fseek` to a position that the file has. -/
def fseek (archivo : Archivo) (pos : ℕ) : Archivo := { archivo with pos := pos, fin := false }

/-- `tamanioArchivo`. The result of `ftell` is cut down to an `int`. -/
def tamanioArchivo (archivo : Archivo) : ℤ × Archivo :=
  let archivo := fseek archivo archivo.bytes.length
  let tamanio := int32 archivo.pos
  (tamanio, fseek archivo 0)

/-! ### `main` -/

/-- The conversion of an `int` to a `char`. -/
def aChar (c : ℤ) : Byte := UInt8.ofInt c

/-- The loop from the index `i` on: what it writes into `script`, and where. -/
def leer (archivo : Archivo) (i : ℕ) : List (ℕ × Byte) :=
  if feof archivo then []
  else (i, aChar (fgetc archivo).1) :: leer (fgetc archivo).2 (i + 1)
termination_by (archivo.bytes.length - archivo.pos) + if archivo.fin then 0 else 1
decreasing_by
  rename_i hfin
  have hfin : archivo.fin = false := by simpa [feof] using hfin
  unfold fgetc
  split
  · rename_i b hb
    have hlt : archivo.pos < archivo.bytes.length := (List.getElem?_eq_some_iff.1 hb).1
    simp only [hfin]
    simp
    omega
  · simp [hfin]

/-- The memory from the array on, after some writes. -/
def escribir (basura : ℕ → Byte) (escrituras : List (ℕ × Byte)) : ℕ → Byte :=
  escrituras.foldl (fun script e => Function.update script e.1 e.2) basura

/-- What `main` has read and what it sends. -/
structure Lectura where
  tamanioScript : ℤ
  escrituras : List (ℕ × Byte)
  men : Option MenComun

/-- `main` up to `crear_men_comun`, which cannot copy a negative number of bytes; `basura` is what
the array and what is behind it held before. -/
def leerScript (basura : ℕ → Byte) (bytes : List Byte) : Lectura :=
  let r := tamanioArchivo (fopen bytes)
  let escrituras := leer r.2 0
  let script := escribir basura escrituras
  ⟨r.1, escrituras, if r.1 < 0 then none
    else some ⟨r.1, TipoDatos.codigoScript, (List.range r.1.toNat).map script⟩⟩

/-! ### What the loop does -/

lemma aChar_byte (b : Byte) : aChar b.toNat = b := by
  have hlt := b.toNat_lt
  apply UInt8.toNat_inj.1
  simp only [aChar, UInt8.ofInt, UInt8.toNat_ofNat']
  omega

/-- The bytes of a list, each with its index. -/
def conIndice (l : List Byte) (i : ℕ) : List (ℕ × Byte) := (l.zipIdx i).map Prod.swap

/-- **The loop writes the bytes of the file, and one more.** -/
theorem leer_eq (bytes : List Byte) : ∀ (l : List Byte) (pos i : ℕ), bytes.drop pos = l →
    leer ⟨bytes, pos, false⟩ i = conIndice l i ++ [(i + l.length, 255)]
  | [], pos, i, h => by
    have hnone : bytes[pos]? = none := List.getElem?_eq_none (List.drop_eq_nil_iff.1 h)
    rw [leer, leer]
    simp [feof, fgetc, hnone, conIndice, aChar]
    decide
  | b :: l, pos, i, h => by
    have hsome : bytes[pos]? = some b := by
      have := congrArg (fun l : List Byte => l[0]?) h
      simpa using this
    have hdrop : bytes.drop (pos + 1) = l := by
      rw [← List.drop_drop, h]
      rfl
    rw [leer]
    simp only [feof, fgetc, hsome]
    rw [leer_eq bytes l (pos + 1) (i + 1) hdrop]
    rw [List.length_cons, Nat.add_right_comm, Nat.add_assoc, conIndice, conIndice, List.zipIdx_cons]
    simp [aChar_byte]

lemma escribir_cons (script : ℕ → Byte) (b : Byte) (l : List Byte) (i : ℕ) :
    escribir script (conIndice (b :: l) i)
      = escribir (Function.update script i b) (conIndice l (i + 1)) := rfl

/-- The places before the first one keep what they hold. -/
lemma escribir_antes (l : List Byte) {i j : ℕ} (h : j < i) (script : ℕ → Byte) :
    escribir script (conIndice l i) j = script j := by
  induction l generalizing i script with
  | nil => rfl
  | cons b l ih => rw [escribir_cons, ih (by omega), Function.update_of_ne (by omega)]

/-- Each byte is found where it has been written. -/
lemma escribir_conIndice (l : List Byte) (i j : ℕ) (script : ℕ → Byte) :
    escribir script (conIndice l i) (i + j) = l[j]?.getD (script (i + j)) := by
  induction l generalizing i j script with
  | nil => rfl
  | cons b l ih =>
    rw [escribir_cons]
    cases j with
    | zero =>
      rw [escribir_antes l (i := i + 1) (by omega), Nat.add_zero, Function.update_self]
      rfl
    | succ j =>
      rw [show i + (j + 1) = i + 1 + j by omega, ih, Function.update_of_ne (by omega)]
      rfl

/-- The array after the loop holds the bytes of the file. -/
lemma escribir_leer (basura : ℕ → Byte) (bytes : List Byte) :
    (List.range bytes.length).map (escribir basura (leer (fopen bytes) 0)) = bytes := by
  refine List.ext_getElem (by simp) fun j h₁ h₂ => ?_
  have hj : j ≠ 0 + bytes.length := by omega
  have hbyte := escribir_conIndice bytes 0 j basura
  rw [Nat.zero_add] at hbyte
  rw [List.getElem_map, List.getElem_range, fopen, leer_eq bytes bytes 0 0 rfl, escribir,
    List.foldl_append, List.foldl_cons, List.foldl_nil, Function.update_of_ne hj, ← escribir, hbyte,
    List.getElem?_eq_getElem h₂, Option.getD_some]

/-- **The message has the bytes of the file**, and no other, for a file whose size is an `int`. -/
theorem leerScript_men (basura : ℕ → Byte) {bytes : List Byte} (h : EsInt32 bytes.length) :
    (leerScript basura bytes).men = some (crearMenComun TipoDatos.codigoScript bytes) := by
  have htam : int32 bytes.length = bytes.length := int32_of_range h.1 h.2
  have harray := escribir_leer basura bytes
  unfold fopen at harray
  simp only [leerScript, tamanioArchivo, fopen, fseek, htam, Int.toNat_natCast, harray]
  rw [if_neg (by omega)]
  rfl

/-- The message fits when its frame is no longer than an `int` says. -/
lemma enRango_script {bytes : List Byte} (h : (bytes.length : ℤ) + 12 < 2 ^ 31) :
    (Mensaje.comun (crearMenComun TipoDatos.codigoScript bytes)).EnRango := by
  have htipo : EsInt32 TipoDatos.codigoScript := ⟨by decide, by decide⟩
  refine ⟨?_, rfl, ?_⟩
  · simp only [Mensaje.campos, crearMenComun, List.mem_cons, List.not_mem_nil, or_false,
      forall_eq_or_imp, forall_eq]
    exact ⟨htipo, by omega, by omega⟩
  · simp only [Mensaje.largo, Mensaje.campos, Mensaje.dato, crearMenComun, List.length_cons,
      List.length_nil]
    push_cast
    omega

/-! ### What is asked of it -/

/-- A script of the given bytes is delivered intact and as a string of C: the loop writes inside
the array, the message has the bytes of the file, and what the kernel gets of it, which goes to
`metadata_desde_literal`, has a zero. -/
structure Entregado (basura : ℕ → Byte) (mem : Memoria) (bytes : List Byte) : Prop where
  dentro : ∀ e ∈ (leerScript basura bytes).escrituras, e.1 < bytes.length
  intacto : ∃ men, (leerScript basura bytes).men = some men ∧ men.tipo = TipoDatos.codigoScript ∧
    men.dato = bytes
  conCero : ∀ men men', (leerScript basura bytes).men = some men →
    llega mem (.comun men) = some (.comun men') → (cadena men'.dato).isSome

/-- **No script is delivered as it should**: the loop always writes behind the array. -/
theorem not_entregado (basura : ℕ → Byte) (mem : Memoria) (bytes : List Byte) :
    ¬ Entregado basura mem bytes := by
  intro h
  have hescr : (leerScript basura bytes).escrituras = leer (fopen bytes) 0 := rfl
  have hult : (bytes.length, (255 : Byte)) ∈ (leerScript basura bytes).escrituras := by
    rw [hescr, fopen, leer_eq bytes bytes 0 0 rfl]
    simp
  exact absurd (h.dentro _ hult) (lt_irrefl _)

/-- One letter: it is written, `EOF` behind it, and what arrives is not a string. -/
theorem letra_no_entregada :
    (leerScript (fun _ => 0) [97]).escrituras = [(0, 97), (1, 255)] ∧
      llega ⟨fun _ => 0, fun _ => 0⟩ (.comun (crearMenComun TipoDatos.codigoScript [97]))
        = some (.comun (crearMenComun TipoDatos.codigoScript [97])) ∧
      cadena [97] = none ∧ ¬ Entregado (fun _ => 0) ⟨fun _ => 0, fun _ => 0⟩ [97] := by
  have hescr : (leerScript (fun _ => 0) [97]).escrituras = [(0, 97), (1, 255)] :=
    leer_eq [97] [97] 0 0 rfl
  refine ⟨hescr, llega_eq _ (enRango_script (by norm_num)), by decide, fun h => ?_⟩
  have hdentro := h.dentro (1, 255) (by rw [hescr]; decide)
  exact absurd hdentro (by decide)

/-- **What does hold**: a script of a size that fits arrives whole, and it is a string of C exactly
when there is a zero in the file. -/
theorem script_llega (basura : ℕ → Byte) (mem : Memoria) {bytes : List Byte}
    (h : (bytes.length : ℤ) + 12 < 2 ^ 31) :
    ∃ men, (leerScript basura bytes).men = some men ∧ llega mem (.comun men) = some (.comun men) ∧
      men.dato = bytes ∧ ((cadena men.dato).isSome ↔ 0 ∈ bytes) := by
  refine ⟨_, leerScript_men basura ⟨by omega, by omega⟩, llega_eq mem (enRango_script h), rfl, ?_⟩
  unfold cadena crearMenComun
  split <;> simp_all

end Ansisop.Programa
