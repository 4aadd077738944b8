import Ansisop.Sockets.Types

/-!
Text in payloads: the C string at the start of a payload, `atoi`, and `string_itoa` of the commons
library.
-/

namespace Ansisop.Sockets

/-- The C string a payload starts with, its final zero left out. A payload without a zero is read
past its end. -/
def cadena (dato : List Byte) : Option (List Byte) :=
  if 0 ∈ dato then some (dato.takeWhile (· ≠ 0)) else none

/-- The value of the leading digits, after those already read. -/
def valorDigitos : List Byte → ℤ → ℤ
  | [], acc => acc
  | c :: l, acc =>
    if 48 ≤ c ∧ c ≤ 57 then valorDigitos l (10 * acc + (c.toNat - 48)) else acc

/-- The value of a sign and digits. -/
def valorConSigno : List Byte → ℤ
  | [] => 0
  | c :: l =>
    if c = 45 then -valorDigitos l 0
    else if c = 43 then valorDigitos l 0
    else valorDigitos (c :: l) 0

/-- `atoi`: blanks, a sign and digits, read as a `long` and cut to an `int`. -/
def atoi (s : List Byte) : ℤ :=
  int32 (max (-2 ^ 63) (min (2 ^ 63 - 1)
    (valorConSigno (s.dropWhile fun c => c = 32 ∨ (9 ≤ c ∧ c ≤ 13)))))

/-- The decimal digits of a natural number, in front of those already written. -/
def digitosDe : ℕ → ℕ → List Byte → List Byte
  | 0, _, acc => acc
  | f + 1, n, acc =>
    let acc := UInt8.ofNat (48 + n % 10) :: acc
    if n / 10 = 0 then acc else digitosDe f (n / 10) acc

/-- `string_itoa`. -/
def stringItoa (x : ℤ) : List Byte :=
  if x < 0 then 45 :: digitosDe (x.natAbs + 1) x.natAbs []
  else digitosDe (x.natAbs + 1) x.natAbs []

/-- A byte is a decimal digit. -/
def EsDigito (c : Byte) : Prop := 48 ≤ c ∧ c ≤ 57

lemma digito_toNat {d : ℕ} (hd : d < 10) : (UInt8.ofNat (48 + d)).toNat = 48 + d := by
  rw [UInt8.toNat_ofNat']
  omega

lemma esDigito_digito {d : ℕ} (hd : d < 10) : EsDigito (UInt8.ofNat (48 + d)) := by
  have h := digito_toNat hd
  constructor
  · rw [UInt8.le_iff_toNat_le, h]
    simp
  · rw [UInt8.le_iff_toNat_le, h]
    simp
    omega

lemma valorDigitos_cons {d : ℕ} (hd : d < 10) (l : List Byte) (acc : ℤ) :
    valorDigitos (UInt8.ofNat (48 + d) :: l) acc = valorDigitos l (10 * acc + d) := by
  have hval := digito_toNat hd
  have hdig : 48 ≤ UInt8.ofNat (48 + d) ∧ UInt8.ofNat (48 + d) ≤ 57 := esDigito_digito hd
  rw [valorDigitos, if_pos hdig, hval]
  congr 1
  push_cast
  ring

/-- **The digits of a number are read as the number.** -/
lemma valorDigitos_digitosDe (f : ℕ) : ∀ (n : ℕ) (acc : List Byte), n < f →
    valorDigitos (digitosDe f n acc) 0 = valorDigitos acc n := by
  induction f with
  | zero =>
    intro n acc hn
    omega
  | succ f ih =>
    intro n acc hn
    have hdig : n % 10 < 10 := Nat.mod_lt _ (by omega)
    rw [digitosDe]
    by_cases hdiv : n / 10 = 0
    · rw [if_pos hdiv, valorDigitos_cons hdig]
      congr 1
      omega
    · rw [if_neg hdiv, ih _ _ (by omega), valorDigitos_cons hdig]
      congr 1
      push_cast
      omega

/-- Nothing but digits is written, and at least one. -/
lemma digitosDe_digitos (f : ℕ) : ∀ (n : ℕ) (acc : List Byte), (∀ c ∈ acc, EsDigito c) →
    ∀ c ∈ digitosDe f n acc, EsDigito c := by
  induction f with
  | zero => exact fun _ _ h => h
  | succ f ih =>
    intro n acc h
    have hcons : ∀ c ∈ UInt8.ofNat (48 + n % 10) :: acc, EsDigito c := by
      intro c hc
      rcases List.mem_cons.1 hc with rfl | hc
      · exact esDigito_digito (Nat.mod_lt _ (by omega))
      · exact h c hc
    rw [digitosDe]
    split
    · exact hcons
    · exact ih _ _ hcons

lemma digitosDe_ne_nil (f : ℕ) : ∀ (n : ℕ) (acc : List Byte), acc ≠ [] ∨ 0 < f →
    digitosDe f n acc ≠ [] := by
  induction f with
  | zero =>
    intro n acc h
    exact h.resolve_right (by omega)
  | succ f ih =>
    intro n acc _
    rw [digitosDe]
    split
    · simp
    · exact ih _ _ (.inl (by simp))

/-- The text of a number starts with a sign or a digit, and holds no zero. -/
lemma stringItoa_cons (x : ℤ) : ∃ c l, stringItoa x = c :: l ∧ (c = 45 ∨ EsDigito c) ∧
    ∀ b ∈ c :: l, b = 45 ∨ EsDigito b := by
  have hdig := digitosDe_digitos (x.natAbs + 1) x.natAbs [] (by simp)
  unfold stringItoa
  split
  · exact ⟨45, _, rfl, .inl rfl, fun b hb => (List.mem_cons.1 hb).imp_right (hdig b)⟩
  · obtain ⟨c, l, hl⟩ := List.exists_cons_of_ne_nil
      (digitosDe_ne_nil (x.natAbs + 1) x.natAbs [] (.inr (by omega)))
    rw [hl] at hdig ⊢
    exact ⟨c, l, rfl, .inr (hdig c (List.mem_cons_self ..)), fun b hb => .inr (hdig b hb)⟩

/-- A text with no zero inside as a payload is that text. -/
lemma cadena_sinCero {s : List Byte} (hs : 0 ∉ s) : cadena (cString s) = some s := by
  have hne : ∀ b ∈ s, decide (b ≠ 0) = true := by
    intro b hb
    simp only [ne_eq, decide_eq_true_eq]
    rintro rfl
    exact hs hb
  unfold cadena cString
  rw [if_pos (by simp), List.takeWhile_append_of_pos hne]
  simp

/-- The text of a number as a payload is that text. -/
lemma cadena_stringItoa (x : ℤ) : cadena (cString (stringItoa x)) = some (stringItoa x) := by
  obtain ⟨c, l, hl, -, hall⟩ := stringItoa_cons x
  refine cadena_sinCero fun h0 => ?_
  rw [hl] at h0
  rcases hall 0 h0 with h | ⟨h, -⟩
  · exact absurd h (by decide)
  · exact absurd h (by decide)

/-- **`atoi` undoes `string_itoa`.** -/
theorem atoi_stringItoa {x : ℤ} (h₁ : -2 ^ 31 ≤ x) (h₂ : x < 2 ^ 31) : atoi (stringItoa x) = x := by
  obtain ⟨c, l, hl, hc, -⟩ := stringItoa_cons x
  have hblanco : (stringItoa x).dropWhile (fun c => decide (c = 32 ∨ (9 ≤ c ∧ c ≤ 13)))
      = stringItoa x := by
    rw [hl, List.dropWhile_cons_of_neg]
    rcases hc with rfl | ⟨hc, -⟩
    · decide
    · rw [UInt8.le_iff_toNat_le] at hc
      simp only [decide_eq_true_eq, not_or, not_and, UInt8.le_iff_toNat_le]
      refine ⟨?_, fun _ => ?_⟩
      · rintro rfl
        exact absurd hc (by decide)
      · simp at hc ⊢
        omega
  have hdig : valorDigitos (digitosDe (x.natAbs + 1) x.natAbs []) 0 = x.natAbs :=
    valorDigitos_digitosDe _ _ _ (by omega)
  have hvalor : valorConSigno (stringItoa x) = x := by
    by_cases hneg : x < 0
    · unfold stringItoa
      rw [if_pos hneg, valorConSigno, if_pos rfl, hdig]
      omega
    · have htext : stringItoa x = digitosDe (x.natAbs + 1) x.natAbs [] := if_neg hneg
      rcases hc with rfl | hc
      · -- a text without sign has none
        have hall := digitosDe_digitos (x.natAbs + 1) x.natAbs [] (by simp) 45
        rw [← htext, hl] at hall
        exact absurd (hall (List.mem_cons_self ..)).1 (by decide)
      · have h45 : c ≠ 45 := by
          rintro rfl
          exact absurd hc.1 (by decide)
        have h43 : c ≠ 43 := by
          rintro rfl
          exact absurd hc.1 (by decide)
        rw [hl, valorConSigno, if_neg h45, if_neg h43, ← hl, htext, hdig]
        omega
  unfold atoi
  rw [hblanco, hvalor, min_eq_right (by omega), max_eq_right (by omega)]
  exact int32_of_range h₁ h₂

end Ansisop.Sockets
