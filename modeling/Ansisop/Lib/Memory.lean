import Mathlib.Tactic

/-!
A memory as a function from addresses to cells: `memcpy` into it, reading a range of it, and
which reads a copy leaves alone.
-/

namespace Ansisop.Lib.Memory

variable {β : Type*}

/-- The cells of a range, the lowest address first. -/
def read (mem : ℤ → β) (p : ℤ) (n : ℕ) : List β := (List.range n).map fun i : ℕ => mem (p + (i : ℤ))

/-- The memory with the list copied to the address `p`. -/
def memcpy (mem : ℤ → β) (p : ℤ) (l : List β) : ℤ → β := fun a =>
  if p ≤ a then (l[(a - p).toNat]?).getD (mem a) else mem a

@[simp] lemma read_length (mem : ℤ → β) (p : ℤ) (n : ℕ) : (read mem p n).length = n := by
  simp [read]

@[simp] lemma read_zero (mem : ℤ → β) (p : ℤ) : read mem p 0 = [] := rfl

@[simp] lemma read_getElem (mem : ℤ → β) (p : ℤ) (n i : ℕ) (hi : i < (read mem p n).length) :
    (read mem p n)[i] = mem (p + i) := by simp [read]

lemma read_congr {mem mem' : ℤ → β} {p p' : ℤ} {n : ℕ}
    (h : ∀ i < n, mem (p + i) = mem' (p' + i)) : read mem p n = read mem' p' n := by
  unfold read
  exact List.map_congr_left fun i hi => h i (List.mem_range.1 hi)

lemma read_inj {mem mem' : ℤ → β} {p p' : ℤ} {n : ℕ} :
    read mem p n = read mem' p' n ↔ ∀ i < n, mem (p + i) = mem' (p' + i) := by
  refine ⟨fun h i hi => ?_, read_congr⟩
  have h1 : (read mem p n)[i]? = (read mem' p' n)[i]? := by rw [h]
  simpa [read, hi] using h1

/-- A part of a range that was read. -/
lemma read_drop_take (mem : ℤ → β) (p : ℤ) {n o m : ℕ} (h : o + m ≤ n) :
    ((read mem p n).drop o).take m = read mem (p + o) m := by
  refine List.ext_getElem (by simp; omega) fun i h1 h2 => ?_
  simp only [List.getElem_take, List.getElem_drop, read_getElem]
  congr 1
  push_cast
  ring

lemma read_drop (mem : ℤ → β) (p : ℤ) (o m : ℕ) :
    (read mem p (o + m)).drop o = read mem (p + o) m := by
  rw [← read_drop_take mem p (le_refl (o + m)), List.take_of_length_le (by simp)]

lemma memcpy_in (mem : ℤ → β) (p : ℤ) (l : List β) {i : ℕ} (hi : i < l.length) :
    memcpy mem p l (p + i) = l[i] := by
  have h1 : (p + (i : ℤ) - p).toNat = i := by omega
  have h2 : p ≤ p + (i : ℤ) := by omega
  simp only [memcpy, h2, if_true, h1, List.getElem?_eq_getElem hi, Option.getD_some]

@[simp] lemma memcpy_cons_self (mem : ℤ → β) (p : ℤ) (b : β) (l : List β) :
    memcpy mem p (b :: l) p = b := by simp [memcpy]

lemma memcpy_out (mem : ℤ → β) (p : ℤ) (l : List β) {a : ℤ} (h : a < p ∨ p + l.length ≤ a) :
    memcpy mem p l a = mem a := by
  unfold memcpy
  split
  · have hlen : l.length ≤ (a - p).toNat := by omega
    rw [List.getElem?_eq_none hlen, Option.getD_none]
  · rfl

@[simp] lemma memcpy_nil (mem : ℤ → β) (p : ℤ) : memcpy mem p [] = mem := by
  funext a
  exact memcpy_out mem p [] (by simp; omega)

/-- **Read after write.** -/
lemma read_memcpy_self (mem : ℤ → β) (p : ℤ) (l : List β) :
    read (memcpy mem p l) p l.length = l := by
  refine List.ext_getElem (by simp) fun i h1 h2 => ?_
  rw [read_getElem, memcpy_in mem p l h2]

end Ansisop.Lib.Memory
