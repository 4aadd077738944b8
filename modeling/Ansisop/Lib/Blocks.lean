import Mathlib

/-!
Blocks of a linear memory: things with a position and a size, kept in a list.

A block occupies the half-open interval from its position; a *layout* is a list of blocks that
lie in `[0, total)` and occupy pairwise disjoint intervals. Blocks of size zero occupy nothing,
so a layout may hold any number of them anywhere, also inside another block.

Two facts carry the algorithms that sweep a layout in the order of the positions. A sweep keeps a
cursor, and a list is *clear* of the cursor when no byte of it lies below (`Clear`); passing the
first block keeps the rest clear (`Layout.clear_step`). A list is *packed* from a cursor when each
block starts where the one before it ends (`Packed`), and packing a layout makes a layout
(`Packed.layout`, `Layout.sum_le`).
-/

namespace Ansisop.Lib.Blocks

variable {α : Type*} (pos size : α → ℤ)

/-- The addresses a block occupies. -/
def span (a : α) : Set ℤ := Set.Ico (pos a) (pos a + size a)

lemma disjoint_span_iff {a b : α} (ha : 0 ≤ size a) (hb : 0 ≤ size b) :
    Disjoint (span pos size a) (span pos size b) ↔
      size a = 0 ∨ size b = 0 ∨ pos a + size a ≤ pos b ∨ pos b + size b ≤ pos a := by
  unfold span
  rw [Set.Ico_disjoint_Ico]
  omega

/-- **A layout**: blocks of non-negative size inside `[0, total)`, on disjoint addresses. -/
structure Layout (total : ℤ) (l : List α) : Prop where
  size_nonneg : ∀ a ∈ l, 0 ≤ size a
  pos_nonneg : ∀ a ∈ l, 0 ≤ pos a
  fits : ∀ a ∈ l, pos a + size a ≤ total
  disjoint : l.Pairwise fun a b => Disjoint (span pos size a) (span pos size b)

/-- The list is ordered by position, ties in any order. -/
def Sorted (l : List α) : Prop := l.Pairwise fun a b => pos a ≤ pos b

/-- No block of the list has a byte below the cursor. -/
def Clear (cur : ℤ) (l : List α) : Prop := ∀ a ∈ l, 0 < size a → cur ≤ pos a

/-- Each block starts where the one before it ends, the first one at the cursor. -/
def Packed : ℤ → List α → Prop
  | _, [] => True
  | cur, a :: l => pos a = cur ∧ Packed (cur + size a) l

/-- What the blocks occupy together. -/
def total (l : List α) : ℤ := (l.map size).sum

variable {pos size}

@[simp] lemma total_nil : total size [] = 0 := rfl

@[simp] lemma total_cons (a : α) (l : List α) : total size (a :: l) = size a + total size l := by
  simp [total]

lemma total_perm {l l' : List α} (h : l.Perm l') : total size l = total size l' :=
  (h.map size).sum_eq

lemma total_nonneg {l : List α} (h : ∀ a ∈ l, 0 ≤ size a) : 0 ≤ total size l := by
  unfold total
  refine List.sum_nonneg fun x hx => ?_
  obtain ⟨a, ha, rfl⟩ := List.mem_map.1 hx
  exact h a ha

/-! ### Layouts -/

namespace Layout

variable {tot : ℤ} {l l' : List α} {a b : α}

lemma nil : Layout pos size tot [] :=
  ⟨by simp, by simp, by simp, List.Pairwise.nil⟩

lemma perm (h : Layout pos size tot l) (hp : l.Perm l') : Layout pos size tot l' :=
  ⟨fun a ha => h.size_nonneg a (hp.mem_iff.2 ha), fun a ha => h.pos_nonneg a (hp.mem_iff.2 ha),
    fun a ha => h.fits a (hp.mem_iff.2 ha), (hp.pairwise_iff fun hxy => hxy.symm).1 h.disjoint⟩

lemma sublist (h : Layout pos size tot l) (hs : l'.Sublist l) : Layout pos size tot l' :=
  ⟨fun a ha => h.size_nonneg a (hs.subset ha), fun a ha => h.pos_nonneg a (hs.subset ha),
    fun a ha => h.fits a (hs.subset ha), h.disjoint.sublist hs⟩

lemma tail (h : Layout pos size tot (a :: l)) : Layout pos size tot l :=
  h.sublist (List.sublist_cons_self a l)

/-- A block on free addresses can be added. -/
lemma snoc (h : Layout pos size tot l) (h0 : 0 ≤ size a) (hp : 0 ≤ pos a)
    (hf : pos a + size a ≤ tot) (hd : ∀ b ∈ l, Disjoint (span pos size b) (span pos size a)) :
    Layout pos size tot (l ++ [a]) := by
  refine ⟨fun b hb => ?_, fun b hb => ?_, fun b hb => ?_, ?_⟩
  · rcases List.mem_append.1 hb with hb | hb
    · exact h.size_nonneg b hb
    · rwa [List.mem_singleton.1 hb]
  · rcases List.mem_append.1 hb with hb | hb
    · exact h.pos_nonneg b hb
    · rwa [List.mem_singleton.1 hb]
  · rcases List.mem_append.1 hb with hb | hb
    · exact h.fits b hb
    · rwa [List.mem_singleton.1 hb]
  · rw [List.pairwise_append]
    exact ⟨h.disjoint, List.pairwise_singleton _ _, fun b hb c hc => by
      rw [List.mem_singleton.1 hc]; exact hd b hb⟩

/-- Two different blocks of a layout are apart, or one of them occupies nothing. -/
lemma apart_of_ne (h : Layout pos size tot l) (ha : a ∈ l) (hb : b ∈ l) (hne : a ≠ b) :
    size a = 0 ∨ size b = 0 ∨ pos a + size a ≤ pos b ∨ pos b + size b ≤ pos a := by
  have hsymm : Std.Symm fun a b : α => Disjoint (span pos size a) (span pos size b) :=
    ⟨fun _ _ hxy => hxy.symm⟩
  have hd := h.disjoint.forall ha hb hne
  exact (disjoint_span_iff pos size (h.size_nonneg a ha) (h.size_nonneg b hb)).1 hd

/-- Two blocks of a layout that both occupy something do not overlap. -/
lemma apart (h : Layout pos size tot (a :: l)) (hb : b ∈ l) (ha0 : 0 < size a)
    (hb0 : 0 < size b) : pos a + size a ≤ pos b ∨ pos b + size b ≤ pos a := by
  have hd := (List.pairwise_cons.1 h.disjoint).1 b hb
  rw [disjoint_span_iff pos size ha0.le hb0.le] at hd
  omega

end Layout

/-! ### The sweep -/

section Sweep

variable {tot cur : ℤ} {l : List α} {a : α}

lemma clear_of_nonneg (h : Layout pos size tot l) : Clear pos size 0 l :=
  fun a ha _ => h.pos_nonneg a ha

/-- **Passing a block.** The cursor that was clear of the list, moved to the end of the first
block, is clear of the rest. -/
lemma Layout.clear_step (h : Layout pos size tot (a :: l)) (hs : Sorted pos (a :: l))
    (hc : Clear pos size cur (a :: l)) : Clear pos size (max cur (pos a) + size a) l := by
  intro b hb hb0
  have hab : pos a ≤ pos b := (List.pairwise_cons.1 hs).1 b hb
  have hcb : cur ≤ pos b := hc b (List.mem_cons_of_mem _ hb) hb0
  have ha0 := h.size_nonneg a (List.mem_cons_self ..)
  rcases ha0.eq_or_lt with hz | hpos
  · omega
  · have hca := hc a (List.mem_cons_self ..) hpos
    have := h.apart hb hpos hb0
    omega

/-- The cursor does not leave the memory when it passes a block. -/
lemma Layout.cur_step (h : Layout pos size tot (a :: l)) (hc : Clear pos size cur (a :: l))
    (hcur : cur ≤ tot) : max cur (pos a) + size a ≤ tot := by
  have ha := h.fits a (List.mem_cons_self ..)
  have ha0 := h.size_nonneg a (List.mem_cons_self ..)
  rcases ha0.eq_or_lt with hz | hpos
  · omega
  · have := hc a (List.mem_cons_self ..) hpos
    omega

/-- What a layout occupies above a clear cursor fits above it. -/
theorem Layout.sum_le : ∀ {l : List α} {cur : ℤ}, Layout pos size tot l → Sorted pos l →
    Clear pos size cur l → cur ≤ tot → cur + total size l ≤ tot
  | [], cur, _, _, _, hcur => by simpa using hcur
  | a :: l, cur, h, hs, hc, hcur => by
    have ih := Layout.sum_le h.tail (List.pairwise_cons.1 hs).2 (h.clear_step hs hc)
      (h.cur_step hc hcur)
    have := le_max_left cur (pos a)
    rw [total_cons]
    omega

/-- A block between two cursors is apart from everything that ends below the lower one and from
everything that starts above the upper one. -/
lemma disjoint_hole {b : α} {lo hi : ℤ} (hlo : lo ≤ pos a) (hhi : pos a + size a ≤ hi)
    (ha : 0 ≤ size a) (hb : 0 ≤ size b) (hsep : pos b + size b ≤ lo ∨ hi ≤ pos b) :
    Disjoint (span pos size b) (span pos size a) := by
  rw [disjoint_span_iff pos size hb ha]
  omega

end Sweep

/-! ### Packed lists -/

section Pack

variable {tot cur : ℤ} {l : List α}

lemma Packed.le_pos : ∀ {l : List α} {cur : ℤ}, Packed pos size cur l → (∀ a ∈ l, 0 ≤ size a) →
    ∀ a ∈ l, cur ≤ pos a
  | a :: l, cur, h, h0, b, hb => by
    rcases List.mem_cons.1 hb with rfl | hb
    · exact h.1.ge
    · have := Packed.le_pos h.2 (fun c hc => h0 c (List.mem_cons_of_mem _ hc)) b hb
      have := h0 a (List.mem_cons_self ..)
      omega

lemma Packed.end_le : ∀ {l : List α} {cur : ℤ}, Packed pos size cur l → (∀ a ∈ l, 0 ≤ size a) →
    ∀ a ∈ l, pos a + size a ≤ cur + total size l
  | a :: l, cur, h, h0, b, hb => by
    have hl : ∀ c ∈ l, 0 ≤ size c := fun c hc => h0 c (List.mem_cons_of_mem _ hc)
    rw [total_cons]
    rcases List.mem_cons.1 hb with rfl | hb
    · have := total_nonneg hl
      have := h.1
      omega
    · have := Packed.end_le h.2 hl b hb
      omega

lemma Packed.disjoint : ∀ {l : List α} {cur : ℤ}, Packed pos size cur l →
    (∀ a ∈ l, 0 ≤ size a) → l.Pairwise fun a b => Disjoint (span pos size a) (span pos size b)
  | [], _, _, _ => List.Pairwise.nil
  | a :: l, cur, h, h0 => by
    have hl : ∀ c ∈ l, 0 ≤ size c := fun c hc => h0 c (List.mem_cons_of_mem _ hc)
    refine List.pairwise_cons.2 ⟨fun b hb => ?_, h.2.disjoint hl⟩
    have hb' := h.2.le_pos hl b hb
    have ha := h.1
    rw [disjoint_span_iff pos size (h0 a (List.mem_cons_self ..)) (hl b hb)]
    omega

/-- A packed list is ordered by position. -/
lemma Packed.sorted : ∀ {l : List α} {cur : ℤ}, Packed pos size cur l → (∀ a ∈ l, 0 ≤ size a) →
    Sorted pos l
  | [], _, _, _ => List.Pairwise.nil
  | a :: l, cur, h, h0 => by
    have hl : ∀ c ∈ l, 0 ≤ size c := fun c hc => h0 c (List.mem_cons_of_mem _ hc)
    refine List.pairwise_cons.2 ⟨fun b hb => ?_, h.2.sorted hl⟩
    have hb' := h.2.le_pos hl b hb
    have ha := h.1
    have ha0 := h0 a (List.mem_cons_self ..)
    omega

/-- **A packed list that fits is a layout.** -/
theorem Packed.layout (h : Packed pos size cur l) (h0 : ∀ a ∈ l, 0 ≤ size a) (hcur : 0 ≤ cur)
    (hfit : cur + total size l ≤ tot) : Layout pos size tot l :=
  ⟨h0, fun a ha => hcur.trans (h.le_pos h0 a ha), fun a ha => (h.end_le h0 a ha).trans hfit,
    h.disjoint h0⟩

end Pack

end Ansisop.Lib.Blocks
