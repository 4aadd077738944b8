import Ansisop.Lib.Blocks

/-!
The free space of a layout, and what a sweep sees of it.

An address is free when it lies in the memory and no block occupies it; a *hole* is a maximal range
of free addresses (`Hole`). A sweep that stops at every block, also at those of size zero, and that
wants to see one more free byte before it believes in a range, finds the places of `Room`: `k` bytes
from the cursor or from the end of a block on, and no block that starts on them or right after them.
`room_cons` is what one step of such a sweep leaves to the rest of it.

Room is always part of a hole (`Room.exists_hole`); the start of a hole has room for as many bytes
as there are before the next block, less one (`Hole.room_iff`). So a largest hole is not always the
one with the most room; `exists_largest_widest_iff` says when it is, if no block is empty.
-/

namespace Ansisop.Lib.Blocks

variable {α : Type*} (pos size : α → ℤ)

/-- The addresses of the memory that no block occupies. -/
def free (tot : ℤ) (l : List α) : Set ℤ := {x | 0 ≤ x ∧ x < tot ∧ ∀ a ∈ l, x ∉ span pos size a}

/-- A maximal range of free addresses. -/
structure Hole (tot : ℤ) (l : List α) (lo hi : ℤ) : Prop where
  lt : lo < hi
  subset : Set.Ico lo hi ⊆ free pos size tot l
  left : lo - 1 ∉ free pos size tot l
  right : hi ∉ free pos size tot l

/-- The first hole of at least `t` addresses. -/
structure FirstHole (tot : ℤ) (l : List α) (t lo hi : ℤ) : Prop where
  hole : Hole pos size tot l lo hi
  fits : t ≤ hi - lo
  first : ∀ lo₁ hi₁, Hole pos size tot l lo₁ hi₁ → t ≤ hi₁ - lo₁ → lo ≤ lo₁

/-- A hole as large as any other. -/
structure LargestHole (tot : ℤ) (l : List α) (lo hi : ℤ) : Prop where
  hole : Hole pos size tot l lo hi
  largest : ∀ lo₁ hi₁, Hole pos size tot l lo₁ hi₁ → hi₁ - lo₁ ≤ hi - lo

/-- A place for `k` bytes that a sweep from the cursor on meets. -/
structure Room (tot : ℤ) (l : List α) (k cur x : ℤ) : Prop where
  start : x = cur ∨ ∃ a ∈ l, pos a + size a = x
  le : cur ≤ x
  fits : x + k ≤ tot
  apart : ∀ a ∈ l, pos a + size a ≤ x ∨ x + k < pos a

/-- The first place with room for as many bytes as there is room for anywhere. -/
structure Widest (tot : ℤ) (l : List α) (k x : ℤ) : Prop where
  room : Room pos size tot l k 0 x
  first : ∀ y, Room pos size tot l k 0 y → x ≤ y
  most : ∀ j y, k < j → ¬ Room pos size tot l j 0 y

variable {pos size} {tot : ℤ} {l l₁ : List α} {a : α} {k t cur x lo hi : ℤ}

lemma mem_span_iff : x ∈ span pos size a ↔ pos a ≤ x ∧ x < pos a + size a := Set.mem_Ico

/-! ### Order does not matter -/

lemma Room.perm (hr : Room pos size tot l k cur x) (h : l.Perm l₁) :
    Room pos size tot l₁ k cur x := by
  refine ⟨?_, hr.le, hr.fits, fun a ha => hr.apart a (h.mem_iff.2 ha)⟩
  rcases hr.start with hx | ⟨a, ha, hx⟩
  · exact .inl hx
  · exact .inr ⟨a, h.mem_iff.1 ha, hx⟩

lemma room_perm (h : l.Perm l₁) :
    Room pos size tot l k cur x ↔ Room pos size tot l₁ k cur x :=
  ⟨fun hr => hr.perm h, fun hr => hr.perm h.symm⟩

/-! ### The sweep -/

lemma room_nil : Room pos size tot [] k cur x ↔ x = cur ∧ cur + k ≤ tot := by
  constructor
  · intro h
    have hx : x = cur := by simpa using h.start
    exact ⟨hx, hx ▸ h.fits⟩
  · rintro ⟨rfl, h⟩
    exact ⟨.inl rfl, le_rfl, h, by simp⟩

/-- Room for many bytes is room for fewer. -/
lemma Room.mono (h : Room pos size tot l k cur x) (hkt : t ≤ k) :
    Room pos size tot l t cur x := by
  refine ⟨h.start, h.le, by have := h.fits; omega, fun a ha => ?_⟩
  have := h.apart a ha
  omega

/-- **One step of a sweep.** There is room at the cursor when the first block starts late enough;
all other room is room for the sweep that goes on behind that block. -/
theorem room_cons (h : Layout pos size tot (a :: l)) (hs : Sorted pos (a :: l))
    (hc : Clear pos size cur (a :: l)) (hk : 0 ≤ k) :
    Room pos size tot (a :: l) k cur x ↔
      (x = cur ∧ cur + k < pos a) ∨ Room pos size tot l k (max cur (pos a) + size a) x := by
  have ha0 := h.size_nonneg a (List.mem_cons_self ..)
  have hfit := h.fits a (List.mem_cons_self ..)
  have hca := hc a (List.mem_cons_self ..)
  constructor
  · intro hr
    have hle := hr.le
    have hapart := hr.apart a (List.mem_cons_self ..)
    by_cases hcur : x = cur ∧ cur + k < pos a
    · exact .inl hcur
    · -- the block is behind the place
      have hend : pos a + size a ≤ x := by
        rcases hapart with hend | hlt
        · exact hend
        · rcases hr.start with rfl | ⟨b, hb, hx⟩
          · exact absurd ⟨rfl, hlt⟩ hcur
          · have hb0 := h.size_nonneg b hb
            rcases List.mem_cons.1 hb with rfl | hb
            · omega
            · have := (List.pairwise_cons.1 hs).1 b hb
              omega
      right
      refine ⟨?_, by omega, hr.fits, fun b hb => hr.apart b (List.mem_cons_of_mem _ hb)⟩
      rcases hr.start with rfl | ⟨b, hb, hx⟩
      · left; omega
      · rcases List.mem_cons.1 hb with rfl | hb
        · left; omega
        · exact .inr ⟨b, hb, hx⟩
  · rintro (⟨rfl, hlt⟩ | hr)
    · refine ⟨.inl rfl, le_rfl, by omega, fun b hb => .inr ?_⟩
      rcases List.mem_cons.1 hb with rfl | hb
      · exact hlt
      · have := (List.pairwise_cons.1 hs).1 b hb
        omega
    · have hle := hr.le
      refine ⟨?_, by omega, hr.fits, fun b hb => ?_⟩
      · rcases hr.start with hx | ⟨b, hb, hx⟩
        · by_cases hpos : cur ≤ pos a
          · exact .inr ⟨a, List.mem_cons_self .., by omega⟩
          · left; omega
        · exact .inr ⟨b, List.mem_cons_of_mem _ hb, hx⟩
      · rcases List.mem_cons.1 hb with rfl | hb
        · left; omega
        · exact hr.apart b hb

/-! ### Room and what is occupied -/

/-- Room is free of every block. -/
lemma Room.disjoint (hr : Room pos size tot l k cur x) (h0 : ∀ a ∈ l, 0 ≤ size a) (hk : 0 ≤ k) :
    ∀ a ∈ l, Disjoint (span pos size a) (Set.Ico x (x + k)) := by
  intro a ha
  have := hr.apart a ha
  have := h0 a ha
  unfold span
  rw [Set.Ico_disjoint_Ico]
  omega

/-- **What is occupied and what there is room for fit together.** -/
theorem Room.total_le : ∀ {l : List α} {cur : ℤ}, Layout pos size tot l → Sorted pos l →
    Clear pos size cur l → 0 ≤ k → Room pos size tot l k cur x → cur + total size l + k ≤ tot
  | [], cur, _, _, _, _, hr => by
    have := room_nil.1 hr
    rw [total_nil]
    omega
  | a :: l, cur, h, hs, hc, hk, hr => by
    have ha0 := h.size_nonneg a (List.mem_cons_self ..)
    rw [total_cons]
    rcases (room_cons h hs hc hk).1 hr with ⟨rfl, hlt⟩ | hr'
    · -- the bytes at the cursor lie before the first block
      have hc' : Clear pos size (x + k) (a :: l) := by
        intro b hb _
        rcases List.mem_cons.1 hb with rfl | hb
        · omega
        · have := (List.pairwise_cons.1 hs).1 b hb
          omega
      have := Layout.sum_le h hs hc' hr.fits
      rw [total_cons] at this
      omega
    · have ih := Room.total_le h.tail (List.pairwise_cons.1 hs).2 (h.clear_step hs hc) hk hr'
      omega

/-- A packed list ends where its last block does. -/
lemma Packed.exists_end : ∀ {l : List α} {cur : ℤ}, Packed pos size cur l →
    cur + total size l = cur ∨ ∃ a ∈ l, pos a + size a = cur + total size l
  | [], cur, _ => by simp
  | a :: l, cur, h => by
    have ha := h.1
    right
    rw [total_cons]
    rcases h.2.exists_end with hend | ⟨b, hb, hend⟩
    · exact ⟨a, List.mem_cons_self .., by omega⟩
    · exact ⟨b, List.mem_cons_of_mem _ hb, by omega⟩

/-- **A packed list has room for all the rest of the memory.** -/
theorem Packed.room (h : Packed pos size 0 l) (h0 : ∀ a ∈ l, 0 ≤ size a)
    (hfit : total size l + k ≤ tot) : Room pos size tot l k 0 (total size l) := by
  have hend := h.exists_end
  rw [zero_add] at hend
  refine ⟨hend, total_nonneg h0, hfit, fun a ha => .inl ?_⟩
  have := h.end_le h0 a ha
  omega

/-! ### Holes -/

/-- Free addresses lie in a hole. -/
theorem exists_hole {x y : ℤ} (hxy : x < y) (hf : Set.Ico x y ⊆ free pos size tot l) :
    ∃ lo hi, Hole pos size tot l lo hi ∧ lo ≤ x ∧ y ≤ hi := by
  -- the range grows to the left as far as it can, then to the right
  obtain ⟨lo, ⟨hlo, hlox⟩, hmin⟩ := Int.exists_least_of_bdd
    (P := fun z => Set.Ico z y ⊆ free pos size tot l ∧ z ≤ x)
    ⟨0, fun z hz => (hz.1 ⟨le_rfl, by omega⟩).1⟩ ⟨x, hf, le_rfl⟩
  obtain ⟨hi, ⟨hhi, hyhi⟩, hmax⟩ := Int.exists_greatest_of_bdd
    (P := fun z => Set.Ico lo z ⊆ free pos size tot l ∧ y ≤ z)
    ⟨tot, fun z hz => by
      have hin : z - 1 ∈ Set.Ico lo z := ⟨by omega, by omega⟩
      have := (hz.1 hin).2.1
      omega⟩ ⟨y, hlo, le_rfl⟩
  refine ⟨lo, hi, ⟨by omega, hhi, fun hleft => ?_, fun hright => ?_⟩, hlox, hyhi⟩
  · have := hmin (lo - 1) ⟨fun z hz => ?_, by omega⟩
    · omega
    · rcases eq_or_lt_of_le hz.1 with rfl | hlt
      · exact hleft
      · exact hlo ⟨by omega, hz.2⟩
  · have := hmax (hi + 1) ⟨fun z hz => ?_, by omega⟩
    · omega
    · rcases eq_or_lt_of_le (Int.lt_add_one_iff.1 hz.2) with rfl | hlt
      · exact hright
      · exact hhi ⟨hz.1, hlt⟩

/-- **Room is part of a hole.** -/
theorem Room.exists_hole (hr : Room pos size tot l k 0 x) (hk : 1 ≤ k) :
    ∃ lo hi, Hole pos size tot l lo hi ∧ lo ≤ x ∧ x + k ≤ hi := by
  refine Blocks.exists_hole (by omega) fun y hy => ⟨?_, ?_, fun a ha hya => ?_⟩
  · exact hr.le.trans hy.1
  · exact hy.2.trans_le hr.fits
  · have hy' : x ≤ y ∧ y < x + k := hy
    have hya := mem_span_iff.1 hya
    have := hr.apart a ha
    omega

/-- A hole begins at the start of the memory or at the end of a block. -/
lemma Hole.start (h : Hole pos size tot l lo hi) : lo = 0 ∨ ∃ a ∈ l, pos a + size a = lo := by
  obtain ⟨h0, htot, hfree⟩ := h.subset ⟨le_rfl, h.lt⟩
  rcases h0.eq_or_lt with heq | hpos
  · exact .inl heq.symm
  · right
    by_contra hno
    refine h.left ⟨by omega, by omega, fun a ha hlo => hno ⟨a, ha, ?_⟩⟩
    have hin := mem_span_iff.1 hlo
    have hout : ¬ (pos a ≤ lo ∧ lo < pos a + size a) := fun h' => hfree a ha (mem_span_iff.2 h')
    omega

lemma Hole.le_tot (h : Hole pos size tot l lo hi) : hi ≤ tot := by
  have hlt := h.lt
  have hin : hi - 1 ∈ Set.Ico lo hi := ⟨by omega, by omega⟩
  have := (h.subset hin).2.1
  omega

lemma Hole.nonneg (h : Hole pos size tot l lo hi) : 0 ≤ lo := (h.subset ⟨le_rfl, h.lt⟩).1

/-- **The room at the start of a hole**: as many bytes as there are before the next block, less
one, or all of them when no block follows. -/
theorem Hole.room_iff (h : Hole pos size tot l lo hi) (h0 : ∀ a ∈ l, 0 ≤ size a)
    (hfit : k ≤ hi - lo) :
    Room pos size tot l k 0 lo ↔ ∀ a ∈ l, ¬ (lo < pos a ∧ pos a ≤ lo + k) := by
  constructor
  · intro hr a ha hin
    have := hr.apart a ha
    have := h0 a ha
    omega
  · intro hno
    have := h.le_tot
    refine ⟨h.start, h.nonneg, by omega, fun a ha => ?_⟩
    have hout : ¬ (pos a ≤ lo ∧ lo < pos a + size a) :=
      fun h' => (h.subset ⟨le_rfl, h.lt⟩).2.2 a ha (mem_span_iff.2 h')
    have := hno a ha
    omega

/-- Some hole that fits is the first one. -/
lemma exists_firstHole (h : Hole pos size tot l lo hi) (hfit : t ≤ hi - lo) :
    ∃ lo₁ hi₁, FirstHole pos size tot l t lo₁ hi₁ := by
  obtain ⟨lo₁, ⟨hi₁, h₁, hfit₁⟩, hmin⟩ := Int.exists_least_of_bdd
    (P := fun z => ∃ hi, Hole pos size tot l z hi ∧ t ≤ hi - z)
    ⟨0, fun z hz => by
      obtain ⟨_, hz, -⟩ := hz
      exact hz.nonneg⟩ ⟨lo, hi, h, hfit⟩
  exact ⟨lo₁, hi₁, h₁, hfit₁, fun lo₂ hi₂ h₂ hfit₂ => hmin lo₂ ⟨hi₂, h₂, hfit₂⟩⟩

/-- Two holes with a common address are one. -/
lemma Hole.left_eq {lo₁ hi₁ : ℤ} (h : Hole pos size tot l lo hi)
    (h₁ : Hole pos size tot l lo₁ hi₁) (hl : lo ≤ lo₁) (hr : lo₁ < hi) : lo₁ = lo := by
  by_contra hne
  have hin : lo₁ - 1 ∈ Set.Ico lo hi := ⟨by omega, by omega⟩
  exact h₁.left (h.subset hin)

/-! ### No empty blocks -/

section Nonempty

variable (h0 : ∀ a ∈ l, 0 < size a)
include h0

/-- Without empty blocks a sweep meets holes from their start. -/
lemma Room.hole_start (hr : Room pos size tot l k 0 x) (h : Hole pos size tot l lo hi)
    (hlo : lo ≤ x) (hhi : x < hi) : lo = x := by
  by_contra hne
  have hin : x - 1 ∈ Set.Ico lo hi := ⟨by omega, by omega⟩
  obtain ⟨hx0, -, hfree⟩ := h.subset hin
  rcases hr.start with rfl | ⟨a, ha, hx⟩
  · omega
  · have := h0 a ha
    exact hfree a ha (mem_span_iff.2 ⟨by omega, by omega⟩)

/-- Without empty blocks a hole has room for all of its bytes but one. -/
lemma Hole.room (h : Hole pos size tot l lo hi) (hk : k < hi - lo) :
    Room pos size tot l k 0 lo := by
  refine (h.room_iff (fun a ha => (h0 a ha).le) hk.le).2 fun a ha hin => ?_
  have hpos : pos a ∈ Set.Ico lo hi := ⟨by omega, by omega⟩
  have := h0 a ha
  exact (h.subset hpos).2.2 a ha (mem_span_iff.2 ⟨le_rfl, by omega⟩)

omit h0 in
/-- A hole that a sweep sees whole is the last one. -/
lemma Room.hole_end (h : Hole pos size tot l lo hi) (hr : Room pos size tot l (hi - lo) 0 lo) :
    hi = tot := by
  by_contra hne
  have hlt := h.lt
  have htot := h.le_tot
  have hlo := h.nonneg
  refine h.right ⟨by omega, by omega, fun a ha hin => ?_⟩
  have hin := mem_span_iff.1 hin
  have hapart := hr.apart a ha
  omega

/-- **When a largest hole has the most room.** Without empty blocks: when one byte less than the
largest hole is enough, or the hole at the end of the memory is a largest one. -/
theorem exists_largest_widest_iff (h : Layout pos size tot l) (ht : 1 ≤ t) :
    (∃ x hi k, LargestHole pos size tot l x hi ∧ Widest pos size tot l k x ∧ t ≤ k) ↔
      ∃ lo hi, LargestHole pos size tot l lo hi ∧ t ≤ hi - lo ∧ (t < hi - lo ∨ hi = tot) := by
  constructor
  · rintro ⟨x, hi, k, hL, hW, htk⟩
    obtain ⟨lo₁, hi₁, h₁, hlo₁, hhi₁⟩ := hW.room.exists_hole (by omega)
    have hle := hL.largest lo₁ hi₁ h₁
    refine ⟨x, hi, hL, by omega, ?_⟩
    by_cases hk : t < hi - x
    · exact .inl hk
    · right
      have hk : k = hi - x := by omega
      exact Room.hole_end hL.hole (hk ▸ hW.room)
  · rintro ⟨lo, hi, hL, hfit, hcase⟩
    -- what has room for the size of the largest hole is a largest hole
    have hwhole : ∀ x, Room pos size tot l (hi - lo) 0 x →
        ∃ hi₁, LargestHole pos size tot l x hi₁ := by
      intro x hx
      obtain ⟨lo₁, hi₁, h₁, hlo₁, hhi₁⟩ := hx.exists_hole (by omega)
      have hle := hL.largest lo₁ hi₁ h₁
      obtain rfl : lo₁ = x := by omega
      exact ⟨hi₁, h₁, fun lo₂ hi₂ h₂ => by have := hL.largest lo₂ hi₂ h₂; omega⟩
    have hmost : ∀ j y, hi - lo < j → ¬ Room pos size tot l j 0 y := by
      intro j y hj hy
      obtain ⟨lo₁, hi₁, h₁, hlo₁, hhi₁⟩ := hy.exists_hole (by omega)
      have := hL.largest lo₁ hi₁ h₁
      omega
    have hleast : ∀ k, (∃ x, Room pos size tot l k 0 x) →
        ∃ x, Room pos size tot l k 0 x ∧ ∀ y, Room pos size tot l k 0 y → x ≤ y :=
      fun k => Int.exists_least_of_bdd ⟨0, fun z hz => hz.le⟩
    by_cases hroom : ∃ x, Room pos size tot l (hi - lo) 0 x
    · obtain ⟨x, hx, hfirst⟩ := hleast _ hroom
      obtain ⟨hi₁, hL₁⟩ := hwhole x hx
      exact ⟨x, hi₁, hi - lo, hL₁, ⟨hx, hfirst, hmost⟩, hfit⟩
    · -- then every hole counts for one byte less, and the last one is not a largest one
      have hroom₁ : Room pos size tot l (hi - lo - 1) 0 lo := Hole.room h0 hL.hole (by omega)
      have hlt : t < hi - lo := by
        refine hcase.resolve_right fun htot => hroom ⟨lo, hL.hole.start, hL.hole.nonneg, ?_, ?_⟩
        · omega
        · intro a ha
          have hfits := h.fits a ha
          have := h0 a ha
          have := hroom₁.apart a ha
          omega
      obtain ⟨x, hx, hfirst⟩ := hleast _ ⟨lo, hroom₁⟩
      have hxlo := hfirst lo hroom₁
      obtain ⟨lo₁, hi₁, h₁, hlo₁, hhi₁⟩ := hx.exists_hole (by omega)
      obtain rfl := Room.hole_start h0 hx h₁ hlo₁ (by omega)
      have hsize : hi₁ - lo₁ = hi - lo := by
        by_contra hne
        have hle := hL.largest lo₁ hi₁ h₁
        have hk : hi - lo - 1 = hi₁ - lo₁ := by omega
        have htot := Room.hole_end h₁ (hk ▸ hx)
        have hend := hL.hole.le_tot
        by_cases hin : lo < hi₁
        · have := h₁.left_eq hL.hole hxlo hin
          omega
        · have := hL.hole.lt
          omega
      refine ⟨lo₁, hi₁, hi - lo - 1, ⟨h₁, fun lo₂ hi₂ h₂ => ?_⟩, ⟨hx, hfirst, ?_⟩, by omega⟩
      · have := hL.largest lo₂ hi₂ h₂
        omega
      · intro j y hj hy
        by_cases hj' : hi - lo < j
        · exact hmost j y hj' hy
        · have hj : j = hi - lo := by omega
          exact hroom ⟨y, hj ▸ hy⟩

end Nonempty

end Ansisop.Lib.Blocks
