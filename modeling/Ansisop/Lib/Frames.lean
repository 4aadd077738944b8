import Mathlib.Tactic

/-!
Records laid out in a buffer, one field after the other, and streams of records that start with
their own length.

`fill` copies fields into a buffer at a running offset, `slice` reads a part of one; neither goes
past the end. `frames` cuts a stream by what the front of each record says its length is.
-/

namespace Ansisop.Lib.Frames

variable {α β γ κ : Type*}

/-! ### Buffers -/

/-- The cells `[p, p + n)` of a buffer, if it has all of them. -/
def slice (l : List β) (p n : ℤ) : Option (List β) :=
  if 0 ≤ p ∧ 0 ≤ n ∧ p + n ≤ l.length then some ((l.drop p.toNat).take n.toNat) else none

lemma slice_middle (pre mid post : List β) {p n : ℤ} (hp : p = pre.length) (hn : n = mid.length) :
    slice (pre ++ (mid ++ post)) p n = some mid := by
  subst hp hn
  have hle : (pre.length : ℤ) + mid.length ≤ (pre ++ (mid ++ post)).length := by
    simp only [List.length_append]
    omega
  unfold slice
  rw [if_pos ⟨by omega, by omega, hle⟩]
  simp

/-- The fields are copied into the buffer from `p` on, each where the one before it ends. -/
def fill : List (List β) → ℕ → List β → Option (List β)
  | [], _, buf => some buf
  | f :: fs, p, buf =>
    if p + f.length ≤ buf.length then
      fill fs (p + f.length) (buf.take p ++ (f ++ buf.drop (p + f.length)))
    else none

/-- **Fields that fill the buffer to its end** leave nothing of it from `p` on. -/
theorem fill_exact (fs : List (List β)) : ∀ (p : ℕ) (buf : List β),
    p + fs.flatten.length = buf.length → fill fs p buf = some (buf.take p ++ fs.flatten) := by
  induction fs with
  | nil =>
    intro p buf h
    have hp : p = buf.length := by simpa using h
    simp [fill, hp]
  | cons f fs ih =>
    intro p buf h
    have hlen : p + (f.length + fs.flatten.length) = buf.length := by simpa using h
    have hp : (buf.take p).length = p := by
      rw [List.length_take]
      omega
    have hbuf : (buf.take p ++ (f ++ buf.drop (p + f.length))).length = buf.length := by
      simp only [List.length_append, List.length_take, List.length_drop]
      omega
    have htake : (buf.take p ++ (f ++ buf.drop (p + f.length))).take (p + f.length)
        = buf.take p ++ f := by
      rw [← List.append_assoc]
      exact List.take_left' (by simp [hp])
    unfold fill
    rw [if_pos (by omega), ih _ _ (by rw [hbuf]; omega), htake]
    simp

/-! ### Streams -/

section Stream

variable (size : List β → Option ℕ) (dec : κ → List β → Option γ)

/-- As many records as there are kinds, cut off the front of a stream and decoded; and what is left
of it. -/
def frames : List κ → List β → Option (List γ × List β)
  | [], l => some ([], l)
  | k :: ks, l =>
    (size l).bind fun n =>
      if n ≤ l.length then
        (dec k (l.take n)).bind fun x => (frames ks (l.drop n)).map fun r => (x :: r.1, r.2)
      else none

variable {size dec}

/-- **A stream of records is cut where they meet**, and each of them is decoded alone. -/
theorem frames_flatMap {kind : α → κ} {enc : α → List β} {out : α → γ} (l : List α)
    (hsize : ∀ a ∈ l, ∀ rest, size (enc a ++ rest) = some (enc a).length)
    (hdec : ∀ a ∈ l, dec (kind a) (enc a) = some (out a)) (rest : List β) :
    frames size dec (l.map kind) (l.flatMap enc ++ rest) = some (l.map out, rest) := by
  induction l with
  | nil => rfl
  | cons a l ih =>
    have ih := ih (fun b hb => hsize b (List.mem_cons_of_mem _ hb))
      (fun b hb => hdec b (List.mem_cons_of_mem _ hb))
    have hs := hsize a (List.mem_cons_self ..) (l.flatMap enc ++ rest)
    have hd := hdec a (List.mem_cons_self ..)
    rw [List.flatMap_cons, List.append_assoc, List.map_cons, frames, hs, Option.bind_some,
      if_pos (by simp), List.take_left, List.drop_left, hd, Option.bind_some, ih]
    rfl

end Stream

end Ansisop.Lib.Frames
