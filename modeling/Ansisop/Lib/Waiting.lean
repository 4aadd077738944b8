import Mathlib.Tactic

/-!
Queues of waiters.

A family of queues where nobody stands twice (`Apart`), and counting semaphores that serve in the
order of arrival: the value goes down with every request and up with every signal, and a request
that finds it at zero or below stands in the queue. `replay` is the meaning of a history of
requests and signals; its requests are those granted, in their order, followed by those that wait.
-/

namespace Ansisop.Lib

/-! ### Families of queues -/

section Family

variable {ι α : Type*} [DecidableEq ι] {q : ι → List α} {l : ι} {a b : α} {r : List α}

/-- Nobody stands in two queues, or twice in one. -/
structure Apart (q : ι → List α) : Prop where
  nodup : ∀ l, (q l).Nodup
  unique : ∀ a l l', a ∈ q l → a ∈ q l' → l = l'

lemma mem_update {l' : ι} : a ∈ Function.update q l r l' → (l' = l ∧ a ∈ r) ∨ (l' ≠ l ∧ a ∈ q l') := by
  intro h
  by_cases hl : l' = l
  · subst hl
    exact .inl ⟨rfl, by simpa using h⟩
  · exact .inr ⟨hl, by simpa [Function.update_of_ne hl] using h⟩

/-- Somebody who stands nowhere joins a queue. -/
lemma Apart.push (h : Apart q) (ha : ∀ l, a ∉ q l) (l : ι) :
    Apart (Function.update q l (q l ++ [a])) := by
  constructor
  · intro l'
    by_cases hl : l' = l
    · subst hl
      rw [Function.update_self]
      exact (h.nodup l').append (List.nodup_singleton a) (by simpa using ha l')
    · rw [Function.update_of_ne hl]
      exact h.nodup l'
  · intro b l₁ l₂ h₁ h₂
    rcases mem_update h₁ with ⟨rfl, hb₁⟩ | ⟨-, hb₁⟩ <;>
      rcases mem_update h₂ with ⟨rfl, hb₂⟩ | ⟨-, hb₂⟩
    · rfl
    · rcases List.mem_append.1 hb₁ with hb₁ | hb₁
      · exact h.unique b _ _ hb₁ hb₂
      · exact absurd (List.mem_singleton.1 hb₁ ▸ hb₂) (ha _)
    · rcases List.mem_append.1 hb₂ with hb₂ | hb₂
      · exact h.unique b _ _ hb₁ hb₂
      · exact absurd (List.mem_singleton.1 hb₂ ▸ hb₁) (ha _)
    · exact h.unique b _ _ hb₁ hb₂

/-- Whoever stands after the first one has left stood there before. -/
lemma mem_of_pop (hq : q l = a :: r) {l' : ι} (hb : b ∈ Function.update q l r l') : b ∈ q l' := by
  rcases mem_update hb with ⟨rfl, hr⟩ | ⟨-, hr⟩
  · exact hq ▸ List.mem_cons_of_mem a hr
  · exact hr

/-- The first one leaves a queue, and then stands nowhere. -/
lemma Apart.pop (h : Apart q) (hq : q l = a :: r) :
    Apart (Function.update q l r) ∧ ∀ l', a ∉ Function.update q l r l' := by
  have hn : (a :: r).Nodup := hq ▸ h.nodup l
  refine ⟨⟨fun l' => ?_, fun b l₁ l₂ h₁ h₂ => ?_⟩, fun l' hm => ?_⟩
  · by_cases hl : l' = l
    · subst hl
      rw [Function.update_self]
      exact hn.of_cons
    · rw [Function.update_of_ne hl]
      exact h.nodup l'
  · exact h.unique b l₁ l₂ (mem_of_pop hq h₁) (mem_of_pop hq h₂)
  · rcases mem_update hm with ⟨-, hm⟩ | ⟨hl, hm⟩
    · exact hn.notMem hm
    · exact hl (h.unique a l' l hm (hq ▸ List.mem_cons_self))

/-- Whoever is not the first one is still where he was. -/
lemma mem_pop (hq : q l = a :: r) (hab : b ≠ a) {l' : ι} (hb : b ∈ q l') :
    b ∈ Function.update q l r l' := by
  by_cases hl : l' = l
  · subst hl
    rw [Function.update_self]
    rw [hq] at hb
    exact (List.mem_cons.1 hb).resolve_left hab
  · rwa [Function.update_of_ne hl]

lemma mem_push {l' : ι} (hb : b ∈ q l') : b ∈ Function.update q l (q l ++ [a]) l' := by
  by_cases hl : l' = l
  · subst hl
    rw [Function.update_self]
    exact List.mem_append_left _ hb
  · rwa [Function.update_of_ne hl]

end Family

/-! ### Counting semaphores -/

/-- A request of somebody, or a signal. -/
inductive SemOp (α : Type*) where
  | wait (a : α)
  | signal
  deriving DecidableEq

/-- The value of a semaphore, and those who wait. -/
structure Counting (α : Type*) where
  value : ℤ
  queue : List α

variable {α : Type*}

namespace SemOp

/-- The requests of a history, in their order. -/
def requests (ops : List (SemOp α)) : List α :=
  ops.filterMap fun op => match op with
    | wait a => some a
    | signal => none

/-- The number of signals of a history. -/
def signals (ops : List (SemOp α)) : ℕ :=
  ops.countP fun op => match op with
    | wait _ => false
    | signal => true

@[simp] lemma requests_wait (ops : List (SemOp α)) (a : α) :
    requests (ops ++ [wait a]) = requests ops ++ [a] := by simp [requests]

@[simp] lemma requests_signal (ops : List (SemOp α)) :
    requests (ops ++ [signal]) = requests ops := by simp [requests]

@[simp] lemma signals_wait (ops : List (SemOp α)) (a : α) :
    signals (ops ++ [wait a]) = signals ops := by simp [signals]

@[simp] lemma signals_signal (ops : List (SemOp α)) :
    signals (ops ++ [signal]) = signals ops + 1 := by simp [signals]

end SemOp

namespace Counting

open SemOp

/-- What an operation makes of a semaphore. -/
def exec (s : Counting α) : SemOp α → Counting α
  | wait a => ⟨s.value - 1, if 0 < s.value then s.queue else s.queue ++ [a]⟩
  | signal => ⟨s.value + 1, s.queue.tail⟩

/-- Whom an operation grants his request. -/
def grants (s : Counting α) : SemOp α → List α
  | wait a => if 0 < s.value then [a] else []
  | signal => s.queue.take 1

/-- A history of operations, the first one first. -/
def replay (s : Counting α) (ops : List (SemOp α)) : Counting α := ops.foldl exec s

/-- The requests granted in a history, in the order of the grants. -/
def granted (s : Counting α) : List (SemOp α) → List α
  | [] => []
  | op :: ops => s.grants op ++ granted (s.exec op) ops

variable (s : Counting α) (ops : List (SemOp α))

@[simp] lemma replay_snoc (op : SemOp α) : s.replay (ops ++ [op]) = (s.replay ops).exec op := by
  simp [replay]

lemma granted_snoc (op : SemOp α) :
    s.granted (ops ++ [op]) = s.granted ops ++ (s.replay ops).grants op := by
  induction ops generalizing s with
  | nil => simp [granted, replay]
  | cons o ops ih => simp [granted, ih, replay]

/-- The value is what there was and what has been put in, less what has been asked for. -/
theorem value_replay (v : ℤ) :
    ((⟨v, []⟩ : Counting α).replay ops).value = v + signals ops - (requests ops).length := by
  induction ops using List.reverseRecOn with
  | nil => simp [replay, signals, requests]
  | append_singleton ops op ih =>
    cases op with
    | wait a => simp [exec, ih]; omega
    | signal => simp [exec, ih]; omega

/-- Nobody waits at a value above zero, and at zero or below no more wait than it says. -/
lemma queue_replay_le (v : ℤ) : ((⟨v, []⟩ : Counting α).replay ops).queue.length ≤
    (-((⟨v, []⟩ : Counting α).replay ops).value).toNat := by
  induction ops using List.reverseRecOn with
  | nil => simp [replay]
  | append_singleton ops op ih =>
    rw [replay_snoc]
    set t := (⟨v, []⟩ : Counting α).replay ops
    cases op with
    | wait a =>
      by_cases h : 0 < t.value
      · simp only [exec, if_pos h]
        omega
      · simp only [exec, if_neg h, List.length_append, List.length_singleton]
        omega
    | signal =>
      simp only [exec, List.length_tail]
      omega

lemma queue_nil_of_pos {v : ℤ} (h : 0 < ((⟨v, []⟩ : Counting α).replay ops).value) :
    ((⟨v, []⟩ : Counting α).replay ops).queue = [] := by
  have := queue_replay_le ops v
  exact List.length_eq_zero_iff.1 (by omega)

/-- **Requests are granted in the order of arrival**: those granted come first, and those that wait
are the others. -/
theorem requests_eq (v : ℤ) : requests ops =
    (⟨v, []⟩ : Counting α).granted ops ++ ((⟨v, []⟩ : Counting α).replay ops).queue := by
  induction ops using List.reverseRecOn with
  | nil => simp [replay, requests, granted]
  | append_singleton ops op ih =>
    rw [replay_snoc, granted_snoc]
    set t := (⟨v, []⟩ : Counting α).replay ops with ht
    cases op with
    | wait a =>
      by_cases h : 0 < t.value
      · have hq : t.queue = [] := queue_nil_of_pos ops h
        simp [exec, grants, h, ih, hq]
      · simp [exec, grants, h, ih]
    | signal =>
      simp only [requests_signal, exec, grants, ih, List.append_assoc]
      cases t.queue <;> rfl

/-- From a value that is not negative, the number of those who wait is what the value is below
zero. -/
lemma queue_replay_length {v : ℤ} (hv : 0 ≤ v) :
    ((⟨v, []⟩ : Counting α).replay ops).queue.length =
      (-((⟨v, []⟩ : Counting α).replay ops).value).toNat := by
  induction ops using List.reverseRecOn with
  | nil =>
    simp only [replay, List.foldl_nil, List.length_nil]
    omega
  | append_singleton ops op ih =>
    rw [replay_snoc]
    set t := (⟨v, []⟩ : Counting α).replay ops
    cases op with
    | wait a =>
      by_cases h : 0 < t.value
      · simp only [exec, if_pos h]
        omega
      · simp only [exec, if_neg h, List.length_append, List.length_singleton]
        omega
    | signal =>
      simp only [exec, List.length_tail]
      omega

/-- **As many requests are granted as there are units**, if that many have been made. -/
theorem granted_length {v : ℤ} (hv : 0 ≤ v) : ((⟨v, []⟩ : Counting α).granted ops).length =
    min (requests ops).length (v.toNat + signals ops) := by
  have hr := congrArg List.length (requests_eq ops v)
  have hq := queue_replay_length ops hv
  have hval := value_replay (α := α) ops v
  rw [List.length_append] at hr
  omega

/-- The first requests are the granted ones, and the others wait. -/
theorem granted_eq_take {v : ℤ} (hv : 0 ≤ v) :
    (⟨v, []⟩ : Counting α).granted ops =
        (requests ops).take (min (requests ops).length (v.toNat + signals ops)) ∧
      ((⟨v, []⟩ : Counting α).replay ops).queue =
        (requests ops).drop (min (requests ops).length (v.toNat + signals ops)) := by
  rw [← granted_length ops hv, requests_eq ops v]
  exact ⟨(List.take_left' rfl).symm, (List.drop_left' rfl).symm⟩

end Counting

/-- What is left of a list when its first part is taken away. -/
lemma append_diff_self [BEq α] [LawfulBEq α] (l₁ l₂ : List α) : (l₁ ++ l₂).diff l₁ = l₂ := by
  induction l₁ with
  | nil => rfl
  | cons a l ih => rw [List.cons_append, List.diff_cons, List.erase_cons_head, ih]

end Ansisop.Lib
