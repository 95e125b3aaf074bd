import Mathlib.Data.List.Basic
import Mathlib.Data.List.Perm.Basic

/-!
# Orders that differ in swaps

When the steps of a run affect each other only along certain lines, such as one document or one
counter, a run is not determined by a sequence but by what it does on each line.
`Reordered.of_lines` says that two arrangements of the same steps with the same order on every line
differ in swaps of neighbours that have no line in common, so that a property of runs needs to be
shown of one swap only.
-/

namespace GatewayConfig

variable {α κ : Type}

/-- A list and what becomes of it by swaps of neighbours that are free to change places. -/
inductive Reordered (free : α → α → Prop) : List α → List α → Prop
  /-- Nothing is swapped. -/
  | nil : Reordered free [] []
  /-- The swaps are behind the first element. -/
  | cons (a : α) {xs ys : List α} (h : Reordered free xs ys) : Reordered free (a :: xs) (a :: ys)
  /-- The first two elements are swapped. -/
  | swap {a b : α} (h : free a b) (xs : List α) : Reordered free (a :: b :: xs) (b :: a :: xs)
  /-- There are swaps, and swaps after them. -/
  | trans {xs ys zs : List α} (h : Reordered free xs ys) (h' : Reordered free ys zs) :
    Reordered free xs zs

/-- Two steps that have no line in common. -/
def Disjoined (line : κ → α → Bool) (a b : α) : Prop := ∀ k, ¬ (line k a = true ∧ line k b = true)

/-- Two elements that share no line do so in either order. -/
theorem Disjoined.symm {line : κ → α → Bool} {a b : α} (h : Disjoined line a b) :
    Disjoined line b a := fun k hk => h k hk.symm

/-- Two steps that have no line in common can stand in either order on each. -/
theorem Disjoined.filter_eq {line : κ → α → Bool} {a b : α} (h : Disjoined line a b)
    (xs : List α) (k : κ) : (a :: b :: xs).filter (line k) = (b :: a :: xs).filter (line k) := by
  have hk := h k
  simp only [List.filter_cons]
  cases ha : line k a with
  | false => rfl
  | true =>
    cases hb : line k b with
    | false => rfl
    | true => exact absurd ⟨ha, hb⟩ hk

namespace Reordered

variable {free : α → α → Prop}

/-- Every list is a reordering of itself. -/
theorem refl (xs : List α) : Reordered free xs xs := by
  induction xs with
  | nil => exact nil
  | cons a xs ih => exact ih.cons a

/-- The elements are the same. -/
theorem perm {xs ys : List α} (h : Reordered free xs ys) : xs.Perm ys := by
  induction h with
  | nil => exact .refl []
  | cons a _ ih => exact ih.cons a
  | swap _ xs => exact .swap _ _ xs
  | trans _ _ ih ih' => exact ih.trans ih'

/-- An element moves behind elements with which it is free to change places. -/
theorem move {a : α} {front : List α} (h : ∀ b ∈ front, free a b) (rest : List α) :
    Reordered free (a :: (front ++ rest)) (front ++ a :: rest) := by
  induction front with
  | nil => exact refl _
  | cons b front ih =>
    obtain ⟨hb, hfront⟩ := List.forall_mem_cons.1 h
    exact (swap hb _).trans ((ih hfront).cons b)

/-- What stands before the first element of another arrangement has no line in common with it. -/
theorem disjoined_of_filter {line : κ → α → Bool} {a : α} {xs front rest : List α}
    (h : ∀ k, (a :: xs).filter (line k) = (front ++ a :: rest).filter (line k)) (ha : a ∉ front) :
    ∀ b ∈ front, Disjoined line a b := by
  intro b hb k ⟨hka, hkb⟩
  have hk := h k
  rw [List.filter_cons_of_pos hka, List.filter_append] at hk
  cases hfront : front.filter (line k) with
  | nil => exact absurd (List.mem_filter.2 ⟨hb, hkb⟩) (by rw [hfront]; exact List.not_mem_nil)
  | cons c cs =>
    rw [hfront, List.cons_append] at hk
    obtain ⟨rfl, -⟩ := List.cons.inj hk
    exact ha (List.mem_filter.1 (by rw [hfront]; exact List.mem_cons_self)).1

/-- The rest of an arrangement has on every line what the other has without its first element. -/
theorem filter_rest {line : κ → α → Bool} {a : α} {xs front rest : List α}
    (h : ∀ k, (a :: xs).filter (line k) = (front ++ a :: rest).filter (line k))
    (hfront : ∀ b ∈ front, Disjoined line a b) (k : κ) :
    xs.filter (line k) = (front ++ rest).filter (line k) := by
  have hk := h k
  rw [List.filter_append] at hk ⊢
  cases hka : line k a with
  | true =>
    have hnone : front.filter (line k) = [] :=
      List.filter_eq_nil_iff.2 fun b hb hkb => hfront b hb k ⟨hka, hkb⟩
    rw [List.filter_cons_of_pos hka, List.filter_cons_of_pos hka, hnone] at hk
    rw [hnone]
    exact (List.cons.inj hk).2
  | false =>
    have hneg : ¬ line k a = true := by rw [hka]; exact Bool.false_ne_true
    rw [List.filter_cons_of_neg hneg, List.filter_cons_of_neg hneg] at hk
    exact hk

/-- Two arrangements of the same steps with the same order on every line differ in swaps of
neighbours that have no line in common. -/
theorem of_lines {line : κ → α → Bool} {xs ys : List α} (hperm : xs.Perm ys)
    (h : ∀ k, xs.filter (line k) = ys.filter (line k)) :
    Reordered (Disjoined line) xs ys := by
  induction xs generalizing ys with
  | nil =>
    obtain rfl := hperm.nil_eq
    exact nil
  | cons a xs ih =>
    obtain ⟨front, rest, rfl, ha⟩ := List.eq_append_cons_of_mem (hperm.subset List.mem_cons_self)
    have hfront := disjoined_of_filter h ha
    have hrest : xs.Perm (front ++ rest) := (hperm.trans List.perm_middle).cons_inv
    exact ((ih hrest (filter_rest h hfront)).cons a).trans (move hfront rest)

end Reordered

end GatewayConfig
