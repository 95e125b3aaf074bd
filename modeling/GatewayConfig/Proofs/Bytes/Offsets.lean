import GatewayConfig.Proofs.Bytes.Occurrence
import Mathlib.Data.List.Infix

/-!
# All occurrences

The places where one byte string stands inside another, counted with all overlaps. A byte that is
not in the needle divides them: `offsets_append_cons` says that no occurrence reaches over it. So a
long byte string may be searched piece by piece, and a piece that holds no occurrence only moves
those behind it (`Passes`).
-/

namespace GatewayConfig.Bytes

/-- The offsets at which the needle stands in a byte string, in order. They may overlap. -/
def offsets (needle b : Bytes) : List Nat :=
  (List.range (b.length + 1)).filter fun n => needle.isPrefixOf (b.drop n)

variable {needle a b c : Bytes} {x : UInt8} {n : Nat}

/-- An occurrence at an offset is a prefix of what is there. -/
theorem occursAt_iff : OccursAt needle b n ↔ n ≤ b.length ∧ needle <+: b.drop n := by
  constructor
  · rintro ⟨before, after, rfl, rfl⟩
    rw [List.append_assoc, List.drop_left, List.length_append]
    exact ⟨Nat.le_add_right _ _, List.prefix_append needle after⟩
  · rintro ⟨hn, after, hafter⟩
    refine ⟨b.take n, after, ?_, List.length_take_of_le hn⟩
    rw [List.append_assoc, hafter, List.take_append_drop]

/-- The list has exactly the offsets of occurrences. -/
theorem mem_offsets_iff : n ∈ offsets needle b ↔ OccursAt needle b n := by
  rw [offsets, List.mem_filter, List.mem_range, List.isPrefixOf_iff_prefix, occursAt_iff,
    Nat.lt_succ_iff]

/-- What stands nowhere has no offsets. -/
theorem offsets_eq_nil_iff : offsets needle b = [] ↔ ¬ needle <:+: b := by
  rw [List.eq_nil_iff_forall_not_mem]
  simp only [mem_offsets_iff]
  constructor
  · rintro h ⟨before, after, heq⟩
    exact h before.length ⟨before, after, heq.symm, rfl⟩
  · rintro h n ⟨before, after, heq, -⟩
    exact h ⟨before, after, heq.symm⟩

/-- What stands at the start and nowhere else has one offset. -/
theorem offsets_eq_zero (h : ∀ n, OccursAt needle b n ↔ n = 0) : offsets needle b = [0] := by
  have hfirst : needle.isPrefixOf (b.drop 0) = true :=
    List.isPrefixOf_iff_prefix.2 (occursAt_iff.1 ((h 0).2 rfl)).2
  have hlater : ∀ n < b.length, ¬ needle.isPrefixOf (b.drop (n + 1)) = true := by
    intro n hn hprefix
    have hoccurs := occursAt_iff.2 ⟨hn, List.isPrefixOf_iff_prefix.1 hprefix⟩
    exact Nat.succ_ne_zero n ((h _).1 hoccurs)
  rw [offsets, List.range_succ_eq_map, List.filter_cons, if_pos hfirst, List.cons_eq_cons,
    List.filter_eq_nil_iff]
  refine ⟨rfl, fun m hm => ?_⟩
  obtain ⟨k, hk, rfl⟩ := List.mem_map.1 hm
  exact hlater k (List.mem_range.1 hk)

/-- A byte string stands in itself at the start only. -/
theorem offsets_self (needle : Bytes) : offsets needle needle = [0] := by
  refine offsets_eq_zero fun n => ⟨?_, ?_⟩
  · rintro ⟨before, after, heq, rfl⟩
    have hlength := congrArg List.length heq
    rw [List.length_append, List.length_append] at hlength
    omega
  · rintro rfl
    exact occursAt_zero_iff.2 (List.prefix_refl needle)

/-- A start without some byte ends before that byte. -/
theorem prefix_append_cons_iff (hx : x ∉ needle) : needle <+: a ++ x :: b ↔ needle <+: a := by
  constructor
  · intro h
    rcases List.prefix_or_prefix_of_prefix h (List.prefix_append a (x :: b)) with h' | ⟨u, rfl⟩
    · exact h'
    · cases u with
      | nil => simp
      | cons y u =>
        obtain ⟨rfl, -⟩ := List.cons_prefix_cons.1 ((List.prefix_append_right_inj a).1 h)
        exact absurd (List.mem_append_right a List.mem_cons_self) hx
  · exact fun h => h.trans (List.prefix_append a (x :: b))

/-- No occurrence reaches over a byte that is not in the needle. -/
theorem offsets_append_cons (hx : x ∉ needle) (a b : Bytes) :
    offsets needle (a ++ x :: b) =
      offsets needle a ++ (offsets needle b).map (a.length + 1 + ·) := by
  have hlength : (a ++ x :: b).length + 1 = (a.length + 1) + (b.length + 1) := by
    rw [List.length_append, List.length_cons]
    omega
  rw [offsets, hlength, List.range_add, List.filter_append, List.filter_map]
  congr 1
  · refine List.filter_congr fun n hn => ?_
    have hle : n ≤ a.length := Nat.le_of_lt_succ (List.mem_range.1 hn)
    rw [List.drop_append_of_le_length hle, Bool.eq_iff_iff, List.isPrefixOf_iff_prefix,
      List.isPrefixOf_iff_prefix, prefix_append_cons_iff hx]
  · refine congrArg _ (List.filter_congr fun n _ => ?_)
    have hdrop : (a ++ x :: b).drop (a.length + 1 + n) = b.drop n := by
      have hpassed : (a ++ [x]).length = a.length + 1 := List.length_append
      rw [List.append_cons, ← List.drop_drop, List.drop_left' hpassed]
    rw [Function.comp_apply, hdrop]

/-- Bytes in which the needle does not stand and out of which it does not reach: they only move
what is found behind them. -/
def Passes (needle a : Bytes) : Prop :=
  ∀ rest, offsets needle (a ++ rest) = (offsets needle rest).map (a.length + ·)

/-- What passes and is followed by something that passes passes as a whole. -/
theorem Passes.append (ha : Passes needle a) (hc : Passes needle c) : Passes needle (a ++ c) := by
  intro rest
  rw [List.append_assoc, ha, hc, List.map_map, List.length_append]
  refine List.map_congr_left fun n _ => ?_
  rw [Function.comp_apply, Nat.add_assoc]

/-- Bytes without the needle, up to a byte that is not in it. -/
theorem passes_concat (hx : x ∉ needle) (ha : ¬ needle <:+: a) : Passes needle (a ++ [x]) := by
  intro rest
  rw [List.append_assoc, List.singleton_append, offsets_append_cons hx, offsets_eq_nil_iff.2 ha,
    List.nil_append, List.length_append, List.length_singleton]

end GatewayConfig.Bytes
