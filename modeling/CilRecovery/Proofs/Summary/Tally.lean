import CilRecovery.Summary
import Mathlib.Algebra.GroupWithZero.Nat

/-!
# What a summary counts

The number of instructions with an operation is computed from the counts of the single operations.
Every operation has one of these, so it is the number of outcomes that are an operation, and what is
left are the outcomes that are none.  Counts of outcomes add up where lists are joined.

    identified = number of outcomes that are an operation                    (identified_eq_countP)
    identified + unknown = length                                        (identified_add_unknown)
    identified, unknown and count of a join are sums       (identified_append, unknown_append, …)
-/

namespace CilRecovery

theorem Operation.count_all (o : Operation) : all.count o = 1 := by
  cases o <;> rfl

namespace Summary

/-- One more outcome adds one to the counts if it is among the operations counted. -/
theorem sum_count_cons (ops : List Operation) (o : Operation) (outcomes : List (Option Operation)) :
    (ops.map fun op => (some o :: outcomes).count (some op)).sum =
      (ops.map fun op => outcomes.count (some op)).sum + ops.count o := by
  induction ops with
  | nil => rfl
  | cons op rest ih =>
    rw [List.map_cons, List.sum_cons, ih, List.map_cons, List.sum_cons, List.count_cons,
      List.count_cons]
    by_cases h : op = o
    · subst h
      simp only [beq_self_eq_true, if_true]
      omega
    · have hsome : (some o == some op) = false := by simpa using Ne.symm h
      simp only [hsome, beq_eq_false_iff_ne.2 h, Bool.false_eq_true, if_false]
      omega

/-- Operations that do not occur have no entry among the counts, and add nothing. -/
theorem identified_eq_sum (s : Summary) : s.identified = (Operation.all.map s.count).sum := by
  unfold identified counts
  induction Operation.all with
  | nil => rfl
  | cons op rest ih =>
    rw [List.map_cons, List.map_cons, List.sum_cons, ← ih]
    by_cases h : s.count op = 0
    · rw [List.filter_cons_of_neg (by simpa using h), h, Nat.zero_add]
    · rw [List.filter_cons_of_pos (by simpa using h), List.foldr_cons]

theorem identified_eq_countP (s : Summary) : s.identified = s.outcomes.countP Option.isSome := by
  rw [identified_eq_sum]
  obtain ⟨outcomes⟩ := s
  unfold count
  induction outcomes with
  | nil => rfl
  | cons outcome rest ih =>
    cases outcome with
    | none =>
      rw [List.countP_cons_of_neg (by simp), ← ih]
      simp only [List.count_cons_of_ne (Option.some_ne_none _).symm]
    | some o => rw [List.countP_cons_of_pos rfl, ← ih, sum_count_cons, Operation.count_all]

theorem identified_le_length (s : Summary) : s.identified ≤ s.length := by
  rw [identified_eq_countP]
  exact List.countP_le_length

/-- The subtraction that gives the unknown ones never falls short. -/
theorem identified_add_unknown (s : Summary) : s.identified + s.unknown = s.length := by
  have := s.identified_le_length
  unfold unknown
  omega

/-! ## Joined lists of outcomes -/

variable {s s₁ s₂ : Summary} (h : s.outcomes = s₁.outcomes ++ s₂.outcomes)

include h

theorem identified_append : s.identified = s₁.identified + s₂.identified := by
  rw [identified_eq_countP, identified_eq_countP, identified_eq_countP, h, List.countP_append]

theorem unknown_append : s.unknown = s₁.unknown + s₂.unknown := by
  have hlen : s.length = s₁.length + s₂.length := by
    unfold length
    rw [h, List.length_append]
  have := s.identified_add_unknown
  have := s₁.identified_add_unknown
  have := s₂.identified_add_unknown
  have := identified_append h
  omega

theorem count_append (op : Operation) : s.count op = s₁.count op + s₂.count op := by
  unfold count
  rw [h, List.count_append]

end Summary

end CilRecovery
