import CilRecovery.Proofs.Summary.Tally

/-!
# Counting in one pass

A summary computes its numbers from the outcomes whenever it is asked.  A *tally* has them stored: it
goes over the outcomes once, puts every operation into a table that it keeps in the order of the
operations, adds up the table, and takes what is left for unknown.  Both come to the same numbers.

    one more outcome adds one to its entry, and leaves the order          (addOne_entries)
    the table of a pass holds the multiplicities                          (countedFrom_entries)
    a tally stores the numbers of the summary                                 (ofOutcomes_eq)
    the positions without an operation increase         (mem_unknownIndices, pairwise_unknownIndices)
    all of this for one list of outcomes                                     (summary_by_counting)
-/

namespace CilRecovery

theorem Operation.pairwise_all : all.Pairwise fun a b => a.index < b.index := by decide +kernel

/-! ## Tables of counts -/

/-- A summary whose numbers are stored. -/
structure Tally where
  outcomes : List (Option Operation)
  identified : Nat
  unknown : Nat
  counts : List (Operation × Nat)
deriving DecidableEq

namespace Tally

/-- Counts an operation once more.  A first entry for it is put where the order of the operations has
its place. -/
def addOne (op : Operation) : List (Operation × Nat) → List (Operation × Nat)
  | [] => [(op, 1)]
  | (first, n) :: rest =>
    if first = op then (op, n + 1) :: rest
    else if op.index < first.index then (op, 1) :: (first, n) :: rest
    else (first, n) :: addOne op rest

/-- The table after a pass over outcomes that begins with the given one. -/
def countedFrom (table : List (Operation × Nat)) : List (Option Operation) → List (Operation × Nat)
  | [] => table
  | none :: rest => countedFrom table rest
  | some op :: rest => countedFrom (addOne op table) rest

def ofOutcomes (outcomes : List (Option Operation)) : Tally :=
  let counts := countedFrom [] outcomes
  let identified := (counts.map Prod.snd).sum
  ⟨outcomes, identified, outcomes.length - identified, counts⟩

/-- What the table says of an operation; one without an entry was not counted. -/
def count (t : Tally) (op : Operation) : Nat := (t.counts.lookup op).getD 0

/-- The entries of those of the operations that are counted at all. -/
def entries (f : Operation → Nat) (ops : List Operation) : List (Operation × Nat) :=
  (ops.map fun op => (op, f op)).filter fun e => e.2 != 0

variable {f g : Operation → Nat} {op first : Operation} {ops : List Operation}

theorem entries_cons_of_zero (h : f first = 0) : entries f (first :: ops) = entries f ops := by
  unfold entries
  rw [List.map_cons, List.filter_cons_of_neg (by simpa using h)]

theorem entries_cons_of_pos (h : 0 < f first) :
    entries f (first :: ops) = (first, f first) :: entries f ops := by
  unfold entries
  rw [List.map_cons, List.filter_cons_of_pos (by simpa using Nat.ne_of_gt h)]

theorem mem_of_mem_entries {e : Operation × Nat} (h : e ∈ entries f ops) : e.1 ∈ ops := by
  obtain ⟨hmem, -⟩ := List.mem_filter.mp h
  obtain ⟨op, hop, rfl⟩ := List.mem_map.mp hmem
  exact hop

theorem entries_congr (h : ∀ op ∈ ops, f op = g op) : entries f ops = entries g ops := by
  unfold entries
  rw [List.map_congr_left fun op hop => congrArg (Prod.mk op) (h op hop)]

theorem lookup_entries_of_zero (h : f op = 0) : (entries f ops).lookup op = none := by
  rw [List.lookup_eq_none_iff]
  intro e he
  obtain ⟨hmem, hne⟩ := List.mem_filter.mp he
  obtain ⟨o, -, rfl⟩ := List.mem_map.mp hmem
  rw [bne_iff_ne] at hne ⊢
  rintro rfl
  exact hne h

theorem lookup_entries (hop : op ∈ ops) : ((entries f ops).lookup op).getD 0 = f op := by
  rcases Nat.eq_zero_or_pos (f op) with hzero | hpos
  · rw [lookup_entries_of_zero hzero, hzero]
    rfl
  · induction ops with
    | nil => cases hop
    | cons first rest ih =>
      by_cases heq : first = op
      · subst heq
        rw [entries_cons_of_pos hpos, List.lookup_cons_self]
        rfl
      · have hrest := ih ((List.mem_cons.mp hop).resolve_left (Ne.symm heq))
        rcases Nat.eq_zero_or_pos (f first) with hzero | hsome
        · rw [entries_cons_of_zero hzero]
          exact hrest
        · have hother : (op == first) = false := beq_eq_false_iff_ne.mpr (Ne.symm heq)
          rw [entries_cons_of_pos hsome, List.lookup_cons, hother]
          exact hrest

/-! ## One pass -/

/-- An operation that comes before the whole table gets the first entry. -/
theorem addOne_of_lt {table : List (Operation × Nat)} (h : ∀ e ∈ table, op.index < e.1.index) :
    addOne op table = (op, 1) :: table := by
  cases table with
  | nil => rfl
  | cons e rest =>
    have hlt : op.index < e.1.index := h e List.mem_cons_self
    have hne : e.1 ≠ op := by
      intro heq
      rw [heq] at hlt
      omega
    unfold addOne
    rw [if_neg hne, if_pos hlt]

/-- **One outcome more.**  The entry of its operation, or the place for it, is found behind all
operations that come before. -/
theorem addOne_entries (hsorted : ops.Pairwise fun a b => a.index < b.index) (hop : op ∈ ops)
    (hg : ∀ o, g o = f o + if o = op then 1 else 0) :
    addOne op (entries f ops) = entries g ops := by
  induction ops with
  | nil => cases hop
  | cons first rest ih =>
    obtain ⟨hfirst, hrest⟩ := List.pairwise_cons.mp hsorted
    by_cases heq : first = op
    · subst heq
      -- the later entries are those of other operations
      have hsame : entries g rest = entries f rest := by
        refine entries_congr ?_
        intro o ho
        have hlt := hfirst o ho
        rw [hg, if_neg (by rintro rfl; omega)]
        rfl
      have hpos : 0 < g first := by
        rw [hg, if_pos rfl]
        omega
      rw [entries_cons_of_pos hpos, hsame, hg, if_pos rfl]
      rcases Nat.eq_zero_or_pos (f first) with hzero | hsome
      · rw [entries_cons_of_zero hzero, hzero]
        exact addOne_of_lt fun e he => hfirst e.1 (mem_of_mem_entries he)
      · rw [entries_cons_of_pos hsome]
        unfold addOne
        rw [if_pos rfl]
    · have hmem : op ∈ rest := (List.mem_cons.mp hop).resolve_left (Ne.symm heq)
      have hlt := hfirst op hmem
      have hsame : g first = f first := by
        rw [hg, if_neg heq]
        rfl
      rcases Nat.eq_zero_or_pos (f first) with hzero | hsome
      · rw [entries_cons_of_zero hzero, entries_cons_of_zero (hsame.trans hzero)]
        exact ih hrest hmem
      · rw [entries_cons_of_pos hsome, entries_cons_of_pos (by omega), hsame, ← ih hrest hmem]
        rw [addOne, if_neg heq, if_neg (by omega)]

/-- A pass adds to every count the multiplicity among the outcomes. -/
theorem countedFrom_entries (f : Operation → Nat) (outcomes : List (Option Operation)) :
    countedFrom (entries f Operation.all) outcomes =
      entries (fun op => f op + outcomes.count (some op)) Operation.all := by
  induction outcomes generalizing f with
  | nil => rfl
  | cons outcome rest ih =>
    cases outcome with
    | none =>
      unfold countedFrom
      rw [ih]
      simp
    | some op =>
      unfold countedFrom
      rw [addOne_entries Operation.pairwise_all op.mem_all fun o => rfl, ih]
      refine entries_congr ?_
      intro o _
      have hcount : (some op :: rest).count (some o) =
          rest.count (some o) + if o = op then 1 else 0 := by
        by_cases heq : o = op
        · rw [heq, List.count_cons_self, if_pos rfl]
        · have hne : some op ≠ some o := by simpa using Ne.symm heq
          rw [List.count_cons_of_ne hne, if_neg heq, Nat.add_zero]
      omega

end Tally

namespace Summary

/-! ## Numbers -/

variable {s s' : Summary}

theorem sum_counts (s : Summary) : (s.counts.map Prod.snd).sum = s.identified := by
  unfold identified
  rw [List.sum_eq_foldr, List.foldr_map]

/-- The operations counted stand in the order of all operations. -/
theorem pairwise_counts (s : Summary) :
    (s.counts.map Prod.fst).Pairwise fun a b => a.index < b.index := by
  have hkeys : (Operation.all.map fun op => (op, s.count op)).map Prod.fst = Operation.all := by
    rw [List.map_map]
    exact List.map_id _
  refine Operation.pairwise_all.sublist ?_
  rw [← hkeys]
  exact List.filter_sublist.map Prod.fst

theorem unknown_eq_countP (s : Summary) : s.unknown = s.outcomes.countP Option.isNone := by
  have hsum := s.identified_add_unknown
  have hsplit := List.length_eq_countP_add_countP Option.isSome (l := s.outcomes)
  have hnone : s.outcomes.countP Option.isNone =
      s.outcomes.countP fun outcome => decide ¬ outcome.isSome = true := by
    congr 1
    funext outcome
    cases outcome <;> rfl
  rw [identified_eq_countP] at hsum
  unfold length at hsum
  omega

/-- A pass over the outcomes stores the numbers that the summary computes. -/
theorem ofOutcomes_eq (s : Summary) :
    Tally.ofOutcomes s.outcomes = ⟨s.outcomes, s.identified, s.unknown, s.counts⟩ := by
  have hnone : Tally.entries (fun _ => 0) Operation.all = [] := by decide +kernel
  have hcounts : Tally.countedFrom [] s.outcomes = s.counts := by
    rw [← hnone, Tally.countedFrom_entries]
    refine Tally.entries_congr ?_
    intro op _
    exact Nat.zero_add _
  unfold Tally.ofOutcomes
  rw [hcounts]
  show Tally.mk s.outcomes (s.counts.map Prod.snd).sum
    (s.outcomes.length - (s.counts.map Prod.snd).sum) s.counts = _
  rw [sum_counts]
  rfl

/-! ## Positions -/

theorem mem_unknownIndicesFrom {start i : Nat} {outcomes : List (Option Operation)} :
    i ∈ unknownIndicesFrom start outcomes ↔ ∃ k, i = start + k ∧ outcomes[k]? = some none := by
  induction outcomes generalizing start with
  | nil => simp [unknownIndicesFrom]
  | cons outcome rest ih =>
    have step : (∃ k, i = start + k ∧ (outcome :: rest)[k]? = some none) ↔
        (i = start ∧ outcome = none) ∨ i ∈ unknownIndicesFrom (start + 1) rest := by
      rw [ih]
      constructor
      · rintro ⟨k, hk, hnone⟩
        cases k with
        | zero => exact .inl ⟨hk, by simpa using hnone⟩
        | succ k => exact .inr ⟨k, by omega, by simpa using hnone⟩
      · rintro (⟨hi, hnone⟩ | ⟨k, hk, hnone⟩)
        · exact ⟨0, hi, by simpa using hnone⟩
        · exact ⟨k + 1, by omega, by simpa using hnone⟩
    rw [step]
    cases outcome with
    | none => simp [unknownIndicesFrom]
    | some op => simp [unknownIndicesFrom]

theorem mem_unknownIndices {i : Nat} : i ∈ s.unknownIndices ↔ s.outcomes[i]? = some none := by
  unfold unknownIndices
  rw [mem_unknownIndicesFrom]
  simp

theorem pairwise_unknownIndicesFrom (start : Nat) (outcomes : List (Option Operation)) :
    (unknownIndicesFrom start outcomes).Pairwise (· < ·) := by
  induction outcomes generalizing start with
  | nil => exact .nil
  | cons outcome rest ih =>
    cases outcome with
    | none =>
      refine .cons ?_ (ih (start + 1))
      intro i hi
      obtain ⟨k, hk, -⟩ := mem_unknownIndicesFrom.mp hi
      omega
    | some op => exact ih (start + 1)

theorem length_unknownIndicesFrom (start : Nat) (outcomes : List (Option Operation)) :
    (unknownIndicesFrom start outcomes).length = outcomes.countP Option.isNone := by
  induction outcomes generalizing start with
  | nil => rfl
  | cons outcome rest ih =>
    cases outcome with
    | none => rw [unknownIndicesFrom, List.length_cons, ih, List.countP_cons_of_pos rfl]
    | some op => rw [unknownIndicesFrom, ih, List.countP_cons_of_neg (by simp)]

/-! ## Other orders -/

section
variable (h : s.outcomes.Perm s'.outcomes)

include h

theorem identified_perm : s.identified = s'.identified := by
  rw [identified_eq_countP, identified_eq_countP, h.countP_eq]

theorem unknown_perm : s.unknown = s'.unknown := by
  rw [unknown_eq_countP, unknown_eq_countP, h.countP_eq]

theorem counts_perm : s.counts = s'.counts :=
  Tally.entries_congr fun op _ => h.count_eq (some op)

end

end Summary

/-! ## What a tally says -/

/-- The numbers of the tally are those of the outcomes: how many are an operation, how many are none,
and how often each operation occurs, where those that do not occur have no entry. -/
structure Tally.Counts (t : Tally) (outcomes : List (Option Operation)) : Prop where
  outcomes_eq : t.outcomes = outcomes
  identified_eq : t.identified = outcomes.countP Option.isSome
  unknown_eq : t.unknown = outcomes.countP Option.isNone
  identified_le : t.identified ≤ outcomes.length
  length_eq : t.identified + t.unknown = outcomes.length
  count_eq : ∀ op, t.count op = outcomes.count (some op)
  mem_iff : ∀ op n, (op, n) ∈ t.counts ↔ some op ∈ outcomes ∧ n = outcomes.count (some op)
  pos : ∀ e ∈ t.counts, 0 < e.2
  ordered : (t.counts.map Prod.fst).Pairwise fun a b => a.index < b.index
  sum_eq : (t.counts.map Prod.snd).sum = t.identified

theorem Tally.counts_ofOutcomes (outcomes : List (Option Operation)) :
    (ofOutcomes outcomes).Counts outcomes := by
  have hstored := Summary.ofOutcomes_eq ⟨outcomes⟩
  have hlen := Summary.identified_add_unknown ⟨outcomes⟩
  rw [hstored]
  refine ⟨rfl, Summary.identified_eq_countP _, Summary.unknown_eq_countP _,
    Summary.identified_le_length _, hlen, fun op => lookup_entries op.mem_all, ?_, ?_,
    Summary.pairwise_counts _, Summary.sum_counts _⟩
  · intro op n
    rw [Summary.mem_counts, ← List.count_pos_iff]
    constructor
    · rintro ⟨rfl, hn⟩
      exact ⟨Nat.pos_of_ne_zero hn, rfl⟩
    · rintro ⟨hpos, rfl⟩
      exact ⟨rfl, Nat.ne_of_gt hpos⟩
  · rintro ⟨op, n⟩ he
    exact Nat.pos_of_ne_zero (Summary.mem_counts.mp he).2

/-- **Counting.**  A pass over any outcomes stores the numbers that their summary computes: the
identified and the unknown ones, which are all, and the multiplicities of the operations that occur,
in order.  The positions of the unknown ones increase, and there are as many of them.  In any other
order the outcomes have the same numbers. -/
theorem summary_by_counting (outcomes : List (Option Operation)) :
    let s := Summary.mk outcomes
    let t := Tally.ofOutcomes outcomes
    t.Counts outcomes ∧ t = ⟨s.outcomes, s.identified, s.unknown, s.counts⟩ ∧
    (∀ op, s.count op = t.count op) ∧ s.unknownIndices.Pairwise (· < ·) ∧
    (∀ i, i ∈ s.unknownIndices ↔ outcomes[i]? = some none) ∧
    s.unknownIndices.length = t.unknown ∧
    ∀ outcomes', outcomes.Perm outcomes' →
      (Tally.ofOutcomes outcomes').identified = t.identified ∧
      (Tally.ofOutcomes outcomes').unknown = t.unknown ∧
      (Tally.ofOutcomes outcomes').counts = t.counts := by
  intro s t
  have hcounts : t.Counts outcomes := Tally.counts_ofOutcomes outcomes
  have hstored : t = ⟨s.outcomes, s.identified, s.unknown, s.counts⟩ := Summary.ofOutcomes_eq s
  refine ⟨hcounts, hstored, fun op => (hcounts.count_eq op).symm,
    Summary.pairwise_unknownIndicesFrom 0 outcomes, fun i => Summary.mem_unknownIndices, ?_, ?_⟩
  · rw [hcounts.unknown_eq]
    exact Summary.length_unknownIndicesFrom 0 outcomes
  · intro outcomes' hperm
    have hperm' : Summary.outcomes ⟨outcomes'⟩ |>.Perm s.outcomes := hperm.symm
    rw [hstored, Summary.ofOutcomes_eq ⟨outcomes'⟩]
    exact ⟨Summary.identified_perm hperm', Summary.unknown_perm hperm',
      Summary.counts_perm hperm'⟩

/-- Five outcomes, two of them unknown, and the same five with the unknown ones first. -/
theorem summary_by_counting_fiveOutcomes :
    let outcomes : List (Option Operation) := [some .and, none, some .and, some .ret, none]
    let sorted : List (Option Operation) := [none, none, some .ret, some .and, some .and]
    outcomes.Perm sorted ∧
    (Tally.ofOutcomes sorted).counts = [(.and, 2), (.ret, 1)] ∧
    (Tally.ofOutcomes sorted).unknown = 2 ∧ (Summary.mk outcomes).unknownIndices = [1, 4] := by
  intro outcomes sorted
  have hperm : outcomes.Perm sorted := by decide
  obtain ⟨-, -, -, -, -, -, horder⟩ := summary_by_counting outcomes
  obtain ⟨-, hunknown, hcounts⟩ := horder sorted hperm
  exact ⟨hperm, hcounts, hunknown, rfl⟩

end CilRecovery
