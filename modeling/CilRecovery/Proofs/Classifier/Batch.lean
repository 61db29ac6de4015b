import CilRecovery.Proofs.Classifier.Locality
import CilRecovery.Proofs.Summary.Counting

/-!
# Batches

The instructions of a batch are classified one by one, in any order or at once, and their results
are then gathered.  What gathering has to do is little: keep the order of the batch if all succeed,
and else report one of the failures.  Whatever gathers so, a batch is classified like its
instructions, and batches may be joined.

    gather results = ok values ↔ results = values.map ok                      (Gathers.eq_ok_iff)
    gather results = error e → e is among the results                  (Gathers.mem_of_eq_error)
    gathering one result after the other is one way          (gathers_inOrder, identifyAll_eq_by)
    a pass over what was gathered stores the numbers                     (tally_of_identifyAllBy)
    what a batch comes to, and what a join of batches does                  (identifyAll_eq_each)
-/

namespace CilRecovery

/-! ## Gathering -/

section
variable {α : Type}

/-- What gathering the results of a batch comes to. -/
structure Gathers (gather : List (Except Error α) → Except Error (List α)) : Prop where
  /-- If all succeed, their values are kept in order. -/
  all : ∀ values : List α, gather (values.map .ok) = .ok values
  /-- If some fail, one of the failures is that of the whole. -/
  failed : ∀ results e, .error e ∈ results → ∃ e', .error e' ∈ results ∧ gather results = .error e'

/-- Results gathered one after the other, up to the first failure. -/
def inOrder : List (Except Error α) → Except Error (List α)
  | [] => .ok []
  | result :: rest => do
    let value ← result
    let later ← inOrder rest
    return value :: later

theorem gathers_inOrder : Gathers (inOrder (α := α)) where
  all values := by
    induction values with
    | nil => rfl
    | cons value rest ih =>
      rw [List.map_cons, inOrder, ih]
      rfl
  failed results e he := by
    induction results with
    | nil => exact absurd he List.not_mem_nil
    | cons result rest ih =>
      cases result with
      | error e' => exact ⟨e', List.mem_cons_self, rfl⟩
      | ok value =>
        have hrest : .error e ∈ rest := by simpa using he
        obtain ⟨e', hmem, hgather⟩ := ih hrest
        refine ⟨e', List.mem_cons_of_mem _ hmem, ?_⟩
        rw [inOrder, hgather]
        rfl

/-- Either a result fails, or all are values. -/
theorem exists_error_or_eq_map_ok (results : List (Except Error α)) :
    (∃ e, .error e ∈ results) ∨ ∃ values : List α, results = values.map .ok := by
  induction results with
  | nil => exact .inr ⟨[], rfl⟩
  | cons result rest ih =>
    cases result with
    | error e => exact .inl ⟨e, List.mem_cons_self⟩
    | ok value =>
      rcases ih with ⟨e, he⟩ | ⟨values, rfl⟩
      · exact .inl ⟨e, List.mem_cons_of_mem _ he⟩
      · exact .inr ⟨value :: values, rfl⟩

namespace Gathers

variable {gather : List (Except Error α) → Except Error (List α)} (hgather : Gathers gather)
  {results : List (Except Error α)}

include hgather

theorem eq_ok_iff {values : List α} : gather results = .ok values ↔ results = values.map .ok := by
  constructor
  · intro h
    rcases exists_error_or_eq_map_ok results with ⟨e, he⟩ | ⟨values', rfl⟩
    · obtain ⟨e', -, herror⟩ := hgather.failed results e he
      cases herror.symm.trans h
    · rw [Except.ok.inj ((hgather.all values').symm.trans h)]
  · rintro rfl
    exact hgather.all values

theorem mem_of_eq_error {e : Error} (h : gather results = .error e) : .error e ∈ results := by
  rcases exists_error_or_eq_map_ok results with ⟨e₀, he₀⟩ | ⟨values, rfl⟩
  · obtain ⟨e', hmem, herror⟩ := hgather.failed results e₀ he₀
    rw [Except.error.inj (h.symm.trans herror)]
    exact hmem
  · cases (hgather.all values).symm.trans h

end Gathers

end

/-! ## Batches -/

namespace Classifier

/-- The result of each instruction of a batch on its own. -/
def attempts (k : Classifier) (batch : List VirtualInstruction) :
    List (Except Error (Option Operation)) :=
  batch.map fun v => (k.tryIdentify v).result

/-- Classifies a batch, where the results of its instructions are gathered in the given way. -/
def identifyAllBy
    (gather : List (Except Error (Option Operation)) → Except Error (List (Option Operation)))
    (k : Classifier) (batch : List VirtualInstruction) : Traced Summary := do
  let outcomes ← .ofExcept (gather (k.attempts batch))
  .report (.batchFinished ⟨outcomes⟩)
  return ⟨outcomes⟩

/-- The outcomes of a batch are its results, gathered one after the other. -/
theorem identifyAll_eq_by (k : Classifier) (batch : List VirtualInstruction) :
    k.identifyAll batch = k.identifyAllBy inOrder batch := by
  have houtcomes : k.outcomes batch = inOrder (k.attempts batch) := by
    induction batch with
    | nil => rfl
    | cons v rest ih =>
      unfold outcomes
      rw [ih]
      rfl
  unfold identifyAll identifyAllBy
  rw [houtcomes]

section
variable {k : Classifier} {batch first second : List VirtualInstruction}
  {gather : List (Except Error (Option Operation)) → Except Error (List (Option Operation))}

theorem result_identifyAllBy :
    (k.identifyAllBy gather batch).result = Summary.mk <$> gather (k.attempts batch) := by
  unfold identifyAllBy
  cases h : gather (k.attempts batch) with
  | ok outcomes => rfl
  | error e => rfl

variable (hgather : Gathers gather)

include hgather

/-- A batch has a summary if each of its instructions has an outcome, and these are its outcomes. -/
theorem identifyAllBy_eq_ok_iff {s : Summary} :
    (k.identifyAllBy gather batch).result = .ok s ↔ k.attempts batch = s.outcomes.map .ok := by
  obtain ⟨outcomes⟩ := s
  rw [result_identifyAllBy, ← hgather.eq_ok_iff]
  cases gather (k.attempts batch) with
  | ok outcomes' => simp [Functor.map, Except.map]
  | error e => simp [Functor.map, Except.map]

/-- A pass over the outcomes that were gathered stores the numbers of the summary. -/
theorem tally_of_identifyAllBy {s : Summary} (h : (k.identifyAllBy gather batch).result = .ok s) :
    gather (k.attempts batch) = .ok s.outcomes ∧
      Tally.ofOutcomes s.outcomes = ⟨s.outcomes, s.identified, s.unknown, s.counts⟩ := by
  refine ⟨?_, s.ofOutcomes_eq⟩
  rw [hgather.eq_ok_iff]
  exact (identifyAllBy_eq_ok_iff hgather).1 h

theorem exists_identifyAllBy_eq_ok_iff : (∃ s, (k.identifyAllBy gather batch).result = .ok s) ↔
    ∀ v ∈ batch, ∃ outcome, (k.tryIdentify v).result = .ok outcome := by
  simp only [identifyAllBy_eq_ok_iff hgather]
  constructor
  · rintro ⟨s, hs⟩ v hv
    have hmem : (k.tryIdentify v).result ∈ k.attempts batch := List.mem_map_of_mem hv
    rw [hs] at hmem
    obtain ⟨outcome, -, houtcome⟩ := List.mem_map.1 hmem
    exact ⟨outcome, houtcome.symm⟩
  · intro hall
    rcases exists_error_or_eq_map_ok (k.attempts batch) with ⟨e, he⟩ | ⟨outcomes, houtcomes⟩
    · obtain ⟨v, hv, hve⟩ := List.mem_map.1 he
      obtain ⟨outcome, hok⟩ := hall v hv
      cases hok.symm.trans hve
    · exact ⟨⟨outcomes⟩, houtcomes⟩

theorem exists_of_identifyAllBy_eq_error {e : Error}
    (h : (k.identifyAllBy gather batch).result = .error e) :
    ∃ v ∈ batch, (k.tryIdentify v).result = .error e := by
  rw [result_identifyAllBy] at h
  have hgathered : gather (k.attempts batch) = .error e := by
    cases hg : gather (k.attempts batch) with
    | ok outcomes =>
      rw [hg] at h
      cases h
    | error e' =>
      rw [hg] at h
      rw [Except.error.inj h]
  exact List.mem_map.1 (hgather.mem_of_eq_error hgathered)

/-- The outcomes of a join of batches are those of the first and then those of the second. -/
theorem outcomes_of_identifyAllBy_append {s s₁ s₂ : Summary}
    (h : (k.identifyAllBy gather (first ++ second)).result = .ok s)
    (h₁ : (k.identifyAllBy gather first).result = .ok s₁)
    (h₂ : (k.identifyAllBy gather second).result = .ok s₂) :
    s.outcomes = s₁.outcomes ++ s₂.outcomes := by
  rw [identifyAllBy_eq_ok_iff hgather] at h h₁ h₂
  have hjoin : s.outcomes.map .ok = (s₁.outcomes ++ s₂.outcomes).map (Except.ok (ε := Error)) := by
    rw [← h, List.map_append, ← h₁, ← h₂]
    exact List.map_append
  exact List.map_injective_iff.2 (fun _ _ => Except.ok.inj) hjoin

end

end Classifier

/-- **Batches.**  However the results are gathered, if the order is kept and a failure is one of
theirs: a batch succeeds if every instruction has an outcome, the summary is that of the outcomes
in the order of the batch, and otherwise the failure of some instruction is that of the batch.  The
numbers of the summary are those that a pass over the gathered outcomes counts.  A join of batches
succeeds if both do, with their outcomes one after the other and their counts added.  One such way
is to take them one after the other, up to the first failure. -/
theorem identifyAll_eq_each (k : Classifier)
    (gather : List (Except Error (Option Operation)) → Except Error (List (Option Operation)))
    (hgather : Gathers gather) (batch : List VirtualInstruction) :
    k.identifyAll batch = k.identifyAllBy inOrder batch ∧
    (∀ s, (k.identifyAllBy gather batch).result = .ok s ↔
      (batch.map fun v => (k.tryIdentify v).result) = s.outcomes.map .ok) ∧
    ((∃ s, (k.identifyAllBy gather batch).result = .ok s) ↔
      ∀ v ∈ batch, ∃ outcome, (k.tryIdentify v).result = .ok outcome) ∧
    (∀ e, (k.identifyAllBy gather batch).result = .error e →
      ∃ v ∈ batch, (k.tryIdentify v).result = .error e) ∧
    (∀ s, (k.identifyAllBy gather batch).result = .ok s →
      gather (batch.map fun v => (k.tryIdentify v).result) = .ok s.outcomes ∧
        Tally.ofOutcomes s.outcomes = ⟨s.outcomes, s.identified, s.unknown, s.counts⟩) ∧
    (∀ first second, batch = first ++ second →
      ((∃ s, (k.identifyAllBy gather batch).result = .ok s) ↔
        (∃ s, (k.identifyAllBy gather first).result = .ok s) ∧
          ∃ s, (k.identifyAllBy gather second).result = .ok s) ∧
      ∀ s s₁ s₂, (k.identifyAllBy gather batch).result = .ok s →
        (k.identifyAllBy gather first).result = .ok s₁ →
        (k.identifyAllBy gather second).result = .ok s₂ →
        s.outcomes = s₁.outcomes ++ s₂.outcomes ∧ s.identified = s₁.identified + s₂.identified ∧
          s.unknown = s₁.unknown + s₂.unknown ∧
          ∀ op, s.count op = s₁.count op + s₂.count op) := by
  refine ⟨k.identifyAll_eq_by batch, fun s => Classifier.identifyAllBy_eq_ok_iff hgather,
    Classifier.exists_identifyAllBy_eq_ok_iff hgather,
    fun e => Classifier.exists_of_identifyAllBy_eq_error hgather,
    fun s => Classifier.tally_of_identifyAllBy hgather, ?_⟩
  rintro first second rfl
  refine ⟨?_, fun s s₁ s₂ h h₁ h₂ => ?_⟩
  · simp only [Classifier.exists_identifyAllBy_eq_ok_iff hgather, List.forall_mem_append]
  · have hjoin := Classifier.outcomes_of_identifyAllBy_append hgather h h₁ h₂
    exact ⟨hjoin, Summary.identified_append hjoin, Summary.unknown_append hjoin,
      Summary.count_append hjoin⟩

/-- With the helper at hand both returns are found and counted, and a handler between them that shows
nothing keeps its place; without it the failure of a return is that of the batch. -/
theorem identifyAll_eq_each_twoReturns :
    let S := BodyStore.ofList [(⟨0x06000001⟩, returnHelper ⟨0x04000003⟩)]
    let empty : VirtualInstruction := ⟨[], ⟨⟨0x04000001⟩, ⟨0x04000002⟩⟩, .none⟩
    let batch := [returnHandler "Leave", empty, returnHandler "Leave"]
    Gathers (inOrder (α := Option Operation)) ∧
    ((Classifier.mk (.widest S.source) true .standard).identifyAll batch).result =
      .ok ⟨[some .ret, none, some .ret]⟩ ∧
    Tally.ofOutcomes [some .ret, none, some .ret] =
      ⟨[some .ret, none, some .ret], 2, 1, [(.ret, 2)]⟩ ∧
    ∃ v ∈ batch, ((Classifier.mk (.widest BodyStore.empty.source) true .standard).tryIdentify
      v).result = .error (.bodyUnavailable ⟨0x06000001⟩ "no decoded body for Leave") := by
  intro S empty batch
  obtain ⟨hsame, hsummary, -, -, htally, -⟩ := identifyAll_eq_each
    (Classifier.mk (.widest S.source) true .standard) inOrder gathers_inOrder batch
  obtain ⟨-, -, -, hfailure, -⟩ := identifyAll_eq_each
    (Classifier.mk (.widest BodyStore.empty.source) true .standard) inOrder gathers_inOrder batch
  have hgathered := (hsummary ⟨[some .ret, none, some .ret]⟩).2 (by decide +kernel)
  obtain ⟨-, hcounted⟩ := htally _ hgathered
  rw [hsame]
  exact ⟨gathers_inOrder, hgathered, hcounted, hfailure _ (by decide +kernel)⟩

end CilRecovery
