import CilRecovery.Proofs.Classifier.StrictMode
import CilRecovery.Proofs.Classifier.Unavailable
import CilRecovery.Proofs.Decision.Answer

/-!
# Comparisons that hold together

The rules for `bge` and `blt` ask for different headers and one helper, those for `cgt` and `clt`
for one tail and different helpers.  None of them rejects the other, as the members of a flag family
do, so two of them hold together wherever the parts of both are there.  Which one is reported is up
to the order of the table then, and to whether uncertain answers are wanted.

    a search is true ↔ the body or a callee shows the template                (reaches_eq_true_iff)
    a rule that holds bounds the position of the answer                   (index_le_of_recognises)
    when the comparisons of a pair hold together, and which is lost     (comparisons_together_iff)
-/

namespace CilRecovery

/-! ## What a store shows of a body -/

/-- The template occurs in the body, or in a callee that comes before all missing ones. -/
def BodyStore.Shows (S : BodyStore) (t : Template) (body : Body) : Prop :=
  t.occursIn body.opcodes = true ∨ ∃ i, S.HoldsAt t body i ∧ ∀ j < i, ¬ S.MissingAt body j

theorem BodyStore.reaches_eq_true_iff {S : BodyStore} {t : Template} {body : Body} :
    ((Scope.widest S.source).reaches t body).result = .ok true ↔ S.Shows t body := by
  rw [Scope.result_reaches_eq_true]
  unfold Shows HoldsAt
  simp only [not_missingAt, source_eq_ok]
  refine or_congr_right ?_
  constructor
  · rintro ⟨i, m, b, hm, hb, ho, hbefore⟩
    exact ⟨i, ⟨m, b, hm, hb, ho⟩, hbefore⟩
  · rintro ⟨i, ⟨m, b, hm, hb, ho⟩, hbefore⟩
    exact ⟨i, m, b, hm, hb, ho, hbefore⟩

/-! ## Parts of a test -/

section
variable {c : Candidate}

theorem Test.both_eq_true {first second : Test} :
    ((Test.both first second).eval c).result = .ok true ↔
      (first.eval c).result = .ok true ∧ (second.eval c).result = .ok true := by
  rw [← Traced.isTrue_iff, ← Traced.isTrue_iff, ← Traced.isTrue_iff, isTrue_both,
    Bool.and_eq_true_iff]

theorem Test.contains_eq_true {t : Template} :
    ((Test.contains t).eval c).result = .ok true ↔ t.occursIn c.opcodes = true := by
  unfold eval
  rw [Traced.result_pure, Except.ok.injEq]

theorem Test.anchored_eq_true {t : Template} {anchor : Anchor} :
    ((Test.anchored t anchor).eval c).result = .ok true ↔ t.isAt c.opcodes anchor = true := by
  unfold eval
  rw [Traced.result_pure, Except.ok.injEq]

end

/-! ## Positions in the table -/

/-- The rules of the standard table stand in the order of their operations. -/
theorem Registry.index_of_getElem?_standard {i : Nat} {r : Rule}
    (h : standard.rules[i]? = some r) : r.label.index = i := by
  have hlabel : Operation.all[i]? = some r.label := by
    rw [← map_label_standard, List.getElem?_map, h]
    rfl
  have hlt : i < Operation.all.length := (List.getElem?_eq_some_iff.1 hlabel).1
  have hat : Operation.all[r.label.index]? = some r.label := Operation.ofIndex?_index r.label
  exact ((List.getElem?_inj hlt Operation.nodup_all).1 (hlabel.trans hat.symm)).symm

section
variable {S : BodyStore} {v : VirtualInstruction} {low : Bool} {s : Signature} {op : Operation}

/-- A rule of the standard table that is enabled and holds bounds the position of the answer. -/
theorem index_le_of_recognises (hs : s ∈ Signature.standard) (he : s.rule.Enabled low)
    (hholds : Registry.standard.Recognises ⟨v, .widest S.source⟩ s.label)
    (hop : ((S.classifier low).identify v).result = .ok op) : op.index ≤ s.label.index := by
  obtain ⟨r, hr, rfl⟩ := Traced.map_eq_ok.1 hop
  obtain ⟨i, ht, -⟩ := firstRule_eq_ok_iff.1 hr
  obtain ⟨j, hj⟩ := List.getElem?_of_mem (List.mem_map_of_mem (f := Signature.rule) hs)
  have hle : i ≤ j := ht.le_of_true hj he ((Registry.recognises_of_mem hs).1 hholds)
  have hi : r.label.index = i := Registry.index_of_getElem?_standard ht.at_index
  have hj : s.rule.label.index = j := Registry.index_of_getElem?_standard hj
  show r.label.index ≤ s.rule.label.index
  omega

/-- Strict answers come from certain rules. -/
theorem confidence_of_identify_strict (hs : s ∈ Signature.standard)
    (hop : ((S.classifier false).identify v).result = .ok s.label) : s.confidence = .certain := by
  obtain ⟨r, hr, hlabel⟩ := Traced.map_eq_ok.1 hop
  obtain ⟨i, ht, -⟩ := firstRule_eq_ok_iff.1 hr
  obtain ⟨s', hs', rfl⟩ := List.mem_map.1 ht.mem
  obtain rfl : s' = s := Signature.eq_of_label_eq hs' hs hlabel
  exact ht.certain_of_strict

end

/-! ## Comparisons -/

/-- A rule that branches on what the less-than helper returns, told by the header before it. -/
def Signature.branch (label : Operation) (header : Template) : Signature :=
  .certain label (.both (.contains header) (.reaches Shape.lessThanHelper))

/-- A rule that leaves what the helper returns on the stack, told by the tail of the handler. -/
def Signature.comparison (label : Operation) (confidence : Confidence) (helper : Template) :
    Signature :=
  ⟨label, confidence, .both (.anchored Shape.compareTail .tail) (.reaches helper)⟩

section
variable {S : BodyStore} {v : VirtualInstruction} {s : Signature} {label : Operation}

/-- A rule with a condition beside its search holds where the condition does and the template is
shown. -/
theorem recognises_reached_iff (hs : s ∈ Signature.standard) {first : Test} {t : Template}
    (ht : s.test = .both first (.reaches t)) :
    Registry.standard.Recognises ⟨v, .widest S.source⟩ s.label ↔
      (first.eval ⟨v, .widest S.source⟩).result = .ok true ∧ S.Shows t v.body := by
  rw [Registry.recognises_of_mem hs, ht, Test.both_eq_true, ← BodyStore.reaches_eq_true_iff]
  rfl

theorem recognises_branch_iff {header : Template}
    (hs : Signature.branch label header ∈ Signature.standard) :
    Registry.standard.Recognises ⟨v, .widest S.source⟩ label ↔
      header.occursIn v.body.opcodes = true ∧ S.Shows Shape.lessThanHelper v.body :=
  (recognises_reached_iff hs rfl).trans (and_congr_left' Test.contains_eq_true)

theorem recognises_comparison_iff {confidence : Confidence} {helper : Template}
    (hs : Signature.comparison label confidence helper ∈ Signature.standard) :
    Registry.standard.Recognises ⟨v, .widest S.source⟩ label ↔
      Shape.compareTail.isAt v.body.opcodes .tail = true ∧ S.Shows helper v.body :=
  (recognises_reached_iff hs rfl).trans (and_congr_left' Test.anchored_eq_true)

end

/-- **Comparisons that hold together.**  The rules for `bge` and `blt` both hold where both headers
occur and the less-than helper is shown, those for `cgt` and `clt` where the handler ends in the
tail of a comparison and both helpers are shown.  One of the two is then lost: `blt` is not reported
where `bge` holds, nor is `clt` where `cgt` holds, if uncertain answers are wanted; if they are not,
`cgt` never is. -/
theorem comparisons_together_iff (S : BodyStore) (v : VirtualInstruction) :
    let c := Candidate.mk v (.widest S.source)
    (Registry.standard.Recognises c .bge ∧ Registry.standard.Recognises c .blt ↔
      Shape.bgeHeader.occursIn v.body.opcodes = true ∧
        Shape.bltHeader.occursIn v.body.opcodes = true ∧ S.Shows Shape.lessThanHelper v.body) ∧
    (Registry.standard.Recognises c .cgt ∧ Registry.standard.Recognises c .clt ↔
      Shape.compareTail.isAt v.body.opcodes .tail = true ∧
        S.Shows Shape.greaterThanHelper v.body ∧ S.Shows Shape.lessThanHelper v.body) ∧
    (Registry.standard.Recognises c .bge →
      ∀ low, ((S.classifier low).identify v).result ≠ .ok .blt) ∧
    (Registry.standard.Recognises c .cgt →
      ((S.classifier true).identify v).result ≠ .ok .clt) ∧
    ((S.classifier false).identify v).result ≠ .ok .cgt := by
  intro c
  have hbge : Signature.branch .bge Shape.bgeHeader ∈ Signature.standard := by decide +kernel
  have hblt : Signature.branch .blt Shape.bltHeader ∈ Signature.standard := by decide +kernel
  have hcgt : Signature.comparison .cgt .uncertain Shape.greaterThanHelper ∈
      Signature.standard := by decide +kernel
  have hclt : Signature.comparison .clt .certain Shape.lessThanHelper ∈
      Signature.standard := by decide +kernel
  refine ⟨?_, ?_, fun hholds low hop => ?_, fun hholds hop => ?_, fun hop => ?_⟩
  · rw [recognises_branch_iff hbge, recognises_branch_iff hblt, and_and_and_comm, and_self,
      and_assoc]
  · rw [recognises_comparison_iff hcgt, recognises_comparison_iff hclt, and_and_and_comm,
      and_self]
  · have hle : Operation.blt.index ≤ Operation.bge.index :=
      index_le_of_recognises hbge (.inl rfl) hholds hop
    exact absurd hle (by decide)
  · have hle : Operation.clt.index ≤ Operation.cgt.index :=
      index_le_of_recognises hcgt (.inr rfl) hholds hop
    exact absurd hle (by decide)
  · cases confidence_of_identify_strict hcgt hop

/-- A handler that branches on the result of one helper in both ways. -/
def twoBranches : VirtualInstruction :=
  ⟨[⟨.call, .method ⟨⟨0x06000001⟩, "Vm::Less", "System.Boolean"⟩⟩, .ofOpcode .brtrue_s,
    .ofOpcode .ldarg_1, .ofOpcode .castclass,
    ⟨.call, .method ⟨⟨0x06000001⟩, "Vm::Less", "System.Boolean"⟩⟩, .ofOpcode .brfalse_s,
    .ofOpcode .ldarg_1, .ofOpcode .castclass, .ofOpcode .ret],
   ⟨⟨0x04000001⟩, ⟨0x04000002⟩⟩, .none⟩

/-- Both pairs of comparisons do hold together. -/
theorem comparisons_together_twoBranches :
    (Registry.standard.Recognises ⟨twoBranches, .widest comparisonHelpers.source⟩ .bge ∧
      Registry.standard.Recognises ⟨twoBranches, .widest comparisonHelpers.source⟩ .blt) ∧
    Registry.standard.Recognises ⟨bothComparisons, .widest comparisonHelpers.source⟩ .cgt ∧
      Registry.standard.Recognises ⟨bothComparisons, .widest comparisonHelpers.source⟩ .clt := by
  refine ⟨⟨?_, ?_⟩, ?_, ?_⟩
  · exact Registry.recognises_standard_iff.2
      ⟨.branch .bge Shape.bgeHeader, by decide +kernel, rfl, by decide +kernel⟩
  · exact Registry.recognises_standard_iff.2
      ⟨.branch .blt Shape.bltHeader, by decide +kernel, rfl, by decide +kernel⟩
  · exact Registry.recognises_standard_iff.2
      ⟨.comparison .cgt .uncertain Shape.greaterThanHelper, by decide +kernel, rfl,
        by decide +kernel⟩
  · exact Registry.recognises_standard_iff.2
      ⟨.comparison .clt .certain Shape.lessThanHelper, by decide +kernel, rfl, by decide +kernel⟩

end CilRecovery
