import CilRecovery.Proofs.Classifier.FirstMatch
import CilRecovery.Proofs.Classifier.Outcomes
import CilRecovery.Proofs.Registry.Evidence

/-!
# Strict mode

A classifier that does without uncertain rules works, to the last event, as if they were not in its
table.  A permissive one can differ from it in one way only: it ends at an uncertain rule, which
stands before the one that the strict classifier ends at, if that finds any.

    strict on a table = permissive on its certain rules                       (firstRule_strict)
    what permissive search tries and passes over, strict search does, too
                                                          (IsTried.strict, PassedOver.strict)
    the two on one table                                                  (identifyRule_strict)
-/

namespace CilRecovery

/-- The registry without its uncertain rules. -/
def Registry.certain (registry : Registry) : Registry :=
  ⟨registry.rules.filter fun r => r.confidence == .certain⟩

section
variable {c : Candidate} {r s : Rule} {rules : List Rule} {i j : Nat}

/-- Strict search is permissive search among the certain rules. -/
theorem firstRule_strict (c : Candidate) (rules : List Rule) :
    firstRule false c rules =
      firstRule true c (rules.filter fun r => r.confidence == .certain) :=
  firstRule_filter false c rules

/-! ## From permissive to strict search -/

theorem Rule.PassedOver.strict (h : r.PassedOver true c) : r.PassedOver false c :=
  fun _ => h (.inr rfl)

/-- A certain rule that permissive search comes to, strict search comes to as well. -/
theorem Rule.IsTried.strict (ht : r.IsTried true c rules i) (hr : r.confidence = .certain) :
    r.IsTried false c rules i :=
  ⟨ht.at_index, .inl hr, fun r' hr' => (ht.before r' hr').strict⟩

theorem Rule.IsTried.certain_of_strict (ht : r.IsTried false c rules i) : r.confidence = .certain :=
  ht.enabled.resolve_right Bool.false_ne_true

/-- A rule that is true and enabled cannot stand before the one that the search ends at. -/
theorem Rule.IsTried.le_of_true {low : Bool} (ht : r.IsTried low c rules i)
    (hs : rules[j]? = some s) (he : s.Enabled low) (hh : (s.holds c).result = .ok true) :
    i ≤ j := by
  apply Nat.le_of_not_lt
  intro hji
  have hmem : s ∈ rules.take i := List.mem_of_getElem? ((List.getElem?_take_of_lt hji).trans hs)
  have hfalse := ht.before s hmem he
  rw [hh] at hfalse
  cases hfalse

theorem firstRuleAt_strict_of_certain (hr : r.confidence = .certain)
    (h : (firstRuleAt true c 0 rules).result = .ok (i, r)) :
    (firstRuleAt false c 0 rules).result = .ok (i, r) := by
  obtain ⟨ht, hh⟩ := firstRuleAt_eq_ok_iff.1 h
  exact firstRuleAt_eq_ok_iff.2 ⟨ht.strict hr, hh⟩

/-- Where both searches find a rule and these differ, the permissive one has stopped early, at an
uncertain rule. -/
theorem uncertain_and_lt_of_firstRuleAt (h : (firstRuleAt true c 0 rules).result = .ok (i, r))
    (h' : (firstRuleAt false c 0 rules).result = .ok (j, s)) (hne : i ≠ j) :
    r.confidence = .uncertain ∧ i < j := by
  have huncertain : r.confidence = .uncertain := by
    cases hr : r.confidence with
    | uncertain => rfl
    | certain =>
      have hsame := (firstRuleAt_strict_of_certain hr h).symm.trans h'
      exact absurd (congrArg Prod.fst (Except.ok.inj hsame)) hne
  obtain ⟨ht, -⟩ := firstRuleAt_eq_ok_iff.1 h
  obtain ⟨ht', hh'⟩ := firstRuleAt_eq_ok_iff.1 h'
  have hle : i ≤ j := ht.le_of_true ht'.at_index (.inr rfl) hh'
  exact ⟨huncertain, by omega⟩

end

/-- **Strict mode.**  A strict classifier does what a permissive one does with the certain rules of
the same table.  So a certain rule that the permissive one ends at is the answer of both, and what
it does not know is unknown to both, as long as no test says so itself; if they end at different
rules, the permissive one ends at an uncertain rule that stands before; and strict answers are never
uncertain. -/
theorem identifyRule_strict (source : BodySource) (depth : Nat) (registry : Registry)
    (v : VirtualInstruction) (permissive strict reduced : Classifier)
    (hp : Classifier.ofConfig source ⟨depth, true⟩ registry = .ok permissive)
    (hs : Classifier.ofConfig source ⟨depth, false⟩ registry = .ok strict)
    (hr : Classifier.ofConfig source ⟨depth, true⟩ registry.certain = .ok reduced)
    (htests : ∀ r ∈ registry.rules, ∀ w,
      (r.holds ⟨v, permissive.scope⟩).result ≠ .error (.unknownOperation w)) :
    strict.identifyRule v = reduced.identifyRule v ∧
    (∀ i r, (permissive.identifyRuleAt v).result = .ok (i, r) → r.confidence = .certain →
      (strict.identifyRuleAt v).result = .ok (i, r)) ∧
    (∀ w, (permissive.identifyRule v).result = .error (.unknownOperation w) →
      (strict.identifyRule v).result = .error (.unknownOperation w)) ∧
    (∀ i r j s, (permissive.identifyRuleAt v).result = .ok (i, r) →
      (strict.identifyRuleAt v).result = .ok (j, s) → i ≠ j →
      r.confidence = .uncertain ∧ i < j) ∧
    (∀ r, (strict.identifyRule v).result = .ok r → r.confidence = .certain) := by
  obtain ⟨reach, hreach, rfl⟩ := Classifier.ofConfig_eq_ok_iff.1 hp
  obtain ⟨reach', hreach', rfl⟩ := Classifier.ofConfig_eq_ok_iff.1 hs
  obtain ⟨reach'', hreach'', rfl⟩ := Classifier.ofConfig_eq_ok_iff.1 hr
  -- the three are built for one depth, so they reach equally far
  obtain rfl : reach = reach' := Except.ok.inj (hreach.symm.trans hreach')
  obtain rfl : reach = reach'' := Except.ok.inj (hreach.symm.trans hreach'')
  refine ⟨firstRule_strict _ _, fun i r h hcertain => firstRuleAt_strict_of_certain hcertain h,
    fun w h => ?_, fun i r j s h h' hne => uncertain_and_lt_of_firstRuleAt h h' hne,
    fun r h => ?_⟩
  · obtain ⟨rfl, hall⟩ := (firstRule_eq_unknown_iff htests).1 h
    exact firstRule_of_all_passedOver fun r hr => (hall r hr).strict
  · obtain ⟨i, ht, -⟩ := firstRule_eq_ok_iff.1 h
    exact ht.certain_of_strict

/-! ## Two comparisons in one handler -/

/-- No standard rule says itself that an instruction is unknown. -/
theorem Registry.result_holds_ne_unknown (S : BodyStore) (v : VirtualInstruction) (reach : Reach) :
    ∀ r ∈ standard.rules, ∀ w,
      (r.holds ⟨v, ⟨S.source, reach⟩⟩).result ≠ .error (.unknownOperation w) := by
  intro r hr w h
  obtain ⟨i, -, m, -, -, he⟩ := misses_of_holds_eq_error hr h
  cases he

/-- A handler that calls one helper after another and ends like a comparison. -/
def bothComparisons : VirtualInstruction :=
  ⟨[⟨.call, .method ⟨⟨0x06000001⟩, "Vm::Less", "System.Boolean"⟩⟩,
    ⟨.call, .method ⟨⟨0x06000002⟩, "Vm::Greater", "System.Boolean"⟩⟩, .ofOpcode .brtrue_s,
    .ofOpcode .ldc_i4_0, .ofOpcode .br_s, .ofOpcode .ldc_i4_1, .ofOpcode .callvirt,
    .ofOpcode .ldloc_2, .ofOpcode .call, .ofOpcode .ret],
   ⟨⟨0x04000001⟩, ⟨0x04000002⟩⟩, .none⟩

/-- The helpers of the two comparisons. -/
def comparisonHelpers : BodyStore :=
  .ofList [(⟨0x06000001⟩, Shape.lessThanHelper.opcodes.map .ofOpcode),
    (⟨0x06000002⟩, Shape.greaterThanHelper.opcodes.map .ofOpcode)]

/-- The permissive classifier ends at the uncertain rule for `cgt`, and the strict one goes on to
that for `clt`. -/
theorem identifyRule_strict_bothComparisons :
    let permissive := Classifier.mk (.widest comparisonHelpers.source) true .standard
    let strict := Classifier.mk (.widest comparisonHelpers.source) false .standard
    let reduced := Classifier.mk (.widest comparisonHelpers.source) true (.certain .standard)
    (∀ r ∈ Registry.standard.rules, ∀ w,
      (r.holds ⟨bothComparisons, permissive.scope⟩).result ≠ .error (.unknownOperation w)) ∧
    strict.identifyRule bothComparisons = reduced.identifyRule bothComparisons ∧
    ∃ r s, (permissive.identifyRuleAt bothComparisons).result = .ok (7, r) ∧
      (strict.identifyRuleAt bothComparisons).result = .ok (9, s) ∧
      r.label = .cgt ∧ s.label = .clt ∧ r.confidence = .uncertain ∧ s.confidence = .certain := by
  intro permissive strict reduced
  have htests := Registry.result_holds_ne_unknown comparisonHelpers bothComparisons .callees
  obtain ⟨hsame, -, -, hdiffer, hcertain⟩ := identifyRule_strict comparisonHelpers.source 1
    .standard bothComparisons permissive strict reduced rfl rfl rfl htests
  -- rules cannot be compared, so the two runs are evaluated up to the labels
  have hp : ((fun found => (found.1, found.2.label)) <$>
      permissive.identifyRuleAt bothComparisons).result = .ok (7, .cgt) := by decide +kernel
  have hs : ((fun found => (found.1, found.2.label)) <$>
      strict.identifyRuleAt bothComparisons).result = .ok (9, .clt) := by decide +kernel
  obtain ⟨⟨i, r⟩, hr, hrl⟩ := Traced.map_eq_ok.1 hp
  obtain ⟨⟨j, s⟩, hs, hsl⟩ := Traced.map_eq_ok.1 hs
  obtain ⟨rfl, hrlabel⟩ := Prod.mk.inj hrl
  obtain ⟨rfl, hslabel⟩ := Prod.mk.inj hsl
  have hrule : (strict.identifyRule bothComparisons).result = .ok s :=
    firstRule_eq_ok_iff.2 ⟨9, firstRuleAt_eq_ok_iff.1 hs⟩
  exact ⟨htests, hsame, r, s, hr, hs, hrlabel, hslabel,
    (hdiffer 7 r 9 s hr hs (by decide)).1, hcertain s hrule⟩

end CilRecovery
