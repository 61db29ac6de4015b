import CilRecovery.Proofs.Classifier.FirstMatch
import Mathlib.Data.List.Perm.Basic

/-!
# The order of a table

A rule *answers* if it is enabled and true.  Where no enabled rule fails, a search ends at a rule
that answers or, if there is none, in an unknown instruction.  Which rules answer does not depend on
their order, so the order of a table counts where, and only where, rules of different labels answer.

    the search ends at a rule that answers, if any does                      (firstRule_of_settles)
    a label that all answers share is found in any order              (label_firstRule_of_answers)
    any rule that answers may be the first                                     (exists_perm_answer)
    all of this for a classifier                                                 (identify_reorder)
-/

namespace CilRecovery

/-- The rule is enabled and true. -/
def Rule.Answers (allowUncertain : Bool) (c : Candidate) (r : Rule) : Prop :=
  r.Enabled allowUncertain ∧ (r.holds c).result = .ok true

/-- The rule does not fail, if it is enabled at all. -/
def Rule.Settles (allowUncertain : Bool) (c : Candidate) (r : Rule) : Prop :=
  r.Enabled allowUncertain → ∃ b, (r.holds c).result = .ok b

/-- All rules that answer have one label. -/
def AnswersAgree (allowUncertain : Bool) (c : Candidate) (rules : List Rule) : Prop :=
  ∀ r ∈ rules, r.Answers allowUncertain c → ∀ s ∈ rules, s.Answers allowUncertain c →
    r.label = s.label

section
variable {low : Bool} {c : Candidate} {r : Rule} {rules rules' : List Rule}

/-! ## One rule -/

theorem Rule.Answers.not_passedOver (ha : r.Answers low c) : ¬ r.PassedOver low c := by
  intro hover
  have hfalse := hover ha.1
  rw [ha.2] at hfalse
  cases hfalse

theorem Rule.Settles.answers_or_passedOver (hr : r.Settles low c) :
    r.Answers low c ∨ r.PassedOver low c := by
  by_cases he : r.Enabled low
  · obtain ⟨b, hb⟩ := hr he
    cases b with
    | true => exact .inl ⟨he, hb⟩
    | false => exact .inr fun _ => hb
  · exact .inr fun h => absurd h he

/-! ## One order -/

section
variable (hok : ∀ r ∈ rules, r.Settles low c)
include hok

/-- Where no enabled rule fails, the search ends at a rule that answers, if there is one. -/
theorem firstRule_of_settles :
    (∃ r ∈ rules, r.Answers low c ∧ (firstRule low c rules).result = .ok r) ∨
      (∀ r ∈ rules, ¬ r.Answers low c) ∧
        (firstRule low c rules).result = .error (.unknownOperation c.instruction) := by
  rcases all_passedOver_or_exists_isTried low c rules with hall | ⟨i, r, ht, hne⟩
  · exact .inr ⟨fun r hr ha => ha.not_passedOver (hall r hr), firstRule_of_all_passedOver hall⟩
  · have ha : r.Answers low c :=
      (hok r ht.mem).answers_or_passedOver.resolve_right fun hover => hne (hover ht.enabled)
    exact .inl ⟨r, ht.mem, ha, firstRule_eq_ok_iff.2 ⟨i, ht, ha.2⟩⟩

theorem label_firstRule_of_no_answer (hnone : ∀ r ∈ rules, ¬ r.Answers low c) :
    Rule.label <$> (firstRule low c rules).result =
      .error (.unknownOperation c.instruction) := by
  rcases firstRule_of_settles hok with ⟨r, hr, ha, -⟩ | ⟨-, h⟩
  · exact absurd ha (hnone r hr)
  · rw [h]
    rfl

/-- The label that all answers share is found as soon as one rule answers. -/
theorem label_firstRule_of_answers (hagree : AnswersAgree low c rules) (hr : r ∈ rules)
    (ha : r.Answers low c) : Rule.label <$> (firstRule low c rules).result = .ok r.label := by
  rcases firstRule_of_settles hok with ⟨s, hs, hsa, h⟩ | ⟨hnone, -⟩
  · rw [h, hagree r hr ha s hs hsa]
    rfl
  · exact absurd ha (hnone r hr)

end

/-! ## All orders -/

theorem AnswersAgree.perm (hagree : AnswersAgree low c rules) (hp : rules'.Perm rules) :
    AnswersAgree low c rules' :=
  fun r hr ha s hs hsa => hagree r (hp.mem_iff.1 hr) ha s (hp.mem_iff.1 hs) hsa

theorem label_firstRule_perm (hok : ∀ r ∈ rules, r.Settles low c)
    (hagree : AnswersAgree low c rules) (hp : rules'.Perm rules) :
    Rule.label <$> (firstRule low c rules').result =
      Rule.label <$> (firstRule low c rules).result := by
  have hok' : ∀ r ∈ rules', r.Settles low c := fun r hr => hok r (hp.mem_iff.1 hr)
  by_cases hnone : ∀ r ∈ rules, ¬ r.Answers low c
  · rw [label_firstRule_of_no_answer hok hnone,
      label_firstRule_of_no_answer hok' fun r hr => hnone r (hp.mem_iff.1 hr)]
  · obtain ⟨r, hr⟩ := Classical.not_forall.1 hnone
    obtain ⟨hr, ha⟩ := Classical.not_imp.1 hr
    have ha : r.Answers low c := Classical.not_not.1 ha
    rw [label_firstRule_of_answers hok hagree hr ha,
      label_firstRule_of_answers hok' (hagree.perm hp) (hp.mem_iff.2 hr) ha]

/-- Any rule that answers may be moved to the front, where the search ends at it. -/
theorem exists_perm_answer (hr : r ∈ rules) (ha : r.Answers low c) :
    ∃ rules' : List Rule, rules'.Perm rules ∧ (firstRule low c rules').result = .ok r := by
  obtain ⟨before, later, rfl⟩ := List.append_of_mem hr
  exact ⟨r :: (before ++ later), List.perm_middle.symm,
    firstRule_of_true (Rule.admitted_iff.2 ha.1) ha.2⟩

theorem answersAgree_of_perm (h : ∀ rules' : List Rule, rules'.Perm rules →
    Rule.label <$> (firstRule low c rules').result =
      Rule.label <$> (firstRule low c rules).result) : AnswersAgree low c rules := by
  intro r hr ha s hs hsa
  obtain ⟨first, hfirst, hfr⟩ := exists_perm_answer hr ha
  obtain ⟨second, hsecond, hsr⟩ := exists_perm_answer hs hsa
  have hsame := (h first hfirst).trans (h second hsecond).symm
  rw [hfr, hsr] at hsame
  exact Except.ok.inj hsame

end

/-! ## Classifiers -/

namespace Classifier

variable {k : Classifier}

/-- The classifier of a table in another order differs in its table only. -/
theorem ofConfig_withRules {source : BodySource} {config : Config} {registry : Registry}
    (hk : ofConfig source config registry = .ok k) (rules : List Rule) :
    ofConfig source config ⟨rules⟩ = .ok (k.withRules rules) := by
  obtain ⟨reach, hreach, rfl⟩ := ofConfig_eq_ok_iff.1 hk
  exact ofConfig_eq_ok_iff.2 ⟨reach, hreach, rfl⟩

theorem result_identify (v : VirtualInstruction) : (k.identify v).result =
    Rule.label <$> (firstRule k.allowUncertain ⟨v, k.scope⟩ k.registry.rules).result :=
  Traced.result_map _ _

end Classifier

/-- **Order as a tie-breaker.**  If no enabled rule fails, all orders of a table give one result if,
and only if, all rules that answer have one label.  This label is then the result; and if no rule
answers, the instruction is unknown. -/
theorem identify_reorder (source : BodySource) (config : Config) (registry : Registry)
    (v : VirtualInstruction) (k : Classifier)
    (hk : Classifier.ofConfig source config registry = .ok k)
    (hok : ∀ r ∈ registry.rules, r.Settles config.allowUncertain ⟨v, k.scope⟩) :
    (AnswersAgree config.allowUncertain ⟨v, k.scope⟩ registry.rules ↔
      ∀ reordered : Registry, reordered.rules.Perm registry.rules →
        ∃ k', Classifier.ofConfig source config reordered = .ok k' ∧
          (k'.identify v).result = (k.identify v).result) ∧
    (AnswersAgree config.allowUncertain ⟨v, k.scope⟩ registry.rules →
      ∀ r ∈ registry.rules, r.Answers config.allowUncertain ⟨v, k.scope⟩ →
        (k.identify v).result = .ok r.label) ∧
    ((∀ r ∈ registry.rules, ¬ r.Answers config.allowUncertain ⟨v, k.scope⟩) →
      (k.identify v).result = .error (.unknownOperation v)) := by
  have hbuilt := Classifier.ofConfig_withRules hk
  obtain ⟨reach, -, rfl⟩ := Classifier.ofConfig_eq_ok_iff.1 hk
  simp only [Classifier.result_identify]
  refine ⟨⟨fun hagree reordered hp => ?_, fun h => answersAgree_of_perm fun rules hp => ?_⟩,
    fun hagree r hr ha => label_firstRule_of_answers hok hagree hr ha,
    fun hnone => label_firstRule_of_no_answer hok hnone⟩
  · exact ⟨_, hbuilt reordered.rules, label_firstRule_perm hok hagree hp⟩
  · obtain ⟨k', hk', hsame⟩ := h ⟨rules⟩ hp
    obtain rfl := Except.ok.inj ((hbuilt rules).symm.trans hk')
    exact hsame

/-- A table with two rules that hold of a handler with a return, one that never holds, and an
uncertain one that asks for an instruction outside of its match. -/
def Registry.twoReturns : Registry :=
  .ofSignatures
    [.certain .throw (.const false), .certain .ret (.contains (.exact [.ret])),
     .uncertain .call (.captured .first (.exact [.ret]) [(1, .isNamed "Leave")]),
     .certain .ret (.negated (.contains (.exact [.throw])))]

/-- With certain rules only, the table can be turned around. -/
theorem identify_reorder_twoReturns :
    let k := Classifier.mk (.widest BodyStore.empty.source) false .twoReturns
    let v := returnHandler "Leave"
    (∀ r ∈ Registry.twoReturns.rules, r.Settles false ⟨v, k.scope⟩) ∧
    AnswersAgree false ⟨v, k.scope⟩ Registry.twoReturns.rules ∧
    (k.identify v).result = .ok .ret ∧
    ((k.withRules Registry.twoReturns.rules.reverse).identify v).result = .ok .ret := by
  intro k v
  have hdisabled : ¬ (Signature.uncertain .call
      (.captured .first (.exact [.ret]) [(1, .isNamed "Leave")])).rule.Enabled false := by
    rintro (h | h)
    · cases h
    · cases h
  have hrules : ∀ r ∈ Registry.twoReturns.rules, r.Settles false ⟨v, k.scope⟩ ∧
      (r.Answers false ⟨v, k.scope⟩ → r.label = .ret) := by
    intro r hr
    simp only [Registry.twoReturns, Registry.ofSignatures, List.map_cons, List.map_nil,
      List.mem_cons, List.not_mem_nil, or_false] at hr
    rcases hr with rfl | rfl | rfl | rfl
    · exact ⟨fun _ => ⟨false, rfl⟩, fun ha => by cases ha.2⟩
    · exact ⟨fun _ => ⟨true, rfl⟩, fun _ => rfl⟩
    · exact ⟨fun he => absurd he hdisabled, fun ha => absurd ha.1 hdisabled⟩
    · exact ⟨fun _ => ⟨true, rfl⟩, fun _ => rfl⟩
  have hok : ∀ r ∈ Registry.twoReturns.rules, r.Settles false ⟨v, k.scope⟩ :=
    fun r hr => (hrules r hr).1
  have hagree : AnswersAgree false ⟨v, k.scope⟩ Registry.twoReturns.rules :=
    fun r hr ha s hs hsa => ((hrules r hr).2 ha).trans ((hrules s hs).2 hsa).symm
  obtain ⟨horder, hfound, -⟩ :=
    identify_reorder BodyStore.empty.source .strict .twoReturns v k rfl hok
  obtain ⟨k', hk', hsame⟩ :=
    horder.1 hagree ⟨Registry.twoReturns.rules.reverse⟩ (List.reverse_perm _)
  obtain rfl : k.withRules Registry.twoReturns.rules.reverse = k' := Except.ok.inj hk'
  have hret : (k.identify v).result = .ok .ret :=
    hfound hagree (Signature.certain .ret (.contains (.exact [.ret]))).rule
      (List.mem_cons_of_mem _ List.mem_cons_self) ⟨.inl rfl, rfl⟩
  exact ⟨hok, hagree, hret, hsame.trans hret⟩

end CilRecovery
