import CilRecovery.Proofs.Classifier.Unavailable
import CilRecovery.Proofs.Decision.OneHelper

/-!
# Handlers whose helpers hide nothing

With one hop a search may find in a helper what the handler itself does not have.  Where no helper
holds a template that helpers are searched for, it finds nothing there, which is all that a search
without a hop sees of them.  A test that names the callee it looks into decodes it at either depth.
So every standard rule has one result at both depths, and the search of the rules ends at one rule.

    no helper holds the template → no flags are selected                            (result_selects)
    no helper holds what a test seeks → it has one result                       (result_eval_reach)
    rules with one result each → one rule is found                         (result_firstRule_congr)
    all of this for a classifier                                                   (identify_depth)
-/

namespace CilRecovery

/-! ## Searches -/

namespace Scope

variable {source : BodySource} {reach : Reach} {t : Template} {body : Body}
  (hplain : ∀ index m, body.calleeAt index = some m →
    ∃ b, source m = .ok b ∧ t.occursIn b.opcodes = false)

include hplain

theorem result_flagSites (arity : Nat) :
    (Scope.flagSites ⟨source, reach⟩ t arity body).result = .ok [] := by
  cases reach with
  | bodyOnly => rfl
  | callees =>
    have hdec : ∀ index m, body.calleeAt index = some m → ∃ b, source m = .ok b := by
      intro index m hm
      obtain ⟨b, hb, -⟩ := hplain index m hm
      exact ⟨b, hb⟩
    obtain ⟨found, hfound⟩ : ∃ found, ((widest source).flagSites t arity body).result = .ok found :=
      exists_result_flagSites hdec
    -- flags are passed to helpers that hold the template, and there is none
    have hnone : found = [] := by
      refine List.eq_nil_iff_forall_not_mem.2 fun flags hmem => ?_
      obtain ⟨-, index, hpasses⟩ := (mem_of_flagSites hfound).1 hmem
      obtain ⟨m, b, hm, hb, ho⟩ := hpasses.helper
      obtain ⟨b', hb', ho'⟩ := hplain index m hm
      obtain rfl : b = b' := Except.ok.inj (hb.symm.trans hb')
      rw [ho] at ho'
      cases ho'
    rw [← hnone]
    exact hfound

/-- No flags are selected. -/
theorem result_selects (flags : List Bool) :
    (Scope.selects ⟨source, reach⟩ t flags body).result = .ok false := by
  unfold selects
  rw [Traced.bind_of_ok (result_flagSites hplain flags.length)]
  rfl

end Scope

/-! ## Tests -/

/-- The templates that the test searches for in helpers. -/
def Test.sought : Test → List Template
  | .reaches t => [t]
  | .selects _ t => [t]
  | .captured .reached t _ => [t]
  | .both first second => first.sought ++ second.sought
  | .either first second => first.sought ++ second.sought
  | .negated test => test.sought
  | _ => []

section
variable {source : BodySource} {v : VirtualInstruction} {reach reach' : Reach}

theorem Capture.result_find_reach {t : Template} {checks : List (Nat × Check)} {capture : Capture}
    (hplain : ∀ t' ∈ (Test.captured capture t checks).sought, ∀ index m,
      v.body.calleeAt index = some m → ∃ b, source m = .ok b ∧ t'.occursIn b.opcodes = false) :
    (capture.find ⟨v, ⟨source, reach⟩⟩ t).result =
      (capture.find ⟨v, ⟨source, reach'⟩⟩ t).result := by
  cases capture with
  | reached =>
    have ht := hplain t List.mem_cons_self
    exact (Scope.result_find ht).trans (Scope.result_find ht).symm
  | _ => rfl

/-- The reach of a search plays no part where the helpers hold nothing that the test seeks. -/
theorem Test.result_eval_reach {test : Test}
    (hplain : ∀ t ∈ test.sought, ∀ index m, v.body.calleeAt index = some m →
      ∃ b, source m = .ok b ∧ t.occursIn b.opcodes = false) :
    (test.eval ⟨v, ⟨source, reach⟩⟩).result = (test.eval ⟨v, ⟨source, reach'⟩⟩).result := by
  induction test with
  | const value => rfl
  | entire t => rfl
  | anchored t anchor => rfl
  | contains t => rfl
  | operandKind kind => rfl
  | reaches t =>
    have ht := hplain t List.mem_cons_self
    refine Traced.result_bind_congr ?_ fun _ => rfl
    exact (Scope.result_find ht).trans (Scope.result_find ht).symm
  | selects flags t =>
    have ht := hplain t List.mem_cons_self
    exact (Scope.result_selects ht flags).trans (Scope.result_selects ht flags).symm
  | both first second ih₁ ih₂ =>
    obtain ⟨h₁, h₂⟩ := List.forall_mem_append.1 hplain
    refine Traced.result_bind_congr (ih₁ h₁) fun b => ?_
    cases b with
    | false => rfl
    | true => exact ih₂ h₂
  | either first second ih₁ ih₂ =>
    obtain ⟨h₁, h₂⟩ := List.forall_mem_append.1 hplain
    refine Traced.result_bind_congr (ih₁ h₁) fun b => ?_
    cases b with
    | false => exact ih₂ h₂
    | true => rfl
  | negated test ih => exact Traced.result_bind_congr (ih hplain) fun _ => rfl
  | captured capture t checks =>
    refine Traced.result_bind_congr (Capture.result_find_reach hplain) fun found => ?_
    cases found with
    | none => rfl
    | some m =>
      have hchecks : Check.evalAll ⟨v, ⟨source, reach⟩⟩ m checks =
          Check.evalAll ⟨v, ⟨source, reach'⟩⟩ m checks := by
        refine Check.evalAll_congr ?_ ?_ (fun _ => rfl) checks
        · rfl
        · rfl
      exact congrArg Traced.result hchecks

end

/-! ## Tables -/

/-- Where each rule has one result for two candidates, the search of the rules has, too. -/
theorem result_firstRule_congr {low : Bool} {c c' : Candidate} {rules : List Rule}
    (hv : c.instruction = c'.instruction)
    (h : ∀ r ∈ rules, (r.holds c).result = (r.holds c').result) :
    (firstRule low c rules).result = (firstRule low c' rules).result := by
  induction rules with
  | nil => exact congrArg (fun w => Except.error (Error.unknownOperation w)) hv
  | cons r rest ih =>
    have hrest := ih fun r' hr' => h r' (List.mem_cons_of_mem _ hr')
    unfold firstRule
    by_cases ha : r.admitted low = true
    · rw [if_pos ha, if_pos ha]
      refine Traced.result_bind_congr rfl fun _ =>
        Traced.result_bind_congr (h r List.mem_cons_self) fun b => ?_
      cases b with
      | false => exact hrest
      | true => rfl
    · rw [if_neg ha, if_neg ha]
      exact hrest

/-- The standard rules look in helpers for no other templates. -/
theorem Signature.mem_sought {s : Signature} (hs : s ∈ standard) {t : Template}
    (ht : t ∈ s.test.sought) : t ∈ Shape.sought := by
  have hall : ∀ s ∈ standard, ∀ t ∈ s.test.sought, t ∈ Shape.sought := by decide +kernel
  exact hall s hs t ht

/-! ## Classifiers -/

/-- Every callee of the body has a body in the store, and none of these holds a template that
helpers are searched for. -/
def BodyStore.HidesNothing (S : BodyStore) (body : Body) : Prop :=
  ∀ index m, body.calleeAt index = some m →
    ∃ b, S.get? m.token = some b ∧ ∀ t ∈ Shape.sought, t.occursIn b.opcodes = false

/-- **Depth.**  If the helpers of a handler hide nothing, each standard rule answers, and answers
alike with a hop and without.  So at both depths one rule is found or none is, and nothing else can
happen. -/
theorem identify_depth (S : BodyStore) (v : VirtualInstruction) (low : Bool) (k k' : Classifier)
    (hk : Classifier.ofConfig S.source ⟨0, low⟩ .standard = .ok k)
    (hk' : Classifier.ofConfig S.source ⟨1, low⟩ .standard = .ok k')
    (hplain : S.HidesNothing v.body) :
    (∀ r ∈ Registry.standard.rules, ∃ b, (r.holds ⟨v, k.scope⟩).result = .ok b ∧
      (r.holds ⟨v, k'.scope⟩).result = .ok b) ∧
    (k.identifyRule v).result = (k'.identifyRule v).result ∧
    (k.identify v).result = (k'.identify v).result ∧
    ((∃ op, (k.identify v).result = .ok op) ∨
      (k.identify v).result = .error (.unknownOperation v)) := by
  obtain rfl : ⟨⟨S.source, .bodyOnly⟩, low, .standard⟩ = k := Except.ok.inj hk
  rw [S.ofConfig_eq_classifier] at hk'
  obtain rfl : S.classifier low = k' := Except.ok.inj hk'
  have hdec : S.Decodes v.body := by
    intro index m hm
    obtain ⟨b, hb, -⟩ := hplain index m hm
    exact ⟨b, BodyStore.source_of_some hb⟩
  have hholds : ∀ r ∈ Registry.standard.rules, (r.holds ⟨v, ⟨S.source, .bodyOnly⟩⟩).result =
      (r.holds ⟨v, ⟨S.source, .callees⟩⟩).result := by
    intro r hr
    obtain ⟨s, hs, rfl⟩ := List.mem_map.1 hr
    refine Test.result_eval_reach fun t ht index m hm => ?_
    obtain ⟨b, hb, hall⟩ := hplain index m hm
    exact ⟨b, BodyStore.source_of_some hb, hall t (Signature.mem_sought hs ht)⟩
  have hrule : (firstRule low ⟨v, ⟨S.source, .bodyOnly⟩⟩ Registry.standard.rules).result =
      (firstRule low ⟨v, ⟨S.source, .callees⟩⟩ Registry.standard.rules).result :=
    result_firstRule_congr rfl hholds
  have hop : ((Classifier.mk ⟨S.source, .bodyOnly⟩ low .standard).identify v).result =
      ((S.classifier low).identify v).result := congrArg (Rule.label <$> ·) hrule
  refine ⟨fun r hr => ?_, hrule, hop, ?_⟩
  · obtain ⟨s, hs, rfl⟩ := List.mem_map.1 hr
    have hok : ∃ b, (s.test.eval ⟨v, ⟨S.source, .bodyOnly⟩⟩).result = .ok b := hdec.eval hs
    obtain ⟨b, hb⟩ := hok
    exact ⟨b, hb, (hholds s.rule hr).symm.trans hb⟩
  · rw [hop]
    exact identify_of_decodable low hdec

/-- A store is told by a helper that it names, so it is recovered without a hop as well. -/
theorem identify_depth_firstStore :
    let S := BodyStore.ofList
      [(⟨0x06000001⟩, Shape.localStoreHelper.opcodes.map .ofOpcode)]
    S.HidesNothing firstStore.body ∧
    ((Classifier.mk ⟨S.source, .bodyOnly⟩ false .standard).identify firstStore).result =
      .ok .stloc_0 ∧
    ((S.classifier false).identify firstStore).result = .ok .stloc_0 := by
  intro S
  have hplain : S.HidesNothing firstStore.body := by
    intro index m hm
    have hcall : firstStore.body.CallsOnly 2 ⟨⟨0x06000001⟩, "Vm::Store", "System.Void"⟩ :=
      Body.callsOnly_of_callSites (s := ⟨2, [.ldc_i4_0, .ldarg_0], _⟩) rfl
    obtain ⟨-, rfl⟩ := (hcall index m).1 hm
    exact ⟨_, rfl, by decide +kernel⟩
  have hop : ((Classifier.mk ⟨S.source, .bodyOnly⟩ false .standard).identify firstStore).result =
      .ok .stloc_0 := by
    decide +kernel
  obtain ⟨-, -, hsame, -⟩ := identify_depth S firstStore false _ _ rfl
    (S.ofConfig_eq_classifier false) hplain
  exact ⟨hplain, hop, hsame.symm.trans hop⟩

end CilRecovery
