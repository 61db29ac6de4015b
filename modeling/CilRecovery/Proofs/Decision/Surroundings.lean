import CilRecovery.Proofs.Decision.Comparisons
import CilRecovery.Proofs.Template.Offsets

/-!
# Code around a handler

Some rules only ask whether windows are somewhere, in the handler or in a method that it calls, and
not where.  What such a rule has found is not lost if code is put around the handler.  Calls in the
code before are looked into first, so their callees must not be missing; then either one of them has
the window, or the search comes to the callee that had it before.  Code behind is free.

    the callees of the handler are moved by the code before           (calleeAt_surrounded)
    what is shown of a handler is shown with code around it               (Shows.surrounded)
    the rules that only ask whether windows are somewhere               (map_label_isSearch)
    they hold with code around the handler                          (recognises_surrounded)
-/

namespace CilRecovery

/-! ## Parts of a body -/

namespace Body

variable {pre body post : Body}

theorem opcodes_isInfix : body.opcodes <:+: opcodes (pre ++ body ++ post) := by
  unfold opcodes
  rw [List.map_append, List.map_append]
  exact List.infix_append _ _ _

theorem calleeAt_append_left {index : Nat} (h : index < body.length) :
    calleeAt (body ++ post) index = body.calleeAt index := by
  unfold calleeAt
  rw [List.getElem?_append_left h]

theorem lt_length_of_calleeAt {index : Nat} {m : MethodRef} (h : body.calleeAt index = some m) :
    index < body.length := by
  obtain ⟨i, hi, -⟩ := calleeAt_eq_some_iff.mp h
  exact (List.getElem?_eq_some_iff.mp hi).1

/-- The positions of a body are moved by what is put before it. -/
theorem calleeAt_surrounded {index : Nat} (h : index < body.length) :
    calleeAt (pre ++ body ++ post) (pre.length + index) = body.calleeAt index := by
  unfold calleeAt
  rw [List.append_assoc, List.getElem?_append_right (Nat.le_add_right _ _),
    Nat.add_sub_cancel_left, List.getElem?_append_left h]

end Body

/-! ## Searches -/

section
variable {S : BodyStore} {t : Template} {pre body post : Body}

/-- **What is shown of a body** is shown with code around it, if no callee before it is missing. -/
theorem BodyStore.Shows.surrounded (h : S.Shows t body) (hpre : ∀ i, ¬ S.MissingAt pre i) :
    S.Shows t (pre ++ body ++ post) := by
  rcases h with ho | ⟨i, ⟨m, b, hm, hb, ho⟩, hbefore⟩
  · exact .inl (Template.occursIn_of_infix Body.opcodes_isInfix ho)
  · have hi : i < body.length := Body.lt_length_of_calleeAt hm
    refine .inr ⟨pre.length + i, ⟨m, b, ?_, hb, ho⟩, ?_⟩
    · rw [Body.calleeAt_surrounded hi]
      exact hm
    · intro j hj
      -- the callees before are those of `pre`, and those before in the body itself
      rintro ⟨m', hm', hnone⟩
      by_cases hjpre : j < pre.length
      · rw [List.append_assoc, Body.calleeAt_append_left hjpre] at hm'
        exact hpre j ⟨m', hm', hnone⟩
      · have hmoved : j = pre.length + (j - pre.length) := by omega
        rw [hmoved, Body.calleeAt_surrounded (by omega)] at hm'
        exact hbefore (j - pre.length) (by omega) ⟨m', hm', hnone⟩

theorem reaches_surrounded {reach : Reach} (hpre : ∀ i, ¬ S.MissingAt pre i)
    (h : (Scope.reaches ⟨S.source, reach⟩ t body).result = .ok true) :
    (Scope.reaches ⟨S.source, reach⟩ t (pre ++ body ++ post)).result = .ok true := by
  cases reach with
  | bodyOnly =>
    rw [Scope.reaches_bodyOnly, Traced.result_pure, Except.ok.injEq] at h ⊢
    exact Template.occursIn_of_infix Body.opcodes_isInfix h
  | callees =>
    have hshows : S.Shows t body := BodyStore.reaches_eq_true_iff.mp h
    exact BodyStore.reaches_eq_true_iff.mpr (hshows.surrounded hpre)

end

/-! ## Rules -/

/-- The test only asks whether windows are somewhere in the handler or its callees. -/
def Test.isSearch : Test → Bool
  | .contains _ => true
  | .reaches _ => true
  | .both first second => first.isSearch && second.isSearch
  | _ => false

/-- The instruction with code around the body of its handler. -/
def VirtualInstruction.surrounded (v : VirtualInstruction) (pre post : Body) :
    VirtualInstruction :=
  { v with body := pre ++ v.body ++ post }

section
variable {S : BodyStore} {v : VirtualInstruction} {reach : Reach} {pre : Body}

/-- **Searches** that succeed do so with code around the handler, each of a conjunction. -/
theorem Test.eval_surrounded {test : Test} (hsearch : test.isSearch = true)
    (hpre : ∀ i, ¬ S.MissingAt pre i) (post : Body)
    (h : (test.eval ⟨v, ⟨S.source, reach⟩⟩).result = .ok true) :
    (test.eval ⟨v.surrounded pre post, ⟨S.source, reach⟩⟩).result = .ok true := by
  induction test with
  | contains t =>
    have hbody : t.occursIn v.body.opcodes = true := contains_eq_true.mp h
    have hwhole : t.occursIn (v.surrounded pre post).body.opcodes = true :=
      Template.occursIn_of_infix Body.opcodes_isInfix hbody
    exact contains_eq_true.mpr hwhole
  | reaches t => exact reaches_surrounded hpre h
  | both first second ihFirst ihSecond =>
    unfold isSearch at hsearch
    obtain ⟨hfirst, hsecond⟩ := Bool.and_eq_true_iff.mp hsearch
    obtain ⟨h₁, h₂⟩ := both_eq_true.mp h
    exact both_eq_true.mpr ⟨ihFirst hfirst h₁, ihSecond hsecond h₂⟩
  | _ => cases hsearch

end

/-- The rules of the standard table that only ask whether windows are somewhere. -/
theorem Signature.map_label_isSearch :
    (standard.filter fun s => s.test.isSearch).map Signature.label =
      [.and, .bge, .blt, .or, .shl, .xor] := by
  decide +kernel

/-- **Code around a handler.**  With or without a hop, the rules for `and`, `or`, `xor`, `shl`, `bge`
and `blt` that hold of a handler hold of it with any code behind, and any code before whose callees
all have bodies. -/
theorem recognises_surrounded (S : BodyStore) (v : VirtualInstruction) (reach : Reach)
    (pre post : Body) (hpre : ∀ i m, pre.calleeAt i = some m → ∃ b, S.get? m.token = some b)
    (op : Operation) (hop : op ∈ [Operation.and, .bge, .blt, .or, .shl, .xor])
    (h : Registry.standard.Recognises ⟨v, ⟨S.source, reach⟩⟩ op) :
    Registry.standard.Recognises ⟨v.surrounded pre post, ⟨S.source, reach⟩⟩ op := by
  have hcovered : ∀ i, ¬ S.MissingAt pre i := by
    rintro i ⟨m, hm, hnone⟩
    obtain ⟨b, hb⟩ := hpre i m hm
    rw [hnone] at hb
    cases hb
  rw [← Signature.map_label_isSearch] at hop
  obtain ⟨s, hs, rfl⟩ := List.mem_map.mp hop
  obtain ⟨hmem, hsearch⟩ := List.mem_filter.mp hs
  have hholds := (Registry.recognises_of_mem hmem).mp h
  exact (Registry.recognises_of_mem hmem).mpr (Test.eval_surrounded hsearch hcovered post hholds)

/-- Both branches hold behind a call of another helper and before a call of a missing one, but not
behind a call of the missing one. -/
theorem recognises_surrounded_twoBranches :
    let other : Body := [⟨.call, .method ⟨⟨0x06000002⟩, "Vm::Greater", "System.Boolean"⟩⟩]
    let missing : Body := [⟨.call, .method ⟨⟨0x06000003⟩, "Vm::Missing", "System.Boolean"⟩⟩]
    let scope := Scope.widest comparisonHelpers.source
    (∀ i m, other.calleeAt i = some m → ∃ b, comparisonHelpers.get? m.token = some b) ∧
    Registry.standard.Recognises ⟨twoBranches, scope⟩ .bge ∧
    Registry.standard.Recognises ⟨twoBranches.surrounded other missing, scope⟩ .bge ∧
    Registry.standard.Recognises ⟨twoBranches.surrounded other missing, scope⟩ .blt ∧
    ¬ Registry.standard.Recognises ⟨twoBranches.surrounded missing other, scope⟩ .bge := by
  intro other missing scope
  have hbge : Signature.branch .bge Shape.bgeHeader ∈ Signature.standard := by decide +kernel
  have hblt : Signature.branch .blt Shape.bltHeader ∈ Signature.standard := by decide +kernel
  have hother : ∀ i m, other.calleeAt i = some m →
      ∃ b, comparisonHelpers.get? m.token = some b := by
    intro i m hm
    obtain rfl : i = 0 := Nat.lt_one_iff.mp (Body.lt_length_of_calleeAt hm)
    cases hm
    exact ⟨_, rfl⟩
  have hholds : Registry.standard.Recognises ⟨twoBranches, scope⟩ .bge :=
    (Registry.recognises_of_mem hbge).mpr (by decide +kernel)
  have hholds' : Registry.standard.Recognises ⟨twoBranches, scope⟩ .blt :=
    (Registry.recognises_of_mem hblt).mpr (by decide +kernel)
  refine ⟨hother, hholds,
    recognises_surrounded _ twoBranches .callees other missing hother .bge (by decide) hholds,
    recognises_surrounded _ twoBranches .callees other missing hother .blt (by decide) hholds', ?_⟩
  intro hbehind
  have htrue := (Registry.recognises_of_mem hbge).mp hbehind
  revert htrue
  decide +kernel

end CilRecovery
