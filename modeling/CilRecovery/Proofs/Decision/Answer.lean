import CilRecovery.Proofs.Classifier.Dispatch
import CilRecovery.Proofs.Classifier.Outcomes
import CilRecovery.Proofs.Registry.Outline
import Mathlib.Data.List.Find

/-!
# The answer of the standard table

If every method that a handler calls has a body, no test fails, so the answer is the label of the
first signature that is admitted and true.  Of a candidate whose outline is known only the signatures
that the outline leaves have to be looked at:

    the callees have bodies, o.Fits c →
      identify v = the label of the first signature in o.signatures that answers    (Fits.identify)

Truth passes through the connectives of tests, and that of a captured match is that of its checks
                                                                 (isTrue_both, isTrue_captured).
-/

namespace CilRecovery

/-- The result of a classification with this answer. -/
def VirtualInstruction.answer (v : VirtualInstruction) : Option Operation → Except Error Operation
  | some op => .ok op
  | none => .error (.unknownOperation v)

/-- Every callee of the body has a body in the store. -/
def BodyStore.Decodes (S : BodyStore) (body : Body) : Prop :=
  ∀ index m, body.calleeAt index = some m → ∃ b, S.source m = .ok b

/-! ## Truth -/

/-- Whether the computation succeeds and its answer is yes. -/
def Traced.isTrue (x : Traced Bool) : Bool :=
  match x.result with
  | .ok b => b
  | .error _ => false

namespace Traced

theorem isTrue_iff {x : Traced Bool} : x.isTrue = true ↔ x.result = .ok true := by
  unfold isTrue
  cases x.result <;> simp

theorem isTrue_of_result {x : Traced Bool} {b : Bool} (h : x.result = .ok b) : x.isTrue = b := by
  unfold isTrue
  rw [h]

@[simp] theorem isTrue_pure (b : Bool) : (pure b : Traced Bool).isTrue = b := rfl

/-- Of two parts, the second counts if the first is true. -/
theorem isTrue_and (x y : Traced Bool) :
    (do if ← x then y else pure false : Traced Bool).isTrue = (x.isTrue && y.isTrue) := by
  unfold isTrue
  cases hx : x.result with
  | error e => rw [bind_of_error hx]; rfl
  | ok b =>
    rw [bind_of_ok hx]
    cases b <;> rfl

end Traced

/-- Checks see no more of a candidate than the fields of its stores and the source of bodies. -/
theorem Check.evalAll_congr {c c' : Candidate} {m m' : Match}
    (hs : c.instruction.storage = c'.instruction.storage)
    (hsource : c.scope.source = c'.scope.source) (hm : ∀ index, m.get index = m'.get index)
    (checks : List (Nat × Check)) : evalAll c m checks = evalAll c' m' checks := by
  have heval : ∀ i check, Check.eval c i check = Check.eval c' i check := by
    intro i check
    obtain ⟨v, source, reach⟩ := c
    obtain ⟨v', source', reach'⟩ := c'
    obtain rfl : source = source' := hsource
    cases check with
    | refersTo store =>
      unfold eval
      rw [hs]
    | _ => rfl
  induction checks with
  | nil => rfl
  | cons check rest ih => simp only [evalAll, hm, heval, ih]

/-- Whether the check holds of the instruction at its position of the match. -/
def Check.isTrueAt (c : Candidate) (m : Match) (check : Nat × Check) : Bool :=
  match m.get check.1 with
  | .ok i => (check.2.eval c i).isTrue
  | .error _ => false

section
variable {c : Candidate} {m : Match}

theorem Check.isTrueAt_of_get {check : Nat × Check} {i : Instruction} (h : m.get check.1 = .ok i) :
    isTrueAt c m check = (check.2.eval c i).isTrue := by
  unfold isTrueAt
  rw [h]

theorem Check.isTrue_evalAll (checks : List (Nat × Check)) :
    (evalAll c m checks).isTrue = checks.all (isTrueAt c m) := by
  induction checks with
  | nil => rfl
  | cons check rest ih =>
    obtain ⟨index, check⟩ := check
    unfold evalAll
    rw [List.all_cons, ← ih]
    cases hg : m.get index with
    | error e =>
      rw [Traced.isTrue, Traced.bind_of_error (Traced.result_ofExcept (.error e)), isTrueAt, hg]
      rfl
    | ok i =>
      rw [isTrueAt_of_get hg, ← Traced.isTrue_and, Traced.isTrue,
        Traced.bind_of_ok (Traced.result_ofExcept (.ok i))]
      rfl

/-- The check of an instruction of the whole handler. -/
theorem Check.isTrueAt_whole {index : Nat} {i : Instruction} (hi : c.body[index]? = some i)
    (check : Check) : isTrueAt c (.whole c.body) (index, check) = (check.eval c i).isTrue := by
  have hlt : index < c.body.length := (List.getElem?_eq_some_iff.1 hi).1
  have hi' : c.body[0 + index]? = some i := by rwa [Nat.zero_add]
  exact isTrueAt_of_get (Match.get_eq_ok_iff.2 ⟨hlt, hi'⟩)

namespace Test

theorem isTrue_both (first second : Test) : ((Test.both first second).eval c).isTrue =
    ((first.eval c).isTrue && (second.eval c).isTrue) :=
  Traced.isTrue_and _ _

theorem isTrue_captured {capture : Capture} {t : Template} (checks : List (Nat × Check))
    (h : (capture.find c t).result = .ok (some m)) :
    ((Test.captured capture t checks).eval c).isTrue = checks.all (Check.isTrueAt c m) := by
  rw [← Check.isTrue_evalAll]
  unfold Test.eval Traced.isTrue
  rw [Traced.bind_of_ok h]

theorem isTrue_captured_entire {t : Template} (checks : List (Nat × Check))
    (ht : t.accepts c.opcodes = true) : ((Test.captured .entire t checks).eval c).isTrue =
      checks.all (Check.isTrueAt c (.whole c.body)) := by
  refine isTrue_captured checks ?_
  unfold Capture.find
  rw [if_pos ht]
  rfl

end Test

end

/-! ## The first signature -/

/-- Whether the signature, if it is met first, is the answer. -/
def Signature.answers (allowUncertain : Bool) (c : Candidate) (s : Signature) : Bool :=
  s.rule.admitted allowUncertain && (s.test.eval c).isTrue

section
variable {low : Bool} {c : Candidate}

theorem Signature.answers_certain (label : Operation) (test : Test) :
    (certain label test).answers low c = (test.eval c).isTrue := by
  unfold answers
  rw [Rule.admitted_of_certain rfl]
  rfl

theorem Signature.answers_uncertain (label : Operation) (test : Test) :
    (uncertain label test).answers low c = (low && (test.eval c).isTrue) := by
  cases low <;> rfl

/-- Where no test fails, the first signature that answers gives the label. -/
theorem map_label_firstRule {signatures : List Signature}
    (h : ∀ s ∈ signatures, ∃ b, (s.test.eval c).result = .ok b) :
    Rule.label <$> (firstRule low c (signatures.map Signature.rule)).result =
      c.instruction.answer ((signatures.find? (Signature.answers low c)).map Signature.label) := by
  induction signatures with
  | nil => rfl
  | cons s rest ih =>
    obtain ⟨b, hb⟩ := h s List.mem_cons_self
    have hrest := ih fun s hs => h s (List.mem_cons_of_mem _ hs)
    rw [List.map_cons, List.find?_cons, Signature.answers, Traced.isTrue_of_result hb]
    cases ha : s.rule.admitted low with
    | false =>
      unfold firstRule
      rw [ha]
      exact hrest
    | true =>
      cases b with
      | false =>
        rw [firstRule_of_false ha hb]
        exact hrest
      | true =>
        rw [firstRule_of_true ha hb]
        rfl

end

theorem find?_eq_some_of_unique {α : Type} {p : α → Bool} {l : List α} {a : α} (ha : a ∈ l)
    (hp : p a = true) (huniq : ∀ b ∈ l, p b = true → b = a) : l.find? p = some a := by
  cases h : l.find? p with
  | none => exact absurd hp (List.find?_eq_none.1 h a ha)
  | some b => rw [huniq b (List.mem_of_find?_eq_some h) (List.find?_some h)]

section
variable {S : BodyStore} {v : VirtualInstruction} {reach : Reach} {low : Bool}

theorem BodyStore.Decodes.eval (hdec : S.Decodes v.body) {s : Signature}
    (hs : s ∈ Signature.standard) : ∃ b, (s.test.eval ⟨v, ⟨S.source, reach⟩⟩).result = .ok b := by
  rcases result_eval_of_isLocal (Signature.isLocal_of_mem hs) with h | ⟨e, -, i, hi, m, hm, hget, -⟩
  · exact h
  · obtain ⟨index, hindex⟩ := List.mem_iff_getElem?.1 hi
    obtain ⟨b, hb⟩ := hdec index m (Body.calleeAt_eq_some_iff.2 ⟨i, hindex, hm⟩)
    cases hb.symm.trans (source_of_none hget)

/-- The answer for a candidate of a known outline is one of the labels that the outline leaves. -/
theorem Outline.Fits.identify {o : Outline} (hfit : o.Fits ⟨v, ⟨S.source, reach⟩⟩)
    (hdec : S.Decodes v.body) :
    ((Classifier.mk ⟨S.source, reach⟩ low .standard).identify v).result =
      v.answer ((o.signatures.find? (Signature.answers low ⟨v, ⟨S.source, reach⟩⟩)).map
        Signature.label) := by
  -- what the outline takes away does not answer, so the first that answers stays the first
  have hleft : o.signatures.find? (Signature.answers low ⟨v, ⟨S.source, reach⟩⟩) =
      Signature.standard.find? (Signature.answers low ⟨v, ⟨S.source, reach⟩⟩) := by
    unfold Outline.signatures
    rw [List.find?_filter]
    refine List.find?_congr fun s hs => ?_
    cases ha : s.answers low ⟨v, ⟨S.source, reach⟩⟩ with
    | false => simp
    | true =>
      have htrue := Traced.isTrue_iff.1 (Bool.and_eq_true_iff.1 ha).2
      simpa using (List.mem_filter.1 (hfit.mem_signatures hs htrue)).2
  rw [hleft]
  unfold Classifier.identify Classifier.identifyRule
  rw [Traced.result_map]
  exact map_label_firstRule fun s hs => hdec.eval hs

/-- If the outline leaves one signature, its test decides. -/
theorem Outline.Fits.identify_single {o : Outline} (hfit : o.Fits ⟨v, ⟨S.source, reach⟩⟩)
    (hdec : S.Decodes v.body) {s : Signature} (hleft : o.signatures = [s]) :
    ((Classifier.mk ⟨S.source, reach⟩ low .standard).identify v).result =
      v.answer (if s.answers low ⟨v, ⟨S.source, reach⟩⟩ then some s.label else none) := by
  rw [hfit.identify hdec, hleft, List.find?_singleton]
  cases s.answers low ⟨v, ⟨S.source, reach⟩⟩ <;> rfl

/-- If the outline leaves a family of signatures, the answer is found among its members. -/
theorem Outline.Fits.identify_family {ι : Type} {o : Outline}
    (hfit : o.Fits ⟨v, ⟨S.source, reach⟩⟩) (hdec : S.Decodes v.body) {members : List ι}
    {signature : ι → Signature} (hleft : o.signatures = members.map signature) {holds : ι → Bool}
    (hholds : ∀ i ∈ members, (signature i).answers low ⟨v, ⟨S.source, reach⟩⟩ = holds i) :
    ((Classifier.mk ⟨S.source, reach⟩ low .standard).identify v).result =
      v.answer ((members.find? holds).map fun i => (signature i).label) := by
  have hfind : members.find? (Signature.answers low ⟨v, ⟨S.source, reach⟩⟩ ∘ signature) =
      members.find? holds := List.find?_congr hholds
  rw [hfit.identify hdec, hleft, List.find?_map, Option.map_map, hfind]
  rfl

end

end CilRecovery
