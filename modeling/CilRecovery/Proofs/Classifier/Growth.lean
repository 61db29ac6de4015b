import CilRecovery.Proofs.Classifier.Dispatch
import CilRecovery.Proofs.Registry.Evidence
import CilRecovery.Proofs.Run.Propagation
import CilRecovery.Proofs.Run.Simulation

/-!
# More bodies

A program may learn bodies while it runs.  An answer that was given without a body does not depend
on it, so what has been answered stays when bodies are added; only a report of a missing body may
give way to an answer.

    S within S' → a rule that answers over S answers the same over S'        (eval_of_within)
    S within S' → so does the classification                                 (identify_of_within)
-/

namespace CilRecovery

namespace BodyStore

/-- The bodies of the first store stand in the second, too. -/
def Within (S S' : BodyStore) : Prop := ∀ t b, S.get? t = some b → S'.get? t = some b

/-- A store grows by a body for a method that had none. -/
theorem within_insert {S : BodyStore} {t : Token} (h : S.get? t = none) (b : Body) :
    S.Within (S.insert t b) := by
  intro t' b' h'
  rw [get?_insert, if_neg]
  · exact h'
  · rintro rfl
    rw [h] at h'
    cases h'

end BodyStore

/-- Missing bodies are waived; any other failure has to stay. -/
def stayingFailure : Agreement where
  waived e := ∃ token reason, e = .bodyUnavailable token reason
  matched e e' := e = e'

variable {S S' : BodyStore}

theorem BodyStore.Within.decodeAlike (h : S.Within S') (reach : Reach) (m : MethodRef) :
    DecodeAlike stayingFailure ⟨S.source, reach⟩ ⟨S'.source, reach⟩ m m := by
  show Agreement.On _ (Body.opcodes <$> S.source m) (Body.opcodes <$> S'.source m)
  cases hS : S.get? m.token with
  | none =>
    rw [source_of_none hS]
    exact .inl ⟨_, _, rfl⟩
  | some b =>
    rw [source_of_some hS, source_of_some (h m.token b hS)]
    exact Agreement.on_ok b.opcodes

theorem BodyStore.Within.twin (h : S.Within S') (reach : Reach) (v : VirtualInstruction) :
    (Candidate.mk v ⟨S.source, reach⟩).Twin stayingFailure (fun _ => True)
      ⟨v, ⟨S'.source, reach⟩⟩ :=
  .of_decodeAlike rfl fun _ _ m _ => h.decodeAlike reach m

/-- A standard rule that is true or false stays so. -/
theorem eval_of_within (h : S.Within S') {s : Signature} (hs : s ∈ Signature.standard)
    {v : VirtualInstruction} {reach : Reach} {holds : Bool}
    (heval : (s.test.eval ⟨v, ⟨S.source, reach⟩⟩).result = .ok holds) :
    (s.test.eval ⟨v, ⟨S'.source, reach⟩⟩).result = .ok holds := by
  have hon := (h.twin reach v).on_eval (Signature.isLocal_of_mem hs) (fun _ _ => trivial) (.inl rfl)
  rw [heval] at hon
  exact hon

/-- **Settled answers stay.**  With more bodies an instruction is recovered as before, unless a body
was missing, and so is each rule true or false as before; for a failure to decode a method is never
taken for an answer, neither by a test nor by a rule nor by the classifier. -/
theorem identify_of_within (h : S.Within S') (v : VirtualInstruction) (config : Config)
    (k k' : Classifier) (hk : Classifier.ofConfig S.source config .standard = .ok k)
    (hk' : Classifier.ofConfig S'.source config .standard = .ok k') :
    ((∀ token reason, (k.identify v).result ≠ .error (.bodyUnavailable token reason)) →
      (k'.identify v).result = (k.identify v).result) ∧
    (∀ r ∈ Registry.standard.rules, ∀ holds, (r.holds ⟨v, k.scope⟩).result = .ok holds →
      (r.holds ⟨v, k'.scope⟩).result = .ok holds) ∧
    (∀ (test : Test) (c : Candidate), (test.eval c).Propagates c.scope.source) ∧
    (∀ r ∈ Registry.standard.rules, ∀ c, (r.holds c).Propagates c.scope.source) ∧
    (k.identify v).Propagates S.source := by
  obtain ⟨reach, rfl, rfl⟩ := Classifier.exists_reach_of_ofConfig hk hk'
  refine ⟨fun hsettled => ?_, fun r hr holds hholds => ?_, fun test c => test.propagates_eval c,
    fun r hr c => Signature.propagates_holds c r hr,
    propagates_identify _ _ Signature.standard v⟩
  · have hon := on_identify_standard config.allowUncertain (h.twin reach v) rfl
      (fun _ _ _ _ => trivial) (.inl rfl)
    -- what the agreement waives is a missing body, and the first run has not ended in one
    rcases hon.cases fun e he ⟨token, reason, hbody⟩ => hsettled token reason (hbody ▸ he) with
      ⟨op, hop, hop'⟩ | ⟨e, e', he, he', hee⟩
    · exact hop'.trans hop.symm
    · rw [he, he', hee]
  · obtain ⟨s, hs, rfl⟩ := List.mem_map.1 hr
    exact eval_of_within h hs hholds

/-- A handler that calls one helper first and, after two literals, another one. -/
def additionHandler : VirtualInstruction :=
  ⟨[⟨.call, .method ⟨⟨0x06000001⟩, "Vm::First", "System.Void"⟩⟩, .ofOpcode .ldc_i4_0,
    .ofOpcode .ldc_i4_0, ⟨.call, .method ⟨⟨0x06000002⟩, "Vm::Add", "System.Void"⟩⟩, .ofOpcode .ret],
   ⟨⟨0x04000001⟩, ⟨0x04000002⟩⟩, .none⟩

/-- An addition is found while the body of the first helper is missing, and it stays one when that
body turns out to hold another operation. -/
theorem identify_of_within_additionHandler :
    let S := BodyStore.ofList [(⟨0x06000002⟩, Shape.addHelper.opcodes.map .ofOpcode)]
    let S' := S.insert ⟨0x06000001⟩ (Shape.and.opcodes.map .ofOpcode)
    S.get? ⟨0x06000001⟩ = none ∧ S.Within S' ∧
    ((Classifier.mk (.widest S.source) true .standard).identify additionHandler).result =
      .ok .add ∧
    ((Classifier.mk (.widest S'.source) true .standard).identify additionHandler).result =
      .ok .add := by
  intro S S'
  have hmissing : S.get? ⟨0x06000001⟩ = none := by decide +kernel
  have hwithin : S.Within S' := BodyStore.within_insert hmissing _
  have hadd : ((Classifier.mk (.widest S.source) true .standard).identify additionHandler).result =
      .ok .add := by decide +kernel
  refine ⟨hmissing, hwithin, hadd, ?_⟩
  rw [← hadd]
  refine (identify_of_within hwithin additionHandler .standard _ _ rfl rfl).1 ?_
  intro token reason hbody
  cases hadd.symm.trans hbody

end CilRecovery
