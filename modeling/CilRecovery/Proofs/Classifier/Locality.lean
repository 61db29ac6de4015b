import CilRecovery.Proofs.Classifier.Dispatch
import CilRecovery.Proofs.Run.Simulation

/-!
# What a classification depends on

The standard table reads the handler, and of each method that the handler names no more than the
opcodes of its body, or that it has none.  Operands inside such a method, the methods that it calls
in turn and all others play no part:

    the callees have the same opcodes in both stores → the results are equal     (identify_one_hop)
-/

namespace CilRecovery

/-- **One hop.**  Two stores in which the methods named by the handler have bodies of the same
opcodes, or none, give the same operation or the same failure. -/
theorem identify_one_hop (v : VirtualInstruction) (S S' : BodyStore) (config : Config)
    (k k' : Classifier) (hk : Classifier.ofConfig S.source config .standard = .ok k)
    (hk' : Classifier.ofConfig S'.source config .standard = .ok k')
    (hS : ∀ i ∈ v.body, ∀ m, i.callee? = some m →
      (S.get? m.token).map Body.opcodes = (S'.get? m.token).map Body.opcodes) :
    (k.identify v).result = (k'.identify v).result := by
  obtain ⟨reach, hr, rfl⟩ := Classifier.ofConfig_eq_ok_iff.1 hk
  obtain ⟨reach', hr', rfl⟩ := Classifier.ofConfig_eq_ok_iff.1 hk'
  obtain rfl : reach = reach' := Except.ok.inj (hr.symm.trans hr')
  have htwin : (Candidate.mk v ⟨S.source, reach⟩).Twin ⟨fun _ => False, Eq⟩ (fun _ => True)
      ⟨v, ⟨S'.source, reach⟩⟩ := by
    refine .of_decodeAlike rfl fun i hi m hm => BodyStore.decodeAlike (hS i hi m hm) ?_
    intro e e' he he'
    rw [(BodyStore.source_eq_error.1 he).2, (BodyStore.source_eq_error.1 he').2]
  have hon := on_identify_standard config.allowUncertain htwin rfl (fun _ _ _ _ => trivial) (.inl rfl)
  exact hon.eq (fun e => id) (fun e e' he => he)

/-- The handler of a return, with this name for its helper. -/
def returnHandler (name : String) : VirtualInstruction :=
  ⟨[.ofOpcode .ldarg_0, ⟨.call, .method ⟨⟨0x06000001⟩, name, "System.Void"⟩⟩, .ofOpcode .ret],
    ⟨⟨0x04000001⟩, ⟨0x04000002⟩⟩, .none⟩

/-- The helper of a return, which sets a field of this token. -/
def returnHelper (field : Token) : Body :=
  [.ofOpcode .ldarg_0, .ofOpcode .ldc_i4_1, ⟨.stfld, .field ⟨field, "left"⟩⟩, .ofOpcode .ret]

/-- A return does not depend on the field that its helper sets. -/
theorem identify_one_hop_returnHandler :
    let S := BodyStore.ofList [(⟨0x06000001⟩, returnHelper ⟨0x04000003⟩)]
    let S' := BodyStore.ofList [(⟨0x06000001⟩, returnHelper ⟨0x04000004⟩), (⟨0x06000002⟩, [])]
    (∀ i ∈ (returnHandler "Leave").body, ∀ m, i.callee? = some m →
      (S.get? m.token).map Body.opcodes = (S'.get? m.token).map Body.opcodes) ∧
    ((Classifier.mk (.widest S.source) true .standard).identify (returnHandler "Leave")).result =
      .ok .ret ∧
    ((Classifier.mk (.widest S'.source) true .standard).identify (returnHandler "Leave")).result =
      .ok .ret := by
  intro S S'
  have hS : ∀ i ∈ (returnHandler "Leave").body, ∀ m, i.callee? = some m →
      (S.get? m.token).map Body.opcodes = (S'.get? m.token).map Body.opcodes := by
    intro i hi m hm
    simp only [returnHandler, List.mem_cons, List.not_mem_nil, or_false] at hi
    rcases hi with rfl | rfl | rfl
    · cases hm
    · obtain rfl := Option.some.inj hm
      rfl
    · cases hm
  have hret : ((Classifier.mk (.widest S.source) true .standard).identify
      (returnHandler "Leave")).result = .ok .ret := by decide +kernel
  refine ⟨hS, hret, ?_⟩
  rw [← hret]
  exact (identify_one_hop (returnHandler "Leave") S S' .standard _ _ rfl rfl hS).symm

end CilRecovery
