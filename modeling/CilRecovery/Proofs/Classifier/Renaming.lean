import CilRecovery.Proofs.Body.Renaming
import CilRecovery.Proofs.Classifier.Locality

/-!
# Tokens as identities

The value of a token means nothing beyond what it is a token of: fields are compared by their
tokens, bodies are looked up by them, and only the table of a method is read.  So a handler and the
bodies of its callees can be renamed together:

    a handler and its renaming are twins, each over its own store            (twin_rename)
    their classifications correspond                                         (identify_rename)
-/

namespace CilRecovery

variable (ρ : Token.Renaming)

/-- Failures that give back the handler before and after, or that name one method before and
after. -/
def renamedFailure (v : VirtualInstruction) : Agreement where
  waived _ := False
  matched e e' := e = .unknownOperation v ∧ e' = .unknownOperation (v.rename ρ) ∨
    ∃ token reason, e = .bodyUnavailable token reason ∧ e' = .bodyUnavailable (ρ token) reason

/-- A renamed method has the renamed body, or is reported under its new token. -/
theorem BodyStore.decodeAlike_rename (v : VirtualInstruction) (S : BodyStore) (reach : Reach)
    (m : MethodRef) :
    DecodeAlike (renamedFailure ρ v) ⟨S.source, reach⟩ ⟨(S.rename ρ).source, reach⟩ m
      (m.rename ρ) := by
  have hget : (S.rename ρ).get? (m.rename ρ).token = (S.get? m.token).map (Body.rename ρ) :=
    S.get?_rename ρ m.token
  refine decodeAlike ?_ fun e e' he he' => .inr ?_
  · rw [hget, Option.map_map]
    congr 1
    exact funext fun b => (b.opcodes_rename ρ).symm
  · obtain ⟨-, rfl⟩ := source_eq_error.1 he
    obtain ⟨-, rfl⟩ := source_eq_error.1 he'
    exact ⟨m.token, _, rfl, rfl⟩

theorem Check.sameOn_rename (v : VirtualInstruction) (sc sc' : Scope) (i : Instruction)
    (check : Check) : check.SameOn ⟨v, sc⟩ ⟨v.rename ρ, sc'⟩ i (i.rename ρ) := by
  cases check with
  | refersTo store => exact (i.refersTo_rename ρ v.storage store).symm
  | returns type => exact (i.returns_rename ρ type).symm
  | isNamed fragment => exact (i.isNamed_rename ρ fragment).symm
  | _ => trivial

theorem Candidate.twin_rename (v : VirtualInstruction) (S : BodyStore) (reach : Reach) :
    (Candidate.mk v ⟨S.source, reach⟩).Twin (renamedFailure ρ v) (fun _ => True)
      ⟨v.rename ρ, ⟨(S.rename ρ).source, reach⟩⟩ := by
  refine ⟨rfl, ?_, ?_⟩
  · refine List.forall₂_map_right_iff.2 (List.forall₂_same.2 fun i _ => ⟨rfl, ?_⟩)
    rw [i.callee?_rename ρ]
    cases i.callee? with
    | none => exact .none
    | some m => exact .some (S.decodeAlike_rename ρ v reach m)
  · exact List.forall₂_map_right_iff.2 (List.forall₂_same.2 fun i _ check _ =>
      check.sameOn_rename ρ v _ _ i)

/-- **Tokens are identities.**  If a handler and the bodies that it can call are renamed together,
the same operation is recovered, or it stays unknown, or the method without a body is the one
renamed. -/
theorem identify_rename (v : VirtualInstruction) (S : BodyStore) (config : Config)
    (k k' : Classifier) (hk : Classifier.ofConfig S.source config .standard = .ok k)
    (hk' : Classifier.ofConfig (S.rename ρ).source config .standard = .ok k') :
    (∃ op, (k.identify v).result = .ok op ∧ (k'.identify (v.rename ρ)).result = .ok op) ∨
    ((k.identify v).result = .error (.unknownOperation v) ∧
      (k'.identify (v.rename ρ)).result = .error (.unknownOperation (v.rename ρ))) ∨
    ∃ token reason, (k.identify v).result = .error (.bodyUnavailable token reason) ∧
      (k'.identify (v.rename ρ)).result = .error (.bodyUnavailable (ρ token) reason) := by
  obtain ⟨reach, rfl, rfl⟩ := Classifier.exists_reach_of_ofConfig hk hk'
  have hon := on_identify_standard config.allowUncertain (Candidate.twin_rename ρ v S reach)
    (.inl ⟨rfl, rfl⟩) (fun _ _ _ _ => trivial) (.inl rfl)
  rcases hon.cases fun _ _ => id with
    ⟨op, h, h'⟩ | ⟨e, e', h, h', ⟨rfl, rfl⟩ | ⟨token, reason, rfl, rfl⟩⟩
  · exact .inl ⟨op, h, h'⟩
  · exact .inr (.inl ⟨h, h'⟩)
  · exact .inr (.inr ⟨token, reason, h, h'⟩)

/-- The helper of a return changes places with another method: the return is found there, and if
the helper is missing it is missed there. -/
theorem identify_rename_returnHandler :
    let ρ := Token.Renaming.swap ⟨0x06000001⟩ ⟨0x06000002⟩ rfl
    let S := BodyStore.ofList [(⟨0x06000001⟩, returnHelper ⟨0x04000003⟩)]
    let identify := fun (bodies : BodyStore) (v : VirtualInstruction) =>
      ((Classifier.mk (.widest bodies.source) true .standard).identify v).result
    (S.rename ρ).get? ⟨0x06000001⟩ = none ∧
    identify S (returnHandler "Leave") = .ok .ret ∧
    identify (S.rename ρ) ((returnHandler "Leave").rename ρ) = .ok .ret ∧
    identify .empty (returnHandler "Leave") =
      .error (.bodyUnavailable ⟨0x06000001⟩ "no decoded body for Leave") ∧
    identify (BodyStore.empty.rename ρ) ((returnHandler "Leave").rename ρ) =
      .error (.bodyUnavailable ⟨0x06000002⟩ "no decoded body for Leave") := by
  intro ρ S identify
  have hret : identify S (returnHandler "Leave") = .ok .ret := by decide +kernel
  have hmissing : identify .empty (returnHandler "Leave") =
      .error (.bodyUnavailable ⟨0x06000001⟩ "no decoded body for Leave") := by decide +kernel
  refine ⟨by decide +kernel, hret, ?_, hmissing, ?_⟩
  · rcases identify_rename ρ (returnHandler "Leave") S .standard _ _ rfl rfl with
      ⟨op, h, h'⟩ | ⟨h, -⟩ | ⟨token, reason, h, -⟩
    · obtain rfl := Except.ok.inj (h.symm.trans hret)
      exact h'
    · cases h.symm.trans hret
    · cases h.symm.trans hret
  · rcases identify_rename ρ (returnHandler "Leave") .empty .standard _ _ rfl rfl with
      ⟨op, h, -⟩ | ⟨h, -⟩ | ⟨token, reason, h, h'⟩
    · cases h.symm.trans hmissing
    · cases h.symm.trans hmissing
    · obtain ⟨rfl, rfl⟩ := Error.bodyUnavailable.inj (Except.error.inj (h.symm.trans hmissing))
      exact h'

end CilRecovery
