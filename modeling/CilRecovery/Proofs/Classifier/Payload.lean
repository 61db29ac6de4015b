import CilRecovery.Proofs.Classifier.Locality
import CilRecovery.Proofs.Registry.Evidence

/-!
# Names and payloads

An obfuscator is free to rename members and to change integers, types and strings.  The standard
table reads of an operand only which field or method it is, whether the method returns one of three
types, and whether two fragments occur in its name; and it asks for the declared kind of operand
only of the handler that loads the operand.

    bodies alike → one operation, or both unknown, or one method without body     (identify_alike)
-/

namespace CilRecovery

/-- The types that are told apart from others as the return type of a method. -/
def inspectedTypes : List String := [fullIndexType, shortIndexType, "System.String"]

/-- The fragments that are looked for in the name of a method. -/
def inspectedFragments : List String := ["System.Double::IsNaN", "System.Double::IsInfinity"]

/-- Methods of one token that differ in what is not inspected only. -/
structure MethodRef.Alike (m m' : MethodRef) : Prop where
  token : m.token = m'.token
  returnType : m.returnType = m'.returnType ∨
    m.returnType ∉ inspectedTypes ∧ m'.returnType ∉ inspectedTypes
  fullName : ∀ fragment ∈ inspectedFragments,
    Text.contains m.fullName fragment = Text.contains m'.fullName fragment

/-- Whether the operand names neither a field nor a method. -/
def Operand.isPayload : Operand → Bool
  | .none | .integer _ | .type _ | .string _ => true
  | .field _ | .method _ => false

/-- Operands that name one field, or methods that are alike, or no field and no method. -/
inductive Operand.Alike : Operand → Operand → Prop
  | field {f f' : FieldRef} : f.token = f'.token → Alike (.field f) (.field f')
  | method {m m' : MethodRef} : m.Alike m' → Alike (.method m) (.method m')
  | payload {a a' : Operand} : a.isPayload = true → a'.isPayload = true → Alike a a'

/-- Instructions of one opcode whose operands are alike. -/
structure Instruction.Alike (i i' : Instruction) : Prop where
  opcode : i.opcode = i'.opcode
  operand : i.operand.Alike i'.operand

/-- Whether the check is one that asks about nothing but what is inspected. -/
def Check.isInspected : Check → Bool
  | .returns type => inspectedTypes.contains type
  | .isNamed fragment => inspectedFragments.contains fragment
  | .refersTo _ | .occurs _ | .occursOnce _ | .isCallee _ => true

theorem Signature.all_isInspected_standard :
    (standard.all fun s => s.test.checks.all Check.isInspected) = true := by
  decide +kernel

theorem Signature.isInspected_of_mem {s : Signature} (hs : s ∈ standard) :
    ∀ k ∈ s.test.checks, k.isInspected = true :=
  List.all_eq_true.1 (List.all_eq_true.1 all_isInspected_standard s hs)

/-! ## Instructions that are alike -/

theorem MethodRef.Alike.returns_iff {m m' : MethodRef} (h : m.Alike m') {type : String}
    (ht : type ∈ inspectedTypes) : m.returnType = type ↔ m'.returnType = type := by
  rcases h.returnType with hr | ⟨hr, hr'⟩
  · rw [hr]
  · constructor
    · rintro rfl
      exact absurd ht hr
    · rintro rfl
      exact absurd ht hr'

theorem Instruction.members_of_isPayload {i : Instruction} (h : i.operand.isPayload = true) :
    i.field? = none ∧ i.method? = none := by
  unfold field? method?
  cases ho : i.operand with
  | field f =>
    rw [ho] at h
    cases h
  | method m =>
    rw [ho] at h
    cases h
  | _ => exact ⟨rfl, rfl⟩

namespace Instruction.Alike

variable {i i' : Instruction} (h : i.Alike i')

include h

theorem rel_field? : Option.Rel (fun f f' => f.token = f'.token) i.field? i'.field? := by
  obtain ⟨o, a⟩ := i
  obtain ⟨o', a'⟩ := i'
  cases h.operand with
  | field hf => exact .some hf
  | method hm => exact .none
  | payload ha ha' =>
    rw [(members_of_isPayload ha).1, (members_of_isPayload ha').1]
    exact .none

theorem rel_method? : Option.Rel MethodRef.Alike i.method? i'.method? := by
  obtain ⟨o, a⟩ := i
  obtain ⟨o', a'⟩ := i'
  cases h.operand with
  | field hf => exact .none
  | method hm => exact .some hm
  | payload ha ha' =>
    rw [(members_of_isPayload ha).2, (members_of_isPayload ha').2]
    exact .none

theorem rel_callee? : Option.Rel MethodRef.Alike i.callee? i'.callee? := by
  unfold callee?
  have hm := h.rel_method?
  generalize i.method? = o at hm ⊢
  generalize i'.method? = o' at hm ⊢
  cases hm with
  | none => exact .none
  | @some m m' hm =>
    have hd : m.isDefinition = m'.isDefinition := by
      unfold MethodRef.isDefinition
      rw [hm.token]
    rw [Option.filter_some, Option.filter_some, hd]
    cases m'.isDefinition with
    | false => exact .none
    | true => exact .some hm

/-- Instructions that are alike pass the same checks. -/
theorem sameOn {c c' : Candidate} (hs : c.instruction.storage = c'.instruction.storage)
    {check : Check} (hk : check.isInspected = true) : check.SameOn c c' i i' := by
  have hfield := h.rel_field?
  have hmethod := h.rel_method?
  cases check with
  | refersTo store =>
    show i.refersTo c.instruction.storage store = i'.refersTo c'.instruction.storage store
    unfold refersTo
    generalize i.field? = o at hfield ⊢
    generalize i'.field? = o' at hfield ⊢
    cases hfield with
    | none => rfl
    | some hf => simp only [hf, hs]
  | returns type =>
    show i.returns type = i'.returns type
    unfold returns
    generalize i.method? = o at hmethod ⊢
    generalize i'.method? = o' at hmethod ⊢
    cases hmethod with
    | none => rfl
    | some hm =>
      rw [Bool.eq_iff_iff]
      simp only [beq_iff_eq]
      exact hm.returns_iff (List.contains_iff_mem.1 hk)
  | isNamed fragment =>
    show i.isNamed fragment = i'.isNamed fragment
    unfold isNamed
    generalize i.method? = o at hmethod ⊢
    generalize i'.method? = o' at hmethod ⊢
    cases hmethod with
    | none => rfl
    | some hm => exact hm.fullName fragment (List.contains_iff_mem.1 hk)
  | _ => trivial

end Instruction.Alike

/-! ## Classification -/

/-- Failures that give back the two instructions, or that name one method. -/
def sameFailure (v v' : VirtualInstruction) : Agreement where
  waived _ := False
  matched e e' := e = .unknownOperation v ∧ e' = .unknownOperation v' ∨
    ∃ token reason reason', e = .bodyUnavailable token reason ∧ e' = .bodyUnavailable token reason'

theorem BodyStore.decodeAlike_of_token {v v' : VirtualInstruction} {bodies : BodyStore}
    {reach : Reach} {m m' : MethodRef} (h : m.token = m'.token) :
    DecodeAlike (sameFailure v v') ⟨bodies.source, reach⟩ ⟨bodies.source, reach⟩ m m' := by
  refine decodeAlike (by rw [h]) fun e e' he he' => .inr ?_
  obtain ⟨-, rfl⟩ := source_eq_error.1 he
  obtain ⟨-, rfl⟩ := source_eq_error.1 he'
  rw [h]
  exact ⟨m'.token, _, _, rfl, rfl⟩

theorem Candidate.twin_of_alike {v v' : VirtualInstruction} (bodies : BodyStore) (reach : Reach)
    (hs : v.storage = v'.storage) (hb : List.Forall₂ Instruction.Alike v.body v'.body) :
    (Candidate.mk v ⟨bodies.source, reach⟩).Twin (sameFailure v v')
      (fun check => check.isInspected = true) ⟨v', ⟨bodies.source, reach⟩⟩ := by
  have hcheck : List.Forall₂ (fun i i' => ∀ check, Check.isInspected check = true →
      check.SameOn ⟨v, ⟨bodies.source, reach⟩⟩ ⟨v', ⟨bodies.source, reach⟩⟩ i i') v.body v'.body := by
    apply hb.imp
    intro i i' hi check hk
    refine hi.sameOn ?_ hk
    exact hs
  refine ⟨rfl, hb.imp fun i i' hi => ⟨hi.opcode, ?_⟩, hcheck⟩
  have hc := hi.rel_callee?
  generalize i.callee? = o at hc ⊢
  generalize i'.callee? = o' at hc ⊢
  cases hc with
  | none => exact .none
  | some hm => exact .some (BodyStore.decodeAlike_of_token hm.token)

/-- **Names and payloads.**  Virtual instructions that are alike position by position are recovered
as one operation, or both are unknown, or both call one method whose body cannot be had. -/
theorem identify_alike (v v' : VirtualInstruction) (bodies : BodyStore) (config : Config)
    (k : Classifier) (hk : Classifier.ofConfig bodies.source config .standard = .ok k)
    (hs : v.storage = v'.storage) (hb : List.Forall₂ Instruction.Alike v.body v'.body)
    (hkind : v.operandKind = v'.operandKind ∨
      v.body.opcodes ≠ [.ldarg_0, .ldarg_1, .call, .ret]) :
    (∃ op, (k.identify v).result = .ok op ∧ (k.identify v').result = .ok op) ∨
    ((k.identify v).result = .error (.unknownOperation v) ∧
      (k.identify v').result = .error (.unknownOperation v')) ∨
    ∃ token reason reason', (k.identify v).result = .error (.bodyUnavailable token reason) ∧
      (k.identify v').result = .error (.bodyUnavailable token reason') := by
  obtain ⟨reach, -, rfl⟩ := Classifier.ofConfig_eq_ok_iff.1 hk
  have hload : v.operandKind = v'.operandKind ∨
      Shape.operandLoad.accepts v.body.opcodes = false := by
    refine hkind.imp_right fun hne => Bool.eq_false_iff.2 fun ha => hne ?_
    exact (Template.opcodes_of_accepts ha).symm
  have hon := on_identify_standard config.allowUncertain
    (Candidate.twin_of_alike bodies reach hs hb) (.inl ⟨rfl, rfl⟩)
    (fun s hs => Signature.isInspected_of_mem hs) hload
  cases hr : ((Classifier.mk ⟨bodies.source, reach⟩ config.allowUncertain .standard).identify
    v).result with
  | ok op =>
    rw [hr] at hon
    exact .inl ⟨op, rfl, hon⟩
  | error e =>
    rw [hr] at hon
    rcases hon with hw | ⟨e', hr', ⟨rfl, rfl⟩ | ⟨token, reason, reason', rfl, rfl⟩⟩
    · exact absurd hw id
    · exact .inr (.inl ⟨rfl, hr'⟩)
    · exact .inr (.inr ⟨token, reason, reason', rfl, hr'⟩)

/-- A return is found under any name of its helper. -/
theorem identify_alike_returnHandler :
    let k := Classifier.mk (.widest (BodyStore.ofList
      [(⟨0x06000001⟩, returnHelper ⟨0x04000003⟩)]).source) true .standard
    List.Forall₂ Instruction.Alike (returnHandler "Leave").body (returnHandler "a").body ∧
    (k.identify (returnHandler "Leave")).result = .ok .ret ∧
    (k.identify (returnHandler "a")).result = .ok .ret := by
  intro k
  have hb : List.Forall₂ Instruction.Alike (returnHandler "Leave").body (returnHandler "a").body := by
    refine .cons ⟨rfl, .payload rfl rfl⟩ (.cons ⟨rfl, .method ⟨rfl, .inl rfl, ?_⟩⟩
      (.cons ⟨rfl, .payload rfl rfl⟩ .nil))
    decide
  have hret : (k.identify (returnHandler "Leave")).result = .ok .ret := by decide +kernel
  rcases identify_alike (returnHandler "Leave") (returnHandler "a") _ .standard k rfl rfl hb (.inl rfl)
    with ⟨op, h, h'⟩ | ⟨h, -⟩ | ⟨token, reason, reason', h, -⟩
  · obtain rfl := Except.ok.inj (h.symm.trans hret)
    exact ⟨hb, hret, h'⟩
  · rw [hret] at h
    cases h
  · rw [hret] at h
    cases h

end CilRecovery
