import CilRecovery.Classifier.Basic
import CilRecovery.Proofs.Run.Twins

/-!
# Classifying twin candidates

Twins are classified alike if they also agree on the operands that the rules ask about.  A test
qualifies if it captures windows of the handler only, asks for instructions within them, and asks
about operands on which the candidates agree; the standard tests all do, which is checked on the
table.

    twin candidates → a local test agrees on them              (Candidate.Twin.on_eval)
    each rule agrees → so does the first rule that holds       (on_firstRule)
-/

namespace CilRecovery

/-! ## What a test looks at -/

/-- The checks that a test makes of captured instructions. -/
def Test.checks : Test → List Check
  | .both first second | .either first second => first.checks ++ second.checks
  | .negated test => test.checks
  | .captured _ _ checks => checks.map Prod.snd
  | .const _ | .entire _ | .anchored _ _ | .contains _ | .reaches _ | .selects _ _
  | .operandKind _ => []

/-- Whether the test captures windows of the handler itself, and no instruction outside of them. -/
def Test.isLocal : Test → Bool
  | .both first second | .either first second => first.isLocal && second.isLocal
  | .negated test => test.isLocal
  | .captured capture t checks =>
    capture != .reached && checks.all fun k => decide (k.1 < t.length)
  | .const _ | .entire _ | .anchored _ _ | .contains _ | .reaches _ | .selects _ _
  | .operandKind _ => true

/-- Whether the test asks for the declared kind of operand only if `t` is the whole handler. -/
def Test.asksKindOf (t : Template) : Test → Bool
  | .both first second => first == .entire t || first.asksKindOf t && second.asksKindOf t
  | .either first second => first.asksKindOf t && second.asksKindOf t
  | .negated test => test.asksKindOf t
  | .operandKind _ => false
  | .const _ | .entire _ | .anchored _ _ | .contains _ | .reaches _ | .selects _ _
  | .captured _ _ _ => true

/-- Whether the check has one answer for both operands; what a callee holds is left out. -/
def Check.SameOn (c c' : Candidate) (i i' : Instruction) : Check → Prop
  | .refersTo store =>
    i.refersTo c.instruction.storage store = i'.refersTo c'.instruction.storage store
  | .returns type => i.returns type = i'.returns type
  | .isNamed fragment => i.isNamed fragment = i'.isNamed fragment
  | .occurs _ | .occursOnce _ | .isCallee _ => True

/-- The candidates declare one kind of operand, or the test asks for it only of another handler. -/
def Test.SameKind (c c' : Candidate) (test : Test) : Prop :=
  c.instruction.operandKind = c'.instruction.operandKind ∨
    ∃ t, t.accepts c.opcodes = false ∧ test.asksKindOf t = true

/-- Candidates of one reach whose instructions are twins and agree on the checks asked for. -/
structure Candidate.Twin (g : Agreement) (asked : Check → Prop) (c c' : Candidate) : Prop where
  reach : c.scope.reach = c'.scope.reach
  instructions : List.Forall₂ (Instruction.Twin g c.scope c'.scope) c.body c'.body
  operands : List.Forall₂ (fun i i' => ∀ k, asked k → k.SameOn c c' i i') c.body c'.body

variable {g : Agreement} {asked : Check → Prop} {c c' : Candidate}

namespace Test.SameKind

theorem of_either {first second : Test} (h : (Test.either first second).SameKind c c') :
    first.SameKind c c' ∧ second.SameKind c c' := by
  rcases h with h | ⟨t, ha, ht⟩
  · exact ⟨.inl h, .inl h⟩
  · simp only [Test.asksKindOf, Bool.and_eq_true] at ht
    exact ⟨.inr ⟨t, ha, ht.1⟩, .inr ⟨t, ha, ht.2⟩⟩

theorem cases_both {first second : Test} (h : (Test.both first second).SameKind c c') :
    first.SameKind c c' ∧ second.SameKind c c' ∨
      ∃ t, first = .entire t ∧ t.accepts c.opcodes = false := by
  rcases h with h | ⟨t, ha, ht⟩
  · exact .inl ⟨.inl h, .inl h⟩
  · simp only [Test.asksKindOf, Bool.or_eq_true, Bool.and_eq_true, beq_iff_eq] at ht
    rcases ht with rfl | ht
    · exact .inr ⟨t, rfl, ha⟩
    · exact .inl ⟨.inr ⟨t, ha, ht.1⟩, .inr ⟨t, ha, ht.2⟩⟩

end Test.SameKind

/-! ## Captured instructions -/

/-- The offset and the length of the window that is captured in the handler itself. -/
def Capture.window? (t : Template) (os : List Opcode) : Capture → Option (Nat × Nat)
  | .entire => if t.accepts os then some (0, os.length) else none
  | .head => if t.isAt os .head then some (0, min t.length os.length) else none
  | .first => (t.offsets os).head?.map fun offset => (offset, t.length)
  | .reached => none

namespace Capture

theorem result_find {capture : Capture} (h : capture ≠ .reached) (t : Template) :
    (capture.find c t).result =
      .ok ((capture.window? t c.opcodes).map fun w => ⟨c.body, w.1, w.2, none⟩) := by
  cases capture with
  | entire =>
    unfold find window?
    cases t.accepts c.opcodes with
    | false => rfl
    | true => simp [Match.whole, Candidate.opcodes, Body.opcodes]
  | head =>
    unfold find window?
    cases t.isAt c.opcodes .head with
    | false => rfl
    | true => simp [Match.head, Candidate.opcodes, Body.opcodes]
  | first =>
    unfold find window? Template.first? Candidate.opcodes
    cases (t.offsets c.body.opcodes).head? <;> rfl
  | reached => exact absurd rfl h

/-- A captured window has the length of the template and lies within the handler. -/
theorem bounds_of_window? {capture : Capture} {t : Template} {os : List Opcode} {w : Nat × Nat}
    (h : capture.window? t os = some w) : w.2 = t.length ∧ w.1 + w.2 ≤ os.length := by
  cases capture with
  | entire =>
    simp only [window?, Option.ite_none_right_eq_some, Option.some.injEq] at h
    obtain ⟨ha, rfl⟩ := h
    exact ⟨Template.length_eq_of_accepts ha, by simp⟩
  | head =>
    simp only [window?, Option.ite_none_right_eq_some, Template.isAt, Bool.and_eq_true,
      Template.leadsSlots_iff, Option.some.injEq] at h
    obtain ⟨⟨-, hl, -⟩, rfl⟩ := h
    have hlen : t.length ≤ os.length := hl
    show min t.length os.length = t.length ∧ 0 + min t.length os.length ≤ os.length
    omega
  | first =>
    simp only [window?, Option.map_eq_some_iff] at h
    obtain ⟨offset, ho, rfl⟩ := h
    exact ⟨rfl, (Template.mem_offsets.1 (List.mem_of_head? ho)).2.1⟩
  | reached => cases h

end Capture

theorem Check.on_eval {i i' : Instruction} (hi : i.Twin g c.scope c'.scope i')
    {check : Check} (hs : check.SameOn c c' i i') :
    g.On (check.eval c i).result (check.eval c' i').result := by
  cases check with
  | refersTo store => exact congrArg Except.ok hs.symm
  | returns type => exact congrArg Except.ok hs.symm
  | isNamed fragment => exact congrArg Except.ok hs.symm
  | occurs t => exact (Scope.on_countInCallee hi t).bind fun n => Agreement.on_pure _
  | occursOnce t => exact (Scope.on_countInCallee hi t).bind fun n => Agreement.on_pure _
  | isCallee t => exact Scope.on_isCallee hi t

theorem Check.sameOn_self (h : c.instruction.storage = c'.instruction.storage) (i : Instruction)
    (check : Check) : check.SameOn c c' i i := by
  cases check with
  | refersTo store =>
    unfold SameOn
    rw [h]
  | returns type => exact rfl
  | isNamed fragment => exact rfl
  | _ => trivial

namespace Candidate.Twin

theorem opcodes_eq (h : c.Twin g asked c') : c.opcodes = c'.opcodes :=
  Body.opcodes_eq_of_twins h.instructions

/-- Twins have instructions at the same positions, and these are twins that answer alike. -/
theorem at_index (h : c.Twin g asked c') (index : Nat) (hlt : index < c.opcodes.length) :
    ∃ i i', c.body[index]? = some i ∧ c'.body[index]? = some i' ∧
      i.Twin g c.scope c'.scope i' ∧ ∀ k, asked k → k.SameOn c c' i i' := by
  have hb : index < c.body.length := by simpa [opcodes, Body.opcodes] using hlt
  have hb' : index < c'.body.length := by rwa [← h.instructions.length_eq]
  exact ⟨c.body[index], c'.body[index], List.getElem?_eq_getElem hb, List.getElem?_eq_getElem hb',
    h.instructions.get hb hb', h.operands.get hb hb'⟩

theorem on_evalAll (h : c.Twin g asked c') {offset length : Nat}
    (hb : offset + length ≤ c.opcodes.length) {checks : List (Nat × Check)}
    (hin : ∀ k ∈ checks, k.1 < length) (hasked : ∀ k ∈ checks, asked k.2) :
    g.On (Check.evalAll c ⟨c.body, offset, length, none⟩ checks).result
      (Check.evalAll c' ⟨c'.body, offset, length, none⟩ checks).result := by
  induction checks with
  | nil => exact Agreement.on_pure true
  | cons k rest ih =>
    obtain ⟨index, check⟩ := k
    have hlt : index < length := hin _ List.mem_cons_self
    obtain ⟨i, i', hi, hi', htwin, hsame⟩ := h.at_index (offset + index) (by omega)
    have hget : Match.get ⟨c.body, offset, length, none⟩ index = .ok i :=
      Match.get_eq_ok_iff.2 ⟨hlt, hi⟩
    have hget' : Match.get ⟨c'.body, offset, length, none⟩ index = .ok i' :=
      Match.get_eq_ok_iff.2 ⟨hlt, hi'⟩
    unfold Check.evalAll
    rw [hget, hget', Traced.bind_of_ok (Traced.result_ofExcept (.ok i)),
      Traced.bind_of_ok (Traced.result_ofExcept (.ok i'))]
    refine (Check.on_eval htwin (hsame check (hasked _ List.mem_cons_self))).bind fun b => ?_
    cases b with
    | false => exact Agreement.on_pure false
    | true =>
      exact ih (fun k hk => hin k (List.mem_cons_of_mem _ hk))
        fun k hk => hasked k (List.mem_cons_of_mem _ hk)

/-- One handler in two scopes that decode its callees alike. -/
theorem of_decodeAlike {v : VirtualInstruction} {sc sc' : Scope} (hr : sc.reach = sc'.reach)
    (h : ∀ i ∈ v.body, ∀ m, i.callee? = some m → DecodeAlike g sc sc' m m) :
    (Candidate.mk v sc).Twin g (fun _ => True) ⟨v, sc'⟩ := by
  refine ⟨hr, List.forall₂_same.2 fun i hi => ⟨rfl, ?_⟩,
    List.forall₂_same.2 fun i _ check _ => Check.sameOn_self rfl i check⟩
  cases hm : i.callee? with
  | none => exact .none
  | some m => exact .some (h i hi m hm)

/-- A candidate is its own twin, and what may fail is to decode one of its callees. -/
theorem of_failing {p : Error → Prop}
    (h : ∀ i ∈ c.body, ∀ m, i.callee? = some m → ∀ e, c.scope.source m = .error e → p e) :
    c.Twin (.failing p) (fun _ => True) c := by
  refine .of_decodeAlike rfl fun i hi m hm => ?_
  show Agreement.On _ (Body.opcodes <$> c.scope.source m) (Body.opcodes <$> c.scope.source m)
  cases hs : c.scope.source m with
  | ok b => exact Agreement.on_ok b.opcodes
  | error e => exact Agreement.on_error (h i hi m hm e hs)

/-! ## Tests -/

/-- A test gives twins the same answer, or fails on both, if it is local, asks about operands on
which they agree, and asks for the kind of operand only where that is the same. -/
theorem on_eval (h : c.Twin g asked c') {test : Test} (hl : test.isLocal = true)
    (hasked : ∀ k ∈ test.checks, asked k)
    (hkind : test.SameKind c c') : g.On (test.eval c).result (test.eval c').result := by
  induction test with
  | const value => exact Agreement.on_pure value
  | entire t =>
    unfold Test.eval
    rw [h.opcodes_eq]
    exact Agreement.on_pure _
  | anchored t anchor =>
    unfold Test.eval
    rw [h.opcodes_eq]
    exact Agreement.on_pure _
  | contains t =>
    unfold Test.eval
    rw [h.opcodes_eq]
    exact Agreement.on_pure _
  | reaches t => exact Scope.on_reaches h.reach h.instructions t
  | selects flags t => exact Scope.on_selects h.reach h.instructions t flags
  | operandKind kind =>
    rcases hkind with hkind | ⟨t, -, ht⟩
    · unfold Test.eval
      rw [hkind]
      exact Agreement.on_pure _
    · cases ht
  | both first second ih₁ ih₂ =>
    simp only [Test.isLocal, Bool.and_eq_true] at hl
    simp only [Test.checks, List.mem_append] at hasked
    unfold Test.eval
    -- a first part that is false on both keeps the second from asking for the kind
    rcases hkind.cases_both with ⟨hk₁, hk₂⟩ | ⟨t, rfl, ht⟩
    · refine (ih₁ hl.1 (fun k hk => hasked k (.inl hk)) hk₁).bind fun b => ?_
      cases b with
      | false => exact Agreement.on_pure false
      | true => exact ih₂ hl.2 (fun k hk => hasked k (.inr hk)) hk₂
    · unfold Test.eval
      rw [← h.opcodes_eq, ht]
      exact Agreement.on_pure false
  | either first second ih₁ ih₂ =>
    simp only [Test.isLocal, Bool.and_eq_true] at hl
    simp only [Test.checks, List.mem_append] at hasked
    obtain ⟨hk₁, hk₂⟩ := hkind.of_either
    unfold Test.eval
    refine (ih₁ hl.1 (fun k hk => hasked k (.inl hk)) hk₁).bind fun b => ?_
    cases b with
    | false => exact ih₂ hl.2 (fun k hk => hasked k (.inr hk)) hk₂
    | true => exact Agreement.on_pure true
  | negated test ih =>
    unfold Test.eval
    exact (ih hl hasked hkind).bind fun b => Agreement.on_pure _
  | captured capture t checks =>
    simp only [Test.isLocal, Bool.and_eq_true, bne_iff_ne, List.all_eq_true,
      decide_eq_true_eq] at hl
    unfold Test.eval
    rw [Traced.bind_of_ok (Capture.result_find hl.1 t),
      Traced.bind_of_ok (Capture.result_find hl.1 t), ← h.opcodes_eq]
    cases hw : capture.window? t c.opcodes with
    | none => exact Agreement.on_pure false
    | some w =>
      obtain ⟨hlen, hb⟩ := Capture.bounds_of_window? hw
      refine h.on_evalAll hb (fun k hk => ?_) fun k hk => hasked _ (List.mem_map_of_mem hk)
      rw [hlen]
      exact hl.2 k hk

end Candidate.Twin

/-! ## Rules -/

/-- Rules that agree one by one lead to results that agree. -/
theorem on_firstRule (allowUncertain : Bool)
    (hunknown : g.matched (.unknownOperation c.instruction) (.unknownOperation c'.instruction))
    {rules : List Rule}
    (h : ∀ r ∈ rules, g.On (r.holds c).result (r.holds c').result) :
    g.On (firstRule allowUncertain c rules).result (firstRule allowUncertain c' rules).result := by
  induction rules with
  | nil =>
    unfold firstRule
    exact (Agreement.on_report _ _).bind fun _ => Agreement.on_error hunknown
  | cons r rest ih =>
    have hrest := ih fun r hr => h r (List.mem_cons_of_mem _ hr)
    unfold firstRule
    cases r.admitted allowUncertain with
    | false => exact hrest
    | true =>
      refine (Agreement.on_report _ _).bind fun _ => (h r List.mem_cons_self).bind fun b => ?_
      cases b with
      | false => exact hrest
      | true => exact (Agreement.on_report _ _).bind fun _ => Agreement.on_pure r

/-! ## The standard table -/

namespace Signature

theorem all_isLocal_standard : (standard.all fun s => s.test.isLocal) = true := by
  decide +kernel

theorem isLocal_of_mem {s : Signature} (hs : s ∈ standard) : s.test.isLocal = true :=
  List.all_eq_true.1 all_isLocal_standard s hs

theorem all_asksKindOf_standard :
    (standard.all fun s => s.test.asksKindOf Shape.operandLoad) = true := by
  decide +kernel

/-- Handlers that are not a load of the operand need not declare the same kind of operand. -/
theorem sameKind_of_mem {s : Signature} (hs : s ∈ standard)
    (h : c.instruction.operandKind = c'.instruction.operandKind ∨
      Shape.operandLoad.accepts c.opcodes = false) : s.test.SameKind c c' :=
  h.imp_right fun h => ⟨Shape.operandLoad, h, List.all_eq_true.1 all_asksKindOf_standard s hs⟩

end Signature

/-- The standard table classifies twins alike. -/
theorem on_identify_standard {v v' : VirtualInstruction} {sc sc' : Scope} (allowUncertain : Bool)
    (h : (Candidate.mk v sc).Twin g asked ⟨v', sc'⟩)
    (hunknown : g.matched (.unknownOperation v) (.unknownOperation v'))
    (hasked : ∀ s ∈ Signature.standard, ∀ k ∈ s.test.checks, asked k)
    (hkind : v.operandKind = v'.operandKind ∨
      Shape.operandLoad.accepts v.body.opcodes = false) :
    g.On ((Classifier.mk sc allowUncertain .standard).identify v).result
      ((Classifier.mk sc' allowUncertain .standard).identify v').result := by
  unfold Classifier.identify
  rw [Traced.result_map, Traced.result_map]
  refine Agreement.On.map (on_firstRule allowUncertain hunknown fun r hr => ?_) Rule.label
  obtain ⟨s, hs, rfl⟩ := List.mem_map.1 hr
  exact h.on_eval (Signature.isLocal_of_mem hs) (hasked s hs) (Signature.sameKind_of_mem hs hkind)

end CilRecovery
