import CilRecovery.Proofs.Search.Helpers
import CilRecovery.Registry.Test

/-!
# Evidence

A test that holds leaves evidence: facts about the candidate that are read off the test without
evaluating it.  Two pieces of evidence clash if no candidate can show both, which is again decided
on the data alone.  So two tests whose evidence clashes never hold together.

    test.eval c = ok true → e ∈ test.evidence → e.Holds c                    (holds_of_mem_evidence)
    a.conflicts b → a and b do not both hold, if arguments ≠ locals          (not_both_of_conflicts)
-/

namespace CilRecovery

/-! ## Shapes of concrete templates -/

/-- The opcodes of the fixed slots. -/
def Template.opcodes (t : Template) : List Opcode :=
  t.slots.filterMap fun
    | .exact o => some o
    | .hole _ => none

namespace Template

theorem opcodes_of_accepts {t : Template} {os : List Opcode} (h : t.accepts os = true) :
    t.opcodes = os := by
  rw [accepts_iff] at h
  unfold opcodes
  rw [h, List.filterMap_map]
  exact List.filterMap_some

theorem eq_of_accepts {s t : Template} {os : List Opcode} (hs : s.accepts os = true)
    (ht : t.accepts os = true) : s = t := by
  rw [accepts_iff] at hs ht
  obtain ⟨ss⟩ := s
  obtain ⟨ts⟩ := t
  exact congrArg Template.mk (hs.trans ht.symm)

/-- Templates of one length that stand at the head of the same opcodes are one template. -/
theorem eq_of_isAt_head {s t : Template} {os : List Opcode} (hl : s.length = t.length)
    (hs : s.isAt os .head = true) (ht : t.isAt os .head = true) : s = t := by
  simp only [isAt, Bool.and_eq_true, leadsSlots_iff] at hs ht
  have hslots : t.accepts (os.take s.length) = true := by
    rw [hl]
    exact ht.2.2
  exact eq_of_accepts hs.2.2 hslots

end Template

/-! ## Evidence of a test -/

/-- A fact about a candidate that a test cannot hold without. -/
inductive Evidence where
  /-- The template is the whole handler. -/
  | shape (t : Template)
  /-- The template stands at an end of the handler. -/
  | anchored (t : Template) (anchor : Anchor)
  /-- The template occurs in the handler. -/
  | window (t : Template)
  /-- The template occurs in the handler or in one of its helpers. -/
  | reached (t : Template)
  /-- The helpers that hold the template are called with these flags and no others. -/
  | selected (t : Template) (flags : List Bool)
  /-- The declared operand has this kind. -/
  | declared (kind : OperandKind)
  /-- The check holds of an instruction of the match. -/
  | operand (capture : Capture) (t : Template) (index : Nat) (check : Check)

/-- What the evidence says of a candidate. -/
def Evidence.Holds (c : Candidate) : Evidence → Prop
  | .shape t => t.accepts c.opcodes = true
  | .anchored t anchor => t.isAt c.opcodes anchor = true
  | .window t => t.occursIn c.opcodes = true
  | .reached t => t.occursIn c.opcodes = true ∨
      ∃ b, c.scope.IsHelper c.body b ∧ t.occursIn b.opcodes = true
  | .selected t flags => (c.scope.selects t flags c.body).result = .ok true
  | .declared kind => c.instruction.operandKind = kind
  | .operand capture t index check => ∃ m i, (capture.find c t).result = .ok (some m) ∧
      m.get index = .ok i ∧ (check.eval c i).result = .ok true

/-- The evidence that a match was captured. -/
def Capture.evidence (t : Template) : Capture → List Evidence
  | .entire => [.shape t]
  | .head => [.anchored t .head]
  | .first => [.window t]
  | .reached => [.reached t]

/-- The evidence that a test leaves if it holds. -/
def Test.evidence : Test → List Evidence
  | .entire t => [.shape t]
  | .anchored t anchor => [.anchored t anchor]
  | .contains t => [.window t]
  | .reaches t => [.reached t]
  | .selects flags t => [.selected t flags]
  | .operandKind kind => [.declared kind]
  | .both first second => first.evidence ++ second.evidence
  | .captured capture t checks =>
    capture.evidence t ++ checks.map fun k => .operand capture t k.1 k.2
  | .const _ | .either _ _ | .negated _ => []

/-! ## Soundness -/

variable {c : Candidate}

theorem Capture.holds_of_mem_evidence {capture : Capture} {t : Template} {m : Match}
    (h : (capture.find c t).result = .ok (some m)) : ∀ e ∈ capture.evidence t, e.Holds c := by
  cases capture with
  | entire =>
    simp only [find, Traced.result_pure, Except.ok.injEq, Option.ite_none_right_eq_some] at h
    simpa [evidence, Evidence.Holds] using h.1
  | head =>
    simp only [find, Traced.result_pure, Except.ok.injEq, Option.ite_none_right_eq_some] at h
    simpa [evidence, Evidence.Holds] using h.1
  | first =>
    simp only [find, Traced.result_pure, Except.ok.injEq] at h
    have hw : t.occursIn c.opcodes = true := by
      rw [Candidate.opcodes, ← Template.isSome_first?, h]
      rfl
    simpa [evidence, Evidence.Holds] using hw
  | reached => exact List.forall_mem_singleton.2 (Scope.occursIn_or_helper_of_find h)

/-- Checks that all hold have each been made of an instruction of the match. -/
theorem Check.eval_of_evalAll {m : Match} {checks : List (Nat × Check)}
    (h : (Check.evalAll c m checks).result = .ok true) :
    ∀ k ∈ checks, ∃ i, m.get k.1 = .ok i ∧ (k.2.eval c i).result = .ok true := by
  induction checks with
  | nil => simp
  | cons k rest ih =>
    obtain ⟨index, check⟩ := k
    unfold Check.evalAll at h
    obtain ⟨i, hi, h⟩ := Traced.bind_eq_ok.1 h
    obtain ⟨b, hb, h⟩ := Traced.bind_eq_ok.1 h
    cases b with
    | false => simp at h
    | true =>
      intro k hk
      rcases List.mem_cons.1 hk with rfl | hk
      · exact ⟨i, hi, hb⟩
      · exact ih h k hk

/-- A test that holds has its evidence. -/
theorem Test.holds_of_mem_evidence {test : Test} (h : (test.eval c).result = .ok true) :
    ∀ e ∈ test.evidence, e.Holds c := by
  induction test with
  | entire t => simpa [evidence, Evidence.Holds, Test.eval] using h
  | anchored t anchor => simpa [evidence, Evidence.Holds, Test.eval] using h
  | contains t => simpa [evidence, Evidence.Holds, Test.eval] using h
  | reaches t => exact List.forall_mem_singleton.2 (Scope.occursIn_or_helper_of_reaches h)
  | selects flags t => simpa [evidence, Evidence.Holds, Test.eval] using h
  | operandKind kind => simpa [evidence, Evidence.Holds, Test.eval] using h
  | both first second ih₁ ih₂ =>
    unfold Test.eval at h
    obtain ⟨b, hb, h⟩ := Traced.bind_eq_ok.1 h
    cases b with
    | false => simp at h
    | true =>
      intro e he
      rcases List.mem_append.1 he with he | he
      · exact ih₁ hb e he
      · exact ih₂ h e he
  | captured capture t checks =>
    unfold Test.eval at h
    obtain ⟨found, hf, h⟩ := Traced.bind_eq_ok.1 h
    cases found with
    | none => simp at h
    | some m =>
      intro e he
      rcases List.mem_append.1 he with he | he
      · exact Capture.holds_of_mem_evidence hf e he
      · obtain ⟨k, hk, rfl⟩ := List.mem_map.1 he
        obtain ⟨i, hi, hc⟩ := Check.eval_of_evalAll h k hk
        exact ⟨m, i, hf, hi, hc⟩
  | const value => simp [evidence]
  | either first second => simp [evidence]
  | negated test => simp [evidence]

/-! ## Clashes -/

/-- Whether the two checks cannot hold of one instruction, the stores being different fields. -/
def Check.excludes : Check → Check → Bool
  | .returns a, .returns b => a != b
  | .refersTo a, .refersTo b => a != b
  | _, _ => false

/-- Whether no candidate with different fields for its stores can show both. -/
def Evidence.clashes : Evidence → Evidence → Bool
  | .shape s, .shape t => s != t
  | .shape s, .anchored t anchor => !t.isAt s.opcodes anchor
  | .shape s, .window t => !t.occursIn s.opcodes
  | .anchored s .head, .anchored t .head => s.length == t.length && s != t
  | .selected s a, .selected t b => s == t && a.length == b.length && a != b
  | .declared a, .declared b => a != b
  | .operand p s i a, .operand q t j b => p == q && s == t && i == j && a.excludes b
  | _, _ => false

/-- Whether the evidence of the two tests clashes somewhere. -/
def Test.conflicts (a b : Test) : Bool :=
  a.evidence.any fun e => b.evidence.any fun f => e.clashes f || f.clashes e

theorem Instruction.eq_of_returns {i : Instruction} {a b : String} (ha : i.returns a = true)
    (hb : i.returns b = true) : a = b := by
  unfold returns at ha hb
  cases hm : i.method? with
  | none => simp [hm] at ha
  | some m =>
    simp only [hm, beq_iff_eq] at ha hb
    exact ha.symm.trans hb

theorem Instruction.field_eq_of_refersTo {i : Instruction} {fields : StorageFields} {a b : Storage}
    (ha : i.refersTo fields a = true) (hb : i.refersTo fields b = true) :
    fields.field a = fields.field b := by
  unfold refersTo at ha hb
  cases hf : i.field? with
  | none => simp [hf] at ha
  | some f =>
    simp only [hf, beq_iff_eq] at ha hb
    exact ha.symm.trans hb

theorem StorageFields.field_injective {fields : StorageFields}
    (hne : fields.arguments ≠ fields.locals) {a b : Storage}
    (h : fields.field a = fields.field b) : a = b := by
  cases a with
  | arguments =>
    cases b with
    | arguments => rfl
    | locals => exact absurd h hne
  | locals =>
    cases b with
    | arguments => exact absurd h.symm hne
    | locals => rfl

theorem Check.not_both_of_excludes (hne : c.instruction.storage.arguments ≠ c.instruction.storage.locals)
    {a b : Check} {i : Instruction} (h : a.excludes b = true)
    (ha : (a.eval c i).result = .ok true) (hb : (b.eval c i).result = .ok true) : False := by
  cases a with
  | returns s =>
    cases b with
    | returns t =>
      simp only [eval, Traced.result_pure, Except.ok.injEq] at ha hb
      exact bne_iff_ne.1 h (Instruction.eq_of_returns ha hb)
    | _ => simp [excludes] at h
  | refersTo s =>
    cases b with
    | refersTo t =>
      simp only [eval, Traced.result_pure, Except.ok.injEq] at ha hb
      exact bne_iff_ne.1 h (StorageFields.field_injective hne (Instruction.field_eq_of_refersTo ha hb))
    | _ => simp [excludes] at h
  | _ => simp [excludes] at h

/-- The helpers of a template select one list of flags of a given length. -/
theorem Scope.eq_of_selects {sc : Scope} {t : Template} {a b : List Bool} {body : Body}
    (hl : a.length = b.length) (ha : (sc.selects t a body).result = .ok true)
    (hb : (sc.selects t b body).result = .ok true) : a = b := by
  unfold selects at ha hb
  obtain ⟨sites, hs, ha⟩ := Traced.bind_eq_ok.1 ha
  obtain ⟨sites', hs', hb⟩ := Traced.bind_eq_ok.1 hb
  rw [hl, hs'] at hs
  obtain rfl := Except.ok.inj hs
  simp only [Traced.result_pure, Except.ok.injEq, Bool.and_eq_true, List.contains_iff_mem,
    List.all_eq_true, beq_iff_eq] at ha hb
  exact hb.2 a ha.1

theorem Evidence.not_both_of_clashes
    (hne : c.instruction.storage.arguments ≠ c.instruction.storage.locals)
    {e f : Evidence} (h : e.clashes f = true) (he : e.Holds c) (hf : f.Holds c) : False := by
  unfold clashes at h
  split at h
  · exact bne_iff_ne.1 h (Template.eq_of_accepts he hf)
  · rename_i s t anchor
    rw [Template.opcodes_of_accepts he] at h
    have ht : t.isAt c.opcodes anchor = true := hf
    simp [ht] at h
  · rename_i s t
    rw [Template.opcodes_of_accepts he] at h
    have ht : t.occursIn c.opcodes = true := hf
    simp [ht] at h
  · simp only [Bool.and_eq_true, beq_iff_eq, bne_iff_ne] at h
    exact h.2 (Template.eq_of_isAt_head h.1 he hf)
  · simp only [Bool.and_eq_true, beq_iff_eq, bne_iff_ne] at h
    obtain ⟨⟨rfl, hl⟩, hab⟩ := h
    exact hab (Scope.eq_of_selects hl he hf)
  · have hk : _ = _ := Eq.trans (Eq.symm he) hf
    exact bne_iff_ne.1 h hk
  · simp only [Bool.and_eq_true, beq_iff_eq] at h
    obtain ⟨⟨⟨rfl, rfl⟩, rfl⟩, hab⟩ := h
    obtain ⟨m, i, hm, hi, ha⟩ := he
    obtain ⟨m', i', hm', hi', hb⟩ := hf
    obtain rfl : m = m' := Option.some.inj (Except.ok.inj (hm.symm.trans hm'))
    obtain rfl : i = i' := Except.ok.inj (hi.symm.trans hi')
    exact Check.not_both_of_excludes hne hab ha hb
  · simp at h

/-- Tests in conflict never hold together, unless one field keeps both stores. -/
theorem Test.not_both_of_conflicts
    (hne : c.instruction.storage.arguments ≠ c.instruction.storage.locals)
    {a b : Test} (h : a.conflicts b = true) (ha : (a.eval c).result = .ok true)
    (hb : (b.eval c).result = .ok true) : False := by
  unfold conflicts at h
  obtain ⟨e, he, h⟩ := List.any_eq_true.1 h
  obtain ⟨f, hf, h⟩ := List.any_eq_true.1 h
  have hec := Test.holds_of_mem_evidence ha e he
  have hfc := Test.holds_of_mem_evidence hb f hf
  rcases Bool.or_eq_true _ _ ▸ h with h | h
  · exact Evidence.not_both_of_clashes hne h hec hfc
  · exact Evidence.not_both_of_clashes hne h hfc hec

end CilRecovery
