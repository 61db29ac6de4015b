import CilRecovery.Proofs.Classifier.FirstMatch
import CilRecovery.Proofs.Decision.FlagFamilies
import CilRecovery.Proofs.Registry.Recognition

/-!
# What is decoded without a hop

Without a hop no search leaves the handler, so no flags are found and no window in a helper.  Yet a
check of a captured call decodes the method that the call names, whatever the reach is.  Which calls
these are is read off the tests: each has a fixed position in a window of the handler.  Two sources
that agree on the methods called there cannot be told apart.

    sources agree on the inspected calls → a local test runs alike       (eval_eq_of_inspections)
    … on those of the standard table → so does the classification
                                                              (identify_eq_of_looksInto)
    a failure is that of an inspected call, and no flags select an operation
                                                              (identify_without_hop)
-/

namespace CilRecovery

/-! ## Inspected calls -/

/-- Whether the check looks into the callee of its instruction. -/
def Check.inspects : Check → Bool
  | .occurs _ | .occursOnce _ | .isCallee _ => true
  | .refersTo _ | .returns _ | .isNamed _ => false

/-- A position of a captured window at which a callee is looked into. -/
structure Inspection where
  capture : Capture
  template : Template
  index : Nat
deriving DecidableEq

/-- The position in the handler, if it has the window. -/
def Inspection.position? (n : Inspection) (os : List Opcode) : Option Nat :=
  (n.capture.window? n.template os).map fun w => w.1 + n.index

/-- Where the checks of a test look into callees. -/
def Test.inspections : Test → List Inspection
  | .both first second | .either first second => first.inspections ++ second.inspections
  | .negated test => test.inspections
  | .captured capture t checks =>
    (checks.filter fun k => k.2.inspects).map fun k => ⟨capture, t, k.1⟩
  | .const _ | .entire _ | .anchored _ _ | .contains _ | .reaches _ | .selects _ _
  | .operandKind _ => []

/-- The sources have the same body, or failure, for the callees at the inspected positions. -/
def Inspection.Agrees (source source' : BodySource) (body : Body) (n : Inspection) : Prop :=
  ∀ index m, n.position? body.opcodes = some index → body.calleeAt index = some m →
    source m = source' m

/-! ## Tests -/

section
variable {source source' : BodySource} {v : VirtualInstruction} {reach : Reach}

theorem Capture.find_eq_pure {c : Candidate} {capture : Capture} (h : capture ≠ .reached)
    (t : Template) : capture.find c t =
      pure ((capture.window? t c.opcodes).map fun w => ⟨c.body, w.1, w.2, none⟩) := by
  refine Traced.ext ?_ (Capture.result_find h t)
  cases capture with
  | reached => exact absurd rfl h
  | _ => rfl

/-- A check sees no more of the source than the body of the callee that it inspects. -/
theorem Check.eval_eq_of_callee {i : Instruction} {check : Check}
    (h : check.inspects = true → ∀ m, i.callee? = some m → source m = source' m) :
    check.eval ⟨v, ⟨source, reach⟩⟩ i = check.eval ⟨v, ⟨source', reach⟩⟩ i := by
  have hdecode : check.inspects = true → ∀ m, i.callee? = some m →
      Scope.decode ⟨source, reach⟩ m = Scope.decode ⟨source', reach⟩ m := by
    intro hc m hm
    simp only [Scope.decode, h hc m hm]
  have hcount : check.inspects = true → ∀ t,
      Scope.countInCallee ⟨source, reach⟩ t i = Scope.countInCallee ⟨source', reach⟩ t i := by
    intro hc t
    unfold Scope.countInCallee Scope.countIn
    cases hm : i.callee? with
    | none => rfl
    | some m => simp only [hdecode hc m hm]
  cases check with
  | refersTo store => rfl
  | returns type => rfl
  | isNamed fragment => rfl
  | occurs t => simp only [eval, Scope.occursInCallee, hcount rfl]
  | occursOnce t => simp only [eval, Scope.occursOnceInCallee, hcount rfl]
  | isCallee t =>
    unfold eval Scope.isCallee Scope.entireIn
    cases hm : i.callee? with
    | none => rfl
    | some m => simp only [hdecode rfl m hm]

theorem Check.evalAll_eq_of_callee {offset length : Nat} {checks : List (Nat × Check)}
    (h : ∀ k ∈ checks, k.2.inspects = true → ∀ m, v.body.calleeAt (offset + k.1) = some m →
      source m = source' m) :
    evalAll ⟨v, ⟨source, reach⟩⟩ ⟨v.body, offset, length, none⟩ checks =
      evalAll ⟨v, ⟨source', reach⟩⟩ ⟨v.body, offset, length, none⟩ checks := by
  induction checks with
  | nil => rfl
  | cons k rest ih =>
    obtain ⟨index, check⟩ := k
    have hrest := ih fun k hk => h k (List.mem_cons_of_mem _ hk)
    unfold evalAll
    cases hget : Match.get ⟨v.body, offset, length, none⟩ index with
    | error e => rfl
    | ok i =>
      have hcheck : check.eval ⟨v, ⟨source, reach⟩⟩ i = check.eval ⟨v, ⟨source', reach⟩⟩ i := by
        refine eval_eq_of_callee fun hc m hm => h _ List.mem_cons_self hc m ?_
        exact Body.calleeAt_eq_some_iff.2 ⟨i, (Match.get_eq_ok_iff.1 hget).2, hm⟩
      rw [Traced.ofExcept_ok, pure_bind, pure_bind, hcheck, hrest]

/-- Without a hop a local test reads no callee but those that its checks inspect. -/
theorem Test.eval_eq_of_inspections {test : Test} (hl : test.isLocal = true)
    (h : ∀ n ∈ test.inspections, n.Agrees source source' v.body) :
    test.eval ⟨v, ⟨source, .bodyOnly⟩⟩ = test.eval ⟨v, ⟨source', .bodyOnly⟩⟩ := by
  induction test with
  | const value => rfl
  | entire t => rfl
  | anchored t anchor => rfl
  | contains t => rfl
  | operandKind kind => rfl
  | selects flags t => rfl
  | reaches t =>
    unfold eval
    rw [Scope.reaches_bodyOnly, Scope.reaches_bodyOnly]
    rfl
  | both first second ih₁ ih₂ =>
    simp only [isLocal, Bool.and_eq_true] at hl
    obtain ⟨h₁, h₂⟩ := List.forall_mem_append.1 h
    unfold eval
    rw [ih₁ hl.1 h₁, ih₂ hl.2 h₂]
  | either first second ih₁ ih₂ =>
    simp only [isLocal, Bool.and_eq_true] at hl
    obtain ⟨h₁, h₂⟩ := List.forall_mem_append.1 h
    unfold eval
    rw [ih₁ hl.1 h₁, ih₂ hl.2 h₂]
  | negated test ih =>
    unfold eval
    rw [ih hl h]
  | captured capture t checks =>
    simp only [isLocal, Bool.and_eq_true, bne_iff_ne] at hl
    have hfind : ∀ source, capture.find ⟨v, ⟨source, .bodyOnly⟩⟩ t =
        pure ((capture.window? t v.body.opcodes).map fun w => ⟨v.body, w.1, w.2, none⟩) :=
      fun _ => Capture.find_eq_pure hl.1 t
    unfold eval
    rw [hfind, hfind, pure_bind, pure_bind]
    cases hw : capture.window? t v.body.opcodes with
    | none => rfl
    | some w =>
      refine Check.evalAll_eq_of_callee fun k hk hc m hm => ?_
      refine h ⟨capture, t, k.1⟩ ?_ (w.1 + k.1) m ?_ hm
      · exact List.mem_map.2 ⟨k, List.mem_filter.2 ⟨hk, hc⟩, rfl⟩
      · unfold Inspection.position?
        rw [hw]
        rfl

end

/-! ## Tables -/

/-- Where each admitted rule runs alike for two candidates, the search of the rules does, too. -/
theorem firstRule_congr {low : Bool} {c c' : Candidate} {rules : List Rule}
    (hv : c.instruction = c'.instruction)
    (h : ∀ r ∈ rules, r.admitted low = true → r.holds c = r.holds c') :
    firstRule low c rules = firstRule low c' rules := by
  have hbody : c.body = c'.body := congrArg VirtualInstruction.body hv
  induction rules with
  | nil =>
    unfold firstRule
    rw [hv]
  | cons r rest ih =>
    have hrest := ih fun r' hr' => h r' (List.mem_cons_of_mem _ hr')
    unfold firstRule
    by_cases ha : r.admitted low = true
    · rw [if_pos ha, if_pos ha, h r List.mem_cons_self ha, hbody, hrest]
    · rw [if_neg ha, if_neg ha, hrest]

/-- The position of a call that is decoded without a hop.  Each of these handlers has one, and that
of a rule that is not certain counts only if such rules are admitted. -/
inductive Body.LooksInto (low : Bool) (body : Body) : Nat → Prop
  | ret (h : Shape.ret.accepts body.opcodes = true) : LooksInto low body 1
  | indexedStore (h : Shape.indexedStore.accepts body.opcodes = true) : LooksInto low body 6
  | slotStore {o : Opcode} (ho : o ∈ [Opcode.ldc_i4_0, .ldc_i4_1, .ldc_i4_2, .ldc_i4_3])
      (h : (Shape.slotStore.fill literalHole o).accepts body.opcodes = true) :
      LooksInto low body 2
  | throw (hl : low = true) (h : Shape.throw.accepts body.opcodes = true) : LooksInto low body 5
  | rethrow {m : Match} (hl : low = true) (h : Shape.rethrow.first? body = some m) :
      LooksInto low body (m.offset + 10)

namespace Inspection

/-- The inspections of the standard table, with the confidence of their rules. -/
def standard : List (Confidence × Inspection) :=
  [(.certain, ⟨.entire, Shape.ret, 1⟩), (.certain, ⟨.entire, Shape.indexedStore, 6⟩),
   (.uncertain, ⟨.entire, Shape.throw, 5⟩), (.uncertain, ⟨.first, Shape.rethrow, 10⟩)] ++
  [Opcode.ldc_i4_0, .ldc_i4_1, .ldc_i4_2, .ldc_i4_3].map fun o =>
    (.certain, ⟨.entire, Shape.slotStore.fill literalHole o, 2⟩)

theorem mem_standard {s : Signature} (hs : s ∈ Signature.standard) {n : Inspection}
    (hn : n ∈ s.test.inspections) : (s.confidence, n) ∈ standard := by
  have hall : ∀ s ∈ Signature.standard, ∀ n ∈ s.test.inspections,
      (s.confidence, n) ∈ standard := by decide +kernel
  exact hall s hs n hn

theorem accepts_of_position? {t : Template} {index i : Nat} {os : List Opcode}
    (h : position? ⟨.entire, t, index⟩ os = some i) : t.accepts os = true ∧ i = index := by
  unfold position? Capture.window? at h
  by_cases ht : t.accepts os = true
  · rw [if_pos ht] at h
    obtain rfl := Option.some.inj h
    exact ⟨ht, Nat.zero_add index⟩
  · rw [if_neg ht] at h
    cases h

theorem exists_first?_of_position? {t : Template} {index i : Nat} {body : Body}
    (h : position? ⟨.first, t, index⟩ body.opcodes = some i) :
    ∃ m, t.first? body = some m ∧ i = m.offset + index := by
  unfold position? Capture.window? at h
  unfold Template.first?
  obtain ⟨w, hw, rfl⟩ := Option.map_eq_some_iff.1 h
  obtain ⟨offset, ho, rfl⟩ := Option.map_eq_some_iff.1 hw
  exact ⟨_, Option.map_eq_some_iff.2 ⟨offset, ho, rfl⟩, rfl⟩

end Inspection

/-- What an admitted rule of the table inspects is one of the calls above. -/
theorem Signature.looksInto_of_mem {s : Signature} (hs : s ∈ standard) {low : Bool}
    (ha : s.rule.admitted low = true) {n : Inspection} (hn : n ∈ s.test.inspections) {body : Body}
    {index : Nat} (hi : n.position? body.opcodes = some index) : body.LooksInto low index := by
  have hmem := Inspection.mem_standard hs hn
  have hlow : s.confidence = .uncertain → low = true := by
    intro hc
    simpa [Rule.admitted, rule, hc] using ha
  simp only [Inspection.standard, List.cons_append, List.nil_append, List.mem_cons,
    Prod.mk.injEq] at hmem
  rcases hmem with ⟨-, rfl⟩ | ⟨-, rfl⟩ | ⟨hc, rfl⟩ | ⟨hc, rfl⟩ | hslot
  · obtain ⟨h, rfl⟩ := Inspection.accepts_of_position? hi
    exact .ret h
  · obtain ⟨h, rfl⟩ := Inspection.accepts_of_position? hi
    exact .indexedStore h
  · obtain ⟨h, rfl⟩ := Inspection.accepts_of_position? hi
    exact .throw (hlow hc) h
  · obtain ⟨m, h, rfl⟩ := Inspection.exists_first?_of_position? hi
    exact .rethrow (hlow hc) h
  · obtain ⟨o, ho, heq⟩ := List.mem_map.1 hslot
    obtain ⟨-, rfl⟩ := Prod.mk.inj heq
    obtain ⟨h, rfl⟩ := Inspection.accepts_of_position? hi
    exact .slotStore ho h

/-! ## Classifiers -/

/-- The operations that are told by flags. -/
def Operation.byFlags : List Operation :=
  FlagFamily.all.flatMap fun family => family.members.map Prod.snd

example : Operation.byFlags = [.add, .add_ovf, .add_ovf_un, .sub, .sub_ovf, .sub_ovf_un, .div,
    .div_un, .rem, .rem_un, .shr, .shr_un] := rfl

section
variable {source source' : BodySource} {v : VirtualInstruction} {low : Bool}

/-- Sources that agree on the calls that are looked into lead to one run. -/
theorem identify_eq_of_looksInto (h : ∀ index m, v.body.LooksInto low index →
      v.body.calleeAt index = some m → source m = source' m) :
    (Classifier.mk ⟨source, .bodyOnly⟩ low .standard).identify v =
      (Classifier.mk ⟨source', .bodyOnly⟩ low .standard).identify v := by
  have hrules : firstRule low ⟨v, ⟨source, .bodyOnly⟩⟩ Registry.standard.rules =
      firstRule low ⟨v, ⟨source', .bodyOnly⟩⟩ Registry.standard.rules := by
    refine firstRule_congr rfl fun r hr ha => ?_
    obtain ⟨s, hs, rfl⟩ := List.mem_map.1 hr
    refine Test.eval_eq_of_inspections (Signature.isLocal_of_mem hs) fun n hn index m hi hm => ?_
    exact h index m (Signature.looksInto_of_mem hs ha hn hi) hm
  exact congrArg (Rule.label <$> ·) hrules

/-- A failure is that of a call that is looked into. -/
theorem exists_looksInto_of_identify_eq_error {e : Error}
    (he : ((Classifier.mk ⟨source, .bodyOnly⟩ low .standard).identify v).result = .error e)
    (hne : e ≠ .unknownOperation v) :
    ∃ index m, v.body.LooksInto low index ∧ v.body.calleeAt index = some m ∧
      source m = .error e := by
  classical
  -- a source that fails for no other method gives the same run, so its failure is one of these
  let looked : MethodRef → Prop := fun m =>
    ∃ index, v.body.LooksInto low index ∧ v.body.calleeAt index = some m
  let source' : BodySource := fun m => if looked m then source m else .ok []
  have hsame : (Classifier.mk ⟨source, .bodyOnly⟩ low .standard).identify v =
      (Classifier.mk ⟨source', .bodyOnly⟩ low .standard).identify v :=
    identify_eq_of_looksInto fun index m hi hm => (if_pos ⟨index, hi, hm⟩).symm
  have htwin : (Candidate.mk v ⟨source', .bodyOnly⟩).Twin
      (.failing fun e => e = .unknownOperation v ∨ ∃ m, looked m ∧ source m = .error e)
      (fun _ => True) ⟨v, ⟨source', .bodyOnly⟩⟩ := by
    refine .of_failing fun i _ m _ e he => ?_
    by_cases hm : looked m
    · exact .inr ⟨m, hm, (if_pos hm).symm.trans he⟩
    · cases (if_neg hm).symm.trans he
  have hon := on_identify_standard low htwin (.inl rfl) (fun _ _ _ _ => trivial) (.inl rfl)
  rw [← hsame, he] at hon
  rcases hon.of_failing with ⟨op, hop⟩ | ⟨e', he', hend⟩
  · cases hop
  · obtain rfl := Except.error.inj he'
    obtain ⟨m, ⟨index, hi, hm⟩, hsource⟩ := hend.resolve_left hne
    exact ⟨index, m, hi, hm, hsource⟩

/-- An operation that is told by flags has a signature that searches for them. -/
theorem Signature.exists_selects_of_mem {op : Operation} (hop : op ∈ Operation.byFlags) :
    ∃ s ∈ standard, s.label = op ∧ ∃ flags t, s.test = .selects flags t := by
  have hall : ∀ family ∈ FlagFamily.all, ∀ m ∈ family.members,
      flagged m.2 family.helper m.1 ∈ standard := by decide +kernel
  obtain ⟨family, hfamily, hop⟩ := List.mem_flatMap.1 hop
  obtain ⟨m, hm, rfl⟩ := List.mem_map.1 hop
  exact ⟨_, hall family hfamily m hm, rfl, m.1, family.helper, rfl⟩

theorem identify_ne_of_mem_byFlags {op : Operation} (hop : op ∈ Operation.byFlags) :
    ((Classifier.mk ⟨source, .bodyOnly⟩ low .standard).identify v).result ≠ .ok op := by
  intro hok
  obtain ⟨r, hrule, hlabel⟩ := Traced.map_eq_ok.1 hok
  obtain ⟨i, ht, hh⟩ := firstRule_eq_ok_iff.1 hrule
  obtain ⟨s, hs, rfl, flags, t, htest⟩ := Signature.exists_selects_of_mem hop
  have hsel : (s.test.eval ⟨v, ⟨source, .bodyOnly⟩⟩).result = .ok true :=
    (Registry.recognises_of_mem hs).1 ⟨r, ht.mem, hlabel, hh⟩
  rw [htest] at hsel
  cases hsel

end

/-- **Depth zero.**  Without a hop no operation is told by flags.  A method is decoded only where a
handler of one of five shapes calls it, so a failure is that of such a call, and sources that agree
on these calls (on any handler that has none, all sources) lead to the same run. -/
theorem identify_without_hop (source : BodySource) (v : VirtualInstruction) (low : Bool)
    (k : Classifier) (hk : Classifier.ofConfig source ⟨0, low⟩ .standard = .ok k) :
    (∀ op ∈ Operation.byFlags, (k.identify v).result ≠ .ok op) ∧
    (∀ e, (k.identify v).result = .error e → e ≠ .unknownOperation v →
      ∃ index m, v.body.LooksInto low index ∧ v.body.calleeAt index = some m ∧
        source m = .error e) ∧
    (∀ source' k', Classifier.ofConfig source' ⟨0, low⟩ .standard = .ok k' →
      (∀ index m, v.body.LooksInto low index → v.body.calleeAt index = some m →
        source m = source' m) →
      k.identify v = k'.identify v) := by
  obtain rfl : ⟨⟨source, .bodyOnly⟩, low, .standard⟩ = k := Except.ok.inj hk
  refine ⟨fun op hop => identify_ne_of_mem_byFlags hop,
    fun e he hne => exists_looksInto_of_identify_eq_error he hne, fun source' k' hk' hsame => ?_⟩
  obtain rfl : ⟨⟨source', .bodyOnly⟩, low, .standard⟩ = k' := Except.ok.inj hk'
  exact identify_eq_of_looksInto hsame

/-- The helper of a return is decoded without a hop, and that of an addition is not, so there every
source leads to the run that an empty store does. -/
theorem identify_without_hop_returnHandler :
    let k := Classifier.mk ⟨BodyStore.empty.source, .bodyOnly⟩ false .standard
    (k.identify (returnHandler "Leave")).result =
      .error (.bodyUnavailable ⟨0x06000001⟩ "no decoded body for Leave") ∧
    (∃ index m, (returnHandler "Leave").body.LooksInto false index ∧
      (returnHandler "Leave").body.calleeAt index = some m ∧
      BodyStore.empty.source m =
        .error (.bodyUnavailable ⟨0x06000001⟩ "no decoded body for Leave")) ∧
    ∀ source, k.identify checkedAddition =
      (Classifier.mk ⟨source, .bodyOnly⟩ false .standard).identify checkedAddition := by
  intro k
  have hmissing : (k.identify (returnHandler "Leave")).result =
      .error (.bodyUnavailable ⟨0x06000001⟩ "no decoded body for Leave") := by decide +kernel
  refine ⟨hmissing, ?_, fun source => ?_⟩
  · exact (identify_without_hop _ (returnHandler "Leave") false k rfl).2.1 _ hmissing nofun
  · have hsame := (identify_without_hop _ checkedAddition false k rfl).2.2 source _ rfl
    refine hsame fun index m hi _ => ?_
    cases hi with
    | ret h => exact absurd h (by decide)
    | indexedStore h => exact absurd h (by decide)
    | slotStore ho h =>
      have hnone : ∀ o ∈ [Opcode.ldc_i4_0, .ldc_i4_1, .ldc_i4_2, .ldc_i4_3],
          ¬ (Shape.slotStore.fill literalHole o).accepts checkedAddition.body.opcodes = true := by
        decide
      exact absurd h (hnone _ ho)
    | throw hl _ => cases hl
    | rethrow hl _ => cases hl

end CilRecovery
