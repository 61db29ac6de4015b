import CilRecovery.Proofs.Decision.WholeBody

/-!
# Handlers that are told by one helper

A handler of a fixed shape that names one method of the binary, at the position where its rule looks,
is classified by the body of that method, as long as none of the windows that are searched for in
helpers occurs there.  A store to a local needs the beginning of its helper at least once, a throw its
helper exactly once, and for a return the helper is all of that method.

    each shape leaves one family of signatures                          (signatures_slotStore, …)
    what decides among the members of each family                           (identify_oneHelper)
-/

namespace CilRecovery

/-! ## Families of operations -/

namespace Operation

/-- The store to a local at an index of the given width. -/
def indexedStore : IndexWidth → Operation
  | .full => .stloc
  | .short => .stloc_s

/-- The store to the local at the index that the opcode loads. -/
def slotStore? : Opcode → Option Operation
  | .ldc_i4_0 => some .stloc_0
  | .ldc_i4_1 => some .stloc_1
  | .ldc_i4_2 => some .stloc_2
  | .ldc_i4_3 => some .stloc_3
  | _ => none

end Operation

/-! ## What each shape leaves -/

namespace Outline

/-- The outline of the handlers that the template describes and whose helpers hold none of the
templates that are searched for. -/
def plain (p : Template) : Outline :=
  (ofTemplate p).inter (helpers fun t => !Shape.sought.contains t)

theorem signatures_slotStore : ∀ x ∈ Opcode.literals,
    (plain (Shape.slotStore.fill literalHole x)).signatures =
      (Operation.slotStore? x).toList.map fun op => .certain op (.captured .entire
        (Shape.slotStore.fill literalHole x) [(2, .occurs Shape.localStoreHelper)]) := by
  decide +kernel

theorem signatures_indexedStore : (plain Shape.indexedStore).signatures =
    [IndexWidth.full, .short].map fun width =>
      .indexedStore (.indexedStore width) width.type := by
  decide +kernel

theorem signatures_ret : (plain Shape.ret).signatures =
    [.certain .ret (.captured .entire Shape.ret [(1, .isCallee Shape.retHelper)])] := by
  decide +kernel

theorem signatures_throw : (plain Shape.throw).signatures =
    [.uncertain .throw (.captured .entire Shape.throw [(5, .occursOnce Shape.throwHelper)])] := by
  decide +kernel

theorem signatures_rethrow : (plain Shape.rethrow).signatures =
    [.uncertain .rethrow (.captured .first Shape.rethrow
      [(10, .occursOnce Shape.throwHelper)])] := by
  decide +kernel

end Outline

theorem IndexWidth.find?_eq_some {reader : Instruction} {width : IndexWidth}
    (h : reader.returns width.type = true) :
    ([full, short].find? fun w => reader.returns w.type) = some width := by
  refine find?_eq_some_of_unique ?_ h fun w _ hw => ?_
  · cases width <;> decide
  · exact type_injective (Instruction.eq_of_returns hw h)

/-! ## Checks of the helper -/

/-- The instruction at the position names the method, and no other names a method of the binary. -/
def Body.CallsOnly (body : Body) (index : Nat) (m : MethodRef) : Prop :=
  ∀ j m', body.calleeAt j = some m' ↔ j = index ∧ m' = m

theorem Body.CallsOnly.exists_instruction {body : Body} {index : Nat} {m : MethodRef}
    (h : body.CallsOnly index m) : ∃ i, body[index]? = some i ∧ i.callee? = some m :=
  Body.calleeAt_eq_some_iff.1 ((h index m).2 ⟨rfl, rfl⟩)

theorem Body.callsOnly_of_callSites {body : Body} {s : CallSite} (h : body.callSites = [s]) :
    body.CallsOnly s.index s.callee := by
  intro j m'
  constructor
  · intro hm
    obtain ⟨s', hs', rfl, rfl⟩ := exists_mem_of_calleeAt hm
    rw [h, List.mem_singleton] at hs'
    subst hs'
    exact ⟨rfl, rfl⟩
  · rintro ⟨rfl, rfl⟩
    exact calleeAt_of_mem (h ▸ List.mem_singleton_self s)

namespace Check

variable {c : Candidate} {i : Instruction} {m : MethodRef} {b : Body}
  (hi : i.callee? = some m) (hb : c.scope.source m = .ok b)

include hi hb

theorem result_countInCallee (t : Template) :
    (c.scope.countInCallee t i).result = .ok (t.offsets b.opcodes).length := by
  unfold Scope.countInCallee Scope.countIn
  rw [hi]
  exact Traced.bind_of_ok ((c.scope.result_decode m).trans hb) _

theorem isTrue_occurs (t : Template) :
    (eval c i (.occurs t)).isTrue = t.occursIn b.opcodes := by
  have hcount := Traced.isTrue_of_result
    (Traced.bind_of_ok (result_countInCallee hi hb t) fun n => pure (n != 0))
  refine hcount.trans ?_
  unfold Template.occursIn
  cases t.offsets b.opcodes <;> rfl

theorem isTrue_occursOnce (t : Template) :
    (eval c i (.occursOnce t)).isTrue = ((t.offsets b.opcodes).length == 1) :=
  Traced.isTrue_of_result (Traced.bind_of_ok (result_countInCallee hi hb t) _)

theorem isTrue_isCallee (t : Template) :
    (eval c i (.isCallee t)).isTrue = t.accepts b.opcodes := by
  refine Traced.isTrue_of_result ?_
  show (c.scope.isCallee t i).result = _
  unfold Scope.isCallee Scope.entireIn
  rw [hi]
  exact Traced.bind_of_ok ((c.scope.result_decode m).trans hb) _

end Check

section
variable {c : Candidate} {index : Nat} {m : MethodRef} {b : Body}
  (hcall : c.body.CallsOnly index m) (hb : c.scope.source m = .ok b) (t : Template)

include hcall hb

theorem Check.isTrueAt_occurs :
    isTrueAt c (.whole c.body) (index, .occurs t) = t.occursIn b.opcodes := by
  obtain ⟨i, hi, hm⟩ := hcall.exists_instruction
  rw [isTrueAt_whole hi, isTrue_occurs hm hb]

theorem Check.isTrueAt_occursOnce :
    isTrueAt c (.whole c.body) (index, .occursOnce t) = ((t.offsets b.opcodes).length == 1) := by
  obtain ⟨i, hi, hm⟩ := hcall.exists_instruction
  rw [isTrueAt_whole hi, isTrue_occursOnce hm hb]

theorem Check.isTrueAt_isCallee :
    isTrueAt c (.whole c.body) (index, .isCallee t) = t.accepts b.opcodes := by
  obtain ⟨i, hi, hm⟩ := hcall.exists_instruction
  rw [isTrueAt_whole hi, isTrue_isCallee hm hb]

end

/-! ## What decides among them -/

/-- The first window of a template that is all of a body is the whole of it. -/
theorem Template.first?_of_accepts {t : Template} {body : Body} (hne : t.isEmpty = false)
    (h : t.accepts body.opcodes = true) : t.first? body = some (.whole body) := by
  obtain ⟨hlen, hoffsets⟩ := (accepts_iff_eq hne).mp h
  rw [Body.length_opcodes] at hlen
  unfold first?
  rw [hoffsets, Match.whole, hlen]
  rfl

section
variable {S : BodyStore} {v : VirtualInstruction} {reach : Reach} {low : Bool} {index : Nat}
  {m : MethodRef} {b : Body} (hcall : v.body.CallsOnly index m) (hget : S.get? m.token = some b)

include hcall hget

theorem decodes_of_callsOnly : S.Decodes v.body := by
  intro j m' hm'
  obtain ⟨-, rfl⟩ := (hcall j m').1 hm'
  exact ⟨b, BodyStore.source_of_some hget⟩

theorem fits_plain (hplain : ∀ t ∈ Shape.sought, t.occursIn b.opcodes = false) {p : Template}
    (hp : p.Describes v.body.opcodes) : (Outline.plain p).Fits ⟨v, ⟨S.source, reach⟩⟩ := by
  refine (Outline.fits_ofTemplate hp).inter (Outline.fits_helpers fun t b' hb' ht => ?_)
  obtain ⟨j, m', hm', hsource⟩ := hb'
  obtain ⟨-, rfl⟩ := (hcall j m').1 hm'
  obtain rfl : b = b' := Except.ok.inj ((BodyStore.source_of_some hget).symm.trans hsource)
  rw [Bool.not_eq_true', ← Bool.not_eq_true, List.contains_iff_mem]
  intro hmem
  rw [hplain t hmem] at ht
  cases ht

end

section
variable {S : BodyStore} {v : VirtualInstruction} {reach : Reach} {low : Bool} {m : MethodRef}
  {b : Body} (hget : S.get? m.token = some b)
  (hplain : ∀ t ∈ Shape.sought, t.occursIn b.opcodes = false)

include hget hplain

/-- If the shape of the handler leaves one signature, its test decides. -/
theorem identify_plain {index : Nat} {p : Template} {s : Signature}
    (hcall : v.body.CallsOnly index m) (hp : p.Describes v.body.opcodes)
    (hleft : (Outline.plain p).signatures = [s]) :
    ((Classifier.mk ⟨S.source, reach⟩ low .standard).identify v).result =
      v.answer (if s.answers low ⟨v, ⟨S.source, reach⟩⟩ then some s.label else none) :=
  (fits_plain hcall hget hplain hp).identify_single (decodes_of_callsOnly hcall hget) hleft

theorem identify_slotStore {x : Opcode} (hx : x ∈ Opcode.literals) (hcall : v.body.CallsOnly 2 m)
    (ht : (Shape.slotStore.fill literalHole x).accepts v.body.opcodes = true) :
    ((Classifier.mk ⟨S.source, reach⟩ low .standard).identify v).result = v.answer
      (if Shape.localStoreHelper.occursIn b.opcodes then Operation.slotStore? x else none) := by
  have hdescribes := Template.describes_of_accepts ht
  have hleft := Outline.signatures_slotStore x hx
  cases hop : Operation.slotStore? x with
  | none =>
    -- no local has an index that this opcode loads, so nothing is left
    rw [hop] at hleft
    rw [(fits_plain hcall hget hplain hdescribes).identify (decodes_of_callsOnly hcall hget), hleft,
      ite_self]
    rfl
  | some op =>
    rw [hop] at hleft
    rw [identify_plain hget hplain hcall hdescribes hleft, Signature.answers_certain,
      Test.isTrue_captured_entire _ ht, List.all_cons, List.all_nil, Bool.and_true,
      Check.isTrueAt_occurs (c := ⟨v, ⟨S.source, reach⟩⟩) hcall (BodyStore.source_of_some hget)]
    rfl

theorem identify_indexedStore (hcall : v.body.CallsOnly 6 m)
    (ht : Shape.indexedStore.accepts v.body.opcodes = true) {reader : Instruction}
    (hreader : v.body[5]? = some reader) :
    ((Classifier.mk ⟨S.source, reach⟩ low .standard).identify v).result =
      v.answer (([IndexWidth.full, .short].find? fun width => reader.returns width.type &&
        Shape.localStoreHelper.occursIn b.opcodes).map .indexedStore) := by
  have hfit : (Outline.plain Shape.indexedStore).Fits ⟨v, ⟨S.source, reach⟩⟩ :=
    fits_plain hcall hget hplain (Template.describes_of_accepts ht)
  refine hfit.identify_family (decodes_of_callsOnly hcall hget) Outline.signatures_indexedStore
    fun width _ => ?_
  unfold Signature.indexedStore
  rw [Signature.answers_certain, Test.isTrue_captured_entire _ ht, List.all_cons, List.all_cons,
    List.all_nil, Bool.and_true, Check.isTrueAt_whole (c := ⟨v, ⟨S.source, reach⟩⟩) hreader,
    Check.isTrueAt_occurs (c := ⟨v, ⟨S.source, reach⟩⟩) hcall (BodyStore.source_of_some hget)]
  rfl

theorem identify_ret (hcall : v.body.CallsOnly 1 m) (ht : Shape.ret.accepts v.body.opcodes = true) :
    ((Classifier.mk ⟨S.source, reach⟩ low .standard).identify v).result =
      v.answer (if Shape.retHelper.accepts b.opcodes then some .ret else none) := by
  rw [identify_plain hget hplain hcall (Template.describes_of_accepts ht) Outline.signatures_ret,
    Signature.answers_certain, Test.isTrue_captured_entire _ ht, List.all_cons, List.all_nil,
    Bool.and_true,
    Check.isTrueAt_isCallee (c := ⟨v, ⟨S.source, reach⟩⟩) hcall (BodyStore.source_of_some hget)]
  rfl

theorem identify_throw (hcall : v.body.CallsOnly 5 m)
    (ht : Shape.throw.accepts v.body.opcodes = true) :
    ((Classifier.mk ⟨S.source, reach⟩ low .standard).identify v).result = v.answer
      (if low && (Shape.throwHelper.offsets b.opcodes).length == 1 then some .throw else none) := by
  rw [identify_plain hget hplain hcall (Template.describes_of_accepts ht) Outline.signatures_throw,
    Signature.answers_uncertain, Test.isTrue_captured_entire _ ht, List.all_cons, List.all_nil,
    Bool.and_true,
    Check.isTrueAt_occursOnce (c := ⟨v, ⟨S.source, reach⟩⟩) hcall (BodyStore.source_of_some hget)]
  rfl

theorem identify_rethrow (hcall : v.body.CallsOnly 10 m)
    (ht : Shape.rethrow.accepts v.body.opcodes = true) :
    ((Classifier.mk ⟨S.source, reach⟩ low .standard).identify v).result = v.answer
      (if low && (Shape.throwHelper.offsets b.opcodes).length == 1 then some .rethrow
        else none) := by
  have hfirst : (Capture.find ⟨v, ⟨S.source, reach⟩⟩ Shape.rethrow .first).result =
      .ok (some (.whole (Candidate.mk v ⟨S.source, reach⟩).body)) :=
    congrArg Except.ok (Template.first?_of_accepts rfl ht)
  rw [identify_plain hget hplain hcall (Template.describes_of_accepts ht) Outline.signatures_rethrow,
    Signature.answers_uncertain, Test.isTrue_captured _ hfirst, List.all_cons, List.all_nil,
    Bool.and_true,
    Check.isTrueAt_occursOnce (c := ⟨v, ⟨S.source, reach⟩⟩) hcall (BodyStore.source_of_some hget)]
  rfl

end

/-- **Handlers of one helper.**  If the handler names one method of the binary, at the position where
the rule of its shape looks, and the body of that method holds no window that helpers are searched
for: a store to a local is told by the beginning of its helper, which occurs at least once, a return
by its helper, which is all of that body, and a throw or a rethrow, if uncertain answers are wanted,
by its helper, which occurs exactly once. -/
theorem identify_oneHelper (v : VirtualInstruction) (S : BodyStore) (config : Config)
    (k : Classifier) (hk : Classifier.ofConfig S.source config .standard = .ok k) (m : MethodRef)
    (b : Body) (hget : S.get? m.token = some b)
    (hplain : ∀ t ∈ Shape.sought, t.occursIn b.opcodes = false) :
    (∀ x ∈ Opcode.literals, v.body.CallsOnly 2 m →
      (Shape.slotStore.fill literalHole x).accepts v.body.opcodes = true →
      (k.identify v).result = v.answer
        (if Shape.localStoreHelper.occursIn b.opcodes then Operation.slotStore? x else none)) ∧
    (∀ reader, v.body.CallsOnly 6 m → Shape.indexedStore.accepts v.body.opcodes = true →
      v.body[5]? = some reader →
      (∀ width : IndexWidth, reader.returns width.type = true →
        Shape.localStoreHelper.occursIn b.opcodes = true →
        (k.identify v).result = .ok (.indexedStore width)) ∧
      ((∀ width : IndexWidth, reader.returns width.type = false) ∨
          Shape.localStoreHelper.occursIn b.opcodes = false →
        (k.identify v).result = .error (.unknownOperation v))) ∧
    (v.body.CallsOnly 1 m → Shape.ret.accepts v.body.opcodes = true →
      (k.identify v).result =
        v.answer (if Shape.retHelper.accepts b.opcodes then some .ret else none)) ∧
    (v.body.CallsOnly 5 m → Shape.throw.accepts v.body.opcodes = true →
      (k.identify v).result = v.answer
        (if config.allowUncertain && (Shape.throwHelper.offsets b.opcodes).length == 1 then
          some .throw else none)) ∧
    (v.body.CallsOnly 10 m → Shape.rethrow.accepts v.body.opcodes = true →
      (k.identify v).result = v.answer
        (if config.allowUncertain && (Shape.throwHelper.offsets b.opcodes).length == 1 then
          some .rethrow else none)) := by
  obtain ⟨reach, -, rfl⟩ := Classifier.ofConfig_eq_ok_iff.1 hk
  refine ⟨fun x hx hcall ht => identify_slotStore hget hplain hx hcall ht,
    fun reader hcall ht hreader => ⟨fun width hwidth hstore => ?_, fun h => ?_⟩,
    fun hcall ht => identify_ret hget hplain hcall ht,
    fun hcall ht => identify_throw hget hplain hcall ht,
    fun hcall ht => identify_rethrow hget hplain hcall ht⟩
  · rw [identify_indexedStore hget hplain hcall ht hreader, hstore]
    simp only [Bool.and_true, IndexWidth.find?_eq_some hwidth]
    rfl
  · rw [identify_indexedStore hget hplain hcall ht hreader, List.find?_eq_none.2]
    · rfl
    · intro width _
      rcases h with h | h
      · simp [h width]
      · simp [h]

/-- The handler of a store to the first local. -/
def firstStore : VirtualInstruction :=
  ⟨[.ofOpcode .ldarg_0, .ofOpcode .ldc_i4_0,
    ⟨.call, .method ⟨⟨0x06000001⟩, "Vm::Store", "System.Void"⟩⟩, .ofOpcode .ret],
   ⟨⟨0x04000001⟩, ⟨0x04000002⟩⟩, .none⟩

/-- A store is told also by a helper that begins twice, but not by one that never does. -/
theorem identify_oneHelper_firstStore :
    let twice := Shape.localStoreHelper.opcodes ++ .pop :: Shape.localStoreHelper.opcodes
    let S := BodyStore.ofList [(⟨0x06000001⟩, twice.map .ofOpcode)]
    let S' := BodyStore.ofList [(⟨0x06000001⟩, [.ofOpcode .ret])]
    (∀ t ∈ Shape.sought, t.occursIn (Body.opcodes (twice.map .ofOpcode)) = false) ∧
    ((Classifier.mk ⟨S.source, .callees⟩ true .standard).identify firstStore).result =
      .ok .stloc_0 ∧
    ((Classifier.mk ⟨S'.source, .callees⟩ true .standard).identify firstStore).result =
      .error (.unknownOperation firstStore) := by
  intro twice S S'
  have hplain : ∀ t ∈ Shape.sought, t.occursIn (Body.opcodes (twice.map .ofOpcode)) = false := by
    decide +kernel
  have hcall : firstStore.body.CallsOnly 2 ⟨⟨0x06000001⟩, "Vm::Store", "System.Void"⟩ :=
    Body.callsOnly_of_callSites (s := ⟨2, [.ldc_i4_0, .ldarg_0], _⟩) rfl
  refine ⟨hplain, ?_, ?_⟩
  · exact (identify_oneHelper firstStore S .standard _ rfl _ _ rfl hplain).1 .ldc_i4_0
      (by decide) hcall (by decide +kernel)
  · exact (identify_oneHelper firstStore S' .standard _ rfl _ _ rfl (by decide +kernel)).1 .ldc_i4_0
      (by decide) hcall (by decide +kernel)

end CilRecovery
