import CilRecovery.Proofs.Decision.Answer
import CilRecovery.Proofs.Template.Filling

/-!
# Handlers of one template that call no method

A handler whose opcodes are a template, and which names no method of the binary, is classified by its
operands alone: the field that it loads and the return type of the method that reads the index, the
opcode that loads a constant, or the declared kind of operand.

    each template leaves one family of signatures                       (signatures_indexedLoad, …)
    what decides among the members of each family                           (identify_wholeBody)
-/

namespace CilRecovery

/-! ## Families of operations -/

/-- How wide the index in an operand is. -/
inductive IndexWidth where
  | full | short
deriving DecidableEq

/-- What the reader of an index returns. -/
def IndexWidth.type : IndexWidth → String
  | .full => fullIndexType
  | .short => shortIndexType

namespace Operation

/-- The load from a store at an index of the given width. -/
def indexedLoad : Storage → IndexWidth → Operation
  | .arguments, .full => .ldarg
  | .arguments, .short => .ldarg_s
  | .locals, .full => .ldloc
  | .locals, .short => .ldloc_s

/-- The loads of a constant that have no operand. -/
def constants : List Operation :=
  [.ldc_i4_0, .ldc_i4_1, .ldc_i4_2, .ldc_i4_3, .ldc_i4_4, .ldc_i4_5, .ldc_i4_6, .ldc_i4_7,
   .ldc_i4_8, .ldc_i4_m1]

/-- The load of a constant that is an operand of the given kind. -/
def operandLoad? : OperandKind → Option Operation
  | .int32 => some .ldc_i4
  | .int8 => some .ldc_i4_s
  | .int64 => some .ldc_i8
  | .float32 => some .ldc_r4
  | .float64 => some .ldc_r8
  | _ => none

end Operation

/-! ## What each template leaves -/

namespace Outline

/-- The outline of the handlers that the template describes and that call no helper. -/
def alone (p : Template) : Outline := (ofTemplate p).inter noHelper

def accesses : List (Storage × IndexWidth) :=
  [(.arguments, .full), (.arguments, .short), (.locals, .full), (.locals, .short)]

def kinds : List (Operation × OperandKind) :=
  [(.ldc_i4, .int32), (.ldc_i4_s, .int8), (.ldc_i8, .int64), (.ldc_r4, .float32),
   (.ldc_r8, .float64)]

theorem signatures_indexedLoad : (alone Shape.indexedLoad).signatures =
    accesses.map fun a => .indexedLoad (.indexedLoad a.1 a.2) a.2.type a.1 := by
  decide +kernel

theorem signatures_constantLoad : (alone Shape.constantLoad).signatures =
    Operation.constants.map fun op =>
      .whole op (Shape.constantLoad.fill literalHole op.opcode) := by
  decide +kernel

theorem signatures_operandLoad : (alone Shape.operandLoad).signatures =
    kinds.map fun m => .ofKind m.1 Shape.operandLoad m.2 := by
  decide +kernel

theorem signatures_call : (alone Shape.call).signatures = [.whole .call Shape.call] := by
  decide +kernel

theorem signatures_ldnull : (alone Shape.ldnull).signatures = [.whole .ldnull Shape.ldnull] := by
  decide +kernel

theorem signatures_ldstr : (alone Shape.ldstr).signatures =
    [.certain .ldstr (.captured .entire Shape.ldstr [(6, .returns "System.String")])] := by
  decide +kernel

end Outline

/-! ## What decides among them -/

theorem IndexWidth.type_injective {a b : IndexWidth} (h : a.type = b.type) : a = b := by
  have hne : fullIndexType ≠ shortIndexType := by decide
  cases a with
  | full =>
    cases b with
    | full => rfl
    | short => exact absurd h hne
  | short =>
    cases b with
    | full => exact absurd h.symm hne
    | short => rfl

theorem Outline.mem_accesses (store : Storage) (width : IndexWidth) :
    (store, width) ∈ accesses := by
  cases store <;> cases width <;> decide

/-- The access that an instruction and the reader of its index tell is unique. -/
theorem Outline.find?_accesses_eq_some {fields : StorageFields}
    (hne : fields.arguments ≠ fields.locals) {field reader : Instruction} {store : Storage}
    {width : IndexWidth} (hstore : field.refersTo fields store = true)
    (hwidth : reader.returns width.type = true) :
    (accesses.find? fun a => reader.returns a.2.type && field.refersTo fields a.1) =
      some (store, width) := by
  refine find?_eq_some_of_unique (mem_accesses store width) ?_ ?_
  · rw [hstore, hwidth]
    rfl
  · rintro ⟨store', width'⟩ - h
    obtain ⟨hwidth', hstore'⟩ := Bool.and_eq_true_iff.1 h
    obtain rfl : store' = store :=
      StorageFields.field_injective hne (Instruction.field_eq_of_refersTo hstore' hstore)
    obtain rfl : width' = width :=
      IndexWidth.type_injective (Instruction.eq_of_returns hwidth' hwidth)
    rfl

theorem Outline.find?_accesses_eq_none {fields : StorageFields} {field reader : Instruction}
    (h : (∀ store, field.refersTo fields store = false) ∨
      ∀ width : IndexWidth, reader.returns width.type = false) :
    (accesses.find? fun a => reader.returns a.2.type && field.refersTo fields a.1) = none := by
  rw [List.find?_eq_none]
  rintro ⟨store, width⟩ -
  rcases h with h | h
  · simp [h store]
  · simp [h width]

/-- The opcode that fills the hole is told by the load. -/
theorem Shape.constantLoad_accepts_iff {x y : Opcode} {os : List Opcode}
    (hx : (constantLoad.fill literalHole x).accepts os = true) :
    (constantLoad.fill literalHole y).accepts os = true ↔ y = x := by
  constructor
  · intro hy
    exact Template.eq_of_accepts_fill (by decide) hy hx
  · rintro rfl
    exact hx

namespace Signature

variable {c : Candidate} {low : Bool}

theorem answers_whole (label : Operation) (t : Template) :
    (whole label t).answers low c = t.accepts c.opcodes :=
  answers_certain label (.entire t)

theorem answers_ofKind (label : Operation) (t : Template) (kind : OperandKind) :
    (ofKind label t kind).answers low c =
      (t.accepts c.opcodes && c.instruction.operandKind == kind) := by
  unfold ofKind
  rw [answers_certain, Test.isTrue_both]
  rfl

theorem answers_indexedLoad (ht : Shape.indexedLoad.accepts c.opcodes = true)
    {field reader : Instruction} (hfield : c.body[5]? = some field)
    (hreader : c.body[7]? = some reader) (label : Operation) (width : String) (store : Storage) :
    (indexedLoad label width store).answers low c =
      (reader.returns width && field.refersTo c.instruction.storage store) := by
  unfold indexedLoad
  rw [answers_certain, Test.isTrue_captured_entire _ ht, List.all_cons, List.all_cons,
    List.all_nil, Check.isTrueAt_whole hreader, Check.isTrueAt_whole hfield, Bool.and_true]
  rfl

end Signature

theorem Body.calleeAt_eq_none {body : Body} (h : ∀ i ∈ body, i.callee? = none) (index : Nat) :
    body.calleeAt index = none := by
  unfold calleeAt
  cases hi : body[index]? with
  | none => rfl
  | some i => exact h i (List.mem_of_getElem? hi)

section
variable {S : BodyStore} {v : VirtualInstruction} {reach : Reach} {low : Bool}
  (hnone : ∀ i ∈ v.body, i.callee? = none)

include hnone

theorem decodes_of_no_callee : S.Decodes v.body := by
  intro index m hm
  rw [Body.calleeAt_eq_none hnone] at hm
  cases hm

theorem not_isHelper_of_no_callee {sc : Scope} (b : Body) : ¬ sc.IsHelper v.body b := by
  rintro ⟨index, m, hm, -⟩
  rw [Body.calleeAt_eq_none hnone] at hm
  cases hm

theorem fits_noHelper {sc : Scope} : Outline.noHelper.Fits ⟨v, sc⟩ :=
  Outline.fits_helpers fun _ b hb => absurd hb (not_isHelper_of_no_callee hnone b)

theorem fits_alone {p : Template} (hp : p.Describes v.body.opcodes) {sc : Scope} :
    (Outline.alone p).Fits ⟨v, sc⟩ :=
  (Outline.fits_ofTemplate hp).inter (fits_noHelper hnone)

/-- The answer is among the members of the family that the template of the handler leaves. -/
theorem identify_alone {ι : Type} {p : Template} (hp : p.Describes v.body.opcodes)
    {members : List ι} {signature : ι → Signature}
    (hleft : (Outline.alone p).signatures = members.map signature) {holds : ι → Bool}
    (hholds : ∀ i ∈ members, (signature i).answers low ⟨v, ⟨S.source, reach⟩⟩ = holds i) :
    ((Classifier.mk ⟨S.source, reach⟩ low .standard).identify v).result =
      v.answer ((members.find? holds).map fun i => (signature i).label) :=
  (fits_alone hnone hp).identify_family (decodes_of_no_callee hnone) hleft hholds

theorem identify_indexedLoad (ht : Shape.indexedLoad.accepts v.body.opcodes = true)
    {field reader : Instruction} (hfield : v.body[5]? = some field)
    (hreader : v.body[7]? = some reader) :
    ((Classifier.mk ⟨S.source, reach⟩ low .standard).identify v).result =
      v.answer ((Outline.accesses.find? fun a =>
        reader.returns a.2.type && field.refersTo v.storage a.1).map fun a =>
          .indexedLoad a.1 a.2) := by
  refine identify_alone hnone (Template.describes_of_accepts ht) Outline.signatures_indexedLoad
    fun a _ => ?_
  exact Signature.answers_indexedLoad (c := ⟨v, ⟨S.source, reach⟩⟩) ht hfield hreader _ _ _

theorem identify_constantLoad {x : Opcode}
    (ht : (Shape.constantLoad.fill literalHole x).accepts v.body.opcodes = true) :
    ((Classifier.mk ⟨S.source, reach⟩ low .standard).identify v).result =
      v.answer (Operation.constants.find? fun op => op.opcode == x) := by
  have hholds : ∀ op ∈ Operation.constants,
      (Signature.whole op (Shape.constantLoad.fill literalHole op.opcode)).answers low
        ⟨v, ⟨S.source, reach⟩⟩ = (op.opcode == x) := by
    intro op _
    rw [Signature.answers_whole, Bool.eq_iff_iff, beq_iff_eq]
    exact Shape.constantLoad_accepts_iff ht
  refine (identify_alone hnone (Template.describes_of_fill ht) Outline.signatures_constantLoad
    hholds).trans (congrArg v.answer ?_)
  exact Option.map_id'

theorem identify_operandLoad (ht : Shape.operandLoad.accepts v.body.opcodes = true) :
    ((Classifier.mk ⟨S.source, reach⟩ low .standard).identify v).result =
      v.answer (Operation.operandLoad? v.operandKind) := by
  have hholds : ∀ m ∈ Outline.kinds, (Signature.ofKind m.1 Shape.operandLoad m.2).answers low
      ⟨v, ⟨S.source, reach⟩⟩ = (v.operandKind == m.2) := by
    intro m _
    rw [Signature.answers_ofKind]
    show (Shape.operandLoad.accepts v.body.opcodes && v.operandKind == m.2) = _
    rw [ht, Bool.true_and]
  refine (identify_alone hnone (Template.describes_of_accepts ht) Outline.signatures_operandLoad
    hholds).trans (congrArg v.answer ?_)
  cases v.operandKind <;> rfl

theorem identify_whole {op : Operation} {t : Template}
    (hleft : (Outline.alone t).signatures = [.whole op t]) (ht : t.accepts v.body.opcodes = true) :
    ((Classifier.mk ⟨S.source, reach⟩ low .standard).identify v).result = .ok op := by
  have hanswers : (Signature.whole op t).answers low ⟨v, ⟨S.source, reach⟩⟩ = true := by
    rw [Signature.answers_whole]
    exact ht
  rw [(fits_alone hnone (Template.describes_of_accepts ht)).identify_single
    (decodes_of_no_callee hnone) hleft, hanswers]
  rfl

theorem identify_ldstr (ht : Shape.ldstr.accepts v.body.opcodes = true) {reader : Instruction}
    (hreader : v.body[6]? = some reader) :
    ((Classifier.mk ⟨S.source, reach⟩ low .standard).identify v).result =
      v.answer (if reader.returns "System.String" then some .ldstr else none) := by
  rw [(fits_alone hnone (Template.describes_of_accepts ht)).identify_single
    (decodes_of_no_callee hnone) Outline.signatures_ldstr, Signature.answers_certain,
    Test.isTrue_captured_entire _ ht, List.all_cons, List.all_nil, Check.isTrueAt_whole hreader,
    Bool.and_true]
  rfl

end

/-- **Handlers of one template.**  If it names no method of the binary, a handler that is the template
of an indexed load is told by its store and the width of its index, a constant by its opcode, a load
of the operand by the kind of operand, and a load of a string by what its reader returns; the others
are what they are. -/
theorem identify_wholeBody (v : VirtualInstruction) (S : BodyStore) (config : Config)
    (k : Classifier) (hk : Classifier.ofConfig S.source config .standard = .ok k)
    (hne : v.storage.arguments ≠ v.storage.locals) (hnone : ∀ i ∈ v.body, i.callee? = none) :
    (∀ field reader, Shape.indexedLoad.accepts v.body.opcodes = true →
      v.body[5]? = some field → v.body[7]? = some reader →
      (∀ store width, field.refersTo v.storage store = true → reader.returns width.type = true →
        (k.identify v).result = .ok (.indexedLoad store width)) ∧
      ((∀ store, field.refersTo v.storage store = false) ∨
          (∀ width : IndexWidth, reader.returns width.type = false) →
        (k.identify v).result = .error (.unknownOperation v))) ∧
    (∀ x, (Shape.constantLoad.fill literalHole x).accepts v.body.opcodes = true →
      (k.identify v).result = v.answer (Operation.constants.find? fun op => op.opcode == x)) ∧
    (Shape.operandLoad.accepts v.body.opcodes = true →
      (k.identify v).result = v.answer (Operation.operandLoad? v.operandKind)) ∧
    (Shape.call.accepts v.body.opcodes = true → (k.identify v).result = .ok .call) ∧
    (Shape.ldnull.accepts v.body.opcodes = true → (k.identify v).result = .ok .ldnull) ∧
    (∀ reader, Shape.ldstr.accepts v.body.opcodes = true → v.body[6]? = some reader →
      (k.identify v).result =
        v.answer (if reader.returns "System.String" then some .ldstr else none)) := by
  obtain ⟨reach, -, rfl⟩ := Classifier.ofConfig_eq_ok_iff.1 hk
  refine ⟨fun field reader ht hfield hreader => ⟨fun store width hstore hwidth => ?_, fun h => ?_⟩,
    fun x ht => identify_constantLoad hnone ht, fun ht => identify_operandLoad hnone ht,
    fun ht => identify_whole hnone Outline.signatures_call ht,
    fun ht => identify_whole hnone Outline.signatures_ldnull ht,
    fun reader ht hreader => identify_ldstr hnone ht hreader⟩
  · rw [identify_indexedLoad hnone ht hfield hreader,
      Outline.find?_accesses_eq_some hne hstore hwidth]
    rfl
  · rw [identify_indexedLoad hnone ht hfield hreader, Outline.find?_accesses_eq_none h]
    rfl

/-- The handler of an indexed load from the second store, with a reader that returns `type`. -/
def localLoad (type : String) : VirtualInstruction :=
  ⟨[.ofOpcode .ldarg_1, .ofOpcode .castclass, .ofOpcode .stloc_0, .ofOpcode .ldarg_0,
    .ofOpcode .ldarg_0, ⟨.ldfld, .field ⟨⟨0x04000002⟩, "locals"⟩⟩, .ofOpcode .ldloc_0,
    ⟨.callvirt, .method ⟨⟨0x0a000001⟩, "Vm::Index", type⟩⟩, .ofOpcode .ldelem,
    .ofOpcode .callvirt, .ofOpcode .call, .ofOpcode .ret],
   ⟨⟨0x04000001⟩, ⟨0x04000002⟩⟩, .none⟩

/-- A byte is the index of a local, and what is not an index is none. -/
theorem identify_wholeBody_localLoad :
    let k := Classifier.mk ⟨BodyStore.empty.source, .bodyOnly⟩ false .standard
    (∀ i ∈ (localLoad "System.Byte").body, i.callee? = none) ∧
    (k.identify (localLoad "System.Byte")).result = .ok .ldloc_s ∧
    (∀ i ∈ (localLoad "System.Int32").body, i.callee? = none) ∧
    (k.identify (localLoad "System.Int32")).result =
      .error (.unknownOperation (localLoad "System.Int32")) := by
  intro k
  have hbyte : ∀ i ∈ (localLoad "System.Byte").body, i.callee? = none := by decide +kernel
  have hint : ∀ i ∈ (localLoad "System.Int32").body, i.callee? = none := by decide +kernel
  refine ⟨hbyte, ?_, hint, ?_⟩
  · have hload := (identify_wholeBody (localLoad "System.Byte") .empty ⟨0, false⟩ k rfl (by decide)
      hbyte).1 _ _ (by decide +kernel) rfl rfl
    exact hload.1 .locals .short (by decide +kernel) (by decide +kernel)
  · have hload := (identify_wholeBody (localLoad "System.Int32") .empty ⟨0, false⟩ k rfl (by decide)
      hint).1 _ _ (by decide +kernel) rfl rfl
    refine hload.2 (.inr fun width => ?_)
    cases width <;> decide +kernel

end CilRecovery
