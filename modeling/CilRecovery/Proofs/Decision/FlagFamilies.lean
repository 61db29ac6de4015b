import CilRecovery.Proofs.Decision.Answer

/-!
# Families that share a helper

The operations of a family call one helper and differ in the booleans that they pass to it.  If a
handler and its helpers show no other shape of the table, it is classified by these flags alone: a
member of the family is the answer if calls of the helper pass its flags and no others.  Without a
hop no call is looked at, so nothing is recognised.

    such a handler leaves the members of the family                         (signatures_flagFamily)
    a member answers if its flags are passed, and passed alone            (answers_flagged_callees)
    what decides among the members                                            (identify_flagFamily)
-/

namespace CilRecovery

/-! ## The families -/

/-- Operations that call the helper which holds a template with different flags. -/
structure FlagFamily where
  helper : Template
  arity : Nat
  /-- The operation for each combination of flags that stands for one. -/
  members : List (List Bool × Operation)
deriving DecidableEq

namespace FlagFamily

/-- Whether overflow is checked, and whether the operands are unsigned. -/
def add : FlagFamily := ⟨Shape.addHelper, 2,
  [([false, false], .add), ([true, false], .add_ovf), ([true, true], .add_ovf_un)]⟩

def sub : FlagFamily := ⟨Shape.subHelper, 2,
  [([false, false], .sub), ([true, false], .sub_ovf), ([true, true], .sub_ovf_un)]⟩

/-- Whether the operands are unsigned. -/
def div : FlagFamily := ⟨Shape.divHelper, 1, [([false], .div), ([true], .div_un)]⟩

def rem : FlagFamily := ⟨Shape.remHelper, 1, [([false], .rem), ([true], .rem_un)]⟩

/-- The flag of the unsigned shift is the one that is not set. -/
def shr : FlagFamily := ⟨Shape.shrHelper, 1, [([true], .shr), ([false], .shr_un)]⟩

def all : List FlagFamily := [add, sub, div, rem, shr]

/-- The operation that the flags stand for. -/
def member? (family : FlagFamily) (flags : List Bool) : Option Operation :=
  (family.members.find? fun m => m.1 == flags).map Prod.snd

theorem length_of_mem : ∀ family ∈ all, ∀ m ∈ family.members, m.1.length = family.arity := by
  decide

end FlagFamily

/-! ## What is left -/

/-- The templates of whole handlers, with the opcodes that are looked for in their holes. -/
def Shape.wholeBody : List Template :=
  [call, indexedLoad, operandLoad, ldnull, ldstr, ret, indexedStore, throw] ++
  (Opcode.literals.map fun x => constantLoad.fill literalHole x) ++
  [.ldc_i4_0, .ldc_i4_1, .ldc_i4_2, .ldc_i4_3].map fun x => slotStore.fill literalHole x

namespace Outline

/-- Opcodes without which a handler has none of the windows that are looked for in it. -/
def otherWindows : List Opcode :=
  [.and, .or, .xor, .shl, .brtrue_s, .brfalse_s, .ldloc_1, .throw, .pop]

/-- The outline of the handlers that show no shape but the helper. -/
def ofHelper (helper : Template) : Outline :=
  (((unlike Shape.wholeBody).inter (withoutHead [.ldarg_0, .ldarg_0])).inter
    (lacking otherWindows)).inter (helpers fun t => t == helper || !Shape.sought.contains t)

theorem signatures_flagFamily : ∀ family ∈ FlagFamily.all, (ofHelper family.helper).signatures =
    family.members.map fun m => .flagged m.2 family.helper m.1 := by
  decide +kernel

end Outline

/-- The handler and its helpers show no shape that is looked for, except the helper of the family. -/
structure FlagFamily.ShownAlone (family : FlagFamily) (S : BodyStore) (v : VirtualInstruction) :
    Prop where
  decodes : S.Decodes v.body
  helpers : ∀ b, (Scope.widest S.source).IsHelper v.body b →
    ∀ t ∈ Shape.sought, t ≠ family.helper → t.occursIn b.opcodes = false
  whole : ∀ t ∈ Shape.wholeBody, t.accepts v.body.opcodes = false
  head : ¬ [.ldarg_0, .ldarg_0] <+: v.body.opcodes
  windows : ∀ i ∈ v.body, i.opcode ∉ Outline.otherWindows

section
variable {family : FlagFamily} {S : BodyStore} {v : VirtualInstruction} {reach : Reach} {low : Bool}

theorem FlagFamily.ShownAlone.fits (h : family.ShownAlone S v) :
    (Outline.ofHelper family.helper).Fits ⟨v, ⟨S.source, reach⟩⟩ := by
  have hwindows : ∀ o ∈ v.body.opcodes, o ∉ Outline.otherWindows := by
    intro o ho
    obtain ⟨i, hi, rfl⟩ := List.mem_map.1 ho
    exact h.windows i hi
  refine (((Outline.fits_unlike (c := ⟨v, _⟩) h.whole).inter
    (Outline.fits_withoutHead (c := ⟨v, _⟩) h.head)).inter
    (Outline.fits_lacking (c := ⟨v, _⟩) hwindows)).inter (Outline.fits_helpers fun t b hb ht => ?_)
  rw [Bool.or_eq_true, beq_iff_eq, Bool.not_eq_true', ← Bool.not_eq_true, List.contains_iff_mem,
    or_iff_not_imp_left]
  intro hne hmem
  rw [h.helpers b hb t hmem hne] at ht
  cases ht

/-! ## What decides among the members -/

theorem Signature.answers_flagged {c : Candidate} (label : Operation) (helper : Template)
    (flags : List Bool) : (flagged label helper flags).answers low c =
      (c.scope.selects helper flags c.body).isTrue :=
  answers_certain label (.selects flags helper)

theorem Scope.PassesOnly.eq {sc : Scope} {t : Template} {body : Body} {a b : List Bool}
    (ha : sc.PassesOnly t body a) (hb : sc.PassesOnly t body b) (hlen : a.length = b.length) :
    a = b := by
  obtain ⟨index, hpass⟩ := ha.passes
  exact hb.only index a hpass hlen

/-- Where calls are followed, a member answers if its flags are passed, and passed alone. -/
theorem Signature.answers_flagged_callees (hdec : S.Decodes v.body) (label : Operation)
    (helper : Template) (flags : List Bool) :
    (flagged label helper flags).answers low ⟨v, ⟨S.source, .callees⟩⟩ = true ↔
      (Scope.widest S.source).PassesOnly helper v.body flags := by
  rw [answers_flagged, Traced.isTrue_iff]
  exact Scope.selects_eq_true_iff hdec

theorem Signature.answers_flagged_bodyOnly (label : Operation) (helper : Template)
    (flags : List Bool) :
    (flagged label helper flags).answers low ⟨v, ⟨S.source, .bodyOnly⟩⟩ = false := by
  rw [answers_flagged]
  show (Scope.selects ⟨S.source, .bodyOnly⟩ helper flags v.body).isTrue = false
  rw [Scope.selects_bodyOnly, Traced.isTrue_pure]

namespace FlagFamily.ShownAlone

/-- The answer is among the members of the family. -/
theorem identify (h : family.ShownAlone S v) (hfamily : family ∈ all)
    {holds : List Bool × Operation → Bool} (hholds : ∀ m ∈ family.members,
      (Signature.flagged m.2 family.helper m.1).answers low ⟨v, ⟨S.source, reach⟩⟩ = holds m) :
    ((Classifier.mk ⟨S.source, reach⟩ low .standard).identify v).result =
      v.answer ((family.members.find? holds).map Prod.snd) :=
  h.fits.identify_family h.decodes (Outline.signatures_flagFamily family hfamily) hholds

theorem identify_member (h : family.ShownAlone S v) (hfamily : family ∈ all) {flags : List Bool}
    (hlen : flags.length = family.arity)
    (hpass : (Scope.widest S.source).PassesOnly family.helper v.body flags) :
    ((Classifier.mk ⟨S.source, .callees⟩ low .standard).identify v).result =
      v.answer (family.member? flags) := by
  refine h.identify hfamily fun m hm => ?_
  rw [Bool.eq_iff_iff, beq_iff_eq, Signature.answers_flagged_callees h.decodes]
  constructor
  · intro hm'
    exact hm'.eq hpass ((length_of_mem family hfamily m hm).trans hlen.symm)
  · rintro rfl
    exact hpass

theorem identify_none (h : family.ShownAlone S v) (hfamily : family ∈ all)
    (hnone : ∀ m ∈ family.members,
      (Signature.flagged m.2 family.helper m.1).answers low ⟨v, ⟨S.source, reach⟩⟩ = false) :
    ((Classifier.mk ⟨S.source, reach⟩ low .standard).identify v).result =
      .error (.unknownOperation v) := by
  rw [h.identify hfamily hnone, List.find?_eq_none.2 fun _ _ => Bool.false_ne_true]
  rfl

end FlagFamily.ShownAlone

end

/-- **Flags select the member of a family.**  If the handler and its helpers show nothing else, and
calls are followed, the operation is the one that the flags stand for, provided that some call of the
helper passes flags and all that do pass the same.  Otherwise the operation is unknown; so it is
for flags that stand for none, and without a hop. -/
theorem identify_flagFamily (family : FlagFamily) (hfamily : family ∈ FlagFamily.all)
    (v : VirtualInstruction) (S : BodyStore) (config : Config) (k : Classifier)
    (hk : Classifier.ofConfig S.source config .standard = .ok k) (h : family.ShownAlone S v) :
    (config.depth = 1 → ∀ flags, flags.length = family.arity →
      (Scope.widest S.source).PassesOnly family.helper v.body flags →
      (k.identify v).result = v.answer (family.member? flags)) ∧
    ((config.depth = 0 ∨ ∀ flags, flags.length = family.arity →
        ¬ (Scope.widest S.source).PassesOnly family.helper v.body flags) →
      (k.identify v).result = .error (.unknownOperation v)) := by
  obtain ⟨reach, hreach, rfl⟩ := Classifier.ofConfig_eq_ok_iff.1 hk
  refine ⟨fun hdepth flags hlen hpass => ?_, fun hnone => h.identify_none hfamily fun m hm => ?_⟩
  · obtain rfl : Reach.callees = reach := by
      rw [Config.reach, hdepth] at hreach
      exact Except.ok.inj hreach
    exact h.identify_member hfamily hlen hpass
  · cases reach with
    | bodyOnly => exact Signature.answers_flagged_bodyOnly _ _ _
    | callees =>
      rcases hnone with hdepth | hnone
      · rw [Config.reach, hdepth] at hreach
        cases hreach
      · rw [← Bool.not_eq_true, Signature.answers_flagged_callees h.decodes]
        exact hnone m.1 (FlagFamily.length_of_mem family hfamily m hm)

/-- A handler that asks for an addition with overflow check, and calls the helper a second time. -/
def checkedAddition : VirtualInstruction :=
  let call : Instruction := ⟨.call, .method ⟨⟨0x06000001⟩, "Vm::Add", "System.Void"⟩⟩
  ⟨[.ofOpcode .ldarg_0, .ofOpcode .ldc_i4_1, .ofOpcode .ldc_i4_0, call, call, .ofOpcode .ret],
   ⟨⟨0x04000001⟩, ⟨0x04000002⟩⟩, .none⟩

/-- The second call passes no flags and does not count; without a hop neither does. -/
theorem identify_flagFamily_checkedAddition :
    let S := BodyStore.ofList [(⟨0x06000001⟩, Shape.addHelper.opcodes.map .ofOpcode)]
    FlagFamily.add.ShownAlone S checkedAddition ∧
    ((Classifier.mk ⟨S.source, .callees⟩ true .standard).identify checkedAddition).result =
      .ok .add_ovf ∧
    ((Classifier.mk ⟨S.source, .bodyOnly⟩ true .standard).identify checkedAddition).result =
      .error (.unknownOperation checkedAddition) := by
  intro S
  have hsource : ∀ index m, checkedAddition.body.calleeAt index = some m →
      S.source m = .ok (Shape.addHelper.opcodes.map .ofOpcode) := by
    intro index m hm
    obtain ⟨s, hs, -, rfl⟩ := Body.exists_mem_of_calleeAt hm
    have hcallee : ∀ s ∈ checkedAddition.body.callSites,
        S.source s.callee = .ok (Shape.addHelper.opcodes.map .ofOpcode) := by decide +kernel
    exact hcallee s hs
  have hdec : S.Decodes checkedAddition.body := fun index m hm => ⟨_, hsource index m hm⟩
  have halone : FlagFamily.add.ShownAlone S checkedAddition := by
    refine ⟨hdec, ?_, by decide +kernel, by decide, by decide⟩
    rintro b ⟨index, m, hm, hb⟩
    obtain rfl := Except.ok.inj ((hsource index m hm).symm.trans hb)
    decide +kernel
  have hpass : (Scope.widest S.source).PassesOnly Shape.addHelper checkedAddition.body
      [true, false] := (Scope.selects_eq_true_iff hdec).1 (by decide +kernel)
  refine ⟨halone, ?_, ?_⟩
  · exact (identify_flagFamily .add (by decide) checkedAddition S .standard _ rfl halone).1 rfl
      [true, false] rfl hpass
  · exact (identify_flagFamily .add (by decide) checkedAddition S ⟨0, true⟩ _ rfl halone).2
      (.inl rfl)

end CilRecovery
