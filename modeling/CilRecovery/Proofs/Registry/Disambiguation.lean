import CilRecovery.Proofs.Registry.Evidence
import CilRecovery.Proofs.Registry.Recognition

/-!
# Which standard rules can hold together

The standard rules that look at the whole handler exclude each other and every rule that reads
operands or single windows, so among them the order of the table decides nothing; what remains
beside them are the rules that search the handler or its helpers for a window of arithmetic.  The
members of a family exclude each other, too.

    the tests in question leave evidence that clashes     (wholeBody_conflicts, family_conflicts)
    the rules in question do not hold together                           (standard_disambiguated)

Both need that the virtual machine keeps arguments and locals in different fields.
-/

namespace CilRecovery

/-! ## Families of operations -/

namespace Operation

/-- The operations that are recognised by the opcodes of the whole handler. -/
def wholeBody : List Operation :=
  [.call, .ldarg, .ldarg_s, .ldloc, .ldloc_s, .ldc_i4, .ldc_i4_s, .ldc_i8, .ldc_r4, .ldc_r8,
   .ldc_i4_0, .ldc_i4_1, .ldc_i4_2, .ldc_i4_3, .ldc_i4_4, .ldc_i4_5, .ldc_i4_6, .ldc_i4_7,
   .ldc_i4_8, .ldc_i4_m1, .ldnull, .ldstr, .ret, .throw, .stloc, .stloc_s, .stloc_0, .stloc_1,
   .stloc_2, .stloc_3]

/-- The operations that are recognised by one window in the handler or its callees. -/
def searched : List Operation := [.and, .or, .xor, .shl]

/-- The families whose members call one helper with different flags. -/
def flagFamilies : List (List Operation) :=
  [[.add, .add_ovf, .add_ovf_un], [.sub, .sub_ovf, .sub_ovf_un], [.div, .div_un], [.rem, .rem_un],
   [.shr, .shr_un]]

/-- The loads from a fixed index of a store. -/
def slotLoads : List Operation :=
  [.ldarg_0, .ldarg_1, .ldarg_2, .ldarg_3, .ldloc_0, .ldloc_1, .ldloc_2, .ldloc_3]

/-- The families whose members search for one window and read indices of different width. -/
def widthFamilies : List (List Operation) := [[.ldarga, .ldarga_s], [.starg, .starg_s]]

/-- The families of which a handler has one member at most. -/
def exclusiveFamilies : List (List Operation) := slotLoads :: flagFamilies ++ widthFamilies

end Operation

/-! ## The table -/

namespace Signature

/-- The evidence of a test for the whole handler clashes with that of any other test, unless that
one searches for arithmetic. -/
theorem wholeBody_conflicts : (standard.all fun s => !Operation.wholeBody.contains s.label ||
    standard.all fun t => s.label == t.label || Operation.searched.contains t.label ||
      Operation.flagFamilies.flatten.contains t.label || s.test.conflicts t.test) = true := by
  decide +kernel

theorem family_conflicts : (Operation.exclusiveFamilies.all fun family =>
    let members := standard.filter fun s => family.contains s.label
    members.all fun s => members.all fun t => s.label == t.label || s.test.conflicts t.test) =
      true := by
  decide +kernel

theorem conflicts_of_wholeBody {s t : Signature} (hs : s ∈ standard) (ht : t ∈ standard)
    (hw : s.label ∈ Operation.wholeBody) (hne : s.label ≠ t.label)
    (hsearch : t.label ∉ Operation.searched) (hflag : t.label ∉ Operation.flagFamilies.flatten) :
    s.test.conflicts t.test = true := by
  have hrow := List.all_eq_true.1 wholeBody_conflicts s hs
  rw [List.contains_iff_mem.2 hw, Bool.not_true, Bool.false_or] at hrow
  have hcell := List.all_eq_true.1 hrow t ht
  simp only [Bool.or_eq_true, beq_iff_eq, List.contains_iff_mem] at hcell
  rcases hcell with ((h | h) | h) | h
  · exact absurd h hne
  · exact absurd h hsearch
  · exact absurd h hflag
  · exact h

theorem conflicts_of_family {family : List Operation} (hf : family ∈ Operation.exclusiveFamilies)
    {s t : Signature} (hs : s ∈ standard) (ht : t ∈ standard) (hsf : s.label ∈ family)
    (htf : t.label ∈ family) (hne : s.label ≠ t.label) : s.test.conflicts t.test = true := by
  have hmem : ∀ u ∈ standard, u.label ∈ family →
      u ∈ standard.filter fun s => family.contains s.label := fun u hu huf =>
    List.mem_filter.2 ⟨hu, List.contains_iff_mem.2 huf⟩
  have hrow := List.all_eq_true.1 (List.all_eq_true.1 family_conflicts family hf) s (hmem s hs hsf)
  have hcell := List.all_eq_true.1 hrow t (hmem t ht htf)
  rw [Bool.or_eq_true, beq_iff_eq] at hcell
  exact hcell.resolve_left hne

end Signature

namespace Registry

section
variable {c : Candidate} (hne : c.instruction.storage.arguments ≠ c.instruction.storage.locals)

include hne

/-- Beside a rule for the whole handler only a search for arithmetic can hold. -/
theorem recognises_beside_wholeBody {a b : Operation} (ha : a ∈ Operation.wholeBody)
    (hac : standard.Recognises c a) (hbc : standard.Recognises c b) :
    b = a ∨ b ∈ Operation.searched ∨ ∃ family ∈ Operation.flagFamilies, b ∈ family := by
  obtain ⟨s, hs, rfl, hsc⟩ := recognises_standard_iff.1 hac
  obtain ⟨t, ht, rfl, htc⟩ := recognises_standard_iff.1 hbc
  apply Classical.byContradiction
  intro h
  simp only [not_or] at h
  obtain ⟨hst, hsearch, hflag⟩ := h
  have hflag' : t.label ∉ Operation.flagFamilies.flatten := by
    rw [List.mem_flatten]
    exact hflag
  exact Test.not_both_of_conflicts hne
    (Signature.conflicts_of_wholeBody hs ht ha (Ne.symm hst) hsearch hflag') hsc htc

/-- Of a family at most one member is recognised. -/
theorem eq_of_recognises {family : List Operation} (hf : family ∈ Operation.exclusiveFamilies)
    {a b : Operation} (ha : a ∈ family) (hb : b ∈ family) (hac : standard.Recognises c a)
    (hbc : standard.Recognises c b) : a = b := by
  obtain ⟨s, hs, rfl, hsc⟩ := recognises_standard_iff.1 hac
  obtain ⟨t, ht, rfl, htc⟩ := recognises_standard_iff.1 hbc
  apply Classical.byContradiction
  intro hst
  exact Test.not_both_of_conflicts hne (Signature.conflicts_of_family hf hs ht ha hb hst) hsc htc

end

/-- **No two of these rules hold together.**  A rule for the whole handler excludes every other rule
but those that search for arithmetic; a slot is loaded from one store at one index; a family has one
member at a time. -/
theorem standard_disambiguated (c : Candidate)
    (hne : c.instruction.storage.arguments ≠ c.instruction.storage.locals) :
    (∀ a ∈ Operation.wholeBody, standard.Recognises c a → ∀ b, standard.Recognises c b →
      b = a ∨ b ∈ Operation.searched ∨ ∃ family ∈ Operation.flagFamilies, b ∈ family) ∧
    (∀ a ∈ Operation.slotLoads, ∀ b ∈ Operation.slotLoads, standard.Recognises c a →
      standard.Recognises c b → a = b) ∧
    (∀ family ∈ Operation.flagFamilies ++ Operation.widthFamilies, ∀ a ∈ family, ∀ b ∈ family,
      standard.Recognises c a → standard.Recognises c b → a = b) := by
  refine ⟨fun a ha hac b hbc => ?_, fun a ha b hb => ?_, fun family hf a ha b hb => ?_⟩
  · exact recognises_beside_wholeBody hne ha hac hbc
  · exact eq_of_recognises hne List.mem_cons_self ha hb
  · exact eq_of_recognises hne (List.mem_cons_of_mem _ hf) ha hb

/-- A load of an argument whose last call leads to a helper that holds the shape of `and`. -/
def argumentLoad : Candidate where
  instruction :=
    ⟨[.ofOpcode .ldarg_1, .ofOpcode .castclass, .ofOpcode .stloc_0, .ofOpcode .ldarg_0,
      .ofOpcode .ldarg_0, ⟨.ldfld, .field ⟨⟨0x04000001⟩, "a"⟩⟩, .ofOpcode .ldloc_0,
      ⟨.callvirt, .method ⟨⟨0x0a000001⟩, "r", fullIndexType⟩⟩, .ofOpcode .ldelem,
      .ofOpcode .callvirt, ⟨.call, .method ⟨⟨0x06000001⟩, "h", ""⟩⟩, .ofOpcode .ret],
     ⟨⟨0x04000001⟩, ⟨0x04000002⟩⟩, .none⟩
  scope := .widest (BodyStore.ofList [(⟨0x06000001⟩, Shape.and.opcodes.map .ofOpcode)]).source

/-- Two rules do hold there, and no third one but a search for arithmetic. -/
theorem standard_disambiguated_argumentLoad :
    argumentLoad.instruction.storage.arguments ≠ argumentLoad.instruction.storage.locals ∧
    standard.Recognises argumentLoad .ldarg ∧ standard.Recognises argumentLoad .and ∧
    ∀ b, standard.Recognises argumentLoad b →
      b = .ldarg ∨ b ∈ Operation.searched ∨ ∃ family ∈ Operation.flagFamilies, b ∈ family := by
  have hne : argumentLoad.instruction.storage.arguments ≠
      argumentLoad.instruction.storage.locals := by decide
  have hload : standard.Recognises argumentLoad .ldarg := recognises_standard_iff.2
    ⟨.indexedLoad .ldarg fullIndexType .arguments, by decide +kernel, rfl, by decide +kernel⟩
  have hand : standard.Recognises argumentLoad .and := recognises_standard_iff.2
    ⟨.reached .and Shape.and, by decide +kernel, rfl, by decide +kernel⟩
  exact ⟨hne, hload, hand, (standard_disambiguated argumentLoad hne).1 .ldarg (by decide) hload⟩

end Registry

end CilRecovery
