import CilRecovery.Proofs.Cil.Mnemonic
import CilRecovery.Proofs.Template.Filling
import CilRecovery.Registry.Standard
import Mathlib.Data.List.Forall2
import Mathlib.Tactic.IntervalCases

/-!
# Families by a literal

A family has one member for each entry of its table whose value has an opcode of its own, in the order
of the table.  The member is the base, filled with that opcode, so it accepts the windows that show the
value in the base; and no window shows two values where there is a hole for them.

    shorthand? v = some o ↔ -1 ≤ v ≤ 8 and o is spelled as v          (shorthand?_eq_some_iff)
    (t.fill n a).accepts os ↔ os has the opcodes that are fixed,
      and a in the holes, all of them named n                               (accepts_fill_iff)
    the members are those of the entries, one by one                   (forall₂_literalFamily)
    all of this for any base and table                                (literalFamily_of_table)
-/

namespace CilRecovery

/-! ## The opcodes of small constants -/

namespace Opcode

variable {v w : Int} {o : Opcode}

/-- The spelling of the opcode that loads a small constant. -/
def literalMnemonic (v : Int) : String := "ldc.i4." ++ if v = -1 then "m1" else toString v

theorem mnemonic_of_shorthand? (h : shorthand? v = some o) : o.mnemonic = literalMnemonic v := by
  unfold shorthand? at h
  split at h <;> cases h <;> decide

theorem exists_shorthand?_iff : (∃ o, shorthand? v = some o) ↔ -1 ≤ v ∧ v ≤ 8 := by
  constructor
  · rintro ⟨o, h⟩
    unfold shorthand? at h
    split at h <;> cases h <;> omega
  · rintro ⟨hlow, hhigh⟩
    interval_cases v <;> exact ⟨_, rfl⟩

theorem shorthand?_eq_some_iff :
    shorthand? v = some o ↔ -1 ≤ v ∧ v ≤ 8 ∧ o.mnemonic = literalMnemonic v := by
  constructor
  · intro h
    obtain ⟨hlow, hhigh⟩ := exists_shorthand?_iff.mp ⟨o, h⟩
    exact ⟨hlow, hhigh, mnemonic_of_shorthand? h⟩
  · rintro ⟨hlow, hhigh, hspelled⟩
    obtain ⟨o', h⟩ := exists_shorthand?_iff.mpr ⟨hlow, hhigh⟩
    rw [h, mnemonic_injective (hspelled.trans (mnemonic_of_shorthand? h).symm)]

theorem eq_of_shorthand? (hv : shorthand? v = some o) (hw : shorthand? w = some o) : v = w := by
  unfold shorthand? at hv
  split at hv <;> cases hv
  all_goals
    unfold shorthand? at hw
    split at hw <;> cases hw
    rfl

end Opcode

/-! ## Members -/

namespace Template

variable {t : Template} {n : String} {a : Opcode} {os : List Opcode}

/-- A filled template accepts a window if nothing else is left to be filled. -/
theorem accepts_fill_iff : (t.fill n a).accepts os = true ↔
    os.length = t.length ∧
      (∀ (i : Nat) (o : Opcode), t.slots[i]? = some (.exact o) → os[i]? = some o) ∧
      (∀ i : Nat, t.slots[i]? = some (.hole n) → os[i]? = some a) ∧
      ∀ m ∈ t.holes, m = n := by
  have hfill : t.fill n a = t.fillAll [(n, a)] := rfl
  rw [hfill, accepts_fillAll_iff]
  constructor
  · rintro ⟨hlength, hfixed, hfilled⟩
    refine ⟨hlength, hfixed, fun i hi => ?_, fun m hm => ?_⟩
    · rw [hfilled i n hi, List.lookup_cons_self]
    · obtain ⟨i, hi⟩ := List.mem_iff_getElem?.mp (mem_holes_iff.mp hm)
      obtain ⟨o, ho⟩ := exists_getElem?_of_length_eq hlength hi
      by_contra hne
      rw [hfilled i m hi, List.lookup_cons, beq_eq_false_iff_ne.mpr hne] at ho
      cases ho
  · rintro ⟨hlength, hfixed, hfilled, hnamed⟩
    refine ⟨hlength, hfixed, fun i m hi => ?_⟩
    obtain rfl : m = n := hnamed m (mem_holes_iff.mpr (List.mem_of_getElem? hi))
    rw [hfilled i hi, List.lookup_cons_self]

/-- The window shows the value in the template: it has the opcodes that are fixed, and the opcode of
the value in each hole, all of them holes for a literal. -/
structure ShowsLiteral (base : Template) (value : Int) (window : List Opcode) : Prop where
  length : window.length = base.length
  fixed : ∀ (i : Nat) (o : Opcode), base.slots[i]? = some (.exact o) → window[i]? = some o
  filled : ∀ i : Nat, base.slots[i]? = some (.hole literalHole) →
    window[i]? = Opcode.shorthand? value
  named : ∀ n ∈ base.holes, n = literalHole

theorem accepts_fill_iff_showsLiteral {value : Int} (h : Opcode.shorthand? value = some a) :
    (t.fill literalHole a).accepts os = true ↔ t.ShowsLiteral value os := by
  rw [accepts_fill_iff]
  constructor
  · rintro ⟨hlength, hfixed, hfilled, hnamed⟩
    exact ⟨hlength, hfixed, h ▸ hfilled, hnamed⟩
  · rintro ⟨hlength, hfixed, hfilled, hnamed⟩
    exact ⟨hlength, hfixed, h ▸ hfilled, hnamed⟩

end Template

/-! ## Families -/

variable {α : Type} {base : Template} {table : List (α × Int)}

/-- The entries with a value from -1 to 8. -/
def smallEntries (table : List (α × Int)) : List (α × Int) :=
  table.filter fun e => decide (-1 ≤ e.2 ∧ e.2 ≤ 8)

/-- The template of an entry, under its label. -/
def IsFamilyMember (base : Template) (e : α × Int) (m : α × Template) : Prop :=
  ∃ o, Opcode.shorthand? e.2 = some o ∧ m = (e.1, base.fill literalHole o)

theorem literalFamily_cons_some {label : α} {value : Int} {o : Opcode}
    (h : Opcode.shorthand? value = some o) : literalFamily base ((label, value) :: table) =
      (label, base.fill literalHole o) :: literalFamily base table := by
  simp [literalFamily, h]

theorem literalFamily_cons_none {label : α} {value : Int} (h : Opcode.shorthand? value = none) :
    literalFamily base ((label, value) :: table) = literalFamily base table := by
  simp [literalFamily, h]

/-- No entry with a member is left out or taken twice. -/
theorem forall₂_literalFamily (base : Template) (table : List (α × Int)) :
    List.Forall₂ (IsFamilyMember base) (smallEntries table) (literalFamily base table) := by
  induction table with
  | nil => exact .nil
  | cons e table ih =>
    obtain ⟨label, value⟩ := e
    cases h : Opcode.shorthand? value with
    | some o =>
      have hsmall : -1 ≤ value ∧ value ≤ 8 := Opcode.exists_shorthand?_iff.mp ⟨o, h⟩
      have hentries : smallEntries ((label, value) :: table) =
          (label, value) :: smallEntries table := List.filter_cons_of_pos (decide_eq_true hsmall)
      rw [literalFamily_cons_some h, hentries]
      exact .cons ⟨o, h, rfl⟩ ih
    | none =>
      have hlarge : ¬ (-1 ≤ value ∧ value ≤ 8) := by
        rw [← Opcode.exists_shorthand?_iff, h]
        simp
      have hentries : smallEntries ((label, value) :: table) = smallEntries table :=
        List.filter_cons_of_neg (by simpa using hlarge)
      rw [literalFamily_cons_none h, hentries]
      exact ih

namespace IsFamilyMember

variable {e e' : α × Int} {m m' : α × Template} {os : List Opcode}

theorem label_eq (h : IsFamilyMember base e m) : m.1 = e.1 := by
  obtain ⟨o, -, rfl⟩ := h
  rfl

theorem accepts_iff (h : IsFamilyMember base e m) :
    m.2.accepts os = true ↔ base.ShowsLiteral e.2 os := by
  obtain ⟨o, ho, rfl⟩ := h
  exact Template.accepts_fill_iff_showsLiteral ho

/-- A window that two members accept shows one value. -/
theorem eq_of_accepts (h : IsFamilyMember base e m) (h' : IsFamilyMember base e' m')
    (hhole : literalHole ∈ base.holes) (haccepts : m.2.accepts os = true)
    (haccepts' : m'.2.accepts os = true) : e.2 = e'.2 := by
  obtain ⟨o, ho, rfl⟩ := h
  obtain ⟨o', ho', rfl⟩ := h'
  obtain rfl : o = o' := Template.eq_of_accepts_fill hhole haccepts haccepts'
  exact Opcode.eq_of_shorthand? ho ho'

end IsFamilyMember

/-- **The family of a table.**  Its members are those of the entries with a value from -1 to 8, in the
order of the table and under the labels of the entries.  A member accepts the windows that show the
value of its entry in the base, in the opcode that is spelled as the value; with a hole for a literal
in the base, members of different values accept no window in common. -/
theorem literalFamily_of_table {α : Type} (base : Template) (table : List (α × Int)) :
    let small := smallEntries table
    let family := literalFamily base table
    List.Forall₂ (fun e m => m.1 = e.1 ∧ ∀ window : Body,
      m.2.accepts window.opcodes = true ↔ base.ShowsLiteral e.2 window.opcodes) small family ∧
    (∀ (value : Int) (o : Opcode), Opcode.shorthand? value = some o ↔
      -1 ≤ value ∧ value ≤ 8 ∧ o.mnemonic = Opcode.literalMnemonic value) ∧
    (literalHole ∈ base.holes → ∀ e m e' m', (e, m) ∈ small.zip family →
      (e', m') ∈ small.zip family → e.2 ≠ e'.2 → ∀ window : Body,
      m.2.accepts window.opcodes = true → m'.2.accepts window.opcodes = false) := by
  intro small family
  have hmembers : List.Forall₂ (IsFamilyMember base) small family :=
    forall₂_literalFamily base table
  refine ⟨hmembers.imp fun e m h => ⟨h.label_eq, fun window => h.accepts_iff⟩,
    fun value o => Opcode.shorthand?_eq_some_iff, ?_⟩
  intro hhole e m e' m' hmem hmem' hne window haccepts
  have hm : IsFamilyMember base e m := List.forall₂_zip hmembers hmem
  have hm' : IsFamilyMember base e' m' := List.forall₂_zip hmembers hmem'
  rw [← Bool.not_eq_true]
  exact fun haccepts' => hne (hm.eq_of_accepts hm' hhole haccepts haccepts')

/-- Values of which two have no opcode of their own, and two are equal. -/
def sampleSlots : List (String × Int) := [("three", 3), ("nine", 9), ("minus one", -1),
  ("three again", 3), ("lowest", -2147483648)]

/-- A window that shows 3 is accepted by a member for 3, and by no member for -1. -/
theorem literalFamily_of_table_slots :
    let three := Shape.slotStore.fill literalHole .ldc_i4_3
    let minusOne := Shape.slotStore.fill literalHole .ldc_i4_m1
    let window : Body := [.ldarg_0, .ldc_i4_3, .call, .ret].map .ofOpcode
    literalFamily Shape.slotStore sampleSlots =
      [("three", three), ("minus one", minusOne), ("three again", three)] ∧
    literalHole ∈ Shape.slotStore.holes ∧
    three.accepts window.opcodes = true ∧
    Shape.slotStore.ShowsLiteral 3 window.opcodes ∧
    minusOne.accepts window.opcodes = false := by
  intro three minusOne window
  have hfamily : literalFamily Shape.slotStore sampleSlots =
      [("three", three), ("minus one", minusOne), ("three again", three)] := rfl
  have hhole : literalHole ∈ Shape.slotStore.holes := by decide
  have haccepts : three.accepts window.opcodes = true := by decide
  obtain ⟨hmembers, -, hexclude⟩ := literalFamily_of_table Shape.slotStore sampleSlots
  have hthree : (("three", (3 : Int)), ("three", three)) ∈
      (smallEntries sampleSlots).zip (literalFamily Shape.slotStore sampleSlots) :=
    List.mem_cons_self
  have hminusOne : (("minus one", (-1 : Int)), ("minus one", minusOne)) ∈
      (smallEntries sampleSlots).zip (literalFamily Shape.slotStore sampleSlots) :=
    List.mem_cons_of_mem _ List.mem_cons_self
  obtain ⟨-, hshows⟩ := List.forall₂_zip hmembers hthree
  exact ⟨hfamily, hhole, haccepts, (hshows window).mp haccepts,
    hexclude hhole _ _ _ _ hthree hminusOne (by decide) window haccepts⟩

end CilRecovery
