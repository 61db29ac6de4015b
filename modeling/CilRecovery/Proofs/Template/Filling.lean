import CilRecovery.Proofs.Template.Offsets

/-!
# Filling holes

Holes are filled by name, and once for all: a filling leaves the slots that are not its holes as they
are, so a later filling under the same name finds nothing to fill.  Fillings one after the other are
one *assignment* of opcodes to names, in which the first opcode for a name counts.

    fillings under different names commute                                           (fill_comm)
    a template that is filled step by step accepts a window
      ↔ the window has the opcodes that are fixed, and those assigned     (accepts_fillAll_iff)
    different opcodes under one name exclude each other                   (eq_of_accepts_fillAll)
    all of this for one filling and what may follow                             (fill_algebra)
    some steps lead to a window
      ↔ it has the opcodes that are fixed, and one for each name  (exists_accepts_fillAll_iff)
-/

namespace CilRecovery

variable {n m : String} {a b : Opcode}

/-! ## One slot -/

namespace Slot

variable {s : Slot} {steps : List (String × Opcode)}

theorem holeName?_eq_some_iff : s.holeName? = some n ↔ s = .hole n := by
  cases s <;> simp [holeName?]

theorem holeName?_eq_none_iff : s.holeName? = none ↔ s.isExact = true := by
  cases s <;> simp [holeName?, isExact]

theorem fill_hole : (hole n).fill n a = .exact a := if_pos rfl

theorem fill_of_ne (h : s ≠ .hole n) : s.fill n a = s := by
  cases s with
  | exact o => rfl
  | hole n' => exact if_neg fun heq => h (congrArg hole heq)

/-- What a filling does to a slot. -/
theorem fill_eq : s.fill n a = if s = .hole n then .exact a else s := by
  by_cases h : s = .hole n
  · rw [if_pos h, h, fill_hole]
  · rw [if_neg h, fill_of_ne h]

theorem fill_comm (hne : n ≠ m) : (s.fill n a).fill m b = (s.fill m b).fill n a := by
  by_cases hn : s = .hole n
  · have hm : Slot.hole n ≠ .hole m := fun h => hne (hole.inj h)
    rw [hn, fill_hole, fill_of_ne hm, fill_hole]
    rfl
  · rw [fill_of_ne hn]
    by_cases hm : s = .hole m
    · rw [hm, fill_hole]
      rfl
    · rw [fill_of_ne hm, fill_of_ne hn]

theorem holeName?_fill : (s.fill n a).holeName? = s.holeName?.filter (· != n) := by
  cases s with
  | exact o => rfl
  | hole n' => by_cases h : n' = n <;> simp [fill, holeName?, Option.filter, h]

/-- The slot with the first opcode that the steps have for its name, if it is a hole. -/
def assign (steps : List (String × Opcode)) : Slot → Slot
  | .exact o => .exact o
  | .hole n => (steps.lookup n).elim (.hole n) .exact

theorem assign_exact (o : Opcode) : (exact o).assign steps = .exact o := rfl

theorem assign_hole (n : String) :
    (hole n).assign steps = (steps.lookup n).elim (.hole n) .exact := rfl

theorem assign_nil : s.assign [] = s := by
  cases s <;> rfl

/-- A filling decides before the steps that follow. -/
theorem assign_cons {step : String × Opcode} :
    s.assign (step :: steps) = (s.fill step.1 step.2).assign steps := by
  obtain ⟨n, o⟩ := step
  by_cases h : s = .hole n
  · rw [h, fill_hole, assign_hole, List.lookup_cons_self]
    rfl
  · rw [fill_of_ne h]
    cases s with
    | exact o' => rfl
    | hole n' =>
      have hbeq : (n' == n) = false := beq_eq_false_iff_ne.mpr fun heq => h (congrArg hole heq)
      rw [assign_hole, assign_hole, List.lookup_cons, hbeq]

theorem assign_hole_eq_exact_iff : (hole n).assign steps = .exact a ↔ steps.lookup n = some a := by
  rw [assign_hole]
  cases steps.lookup n with
  | none => simp
  | some o => simp

end Slot

namespace Template

variable {t : Template} {os : List Opcode} {steps steps' : List (String × Opcode)}

/-! ## One filling -/

theorem mem_holes_iff : n ∈ t.holes ↔ .hole n ∈ t.slots := by
  unfold holes
  simp only [List.mem_filterMap, Slot.holeName?_eq_some_iff, exists_eq_right]

theorem isConcrete_iff : t.isConcrete = true ↔ t.holes = [] := by
  unfold isConcrete holes
  rw [List.all_eq_true, List.filterMap_eq_nil_iff]
  simp only [Slot.holeName?_eq_none_iff]

theorem length_fill : (t.fill n a).length = t.length := List.length_map _

theorem holes_fill : (t.fill n a).holes = t.holes.filter (· != n) := by
  unfold holes fill
  rw [List.filterMap_map, List.filter_filterMap]
  exact List.filterMap_congr fun s _ => Slot.holeName?_fill

/-- A filling changes the slots that are its holes, and no others. -/
theorem getElem?_slots_fill (i : Nat) : (t.fill n a).slots[i]? =
    if t.slots[i]? = some (.hole n) then some (.exact a) else t.slots[i]? := by
  unfold fill
  rw [List.getElem?_map]
  cases t.slots[i]? with
  | none => rfl
  | some s =>
    rw [Option.map_some, Slot.fill_eq, apply_ite some]
    simp only [Option.some.injEq]

theorem fill_eq_self_iff : t.fill n a = t ↔ n ∉ t.holes := by
  constructor
  · intro h hn
    rw [← h, holes_fill] at hn
    simp at hn
  · intro hn
    have hslots : t.slots.map (Slot.fill n a) = t.slots.map id :=
      List.map_congr_left fun s hs => Slot.fill_of_ne fun h => hn (mem_holes_iff.mpr (h ▸ hs))
    unfold fill
    rw [hslots, List.map_id]

theorem fill_fill : (t.fill n a).fill n b = t.fill n a := by
  rw [fill_eq_self_iff, holes_fill]
  simp

theorem fill_comm (hne : n ≠ m) : (t.fill n a).fill m b = (t.fill m b).fill n a := by
  unfold fill
  rw [List.map_map, List.map_map]
  exact congrArg mk (List.map_congr_left fun s _ => Slot.fill_comm hne)

/-! ## Fillings one after the other -/

/-- The template with holes filled step by step. -/
def fillAll (t : Template) (steps : List (String × Opcode)) : Template :=
  steps.foldl (fun t step => t.fill step.1 step.2) t

theorem fillAll_cons {step : String × Opcode} :
    t.fillAll (step :: steps) = (t.fill step.1 step.2).fillAll steps := rfl

theorem slots_fillAll : (t.fillAll steps).slots = t.slots.map (Slot.assign steps) := by
  induction steps generalizing t with
  | nil => exact (List.map_id'' (fun _ => Slot.assign_nil) _).symm
  | cons step steps ih =>
    rw [fillAll_cons, ih]
    unfold fill
    rw [List.map_map]
    exact List.map_congr_left fun s _ => Slot.assign_cons.symm

theorem accepts_iff_getElem? : t.accepts os = true ↔
    os.length = t.length ∧
      ∀ (i : Nat) (o : Opcode), os[i]? = some o → t.slots[i]? = some (.exact o) := by
  rw [accepts_iff]
  constructor
  · intro h
    unfold length
    rw [h]
    refine ⟨(List.length_map _).symm, fun i o ho => ?_⟩
    rw [List.getElem?_map, ho]
    rfl
  · rintro ⟨hlen, h⟩
    refine List.ext_getElem? fun i => ?_
    rw [List.getElem?_map]
    cases ho : os[i]? with
    | some o => exact h i o ho
    | none =>
      rw [List.getElem?_eq_none_iff] at ho
      exact List.getElem?_eq_none (hlen.ge.trans ho)

/-- The opcode of a window at each of the slots. -/
theorem exists_getElem?_of_length_eq (hlen : os.length = t.length) {i : Nat} {s : Slot}
    (hs : t.slots[i]? = some s) : ∃ o, os[i]? = some o := by
  have hi : i < t.slots.length := (List.getElem?_eq_some_iff.mp hs).1
  have hlt : i < os.length := hi.trans_eq hlen.symm
  exact ⟨_, List.getElem?_eq_getElem hlt⟩

/-- **The window of an assignment.**  It has the opcodes that the template fixes, and in the holes
those that the steps have first for their names. -/
theorem accepts_fillAll_iff : (t.fillAll steps).accepts os = true ↔
    os.length = t.length ∧
      (∀ (i : Nat) (o : Opcode), t.slots[i]? = some (.exact o) → os[i]? = some o) ∧
      ∀ (i : Nat) (n : String), t.slots[i]? = some (.hole n) → os[i]? = steps.lookup n := by
  rw [accepts_iff_getElem?, slots_fillAll]
  simp only [List.getElem?_map]
  have hlength : (t.fillAll steps).length = t.length := by
    unfold length
    rw [slots_fillAll, List.length_map]
  rw [hlength]
  constructor
  · rintro ⟨hlen, h⟩
    refine ⟨hlen, fun i o hs => ?_, fun i n hs => ?_⟩
    · obtain ⟨o', ho'⟩ := exists_getElem?_of_length_eq hlen hs
      have heq := h i o' ho'
      rw [hs, Option.map_some, Option.some.injEq, Slot.assign_exact, Slot.exact.injEq] at heq
      rw [ho', heq]
    · obtain ⟨o', ho'⟩ := exists_getElem?_of_length_eq hlen hs
      have heq := h i o' ho'
      rw [hs, Option.map_some, Option.some.injEq, Slot.assign_hole_eq_exact_iff] at heq
      rw [ho', heq]
  · rintro ⟨hlen, hexact, hhole⟩
    refine ⟨hlen, fun i o ho => ?_⟩
    have hi : i < t.slots.length := (List.getElem?_eq_some_iff.mp ho).1.trans_eq hlen
    have hs : t.slots[i]? = some t.slots[i] := List.getElem?_eq_getElem hi
    rw [hs, Option.map_some, Option.some.injEq]
    cases hslot : t.slots[i] with
    | exact o' =>
      rw [hslot] at hs
      have hfixed := hexact i o' hs
      rw [ho, Option.some.injEq] at hfixed
      rw [hfixed, Slot.assign_exact]
    | hole n =>
      rw [hslot] at hs
      rw [Slot.assign_hole_eq_exact_iff, ← hhole i n hs, ho]

/-- A hole keeps the opcode that is filled in, whatever is filled afterwards. -/
theorem getElem?_of_accepts_fillAll {i : Nat} (hi : t.slots[i]? = some (.hole n))
    (h : ((t.fill n a).fillAll steps).accepts os = true) : os[i]? = some a := by
  have hsteps : (t.fillAll ((n, a) :: steps)).accepts os = true := h
  obtain ⟨-, -, hholes⟩ := accepts_fillAll_iff.mp hsteps
  rw [hholes i n hi, List.lookup_cons_self]

/-- Members of a family exclude each other, also after further fillings. -/
theorem eq_of_accepts_fillAll (hn : n ∈ t.holes)
    (ha : ((t.fill n a).fillAll steps).accepts os = true)
    (hb : ((t.fill n b).fillAll steps').accepts os = true) : a = b := by
  obtain ⟨i, hi⟩ := List.mem_iff_getElem?.mp (mem_holes_iff.mp hn)
  have hread := getElem?_of_accepts_fillAll hi ha
  rw [getElem?_of_accepts_fillAll hi hb] at hread
  exact (Option.some.inj hread).symm

theorem eq_of_accepts_fill (hn : n ∈ t.holes) (ha : (t.fill n a).accepts os = true)
    (hb : (t.fill n b).accepts os = true) : a = b := by
  have ha' : ((t.fill n a).fillAll []).accepts os = true := ha
  have hb' : ((t.fill n b).fillAll []).accepts os = true := hb
  exact eq_of_accepts_fillAll hn ha' hb'

end Template

/-- **Fillings.**  A filling keeps the length, takes its name off the list of holes, and changes the
slots that are its holes only.  A second one under the same name changes nothing, those under
different names commute, and it has an effect if, and only if, the template has such a hole.  A
template is concrete if it has no holes.  Different opcodes in one hole exclude each other, whatever
is filled in afterwards. -/
theorem fill_algebra (t : Template) (n m : String) (a b : Opcode) :
    (t.fill n a).length = t.length ∧
    (t.fill n a).holes = t.holes.filter (· != n) ∧
    (∀ i : Nat, (t.fill n a).slots[i]? =
      if t.slots[i]? = some (.hole n) then some (.exact a) else t.slots[i]?) ∧
    (t.fill n a).fill n b = t.fill n a ∧
    (n ≠ m → (t.fill n a).fill m b = (t.fill m b).fill n a) ∧
    (t.fill n a = t ↔ n ∉ t.holes) ∧
    (t.isConcrete = true ↔ t.holes = []) ∧
    (n ∈ t.holes → a ≠ b → ∀ steps steps' (window : Body),
      ((t.fill n a).fillAll steps).accepts window.opcodes = true →
      ((t.fill n b).fillAll steps').accepts window.opcodes = false) := by
  refine ⟨Template.length_fill, Template.holes_fill, Template.getElem?_slots_fill,
    Template.fill_fill, Template.fill_comm, Template.fill_eq_self_iff, Template.isConcrete_iff,
    fun hn hne steps steps' window ha => ?_⟩
  rw [← Bool.not_eq_true]
  exact fun hb => hne (Template.eq_of_accepts_fillAll hn ha hb)

/-- A template with two holes of one name and one of another. -/
def threeHoles : Template :=
  ⟨[.exact .ldarg_0, .hole "value", .exact .call, .hole "value", .hole "other"]⟩

/-- The window of one value is none of another value, even if that is filled over with the first. -/
theorem fill_algebra_threeHoles :
    let window : Body := [.ldarg_0, .ldc_i4_3, .call, .ldc_i4_3, .ret].map .ofOpcode
    (threeHoles.fill "value" .ldc_i4_3).fill "other" .ret =
      (threeHoles.fill "other" .ret).fill "value" .ldc_i4_3 ∧
    "value" ∈ threeHoles.holes ∧
    ((threeHoles.fill "value" .ldc_i4_3).fillAll [("other", .ret)]).accepts window.opcodes = true ∧
    ((threeHoles.fill "value" .ldc_i4_1).fillAll
      [("value", .ldc_i4_3), ("other", .ret)]).accepts window.opcodes = false := by
  intro window
  have hn : "value" ∈ threeHoles.holes := by decide
  have haccepts : ((threeHoles.fill "value" .ldc_i4_3).fillAll [("other", .ret)]).accepts
      window.opcodes = true := rfl
  obtain ⟨-, -, -, -, hcomm, -⟩ := fill_algebra threeHoles "value" "other" .ldc_i4_3 .ret
  obtain ⟨-, -, -, -, -, -, -, hother⟩ :=
    fill_algebra threeHoles "value" "other" .ldc_i4_3 .ldc_i4_1
  exact ⟨hcomm (by decide), hn, haccepts, hother hn (by decide) _ _ window haccepts⟩

namespace Template

variable {t : Template} {os : List Opcode}

/-! ## Steps that lead to a window -/

/-- The opcodes that a window has at the holes, under the names of the holes. -/
def readings (t : Template) (os : List Opcode) : List (String × Opcode) :=
  (t.slots.zip os).filterMap fun p => p.1.holeName?.map (·, p.2)

theorem mem_readings_iff :
    (n, a) ∈ t.readings os ↔ ∃ i : Nat, t.slots[i]? = some (.hole n) ∧ os[i]? = some a := by
  unfold readings
  rw [List.mem_filterMap]
  constructor
  · rintro ⟨⟨s, o⟩, hmem, hname⟩
    obtain ⟨i, hi⟩ := List.mem_iff_getElem?.mp hmem
    obtain ⟨hs, ho⟩ := List.getElem?_zip_eq_some.mp hi
    obtain ⟨n', hn', heq⟩ := Option.map_eq_some_iff.mp hname
    cases heq
    rw [Slot.holeName?_eq_some_iff.mp hn'] at hs
    exact ⟨i, hs, ho⟩
  · rintro ⟨i, hs, ho⟩
    have hi : (t.slots.zip os)[i]? = some (.hole n, a) := List.getElem?_zip_eq_some.mpr ⟨hs, ho⟩
    exact ⟨_, List.mem_iff_getElem?.mpr ⟨i, hi⟩, rfl⟩

/-- A hole is assigned what the window has there, if it has the same in all holes of the name. -/
theorem lookup_readings {i : Nat} (hi : t.slots[i]? = some (.hole n)) (ha : os[i]? = some a)
    (hsame : ∀ j : Nat, t.slots[j]? = some (.hole n) → os[i]? = os[j]?) :
    (t.readings os).lookup n = some a := by
  cases h : (t.readings os).lookup n with
  | none =>
    have hne := List.lookup_eq_none_iff.mp h (n, a) (mem_readings_iff.mpr ⟨i, hi, ha⟩)
    simp at hne
  | some o =>
    obtain ⟨before, behind, hsplit, -⟩ := List.lookup_eq_some_iff.mp h
    have hmem : (n, o) ∈ t.readings os := by
      rw [hsplit]
      exact List.mem_append_right _ List.mem_cons_self
    obtain ⟨j, hj, ho⟩ := mem_readings_iff.mp hmem
    rw [← ho, ← hsame j hj, ha]

end Template

/-- **What fillings reach.**  Some steps lead to a template that accepts the window if, and only if,
the window is as long as the template, has the opcodes that the template fixes, and has one opcode
in all holes of one name. -/
theorem exists_accepts_fillAll_iff (t : Template) (window : Body) :
    (∃ steps, (t.fillAll steps).accepts window.opcodes = true) ↔
      window.length = t.length ∧
      (∀ (i : Nat) (o : Opcode), t.slots[i]? = some (.exact o) → window.opcodes[i]? = some o) ∧
      ∀ (i j : Nat) (n : String), t.slots[i]? = some (.hole n) → t.slots[j]? = some (.hole n) →
        window.opcodes[i]? = window.opcodes[j]? := by
  simp only [Template.accepts_fillAll_iff, Body.length_opcodes]
  constructor
  · rintro ⟨steps, hlen, hfixed, hassigned⟩
    refine ⟨hlen, hfixed, fun i j n hi hj => ?_⟩
    rw [hassigned i n hi, hassigned j n hj]
  · rintro ⟨hlen, hfixed, hsame⟩
    refine ⟨t.readings window.opcodes, hlen, hfixed, fun i n hi => ?_⟩
    have hlen' : window.opcodes.length = t.length := window.length_opcodes.trans hlen
    obtain ⟨o, ho⟩ := Template.exists_getElem?_of_length_eq hlen' hi
    rw [Template.lookup_readings hi ho fun j hj => hsame i j n hi hj, ho]

/-- Some steps lead to a window with one opcode in the two holes of one name, and none lead to a window
with two. -/
theorem exists_accepts_fillAll_iff_threeHoles :
    let window (o : Opcode) : Body := [.ldarg_0, .ldc_i4_3, .call, o, .ret].map .ofOpcode
    (∃ steps, (threeHoles.fillAll steps).accepts (window .ldc_i4_3).opcodes = true) ∧
    ¬ ∃ steps, (threeHoles.fillAll steps).accepts (window .ldc_i4_1).opcodes = true := by
  intro window
  refine ⟨⟨[("other", .ret), ("value", .ldc_i4_3)], rfl⟩, fun hsteps => ?_⟩
  obtain ⟨-, -, hsame⟩ := (exists_accepts_fillAll_iff threeHoles (window .ldc_i4_1)).mp hsteps
  cases hsame 1 3 "value" rfl rfl

end CilRecovery
