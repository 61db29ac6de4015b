import CilRecovery.Proofs.Cil.Mnemonic
import CilRecovery.Proofs.Template.Filling
import CilRecovery.Proofs.Text.Separated
import CilRecovery.Virtual.Instruction
import Mathlib.Data.Set.List

/-!
# Rendered templates

Slots are joined by `, `.  As long as no name of a hole contains a `, ` of its own, a rendered template
falls into the rendered slots again, and a rendered slot tells the slot: an opcode by its mnemonic,
in which no bracket occurs, and a hole by the name between its brackets.  The text of a virtual
instruction ends in its opcodes, rendered in the same way.

    the parts of t.render are the rendered slots                                (parts_render)
    t.render = t'.render → t = t'                                            (eq_of_render_eq)
    the parts of (exact os).render are read as os               (map_ofMnemonic?_parts_render)
    v.render = v'.render ↔ the kinds of operand and the opcodes agree          (render_eq_iff)
    all of this for any templates and virtual instructions                 (render_determines)
-/

namespace CilRecovery

/-! ## One slot -/

namespace Slot

variable {s : Slot}

theorem render_ne_empty (s : Slot) : s.render ≠ "" := by
  cases s with
  | exact o => exact o.mnemonic_ne_empty
  | hole n =>
    unfold render
    simp

/-- No bracket occurs in a mnemonic. -/
theorem render_exact_ne_hole (o : Opcode) (n : String) : (exact o).render ≠ (hole n).render := by
  intro h
  apply o.notMem_mnemonic (c := '<') rfl (by decide)
  have hchars : o.mnemonic = "<" ++ n ++ ">" := h
  rw [hchars]
  simp

theorem render_injective : Function.Injective render := by
  intro s s' h
  cases s with
  | exact o =>
    cases s' with
    | exact o' => rw [Opcode.mnemonic_injective h]
    | hole n' => exact absurd h (render_exact_ne_hole o n')
  | hole n =>
    cases s' with
    | exact o' => exact absurd h.symm (render_exact_ne_hole o' n)
    | hole n' =>
      have hopen : "<" ++ n = "<" ++ n' := (String.append_left_inj ">").mp h
      rw [(String.append_right_inj "<").mp hopen]

/-- The brackets do not complete a separator. -/
theorem contains_render_eq_false (h : ∀ n, s = .hole n → Text.contains n ", " = false) :
    Text.contains s.render ", " = false := by
  cases s with
  | exact o =>
    have hcomma : ',' ∉ o.mnemonic.toList := o.notMem_mnemonic rfl (by decide)
    exact Text.contains_eq_false_of_notMem (by decide) hcomma
  | hole n =>
    have hname := h n rfl
    rw [← Bool.not_eq_true, Text.contains_iff] at hname ⊢
    have hsep : (", " : String).toList = [','] ++ [' '] := rfl
    have hchars : (hole n).render.toList = '<' :: (n.toList ++ ['>']) := by simp [render]
    rw [hchars, List.infix_cons_iff, List.infix_concat_iff]
    rintro (hfront | hback | hinner)
    · simp [hsep] at hfront
    · rw [hsep, List.suffix_concat_iff] at hback
      obtain hnil | ⟨l, hl, -⟩ := hback
      · cases hnil
      · obtain ⟨-, hlast⟩ := List.append_inj' hl rfl
        simp at hlast
    · exact hname hinner

end Slot

/-! ## Templates -/

namespace Template

variable {t t' : Template}

theorem render_eq_empty_iff : t.render = "" ↔ t.slots = [] := by
  unfold render
  cases t.slots with
  | nil => simp
  | cons s ss =>
    have hne : s.render ≠ "" := s.render_ne_empty
    cases ss with
    | nil => simp [hne]
    | cons s' ss => simp [String.intercalate_cons_cons, hne]

theorem parts_render (hne : t.slots ≠ []) (h : ∀ n ∈ t.holes, Text.contains n ", " = false) :
    Text.parts ", " t.render = t.slots.map Slot.render := by
  apply Text.parts_intercalate (by decide)
  · simpa using hne
  · intro p hp
    obtain ⟨s, hs, rfl⟩ := List.mem_map.mp hp
    apply Text.endsAt_commaSpace
    apply Slot.contains_render_eq_false
    rintro n rfl
    exact h n (mem_holes_iff.mpr hs)

theorem eq_of_render_eq (h : ∀ n ∈ t.holes, Text.contains n ", " = false)
    (h' : ∀ n ∈ t'.holes, Text.contains n ", " = false) (heq : t.render = t'.render) : t = t' := by
  have hempty : t.slots = [] ↔ t'.slots = [] := by
    rw [← render_eq_empty_iff, heq, render_eq_empty_iff]
  have hslots : t.slots = t'.slots := by
    by_cases hnil : t.slots = []
    · rw [hnil, hempty.mp hnil]
    · apply List.map_injective_iff.mpr Slot.render_injective
      rw [← parts_render hnil h, heq, parts_render (mt hempty.mpr hnil) h']
  cases t
  cases t'
  exact congrArg mk hslots

theorem exact_injective : Function.Injective exact := by
  intro os os' h
  have hslots : os.map Slot.exact = os'.map Slot.exact := congrArg slots h
  exact List.map_injective_iff.mpr (fun _ _ => Slot.exact.inj) hslots

theorem holes_exact (os : List Opcode) : (exact os).holes = [] := by
  unfold holes exact
  simp [List.filterMap_map, Slot.holeName?, Function.comp_def]

theorem exists_eq_exact (h : t.isConcrete = true) : ∃ os, t = exact os := by
  have hslots : t.slots ∈ Set.range (List.map Slot.exact) := by
    rw [Set.range_list_map]
    intro s hs
    have hexact : s.isExact = true := List.all_eq_true.mp h s hs
    cases s with
    | exact o => exact Set.mem_range_self o
    | hole n => cases hexact
  obtain ⟨os, hos⟩ := hslots
  exact ⟨os, congrArg mk hos.symm⟩

theorem render_exact (os : List Opcode) :
    (exact os).render = ", ".intercalate (os.map Opcode.mnemonic) := by
  unfold render exact
  rw [List.map_map]
  rfl

/-- The opcodes of a template without holes are read back. -/
theorem map_ofMnemonic?_parts_render {os : List Opcode} (hne : os ≠ []) :
    (Text.parts ", " (exact os).render).map Opcode.ofMnemonic? = os.map some := by
  have hslots : (exact os).slots ≠ [] := by simpa [exact] using hne
  have hholes : ∀ n ∈ (exact os).holes, Text.contains n ", " = false := by simp [holes_exact]
  rw [parts_render hslots hholes, exact, List.map_map, List.map_map]
  exact List.map_congr_left fun o _ => o.ofMnemonic?_mnemonic

end Template

/-! ## Virtual instructions -/

theorem OperandKind.name_injective : Function.Injective OperandKind.name := by
  intro k k' h
  apply Option.some.inj
  rw [← ofName?_name k, h, ofName?_name]

theorem OperandKind.comma_notMem_name (k : OperandKind) : ',' ∉ k.name.toList := by
  cases k <;> decide

namespace VirtualInstruction

variable {v v' : VirtualInstruction}

/-- The text from the declared kind on. -/
theorem render_eq (v : VirtualInstruction) : v.render = "virtual instruction (operand " ++
    (v.operandKind.name ++ (", " ++ (toString v.body.length ++ (" body instructions: " ++
      ((Template.exact v.body.opcodes).render ++ ")"))))) := by
  unfold render
  simp only [Template.render_exact, String.append_assoc]

theorem render_eq_iff : v.render = v'.render ↔
    v.operandKind = v'.operandKind ∧ v.body.opcodes = v'.body.opcodes := by
  constructor
  · intro h
    rw [render_eq, render_eq, String.append_right_inj] at h
    obtain ⟨hname, hlength⟩ := Text.append_separator_inj rfl v.operandKind.comma_notMem_name
      v'.operandKind.comma_notMem_name h
    obtain ⟨-, hopcodes⟩ := Text.append_separator_inj rfl (Text.space_notMem_toString _)
      (Text.space_notMem_toString _) hlength
    have hrender := (String.append_left_inj ")").mp hopcodes
    refine ⟨OperandKind.name_injective hname, Template.exact_injective ?_⟩
    apply Template.eq_of_render_eq _ _ hrender <;> simp [Template.holes_exact]
  · rintro ⟨hkind, hopcodes⟩
    have hlength : v.body.length = v'.body.length := by
      simpa [Body.opcodes] using congrArg List.length hopcodes
    rw [render_eq, render_eq, hkind, hopcodes, hlength]

end VirtualInstruction

/-- **Rendered shapes can be read back.**  Templates whose names of holes contain no `, ` are told
apart by their texts.  The text of a template without holes, split at each `, `, gives back its
opcodes, if it has any; no text is read as an opcode but its mnemonic.  Two virtual instructions have
the same text if, and only if, they declare the same kind of operand and have the same opcodes. -/
theorem render_determines :
    (∀ t t' : Template, (∀ n ∈ t.holes, Text.contains n ", " = false) →
      (∀ n ∈ t'.holes, Text.contains n ", " = false) → t.render = t'.render → t = t') ∧
    (∀ t : Template, t.isConcrete = true → t.isEmpty = false → ∃ os, t = .exact os ∧
      (Text.parts ", " t.render).map Opcode.ofMnemonic? = os.map some) ∧
    (∀ (s : String) (o : Opcode), Opcode.ofMnemonic? s = some o ↔ s = o.mnemonic) ∧
    (∀ v v' : VirtualInstruction, v.render = v'.render ↔
      v.operandKind = v'.operandKind ∧ v.body.opcodes = v'.body.opcodes) := by
  refine ⟨fun t t' => Template.eq_of_render_eq, ?_,
    fun s o => Opcode.ofMnemonic?_eq_some_iff, fun v v' => VirtualInstruction.render_eq_iff⟩
  intro t hconcrete hnonempty
  obtain ⟨os, rfl⟩ := Template.exists_eq_exact hconcrete
  have hne : os ≠ [] := by
    rintro rfl
    cases hnonempty
  exact ⟨os, rfl, Template.map_ofMnemonic?_parts_render hne⟩

/-- A comma in a name does no harm, and where the machine keeps its values is not rendered. -/
theorem render_determines_commas :
    let t : Template := ⟨[.exact .ldarg_0, .hole "a,b", .exact .ret]⟩
    let t' : Template := ⟨[.exact .ldarg_0, .hole "a,c", .exact .ret]⟩
    let body : Body := [.ofOpcode .ldarg_0, .ofOpcode .ret]
    let v : VirtualInstruction := ⟨body, ⟨⟨0x04000001⟩, ⟨0x04000002⟩⟩, .int32⟩
    let v' : VirtualInstruction := ⟨body, ⟨⟨0x04000002⟩, ⟨0x04000001⟩⟩, .int32⟩
    t.render ≠ t'.render ∧
    (∃ os, Template.exact body.opcodes = .exact os ∧
      (Text.parts ", " (Template.exact body.opcodes).render).map Opcode.ofMnemonic? =
        os.map some) ∧
    Opcode.ofMnemonic? "ldarg.0" = some .ldarg_0 ∧
    v ≠ v' ∧ v.render = v'.render := by
  intro t t' body v v'
  obtain ⟨hrender, hread, hmnemonic, hvirtual⟩ := render_determines
  refine ⟨fun h => ?_, hread _ (by decide) (by decide), (hmnemonic _ _).mpr rfl, by decide,
    (hvirtual v v').mpr ⟨rfl, rfl⟩⟩
  have heq : t = t' := hrender t t' (by decide) (by decide) h
  exact absurd heq (by decide)

/-- A separator within a name is read as one between slots. -/
example : (⟨[.hole "a>, <b"]⟩ : Template).render = (⟨[.hole "a", .hole "b"]⟩ : Template).render := by
  decide

end CilRecovery
