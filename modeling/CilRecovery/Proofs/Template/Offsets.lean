import CilRecovery.Proofs.Log.Sequence
import CilRecovery.Search.Scope
import Mathlib.Data.List.Sort

/-!
# Windows by their offsets

Whatever is asked about the windows of a template in a body is answered by one list, that of the
offsets at which they start.  The list is in increasing order, so the first window is that of the
least offset; a window at an end of the body is one whose offset is that of the end; and the template
is all of the body if the only window is as long as the body itself.

    offsets increase                                                         (pairwise_offsets)
    a template occurs in a part of the opcodes → it occurs in all of them   (occursIn_of_infix)
    the first window starts at the least offset                            (first?_eq_some_iff)
    a window stands at an end ↔ its offset is among them          (isAt_head_iff, isAt_tail_iff)
    the template is the whole ↔ the lengths are equal and 0 is the only offset   (accepts_iff_eq)
    a callee that the template is all of holds it once                   (countIn_of_entireIn)
    all of this for one body                                             (windows_by_offsets)

The empty template has no windows at all; it is the whole of the empty body, and of no other.
-/

namespace CilRecovery

namespace Template

variable {t : Template} {os : List Opcode} {body : Body}

/-! ## Order -/

theorem le_of_mem_offsetsFrom {start i : Nat} (h : i ∈ t.offsetsFrom start os) : start ≤ i := by
  induction os generalizing start with
  | nil => cases h
  | cons o os ih =>
    unfold offsetsFrom at h
    split at h
    · rcases List.mem_cons.mp h with rfl | hrest
      · exact Nat.le_refl _
      · have := ih hrest
        omega
    · have := ih h
      omega

theorem pairwise_offsetsFrom (t : Template) (start : Nat) (os : List Opcode) :
    (t.offsetsFrom start os).Pairwise (· < ·) := by
  induction os generalizing start with
  | nil => exact .nil
  | cons o os ih =>
    unfold offsetsFrom
    split
    · refine .cons ?_ (ih (start + 1))
      intro i hi
      have := le_of_mem_offsetsFrom hi
      omega
    · exact ih (start + 1)

/-- The offsets come from the left, each once. -/
theorem pairwise_offsets (t : Template) (os : List Opcode) : (t.offsets os).Pairwise (· < ·) := by
  unfold offsets
  split
  · exact .nil
  · exact pairwise_offsetsFrom t 0 os

theorem occursIn_iff : t.occursIn os = true ↔ ∃ i, i ∈ t.offsets os := by
  unfold occursIn
  rw [Bool.not_eq_true', List.isEmpty_eq_false_iff]
  exact ⟨List.exists_mem_of_ne_nil _, fun ⟨_, hi⟩ => List.ne_nil_of_mem hi⟩

/-- A template occurs where it accepts some run of the opcodes. -/
theorem occursIn_iff_exists_infix :
    t.occursIn os = true ↔
      t.isEmpty = false ∧ ∃ window, window <:+: os ∧ t.accepts window = true := by
  rw [occursIn_iff]
  constructor
  · rintro ⟨i, hi⟩
    obtain ⟨hne, -, haccepts⟩ := mem_offsets.mp hi
    have hpart : (os.drop i).take t.length <:+: os :=
      (List.take_prefix _ _).isInfix.trans (List.drop_suffix i os).isInfix
    exact ⟨hne, _, hpart, haccepts⟩
  · rintro ⟨hne, window, ⟨before, behind, rfl⟩, haccepts⟩
    have hlen : window.length = t.length := length_eq_of_accepts haccepts
    refine ⟨before.length, mem_offsets.mpr ⟨hne, ?_, ?_⟩⟩
    · rw [List.length_append, List.length_append]
      omega
    · rw [List.append_assoc, List.drop_left, ← hlen, List.take_left]
      exact haccepts

theorem occursIn_of_infix {os' : List Opcode} (hpart : os <:+: os')
    (h : t.occursIn os = true) : t.occursIn os' = true := by
  obtain ⟨hne, window, hwindow, haccepts⟩ := occursIn_iff_exists_infix.mp h
  exact occursIn_iff_exists_infix.mpr ⟨hne, window, hwindow.trans hpart, haccepts⟩

/-! ## The first window -/

theorem head?_offsets_eq_some_iff {i : Nat} :
    (t.offsets os).head? = some i ↔ i ∈ t.offsets os ∧ ∀ j ∈ t.offsets os, i ≤ j := by
  have hsorted := pairwise_offsets t os
  cases hoffsets : t.offsets os with
  | nil => simp
  | cons first later =>
    rw [hoffsets] at hsorted
    obtain ⟨hfirst, -⟩ := List.pairwise_cons.mp hsorted
    have hleast : ∀ j ∈ first :: later, first ≤ j := by
      intro j hj
      rcases List.mem_cons.mp hj with rfl | hlater
      · exact Nat.le_refl _
      · exact Nat.le_of_lt (hfirst j hlater)
    rw [List.head?_cons, Option.some.injEq]
    constructor
    · rintro rfl
      exact ⟨List.mem_cons_self, hleast⟩
    · rintro ⟨hi, hbefore⟩
      have hle := hbefore first List.mem_cons_self
      have hge := hleast i hi
      omega

/-- The first window of a body starts at the least offset, and lies in the body itself. -/
theorem first?_eq_some_iff {w : Match} :
    t.first? body = some w ↔ ∃ i, i ∈ t.offsets body.opcodes ∧
      (∀ j ∈ t.offsets body.opcodes, i ≤ j) ∧ w = ⟨body, i, t.length, none⟩ := by
  unfold first?
  rw [Option.map_eq_some_iff]
  constructor
  · rintro ⟨i, hi, rfl⟩
    obtain ⟨hmem, hleast⟩ := head?_offsets_eq_some_iff.mp hi
    exact ⟨i, hmem, hleast, rfl⟩
  · rintro ⟨i, hmem, hleast, rfl⟩
    exact ⟨i, head?_offsets_eq_some_iff.mpr ⟨hmem, hleast⟩, rfl⟩

theorem first?_eq_none_iff : t.first? body = none ↔ t.offsets body.opcodes = [] := by
  unfold first?
  rw [Option.map_eq_none_iff, List.head?_eq_none_iff]

/-! ## Ends -/

theorem isAt_head_iff : t.isAt os .head = true ↔ 0 ∈ t.offsets os := by
  unfold isAt
  rw [mem_offsets, Bool.and_eq_true, leadsSlots_iff, Bool.not_eq_true', Nat.zero_add, List.drop_zero]
  rfl

theorem isAt_tail_iff :
    t.isAt os .tail = true ↔ t.length ≤ os.length ∧ os.length - t.length ∈ t.offsets os := by
  unfold isAt
  rw [mem_offsets, Bool.and_eq_true, Bool.and_eq_true, Bool.not_eq_true', decide_eq_true_eq]
  constructor
  · rintro ⟨⟨hne, hle⟩, haccepts⟩
    refine ⟨hle, hne, by omega, ?_⟩
    rw [List.take_of_length_le (by rw [List.length_drop]; omega)]
    exact haccepts
  · rintro ⟨hle, hne, -, haccepts⟩
    rw [List.take_of_length_le (by rw [List.length_drop]; omega)] at haccepts
    exact ⟨⟨hne, hle⟩, haccepts⟩

/-! ## The whole -/

/-- A template is the whole if its window at the head is, and then there is no room for another. -/
theorem accepts_iff_eq (hne : t.isEmpty = false) :
    t.accepts os = true ↔ os.length = t.length ∧ t.offsets os = [0] := by
  constructor
  · intro haccepts
    have hlen : os.length = t.length := length_eq_of_accepts haccepts
    have hmem : ∀ i, i ∈ t.offsets os ↔ i ∈ [0] := by
      intro i
      rw [mem_offsets, List.mem_singleton]
      constructor
      · rintro ⟨-, hle, -⟩
        omega
      · rintro rfl
        refine ⟨hne, by omega, ?_⟩
        rw [List.drop_zero, ← hlen, List.take_length]
        exact haccepts
    exact ⟨hlen, (pairwise_offsets t os).eq_of_mem_iff (List.pairwise_singleton _ 0) hmem⟩
  · rintro ⟨hlen, hoffsets⟩
    have hzero : 0 ∈ t.offsets os := by
      rw [hoffsets]
      exact List.mem_singleton_self 0
    obtain ⟨-, -, haccepts⟩ := mem_offsets.mp hzero
    rw [List.drop_zero, ← hlen, List.take_length] at haccepts
    exact haccepts

/-! ## No template -/

theorem offsets_of_isEmpty (hempty : t.isEmpty = true) : t.offsets os = [] := by
  unfold offsets
  rw [if_pos hempty]

theorem isAt_of_isEmpty (hempty : t.isEmpty = true) (anchor : Anchor) :
    t.isAt os anchor = false := by
  unfold isAt
  rw [hempty]
  cases anchor <;> rfl

theorem accepts_of_isEmpty (hempty : t.isEmpty = true) : t.accepts os = true ↔ os = [] := by
  have hslots : t.slots = [] := List.isEmpty_iff.mp hempty
  rw [accepts_iff, hslots, eq_comm, List.map_eq_nil_iff]

end Template

/-! ## Bodies -/

theorem Body.length_opcodes (body : Body) : body.opcodes.length = body.length := List.length_map _

/-- A window of the opcodes is made of the opcodes of the window. -/
theorem Body.opcodes_window (body : Body) (i n : Nat) :
    opcodes ((body.drop i).take n) = (body.opcodes.drop i).take n := by
  unfold opcodes
  rw [List.map_take, List.map_drop]

/-- A method whose body is the template, and nothing else, holds it once. -/
theorem Scope.countIn_of_entireIn {sc : Scope} {t : Template} {m : MethodRef}
    (hne : t.isEmpty = false) (h : (sc.entireIn t m).result = .ok true) :
    (sc.countIn t m).result = .ok 1 := by
  obtain ⟨b, hb, haccepts⟩ := Traced.bind_eq_ok.mp h
  have hoffsets : t.offsets b.opcodes = [0] :=
    ((Template.accepts_iff_eq hne).mp (Except.ok.inj haccepts)).2
  unfold countIn
  rw [Traced.bind_of_ok hb, hoffsets]
  rfl

/-- **Windows by their offsets.**  The offsets of a template in a body increase, and are the starts
of the windows that it accepts, if it is not empty.  The first window is that of the least of them.
For a template that is not empty, windows at the ends of the body are those at the offsets of the
ends, the template is all of the body if its length is that of the body and its only offset is 0,
and a callee that it is all of holds it once.  The empty template occurs nowhere and at no end, and
is all of the empty body only. -/
theorem windows_by_offsets (t : Template) (body : Body) :
    let offsets := t.offsets body.opcodes
    offsets.Pairwise (· < ·) ∧
    (∀ i, i ∈ offsets ↔ t.isEmpty = false ∧ i + t.length ≤ body.length ∧
      t.accepts (Body.opcodes ((body.drop i).take t.length)) = true) ∧
    (∀ w, t.first? body = some w ↔ ∃ i, i ∈ offsets ∧ (∀ j ∈ offsets, i ≤ j) ∧
      w = ⟨body, i, t.length, none⟩) ∧
    (t.first? body = none ↔ offsets = []) ∧
    (t.isEmpty = false →
      (t.isAt body.opcodes .head = true ↔ 0 ∈ offsets) ∧
      (t.isAt body.opcodes .tail = true ↔
        t.length ≤ body.length ∧ body.length - t.length ∈ offsets) ∧
      (t.accepts body.opcodes = true ↔ body.length = t.length ∧ offsets = [0]) ∧
      ∀ (sc : Scope) (m : MethodRef),
        (sc.entireIn t m).result = .ok true → (sc.countIn t m).result = .ok 1) ∧
    (t.isEmpty = true →
      offsets = [] ∧ (∀ anchor, t.isAt body.opcodes anchor = false) ∧
      (t.accepts body.opcodes = true ↔ body = [])) := by
  intro offsets
  have hlen := body.length_opcodes
  refine ⟨Template.pairwise_offsets t _, ?_, fun w => Template.first?_eq_some_iff,
    Template.first?_eq_none_iff, fun hne => ⟨Template.isAt_head_iff, ?_, ?_, ?_⟩,
    fun hempty => ⟨Template.offsets_of_isEmpty hempty, Template.isAt_of_isEmpty hempty, ?_⟩⟩
  · intro i
    rw [Template.mem_offsets, Body.opcodes_window, hlen]
  · rw [Template.isAt_tail_iff, hlen]
  · rw [Template.accepts_iff_eq hne, hlen]
  · intro sc m
    exact Scope.countIn_of_entireIn hne
  · rw [Template.accepts_of_isEmpty hempty, ← List.length_eq_zero_iff, hlen, List.length_eq_zero_iff]

/-- Among three equal opcodes two in a row occur twice, once at either end, and so are not the whole;
a helper of just two holds them once.  No template at all occurs nowhere. -/
theorem windows_by_offsets_threeOfTwo :
    let t := Template.exact [.nop, .nop]
    let nops (n : Nat) : Body := List.replicate n (.ofOpcode .nop)
    let m : MethodRef := ⟨⟨0x06000001⟩, "Vm::Wait", "System.Void"⟩
    let sc := Scope.widest (BodyStore.ofList [(m.token, nops 2)]).source
    t.isEmpty = false ∧ (Template.exact []).isEmpty = true ∧
    t.offsets (nops 3).opcodes = [0, 1] ∧ t.isAt (nops 3).opcodes .tail = true ∧
    ¬ t.accepts (nops 3).opcodes = true ∧ (sc.countIn t m).result = .ok 1 ∧
    (Template.exact []).offsets (nops 3).opcodes = [] := by
  intro t nops m sc
  have hoffsets : t.offsets (nops 3).opcodes = [0, 1] := rfl
  obtain ⟨-, -, -, -, hfull, -⟩ := windows_by_offsets t (nops 3)
  obtain ⟨-, htail, hwhole, hcount⟩ := hfull rfl
  obtain ⟨-, -, -, -, -, hempty⟩ := windows_by_offsets (.exact []) (nops 3)
  refine ⟨rfl, rfl, hoffsets, htail.mpr ⟨by decide, ?_⟩, ?_, hcount sc m rfl, (hempty rfl).1⟩
  · rw [hoffsets]
    decide
  · intro haccepts
    obtain ⟨-, hsingle⟩ := hwhole.mp haccepts
    rw [hoffsets] at hsingle
    cases hsingle

end CilRecovery
