import CilRecovery.Cil.Instruction
import CilRecovery.Template.Basic

/-!
# Windows of a body

The places at which a template occurs among the opcodes of a body.  `offsets` lists them from the
left, overlaps included; the empty template occurs nowhere.

    i ∈ t.offsets os ↔ t ≠ ∅ ∧ i + |t| ≤ |os| ∧ t.accepts ((os.drop i).take |t|)     (mem_offsets)

A `Match` is a window that has been found: the body that it lies in, where it starts and how long
it is, and, if that body belongs to a called method, which call led there.
-/

namespace CilRecovery

inductive Anchor where
  | head | tail
deriving DecidableEq

namespace Template

/-! ## Occurrences -/

/-- Whether the opcodes begin with a window that the slots accept. -/
def leadsSlots : List Slot → List Opcode → Bool
  | [], _ => true
  | _ :: _, [] => false
  | s :: ss, o :: os => s.accepts o && leadsSlots ss os

/-- The offsets at which the template leads, where the first opcode has offset `start`. -/
def offsetsFrom (t : Template) (start : Nat) : List Opcode → List Nat
  | [] => []
  | o :: os =>
    if leadsSlots t.slots (o :: os) then start :: offsetsFrom t (start + 1) os
    else offsetsFrom t (start + 1) os

def offsets (t : Template) (os : List Opcode) : List Nat :=
  if t.isEmpty then [] else offsetsFrom t 0 os

def occursIn (t : Template) (os : List Opcode) : Bool := !(t.offsets os).isEmpty

/-- Whether a window of the template stands at an end. -/
def isAt (t : Template) (os : List Opcode) : Anchor → Bool
  | .head => !t.isEmpty && leadsSlots t.slots os
  | .tail => !t.isEmpty && decide (t.length ≤ os.length) &&
      t.accepts (os.drop (os.length - t.length))

theorem leadsSlots_iff {ss : List Slot} {os : List Opcode} :
    leadsSlots ss os = true ↔ ss.length ≤ os.length ∧ acceptsSlots ss (os.take ss.length) = true := by
  induction ss generalizing os with
  | nil => simp [leadsSlots, acceptsSlots]
  | cons s ss ih =>
    cases os with
    | nil => simp [leadsSlots]
    | cons o os => simp [leadsSlots, acceptsSlots, ih, and_left_comm]

theorem mem_offsetsFrom {t : Template} {start i : Nat} {os : List Opcode}
    (ht : t.isEmpty = false) :
    i ∈ t.offsetsFrom start os ↔ ∃ k, i = start + k ∧ leadsSlots t.slots (os.drop k) = true := by
  induction os generalizing start with
  | nil =>
    obtain ⟨ss⟩ := t
    cases ss with
    | nil => simp [isEmpty] at ht
    | cons s ss => simp [offsetsFrom, leadsSlots]
  | cons o os ih =>
    have step : (∃ k, i = start + k ∧ leadsSlots t.slots ((o :: os).drop k) = true) ↔
        (i = start ∧ leadsSlots t.slots (o :: os) = true) ∨ i ∈ t.offsetsFrom (start + 1) os := by
      rw [ih]
      constructor
      · rintro ⟨k, hk, hl⟩
        cases k with
        | zero => exact .inl ⟨hk, hl⟩
        | succ k => exact .inr ⟨k, by omega, hl⟩
      · rintro (⟨hi, hl⟩ | ⟨k, hk, hl⟩)
        · exact ⟨0, hi, hl⟩
        · exact ⟨k + 1, by omega, hl⟩
    rw [step, offsetsFrom]
    split <;> simp_all

/-- The offsets of a template are the starts of the windows that it accepts. -/
theorem mem_offsets {t : Template} {i : Nat} {os : List Opcode} :
    i ∈ t.offsets os ↔ t.isEmpty = false ∧ i + t.length ≤ os.length ∧
      t.accepts ((os.drop i).take t.length) = true := by
  cases ht : t.isEmpty with
  | true => simp [offsets, ht]
  | false =>
    have hpos : 0 < t.length := by
      simpa [isEmpty, length, List.length_pos_iff, List.isEmpty_eq_false_iff] using ht
    simp only [offsets, ht, Bool.false_eq_true, if_false, mem_offsetsFrom ht, leadsSlots_iff,
      Nat.zero_add]
    constructor
    · rintro ⟨k, rfl, hl, ha⟩
      simp only [List.length_drop] at hl
      have : i + t.slots.length ≤ os.length := by
        simp only [length] at hpos
        omega
      exact ⟨trivial, this, ha⟩
    · rintro ⟨-, hl, ha⟩
      refine ⟨i, rfl, ?_, ha⟩
      simp only [List.length_drop]
      simp only [length] at hl
      omega

end Template

/-! ## Matches -/

structure Match where
  body : Body
  offset : Nat
  length : Nat
  /-- The position of the call, in the body searched, whose callee holds the window. -/
  callSite : Option Nat
deriving DecidableEq

namespace Match

def whole (body : Body) : Match := ⟨body, 0, body.length, none⟩

/-- The first `length` instructions of a body, or all if it has fewer. -/
def head (body : Body) (length : Nat) : Match := ⟨body, 0, min length body.length, none⟩

/-- The same window, reached through a call. -/
def via (m : Match) (callSite : Nat) : Match := { m with callSite := some callSite }

def instructions (m : Match) : List Instruction := (m.body.drop m.offset).take m.length

def isEmpty (m : Match) : Bool := m.length == 0

/-- Whether the window lies in a called method. -/
def isIndirect (m : Match) : Bool := m.callSite.isSome

end Match

/-- The leftmost window of a body that the template accepts. -/
def Template.first? (t : Template) (body : Body) : Option Match :=
  (t.offsets body.opcodes).head?.map fun offset => ⟨body, offset, t.length, none⟩

theorem Template.isSome_first? (t : Template) (body : Body) :
    (t.first? body).isSome = t.occursIn body.opcodes := by
  unfold first? occursIn
  cases t.offsets body.opcodes <;> rfl

end CilRecovery
