import CilRecovery.Cil.Opcode

/-!
# Templates

A template is a sequence of slots, each either one opcode or a named hole.  It accepts one sequence
of opcodes, that of its slots; a hole accepts nothing, so a template has to be filled before it can
match.  Operands play no part.

    t.accepts os ↔ t.slots = os.map .exact          (accepts_iff)
-/

namespace CilRecovery

/-- One position of a template. -/
inductive Slot where
  | exact (opcode : Opcode)
  /-- A hole that is to be filled under its name. -/
  | hole (name : String)
deriving DecidableEq

namespace Slot

def accepts : Slot → Opcode → Bool
  | .exact expected, o => expected == o
  | .hole _, _ => false

/-- The slot with an opcode in place of the hole `name`. -/
def fill (name : String) (o : Opcode) : Slot → Slot
  | .hole n => if n = name then .exact o else .hole n
  | .exact expected => .exact expected

def isExact : Slot → Bool
  | .exact _ => true
  | .hole _ => false

/-- The name of the hole, if the slot is one. -/
def holeName? : Slot → Option String
  | .exact _ => none
  | .hole n => some n

/-- The mnemonic of a fixed opcode, or the name of a hole in angle brackets. -/
def render : Slot → String
  | .exact o => o.mnemonic
  | .hole n => "<" ++ n ++ ">"

theorem accepts_iff {s : Slot} {o : Opcode} : s.accepts o = true ↔ s = .exact o := by
  cases s <;> simp [accepts]

end Slot

structure Template where
  slots : List Slot
deriving DecidableEq

namespace Template

/-! ## Construction -/

/-- The template of the given opcodes, without holes. -/
def exact (os : List Opcode) : Template := ⟨os.map .exact⟩

/-- Puts an opcode into every hole of the given name. -/
def fill (t : Template) (name : String) (o : Opcode) : Template := ⟨t.slots.map (Slot.fill name o)⟩

/-! ## Observations -/

def length (t : Template) : Nat := t.slots.length

def isEmpty (t : Template) : Bool := t.slots.isEmpty

/-- Whether there are no holes. -/
def isConcrete (t : Template) : Bool := t.slots.all Slot.isExact

/-- The names of the holes, in order and with repetitions. -/
def holes (t : Template) : List String := t.slots.filterMap Slot.holeName?

def render (t : Template) : String := ", ".intercalate (t.slots.map Slot.render)

/-! ## Acceptance -/

/-- Whether slots and opcodes agree, one by one and to the end of both. -/
def acceptsSlots : List Slot → List Opcode → Bool
  | [], [] => true
  | s :: ss, o :: os => s.accepts o && acceptsSlots ss os
  | _, _ => false

/-- Whether the template accepts exactly these opcodes. -/
def accepts (t : Template) (window : List Opcode) : Bool := acceptsSlots t.slots window

theorem acceptsSlots_iff {ss : List Slot} {os : List Opcode} :
    acceptsSlots ss os = true ↔ ss = os.map .exact := by
  induction ss generalizing os with
  | nil => cases os <;> simp [acceptsSlots]
  | cons s ss ih => cases os <;> simp [acceptsSlots, Slot.accepts_iff, ih]

/-- A template accepts the opcodes that are its slots. -/
theorem accepts_iff {t : Template} {window : List Opcode} :
    t.accepts window = true ↔ t.slots = window.map .exact :=
  acceptsSlots_iff

theorem length_eq_of_accepts {t : Template} {window : List Opcode}
    (h : t.accepts window = true) : window.length = t.length := by
  simp [length, accepts_iff.1 h]

end Template

end CilRecovery
