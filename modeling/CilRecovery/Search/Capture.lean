import CilRecovery.Error
import CilRecovery.Template.Window
import CilRecovery.Text.Fragment

/-!
# Captured instructions

Templates compare opcodes only.  Operands are looked at afterwards, on single instructions of a
match: `Match.get` captures one by its position in the window, and the predicates below say what
its operand names.
-/

namespace CilRecovery

/-- The instruction at a position of the window. -/
def Match.get (m : Match) (index : Nat) : Except Error Instruction :=
  match m.instructions[index]? with
  | some i => .ok i
  | none => .error (.malformed (.captureOutside index m.length))

/-- An instruction is captured inside of the window, where the body has it. -/
theorem Match.get_eq_ok_iff {m : Match} {index : Nat} {i : Instruction} :
    m.get index = .ok i ↔ index < m.length ∧ m.body[m.offset + index]? = some i := by
  unfold get instructions
  rw [List.getElem?_take, List.getElem?_drop]
  by_cases h : index < m.length
  · rw [if_pos h]
    cases m.body[m.offset + index]? <;> simp [h]
  · simp [h]

theorem Match.get_eq_error_iff {m : Match} {index : Nat} {e : Error} :
    m.get index = .error e ↔
      m.instructions.length ≤ index ∧ e = .malformed (.captureOutside index m.length) := by
  unfold get
  rw [← List.getElem?_eq_none_iff]
  cases m.instructions[index]? <;> simp [eq_comm]

namespace Instruction

/-- Whether the operand is the field that holds a store. -/
def refersTo (i : Instruction) (fields : StorageFields) (store : Storage) : Bool :=
  match i.field? with
  | some f => f.token == fields.field store
  | none => false

/-- Whether the operand is a method with the given return type. -/
def returns (i : Instruction) (type : String) : Bool :=
  match i.method? with
  | some m => m.returnType == type
  | none => false

/-- Whether the operand is a method in whose full name the fragment occurs. -/
def isNamed (i : Instruction) (fragment : String) : Bool :=
  match i.method? with
  | some m => Text.contains m.fullName fragment
  | none => false

end Instruction

end CilRecovery
