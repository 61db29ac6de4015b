import CilRecovery.Body.Store
import CilRecovery.Search.Capture
import Mathlib.Data.List.Nodup
import Mathlib.Logic.Equiv.Basic

/-!
# Renaming of tokens

A renaming gives every token another one, no two tokens the same, and gives the methods of the
binary tokens of such methods.  Whatever holds tokens is renamed token by token; opcodes, names and
types stay as they are.

    (i.rename ρ).callee? = i.callee?.map (·.rename ρ)                        (callee?_rename)
    (S.rename ρ).get? (ρ t) = (S.get? t).map (·.rename ρ)                    (get?_rename)
-/

namespace CilRecovery

/-- A map of tokens that tells tokens apart and keeps which of them are methods of the binary. -/
structure Token.Renaming where
  toFun : Token → Token
  injective : Function.Injective toFun
  isMethodDef_toFun : ∀ t, (toFun t).isMethodDef = t.isMethodDef

namespace Token.Renaming

instance : CoeFun Token.Renaming fun _ => Token → Token := ⟨toFun⟩

/-- Two tokens are exchanged, both of them methods of the binary or neither. -/
def swap (a b : Token) (h : a.isMethodDef = b.isMethodDef) : Token.Renaming where
  toFun := Equiv.swap a b
  injective := (Equiv.swap a b).injective
  isMethodDef_toFun t := by
    rw [Equiv.swap_apply_def]
    split
    · next ht => rw [ht, h]
    · split
      · next ht => rw [ht, h]
      · rfl

end Token.Renaming

variable (ρ : Token.Renaming)

/-! ## What holds tokens -/

def FieldRef.rename (f : FieldRef) : FieldRef := { f with token := ρ f.token }

def MethodRef.rename (m : MethodRef) : MethodRef := { m with token := ρ m.token }

def TypeRef.rename (t : TypeRef) : TypeRef := { t with token := ρ t.token }

def Operand.rename : Operand → Operand
  | .field f => .field (f.rename ρ)
  | .method m => .method (m.rename ρ)
  | .type t => .type (t.rename ρ)
  | .none => .none
  | .integer n => .integer n
  | .string s => .string s

def Instruction.rename (i : Instruction) : Instruction := ⟨i.opcode, i.operand.rename ρ⟩

def Body.rename (body : Body) : Body := body.map (Instruction.rename ρ)

def StorageFields.rename (fields : StorageFields) : StorageFields :=
  ⟨ρ fields.arguments, ρ fields.locals⟩

def VirtualInstruction.rename (v : VirtualInstruction) : VirtualInstruction :=
  ⟨v.body.rename ρ, v.storage.rename ρ, v.operandKind⟩

/-- The renamed bodies under the renamed tokens. -/
def BodyStore.rename (S : BodyStore) : BodyStore where
  entries := S.entries.map fun e => (ρ e.1, e.2.rename ρ)
  nodup := by
    have h := S.nodup.map ρ.injective
    rw [List.map_map] at h ⊢
    exact h

/-! ## Operands -/

theorem MethodRef.isDefinition_rename (m : MethodRef) :
    (m.rename ρ).isDefinition = m.isDefinition :=
  ρ.isMethodDef_toFun m.token

theorem StorageFields.field_rename (fields : StorageFields) (store : Storage) :
    (fields.rename ρ).field store = ρ (fields.field store) := by
  cases store <;> rfl

namespace Instruction

theorem field?_rename (i : Instruction) : (i.rename ρ).field? = i.field?.map (FieldRef.rename ρ) := by
  obtain ⟨o, a⟩ := i
  cases a <;> rfl

theorem method?_rename (i : Instruction) :
    (i.rename ρ).method? = i.method?.map (MethodRef.rename ρ) := by
  obtain ⟨o, a⟩ := i
  cases a <;> rfl

/-- The callee of a renamed instruction is the renamed callee; where there was none there is none. -/
theorem callee?_rename (i : Instruction) :
    (i.rename ρ).callee? = i.callee?.map (MethodRef.rename ρ) := by
  unfold callee?
  rw [method?_rename]
  cases i.method? with
  | none => rfl
  | some m =>
    rw [Option.map_some, Option.filter_some, Option.filter_some, MethodRef.isDefinition_rename]
    cases m.isDefinition <;> rfl

/-- Fields are compared by their tokens, and a renaming tells tokens apart. -/
theorem refersTo_rename (i : Instruction) (fields : StorageFields) (store : Storage) :
    (i.rename ρ).refersTo (fields.rename ρ) store = i.refersTo fields store := by
  unfold refersTo
  rw [field?_rename, StorageFields.field_rename]
  cases i.field? with
  | none => rfl
  | some f =>
    show (ρ f.token == ρ (fields.field store)) = (f.token == fields.field store)
    rw [Bool.eq_iff_iff, beq_iff_eq, beq_iff_eq, ρ.injective.eq_iff]

theorem returns_rename (i : Instruction) (type : String) :
    (i.rename ρ).returns type = i.returns type := by
  unfold returns
  rw [method?_rename]
  cases i.method? <;> rfl

theorem isNamed_rename (i : Instruction) (fragment : String) :
    (i.rename ρ).isNamed fragment = i.isNamed fragment := by
  unfold isNamed
  rw [method?_rename]
  cases i.method? <;> rfl

end Instruction

theorem Body.opcodes_rename (body : Body) : (body.rename ρ).opcodes = body.opcodes := by
  unfold opcodes rename
  rw [List.map_map]
  rfl

/-! ## Stores -/

namespace BodyStore

theorem lookup_map_rename (entries : List (Token × Body)) (t : Token) :
    (entries.map fun e => (ρ e.1, e.2.rename ρ)).lookup (ρ t) =
      (entries.lookup t).map (Body.rename ρ) := by
  induction entries with
  | nil => rfl
  | cons e rest ih =>
    obtain ⟨a, b⟩ := e
    rw [List.map_cons, List.lookup_cons, List.lookup_cons, ih]
    by_cases h : t = a
    · subst h
      simp
    · have hρ : ρ t ≠ ρ a := fun he => h (ρ.injective he)
      rw [beq_eq_false_iff_ne.2 h, beq_eq_false_iff_ne.2 hρ]

/-- Under the token of a method stands the renamed body of the method. -/
theorem get?_rename (S : BodyStore) (t : Token) :
    (S.rename ρ).get? (ρ t) = (S.get? t).map (Body.rename ρ) :=
  lookup_map_rename ρ S.entries t

end BodyStore

end CilRecovery
