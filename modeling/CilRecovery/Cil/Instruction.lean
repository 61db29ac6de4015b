import CilRecovery.Cil.Member
import CilRecovery.Cil.Opcode
import CilRecovery.Text.Quoted

/-!
# Instructions

An instruction is an opcode with a resolved operand.  A method body is a list of instructions.
The *callee* of an instruction is the method that its operand names, if that method is defined in
the binary itself; opcodes play no part in that.

    s ∈ body.callSites ↔ instruction `s.index` has the callee `s.callee`     (mem_callSites)
-/

namespace CilRecovery

/-- What an instruction is applied to. -/
inductive Operand where
  | none
  | integer (value : Int64)
  | field (ref : FieldRef)
  | method (ref : MethodRef)
  | type (ref : TypeRef)
  | string (value : String)
deriving DecidableEq

structure Instruction where
  opcode : Opcode
  operand : Operand
deriving DecidableEq

abbrev Body := List Instruction

namespace Instruction

def ofOpcode (o : Opcode) : Instruction := ⟨o, .none⟩

/-! ## Operands by kind -/

def field? (i : Instruction) : Option FieldRef :=
  match i.operand with
  | .field f => some f
  | _ => none

def method? (i : Instruction) : Option MethodRef :=
  match i.operand with
  | .method m => some m
  | _ => none

def type? (i : Instruction) : Option TypeRef :=
  match i.operand with
  | .type t => some t
  | _ => none

def integer? (i : Instruction) : Option Int64 :=
  match i.operand with
  | .integer n => some n
  | _ => none

def string? (i : Instruction) : Option String :=
  match i.operand with
  | .string s => some s
  | _ => none

/-- The method that the operand names, if it can have a body in the binary. -/
def callee? (i : Instruction) : Option MethodRef := i.method?.filter MethodRef.isDefinition

theorem callee?_eq_some {i : Instruction} {m : MethodRef} :
    i.callee? = some m ↔ i.operand = .method m ∧ m.isDefinition = true := by
  obtain ⟨o, a⟩ := i
  cases a <;> simp [callee?, method?, Option.filter_eq_some_iff]

/-! ## Text -/

/-- The mnemonic and, after a space, the operand: members by full name, strings quoted. -/
def render (i : Instruction) : String :=
  match i.operand with
  | .none => i.opcode.mnemonic
  | .integer n => i.opcode.mnemonic ++ " " ++ toString n.toInt
  | .field f => i.opcode.mnemonic ++ " " ++ f.fullName
  | .method m => i.opcode.mnemonic ++ " " ++ m.fullName
  | .type t => i.opcode.mnemonic ++ " " ++ t.fullName
  | .string s => i.opcode.mnemonic ++ " " ++ Text.Quoted.quote s

end Instruction

/-! ## Calls of a body -/

/-- An instruction that names a method of the binary. -/
structure CallSite where
  /-- The position of the instruction. -/
  index : Nat
  /-- The opcodes of the instructions before it, the nearest first. -/
  before : List Opcode
  callee : MethodRef
deriving DecidableEq

/-- The booleans that the `arity` instructions right before the call load, if all of them do. -/
def CallSite.flags? (s : CallSite) (arity : Nat) : Option (List Bool) :=
  (s.before.take arity).reverse.mapM Opcode.booleanLiteral?

namespace Body

def opcodes (body : Body) : List Opcode := body.map Instruction.opcode

/-- The call sites of a body that follows `start` instructions with the opcodes `before`. -/
def callSitesFrom (start : Nat) (before : List Opcode) : Body → List CallSite
  | [] => []
  | i :: rest =>
    match i.callee? with
    | some m => ⟨start, before, m⟩ :: callSitesFrom (start + 1) (i.opcode :: before) rest
    | none => callSitesFrom (start + 1) (i.opcode :: before) rest

def callSites (body : Body) : List CallSite := callSitesFrom 0 [] body

theorem mem_callSitesFrom {start : Nat} {before : List Opcode} {body : Body} {s : CallSite} :
    s ∈ callSitesFrom start before body ↔
      ∃ k i, body[k]? = some i ∧ s.index = start + k ∧
        s.before = (opcodes (body.take k)).reverse ++ before ∧ i.callee? = some s.callee := by
  induction body generalizing start before with
  | nil => simp [callSitesFrom]
  | cons i rest ih =>
    have step : (∃ k j, (i :: rest)[k]? = some j ∧ s.index = start + k ∧
        s.before = (opcodes ((i :: rest).take k)).reverse ++ before ∧
        j.callee? = some s.callee) ↔
        (s.index = start ∧ s.before = before ∧ i.callee? = some s.callee) ∨
          s ∈ callSitesFrom (start + 1) (i.opcode :: before) rest := by
      rw [ih]
      constructor
      · rintro ⟨k, j, hk, hi, hb, hc⟩
        cases k with
        | zero =>
          obtain rfl := Option.some.inj hk
          exact .inl ⟨hi, by simpa [opcodes] using hb, hc⟩
        | succ k =>
          exact .inr ⟨k, j, by simpa using hk, by omega, by simpa [opcodes] using hb, hc⟩
      · rintro (⟨hi, hb, hc⟩ | ⟨k, j, hk, hi, hb, hc⟩)
        · exact ⟨0, i, rfl, hi, by simpa [opcodes] using hb, hc⟩
        · exact ⟨k + 1, j, by simpa using hk, by omega, by simpa [opcodes] using hb, hc⟩
    rw [step, callSitesFrom]
    cases hm : i.callee? with
    | none => simp
    | some m =>
      obtain ⟨n, b, c⟩ := s
      simp [eq_comm]

/-- The call sites are the instructions that have a callee. -/
theorem mem_callSites {body : Body} {s : CallSite} :
    s ∈ callSites body ↔ s.before = (opcodes (body.take s.index)).reverse ∧
      ∃ i, body[s.index]? = some i ∧ i.callee? = some s.callee := by
  simp only [callSites, mem_callSitesFrom, Nat.zero_add, List.append_nil]
  constructor
  · rintro ⟨_, i, hi, rfl, hb, hc⟩
    exact ⟨hb, i, hi, hc⟩
  · rintro ⟨hb, i, hi, hc⟩
    exact ⟨_, i, hi, rfl, hb, hc⟩

/-- The flags of a call are read off the window of opcodes that ends at it. -/
theorem flags?_of_mem {body : Body} {s : CallSite} {arity : Nat} (hs : s ∈ callSites body)
    (ha : arity ≤ s.index) :
    s.flags? arity = (((opcodes body).drop (s.index - arity)).take arity).mapM
      Opcode.booleanLiteral? := by
  obtain ⟨hb, i, hi, -⟩ := mem_callSites.1 hs
  have hlt : s.index < body.length := (List.getElem?_eq_some_iff.1 hi).1
  have hlen : (opcodes (body.take s.index)).length = s.index := by
    simp only [opcodes, List.length_map, List.length_take]
    omega
  rw [CallSite.flags?, hb, List.take_reverse, hlen, List.reverse_reverse]
  congr 1
  simp only [opcodes, List.map_take, List.drop_take]
  congr 1
  omega

end Body

end CilRecovery
