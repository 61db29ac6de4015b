import CilRecovery.Cil.Instruction

/-!
# Virtual instructions

What the virtual machine runs in place of one instruction of the program: the body of its handler,
the kind of operand that the machine declares for it, and the two fields in which the machine keeps
the arguments and the locals of the running method.
-/

namespace CilRecovery

/-- The kinds of operand that a virtual instruction can declare. -/
inductive OperandKind where
  | none | int32 | int8 | int64 | float32 | float64 | var | shortVar | branchTarget
  | shortBranchTarget | field | method | type | token | signature | string | switch
deriving DecidableEq

namespace OperandKind

def all : List OperandKind :=
  [.none, .int32, .int8, .int64, .float32, .float64, .var, .shortVar, .branchTarget,
   .shortBranchTarget, .field, .method, .type, .token, .signature, .string, .switch]

def name : OperandKind → String
  | .none => "None"
  | .int32 => "Int32"
  | .int8 => "Int8"
  | .int64 => "Int64"
  | .float32 => "Float32"
  | .float64 => "Float64"
  | .var => "Var"
  | .shortVar => "ShortVar"
  | .branchTarget => "BranchTarget"
  | .shortBranchTarget => "ShortBranchTarget"
  | .field => "Field"
  | .method => "Method"
  | .type => "Type"
  | .token => "Token"
  | .signature => "Signature"
  | .string => "String"
  | .switch => "Switch"

def ofName? (s : String) : Option OperandKind := all.find? fun k => k.name == s

theorem ofName?_name (k : OperandKind) : ofName? k.name = some k := by
  cases k <;> rfl

end OperandKind

/-- The two stores of a running method. -/
inductive Storage where
  | arguments | locals
deriving DecidableEq

/-- The fields of the virtual machine that hold the two stores. -/
structure StorageFields where
  arguments : Token
  locals : Token
deriving DecidableEq

def StorageFields.field (fields : StorageFields) : Storage → Token
  | .arguments => fields.arguments
  | .locals => fields.locals

structure VirtualInstruction where
  body : Body
  storage : StorageFields
  operandKind : OperandKind
deriving DecidableEq

/-- The declared kind of operand, the length of the body and its opcodes. -/
def VirtualInstruction.render (v : VirtualInstruction) : String :=
  "virtual instruction (operand " ++ v.operandKind.name ++ ", " ++ toString v.body.length ++
    " body instructions: " ++ ", ".intercalate (v.body.opcodes.map Opcode.mnemonic) ++ ")"

end CilRecovery
