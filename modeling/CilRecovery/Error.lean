import CilRecovery.Virtual.Instruction

/-!
# Why an identification fails

Each constructor is one cause; `message` is its wording.
-/

namespace CilRecovery

/-- How data that should fit together does not. -/
inductive Fault where
  /-- A match was asked for an instruction that it does not have. -/
  | captureOutside (index length : Nat)
  /-- A fault that was noticed at a line of a file. -/
  | located (file : String) (line : Nat) (message : String)
deriving DecidableEq

/-- The description of the fault itself, without its place. -/
def Fault.message : Fault → String
  | .captureOutside index length =>
    "Capture index " ++ toString index ++ " outside matched window of " ++ toString length ++
      " instructions"
  | .located _ _ message => message

/-- The description of the fault, after its place if that is known. -/
def Fault.render : Fault → String
  | .located file line message => file ++ ":" ++ toString line ++ ": " ++ message
  | fault => fault.message

inductive Error where
  /-- No rule recognises the instruction. -/
  | unknownOperation (instruction : VirtualInstruction)
  /-- The body of a called method cannot be had. -/
  | bodyUnavailable (method : Token) (reason : String)
  /-- Calls were to be followed deeper than is allowed. -/
  | recursionLimit (depth : Nat)
  /-- The data do not fit together. -/
  | malformed (fault : Fault)
deriving DecidableEq

def Error.message : Error → String
  | .unknownOperation v => "Unable to identify original operation of " ++ v.render
  | .bodyUnavailable method reason =>
    "Body of method " ++ method.render ++ " is unavailable - " ++ reason
  | .recursionLimit depth =>
    "Indirection depth " ++ toString depth ++ " exceeds the maximum allowed"
  | .malformed fault => "Malformed - " ++ fault.render

end CilRecovery
