import CilRecovery.Search.Capture
import CilRecovery.Search.Scope

/-!
# Tests of a candidate

The conditions that rules are made of, as data, and what they say about a candidate.  Tests are
read from left to right: what comes after a false part of a conjunction, or after a true part of a
disjunction, is not evaluated, so a body that is unavailable counts only if it is asked for.
-/

namespace CilRecovery

/-- A virtual instruction, together with what a search can look into. -/
structure Candidate where
  instruction : VirtualInstruction
  scope : Scope

def Candidate.body (c : Candidate) : Body := c.instruction.body

def Candidate.opcodes (c : Candidate) : List Opcode := c.body.opcodes

/-! ## Checks of a captured instruction -/

/-- A condition on one instruction of a match. -/
inductive Check where
  /-- It refers to the field of a store. -/
  | refersTo (store : Storage)
  | returns (type : String)
  /-- It names a method whose full name has this fragment. -/
  | isNamed (fragment : String)
  /-- The template occurs in its callee. -/
  | occurs (t : Template)
  | occursOnce (t : Template)
  /-- The template is all of its callee. -/
  | isCallee (t : Template)
deriving DecidableEq

def Check.eval (c : Candidate) (i : Instruction) : Check → Traced Bool
  | .refersTo store => pure (i.refersTo c.instruction.storage store)
  | .returns type => pure (i.returns type)
  | .isNamed fragment => pure (i.isNamed fragment)
  | .occurs t => c.scope.occursInCallee t i
  | .occursOnce t => c.scope.occursOnceInCallee t i
  | .isCallee t => c.scope.isCallee t i

/-- Whether all checks hold, each of the instruction at its position of the match. -/
def Check.evalAll (c : Candidate) (m : Match) : List (Nat × Check) → Traced Bool
  | [] => pure true
  | (index, check) :: rest => do
    let i ← .ofExcept (m.get index)
    if ← check.eval c i then evalAll c m rest else pure false

/-! ## Captures -/

/-- Where a test gets its match from. -/
inductive Capture where
  /-- The whole body, if the template accepts it. -/
  | entire
  /-- The window at the head of the body. -/
  | head
  /-- The first window in the body. -/
  | first
  /-- The first window in the body or its callees. -/
  | reached
deriving DecidableEq

def Capture.find (c : Candidate) (t : Template) : Capture → Traced (Option Match)
  | .entire => pure (if t.accepts c.opcodes then some (.whole c.body) else none)
  | .head => pure (if t.isAt c.opcodes .head then some (.head c.body t.length) else none)
  | .first => pure (t.first? c.body)
  | .reached => c.scope.find t c.body

/-! ## Tests -/

/-- A condition on a candidate. -/
inductive Test where
  | const (value : Bool)
  | entire (t : Template)
  | anchored (t : Template) (anchor : Anchor)
  | contains (t : Template)
  | reaches (t : Template)
  /-- The helpers that hold the template are called with these flags and no others. -/
  | selects (flags : List Bool) (t : Template)
  | operandKind (kind : OperandKind)
  | both (first second : Test)
  | either (first second : Test)
  | negated (test : Test)
  /-- There is a match whose instructions pass the checks. -/
  | captured (capture : Capture) (t : Template) (checks : List (Nat × Check))
deriving DecidableEq

namespace Test

def all (tests : List Test) : Test := tests.foldr .both (.const true)

def any (tests : List Test) : Test := tests.foldr .either (.const false)

def eval (c : Candidate) : Test → Traced Bool
  | .const value => pure value
  | .entire t => pure (t.accepts c.opcodes)
  | .anchored t anchor => pure (t.isAt c.opcodes anchor)
  | .contains t => pure (t.occursIn c.opcodes)
  | .reaches t => c.scope.reaches t c.body
  | .selects flags t => c.scope.selects t flags c.body
  | .operandKind kind => pure (c.instruction.operandKind == kind)
  | .both first second => do
    if ← first.eval c then second.eval c else pure false
  | .either first second => do
    if ← first.eval c then pure true else second.eval c
  | .negated test => do
    let holds ← test.eval c
    return !holds
  | .captured capture t checks => do
    match ← capture.find c t with
    | some m => Check.evalAll c m checks
    | none => pure false

end Test

end CilRecovery
