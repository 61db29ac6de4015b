/-!
# Confidence of a rule

Some rules are kept although it is not settled what their handlers mean; a caller may leave them
out.
-/

namespace CilRecovery

/-- How settled the template of a rule is. -/
inductive Confidence where
  /-- Confirmed against samples. -/
  | certain
  /-- It matches, but what the handler means is not settled. -/
  | uncertain
deriving DecidableEq

def Confidence.name : Confidence → String
  | .certain => "Certain"
  | .uncertain => "Uncertain"

end CilRecovery
