import CilRecovery.Registry.Test

/-!
# Rules and registries

A rule recognises one operation by a test of the candidate.  A registry is a list of rules that are
tried in order.  A *signature* is a rule whose test is written down as data.

    r.admitted low ↔ r is certain or low confidence is allowed
-/

namespace CilRecovery

structure Rule where
  label : Operation
  confidence : Confidence
  holds : Candidate → Traced Bool

namespace Rule

/-- Whether the rule takes part, given whether uncertain answers are wanted. -/
def admitted (r : Rule) (allowUncertain : Bool) : Bool :=
  allowUncertain || r.confidence == .certain

/-- The label and the confidence of the rule; its test has no text. -/
def render (r : Rule) : String :=
  "Rule \x7b label: " ++ r.label.name ++ ", confidence: " ++ r.confidence.name ++ ", .. \x7d"

end Rule

/-- A rule with its test as data. -/
structure Signature where
  label : Operation
  confidence : Confidence
  test : Test
deriving DecidableEq

namespace Signature

/-- A signature that has been confirmed. -/
def certain (label : Operation) (test : Test) : Signature := ⟨label, .certain, test⟩

/-- A signature whose meaning is not settled. -/
def uncertain (label : Operation) (test : Test) : Signature := ⟨label, .uncertain, test⟩

def rule (s : Signature) : Rule := ⟨s.label, s.confidence, fun c => s.test.eval c⟩

end Signature

/-- Rules in the order in which they are tried. -/
structure Registry where
  rules : List Rule

namespace Registry

def ofSignatures (signatures : List Signature) : Registry := ⟨signatures.map Signature.rule⟩

def size (r : Registry) : Nat := r.rules.length

def isEmpty (r : Registry) : Bool := r.rules.isEmpty

def rule? (r : Registry) (label : Operation) : Option Rule :=
  r.rules.find? fun rule => rule.label == label

def indexOf? (r : Registry) (label : Operation) : Option Nat :=
  r.rules.findIdx? fun rule => rule.label == label

end Registry

end CilRecovery
