import CilRecovery.Classifier.Config
import CilRecovery.Registry.Standard

/-!
# Classifying virtual instructions

A classifier tries the rules of its registry in order; the first that holds is the answer.  Rules
that are not admitted are passed over in silence.  If a rule fails, so does the classification; if
none holds, the operation is unknown.
-/

namespace CilRecovery

/-- The first admitted rule that holds for a candidate. -/
def firstRule (allowUncertain : Bool) (c : Candidate) : List Rule → Traced Rule
  | [] => do
    .report (.unmatched c.instruction)
    .fail (.unknownOperation c.instruction)
  | r :: rest =>
    if r.admitted allowUncertain then do
      .report (.evaluating r.label)
      if ← r.holds c then
        .report (.identified r.label r.confidence c.body.length)
        return r
      else firstRule allowUncertain c rest
    else firstRule allowUncertain c rest

/-- Everything that the classification of an instruction depends on. -/
structure Classifier where
  scope : Scope
  allowUncertain : Bool
  registry : Registry

namespace Classifier

/-- The classifier for a configuration that can be granted. -/
def ofConfig (source : BodySource) (config : Config) (registry : Registry) :
    Except Error Classifier := do
  let reach ← config.reach
  return ⟨⟨source, reach⟩, config.allowUncertain, registry⟩

/-- The configuration that the classifier works by. -/
def config (k : Classifier) : Config := ⟨k.scope.reach.hops, k.allowUncertain⟩

def identifyRule (k : Classifier) (v : VirtualInstruction) : Traced Rule :=
  firstRule k.allowUncertain ⟨v, k.scope⟩ k.registry.rules

/-- The operation that an instruction stands for. -/
def identify (k : Classifier) (v : VirtualInstruction) : Traced Operation :=
  Rule.label <$> k.identifyRule v

/-- A result in which an unknown operation is an answer of its own and no failure. -/
def allowUnknown : Except Error Operation → Except Error (Option Operation)
  | .ok op => .ok (some op)
  | .error (.unknownOperation _) => .ok none
  | .error e => .error e

/-- The operation that an instruction stands for, or none if no rule holds. -/
def tryIdentify (k : Classifier) (v : VirtualInstruction) : Traced (Option Operation) :=
  (k.identify v).mapResult allowUnknown

/-- The outcomes of a batch; the first failure is that of the batch. -/
def outcomes (k : Classifier) : List VirtualInstruction → Except Error (List (Option Operation))
  | [] => .ok []
  | v :: rest => do
    let outcome ← (k.tryIdentify v).result
    let later ← k.outcomes rest
    return outcome :: later

/-- Classifies a batch.  Only its end is reported, not the steps of its instructions. -/
def identifyAll (k : Classifier) (batch : List VirtualInstruction) : Traced Summary := do
  let outcomes ← .ofExcept (k.outcomes batch)
  .report (.batchFinished ⟨outcomes⟩)
  return ⟨outcomes⟩

end Classifier

end CilRecovery
