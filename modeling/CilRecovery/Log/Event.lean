import CilRecovery.Confidence
import CilRecovery.Summary
import CilRecovery.Virtual.Instruction

/-!
# Events worth a log record

What happens while an instruction is classified, as data.  A record of the log is the `level` and
the `message` of an event; steps are traced, and an answer is one record above that level: a
warning if the rule that gave it is uncertain.
-/

namespace CilRecovery

/-- How important a record is, the most important level first. -/
inductive Level where
  | error | warn | info | debug | trace
deriving DecidableEq

namespace Level

def all : List Level := [.error, .warn, .info, .debug, .trace]

def index (l : Level) : Nat := l.ctorIdx

def name : Level → String
  | .error => "error"
  | .warn => "warn"
  | .info => "info"
  | .debug => "debug"
  | .trace => "trace"

/-- The name of the level as it heads a record. -/
def heading (l : Level) : String := l.name.toUpper

def ofName? (s : String) : Option Level := all.find? fun l => l.name == s

/-- Whether a log that is kept down to `threshold` keeps a record of level `l`. -/
def keeps (threshold l : Level) : Bool := decide (l.index ≤ threshold.index)

end Level

inductive Event where
  /-- A call is followed into the method it names. -/
  | following (callSite : Nat) (callee : MethodRef)
  | decoding (callee : MethodRef)
  /-- A helper is called with these boolean literals. -/
  | flagged (callSite : Nat) (flags : List Bool)
  | evaluating (label : Operation)
  /-- A rule of the given confidence holds for a body of the given length. -/
  | identified (label : Operation) (confidence : Confidence) (length : Nat)
  | unmatched (instruction : VirtualInstruction)
  | batchFinished (summary : Summary)
deriving DecidableEq

namespace Event

def level : Event → Level
  | .following .. | .decoding .. | .flagged .. | .evaluating .. => .trace
  | .identified _ .certain _ | .unmatched .. | .batchFinished .. => .debug
  | .identified _ .uncertain _ => .warn

def renderFlags (flags : List Bool) : String :=
  "[" ++ ", ".intercalate (flags.map fun b => if b then "true" else "false") ++ "]"

/-- The text of the event's record.  Calls are followed for one hop at most, so the hop that a
call is followed on is always the first. -/
def message : Event → String
  | .following callSite callee =>
    "following call at " ++ toString callSite ++ " to " ++ callee.render ++ " (hop 1)"
  | .decoding callee => "decoding callee " ++ callee.render
  | .flagged callSite flags =>
    "helper call at " ++ toString callSite ++ " carries flags " ++ renderFlags flags
  | .evaluating label => "evaluating rule " ++ label.mnemonic
  | .identified label .certain length =>
    "identified " ++ label.mnemonic ++ " (" ++ toString length ++ " body instructions)"
  | .identified label .uncertain length =>
    "identified " ++ label.mnemonic ++ " with an uncertain rule (" ++ toString length ++
      " body instructions)"
  | .unmatched v => "no rule matched " ++ v.render
  | .batchFinished summary => "batch classification finished: " ++ summary.render

end Event

end CilRecovery
