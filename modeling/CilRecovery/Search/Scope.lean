import CilRecovery.Body.Store
import CilRecovery.Log.Traced
import CilRecovery.Template.Window

/-!
# Searching a body and the methods it calls

A handler often leaves the telling instructions to a helper method, so a search may follow the
calls of a body for one hop.  What a search can look into is its *scope*: a source of bodies and
how far calls are followed.  The body itself always comes first, then its callees in the order of
the calls; a callee whose body is unavailable ends the search with that error.

    a hit in the body itself is the answer, and no callee is looked at     (find_of_first?)
    without a hop nothing else is found                                    (find_bodyOnly)
-/

namespace CilRecovery

/-! ## Reach -/

/-- The greatest number of hops that a search may follow. -/
def maxHops : Nat := 1

inductive Reach where
  | bodyOnly
  /-- Calls are followed into the methods they name, and no further. -/
  | callees
deriving DecidableEq

namespace Reach

def hops : Reach → Nat
  | .bodyOnly => 0
  | .callees => 1

/-- The reach of a number of hops, if it is no greater than `maxHops`. -/
def ofHops : Nat → Except Error Reach
  | 0 => .ok .bodyOnly
  | 1 => .ok .callees
  | n => .error (.recursionLimit n)

theorem ofHops_hops (r : Reach) : ofHops r.hops = .ok r := by
  cases r <;> rfl

end Reach

/-- What a search can look into. -/
structure Scope where
  source : BodySource
  reach : Reach

namespace Scope

/-- The scope that reaches as far as is allowed. -/
def widest (source : BodySource) : Scope := ⟨source, .callees⟩

def decode (sc : Scope) (m : MethodRef) : Traced Body := do
  .report (.decoding m)
  .ofExcept (sc.source m)

/-! ## Windows -/

/-- The first callee, in the order of the calls, in which the template occurs. -/
def findInCallees (sc : Scope) (t : Template) : List CallSite → Traced (Option Match)
  | [] => pure none
  | site :: rest => do
    .report (.following site.index site.callee)
    let body ← sc.decode site.callee
    match t.first? body with
    | some m => pure (some (m.via site.index))
    | none => findInCallees sc t rest

/-- The first window of a template in a body or, failing that, in its callees. -/
def find (sc : Scope) (t : Template) (body : Body) : Traced (Option Match) :=
  match t.first? body with
  | some m => pure (some m)
  | none =>
    match sc.reach with
    | .bodyOnly => pure none
    | .callees => sc.findInCallees t body.callSites

def reaches (sc : Scope) (t : Template) (body : Body) : Traced Bool := do
  let found ← sc.find t body
  return found.isSome

theorem find_of_first? {sc : Scope} {t : Template} {body : Body} {m : Match}
    (h : t.first? body = some m) : sc.find t body = pure (some m) := by
  simp [find, h]

theorem find_bodyOnly (source : BodySource) (t : Template) (body : Body) :
    Scope.find ⟨source, .bodyOnly⟩ t body = pure (t.first? body) := by
  unfold find
  cases t.first? body <;> rfl

/-- Where the body has no window, a search with a hop is one in the callees. -/
theorem find_of_first?_eq_none {source : BodySource} {t : Template} {body : Body}
    (h : t.first? body = none) :
    (widest source).find t body = (widest source).findInCallees t body.callSites := by
  unfold find
  rw [h]
  rfl

theorem reaches_bodyOnly (source : BodySource) (t : Template) (body : Body) :
    Scope.reaches ⟨source, .bodyOnly⟩ t body = pure (t.occursIn body.opcodes) := by
  unfold reaches
  rw [find_bodyOnly, pure_bind, Template.isSome_first?]

/-! ## Flags -/

/-- The flags that are passed at those of the call sites whose callee holds the template. -/
def flagsAt (sc : Scope) (t : Template) (arity : Nat) : List CallSite → Traced (List (List Bool))
  | [] => pure []
  | site :: rest => do
    let callee ← sc.decode site.callee
    if t.occursIn callee.opcodes then
      match site.flags? arity with
      | some flags =>
        .report (.flagged site.index flags)
        (flags :: ·) <$> sc.flagsAt t arity rest
      | none => sc.flagsAt t arity rest
    else sc.flagsAt t arity rest

/-- The flags that a body passes to the helpers that hold the template, call by call.  A call that
too few instructions precede is left out, and so is one without a literal for every flag. -/
def flagSites (sc : Scope) (t : Template) (arity : Nat) (body : Body) :
    Traced (List (List Bool)) :=
  match sc.reach with
  | .bodyOnly => pure []
  | .callees =>
    sc.flagsAt t arity (body.callSites.filter fun s => decide (arity ≤ s.index))

/-- Whether the helpers that hold the template are called with these flags and with no others. -/
def selects (sc : Scope) (t : Template) (flags : List Bool) (body : Body) : Traced Bool := do
  let sites ← sc.flagSites t flags.length body
  return sites.contains flags && sites.all (· == flags)

/-! ## Called methods -/

def countIn (sc : Scope) (t : Template) (m : MethodRef) : Traced Nat := do
  let body ← sc.decode m
  return (t.offsets body.opcodes).length

def entireIn (sc : Scope) (t : Template) (m : MethodRef) : Traced Bool := do
  let body ← sc.decode m
  return t.accepts body.opcodes

/-- How often the template occurs in the callee of an instruction; without a callee, never. -/
def countInCallee (sc : Scope) (t : Template) (i : Instruction) : Traced Nat :=
  match i.callee? with
  | some m => sc.countIn t m
  | none => pure 0

def occursInCallee (sc : Scope) (t : Template) (i : Instruction) : Traced Bool := do
  let n ← sc.countInCallee t i
  return n != 0

def occursOnceInCallee (sc : Scope) (t : Template) (i : Instruction) : Traced Bool := do
  let n ← sc.countInCallee t i
  return n == 1

def isCallee (sc : Scope) (t : Template) (i : Instruction) : Traced Bool :=
  match i.callee? with
  | some m => sc.entireIn t m
  | none => pure false

end Scope

end CilRecovery
