import CilRecovery.Proofs.Run.Simulation

/-!
# Events on the way to an answer

What a search reports are steps: calls of the searched body that are followed, methods named by
these calls that are decoded, and flags read off right before them.  A test that is local looks into
callees of the handler only, so its events are steps in the handler, too.

    x steps, f a steps for each result a of x → x >>= f steps                       (Steps.bind)
    every search steps in the body it searches                    (steps_find, steps_selects, …)
    a local test steps in the handler                                           (Test.steps_eval)
-/

namespace CilRecovery

/-- The event is a step of a search in the body, at one of its calls. -/
inductive Event.IsStep (body : Body) : Event → Prop
  | following {index : Nat} {m : MethodRef} (h : body.calleeAt index = some m) :
      IsStep body (.following index m)
  | decoding {index : Nat} {m : MethodRef} (h : body.calleeAt index = some m) :
      IsStep body (.decoding m)
  | flagged {index : Nat} {m : MethodRef} {flags : List Bool} (h : body.calleeAt index = some m) :
      IsStep body (.flagged index flags)

/-- All events are steps of searches in the body. -/
def Traced.Steps {α : Type} (body : Body) (x : Traced α) : Prop := ∀ e ∈ x.events, e.IsStep body

namespace Traced

variable {α β : Type} {body : Body}

theorem steps_pure (a : α) : (pure a : Traced α).Steps body := by simp [Steps]

theorem steps_ofExcept (r : Except Error α) : (ofExcept r).Steps body := by simp [Steps]

theorem steps_report {e : Event} (h : e.IsStep body) : (report e).Steps body := by
  simpa [Steps] using h

theorem Steps.bind {x : Traced α} {f : α → Traced β} (hx : x.Steps body)
    (hf : ∀ a, x.result = .ok a → (f a).Steps body) : (x >>= f).Steps body := by
  intro e he
  rcases mem_events_bind.1 he with he | ⟨a, hr, he⟩
  · exact hx e he
  · exact hf a hr e he

theorem Steps.map {x : Traced α} (hx : x.Steps body) (f : α → β) : (f <$> x).Steps body := hx

end Traced

open Traced

/-! ## Searches -/

namespace Scope

variable (sc : Scope) (t : Template) {body : Body}

theorem steps_decode {index : Nat} {m : MethodRef} (hm : body.calleeAt index = some m) :
    (sc.decode m).Steps body :=
  (steps_report (.decoding hm)).bind fun _ _ => steps_ofExcept _

theorem steps_findInCallees {sites : List CallSite} (h : ∀ s ∈ sites, s ∈ body.callSites) :
    (sc.findInCallees t sites).Steps body := by
  induction sites with
  | nil => exact steps_pure none
  | cons s rest ih =>
    have hs : body.calleeAt s.index = some s.callee := Body.calleeAt_of_mem (h s List.mem_cons_self)
    unfold findInCallees
    refine (steps_report (.following hs)).bind fun _ _ => (sc.steps_decode hs).bind fun b _ => ?_
    cases t.first? b with
    | some m => exact steps_pure _
    | none => exact ih fun s' hs' => h s' (List.mem_cons_of_mem _ hs')

theorem steps_find : (sc.find t body).Steps body := by
  unfold find
  cases t.first? body with
  | some m => exact steps_pure _
  | none =>
    cases sc.reach with
    | bodyOnly => exact steps_pure none
    | callees => exact sc.steps_findInCallees t fun s hs => hs

theorem steps_reaches : (sc.reaches t body).Steps body :=
  (sc.steps_find t).bind fun _ _ => steps_pure _

theorem steps_flagsAt (arity : Nat) {sites : List CallSite} (h : ∀ s ∈ sites, s ∈ body.callSites) :
    (sc.flagsAt t arity sites).Steps body := by
  induction sites with
  | nil => exact steps_pure []
  | cons s rest ih =>
    have hs : body.calleeAt s.index = some s.callee := Body.calleeAt_of_mem (h s List.mem_cons_self)
    have hrest := ih fun s' hs' => h s' (List.mem_cons_of_mem _ hs')
    unfold flagsAt
    refine (sc.steps_decode hs).bind fun b _ => ?_
    cases t.occursIn b.opcodes with
    | false => exact hrest
    | true =>
      cases s.flags? arity with
      | none => exact hrest
      | some flags => exact (steps_report (.flagged hs)).bind fun _ _ => hrest.map _

theorem steps_selects (flags : List Bool) : (sc.selects t flags body).Steps body := by
  have hsites : (sc.flagSites t flags.length body).Steps body := by
    unfold flagSites
    cases sc.reach with
    | bodyOnly => exact steps_pure []
    | callees => exact sc.steps_flagsAt t _ fun s hs => (List.mem_filter.1 hs).1
  exact hsites.bind fun _ _ => steps_pure _

section
variable {index : Nat} {i : Instruction} (hi : body[index]? = some i)

include hi

theorem steps_countInCallee : (sc.countInCallee t i).Steps body := by
  unfold countInCallee
  cases hm : i.callee? with
  | none => exact steps_pure 0
  | some m =>
    have hcallee : body.calleeAt index = some m := Body.calleeAt_eq_some_iff.2 ⟨i, hi, hm⟩
    exact (sc.steps_decode hcallee).bind fun _ _ => steps_pure _

theorem steps_isCallee : (sc.isCallee t i).Steps body := by
  unfold isCallee
  cases hm : i.callee? with
  | none => exact steps_pure false
  | some m =>
    have hcallee : body.calleeAt index = some m := Body.calleeAt_eq_some_iff.2 ⟨i, hi, hm⟩
    exact (sc.steps_decode hcallee).bind fun _ _ => steps_pure _

end

end Scope

/-! ## Tests -/

variable {c : Candidate}

theorem Check.steps_eval {index : Nat} {i : Instruction} (hi : c.body[index]? = some i)
    (check : Check) : (check.eval c i).Steps c.body := by
  cases check with
  | refersTo store => exact steps_pure _
  | returns type => exact steps_pure _
  | isNamed fragment => exact steps_pure _
  | occurs t => exact (c.scope.steps_countInCallee t hi).bind fun _ _ => steps_pure _
  | occursOnce t => exact (c.scope.steps_countInCallee t hi).bind fun _ _ => steps_pure _
  | isCallee t => exact c.scope.steps_isCallee t hi

/-- What a window of the handler captures stands in the handler, so its callee is one of its own. -/
theorem Check.steps_evalAll (offset length : Nat) (checks : List (Nat × Check)) :
    (Check.evalAll c ⟨c.body, offset, length, none⟩ checks).Steps c.body := by
  induction checks with
  | nil => exact steps_pure true
  | cons k rest ih =>
    obtain ⟨index, check⟩ := k
    unfold Check.evalAll
    refine (steps_ofExcept _).bind fun i hi => ?_
    refine (check.steps_eval (Match.get_eq_ok_iff.1 hi).2).bind fun b _ => ?_
    cases b with
    | false => exact steps_pure false
    | true => exact ih

theorem Capture.steps_find (t : Template) (capture : Capture) :
    (capture.find c t).Steps c.body := by
  cases capture with
  | reached => exact c.scope.steps_find t
  | _ => exact steps_pure _

theorem Test.steps_eval {test : Test} (hl : test.isLocal = true) : (test.eval c).Steps c.body := by
  induction test with
  | reaches t => exact c.scope.steps_reaches t
  | selects flags t => exact c.scope.steps_selects t flags
  | both first second ih₁ ih₂ =>
    simp only [isLocal, Bool.and_eq_true] at hl
    unfold Test.eval
    refine (ih₁ hl.1).bind fun b _ => ?_
    cases b with
    | false => exact steps_pure false
    | true => exact ih₂ hl.2
  | either first second ih₁ ih₂ =>
    simp only [isLocal, Bool.and_eq_true] at hl
    unfold Test.eval
    refine (ih₁ hl.1).bind fun b _ => ?_
    cases b with
    | false => exact ih₂ hl.2
    | true => exact steps_pure true
  | negated test ih =>
    unfold Test.eval
    exact (ih hl).bind fun _ _ => steps_pure _
  | captured capture t checks =>
    simp only [isLocal, Bool.and_eq_true, bne_iff_ne] at hl
    unfold Test.eval
    refine (capture.steps_find t).bind fun found hfound => ?_
    rw [Capture.result_find hl.1, Except.ok.injEq] at hfound
    subst hfound
    cases capture.window? t c.opcodes with
    | none => exact steps_pure false
    | some w => exact Check.steps_evalAll w.1 w.2 checks
  | _ => exact steps_pure _

end CilRecovery
