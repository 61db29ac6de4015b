import CilRecovery.Classifier.Basic
import CilRecovery.Proofs.Log.Sequence

/-!
# Failures to decode

Each method that is decoded is reported as an event, so it can be read off a run which methods it
asked for.  If one of them cannot be decoded, that failure is the result of the run: it is neither
passed over nor taken for a body without a window.

    x propagates → f a propagates for all a → x >>= f propagates             (Propagates.bind)
    every search, every test and every classification by tests propagates
                                   (propagates_find, propagates_eval, propagates_identify)
-/

namespace CilRecovery

/-- A failure to decode a method is the failure of the computation. -/
def Traced.Propagates {α : Type} (source : BodySource) (x : Traced α) : Prop :=
  ∀ m e, Event.decoding m ∈ x.events → source m = .error e → x.result = .error e

namespace Traced

variable {α β : Type} {source : BodySource}

theorem propagates_of_silent {x : Traced α} (h : ∀ m, Event.decoding m ∉ x.events) :
    x.Propagates source :=
  fun m _ hm _ => absurd hm (h m)

theorem propagates_pure (a : α) : (pure a : Traced α).Propagates source :=
  propagates_of_silent (by simp)

theorem propagates_ofExcept (r : Except Error α) : (ofExcept r).Propagates source :=
  propagates_of_silent (by simp)

theorem propagates_fail (e : Error) : (fail e : Traced α).Propagates source :=
  propagates_of_silent (by simp)

theorem propagates_report {event : Event} (h : ∀ m, Event.decoding m ≠ event) :
    (report event).Propagates source :=
  propagates_of_silent (by simpa using h)

/-- A sequence fails with a failure of its first part before the second is run. -/
theorem Propagates.bind {x : Traced α} {f : α → Traced β} (hx : x.Propagates source)
    (hf : ∀ a, (f a).Propagates source) : (x >>= f).Propagates source := by
  intro m e hm he
  rcases mem_events_bind.1 hm with hm | ⟨a, hr, hm⟩
  · exact bind_of_error (hx m e hm he) f
  · rw [bind_of_ok hr]
    exact hf a m e hm he

theorem Propagates.map {x : Traced α} (hx : x.Propagates source) (f : α → β) :
    (f <$> x).Propagates source := by
  rw [← bind_pure_eq_map]
  exact hx.bind fun a => propagates_pure (f a)

end Traced

open Traced

/-! ## Searches -/

namespace Scope

variable (sc : Scope) (t : Template)

theorem propagates_decode (m : MethodRef) : (sc.decode m).Propagates sc.source := by
  intro m' e hm he
  obtain rfl : m' = m := by simpa [decode, events_bind] using hm
  unfold decode
  rw [bind_of_ok (result_report _)]
  exact he

theorem propagates_findInCallees (sites : List CallSite) :
    (sc.findInCallees t sites).Propagates sc.source := by
  induction sites with
  | nil => exact propagates_pure none
  | cons s rest ih =>
    unfold findInCallees
    refine (propagates_report (by simp)).bind fun _ => (sc.propagates_decode s.callee).bind fun b => ?_
    cases t.first? b with
    | some m => exact propagates_pure _
    | none => exact ih

theorem propagates_find (body : Body) : (sc.find t body).Propagates sc.source := by
  unfold find
  cases t.first? body with
  | some m => exact propagates_pure _
  | none =>
    cases sc.reach with
    | bodyOnly => exact propagates_pure none
    | callees => exact sc.propagates_findInCallees t _

theorem propagates_reaches (body : Body) : (sc.reaches t body).Propagates sc.source :=
  (sc.propagates_find t body).bind fun _ => propagates_pure _

theorem propagates_flagsAt (arity : Nat) (sites : List CallSite) :
    (sc.flagsAt t arity sites).Propagates sc.source := by
  induction sites with
  | nil => exact propagates_pure []
  | cons s rest ih =>
    unfold flagsAt
    refine (sc.propagates_decode s.callee).bind fun b => ?_
    cases t.occursIn b.opcodes with
    | false => exact ih
    | true =>
      cases s.flags? arity with
      | none => exact ih
      | some flags => exact (propagates_report (by simp)).bind fun _ => ih.map _

theorem propagates_selects (flags : List Bool) (body : Body) :
    (sc.selects t flags body).Propagates sc.source := by
  have hsites : (sc.flagSites t flags.length body).Propagates sc.source := by
    unfold flagSites
    cases sc.reach with
    | bodyOnly => exact propagates_pure []
    | callees => exact sc.propagates_flagsAt t _ _
  exact hsites.bind fun _ => propagates_pure _

theorem propagates_countInCallee (i : Instruction) :
    (sc.countInCallee t i).Propagates sc.source := by
  unfold countInCallee
  cases i.callee? with
  | none => exact propagates_pure 0
  | some m => exact (sc.propagates_decode m).bind fun _ => propagates_pure _

theorem propagates_isCallee (i : Instruction) : (sc.isCallee t i).Propagates sc.source := by
  unfold isCallee
  cases i.callee? with
  | none => exact propagates_pure false
  | some m => exact (sc.propagates_decode m).bind fun _ => propagates_pure _

end Scope

/-! ## Tests -/

variable (c : Candidate)

theorem Check.propagates_eval (i : Instruction) (check : Check) :
    (check.eval c i).Propagates c.scope.source := by
  cases check with
  | refersTo store => exact propagates_pure _
  | returns type => exact propagates_pure _
  | isNamed fragment => exact propagates_pure _
  | occurs t => exact (c.scope.propagates_countInCallee t i).bind fun _ => propagates_pure _
  | occursOnce t => exact (c.scope.propagates_countInCallee t i).bind fun _ => propagates_pure _
  | isCallee t => exact c.scope.propagates_isCallee t i

theorem Check.propagates_evalAll (m : Match) (checks : List (Nat × Check)) :
    (Check.evalAll c m checks).Propagates c.scope.source := by
  induction checks with
  | nil => exact propagates_pure true
  | cons k rest ih =>
    obtain ⟨index, check⟩ := k
    unfold Check.evalAll
    refine (propagates_ofExcept _).bind fun i => (check.propagates_eval c i).bind fun b => ?_
    cases b with
    | false => exact propagates_pure false
    | true => exact ih

theorem Capture.propagates_find (t : Template) (capture : Capture) :
    (capture.find c t).Propagates c.scope.source := by
  cases capture with
  | reached => exact c.scope.propagates_find t c.body
  | _ => exact propagates_pure _

/-- No test takes a failure to decode for an answer. -/
theorem Test.propagates_eval (test : Test) : (test.eval c).Propagates c.scope.source := by
  induction test with
  | reaches t => exact c.scope.propagates_reaches t c.body
  | selects flags t => exact c.scope.propagates_selects t flags c.body
  | both first second ih₁ ih₂ =>
    unfold Test.eval
    refine ih₁.bind fun b => ?_
    cases b with
    | false => exact propagates_pure false
    | true => exact ih₂
  | either first second ih₁ ih₂ =>
    unfold Test.eval
    refine ih₁.bind fun b => ?_
    cases b with
    | false => exact ih₂
    | true => exact propagates_pure true
  | negated test ih =>
    unfold Test.eval
    exact ih.bind fun _ => propagates_pure _
  | captured capture t checks =>
    unfold Test.eval
    refine (capture.propagates_find c t).bind fun found => ?_
    cases found with
    | none => exact propagates_pure false
    | some m => exact Check.propagates_evalAll c m checks
  | _ => exact propagates_pure _

/-! ## Classification -/

theorem propagates_firstRule (allowUncertain : Bool) {rules : List Rule}
    (h : ∀ r ∈ rules, (r.holds c).Propagates c.scope.source) :
    (firstRule allowUncertain c rules).Propagates c.scope.source := by
  induction rules with
  | nil =>
    unfold firstRule
    exact (propagates_report (by simp)).bind fun _ => propagates_fail _
  | cons r rest ih =>
    have hrest := ih fun r hr => h r (List.mem_cons_of_mem _ hr)
    unfold firstRule
    cases r.admitted allowUncertain with
    | false => exact hrest
    | true =>
      refine (propagates_report (by simp)).bind fun _ => (h r List.mem_cons_self).bind fun b => ?_
      cases b with
      | false => exact hrest
      | true => exact (propagates_report (by simp)).bind fun _ => propagates_pure r

theorem Signature.propagates_holds {signatures : List Signature} :
    ∀ r ∈ (Registry.ofSignatures signatures).rules, (r.holds c).Propagates c.scope.source := by
  intro r hr
  obtain ⟨s, -, rfl⟩ := List.mem_map.1 hr
  exact s.test.propagates_eval c

/-- A classification by tests fails with the failure to decode a method that it asks for. -/
theorem propagates_identify (sc : Scope) (allowUncertain : Bool) (signatures : List Signature)
    (v : VirtualInstruction) :
    ((Classifier.mk sc allowUncertain (.ofSignatures signatures)).identify v).Propagates
      sc.source :=
  (propagates_firstRule ⟨v, sc⟩ allowUncertain (Signature.propagates_holds ⟨v, sc⟩)).map Rule.label

end CilRecovery
