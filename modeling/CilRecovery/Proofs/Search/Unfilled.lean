import CilRecovery.Proofs.Search.Flags
import CilRecovery.Proofs.Search.Matches
import CilRecovery.Proofs.Template.Filling

/-!
# Templates with holes left

A template that still has a hole accepts no opcodes at all, so it has no window in any body, and no
search for it finds one.  What a search can still do is fail, with the failure of the source at a
method that the body calls.

    a hole is left → no opcodes are accepted, and there are no offsets
                                                          (accepts_of_holes, offsets_of_holes)
    a search fails → a method that the body calls cannot be decoded
                                                          (fails_of_find, fails_of_selects)
    all of this for every search                                        (unfilled_never_found)
-/

namespace CilRecovery

namespace Template

section
variable {t : Template} (hholes : t.holes ≠ [])

include hholes

/-- The slot of a hole is not that of an opcode. -/
theorem accepts_of_holes (os : List Opcode) : t.accepts os = false := by
  obtain ⟨n, hn⟩ := List.exists_mem_of_ne_nil _ hholes
  rw [← Bool.not_eq_true, accepts_iff]
  intro hslots
  have hmem := mem_holes_iff.mp hn
  rw [hslots, List.mem_map] at hmem
  obtain ⟨o, -, ho⟩ := hmem
  cases ho

theorem offsets_of_holes (os : List Opcode) : t.offsets os = [] := by
  refine List.eq_nil_iff_forall_not_mem.mpr fun i hi => ?_
  obtain ⟨-, -, haccepts⟩ := mem_offsets.mp hi
  rw [accepts_of_holes hholes] at haccepts
  cases haccepts

theorem isAt_of_holes (os : List Opcode) (anchor : Anchor) : t.isAt os anchor = false := by
  have hnone := offsets_of_holes hholes os
  rw [← Bool.not_eq_true]
  cases anchor with
  | head =>
    rw [isAt_head_iff, hnone]
    exact List.not_mem_nil
  | tail =>
    rw [isAt_tail_iff, hnone]
    exact fun h => List.not_mem_nil h.2

theorem first?_of_holes (body : Body) : t.first? body = none :=
  first?_eq_none_iff.mpr (offsets_of_holes hholes _)

theorem occursIn_of_holes (os : List Opcode) : t.occursIn os = false := by
  unfold occursIn
  rw [offsets_of_holes hholes]
  rfl

end

end Template

/-- Bodies that cannot be had are all that the source reports. -/
def BodySource.ReportsMissing (source : BodySource) : Prop :=
  ∀ m e, source m = .error e → ∃ method reason, e = .bodyUnavailable method reason

theorem BodyStore.reportsMissing (S : BodyStore) : S.source.ReportsMissing := by
  intro m e he
  obtain ⟨-, rfl⟩ := source_eq_error.mp he
  exact ⟨_, _, rfl⟩

namespace Scope

variable {sc : Scope} {t : Template} {body : Body} {e : Error}

/-! ## Failures -/

/-- The failure is that of the source, at a method that the body calls. -/
def Fails (sc : Scope) (body : Body) (e : Error) : Prop :=
  ∃ index m, body.calleeAt index = some m ∧ sc.source m = .error e

/-- The result is the answer, or else a failure to decode a callee. -/
def Settles {α : Type} (sc : Scope) (body : Body) (answer : α) (result : Except Error α) : Prop :=
  result = .ok answer ∨ ∃ e, result = .error e ∧ sc.Fails body e

theorem fails_of_find (h : (sc.find t body).result = .error e) : sc.Fails body e := by
  obtain ⟨source, reach⟩ := sc
  cases reach with
  | bodyOnly =>
    rw [find_bodyOnly] at h
    cases h
  | callees =>
    have hreaches : ((widest source).reaches t body).result = .error e :=
      Traced.bind_eq_error.mpr (.inl h)
    obtain ⟨-, index, m, hm, he, -⟩ := result_reaches_eq_error.mp hreaches
    exact ⟨index, m, hm, he⟩

theorem fails_of_selects {flags : List Bool}
    (h : (sc.selects t flags body).result = .error e) : sc.Fails body e := by
  obtain ⟨source, reach⟩ := sc
  cases reach with
  | bodyOnly => cases h
  | callees =>
    obtain ⟨index, m, hm, -, he, -⟩ := result_selects_eq_error.mp h
    exact ⟨index, m, hm, he⟩

/-! ## Searches -/

section
variable (hholes : t.holes ≠ [])

include hholes

theorem settles_find : sc.Settles body none (sc.find t body).result := by
  cases h : (sc.find t body).result with
  | error e => exact .inr ⟨e, rfl, fails_of_find h⟩
  | ok found =>
    cases found with
    | none => exact .inl rfl
    | some w =>
      have haccepts := (locates_of_find h).accepts
      rw [Template.accepts_of_holes hholes] at haccepts
      cases haccepts

theorem settles_selects (flags : List Bool) :
    sc.Settles body false (sc.selects t flags body).result := by
  cases h : (sc.selects t flags body).result with
  | error e => exact .inr ⟨e, rfl, fails_of_selects h⟩
  | ok selected =>
    cases selected with
    | false => exact .inl rfl
    | true =>
      obtain ⟨b, -, ho⟩ := helper_of_selects h
      rw [Template.occursIn_of_holes hholes] at ho
      cases ho

/-- A callee that can be decoded has no window, and is not all of the template. -/
theorem result_countIn_of_holes {m : MethodRef} {b : Body} (hb : sc.source m = .ok b) :
    (sc.countIn t m).result = .ok 0 ∧ (sc.entireIn t m).result = .ok false := by
  have hdecode : (sc.decode m).result = .ok b := (sc.result_decode m).trans hb
  unfold countIn entireIn
  rw [Traced.bind_of_ok hdecode, Traced.bind_of_ok hdecode, Template.offsets_of_holes hholes,
    Template.accepts_of_holes hholes]
  exact ⟨rfl, rfl⟩

end

end Scope

/-- **A template that is not filled matches nothing.**  It accepts no body, stands at neither end of
one, and has no window in it.  No search finds it, and no flags are selected by it; searches answer so,
or fail to decode a method that the body calls, and then with a missing body, if the source reports
nothing else.  A callee that can be decoded does not hold the template and is not all of it. -/
theorem unfilled_never_found (t : Template) (hholes : t.holes ≠ []) (sc : Scope) (body : Body) :
    t.accepts body.opcodes = false ∧
    (∀ anchor, t.isAt body.opcodes anchor = false) ∧
    t.offsets body.opcodes = [] ∧
    t.first? body = none ∧
    sc.Settles body none (sc.find t body).result ∧
    (∀ flag, sc.Settles body false (sc.selectsFlag t flag body).result) ∧
    (∀ flags, sc.Settles body false (sc.selects t flags body).result) ∧
    (sc.source.ReportsMissing → ∀ e, sc.Fails body e →
      ∃ method reason, e = .bodyUnavailable method reason) ∧
    ∀ m b, sc.source m = .ok b →
      (sc.countIn t m).result = .ok 0 ∧ (sc.entireIn t m).result = .ok false := by
  refine ⟨Template.accepts_of_holes hholes _, Template.isAt_of_holes hholes _,
    Template.offsets_of_holes hholes _, Template.first?_of_holes hholes body,
    Scope.settles_find hholes, fun flag => ?_, Scope.settles_selects hholes, ?_,
    fun m b => Scope.result_countIn_of_holes hholes⟩
  · rw [Scope.selectsFlag_eq_selects]
    exact Scope.settles_selects hholes [flag]
  · rintro hreports e ⟨-, m, -, he⟩
    exact hreports m e he

/-- A store at a fixed index, by a helper that does the same. -/
def storing : Body :=
  [.ofOpcode .ldarg_0, .ofOpcode .ldc_i4_1,
   ⟨.call, .method ⟨⟨0x06000001⟩, "Vm::Store", "System.Void"⟩⟩, .ofOpcode .ret]

/-- The template accepts the body once it is filled, but neither the body nor the helper before that.
If the helper is missing, the search reports so. -/
theorem unfilled_never_found_storing :
    let t := Shape.slotStore
    let m : MethodRef := ⟨⟨0x06000001⟩, "Vm::Store", "System.Void"⟩
    let sc := Scope.widest (BodyStore.ofList [(m.token, storing)]).source
    let bare := Scope.widest BodyStore.empty.source
    t.holes ≠ [] ∧ (t.fill literalHole .ldc_i4_1).accepts storing.opcodes = true ∧
    t.accepts storing.opcodes = false ∧ sc.Settles storing none (sc.find t storing).result ∧
    (sc.countIn t m).result = .ok 0 ∧ (sc.entireIn t m).result = .ok false ∧
    ∃ method reason, (bare.find t storing).result = .error (.bodyUnavailable method reason) := by
  intro t m sc bare
  have hholes : t.holes ≠ [] := by decide
  obtain ⟨haccepts, -, -, -, hsettles, -, -, -, hcallee⟩ :=
    unfilled_never_found t hholes sc storing
  obtain ⟨-, -, -, -, hmissing, -, -, hreports, -⟩ := unfilled_never_found t hholes bare storing
  obtain ⟨hcount, hentire⟩ := hcallee m storing rfl
  refine ⟨hholes, rfl, haccepts, hsettles, hcount, hentire, ?_⟩
  rcases hmissing with hfound | ⟨e, he, hfails⟩
  · cases hfound
  · obtain ⟨method, reason, rfl⟩ := hreports (BodyStore.reportsMissing .empty) e hfails
    exact ⟨method, reason, he⟩

end CilRecovery
