import CilRecovery.Classifier.Basic
import CilRecovery.Proofs.Log.Sequence

/-!
# How the first rule is found

Rules are tried in order, so a classification fails if a rule fails and all before it are false, or
if none is left:

    firstRule (r :: rest) = error e ↔ r fails with e, or r is false and rest fails with e
                                                                             (firstRule_eq_error)
-/

namespace CilRecovery

variable {low : Bool} {c : Candidate} {r : Rule} {rest : List Rule}

theorem Rule.admitted_of_certain (h : r.confidence = .certain) : r.admitted low = true := by
  unfold admitted
  rw [h]
  exact Bool.or_true low

/-- A rule that is not admitted leaves no trace, not even an event. -/
theorem firstRule_filter (low : Bool) (c : Candidate) (rules : List Rule) :
    firstRule low c rules = firstRule true c (rules.filter fun r => r.admitted low) := by
  induction rules with
  | nil => rfl
  | cons r rest ih =>
    by_cases ha : r.admitted low = true
    · have hkeep := List.filter_cons_of_pos (p := fun r => r.admitted low) (l := rest) ha
      have htrue : r.admitted true = true := rfl
      rw [hkeep]
      unfold firstRule
      rw [if_pos ha, if_pos htrue, ih]
    · have hskip := List.filter_cons_of_neg (p := fun r => r.admitted low) (l := rest) ha
      rw [hskip, ← ih]
      conv => lhs; unfold firstRule
      rw [if_neg ha]

theorem firstRule_of_true (ha : r.admitted low = true) (h : (r.holds c).result = .ok true) :
    (firstRule low c (r :: rest)).result = .ok r := by
  unfold firstRule
  rw [if_pos ha, Traced.bind_of_ok (Traced.result_report _), Traced.bind_of_ok h]
  rfl

theorem firstRule_of_false (ha : r.admitted low = true) (h : (r.holds c).result = .ok false) :
    (firstRule low c (r :: rest)).result = (firstRule low c rest).result := by
  conv => lhs; unfold firstRule
  rw [if_pos ha, Traced.bind_of_ok (Traced.result_report _), Traced.bind_of_ok h]
  rfl

theorem firstRule_of_error {e : Error} (ha : r.admitted low = true)
    (h : (r.holds c).result = .error e) : (firstRule low c (r :: rest)).result = .error e := by
  unfold firstRule
  rw [if_pos ha, Traced.bind_of_ok (Traced.result_report _), Traced.bind_of_error h]

theorem firstRule_eq_error {e : Error} (ha : r.admitted low = true) :
    (firstRule low c (r :: rest)).result = .error e ↔ (r.holds c).result = .error e ∨
      (r.holds c).result = .ok false ∧ (firstRule low c rest).result = .error e := by
  cases h : (r.holds c).result with
  | error e' => simp [firstRule_of_error ha h]
  | ok holds =>
    cases holds with
    | false => simp [firstRule_of_false ha h]
    | true => simp [firstRule_of_true ha h]

/-- Rules that fail in one way, at the head of the list, fail before any of them is tried. -/
theorem firstRule_append_eq_error {first : List Rule} {e : Error} {F : Prop} (hne : first ≠ [])
    (ha : ∀ r ∈ first, r.admitted low = true)
    (hF : ∀ r ∈ first, (r.holds c).result = .error e ↔ F) :
    (firstRule low c (first ++ rest)).result = .error e ↔ F ∨
      (∀ r ∈ first, (r.holds c).result = .ok false) ∧
        (firstRule low c rest).result = .error e := by
  induction first with
  | nil => exact absurd rfl hne
  | cons r first ih =>
    have har := ha r List.mem_cons_self
    have hFr := hF r List.mem_cons_self
    rw [List.cons_append, firstRule_eq_error har, hFr]
    by_cases hfirst : first = []
    · subst hfirst
      simp
    · rw [ih hfirst (fun r hr => ha r (List.mem_cons_of_mem _ hr))
        fun r hr => hF r (List.mem_cons_of_mem _ hr), List.forall_mem_cons]
      constructor
      · rintro (h | ⟨hr, h | ⟨hall, h⟩⟩)
        · exact .inl h
        · exact .inl h
        · exact .inr ⟨⟨hr, hall⟩, h⟩
      · rintro (h | ⟨⟨hr, hall⟩, h⟩)
        · exact .inl h
        · exact .inr ⟨hr, .inr ⟨hall, h⟩⟩

namespace Classifier

theorem ofConfig_eq_ok_iff {source : BodySource} {config : Config} {registry : Registry}
    {k : Classifier} : ofConfig source config registry = .ok k ↔
      ∃ reach, config.reach = .ok reach ∧
        k = ⟨⟨source, reach⟩, config.allowUncertain, registry⟩ := by
  unfold ofConfig
  cases config.reach with
  | ok reach => simp [bind, Except.bind, pure, Except.pure, eq_comm]
  | error e => simp [bind, Except.bind]

/-- One configuration gives one reach, whatever the source. -/
theorem exists_reach_of_ofConfig {source source' : BodySource} {config : Config}
    {registry : Registry} {k k' : Classifier} (hk : ofConfig source config registry = .ok k)
    (hk' : ofConfig source' config registry = .ok k') :
    ∃ reach, k = ⟨⟨source, reach⟩, config.allowUncertain, registry⟩ ∧
      k' = ⟨⟨source', reach⟩, config.allowUncertain, registry⟩ := by
  obtain ⟨reach, hr, rfl⟩ := ofConfig_eq_ok_iff.1 hk
  obtain ⟨reach', hr', rfl⟩ := ofConfig_eq_ok_iff.1 hk'
  obtain rfl : reach = reach' := Except.ok.inj (hr.symm.trans hr')
  exact ⟨reach, rfl, rfl⟩

variable {k : Classifier} {v : VirtualInstruction}

/-- A classifier works like the permissive one whose table has its admitted rules only. -/
theorem identify_eq_admitted (k : Classifier) (v : VirtualInstruction) : k.identify v =
    (mk k.scope true ⟨k.registry.rules.filter fun r => r.admitted k.allowUncertain⟩).identify v :=
  congrArg (Rule.label <$> ·) (firstRule_filter k.allowUncertain ⟨v, k.scope⟩ k.registry.rules)

theorem identify_eq_error {e : Error} : (k.identify v).result = .error e ↔
    (firstRule k.allowUncertain ⟨v, k.scope⟩ k.registry.rules).result = .error e := by
  unfold identify identifyRule
  exact Traced.map_eq_error

/-- No operation is an answer where, and only where, the operation is unknown. -/
theorem tryIdentify_eq_none : (k.tryIdentify v).result = .ok none ↔
    ∃ w, (k.identify v).result = .error (.unknownOperation w) := by
  show allowUnknown (k.identify v).result = .ok none ↔ _
  cases (k.identify v).result with
  | ok op => simp [allowUnknown]
  | error e => cases e <;> simp [allowUnknown]

theorem tryIdentify_eq_some {op : Operation} : (k.tryIdentify v).result = .ok (some op) ↔
    (k.identify v).result = .ok op := by
  show allowUnknown (k.identify v).result = .ok (some op) ↔ _
  cases (k.identify v).result with
  | ok op => simp [allowUnknown]
  | error e => cases e <;> simp [allowUnknown]

theorem tryIdentify_eq_error {e : Error} : (k.tryIdentify v).result = .error e ↔
    (k.identify v).result = .error e ∧ ∀ w, e ≠ .unknownOperation w := by
  show allowUnknown (k.identify v).result = .error e ↔ _
  cases (k.identify v).result with
  | ok op => simp [allowUnknown]
  | error e' =>
    cases e' with
    | unknownOperation w =>
      constructor
      · nofun
      · rintro ⟨h, hne⟩
        exact absurd (Except.error.inj h).symm (hne w)
    | _ =>
      simp only [allowUnknown, Except.error.injEq]
      refine ⟨?_, And.left⟩
      rintro rfl
      exact ⟨rfl, nofun⟩

end Classifier

end CilRecovery
