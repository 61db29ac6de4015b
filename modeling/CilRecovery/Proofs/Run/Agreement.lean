import CilRecovery.Proofs.Log.Sequence

/-!
# Agreement of two runs

Two runs are compared by their results: what the first answers the second answers, too, and a
failure of the first corresponds to one of the second.  An *agreement* says which failures
correspond, and which failures of the first run are waived, so that the second may end as it likes.
Agreement is kept by sequencing, so it is enough to show it for the single steps.

    g.On x y → (∀ a, g.On (f a) (f' a)) → g.On (x >>= f) (y >>= f')                    (On.bind)

Compared with itself, a run shows what failures it can end in.
-/

namespace CilRecovery

/-- How the failures of two runs are compared. -/
structure Agreement where
  /-- The failures of the first run that are not compared. -/
  waived : Error → Prop
  /-- The failures of the two runs that correspond. -/
  matched : Error → Error → Prop

namespace Agreement

variable {α β γ : Type} {g : Agreement}

/-- The agreement of a run with itself if it can fail in these ways only. -/
def failing (p : Error → Prop) : Agreement := ⟨fun _ => False, fun e _ => p e⟩

/-- Whether the results of two runs agree. -/
def On (g : Agreement) : Except Error α → Except Error α → Prop
  | .ok a, y => y = .ok a
  | .error e, y => g.waived e ∨ ∃ e', y = .error e' ∧ g.matched e e'

theorem on_ok (a : α) : g.On (.ok a) (.ok a) := rfl

theorem on_pure (a : α) : g.On (pure a : Traced α).result (pure a : Traced α).result := rfl

theorem on_report (e e' : Event) : g.On (Traced.report e).result (Traced.report e').result := rfl

theorem on_error {e e' : Error} (h : g.matched e e') :
    g.On (.error e : Except Error α) (.error e') :=
  .inr ⟨e', rfl, h⟩

/-- Two first steps that agree up to `p`, continued in ways that look at no more than `p`. -/
theorem On.bind_of_map {x y : Traced α} {f f' : α → Traced β} {p : α → γ}
    (h : g.On (p <$> x.result) (p <$> y.result))
    (hf : ∀ a b, p a = p b → g.On (f a).result (f' b).result) :
    g.On (x >>= f).result (y >>= f').result := by
  cases hx : x.result with
  | ok a =>
    rw [hx] at h
    cases hy : y.result with
    | ok b =>
      rw [hy] at h
      rw [Traced.bind_of_ok hx, Traced.bind_of_ok hy]
      exact hf a b (Except.ok.inj h).symm
    | error e =>
      rw [hy] at h
      cases h
  | error e =>
    rw [hx] at h
    rw [Traced.bind_of_error hx]
    rcases h with h | ⟨e', he, hm⟩
    · exact .inl h
    · refine .inr ⟨e', Traced.bind_of_error ?_ f', hm⟩
      cases hy : y.result with
      | ok b =>
        rw [hy] at he
        cases he
      | error e'' =>
        rw [hy] at he
        cases he
        rfl

theorem On.bind {x y : Traced α} {f f' : α → Traced β} (h : g.On x.result y.result)
    (hf : ∀ a, g.On (f a).result (f' a).result) : g.On (x >>= f).result (y >>= f').result := by
  have hid : ∀ z : Traced α, id <$> z.result = z.result := fun z => by cases z.result <;> rfl
  refine On.bind_of_map (p := id) ?_ fun a b hab => ?_
  · rw [hid, hid]
    exact h
  · obtain rfl : a = b := hab
    exact hf a

theorem On.map {x y : Except Error α} (h : g.On x y) (f : α → β) : g.On (f <$> x) (f <$> y) := by
  cases x with
  | ok a =>
    obtain rfl : y = .ok a := h
    exact on_ok (f a)
  | error e =>
    rcases h with h | ⟨e', rfl, hm⟩
    · exact .inl h
    · exact on_error hm

/-- Runs that agree give one answer or fail in ways that correspond, unless the failure is waived. -/
theorem On.cases {x y : Except Error α} (h : g.On x y) (hw : ∀ e, x = .error e → ¬ g.waived e) :
    (∃ a, x = .ok a ∧ y = .ok a) ∨ ∃ e e', x = .error e ∧ y = .error e' ∧ g.matched e e' := by
  cases x with
  | ok a => exact .inl ⟨a, rfl, h⟩
  | error e =>
    rcases h with h | ⟨e', hy, hm⟩
    · exact absurd h (hw e rfl)
    · exact .inr ⟨e, e', rfl, hy, hm⟩

/-- Without waived failures, and if only equal ones correspond, runs that agree have one result. -/
theorem On.eq {x y : Except Error α} (hw : ∀ e, ¬ g.waived e)
    (hm : ∀ e e', g.matched e e' → e = e') (h : g.On x y) : x = y := by
  rcases h.cases fun e _ => hw e with ⟨a, rfl, rfl⟩ | ⟨e, e', rfl, rfl, he⟩
  · rfl
  · rw [hm e e' he]

/-- A run that agrees with itself succeeds or fails in one of the ways allowed. -/
theorem On.of_failing {p : Error → Prop} {x : Except Error α} (h : (failing p).On x x) :
    (∃ a, x = .ok a) ∨ ∃ e, x = .error e ∧ p e := by
  rcases h.cases fun _ _ => id with ⟨a, ha, -⟩ | ⟨e, e', he, -, hp⟩
  · exact .inl ⟨a, ha⟩
  · exact .inr ⟨e, he, hp⟩

end Agreement

end CilRecovery
