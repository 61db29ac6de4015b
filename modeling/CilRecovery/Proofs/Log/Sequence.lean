import CilRecovery.Log.Traced

/-!
# What a sequence answers

A sequence succeeds if both of its parts do, and fails with the first failure of the two:

    (x >>= f).result = ok b ↔ ∃ a, x.result = ok a ∧ (f a).result = ok b          (bind_eq_ok)
    (x >>= f).result = error e ↔ x.result = error e, or f fails with e            (bind_eq_error)
    what is reported was reported by x or, if x succeeds, by f               (mem_events_bind)
    x >>= f = x >>= f' if f and f' agree on what x answers                     (bind_congr_of_ok)
-/

namespace CilRecovery.Traced

variable {α β : Type}

theorem ofExcept_ok (a : α) : ofExcept (.ok a) = pure a := rfl

theorem bind_eq_ok {x : Traced α} {f : α → Traced β} {b : β} :
    (x >>= f).result = .ok b ↔ ∃ a, x.result = .ok a ∧ (f a).result = .ok b := by
  rw [result_bind]
  cases x.result with
  | ok a => simp [bind, Except.bind]
  | error e => simp [bind, Except.bind]

theorem bind_eq_error {x : Traced α} {f : α → Traced β} {e : Error} :
    (x >>= f).result = .error e ↔
      x.result = .error e ∨ ∃ a, x.result = .ok a ∧ (f a).result = .error e := by
  rw [result_bind]
  cases x.result with
  | ok a => simp [bind, Except.bind]
  | error e' => simp [bind, Except.bind]

theorem map_eq_ok {x : Traced α} {f : α → β} {b : β} :
    (f <$> x).result = .ok b ↔ ∃ a, x.result = .ok a ∧ f a = b := by
  rw [result_map]
  cases x.result with
  | ok a => simp [Functor.map, Except.map]
  | error e => simp [Functor.map, Except.map]

theorem map_eq_error {x : Traced α} {f : α → β} {e : Error} :
    (f <$> x).result = .error e ↔ x.result = .error e := by
  rw [result_map]
  cases x.result with
  | ok a => simp [Functor.map, Except.map]
  | error e' => simp [Functor.map, Except.map]

theorem bind_of_ok {x : Traced α} {a : α} (h : x.result = .ok a) (f : α → Traced β) :
    (x >>= f).result = (f a).result := by
  rw [result_bind, h]
  rfl

/-- Sequences whose parts have one result have one result. -/
theorem result_bind_congr {x x' : Traced α} {f f' : α → Traced β} (hx : x.result = x'.result)
    (hf : ∀ a, (f a).result = (f' a).result) : (x >>= f).result = (x' >>= f').result := by
  rw [result_bind, result_bind, hx]
  exact bind_congr hf

/-- The second part of a sequence reports nothing if the first fails. -/
theorem mem_events_bind {x : Traced α} {f : α → Traced β} {e : Event} :
    e ∈ (x >>= f).events ↔ e ∈ x.events ∨ ∃ a, x.result = .ok a ∧ e ∈ (f a).events := by
  rw [events_bind, List.mem_append]
  cases x.result with
  | ok a => simp
  | error e' => simp

/-- What comes second matters only for the result that the first part has. -/
theorem bind_congr_of_ok {x : Traced α} {f f' : α → Traced β}
    (h : ∀ a, x.result = .ok a → f a = f' a) : x >>= f = x >>= f' := by
  refine Traced.ext ?_ ?_
  · rw [events_bind, events_bind]
    cases hx : x.result with
    | error e => rfl
    | ok a =>
      show x.events ++ (f a).events = x.events ++ (f' a).events
      rw [h a hx]
  · rw [result_bind, result_bind]
    cases hx : x.result with
    | error e => rfl
    | ok a => exact congrArg result (h a hx)

theorem bind_of_error {x : Traced α} {e : Error} (h : x.result = .error e) (f : α → Traced β) :
    (x >>= f).result = .error e := by
  rw [result_bind, h]
  rfl

end CilRecovery.Traced
