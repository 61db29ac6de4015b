import CilRecovery.Error
import CilRecovery.Log.Event

/-!
# Traced computations

A computation that can fail and that reports events.  Its two parts are plain data: the events in
the order in which they occurred, also those before a failure, and the result.  `result` commutes
with sequencing, so what a computation answers can be told without looking at its events:

    (x >>= f).result = x.result >>= fun a => (f a).result        (result_bind)
    (x >>= f).events = x.events ++ events of f, if x succeeds    (events_bind)
-/

namespace CilRecovery

/-- A result with the events on the way to it. -/
structure Traced (α : Type) where
  events : List Event
  result : Except Error α

namespace Traced

variable {α β : Type}

/-- The result alone, without events. -/
def ofExcept (r : Except Error α) : Traced α := ⟨[], r⟩

def report (e : Event) : Traced Unit := ⟨[e], .ok ()⟩

def fail (e : Error) : Traced α := ⟨[], .error e⟩

/-- The events of `x`, with a result computed from that of `x`. -/
def mapResult (f : Except Error α → Except Error β) (x : Traced α) : Traced β :=
  ⟨x.events, f x.result⟩

protected def bind (x : Traced α) (f : α → Traced β) : Traced β :=
  match x.result with
  | .ok a =>
    let y := f a
    ⟨x.events ++ y.events, y.result⟩
  | .error e => ⟨x.events, .error e⟩

instance : Monad Traced where
  pure a := ⟨[], .ok a⟩
  bind := Traced.bind
  map f x := ⟨x.events, f <$> x.result⟩

@[simp] theorem result_pure (a : α) : (pure a : Traced α).result = .ok a := rfl

@[simp] theorem events_pure (a : α) : (pure a : Traced α).events = [] := rfl

@[simp] theorem result_ofExcept (r : Except Error α) : (ofExcept r).result = r := rfl

@[simp] theorem events_ofExcept (r : Except Error α) : (ofExcept r).events = [] := rfl

@[simp] theorem result_report (e : Event) : (report e).result = .ok () := rfl

@[simp] theorem events_report (e : Event) : (report e).events = [e] := rfl

@[simp] theorem result_fail (e : Error) : (fail e : Traced α).result = .error e := rfl

@[simp] theorem events_fail (e : Error) : (fail e : Traced α).events = [] := rfl

@[simp] theorem result_map (f : α → β) (x : Traced α) : (f <$> x).result = f <$> x.result := rfl

@[simp] theorem events_map (f : α → β) (x : Traced α) : (f <$> x).events = x.events := rfl

/-- The result of a sequence is the sequence of the results. -/
@[simp] theorem result_bind (x : Traced α) (f : α → Traced β) :
    (x >>= f).result = x.result >>= fun a => (f a).result := by
  show (Traced.bind x f).result = _
  unfold Traced.bind
  cases x.result <;> rfl

/-- A sequence reports the events of its first part and, if that succeeds, of its second. -/
theorem events_bind (x : Traced α) (f : α → Traced β) :
    (x >>= f).events = x.events ++ (match x.result with
      | .ok a => (f a).events
      | .error _ => []) := by
  show (Traced.bind x f).events = _
  unfold Traced.bind
  cases x.result <;> simp

@[ext] theorem ext {x y : Traced α} (he : x.events = y.events) (hr : x.result = y.result) :
    x = y := by
  cases x
  cases y
  simp_all

theorem map_id_self (x : Traced α) : id <$> x = x := by
  refine Traced.ext rfl ?_
  rw [result_map]
  cases x.result <;> rfl

theorem bind_pure_eq_map (f : α → β) (x : Traced α) : (x >>= fun a => pure (f a)) = f <$> x := by
  refine Traced.ext ?_ ?_
  · rw [events_bind, events_map]
    cases x.result <;> simp
  · rw [result_bind, result_map]
    cases x.result <;> rfl

theorem bind_bind {γ : Type} (x : Traced α) (f : α → Traced β) (g : β → Traced γ) :
    x >>= f >>= g = x >>= fun a => f a >>= g := by
  refine Traced.ext ?_ ?_
  · rw [events_bind, events_bind, events_bind, result_bind]
    cases x.result with
    | error e => simp [Bind.bind, Except.bind]
    | ok a => simp [Bind.bind, Except.bind, Traced.bind]; cases (f a).result <;> simp
  · simp only [result_bind]
    cases x.result <;> rfl

instance : LawfulMonad Traced :=
  LawfulMonad.mk' Traced map_id_self (fun _ _ => rfl) bind_bind (fun _ _ => rfl) (fun _ _ => rfl)
    (fun _ _ => rfl) bind_pure_eq_map (fun _ _ => rfl)

end Traced

end CilRecovery
