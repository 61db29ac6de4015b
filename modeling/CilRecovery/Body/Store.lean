import CilRecovery.Error

/-!
# Where bodies come from

A *body source* answers for every method either its body or why there is none.  A *body store* is
the source that most programs use: a finite map from method tokens to bodies, in which the last
body given for a token counts.

    (s.insert t b).get? t' = if t' = t then some b else s.get? t'        (get?_insert)
-/

namespace CilRecovery

/-- What is known about the bodies of methods. -/
abbrev BodySource := MethodRef → Except Error Body

/-- A finite map from tokens to bodies; no token has two entries. -/
structure BodyStore where
  entries : List (Token × Body)
  nodup : (entries.map Prod.fst).Nodup

namespace BodyStore

def empty : BodyStore := ⟨[], by simp⟩

def get? (s : BodyStore) (t : Token) : Option Body := s.entries.lookup t

/-- Puts a body under a token, in place of the one stored before. -/
def insert (s : BodyStore) (t : Token) (b : Body) : BodyStore where
  entries := (t, b) :: s.entries.filter fun e => e.1 != t
  nodup := by
    have h := s.nodup
    simp only [List.map_cons, List.nodup_cons, List.mem_map, List.mem_filter]
    refine ⟨?_, List.Nodup.sublist (List.filter_sublist.map _) h⟩
    rintro ⟨e, ⟨-, he⟩, rfl⟩
    simp at he

/-- The store that holds the given bodies; of two under one token the later counts. -/
def ofList (bodies : List (Token × Body)) : BodyStore :=
  bodies.foldl (fun s e => s.insert e.1 e.2) empty

def size (s : BodyStore) : Nat := s.entries.length

def isEmpty (s : BodyStore) : Bool := s.entries.isEmpty

def contains (s : BodyStore) (t : Token) : Bool := (s.get? t).isSome

/-- The store as a source: a method that has no body there is reported by its full name. -/
def source (s : BodyStore) : BodySource := fun m =>
  match s.get? m.token with
  | some b => .ok b
  | none => .error (.bodyUnavailable m.token ("no decoded body for " ++ m.fullName))

theorem source_of_some {s : BodyStore} {m : MethodRef} {b : Body} (h : s.get? m.token = some b) :
    s.source m = .ok b := by
  simp [source, h]

theorem source_of_none {s : BodyStore} {m : MethodRef} (h : s.get? m.token = none) :
    s.source m = .error (.bodyUnavailable m.token ("no decoded body for " ++ m.fullName)) := by
  simp [source, h]

theorem source_eq_ok {s : BodyStore} {m : MethodRef} {b : Body} :
    s.source m = .ok b ↔ s.get? m.token = some b := by
  unfold source
  cases s.get? m.token <;> simp

theorem source_eq_error {s : BodyStore} {m : MethodRef} {e : Error} :
    s.source m = .error e ↔ s.get? m.token = none ∧
      e = .bodyUnavailable m.token ("no decoded body for " ++ m.fullName) := by
  unfold source
  cases s.get? m.token <;> simp [eq_comm]

/-! ## Look-up after insertion -/

theorem lookup_filter_ne (t t' : Token) (l : List (Token × Body)) :
    (l.filter fun e => e.1 != t).lookup t' = if t' = t then none else l.lookup t' := by
  induction l with
  | nil => simp
  | cons e l ih =>
    obtain ⟨a, b⟩ := e
    by_cases hat : a = t
    · subst hat
      by_cases ht : t' = a
      · subst ht; simp [ih]
      · simp [ih, ht, List.lookup_cons, beq_eq_false_iff_ne.2 ht]
    · by_cases ht : t' = a
      · subst ht; simp [hat]
      · simp [hat, ih, List.lookup_cons, beq_eq_false_iff_ne.2 ht]

@[simp] theorem get?_empty (t : Token) : empty.get? t = none := rfl

theorem get?_insert (s : BodyStore) (t t' : Token) (b : Body) :
    (s.insert t b).get? t' = if t' = t then some b else s.get? t' := by
  by_cases h : t' = t
  · subst h; simp [get?, insert]
  · simp [get?, insert, List.lookup_cons, beq_eq_false_iff_ne.2 h, lookup_filter_ne, h]

end BodyStore

end CilRecovery
