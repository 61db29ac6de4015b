import CilRecovery.Proofs.Log.Sequence
import CilRecovery.Search.Scope

/-!
# Searches, call by call

A search through callees is told by what it meets first.  What it meets at a call is a failure to
decode the callee or, in a search for a window, that window; calls at which it meets nothing are
passed over.

    body.callSites.findSome? F = some x ↔ F gives x at the first callee with an answer
                                                                      (findSome?_callSites_eq_some)
    the search for a window ends with the first find or failure       (result_findInCallees)
    the search for flags ends with the first failure, if any          (result_flagsAt_eq_error)

So a search fails with the failure of the callee at the least position of those that count: for
flags, of the positions that leave room for them (result_selects_eq_error); for a window, of the
positions up to the first find, if the body itself has none (result_reaches_eq_error).  It is true
if the body has a window or a callee before all failures does (result_reaches_eq_true), and what it
finds is the first window of the body or of that callee (find_eq_some_iff).  Where no callee has a
window, one is found in the body alone (result_find).
-/

namespace CilRecovery

namespace Body

/-- The callee of the instruction at a position. -/
def calleeAt (body : Body) (index : Nat) : Option MethodRef := body[index]?.bind Instruction.callee?

theorem calleeAt_eq_some_iff {body : Body} {index : Nat} {m : MethodRef} :
    body.calleeAt index = some m ↔ ∃ i, body[index]? = some i ∧ i.callee? = some m :=
  Option.bind_eq_some_iff

theorem calleeAt_of_mem {body : Body} {s : CallSite} (h : s ∈ body.callSites) :
    body.calleeAt s.index = some s.callee :=
  calleeAt_eq_some_iff.2 (mem_callSites.1 h).2

theorem exists_mem_of_calleeAt {body : Body} {index : Nat} {m : MethodRef}
    (h : body.calleeAt index = some m) : ∃ s ∈ body.callSites, s.index = index ∧ s.callee = m :=
  ⟨⟨index, (opcodes (body.take index)).reverse, m⟩,
    mem_callSites.2 ⟨rfl, calleeAt_eq_some_iff.1 h⟩, rfl, rfl⟩

theorem pairwise_callSitesFrom (start : Nat) (before : List Opcode) (body : Body) :
    (callSitesFrom start before body).Pairwise fun s s' => s.index < s'.index := by
  induction body generalizing start before with
  | nil => exact .nil
  | cons i rest ih =>
    unfold callSitesFrom
    cases i.callee? with
    | none => exact ih _ _
    | some m =>
      refine .cons (fun s hs => ?_) (ih _ _)
      obtain ⟨k, -, -, hk, -⟩ := mem_callSitesFrom.1 hs
      show start < s.index
      omega

/-- The call sites come in the order of their positions. -/
theorem pairwise_callSites (body : Body) :
    body.callSites.Pairwise fun s s' => s.index < s'.index :=
  pairwise_callSitesFrom 0 [] body

variable {β : Type} {body : Body} {F : Nat → MethodRef → Option β}

theorem findSome?_callSites_eq_none :
    (body.callSites.findSome? fun s => F s.index s.callee) = none ↔
      ∀ index m, body.calleeAt index = some m → F index m = none := by
  rw [List.findSome?_eq_none_iff]
  constructor
  · intro h index m hm
    obtain ⟨s, hs, rfl, rfl⟩ := exists_mem_of_calleeAt hm
    exact h s hs
  · intro h s hs
    exact h s.index s.callee (calleeAt_of_mem hs)

/-- The calls before a call are those at lesser positions. -/
theorem forall_before_iff {l₁ l₂ : List CallSite} {s : CallSite} {p : Nat → MethodRef → Prop}
    (hl : body.callSites = l₁ ++ s :: l₂) :
    (∀ s' ∈ l₁, p s'.index s'.callee) ↔
      ∀ j < s.index, ∀ m, body.calleeAt j = some m → p j m := by
  have hsorted := pairwise_callSites body
  rw [hl] at hsorted
  obtain ⟨-, hright, hbefore⟩ := List.pairwise_append.1 hsorted
  constructor
  · intro h j hj m hm
    obtain ⟨s', hs', rfl, rfl⟩ := exists_mem_of_calleeAt hm
    rw [hl] at hs'
    rcases List.mem_append.1 hs' with hs' | hs'
    · exact h s' hs'
    · rcases List.mem_cons.1 hs' with rfl | hs'
      · omega
      · have := (List.pairwise_cons.1 hright).1 s' hs'
        omega
  · intro h s' hs'
    have hmem : s' ∈ body.callSites := by
      rw [hl]
      exact List.mem_append_left _ hs'
    exact h s'.index (hbefore s' hs' s List.mem_cons_self) s'.callee (calleeAt_of_mem hmem)

/-- The first answer at a callee is that of the least position with an answer. -/
theorem findSome?_callSites_eq_some {x : β} :
    (body.callSites.findSome? fun s => F s.index s.callee) = some x ↔
      ∃ index m, body.calleeAt index = some m ∧ F index m = some x ∧
        ∀ j < index, ∀ m', body.calleeAt j = some m' → F j m' = none := by
  rw [List.findSome?_eq_some_iff]
  constructor
  · rintro ⟨l₁, s, l₂, hl, hx, hnone⟩
    have hs : s ∈ body.callSites := by simp [hl]
    have hbefore := (forall_before_iff (p := fun j m => F j m = none) hl).1 hnone
    exact ⟨s.index, s.callee, calleeAt_of_mem hs, hx, hbefore⟩
  · rintro ⟨index, m, hm, hx, hnone⟩
    obtain ⟨s, hs, rfl, rfl⟩ := exists_mem_of_calleeAt hm
    obtain ⟨l₁, l₂, hl⟩ := List.append_of_mem hs
    exact ⟨l₁, s, l₂, hl, hx, (forall_before_iff hl).2 hnone⟩

end Body

namespace Scope

variable (sc : Scope) (t : Template)

theorem result_decode (m : MethodRef) : (sc.decode m).result = sc.source m := by
  unfold decode
  rw [Traced.bind_of_ok (Traced.result_report _)]
  rfl

/-- What a search for the template meets at a method: a failure, a window, or nothing. -/
def meets (m : MethodRef) : Option (Except Error Match) :=
  match sc.source m with
  | .ok body => (t.first? body).map .ok
  | .error e => some (.error e)

/-- What is met first at the call sites; a window is given the way to it. -/
def meetsFirst (sites : List CallSite) : Option (Except Error Match) :=
  sites.findSome? fun s => (sc.meets t s.callee).map fun r => (·.via s.index) <$> r

/-- The failure to decode a method, if it cannot be decoded. -/
def failure? (m : MethodRef) : Option Error :=
  match sc.source m with
  | .ok _ => none
  | .error e => some e

variable {sc t}

theorem meets_of_ok {m : MethodRef} {b : Body} (h : sc.source m = .ok b) :
    sc.meets t m = (t.first? b).map .ok := by
  unfold meets
  rw [h]

theorem meets_of_error {m : MethodRef} {e : Error} (h : sc.source m = .error e) :
    sc.meets t m = some (.error e) := by
  unfold meets
  rw [h]

theorem meets_eq_none {m : MethodRef} :
    sc.meets t m = none ↔ ∃ b, sc.source m = .ok b ∧ t.occursIn b.opcodes = false := by
  cases h : sc.source m with
  | error e => simp [meets_of_error h]
  | ok b =>
    rw [meets_of_ok h, Option.map_eq_none_iff, ← Option.not_isSome_iff_eq_none,
      Template.isSome_first?]
    simp

theorem failure?_eq_some {m : MethodRef} {e : Error} :
    sc.failure? m = some e ↔ sc.source m = .error e := by
  unfold failure?
  cases sc.source m <;> simp

theorem failure?_eq_none {m : MethodRef} : sc.failure? m = none ↔ ∃ b, sc.source m = .ok b := by
  unfold failure?
  cases sc.source m <;> simp

variable (sc t)

/-- The search for a window ends at the first call at which it meets something. -/
theorem result_findInCallees (sites : List CallSite) :
    (sc.findInCallees t sites).result =
      match sc.meetsFirst t sites with
      | some r => some <$> r
      | none => .ok none := by
  unfold meetsFirst
  induction sites with
  | nil => rfl
  | cons s rest ih =>
    unfold findInCallees
    rw [Traced.bind_of_ok (Traced.result_report _), List.findSome?_cons]
    cases hd : sc.source s.callee with
    | error e =>
      rw [meets_of_error hd]
      exact Traced.bind_of_error ((sc.result_decode s.callee).trans hd) _
    | ok b =>
      rw [meets_of_ok hd, Traced.bind_of_ok ((sc.result_decode s.callee).trans hd)]
      cases t.first? b with
      | some m => rfl
      | none => exact ih

/-- The search for flags decodes every callee, so it fails where the first of them does. -/
theorem result_flagsAt_eq_error (arity : Nat) (sites : List CallSite) (e : Error) :
    (sc.flagsAt t arity sites).result = .error e ↔
      (sites.findSome? fun s => sc.failure? s.callee) = some e := by
  induction sites with
  | nil => simp [flagsAt]
  | cons s rest ih =>
    unfold flagsAt
    rw [List.findSome?_cons]
    cases hd : sc.source s.callee with
    | error e' =>
      rw [failure?_eq_some.2 hd, Traced.bind_of_error ((sc.result_decode s.callee).trans hd)]
      simp
    | ok b =>
      rw [failure?_eq_none.2 ⟨b, hd⟩, Traced.bind_of_ok ((sc.result_decode s.callee).trans hd)]
      cases t.occursIn b.opcodes with
      | false => exact ih
      | true =>
        cases s.flags? arity with
        | none => exact ih
        | some flags =>
          show ((flags :: ·) <$> (sc.flagsAt t arity rest).result : Except Error _) = .error e ↔ _
          rw [← ih]
          cases (sc.flagsAt t arity rest).result <;> simp [Functor.map, Except.map]

section
variable {source : BodySource} {t : Template} {body : Body} {e : Error}

theorem result_selects_eq_error {flags : List Bool} :
    ((widest source).selects t flags body).result = .error e ↔
      ∃ index m, body.calleeAt index = some m ∧ flags.length ≤ index ∧ source m = .error e ∧
        ∀ j < index, flags.length ≤ j → ∀ m', body.calleeAt j = some m' →
          ∃ b, source m' = .ok b := by
  -- a failure counts at the positions that the filter keeps
  have hguard : ((body.callSites.filter fun s => decide (flags.length ≤ s.index)).findSome? fun s =>
        (widest source).failure? s.callee) =
      body.callSites.findSome? fun s =>
        if flags.length ≤ s.index then (widest source).failure? s.callee else none := by
    rw [← List.head?_filterMap, List.filterMap_filter, List.head?_filterMap]
    simp only [decide_eq_true_eq]
  have hflags : ((widest source).selects t flags body).result = .error e ↔
      ((widest source).flagsAt t flags.length
        (body.callSites.filter fun s => decide (flags.length ≤ s.index))).result = .error e := by
    unfold selects
    rw [Traced.bind_eq_error]
    simp [flagSites, widest]
  rw [hflags, result_flagsAt_eq_error, hguard, Body.findSome?_callSites_eq_some
    (F := fun j m => if flags.length ≤ j then (widest source).failure? m else none)]
  simp only [Option.ite_none_right_eq_some, failure?_eq_some, ite_eq_right_iff, failure?_eq_none]
  constructor
  · rintro ⟨index, m, hm, ⟨hle, he⟩, hbefore⟩
    exact ⟨index, m, hm, hle, he, fun j hj hlej m' hm' => hbefore j hj m' hm' hlej⟩
  · rintro ⟨index, m, hm, hle, he, hbefore⟩
    exact ⟨index, m, hm, ⟨hle, he⟩, fun j hj m' hm' hlej => hbefore j hj hlej m' hm'⟩

theorem result_reaches_of_occursIn (h : t.occursIn body.opcodes = true) :
    ((widest source).reaches t body).result = .ok true := by
  rw [← Template.isSome_first?] at h
  obtain ⟨m, hm⟩ := Option.isSome_iff_exists.1 h
  unfold reaches
  rw [find_of_first? hm]
  rfl

theorem result_reaches_of_not_occursIn (h : t.occursIn body.opcodes = false) :
    ((widest source).reaches t body).result =
      match (widest source).meetsFirst t body.callSites with
      | some r => (fun _ => true) <$> r
      | none => .ok false := by
  have hfirst : t.first? body = none := by
    rw [← Option.not_isSome_iff_eq_none, Template.isSome_first?, h]
    simp
  unfold reaches
  rw [find_of_first?_eq_none hfirst, bind_pure_comp, Traced.result_map, result_findInCallees]
  cases (widest source).meetsFirst t body.callSites with
  | none => rfl
  | some r => cases r <;> rfl

theorem meetsFirst_eq_error :
    (widest source).meetsFirst t body.callSites = some (.error e) ↔
      ∃ index m, body.calleeAt index = some m ∧ source m = .error e ∧
        ∀ j < index, ∀ m', body.calleeAt j = some m' →
          ∃ b, source m' = .ok b ∧ t.occursIn b.opcodes = false := by
  have hmet : ∀ (j : Nat) (m : MethodRef),
      ((widest source).meets t m).map (fun r => (·.via j) <$> r) = some (.error e) ↔
        source m = .error e := by
    intro j m
    unfold meets
    show _ ↔ (widest source).source m = .error e
    cases (widest source).source m with
    | error e' => simp [Functor.map, Except.map]
    | ok b => cases t.first? b <;> simp [Functor.map, Except.map]
  unfold meetsFirst
  rw [Body.findSome?_callSites_eq_some
    (F := fun j m => ((widest source).meets t m).map fun r => (·.via j) <$> r)]
  simp only [hmet, Option.map_eq_none_iff, meets_eq_none]
  rfl

theorem meetsFirst_eq_none :
    (widest source).meetsFirst t body.callSites = none ↔
      ∀ index m, body.calleeAt index = some m →
        ∃ b, source m = .ok b ∧ t.occursIn b.opcodes = false := by
  unfold meetsFirst
  rw [Body.findSome?_callSites_eq_none
    (F := fun j m => ((widest source).meets t m).map fun r => (·.via j) <$> r)]
  simp only [Option.map_eq_none_iff, meets_eq_none]
  rfl

/-- If no callee has a window, it is found in the body or not at all. -/
theorem result_find {reach : Reach} (hplain : ∀ index m, body.calleeAt index = some m →
      ∃ b, source m = .ok b ∧ t.occursIn b.opcodes = false) :
    (Scope.find ⟨source, reach⟩ t body).result = .ok (t.first? body) := by
  cases reach with
  | bodyOnly => rw [find_bodyOnly, Traced.result_pure]
  | callees =>
    cases hfirst : t.first? body with
    | some m => rw [find_of_first? hfirst, Traced.result_pure]
    | none =>
      show ((widest source).find t body).result = .ok none
      rw [find_of_first?_eq_none hfirst, result_findInCallees, meetsFirst_eq_none.2 hplain]

theorem result_reaches_eq_error :
    ((widest source).reaches t body).result = .error e ↔
      t.occursIn body.opcodes = false ∧
        ∃ index m, body.calleeAt index = some m ∧ source m = .error e ∧
          ∀ j < index, ∀ m', body.calleeAt j = some m' →
            ∃ b, source m' = .ok b ∧ t.occursIn b.opcodes = false := by
  rw [← meetsFirst_eq_error]
  cases hb : t.occursIn body.opcodes with
  | true => simp [result_reaches_of_occursIn hb]
  | false =>
    rw [result_reaches_of_not_occursIn hb]
    cases (widest source).meetsFirst t body.callSites with
    | none => simp
    | some r => cases r <;> simp [Functor.map, Except.map]

theorem result_reaches_eq_false :
    ((widest source).reaches t body).result = .ok false ↔
      t.occursIn body.opcodes = false ∧
        ∀ index m, body.calleeAt index = some m →
          ∃ b, source m = .ok b ∧ t.occursIn b.opcodes = false := by
  rw [← meetsFirst_eq_none]
  cases hb : t.occursIn body.opcodes with
  | true => simp [result_reaches_of_occursIn hb]
  | false =>
    rw [result_reaches_of_not_occursIn hb]
    cases (widest source).meetsFirst t body.callSites with
    | none => simp
    | some r => cases r <;> simp [Functor.map, Except.map]

/-- A window that is met first is the first one of its callee, and no callee before has any. -/
theorem meetsFirst_eq_ok {w : Match} :
    (widest source).meetsFirst t body.callSites = some (.ok w) ↔
      ∃ index m b w', body.calleeAt index = some m ∧ source m = .ok b ∧ t.first? b = some w' ∧
        w = w'.via index ∧
        ∀ j < index, ∀ m', body.calleeAt j = some m' →
          ∃ b', source m' = .ok b' ∧ t.occursIn b'.opcodes = false := by
  have hmet : ∀ (j : Nat) (m : MethodRef),
      ((widest source).meets t m).map (fun r => (·.via j) <$> r) = some (.ok w) ↔
        ∃ b w', source m = .ok b ∧ t.first? b = some w' ∧ w = w'.via j := by
    intro j m
    unfold meets
    show _ ↔ ∃ b w', (widest source).source m = .ok b ∧ _
    cases (widest source).source m with
    | error e => simp [Functor.map, Except.map]
    | ok b =>
      cases hfirst : t.first? b with
      | none => simp [hfirst]
      | some w' => simp [hfirst, Functor.map, Except.map, @eq_comm _ w]
  unfold meetsFirst
  rw [Body.findSome?_callSites_eq_some
    (F := fun j m => ((widest source).meets t m).map fun r => (·.via j) <$> r)]
  simp only [hmet, Option.map_eq_none_iff, meets_eq_none]
  constructor
  · rintro ⟨index, m, hm, ⟨b, w', hb, hw', hw⟩, hbefore⟩
    exact ⟨index, m, b, w', hm, hb, hw', hw, hbefore⟩
  · rintro ⟨index, m, b, w', hm, hb, hw', hw, hbefore⟩
    exact ⟨index, m, hm, ⟨b, w', hb, hw', hw⟩, hbefore⟩

/-- What a search finds is the first window of the body or, if it follows calls and the body has none,
the window that is met first. -/
theorem find_eq_some_iff {sc : Scope} {w : Match} :
    (sc.find t body).result = .ok (some w) ↔
      t.first? body = some w ∨ t.first? body = none ∧ sc.reach = .callees ∧
        ∃ index m b w', body.calleeAt index = some m ∧ sc.source m = .ok b ∧
          t.first? b = some w' ∧ w = w'.via index ∧
          ∀ j < index, ∀ m', body.calleeAt j = some m' →
            ∃ b', sc.source m' = .ok b' ∧ t.occursIn b'.opcodes = false := by
  obtain ⟨source, reach⟩ := sc
  cases hfirst : t.first? body with
  | some w' =>
    rw [find_of_first? hfirst, Traced.result_pure]
    simp
  | none =>
    cases reach with
    | bodyOnly =>
      rw [find_bodyOnly, hfirst, Traced.result_pure]
      simp
    | callees =>
      have hfound : ((widest source).find t body).result = .ok (some w) ↔
          (widest source).meetsFirst t body.callSites = some (.ok w) := by
        rw [find_of_first?_eq_none hfirst, result_findInCallees]
        cases (widest source).meetsFirst t body.callSites with
        | none => simp
        | some r => cases r <;> simp [Functor.map, Except.map]
      show ((widest source).find t body).result = .ok (some w) ↔ _
      rw [hfound, meetsFirst_eq_ok]
      simp

/-- A window that is met first lies in a callee, and all callees before can be decoded. -/
theorem exists_of_meetsFirst_eq_ok {w : Match}
    (h : (widest source).meetsFirst t body.callSites = some (.ok w)) :
    ∃ index m b, body.calleeAt index = some m ∧ source m = .ok b ∧ t.occursIn b.opcodes = true ∧
      ∀ j < index, ∀ m', body.calleeAt j = some m' → ∃ b', source m' = .ok b' := by
  obtain ⟨index, m, b, w', hm, hb, hw', -, hbefore⟩ := meetsFirst_eq_ok.1 h
  have ho : t.occursIn b.opcodes = true := by
    rw [← Template.isSome_first?, hw']
    rfl
  refine ⟨index, m, b, hm, hb, ho, fun j hj m' hm' => ?_⟩
  obtain ⟨b', hb', -⟩ := hbefore j hj m' hm'
  exact ⟨b', hb'⟩

/-- A window in a callee is found unless a callee before it fails. -/
theorem result_reaches_of_callee {index : Nat} {m : MethodRef} {b : Body}
    (hm : body.calleeAt index = some m) (hsource : source m = .ok b)
    (ho : t.occursIn b.opcodes = true)
    (hbefore : ∀ j < index, ∀ m', body.calleeAt j = some m' → ∃ b', source m' = .ok b') :
    ((widest source).reaches t body).result = .ok true := by
  have hshown : ¬ ∃ b', source m = .ok b' ∧ t.occursIn b'.opcodes = false := by
    rintro ⟨b', hb', ho'⟩
    obtain rfl : b = b' := Except.ok.inj (hsource.symm.trans hb')
    rw [ho] at ho'
    cases ho'
  cases hr : ((widest source).reaches t body).result with
  | ok found =>
    cases found with
    | true => rfl
    | false => exact absurd ((result_reaches_eq_false.1 hr).2 index m hm) hshown
  | error e =>
    -- a failure stands neither before the window, nor at it, nor behind it
    obtain ⟨-, i, m', hm', he, hmiss⟩ := result_reaches_eq_error.1 hr
    rcases Nat.lt_trichotomy i index with hlt | rfl | hgt
    · obtain ⟨b', hb'⟩ := hbefore i hlt m' hm'
      cases hb'.symm.trans he
    · obtain rfl : m = m' := Option.some.inj (hm.symm.trans hm')
      cases hsource.symm.trans he
    · exact absurd (hmiss index hgt m hm) hshown

/-- The search is true if the body has a window, or a callee that comes before all failures. -/
theorem result_reaches_eq_true :
    ((widest source).reaches t body).result = .ok true ↔
      t.occursIn body.opcodes = true ∨
        ∃ index m b, body.calleeAt index = some m ∧ source m = .ok b ∧
          t.occursIn b.opcodes = true ∧
          ∀ j < index, ∀ m', body.calleeAt j = some m' → ∃ b', source m' = .ok b' := by
  constructor
  · intro htrue
    by_cases hb : t.occursIn body.opcodes = true
    · exact .inl hb
    · refine .inr ?_
      rw [result_reaches_of_not_occursIn (by simpa using hb)] at htrue
      cases hmet : (widest source).meetsFirst t body.callSites with
      | none =>
        rw [hmet] at htrue
        cases htrue
      | some r =>
        rw [hmet] at htrue
        cases r with
        | error e => cases htrue
        | ok w => exact exists_of_meetsFirst_eq_ok hmet
  · rintro (hb | ⟨index, m, b, hm, hsource, ho, hbefore⟩)
    · exact result_reaches_of_occursIn hb
    · exact result_reaches_of_callee hm hsource ho hbefore

end

end Scope

end CilRecovery
