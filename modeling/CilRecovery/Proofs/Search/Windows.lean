import CilRecovery.Proofs.Classifier.Unavailable
import CilRecovery.Proofs.Template.Offsets

/-!
# Searches for a window

A search for a window can be made level by level, with a frontier of the bodies that it has come to;
with one hop at most, that is the search call by call.  If the body itself has no window, the search
*stops* at the first callee that is missing or holds one, and what it answers is read off that callee.
It looks at no callee behind, and at none of the methods that callees call in turn.

    level by level and call by call the search is the same               (findByLevels_eq_find)
    the answer is that of the first stop                              (result_find_of_isLeast)
    only callees up to the first stop are decoded                        (before_of_decoding_mem)
    and nothing depends on any other                                              (find_congr)
    all of this for the bodies of a store                                      (find_by_calls)
-/

namespace CilRecovery

/-! ## Level by level -/

/-- A body that a search has come to, with the call of the searched body that led there. -/
structure Visit where
  callSite : Option Nat
  body : Body

/-- The calls in the bodies of a level; those below the searched body count for the call that led
there. -/
def Visit.calls (level : List Visit) : List (Nat × MethodRef) :=
  level.flatMap fun v => v.body.callSites.map fun s => (v.callSite.getD s.index, s.callee)

namespace Scope

/-- Decodes the callees of a level one by one, up to a window.  Without one they are the next
level. -/
def searchCalls (sc : Scope) (t : Template) :
    List (Nat × MethodRef) → Traced (Match ⊕ List Visit)
  | [] => pure (.inr [])
  | (callSite, m) :: rest => do
    .report (.following callSite m)
    let body ← sc.decode m
    match t.first? body with
    | some w => pure (.inl (w.via callSite))
    | none => Sum.map id (⟨some callSite, body⟩ :: ·) <$> sc.searchCalls t rest

def searchLevels (sc : Scope) (t : Template) : Nat → List Visit → Traced (Option Match)
  | 0, _ => pure none
  | hops + 1, level => do
    match ← sc.searchCalls t (Visit.calls level) with
    | .inl w => pure (some w)
    | .inr next => sc.searchLevels t hops next

/-- The first window of a template in a body or, failing that, in the bodies that so many hops lead
to, the nearer levels first. -/
def findByLevels (sc : Scope) (t : Template) (hops : Nat) (body : Body) : Traced (Option Match) :=
  match t.first? body with
  | some w => pure (some w)
  | none => sc.searchLevels t hops [⟨none, body⟩]

variable (sc : Scope) (t : Template)

theorem getLeft?_searchCalls (sites : List CallSite) :
    Sum.getLeft? <$> sc.searchCalls t (sites.map fun s => (s.index, s.callee)) =
      sc.findInCallees t sites := by
  induction sites with
  | nil => rfl
  | cons s rest ih =>
    rw [List.map_cons]
    unfold searchCalls findInCallees
    rw [map_bind]
    refine bind_congr fun _ => ?_
    rw [map_bind]
    refine bind_congr fun b => ?_
    cases t.first? b with
    | some w => rfl
    | none =>
      have hleft : ∀ v : Visit, Sum.getLeft? ∘ Sum.map id (v :: ·) =
          (Sum.getLeft? : Match ⊕ List Visit → Option Match) := by
        intro v
        funext r
        cases r <;> rfl
      show Sum.getLeft? <$> Sum.map id _ <$> _ = _
      rw [← comp_map, hleft]
      exact ih

/-- With one hop there is one level, that of the callees. -/
theorem searchLevels_one (body : Body) :
    sc.searchLevels t 1 [⟨none, body⟩] = sc.findInCallees t body.callSites := by
  have hcalls : Visit.calls [⟨none, body⟩] = body.callSites.map fun s => (s.index, s.callee) := by
    unfold Visit.calls
    rw [List.flatMap_cons, List.flatMap_nil, List.append_nil]
    rfl
  unfold searchLevels
  rw [hcalls, ← getLeft?_searchCalls, ← Traced.bind_pure_eq_map]
  refine bind_congr fun r => ?_
  cases r <;> rfl

theorem findByLevels_eq_find (body : Body) :
    sc.findByLevels t sc.reach.hops body = sc.find t body := by
  unfold findByLevels find
  cases t.first? body with
  | some w => rfl
  | none =>
    cases sc.reach with
    | bodyOnly => rfl
    | callees => exact searchLevels_one sc t body

/-! ## Callees that count -/

variable {sc t} {sc' : Scope} {sites : List CallSite}

theorem decode_congr {m : MethodRef} (h : sc'.source m = sc.source m) :
    sc'.decode m = sc.decode m := by
  unfold decode
  rw [h]

theorem decoding_mem_decode {m m' : MethodRef} (h : .decoding m ∈ (sc.decode m').events) :
    m' = m := by
  unfold decode at h
  rcases Traced.mem_events_bind.mp h with hreport | ⟨_, -, hsource⟩
  · rw [Traced.events_report, List.mem_singleton, Event.decoding.injEq] at hreport
    exact hreport.symm
  · cases hsource

/-- A callee that can be decoded and has no window is passed over. -/
theorem meets_eq_none_of_first? {m : MethodRef} {b : Body}
    (hdecode : (sc.decode m).result = .ok b) (hfirst : t.first? b = none) :
    sc.meets t m = none := by
  rw [result_decode] at hdecode
  rw [meets_of_ok hdecode, hfirst]
  rfl

/-- A search depends only on the callees before which nothing is met. -/
theorem findInCallees_congr
    (h : ∀ l₁ s l₂, sites = l₁ ++ s :: l₂ → (∀ s' ∈ l₁, sc.meets t s'.callee = none) →
      sc'.source s.callee = sc.source s.callee) :
    sc'.findInCallees t sites = sc.findInCallees t sites := by
  induction sites with
  | nil => rfl
  | cons s rest ih =>
    have hsource : sc'.source s.callee = sc.source s.callee := by
      apply h [] s rest rfl
      intro s' hs'
      cases hs'
    unfold findInCallees
    rw [decode_congr hsource]
    refine bind_congr fun _ => Traced.bind_congr_of_ok fun b hb => ?_
    cases hfirst : t.first? b with
    | some w => rfl
    | none =>
      -- nothing is met at this call, so the calls behind it count
      have hnone := meets_eq_none_of_first? hb hfirst
      apply ih
      intro l₁ s' l₂ hl hbefore
      refine h (s :: l₁) s' l₂ (by rw [hl]; rfl) ?_
      exact List.forall_mem_cons.mpr ⟨hnone, hbefore⟩

/-- Only callees before which nothing is met are decoded. -/
theorem before_of_decoding_mem_findInCallees {m : MethodRef}
    (h : .decoding m ∈ (sc.findInCallees t sites).events) :
    ∃ l₁ s l₂, sites = l₁ ++ s :: l₂ ∧ s.callee = m ∧
      ∀ s' ∈ l₁, sc.meets t s'.callee = none := by
  induction sites with
  | nil => cases h
  | cons s rest ih =>
    unfold findInCallees at h
    rcases Traced.mem_events_bind.mp h with hreport | ⟨_, -, h⟩
    · simp at hreport
    · rcases Traced.mem_events_bind.mp h with hdecode | ⟨b, hb, h⟩
      · exact ⟨[], s, rest, rfl, decoding_mem_decode hdecode, by simp⟩
      · cases hfirst : t.first? b with
        | some w =>
          rw [hfirst] at h
          cases h
        | none =>
          rw [hfirst] at h
          have hnone := meets_eq_none_of_first? hb hfirst
          obtain ⟨l₁, s', l₂, hl, hm, hbefore⟩ := ih h
          refine ⟨s :: l₁, s', l₂, by rw [hl]; rfl, hm, ?_⟩
          exact List.forall_mem_cons.mpr ⟨hnone, hbefore⟩

end Scope

/-! ## Stops -/

namespace BodyStore

/-- A search for the template that has come to the position goes no further: the callee there is
missing, or its body has a window. -/
def StopsAt (S : BodyStore) (t : Template) (body : Body) (index : Nat) : Prop :=
  S.MissingAt body index ∨ S.HoldsAt t body index

variable {S : BodyStore} {t : Template} {body : Body} {reach : Reach} {index : Nat}

theorem not_stopsAt_iff : ¬ S.StopsAt t body index ↔ ∀ m, body.calleeAt index = some m →
    ∃ b, S.source m = .ok b ∧ t.occursIn b.opcodes = false :=
  not_missingAt_or_holdsAt

/-- Nothing is met before a call if there is no stop before it. -/
theorem forall_not_stopsAt_iff {l₁ l₂ : List CallSite} {s : CallSite}
    (hl : body.callSites = l₁ ++ s :: l₂) :
    (∀ s' ∈ l₁, (Scope.mk S.source reach).meets t s'.callee = none) ↔
      ∀ j < s.index, ¬ S.StopsAt t body j := by
  rw [Body.forall_before_iff (p := fun _ m => (Scope.mk S.source reach).meets t m = none) hl]
  simp only [not_stopsAt_iff, Scope.meets_eq_none]

theorem result_find_of_not_stopsAt (hfirst : t.first? body = none)
    (h : ∀ i, ¬ S.StopsAt t body i) : ((Scope.widest S.source).find t body).result = .ok none := by
  have hplain : ∀ i m, body.calleeAt i = some m →
      ∃ b, S.source m = .ok b ∧ t.occursIn b.opcodes = false :=
    fun i => not_stopsAt_iff.mp (h i)
  rw [← hfirst]
  exact Scope.result_find hplain

/-- **The first stop.**  The answer is read off the callee there: it is missing, or its first window
is found. -/
theorem result_find_of_isLeast (hfirst : t.first? body = none)
    (h : IsLeast {j | S.StopsAt t body j} index) :
    ∃ m, body.calleeAt index = some m ∧
      (S.get? m.token = none → ((Scope.widest S.source).find t body).result =
        .error (.bodyUnavailable m.token ("no decoded body for " ++ m.fullName))) ∧
      ∀ b, S.get? m.token = some b → ∃ w, t.first? b = some w ∧
        ((Scope.widest S.source).find t body).result = .ok (some (w.via index)) := by
  obtain ⟨hstop, hbefore⟩ := isLeast_setOf_iff.mp h
  have hpassed : ∀ j < index, ∀ m', body.calleeAt j = some m' →
      ∃ b, S.source m' = .ok b ∧ t.occursIn b.opcodes = false :=
    fun j hj => not_stopsAt_iff.mp (hbefore j hj)
  rw [Scope.find_of_first?_eq_none hfirst, Scope.result_findInCallees]
  rcases hstop with ⟨m, hm, hnone⟩ | ⟨m, b, hm, hb, ho⟩
  · refine ⟨m, hm, fun _ => ?_, fun b hb => ?_⟩
    · rw [Scope.meetsFirst_eq_error.mpr ⟨index, m, hm, source_of_none hnone, hpassed⟩]
      rfl
    · rw [hnone] at hb
      cases hb
  · refine ⟨m, hm, fun hnone => ?_, fun b' hb' => ?_⟩
    · rw [hnone] at hb
      cases hb
    · obtain rfl : b = b' := Option.some.inj (hb.symm.trans hb')
      rw [← Template.isSome_first?] at ho
      obtain ⟨w, hw⟩ := Option.isSome_iff_exists.mp ho
      refine ⟨w, hw, ?_⟩
      rw [Scope.meetsFirst_eq_ok.mpr ⟨index, m, b, w, hm, source_of_some hb, hw, rfl, hpassed⟩]
      rfl

/-- The search does not depend on the methods that it does not come to: those called behind the
first stop, or by callees only, or outside the binary. -/
theorem find_congr {source' : BodySource} (h : ∀ j m, body.calleeAt j = some m →
      (∀ i < j, ¬ S.StopsAt t body i) → source' m = S.source m) :
    Scope.find ⟨source', reach⟩ t body = Scope.find ⟨S.source, reach⟩ t body := by
  unfold Scope.find
  cases t.first? body with
  | some w => rfl
  | none =>
    cases reach with
    | bodyOnly => rfl
    | callees =>
      refine Scope.findInCallees_congr fun l₁ s l₂ hl hbefore => ?_
      have hs : s ∈ body.callSites := by simp [hl]
      exact h s.index s.callee (Body.calleeAt_of_mem hs) ((forall_not_stopsAt_iff hl).mp hbefore)

theorem before_of_decoding_mem {m : MethodRef}
    (h : .decoding m ∈ (Scope.find ⟨S.source, reach⟩ t body).events) :
    ∃ j, body.calleeAt j = some m ∧ ∀ i < j, ¬ S.StopsAt t body i := by
  unfold Scope.find at h
  cases hfirst : t.first? body with
  | some w =>
    rw [hfirst] at h
    cases h
  | none =>
    rw [hfirst] at h
    cases reach with
    | bodyOnly => cases h
    | callees =>
      obtain ⟨l₁, s, l₂, hl, rfl, hbefore⟩ := Scope.before_of_decoding_mem_findInCallees h
      have hs : s ∈ body.callSites := by simp [hl]
      exact ⟨s.index, Body.calleeAt_of_mem hs, (forall_not_stopsAt_iff hl).mp hbefore⟩

end BodyStore

theorem Body.isDefinition_of_calleeAt {body : Body} {index : Nat} {m : MethodRef}
    (h : body.calleeAt index = some m) : m.isDefinition = true := by
  obtain ⟨i, -, hi⟩ := calleeAt_eq_some_iff.mp h
  exact (Instruction.callee?_eq_some.mp hi).2

/-- **Windows.**  The search call by call is the search level by level.  A window of the body itself
is found at once, by no call.  If there is none, nothing is found without a hop; with one, the answer
is read off the first stop, which is a missing callee or the first window of a callee, and nothing is
found if there is no stop.  Other bodies than those of the callees up to the first stop play no part,
and only these callees, which are methods of the binary, are decoded. -/
theorem find_by_calls (S : BodyStore) (t : Template) (body : Body) :
    (∀ sc : Scope, sc.find t body = sc.findByLevels t sc.reach.hops body) ∧
    (∀ (sc : Scope) w, t.first? body = some w →
      sc.find t body = pure (some w) ∧ w.callSite = none) ∧
    (t.first? body = none →
      Scope.find ⟨S.source, .bodyOnly⟩ t body = pure none ∧
      ((∀ i, ¬ S.StopsAt t body i) →
        ((Scope.widest S.source).find t body).result = .ok none) ∧
      ∀ i, IsLeast {j | S.StopsAt t body j} i → ∃ m, body.calleeAt i = some m ∧
        (S.get? m.token = none → ((Scope.widest S.source).find t body).result =
          .error (.bodyUnavailable m.token ("no decoded body for " ++ m.fullName))) ∧
        ∀ b, S.get? m.token = some b → ∃ w, t.first? b = some w ∧
          ((Scope.widest S.source).find t body).result = .ok (some (w.via i))) ∧
    (∀ source' reach,
      (∀ j m, body.calleeAt j = some m → (∀ i < j, ¬ S.StopsAt t body i) →
        source' m = S.source m) →
      Scope.find ⟨source', reach⟩ t body = Scope.find ⟨S.source, reach⟩ t body) ∧
    ∀ reach m, .decoding m ∈ (Scope.find ⟨S.source, reach⟩ t body).events →
      m.isDefinition = true ∧
        ∃ j, body.calleeAt j = some m ∧ ∀ i < j, ¬ S.StopsAt t body i := by
  refine ⟨fun sc => (sc.findByLevels_eq_find t body).symm, fun sc w hw => ?_,
    fun hfirst => ⟨?_, BodyStore.result_find_of_not_stopsAt hfirst,
      fun i => BodyStore.result_find_of_isLeast hfirst⟩,
    fun source' reach => BodyStore.find_congr, fun reach m hm => ?_⟩
  · obtain ⟨i, -, -, rfl⟩ := Template.first?_eq_some_iff.mp hw
    exact ⟨Scope.find_of_first? hw, rfl⟩
  · rw [Scope.find_bodyOnly, hfirst]
  · obtain ⟨j, hj, hbefore⟩ := BodyStore.before_of_decoding_mem hm
    exact ⟨Body.isDefinition_of_calleeAt hj, j, hj, hbefore⟩

/-- A call that leaves the binary, then calls of three methods of it. -/
def fourCalls : Body :=
  [⟨.call, .method ⟨⟨0x0A000001⟩, "System.GC::Collect", "System.Void"⟩⟩,
   ⟨.call, .method ⟨⟨0x06000001⟩, "Vm::Again", "System.Void"⟩⟩,
   ⟨.callvirt, .method ⟨⟨0x06000002⟩, "Vm::Xor", "System.Void"⟩⟩,
   ⟨.call, .method ⟨⟨0x06000003⟩, "Vm::Later", "System.Void"⟩⟩]

/-- The second of the methods holds the template, the first calls itself, and the third is missing:
the answer is the window of the second, and stays so with a window in the third. -/
theorem find_by_calls_fourCalls :
    let t := Template.exact [.xor, .ret]
    let helper : Body := [.ofOpcode .nop, .ofOpcode .xor, .ofOpcode .ret]
    let again : Body := [⟨.call, .method ⟨⟨0x06000001⟩, "Vm::Again", "System.Void"⟩⟩]
    let S := BodyStore.ofList [(⟨0x06000001⟩, again), (⟨0x06000002⟩, helper)]
    IsLeast {j | S.StopsAt t fourCalls j} 2 ∧
    ((Scope.widest S.source).find t fourCalls).result = .ok (some ⟨helper, 1, 2, some 2⟩) ∧
    Scope.find ⟨(S.insert ⟨0x06000003⟩ helper).source, .callees⟩ t fourCalls =
      Scope.find ⟨S.source, .callees⟩ t fourCalls ∧
    .decoding ⟨⟨0x06000003⟩, "Vm::Later", "System.Void"⟩ ∉
      ((Scope.widest S.source).find t fourCalls).events := by
  intro t helper again S
  have hstop : S.StopsAt t fourCalls 2 := .inr ⟨_, helper, rfl, rfl, rfl⟩
  have hbefore : ∀ j < 2, ¬ S.StopsAt t fourCalls j := by
    intro j hj
    rw [BodyStore.not_stopsAt_iff]
    intro m hm
    match j, hj with
    | 0, _ => cases hm
    | 1, _ =>
      cases hm
      exact ⟨again, rfl, rfl⟩
  obtain ⟨-, -, hsearch, hothers, hdecoded⟩ := find_by_calls S t fourCalls
  obtain ⟨-, -, hleast⟩ := hsearch rfl
  have hisLeast := isLeast_setOf_iff.mpr ⟨hstop, hbefore⟩
  obtain ⟨m, hm, -, hfound⟩ := hleast 2 hisLeast
  cases hm
  obtain ⟨w, hw, hresult⟩ := hfound helper rfl
  cases hw
  refine ⟨hisLeast, hresult, hothers _ .callees ?_, ?_⟩
  · intro j m hm hnone
    have hle : j ≤ 2 := Nat.le_of_not_lt fun hlt => hnone 2 hlt hstop
    match j, hle with
    | 0, _ => cases hm
    | 1, _ =>
      cases hm
      rfl
    | 2, _ =>
      cases hm
      rfl
  · intro hmem
    obtain ⟨-, j, hj, hnone⟩ := hdecoded .callees _ hmem
    have hle : j ≤ 2 := Nat.le_of_not_lt fun hlt => hnone 2 hlt hstop
    match j, hle with
    | 0, _ => cases hj
    | 1, _ => cases hj
    | 2, _ => cases hj

end CilRecovery
