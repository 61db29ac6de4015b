import CilRecovery.Proofs.Search.Sites

/-!
# What searches find in helpers

The helpers of a body are the bodies of its callees.  A search for a window is true only if the
window is in the body or in a helper.  A search for flags looks at the calls of helpers that hold
the template, and reads off the instructions right before each of them which flags it *passes*.

    a window is found → it occurs in the body or in a helper        (occursIn_or_helper_of_find)
    flags are selected ↔ some call passes them, and no call passes others     (selects_eq_true_iff)

The second needs that every callee can be decoded.  Without a hop nothing is selected.
-/

namespace CilRecovery

/-! ## Literals before a call -/

theorem Opcode.mapM_booleanLiteral?_eq_some {os : List Opcode} {flags : List Bool} :
    os.mapM Opcode.booleanLiteral? = some flags ↔ os = flags.map Opcode.ofBoolean := by
  induction os generalizing flags with
  | nil => cases flags <;> simp
  | cons o os ih =>
    simp only [List.mapM_cons, Option.bind_eq_bind, Option.bind_eq_some_iff, ih,
      booleanLiteral?_eq_some, Option.pure_def, Option.some.injEq]
    constructor
    · rintro ⟨b, rfl, later, rfl, rfl⟩
      rfl
    · intro h
      obtain ⟨b, later, rfl, ho, hos⟩ := List.map_eq_cons_iff.1 h.symm
      exact ⟨b, ho.symm, later, hos.symm, rfl⟩

namespace Scope

/-- The body belongs to a method that `caller` calls. -/
def IsHelper (sc : Scope) (caller b : Body) : Prop :=
  ∃ index m, caller.calleeAt index = some m ∧ sc.source m = .ok b

/-- The instruction at the position calls a helper that holds the template, and right before it the
flags are loaded, one by one. -/
structure Passes (sc : Scope) (t : Template) (body : Body) (index : Nat) (flags : List Bool) :
    Prop where
  helper : ∃ m b, body.calleeAt index = some m ∧ sc.source m = .ok b ∧ t.occursIn b.opcodes = true
  room : flags.length ≤ index
  literals : (body.opcodes.drop (index - flags.length)).take flags.length =
    flags.map Opcode.ofBoolean

/-- These flags are passed to a helper that holds the template, and no others of their number. -/
structure PassesOnly (sc : Scope) (t : Template) (body : Body) (flags : List Bool) : Prop where
  passes : ∃ index, sc.Passes t body index flags
  only : ∀ index flags', sc.Passes t body index flags' → flags'.length = flags.length →
    flags' = flags

variable {sc : Scope} {t : Template} {body : Body}

/-! ## Windows -/

theorem occursIn_of_first? {m : Match} (h : t.first? body = some m) :
    t.occursIn body.opcodes = true := by
  rw [← Template.isSome_first?, h]
  rfl

/-- A window that is found lies in the body or in one of its helpers. -/
theorem occursIn_or_helper_of_find {m : Match} (h : (sc.find t body).result = .ok (some m)) :
    t.occursIn body.opcodes = true ∨ ∃ b, sc.IsHelper body b ∧ t.occursIn b.opcodes = true := by
  rcases find_eq_some_iff.1 h with hfirst | ⟨-, -, index, m', b, w, hm', hb, hw, -, -⟩
  · exact .inl (occursIn_of_first? hfirst)
  · exact .inr ⟨b, ⟨index, m', hm', hb⟩, occursIn_of_first? hw⟩

theorem occursIn_or_helper_of_reaches (h : (sc.reaches t body).result = .ok true) :
    t.occursIn body.opcodes = true ∨ ∃ b, sc.IsHelper body b ∧ t.occursIn b.opcodes = true := by
  unfold reaches at h
  obtain ⟨found, hfind, hsome⟩ := Traced.bind_eq_ok.1 h
  obtain ⟨m, rfl⟩ := Option.isSome_iff_exists.1 (Except.ok.inj hsome)
  exact occursIn_or_helper_of_find hfind

/-! ## Flags -/

theorem mem_of_flagsAt {sites : List CallSite} {arity : Nat} {found : List (List Bool)}
    (h : (sc.flagsAt t arity sites).result = .ok found) {flags : List Bool} :
    flags ∈ found ↔ ∃ s ∈ sites, s.flags? arity = some flags ∧
      ∃ b, sc.source s.callee = .ok b ∧ t.occursIn b.opcodes = true := by
  induction sites generalizing found with
  | nil =>
    cases h
    simp
  | cons s rest ih =>
    unfold flagsAt at h
    obtain ⟨b, hb, h⟩ := Traced.bind_eq_ok.1 h
    rw [result_decode] at hb
    simp only [List.mem_cons, exists_eq_or_imp, hb, Except.ok.injEq, exists_eq_left']
    cases ho : t.occursIn b.opcodes with
    | false =>
      rw [ho] at h
      simp [ih h]
    | true =>
      rw [ho] at h
      cases hf : s.flags? arity with
      | none =>
        rw [hf] at h
        simp [ih h]
      | some flags' =>
        rw [hf] at h
        obtain ⟨_, -, h⟩ := Traced.bind_eq_ok.1 h
        obtain ⟨later, hlater, rfl⟩ := Traced.map_eq_ok.1 h
        simp [ih hlater, @eq_comm _ flags flags']

section
variable {source : BodySource} {arity : Nat} {flags : List Bool}

/-- The flags of a call site are read off the window of opcodes right before it. -/
theorem flags?_eq_some_iff {s : CallSite} (hs : s ∈ body.callSites) (ha : arity ≤ s.index) :
    s.flags? arity = some flags ↔ flags.length = arity ∧
      (body.opcodes.drop (s.index - arity)).take arity = flags.map Opcode.ofBoolean := by
  rw [Body.flags?_of_mem hs ha, Opcode.mapM_booleanLiteral?_eq_some]
  refine ⟨fun h => ⟨?_, h⟩, And.right⟩
  obtain ⟨-, i, hi, -⟩ := Body.mem_callSites.1 hs
  have hlt : s.index < body.length := (List.getElem?_eq_some_iff.1 hi).1
  have hlen := congrArg List.length h
  simp only [Body.opcodes, List.length_take, List.length_drop, List.length_map] at hlen
  omega

/-- The flags that a search collects are those that the body passes. -/
theorem mem_of_flagSites {found : List (List Bool)}
    (h : ((widest source).flagSites t arity body).result = .ok found) :
    flags ∈ found ↔ flags.length = arity ∧ ∃ index, (widest source).Passes t body index flags := by
  rw [mem_of_flagsAt (show ((widest source).flagsAt t arity _).result = _ from h)]
  simp only [List.mem_filter, decide_eq_true_eq]
  constructor
  · rintro ⟨s, ⟨hs, hroom⟩, hflags, b, hb, ho⟩
    obtain ⟨rfl, hlits⟩ := (flags?_eq_some_iff hs hroom).1 hflags
    exact ⟨rfl, s.index, ⟨s.callee, b, Body.calleeAt_of_mem hs, hb, ho⟩, hroom, hlits⟩
  · rintro ⟨rfl, index, ⟨m, b, hm, hb, ho⟩, hroom, hlits⟩
    obtain ⟨s, hs, rfl, rfl⟩ := Body.exists_mem_of_calleeAt hm
    exact ⟨s, ⟨hs, hroom⟩, (flags?_eq_some_iff hs hroom).2 ⟨rfl, hlits⟩, b, hb, ho⟩

/-- The search for flags succeeds if the callees that leave room for them can be decoded. -/
theorem exists_result_flagSites_iff :
    (∃ found, ((widest source).flagSites t arity body).result = .ok found) ↔
      ∀ i m, arity ≤ i → body.calleeAt i = some m → ∃ b, source m = .ok b := by
  have herror : ∀ e, ((widest source).flagSites t arity body).result = .error e ↔
      ((body.callSites.filter fun s => decide (arity ≤ s.index)).findSome? fun s =>
        (widest source).failure? s.callee) = some e := fun e =>
    (widest source).result_flagsAt_eq_error t arity _ e
  constructor
  · rintro ⟨found, hfound⟩ i m hi hm
    obtain ⟨s, hs, rfl, rfl⟩ := Body.exists_mem_of_calleeAt hm
    have hnone : ((body.callSites.filter fun s => decide (arity ≤ s.index)).findSome? fun s =>
        (widest source).failure? s.callee) = none := by
      refine Option.eq_none_iff_forall_not_mem.2 fun e he => ?_
      cases hfound.symm.trans ((herror e).2 he)
    exact failure?_eq_none.1 (List.findSome?_eq_none_iff.1 hnone s
      (List.mem_filter.2 ⟨hs, decide_eq_true hi⟩))
  · intro hdec
    cases h : ((widest source).flagSites t arity body).result with
    | ok found => exact ⟨found, rfl⟩
    | error e =>
      obtain ⟨s, hs, he⟩ := List.exists_of_findSome?_eq_some ((herror e).1 h)
      obtain ⟨hmem, hroom⟩ := List.mem_filter.1 hs
      obtain ⟨b, hb⟩ := hdec s.index s.callee (of_decide_eq_true hroom) (Body.calleeAt_of_mem hmem)
      cases hb.symm.trans (failure?_eq_some.1 he)

theorem exists_result_flagSites (hdec : ∀ i m, body.calleeAt i = some m → ∃ b, source m = .ok b) :
    ∃ found, ((widest source).flagSites t arity body).result = .ok found :=
  exists_result_flagSites_iff.2 fun i m _ => hdec i m

/-- If the callees that leave room for flags can be decoded, flags are selected that are passed, and
passed alone. -/
theorem selects_eq_true_iff_of_room
    (hdec : ∀ i m, flags.length ≤ i → body.calleeAt i = some m → ∃ b, source m = .ok b) :
    ((widest source).selects t flags body).result = .ok true ↔
      (widest source).PassesOnly t body flags := by
  have hflags : ∃ found, ((widest source).flagSites t flags.length body).result = .ok found :=
    exists_result_flagSites_iff.2 hdec
  obtain ⟨found, hfound⟩ := hflags
  unfold selects
  rw [Traced.bind_of_ok hfound]
  simp only [Traced.result_pure, Except.ok.injEq, Bool.and_eq_true, List.contains_iff_mem,
    List.all_eq_true, beq_iff_eq]
  constructor
  · rintro ⟨hmem, hall⟩
    refine ⟨((mem_of_flagSites hfound).1 hmem).2, fun index flags' hp hlen => ?_⟩
    exact hall flags' ((mem_of_flagSites hfound).2 ⟨hlen, index, hp⟩)
  · rintro ⟨hpasses, honly⟩
    refine ⟨(mem_of_flagSites hfound).2 ⟨rfl, hpasses⟩, fun flags' hmem => ?_⟩
    obtain ⟨hlen, index, hp⟩ := (mem_of_flagSites hfound).1 hmem
    exact honly index flags' hp hlen

/-- If every callee can be decoded, flags are selected that are passed, and passed alone. -/
theorem selects_eq_true_iff (hdec : ∀ i m, body.calleeAt i = some m → ∃ b, source m = .ok b) :
    ((widest source).selects t flags body).result = .ok true ↔
      (widest source).PassesOnly t body flags :=
  selects_eq_true_iff_of_room fun i m _ => hdec i m

/-- Without a hop no call is looked at. -/
theorem selects_bodyOnly : Scope.selects ⟨source, .bodyOnly⟩ t flags body = pure false := rfl

end

/-- Flags are selected only where a helper holds the template. -/
theorem helper_of_selects {flags : List Bool} (h : (sc.selects t flags body).result = .ok true) :
    ∃ b, sc.IsHelper body b ∧ t.occursIn b.opcodes = true := by
  unfold selects flagSites at h
  obtain ⟨found, hfound, hsel⟩ := Traced.bind_eq_ok.1 h
  simp only [Traced.result_pure, Except.ok.injEq, Bool.and_eq_true, List.contains_iff_mem] at hsel
  cases hr : sc.reach with
  | bodyOnly =>
    rw [hr] at hfound
    cases hfound
    exact absurd hsel.1 List.not_mem_nil
  | callees =>
    rw [hr] at hfound
    obtain ⟨s, hs, -, b, hb, ho⟩ := (mem_of_flagsAt hfound).1 hsel.1
    exact ⟨b, ⟨s.index, s.callee, Body.calleeAt_of_mem (List.mem_filter.1 hs).1, hb⟩, ho⟩

end Scope

end CilRecovery
