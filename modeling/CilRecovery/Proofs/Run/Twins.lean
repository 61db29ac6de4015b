import CilRecovery.Proofs.Run.Agreement
import CilRecovery.Proofs.Search.Sites
import Mathlib.Data.List.Forall2

/-!
# Searches over twin bodies

Two bodies are *twins* if they have the same opcodes and if, position by position, their callees
decode alike: both to bodies of the same opcodes, or both to failures that correspond.  No search
tells twins apart, whatever the operands of the two bodies and of their callees are.

    twins → reaches, selects and the counts in callees agree     (on_reaches, on_selects, on_countIn)
-/

namespace CilRecovery

/-! ## Twins -/

section
variable (g : Agreement) (sc sc' : Scope)

/-- The two methods decode to bodies of the same opcodes, or fail correspondingly. -/
def DecodeAlike (m m' : MethodRef) : Prop :=
  g.On (Body.opcodes <$> sc.source m) (Body.opcodes <$> sc'.source m')

/-- Instructions that searches do not tell apart. -/
structure Instruction.Twin (i i' : Instruction) : Prop where
  opcode : i.opcode = i'.opcode
  callee : Option.Rel (DecodeAlike g sc sc') i.callee? i'.callee?

/-- Call sites that searches do not tell apart. -/
structure CallSite.Twin (s s' : CallSite) : Prop where
  index : s.index = s'.index
  before : s.before = s'.before
  callee : DecodeAlike g sc sc' s.callee s'.callee

end

variable {g : Agreement} {sc sc' : Scope}

/-- Either neither of two twins has a callee, or both have, and these decode alike. -/
theorem Instruction.Twin.callee_cases {i i' : Instruction} (h : i.Twin g sc sc' i') :
    (i.callee? = none ∧ i'.callee? = none) ∨
      ∃ m m', i.callee? = some m ∧ i'.callee? = some m' ∧ DecodeAlike g sc sc' m m' := by
  have hc := h.callee
  generalize i.callee? = o at hc ⊢
  generalize i'.callee? = o' at hc ⊢
  cases hc with
  | none => exact .inl ⟨rfl, rfl⟩
  | some hd => exact .inr ⟨_, _, rfl, rfl, hd⟩

theorem Body.opcodes_eq_of_twins {body body' : Body}
    (h : List.Forall₂ (Instruction.Twin g sc sc') body body') : body.opcodes = body'.opcodes := by
  induction h with
  | nil => rfl
  | cons hi _ ih =>
    unfold opcodes at ih ⊢
    rw [List.map_cons, List.map_cons, hi.opcode, ih]

theorem Body.twins_callSitesFrom {body body' : Body}
    (h : List.Forall₂ (Instruction.Twin g sc sc') body body') :
    ∀ (start : Nat) (before : List Opcode),
      List.Forall₂ (CallSite.Twin g sc sc') (callSitesFrom start before body)
        (callSitesFrom start before body') := by
  induction h with
  | nil =>
    intro start before
    exact .nil
  | @cons i i' rest rest' hi _ ih =>
    intro start before
    have hrest := ih (start + 1) (i.opcode :: before)
    unfold callSitesFrom
    rw [← hi.opcode]
    rcases hi.callee_cases with ⟨hm, hm'⟩ | ⟨m, m', hm, hm', hd⟩
    · rw [hm, hm']
      exact hrest
    · rw [hm, hm']
      exact .cons ⟨rfl, rfl, hd⟩ hrest

/-- The call sites of twins are twins. -/
theorem Body.twins_callSites {body body' : Body}
    (h : List.Forall₂ (Instruction.Twin g sc sc') body body') :
    List.Forall₂ (CallSite.Twin g sc sc') body.callSites body'.callSites :=
  twins_callSitesFrom h 0 []

/-! ## Decoding -/

/-- Stores decode two methods alike if they hold bodies of the same opcodes for them, or none. -/
theorem BodyStore.decodeAlike {reach : Reach} {S S' : BodyStore} {m m' : MethodRef}
    (h : (S.get? m.token).map Body.opcodes = (S'.get? m'.token).map Body.opcodes)
    (hfail : ∀ e e', S.source m = .error e → S'.source m' = .error e' → g.matched e e') :
    DecodeAlike g ⟨S.source, reach⟩ ⟨S'.source, reach⟩ m m' := by
  show Agreement.On _ (Body.opcodes <$> S.source m) (Body.opcodes <$> S'.source m')
  cases hS : S.get? m.token with
  | none =>
    rw [hS] at h
    have hS' : S'.get? m'.token = none := Option.map_eq_none_iff.1 h.symm
    have hmatched := hfail _ _ (source_of_none hS) (source_of_none hS')
    rw [source_of_none hS, source_of_none hS']
    exact Agreement.on_error hmatched
  | some b =>
    rw [hS] at h
    obtain ⟨b', hS', hb⟩ := Option.map_eq_some_iff.1 h.symm
    rw [source_of_some hS, source_of_some hS']
    exact congrArg Except.ok hb

namespace Scope

/-- What is computed from the opcodes of the callees of twins agrees. -/
theorem on_decode_bind {α : Type} {m m' : MethodRef} (h : DecodeAlike g sc sc' m m')
    {f f' : Body → Traced α}
    (hf : ∀ b b' : Body, b.opcodes = b'.opcodes → g.On (f b).result (f' b').result) :
    g.On (sc.decode m >>= f).result (sc'.decode m' >>= f').result := by
  refine Agreement.On.bind_of_map (p := Body.opcodes) ?_ hf
  rw [result_decode, result_decode]
  exact h

theorem on_countIn {m m' : MethodRef} (h : DecodeAlike g sc sc' m m') (t : Template) :
    g.On (sc.countIn t m).result (sc'.countIn t m').result := by
  refine on_decode_bind h fun b b' hb => ?_
  rw [hb]
  exact Agreement.on_pure _

theorem on_entireIn {m m' : MethodRef} (h : DecodeAlike g sc sc' m m') (t : Template) :
    g.On (sc.entireIn t m).result (sc'.entireIn t m').result := by
  refine on_decode_bind h fun b b' hb => ?_
  rw [hb]
  exact Agreement.on_pure _

theorem on_countInCallee {i i' : Instruction} (h : i.Twin g sc sc' i') (t : Template) :
    g.On (sc.countInCallee t i).result (sc'.countInCallee t i').result := by
  unfold countInCallee
  rcases h.callee_cases with ⟨hm, hm'⟩ | ⟨m, m', hm, hm', hd⟩
  · rw [hm, hm']
    exact Agreement.on_pure _
  · rw [hm, hm']
    exact on_countIn hd t

theorem on_isCallee {i i' : Instruction} (h : i.Twin g sc sc' i') (t : Template) :
    g.On (sc.isCallee t i).result (sc'.isCallee t i').result := by
  unfold isCallee
  rcases h.callee_cases with ⟨hm, hm'⟩ | ⟨m, m', hm, hm', hd⟩
  · rw [hm, hm']
    exact Agreement.on_pure _
  · rw [hm, hm']
    exact on_entireIn hd t

/-! ## Windows -/

/-- Whether a window is found in the callees depends on the opcodes there alone. -/
theorem on_findInCallees {sites sites' : List CallSite}
    (h : List.Forall₂ (CallSite.Twin g sc sc') sites sites') (t : Template) :
    g.On (Option.isSome <$> (sc.findInCallees t sites).result)
      (Option.isSome <$> (sc'.findInCallees t sites').result) := by
  induction h with
  | nil => exact Agreement.on_ok false
  | @cons s s' rest rest' hs _ ih =>
    rw [← Traced.result_map, ← Traced.result_map]
    unfold findInCallees
    simp only [map_bind]
    refine Agreement.On.bind (Agreement.on_report _ _) fun _ => ?_
    refine on_decode_bind hs.callee fun b b' hb => ?_
    have hsome : (t.first? b).isSome = (t.first? b').isSome := by
      rw [Template.isSome_first?, Template.isSome_first?, hb]
    cases hf : t.first? b with
    | some m =>
      cases hf' : t.first? b' with
      | some m' => exact Agreement.on_ok true
      | none => simp [hf, hf'] at hsome
    | none =>
      cases hf' : t.first? b' with
      | some m' => simp [hf, hf'] at hsome
      | none => exact ih

theorem on_reaches (hr : sc.reach = sc'.reach) {body body' : Body}
    (h : List.Forall₂ (Instruction.Twin g sc sc') body body') (t : Template) :
    g.On (sc.reaches t body).result (sc'.reaches t body').result := by
  have hsome : (t.first? body).isSome = (t.first? body').isSome := by
    rw [Template.isSome_first?, Template.isSome_first?, Body.opcodes_eq_of_twins h]
  have hfind : g.On (Option.isSome <$> (sc.find t body).result)
      (Option.isSome <$> (sc'.find t body').result) := by
    unfold find
    cases hf : t.first? body with
    | some m =>
      cases hf' : t.first? body' with
      | some m' => exact Agreement.on_ok true
      | none => simp [hf, hf'] at hsome
    | none =>
      cases hf' : t.first? body' with
      | some m' => simp [hf, hf'] at hsome
      | none =>
        rw [← hr]
        cases sc.reach with
        | bodyOnly => exact Agreement.on_ok false
        | callees => exact on_findInCallees (Body.twins_callSites h) t
  refine Agreement.On.bind_of_map hfind fun m m' hm => ?_
  rw [hm]
  exact Agreement.on_pure _

/-! ## Flags -/

theorem on_flagsAt {sites sites' : List CallSite}
    (h : List.Forall₂ (CallSite.Twin g sc sc') sites sites') (t : Template) (arity : Nat) :
    g.On (sc.flagsAt t arity sites).result (sc'.flagsAt t arity sites').result := by
  induction h with
  | nil => exact Agreement.on_ok []
  | @cons s s' rest rest' hs _ ih =>
    unfold flagsAt
    refine on_decode_bind hs.callee fun b b' hb => ?_
    have hflags : s.flags? arity = s'.flags? arity := by
      unfold CallSite.flags?
      rw [hs.before]
    rw [← hb, ← hflags]
    cases t.occursIn b.opcodes with
    | false => exact ih
    | true =>
      cases s.flags? arity with
      | none => exact ih
      | some flags =>
        refine Agreement.On.bind (Agreement.on_report _ _) fun _ => ?_
        rw [Traced.result_map, Traced.result_map]
        exact ih.map _

theorem on_selects (hr : sc.reach = sc'.reach) {body body' : Body}
    (h : List.Forall₂ (Instruction.Twin g sc sc') body body') (t : Template) (flags : List Bool) :
    g.On (sc.selects t flags body).result (sc'.selects t flags body').result := by
  have hsites : ∀ arity, g.On (sc.flagSites t arity body).result
      (sc'.flagSites t arity body').result := by
    intro arity
    unfold flagSites
    rw [← hr]
    cases sc.reach with
    | bodyOnly => exact Agreement.on_ok []
    | callees =>
      refine on_flagsAt (List.rel_filter ?_ (Body.twins_callSites h)) t arity
      intro s s' hs
      show decide (arity ≤ s.index) = true ↔ decide (arity ≤ s'.index) = true
      rw [hs.index]
  exact Agreement.On.bind (hsites _) fun sites => Agreement.on_pure _

end Scope

end CilRecovery
