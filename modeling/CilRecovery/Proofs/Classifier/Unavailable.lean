import CilRecovery.Proofs.Classifier.Dispatch
import CilRecovery.Proofs.Registry.Recognition
import CilRecovery.Proofs.Run.Simulation
import Mathlib.Order.Nat

/-!
# When a missing body is reported

The rules for `add` come first and decode every callee that can be given two flags; the rule for
`and` comes next and decodes the callees up to the first that holds its window.  If both have found
nothing, every callee has been decoded, so no later rule can fail.

    a callee is reported ↔ it is the first missing one at a position ≥ 2, or there is none such, and
                           nothing before it is an answer         (identify_bodyUnavailable_iff)
    unknown operations have no missing callee                     (decodable_of_unknown)
-/

namespace CilRecovery

/-! ## Least positions -/

theorem isLeast_setOf_iff {p : Nat → Prop} {i : Nat} :
    IsLeast {j | p j} i ↔ p i ∧ ∀ j < i, ¬ p j := by
  constructor
  · rintro ⟨hi, hleast⟩
    refine ⟨hi, fun j hj hp => ?_⟩
    have hij : i ≤ j := hleast hp
    omega
  · rintro ⟨hi, hbefore⟩
    refine ⟨hi, fun j hp => ?_⟩
    apply Nat.le_of_not_lt
    intro hj
    exact hbefore j hj hp

/-- A bound that the least position meets may be left out. -/
theorem isLeast_lt_and_iff {p : Nat → Prop} {i n : Nat} (hi : i < n) :
    IsLeast {j | j < n ∧ p j} i ↔ IsLeast {j | p j} i := by
  rw [isLeast_setOf_iff, isLeast_setOf_iff]
  constructor
  · rintro ⟨⟨-, hp⟩, hbefore⟩
    refine ⟨hp, fun j hj hpj => hbefore j hj ⟨?_, hpj⟩⟩
    omega
  · rintro ⟨hp, hbefore⟩
    exact ⟨⟨hi, hp⟩, fun j hj h => hbefore j hj h.2⟩

/-! ## Positions of a body -/

namespace BodyStore

/-- The callee at the position has no body in the store. -/
def MissingAt (S : BodyStore) (body : Body) (index : Nat) : Prop :=
  ∃ m, body.calleeAt index = some m ∧ S.get? m.token = none

/-- The callee at the position has a body in which the template occurs. -/
def HoldsAt (S : BodyStore) (t : Template) (body : Body) (index : Nat) : Prop :=
  ∃ m b, body.calleeAt index = some m ∧ S.get? m.token = some b ∧ t.occursIn b.opcodes = true

variable {S : BodyStore} {body : Body} {index : Nat} {t : Template}

theorem not_missingAt : ¬ S.MissingAt body index ↔
    ∀ m, body.calleeAt index = some m → ∃ b, S.source m = .ok b := by
  unfold MissingAt
  simp only [not_exists, not_and, source_eq_ok, ← Option.ne_none_iff_exists', ne_eq]

theorem not_missingAt_or_holdsAt : ¬ (S.MissingAt body index ∨ S.HoldsAt t body index) ↔
    ∀ m, body.calleeAt index = some m →
      ∃ b, S.source m = .ok b ∧ t.occursIn b.opcodes = false := by
  unfold MissingAt HoldsAt
  cases hm : body.calleeAt index with
  | none => simp
  | some m =>
    cases hb : S.get? m.token with
    | none => simp [source_eq_ok, hb]
    | some b => simp [source_eq_ok, hb]

/-- A search for flags fails at the first missing callee that leaves room for them. -/
theorem selects_eq_error_iff {flags : List Bool} {e : Error} :
    ((Scope.widest S.source).selects t flags body).result = .error e ↔
      ∃ i m, body.calleeAt i = some m ∧ S.source m = .error e ∧
        IsLeast {j | flags.length ≤ j ∧ S.MissingAt body j} i := by
  rw [Scope.result_selects_eq_error]
  refine exists_congr fun i => exists_congr fun m => and_congr_right fun hm => ?_
  rw [and_left_comm]
  refine and_congr_right fun he => ?_
  have hmissing : S.MissingAt body i := ⟨m, hm, (source_eq_error.1 he).1⟩
  rw [isLeast_setOf_iff, and_iff_left hmissing]
  simp only [not_and, not_missingAt]

/-- A search for a window fails if a missing callee comes before all that hold it. -/
theorem reaches_eq_error_iff {e : Error} :
    ((Scope.widest S.source).reaches t body).result = .error e ↔
      t.occursIn body.opcodes = false ∧
        ∃ i m, body.calleeAt i = some m ∧ S.source m = .error e ∧
          IsLeast {j | S.MissingAt body j ∨ S.HoldsAt t body j} i := by
  rw [Scope.result_reaches_eq_error]
  refine and_congr_right fun _ =>
    exists_congr fun i => exists_congr fun m => and_congr_right fun hm => and_congr_right fun he => ?_
  have hmissing : S.MissingAt body i := ⟨m, hm, (source_eq_error.1 he).1⟩
  rw [isLeast_setOf_iff, and_iff_right (.inl hmissing)]
  simp only [not_missingAt_or_holdsAt]

end BodyStore

/-! ## The rules up to `and` -/

/-- The classifier that follows calls into the bodies of a store, with the standard table. -/
def BodyStore.classifier (S : BodyStore) (allowUncertain : Bool) : Classifier :=
  ⟨.widest S.source, allowUncertain, .standard⟩

/-- A configuration with one hop is granted this classifier. -/
theorem BodyStore.ofConfig_eq_classifier (S : BodyStore) (allowUncertain : Bool) :
    Classifier.ofConfig S.source ⟨1, allowUncertain⟩ .standard =
      .ok (S.classifier allowUncertain) := rfl

variable {S : BodyStore} {v : VirtualInstruction} {low : Bool}

/-- If every callee can be decoded, a classification fails only because no rule holds. -/
theorem identify_of_decodable (low : Bool)
    (h : ∀ i m, v.body.calleeAt i = some m → ∃ b, S.source m = .ok b) :
    (∃ op, ((S.classifier low).identify v).result = .ok op) ∨
      ((S.classifier low).identify v).result = .error (.unknownOperation v) := by
  have htwin : (Candidate.mk v (.widest S.source)).Twin
      (.failing fun e => e = .unknownOperation v) (fun _ => True) ⟨v, .widest S.source⟩ := by
    refine .of_failing fun i hi m hm e he => ?_
    obtain ⟨index, hindex⟩ := List.mem_iff_getElem?.1 hi
    obtain ⟨b, hb⟩ := h index m (Body.calleeAt_eq_some_iff.2 ⟨i, hindex, hm⟩)
    cases hb.symm.trans he
  have hon := on_identify_standard low htwin rfl (fun _ _ _ _ => trivial) (.inl rfl)
  rcases hon.of_failing with h | ⟨e, he, rfl⟩
  · exact .inl h
  · exact .inr he

/-- The signatures that come first. -/
def Signature.additions : List Signature :=
  [flagged .add Shape.addHelper [false, false], flagged .add_ovf Shape.addHelper [true, false],
   flagged .add_ovf_un Shape.addHelper [true, true]]

theorem Signature.standard_eq_additions_append :
    standard = additions ++ reached .and Shape.and :: standard.drop 4 := rfl

theorem Signature.additions_form {s : Signature} (hs : s ∈ additions) :
    s.confidence = .certain ∧ ∃ flags, s.test = .selects flags Shape.addHelper ∧
      flags.length = 2 := by
  simp only [additions, List.mem_cons, List.not_mem_nil, or_false] at hs
  rcases hs with rfl | rfl | rfl
  · exact ⟨rfl, _, rfl, rfl⟩
  · exact ⟨rfl, _, rfl, rfl⟩
  · exact ⟨rfl, _, rfl, rfl⟩

theorem Signature.mem_of_mem_additions {s : Signature} (hs : s ∈ additions) : s ∈ standard := by
  rw [standard_eq_additions_append]
  exact List.mem_append_left _ hs

theorem addition_eq_error_iff {s : Signature} (hs : s ∈ Signature.additions) {e : Error} :
    (s.test.eval ⟨v, .widest S.source⟩).result = .error e ↔
      ∃ i m, v.body.calleeAt i = some m ∧ S.source m = .error e ∧
        IsLeast {j | 2 ≤ j ∧ S.MissingAt v.body j} i := by
  obtain ⟨-, flags, ht, hlen⟩ := Signature.additions_form hs
  rw [ht, ← hlen]
  exact BodyStore.selects_eq_error_iff

theorem identify_eq_error_iff {e : Error} :
    ((S.classifier low).identify v).result = .error e ↔
      (∃ i m, v.body.calleeAt i = some m ∧ S.source m = .error e ∧
        IsLeast {j | 2 ≤ j ∧ S.MissingAt v.body j} i) ∨
      (∀ s ∈ Signature.additions, (s.test.eval ⟨v, .widest S.source⟩).result = .ok false) ∧
        (((Scope.widest S.source).reaches Shape.and v.body).result = .error e ∨
          ((Scope.widest S.source).reaches Shape.and v.body).result = .ok false ∧
          (firstRule low ⟨v, .widest S.source⟩
            ((Signature.standard.drop 4).map Signature.rule)).result = .error e) := by
  have hrules : (S.classifier low).registry.rules =
      Signature.additions.map Signature.rule ++ (Signature.reached .and Shape.and).rule ::
        (Signature.standard.drop 4).map Signature.rule := rfl
  rw [Classifier.identify_eq_error, hrules, firstRule_append_eq_error (by simp [Signature.additions])
    (List.forall_mem_map.2 fun s hs => Rule.admitted_of_certain (Signature.additions_form hs).1)
    (List.forall_mem_map.2 fun s hs => addition_eq_error_iff hs), List.forall_mem_map,
    firstRule_eq_error (Rule.admitted_of_certain rfl)]
  rfl

theorem additions_false_iff :
    (∀ s ∈ Signature.additions, (s.test.eval ⟨v, .widest S.source⟩).result = .ok false) ↔
      (∀ j, 2 ≤ j → ¬ S.MissingAt v.body j) ∧
        ∀ op ∈ [Operation.add, .add_ovf, .add_ovf_un],
          ¬ Registry.standard.Recognises ⟨v, .widest S.source⟩ op := by
  have hlabels : [Operation.add, .add_ovf, .add_ovf_un] =
      Signature.additions.map Signature.label := rfl
  rw [hlabels, List.forall_mem_map]
  constructor
  · intro h
    refine ⟨fun j hj hmissing => ?_, fun s hs => ?_⟩
    · classical
      have hex : ∃ j, 2 ≤ j ∧ S.MissingAt v.body j := ⟨j, hj, hmissing⟩
      have hleast := Nat.isLeast_find hex
      obtain ⟨m, hm, hget⟩ := hleast.1.2
      have hfail := (addition_eq_error_iff (s := .flagged .add Shape.addHelper [false, false])
        List.mem_cons_self).2 ⟨_, m, hm, BodyStore.source_of_none hget, hleast⟩
      have hfalse := h _ List.mem_cons_self
      rw [hfail] at hfalse
      cases hfalse
    · rw [Registry.recognises_of_mem (Signature.mem_of_mem_additions hs), h s hs]
      simp
  · rintro ⟨hlate, hrec⟩ s hs
    cases hr : (s.test.eval ⟨v, .widest S.source⟩).result with
    | error e =>
      obtain ⟨i, m, -, -, hleast⟩ := (addition_eq_error_iff hs).1 hr
      exact absurd hleast.1.2 (hlate i hleast.1.1)
    | ok holds =>
      cases holds with
      | false => rfl
      | true =>
        exact absurd ((Registry.recognises_of_mem (Signature.mem_of_mem_additions hs)).2 hr)
          (hrec s hs)

/-- A body is reported by the searches of the first rules or, if they come to nothing, by the search
for `and`. -/
theorem identify_eq_bodyUnavailable {token : Token} {reason : String} :
    ((S.classifier low).identify v).result = .error (.bodyUnavailable token reason) ↔
      (∃ i m, v.body.calleeAt i = some m ∧
        S.source m = .error (.bodyUnavailable token reason) ∧
        IsLeast {j | 2 ≤ j ∧ S.MissingAt v.body j} i) ∨
      ((∀ j, 2 ≤ j → ¬ S.MissingAt v.body j) ∧
        ∀ op ∈ [Operation.add, .add_ovf, .add_ovf_un],
          ¬ Registry.standard.Recognises ⟨v, .widest S.source⟩ op) ∧
        Shape.and.occursIn v.body.opcodes = false ∧
        ∃ i m, v.body.calleeAt i = some m ∧
          S.source m = .error (.bodyUnavailable token reason) ∧
          IsLeast {j | S.MissingAt v.body j ∨ S.HoldsAt Shape.and v.body j} i := by
  have hrest : ((Scope.widest S.source).reaches Shape.and v.body).result = .ok false →
      ((S.classifier low).identify v).result ≠ .error (.bodyUnavailable token reason) := by
    intro hand h
    -- every callee has been decoded, so no later rule fails
    have hdecodable : ∀ i m, v.body.calleeAt i = some m → ∃ b, S.source m = .ok b := by
      intro i m hm
      obtain ⟨b, hb, -⟩ := (Scope.result_reaches_eq_false.1 hand).2 i m hm
      exact ⟨b, hb⟩
    rcases identify_of_decodable low hdecodable with ⟨op, hop⟩ | hunknown
    · rw [hop] at h
      cases h
    · rw [hunknown] at h
      cases h
  constructor
  · intro h
    rcases identify_eq_error_iff.1 h with hlate | ⟨hadd, hand | ⟨hand, -⟩⟩
    · exact .inl hlate
    · exact .inr ⟨additions_false_iff.1 hadd, BodyStore.reaches_eq_error_iff.1 hand⟩
    · exact absurd h (hrest hand)
  · rintro (hlate | ⟨hadd, hand⟩)
    · exact identify_eq_error_iff.2 (.inl hlate)
    · exact identify_eq_error_iff.2
        (.inr ⟨additions_false_iff.2 hadd, .inl (BodyStore.reaches_eq_error_iff.2 hand)⟩)

/-- Where the operation is unknown, the search for `and` has decoded every callee. -/
theorem decodable_of_unknown {w : VirtualInstruction}
    (h : ((S.classifier low).identify v).result = .error (.unknownOperation w)) (i : Nat)
    (m : MethodRef) (hm : v.body.calleeAt i = some m) : ∃ b, S.get? m.token = some b := by
  have hsource : ∀ m', S.source m' ≠ .error (.unknownOperation w) := by
    intro m' he
    cases (BodyStore.source_eq_error.1 he).2
  rcases identify_eq_error_iff.1 h with ⟨i', m', -, he, -⟩ | ⟨-, h | ⟨h, -⟩⟩
  · exact absurd he (hsource m')
  · obtain ⟨-, i', m', -, he, -⟩ := BodyStore.reaches_eq_error_iff.1 h
    exact absurd he (hsource m')
  · obtain ⟨b, hb, -⟩ := (Scope.result_reaches_eq_false.1 h).2 i m hm
    exact ⟨b, BodyStore.source_eq_ok.1 hb⟩

/-- **Missing bodies.**  A missing body is reported, and reported for the callee that the order of
the table leads to; where the operation is unknown none is missing. -/
theorem identify_bodyUnavailable_iff (S : BodyStore) (v : VirtualInstruction) (low : Bool) :
    (∀ token reason,
      ((S.classifier low).identify v).result = .error (.bodyUnavailable token reason) ↔
        ∃ i m, v.body.calleeAt i = some m ∧ S.get? m.token = none ∧
          token = m.token ∧ reason = "no decoded body for " ++ m.fullName ∧
          (IsLeast {j | 2 ≤ j ∧ S.MissingAt v.body j} i ∨
            (∀ j, 2 ≤ j → ¬ S.MissingAt v.body j) ∧
            (∀ op ∈ [Operation.add, .add_ovf, .add_ovf_un],
              ¬ Registry.standard.Recognises ⟨v, .widest S.source⟩ op) ∧
            Shape.and.occursIn v.body.opcodes = false ∧
            IsLeast {j | j < 2 ∧ (S.MissingAt v.body j ∨ S.HoldsAt Shape.and v.body j)} i)) ∧
    ((∃ w, ((S.classifier low).identify v).result = .error (.unknownOperation w)) ∨
        ((S.classifier low).tryIdentify v).result = .ok none →
      ∀ i m, v.body.calleeAt i = some m → ∃ b, S.get? m.token = some b) := by
  refine ⟨fun token reason => ?_, fun h i m hm => ?_⟩
  · rw [identify_eq_bodyUnavailable]
    constructor
    · rintro (⟨i, m, hm, he, hleast⟩ | ⟨⟨hlate, hrec⟩, hbody, i, m, hm, he, hleast⟩)
      · obtain ⟨hget, heq⟩ := BodyStore.source_eq_error.1 he
        obtain ⟨htoken, hreason⟩ := Error.bodyUnavailable.inj heq
        exact ⟨i, m, hm, hget, htoken, hreason, .inl hleast⟩
      · obtain ⟨hget, heq⟩ := BodyStore.source_eq_error.1 he
        obtain ⟨htoken, hreason⟩ := Error.bodyUnavailable.inj heq
        have hlt : i < 2 := by
          apply Nat.lt_of_not_le
          intro hle
          exact hlate i hle ⟨m, hm, hget⟩
        exact ⟨i, m, hm, hget, htoken, hreason,
          .inr ⟨hlate, hrec, hbody, (isLeast_lt_and_iff hlt).2 hleast⟩⟩
    · rintro ⟨i, m, hm, hget, rfl, rfl, hleast | ⟨hlate, hrec, hbody, hleast⟩⟩
      · exact .inl ⟨i, m, hm, BodyStore.source_of_none hget, hleast⟩
      · exact .inr ⟨⟨hlate, hrec⟩, hbody, i, m, hm, BodyStore.source_of_none hget,
          (isLeast_lt_and_iff hleast.1.1).1 hleast⟩
  · rw [Classifier.tryIdentify_eq_none, or_self] at h
    obtain ⟨w, hw⟩ := h
    exact decodable_of_unknown hw i m hm

/-- A handler that calls one method first and another one third. -/
def twoCalls : VirtualInstruction :=
  ⟨[⟨.call, .method ⟨⟨0x06000001⟩, "Vm::First", "System.Void"⟩⟩, .ofOpcode .ldarg_0,
    ⟨.call, .method ⟨⟨0x06000002⟩, "Vm::Third", "System.Void"⟩⟩],
   ⟨⟨0x04000001⟩, ⟨0x04000002⟩⟩, .none⟩

/-- If both are missing it is the later call that is reported, and if none is nothing is. -/
theorem identify_bodyUnavailable_iff_twoCalls :
    ((BodyStore.empty.classifier true).identify twoCalls).result =
        .error (.bodyUnavailable ⟨0x06000002⟩ "no decoded body for Vm::Third") ∧
      (((BodyStore.ofList [(⟨0x06000001⟩, []), (⟨0x06000002⟩, [])]).classifier true).identify
        twoCalls).result = .error (.unknownOperation twoCalls) ∧
      ∀ i m, twoCalls.body.calleeAt i = some m →
        ∃ b, (BodyStore.ofList [(⟨0x06000001⟩, []), (⟨0x06000002⟩, [])]).get? m.token = some b := by
  have hunknown : (((BodyStore.ofList [(⟨0x06000001⟩, []), (⟨0x06000002⟩, [])]).classifier
      true).identify twoCalls).result = .error (.unknownOperation twoCalls) := by
    decide +kernel
  refine ⟨?_, hunknown, (identify_bodyUnavailable_iff _ twoCalls true).2 (.inl ⟨_, hunknown⟩)⟩
  refine ((identify_bodyUnavailable_iff .empty twoCalls true).1 _ _).2
    ⟨2, ⟨⟨0x06000002⟩, "Vm::Third", "System.Void"⟩, rfl, rfl, rfl, by decide, .inl ⟨?_, ?_⟩⟩
  · exact ⟨Nat.le_refl 2, _, rfl, rfl⟩
  · intro j hj
    exact hj.1

end CilRecovery
