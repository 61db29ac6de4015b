import CilRecovery.Proofs.Registry.Evidence
import CilRecovery.Registry.Standard

/-!
# Searches for flags

The flags that a search selects are told by the calls that pass them.  It fails at the first callee
without a body, of those that leave room for the flags, and then whatever the flags are.  Otherwise
flags are selected if they are passed and no others are.  So of all flags of one number the search
selects at most one, and fails for all of them or for none.

    selects fails with e ↔ e is that of the first missing callee with room
                                                             (selects_eq_error_iff_firstMissing)
    selects succeeds ↔ all callees with room have bodies                     (selects_eq_ok_iff)
    no call passes the other flag ↔ all calls pass this one             (selectsFlag_eq_selects)
    all of this for the bodies of a store                                     (selects_by_calls)
-/

namespace CilRecovery

namespace Scope

variable {sc : Scope} {t : Template} {body : Body}

/-- Whether helpers that hold the template are called with the flag and none with the opposite. -/
def selectsFlag (sc : Scope) (t : Template) (flag : Bool) (body : Body) : Traced Bool := do
  let sites ← sc.flagSites t 1 body
  return sites.contains [flag] && !sites.contains [!flag]

theorem length_of_mem_flagSites {arity : Nat} {found : List (List Bool)}
    (h : (sc.flagSites t arity body).result = .ok found) {flags : List Bool}
    (hmem : flags ∈ found) : flags.length = arity := by
  obtain ⟨source, reach⟩ := sc
  cases reach with
  | bodyOnly =>
    cases h
    cases hmem
  | callees => exact ((mem_of_flagSites h).1 hmem).1

/-- Of single flags, all are this one if none is the opposite. -/
theorem contains_and_all_eq {sites : List (List Bool)} (hlen : ∀ s ∈ sites, s.length = 1)
    (flag : Bool) : (sites.contains [flag] && sites.all (· == [flag])) =
      (sites.contains [flag] && !sites.contains [!flag]) := by
  congr 1
  rw [Bool.eq_iff_iff, List.all_eq_true, Bool.not_eq_true', ← Bool.not_eq_true,
    List.contains_iff_mem]
  simp only [beq_iff_eq]
  constructor
  · intro hall hmem
    have hflag : [!flag] = [flag] := hall _ hmem
    simp at hflag
  · intro hnone s hs
    obtain ⟨b, rfl⟩ := List.length_eq_one_iff.1 (hlen s hs)
    have hb : b = flag := by
      rw [← Bool.not_not flag, Bool.eq_not]
      rintro rfl
      exact hnone hs
    rw [hb]

/-- For one flag, the two ways to say that no other is passed come to the same. -/
theorem selectsFlag_eq_selects (sc : Scope) (t : Template) (flag : Bool) (body : Body) :
    sc.selectsFlag t flag body = sc.selects t [flag] body := by
  unfold selectsFlag selects
  rw [Traced.bind_pure_eq_map, Traced.bind_pure_eq_map]
  refine Traced.ext rfl ?_
  rw [Traced.result_map, Traced.result_map]
  show _ <$> (sc.flagSites t 1 body).result = _ <$> (sc.flagSites t 1 body).result
  cases h : (sc.flagSites t 1 body).result with
  | error e => rfl
  | ok found =>
    exact congrArg Except.ok
      (contains_and_all_eq (fun s hs => length_of_mem_flagSites h hs) flag).symm

section
variable {source : BodySource} {flags : List Bool}

/-- A search succeeds if the callees with room can be decoded, and is true of flags that are passed,
and passed alone. -/
theorem selects_eq_ok_iff {b : Bool} :
    ((widest source).selects t flags body).result = .ok b ↔
      (∀ i m, flags.length ≤ i → body.calleeAt i = some m → ∃ b', source m = .ok b') ∧
        (b = true ↔ (widest source).PassesOnly t body flags) := by
  constructor
  · intro h
    obtain ⟨found, hfound, -⟩ := Traced.bind_eq_ok.1 h
    have hdec := exists_result_flagSites_iff.1 ⟨found, hfound⟩
    refine ⟨hdec, ?_⟩
    rw [← selects_eq_true_iff_of_room hdec, h, Except.ok.injEq]
  · rintro ⟨hdec, hb⟩
    obtain ⟨found, hfound⟩ := exists_result_flagSites_iff.2 hdec
    have hok : ∃ b', ((widest source).selects t flags body).result = .ok b' :=
      ⟨_, Traced.bind_of_ok hfound _⟩
    obtain ⟨b', hb'⟩ := hok
    have hiff : b' = true ↔ b = true := by
      rw [hb, ← selects_eq_true_iff_of_room hdec, hb', Except.ok.injEq]
    rw [hb', Bool.eq_iff_iff.2 hiff]

end

end Scope

/-- The failure to decode the first callee that leaves room for the flags and has no body. -/
def BodyStore.FirstMissing (S : BodyStore) (arity : Nat) (body : Body) (e : Error) : Prop :=
  ∃ i m, body.calleeAt i = some m ∧ arity ≤ i ∧ S.get? m.token = none ∧
    e = .bodyUnavailable m.token ("no decoded body for " ++ m.fullName) ∧
    ∀ j < i, arity ≤ j → ∀ m', body.calleeAt j = some m' → ∃ b, S.get? m'.token = some b

theorem BodyStore.selects_eq_error_iff_firstMissing {S : BodyStore} {t : Template} {body : Body}
    {flags : List Bool} {e : Error} :
    ((Scope.widest S.source).selects t flags body).result = .error e ↔
      S.FirstMissing flags.length body e := by
  unfold FirstMissing
  simp only [Scope.result_selects_eq_error, source_eq_error, source_eq_ok, and_assoc]

/-- **Flags.**  Without a hop nothing is selected and no callee is decoded.  With one, the search
fails as the first missing callee with room for the flags does, and else flags are selected if some
call of a helper passes them and none passes others; that no call passes the opposite of a single
flag is the same.  So the flags of one number exclude one another, and fail together. -/
theorem selects_by_calls (S : BodyStore) (t : Template) (body : Body) :
    (∀ flags, Scope.selects ⟨S.source, .bodyOnly⟩ t flags body = pure false) ∧
    (∀ reach flag, Scope.selectsFlag ⟨S.source, reach⟩ t flag body =
      Scope.selects ⟨S.source, reach⟩ t [flag] body) ∧
    (∀ flags e, ((Scope.widest S.source).selects t flags body).result = .error e ↔
      S.FirstMissing flags.length body e) ∧
    (∀ flags b, ((Scope.widest S.source).selects t flags body).result = .ok b ↔
      (∀ i m, flags.length ≤ i → body.calleeAt i = some m → ∃ b', S.get? m.token = some b') ∧
        (b = true ↔ (Scope.widest S.source).PassesOnly t body flags)) ∧
    (∀ reach flags flags', flags.length = flags'.length →
      (Scope.selects ⟨S.source, reach⟩ t flags body).result = .ok true →
      (Scope.selects ⟨S.source, reach⟩ t flags' body).result = .ok true → flags = flags') ∧
    (∀ reach flags flags', flags.length = flags'.length → ∀ e,
      (Scope.selects ⟨S.source, reach⟩ t flags body).result = .error e →
      (Scope.selects ⟨S.source, reach⟩ t flags' body).result = .error e) := by
  refine ⟨fun flags => Scope.selects_bodyOnly,
    fun reach flag => Scope.selectsFlag_eq_selects _ t flag body,
    fun flags e => BodyStore.selects_eq_error_iff_firstMissing, fun flags b => ?_,
    fun reach flags flags' hlen h h' => Scope.eq_of_selects hlen h h',
    fun reach flags flags' hlen e h => ?_⟩
  · simp only [Scope.selects_eq_ok_iff, BodyStore.source_eq_ok]
  · cases reach with
    | bodyOnly => cases h
    | callees =>
      have hfirst := BodyStore.selects_eq_error_iff_firstMissing.1 h
      rw [hlen] at hfirst
      exact BodyStore.selects_eq_error_iff_firstMissing.2 hfirst

/-- Two calls of one helper that pass different flags. -/
def mixedCalls : Body :=
  let call : Instruction := ⟨.call, .method ⟨⟨0x06000001⟩, "Vm::Shift", "System.Void"⟩⟩
  [.ofOpcode .ldc_i4_0, call, .ofOpcode .ldc_i4_1, call]

/-- Mixed flags select neither, and the first call alone selects its flag; without the helper every
search fails alike. -/
theorem selects_by_calls_mixedCalls :
    let S := BodyStore.ofList [(⟨0x06000001⟩, Shape.shrHelper.opcodes.map .ofOpcode)]
    let missing : Error := .bodyUnavailable ⟨0x06000001⟩ "no decoded body for Vm::Shift"
    (∀ flag, ¬ (Scope.widest S.source).PassesOnly Shape.shrHelper mixedCalls [flag]) ∧
    (Scope.widest S.source).PassesOnly Shape.shrHelper (mixedCalls.take 2) [false] ∧
    ((Scope.widest S.source).selects Shape.shrHelper [true] (mixedCalls.take 2)).result =
      .ok false ∧
    ∀ flag, ((Scope.widest BodyStore.empty.source).selects Shape.shrHelper [flag]
      mixedCalls).result = .error missing := by
  intro S missing
  have hneither : ∀ flag, ((Scope.widest S.source).selects Shape.shrHelper [flag]
      mixedCalls).result = .ok false := by
    intro flag
    cases flag <;> rfl
  have hfirst : ((Scope.widest S.source).selects Shape.shrHelper [false]
      (mixedCalls.take 2)).result = .ok true := rfl
  have hfails : ((Scope.widest BodyStore.empty.source).selects Shape.shrHelper [true]
      mixedCalls).result = .error missing := rfl
  obtain ⟨-, -, -, hmixed, -, -⟩ := selects_by_calls S Shape.shrHelper mixedCalls
  obtain ⟨-, -, -, hsingle, -, -⟩ := selects_by_calls S Shape.shrHelper (mixedCalls.take 2)
  obtain ⟨-, -, -, -, -, hall⟩ := selects_by_calls .empty Shape.shrHelper mixedCalls
  refine ⟨fun flag hpass => ?_, ((hsingle _ _).1 hfirst).2.1 rfl, rfl,
    fun flag => hall .callees [true] [flag] rfl _ hfails⟩
  cases ((hmixed [flag] false).1 (hneither flag)).2.2 hpass

end CilRecovery
