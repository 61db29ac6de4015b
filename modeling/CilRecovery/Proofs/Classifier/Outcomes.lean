import CilRecovery.Proofs.Classifier.Locality

/-!
# What a classification can end in

The standard tests ask for instructions within the windows that they capture, whatever the handler
holds, so they fail in one way only: a method that the handler names has no body.  The depth of a
search is settled before the first instruction is classified.

    a local test → an answer, or a missing body                     (result_eval_of_isLocal)
    a classification → an operation, the instruction unknown, or a missing body
                                                                          (identify_outcomes)
    a classifier is built ↔ its depth is no greater than `maxHops`        (exists_ofConfig_iff)
    once it is built, its depth is granted                                 (config_of_ofConfig)
-/

namespace CilRecovery

/-- The failure says that a method named by the body has no body in the store. -/
def BodyStore.Misses (S : BodyStore) (body : Body) (e : Error) : Prop :=
  ∃ i ∈ body, ∃ m, i.callee? = some m ∧ S.get? m.token = none ∧
    e = .bodyUnavailable m.token ("no decoded body for " ++ m.fullName)

theorem BodyStore.misses_of_source {S : BodyStore} {body : Body} {i : Instruction} (hi : i ∈ body)
    {m : MethodRef} (hm : i.callee? = some m) {e : Error} (he : S.source m = .error e) :
    S.Misses body e := by
  obtain ⟨hget, rfl⟩ := source_eq_error.1 he
  exact ⟨i, hi, m, hm, hget, rfl⟩

/-! ## Tests -/

variable {S : BodyStore} {v : VirtualInstruction} {reach : Reach}

/-- A local test never asks for an instruction outside of its windows. -/
theorem result_eval_of_isLocal {test : Test} (hl : test.isLocal = true) :
    (∃ holds, (test.eval ⟨v, ⟨S.source, reach⟩⟩).result = .ok holds) ∨
      ∃ e, (test.eval ⟨v, ⟨S.source, reach⟩⟩).result = .error e ∧ S.Misses v.body e := by
  have htwin : (Candidate.mk v ⟨S.source, reach⟩).Twin (.failing (S.Misses v.body)) (fun _ => True)
      ⟨v, ⟨S.source, reach⟩⟩ :=
    .of_failing fun _ hi _ hm _ he => BodyStore.misses_of_source hi hm he
  exact (htwin.on_eval hl (fun _ _ => trivial) (.inl rfl)).of_failing

/-- A standard rule fails in one way only. -/
theorem Registry.misses_of_holds_eq_error {r : Rule} (hr : r ∈ standard.rules) {e : Error}
    (h : (r.holds ⟨v, ⟨S.source, reach⟩⟩).result = .error e) : S.Misses v.body e := by
  obtain ⟨s, hs, rfl⟩ := List.mem_map.1 hr
  rcases result_eval_of_isLocal (Signature.isLocal_of_mem hs) with ⟨b, hok⟩ | ⟨e', he', hmisses⟩
  · cases hok.symm.trans h
  · rw [Except.error.inj (h.symm.trans he')]
    exact hmisses

theorem result_identify_standard (allowUncertain : Bool) :
    (∃ op, ((Classifier.mk ⟨S.source, reach⟩ allowUncertain .standard).identify v).result =
      .ok op) ∨
    ((Classifier.mk ⟨S.source, reach⟩ allowUncertain .standard).identify v).result =
      .error (.unknownOperation v) ∨
    ∃ e, ((Classifier.mk ⟨S.source, reach⟩ allowUncertain .standard).identify v).result =
      .error e ∧ S.Misses v.body e := by
  have htwin : (Candidate.mk v ⟨S.source, reach⟩).Twin
      (.failing fun e => e = .unknownOperation v ∨ S.Misses v.body e) (fun _ => True)
      ⟨v, ⟨S.source, reach⟩⟩ :=
    .of_failing fun _ hi _ hm _ he => .inr (BodyStore.misses_of_source hi hm he)
  have hon := on_identify_standard allowUncertain htwin (.inl rfl) (fun _ _ _ _ => trivial)
    (.inl rfl)
  rcases hon.of_failing with hop | ⟨e, he, rfl | hmisses⟩
  · exact .inl hop
  · exact .inr (.inl he)
  · exact .inr (.inr ⟨e, he, hmisses⟩)

/-! ## Depth -/

theorem Reach.ofHops_eq_ok_iff {hops : Nat} {reach : Reach} :
    ofHops hops = .ok reach ↔ reach.hops = hops := by
  constructor
  · intro h
    match hops with
    | 0 => cases h; rfl
    | 1 => cases h; rfl
    | n + 2 => cases h
  · rintro rfl
    exact ofHops_hops reach

theorem Config.reach_of_gt {config : Config} (h : maxHops < config.depth) :
    config.reach = .error (.recursionLimit config.depth) := by
  obtain ⟨depth, low⟩ := config
  match depth with
  | 0 => cases h
  | 1 => exact absurd h (Nat.lt_irrefl 1)
  | n + 2 => rfl

namespace Classifier

variable {source : BodySource} {config : Config} {registry : Registry}

theorem exists_ofConfig_iff :
    (∃ k, ofConfig source config registry = .ok k) ↔ config.depth ≤ maxHops := by
  rw [← config.reach_isOk_iff]
  constructor
  · rintro ⟨k, hk⟩
    obtain ⟨reach, hr, -⟩ := ofConfig_eq_ok_iff.1 hk
    exact ⟨reach, hr⟩
  · rintro ⟨reach, hr⟩
    exact ⟨_, ofConfig_eq_ok_iff.2 ⟨reach, hr, rfl⟩⟩

theorem ofConfig_of_gt (h : maxHops < config.depth) :
    ofConfig source config registry = .error (.recursionLimit config.depth) := by
  unfold ofConfig
  rw [Config.reach_of_gt h]
  rfl

/-- A classifier keeps its configuration, and its depth is granted whenever it is asked for. -/
theorem config_of_ofConfig {k : Classifier} (hk : ofConfig source config registry = .ok k) :
    k.config = config ∧ config.reach = .ok k.scope.reach := by
  obtain ⟨reach, hr, rfl⟩ := ofConfig_eq_ok_iff.1 hk
  have hhops : reach.hops = config.depth := Reach.ofHops_eq_ok_iff.1 hr
  refine ⟨?_, hr⟩
  unfold Classifier.config
  rw [hhops]

end Classifier

/-- **Outcomes.**  A standard rule, whether calls are followed or not, answers or reports a missing
body of a method that the handler names.  So a classifier recovers an operation, gives the
instruction back as unknown, or reports such a body; and the depth is refused when the classifier is
built, or never. -/
theorem identify_outcomes (S : BodyStore) (v : VirtualInstruction) (config : Config) :
    (∀ r ∈ Registry.standard.rules, ∀ reach,
      (∃ holds, (r.holds ⟨v, ⟨S.source, reach⟩⟩).result = .ok holds) ∨
        ∃ e, (r.holds ⟨v, ⟨S.source, reach⟩⟩).result = .error e ∧ S.Misses v.body e) ∧
    (∀ k, Classifier.ofConfig S.source config .standard = .ok k →
      (k.config = config ∧ k.config.reach = .ok k.scope.reach) ∧
      ((∃ op, (k.identify v).result = .ok op) ∨
        (k.identify v).result = .error (.unknownOperation v) ∨
        ∃ e, (k.identify v).result = .error e ∧ S.Misses v.body e)) ∧
    ((∃ k, Classifier.ofConfig S.source config .standard = .ok k) ↔ config.depth ≤ maxHops) ∧
    (maxHops < config.depth →
      Classifier.ofConfig S.source config .standard = .error (.recursionLimit config.depth)) := by
  refine ⟨fun r hr reach => ?_, fun k hk => ⟨?_, ?_⟩, Classifier.exists_ofConfig_iff,
    Classifier.ofConfig_of_gt⟩
  · obtain ⟨s, hs, rfl⟩ := List.mem_map.1 hr
    exact result_eval_of_isLocal (Signature.isLocal_of_mem hs)
  · obtain ⟨hconfig, hreach⟩ := Classifier.config_of_ofConfig hk
    exact ⟨hconfig, hconfig ▸ hreach⟩
  · obtain ⟨reach, -, rfl⟩ := Classifier.ofConfig_eq_ok_iff.1 hk
    exact result_identify_standard config.allowUncertain

/-- A return whose helper is missing ends with this helper, and a depth of two is refused. -/
theorem identify_outcomes_returnHandler :
    let k := Classifier.mk (.widest BodyStore.empty.source) true .standard
    (∃ e, (k.identify (returnHandler "Leave")).result = .error e ∧
      BodyStore.empty.Misses (returnHandler "Leave").body e) ∧
    Classifier.ofConfig BodyStore.empty.source ⟨2, true⟩ .standard = .error (.recursionLimit 2) := by
  intro k
  refine ⟨?_, (identify_outcomes .empty (returnHandler "Leave") ⟨2, true⟩).2.2.2 (by decide)⟩
  have hmissing : (k.identify (returnHandler "Leave")).result =
      .error (.bodyUnavailable ⟨0x06000001⟩ "no decoded body for Leave") := by decide +kernel
  have hend := ((identify_outcomes .empty (returnHandler "Leave") .standard).2.1 k rfl).2
  rw [hmissing] at hend
  rcases hend with ⟨op, hop⟩ | hunknown | ⟨e, he, hmisses⟩
  · cases hop
  · cases hunknown
  · exact ⟨e, hmissing.trans he, hmisses⟩

end CilRecovery
