import CilRecovery.Proofs.Classifier.StrictMode
import CilRecovery.Proofs.Run.Steps

/-!
# The log of a classification

Each rule that is evaluated leaves one entry that says so and then the steps of its test.  The log
of a search is therefore that of the rules up to the one that it ends at, one after the other, and
what is above the level of steps can only be its last entry: the answer, or that there is none.  A
test that fails closes the log without one.

    one rule, then the others                                            (events_firstRule_cons)
    the log of a search, up to the rule that it ends at          (events_firstRule_of_isTried)
    which rules it names, and how it closes   (records_of_ok, records_of_unknown, records_of_error)
    the log of a classification with the standard table                           (identify_log)
-/

namespace CilRecovery

/-- The operation whose rule the event says is evaluated. -/
def Event.evaluated? : Event → Option Operation
  | .evaluating label => some label
  | .following .. | .decoding .. | .flagged .. | .identified .. | .unmatched ..
  | .batchFinished .. => none

/-- The log names these rules as evaluated, in order, and is traced up to its closing entries. -/
structure Records (log : List Event) (evaluated : List Rule) (closing : List Event) : Prop where
  evaluated : log.filterMap Event.evaluated? = evaluated.map Rule.label
  traced : ∃ steps, log = steps ++ closing ∧ ∀ e ∈ steps, e.level = .trace

/-- What the evaluation of a rule leaves in the log. -/
def Rule.record (c : Candidate) (r : Rule) : List Event := .evaluating r.label :: (r.holds c).events

/-- What a search leaves in the log after the record of the rule that it ends at. -/
def Rule.closing (c : Candidate) (r : Rule) : List Event :=
  match (r.holds c).result with
  | .ok _ => [.identified r.label r.confidence c.body.length]
  | .error _ => []

section
variable {c : Candidate} {r : Rule} {first rest rules : List Rule} {i : Nat}

/-! ## What the search reports -/

theorem events_firstRule_cons : (firstRule true c (r :: rest)).events = r.record c ++
    if (r.holds c).result = .ok false then (firstRule true c rest).events else r.closing c := by
  have htrue : r.admitted true = true := rfl
  conv => lhs; unfold firstRule
  rw [if_pos htrue, Traced.events_bind, Traced.events_bind]
  unfold Rule.record Rule.closing
  cases (r.holds c).result with
  | error e => simp
  | ok b => cases b <;> simp

/-- Rules that are false leave their records one after the other. -/
theorem events_firstRule_append (h : ∀ r ∈ first, (r.holds c).result = .ok false) :
    (firstRule true c (first ++ rest)).events =
      first.flatMap (Rule.record c) ++ (firstRule true c rest).events := by
  induction first with
  | nil => rfl
  | cons r first ih =>
    obtain ⟨hr, hfirst⟩ := List.forall_mem_cons.1 h
    rw [List.cons_append, events_firstRule_cons, if_pos hr, ih hfirst, List.flatMap_cons,
      List.append_assoc]

theorem events_firstRule_of_all_false (h : ∀ r ∈ rules, (r.holds c).result = .ok false) :
    (firstRule true c rules).events =
      rules.flatMap (Rule.record c) ++ [.unmatched c.instruction] := by
  conv => lhs; rw [← List.append_nil rules, events_firstRule_append h]
  rfl

theorem events_firstRule_of_isTried (ht : r.IsTried true c rules i)
    (h : (r.holds c).result ≠ .ok false) : (firstRule true c rules).events =
      (rules.take (i + 1)).flatMap (Rule.record c) ++ r.closing c := by
  have hupto : rules.take (i + 1) = rules.take i ++ [r] := by
    rw [List.take_add_one, ht.at_index]
    rfl
  have hbefore : ∀ r' ∈ rules.take i, (r'.holds c).result = .ok false :=
    fun r' hr' => ht.before r' hr' (.inr rfl)
  -- the search goes through the rules before this one and ends at it, whatever stands after
  conv => lhs; rw [ht.eq_append, events_firstRule_append hbefore, events_firstRule_cons, if_neg h]
  rw [hupto, List.flatMap_append, List.flatMap_singleton, List.append_assoc]

/-! ## Steps in the log -/

theorem Event.IsStep.evaluated?_eq_none {body : Body} {e : Event} (h : e.IsStep body) :
    e.evaluated? = none := by
  cases h <;> rfl

theorem Event.IsStep.level_eq_trace {body : Body} {e : Event} (h : e.IsStep body) :
    e.level = .trace := by
  cases h <;> rfl

theorem Rule.filterMap_record (hsteps : (r.holds c).Steps c.body) :
    (r.record c).filterMap Event.evaluated? = [r.label] := by
  have hnone : (r.holds c).events.filterMap Event.evaluated? = [] :=
    List.filterMap_eq_nil_iff.2 fun e he => (hsteps e he).evaluated?_eq_none
  have hlabel : Event.evaluated? (.evaluating r.label) = some r.label := rfl
  unfold record
  rw [List.filterMap_cons_some hlabel, hnone]

theorem Rule.filterMap_closing : (r.closing c).filterMap Event.evaluated? = [] := by
  unfold closing
  cases (r.holds c).result <;> rfl

/-- The records of rules whose tests report steps only. -/
theorem records_flatMap {closing : List Event} (hsteps : ∀ r ∈ rules, (r.holds c).Steps c.body)
    (hclosing : closing.filterMap Event.evaluated? = []) :
    Records (rules.flatMap (Rule.record c) ++ closing) rules closing := by
  refine ⟨?_, _, rfl, fun e he => ?_⟩
  · rw [List.filterMap_append, hclosing, List.append_nil]
    induction rules with
    | nil => rfl
    | cons r rest ih =>
      obtain ⟨hr, hrest⟩ := List.forall_mem_cons.1 hsteps
      rw [List.flatMap_cons, List.filterMap_append, Rule.filterMap_record hr, ih hrest]
      rfl
  · obtain ⟨r, hr, hmem⟩ := List.mem_flatMap.1 he
    rcases List.mem_cons.1 hmem with rfl | hstep
    · rfl
    · exact (hsteps r hr e hstep).level_eq_trace

/-! ## What the search ends in -/

theorem records_of_isTried (hsteps : ∀ r ∈ rules, (r.holds c).Steps c.body)
    (ht : r.IsTried true c rules i) (h : (r.holds c).result ≠ .ok false) :
    Records (firstRule true c rules).events (rules.take (i + 1)) (r.closing c) := by
  rw [events_firstRule_of_isTried ht h]
  exact records_flatMap (fun r hr => hsteps r (List.mem_of_mem_take hr)) Rule.filterMap_closing

theorem records_of_all_false (hsteps : ∀ r ∈ rules, (r.holds c).Steps c.body)
    (h : ∀ r ∈ rules, (r.holds c).result = .ok false) :
    Records (firstRule true c rules).events rules [.unmatched c.instruction] := by
  rw [events_firstRule_of_all_false h]
  exact records_flatMap hsteps rfl

/-- Of operations that have one rule each, none is evaluated twice. -/
theorem nodup_evaluated (hsteps : ∀ r ∈ rules, (r.holds c).Steps c.body)
    (hrules : (rules.map Rule.label).Nodup) :
    ((firstRule true c rules).events.filterMap Event.evaluated?).Nodup := by
  rcases all_passedOver_or_exists_isTried true c rules with hall | ⟨i, r, ht, hr⟩
  · have hfalse : ∀ r ∈ rules, (r.holds c).result = .ok false := fun r hr => hall r hr (.inr rfl)
    rw [(records_of_all_false hsteps hfalse).evaluated]
    exact hrules
  · rw [(records_of_isTried hsteps ht hr).evaluated]
    exact hrules.sublist ((List.take_sublist _ _).map Rule.label)

theorem records_of_ok (hsteps : ∀ r ∈ rules, (r.holds c).Steps c.body)
    (h : (firstRule true c rules).result = .ok r) :
    ∃ i, r.IsTried true c rules i ∧ (r.holds c).result = .ok true ∧
      Records (firstRule true c rules).events (rules.take (i + 1))
        [.identified r.label r.confidence c.body.length] := by
  obtain ⟨i, ht, htrue⟩ := firstRule_eq_ok_iff.1 h
  have hne : (r.holds c).result ≠ .ok false := by
    rw [htrue]
    nofun
  have hrecords := records_of_isTried hsteps ht hne
  unfold Rule.closing at hrecords
  rw [htrue] at hrecords
  exact ⟨i, ht, htrue, hrecords⟩

section
variable (htests : ∀ r ∈ rules, ∀ w, (r.holds c).result ≠ .error (.unknownOperation w))
include htests

theorem records_of_unknown (hsteps : ∀ r ∈ rules, (r.holds c).Steps c.body)
    {w : VirtualInstruction} (h : (firstRule true c rules).result = .error (.unknownOperation w)) :
    w = c.instruction ∧ (∀ r ∈ rules, (r.holds c).result = .ok false) ∧
      Records (firstRule true c rules).events rules [.unmatched c.instruction] := by
  obtain ⟨hw, hall⟩ := (firstRule_eq_unknown_iff htests).1 h
  have hfalse : ∀ r ∈ rules, (r.holds c).result = .ok false := fun r hr => hall r hr (.inr rfl)
  exact ⟨hw, hfalse, records_of_all_false hsteps hfalse⟩

/-- A rule that fails ends the log with its own steps. -/
theorem records_of_error (hsteps : ∀ r ∈ rules, (r.holds c).Steps c.body) {e : Error}
    (h : (firstRule true c rules).result = .error e) (hknown : ∀ w, e ≠ .unknownOperation w) :
    ∃ i r, Rule.IsTried true c rules i r ∧ (r.holds c).result = .error e ∧
      Records (firstRule true c rules).events (rules.take (i + 1)) [] := by
  obtain ⟨i, r, ht, herror⟩ := (firstRule_eq_error_iff htests).1 ⟨h, hknown⟩
  have hne : (r.holds c).result ≠ .ok false := by
    rw [herror]
    nofun
  have hrecords := records_of_isTried hsteps ht hne
  unfold Rule.closing at hrecords
  rw [herror] at hrecords
  exact ⟨i, r, ht, herror, hrecords⟩

end

/-- What is decoded on the way is named by an instruction of the handler. -/
theorem exists_callee_of_decoding_mem (hsteps : ∀ r ∈ rules, (r.holds c).Steps c.body)
    {m : MethodRef} (h : .decoding m ∈ (firstRule true c rules).events) :
    ∃ i ∈ c.body, i.callee? = some m := by
  induction rules with
  | nil => cases List.mem_singleton.1 h
  | cons r rest ih =>
    obtain ⟨hr, hrest⟩ := List.forall_mem_cons.1 hsteps
    rw [events_firstRule_cons] at h
    rcases List.mem_append.1 h with hrecord | hlater
    · rcases List.mem_cons.1 hrecord with heq | hstep
      · cases heq
      · cases hr _ hstep with
        | decoding hm =>
          obtain ⟨i, hi, hcallee⟩ := Body.calleeAt_eq_some_iff.1 hm
          exact ⟨i, List.mem_of_getElem? hi, hcallee⟩
    · split at hlater
      · exact ih hrest hlater
      · unfold Rule.closing at hlater
        cases hresult : (r.holds c).result with
        | error e =>
          rw [hresult] at hlater
          cases hlater
        | ok b =>
          rw [hresult] at hlater
          cases List.mem_singleton.1 hlater

end

/-! ## The standard table -/

theorem Registry.steps_of_mem_standard {r : Rule} (hr : r ∈ standard.rules) (c : Candidate) :
    (r.holds c).Steps c.body := by
  obtain ⟨s, hs, rfl⟩ := List.mem_map.1 hr
  exact Test.steps_eval (Signature.isLocal_of_mem hs)

/-- **The log of a classification.**  Rules that are not enabled leave no trace.  The entries that
say that a rule is evaluated are, in the order of the table and each once, those of the enabled
rules up to the one that decides, or of all of them if none does.  All other entries are steps, but
for the last: if a rule holds, it names the operation and the length of the handler, as a warning if
the rule is uncertain; if none does, it shows the instruction; and if a body is missing, the log
ends with the steps of the rule that asked for it.  What is decoded is named by the handler. -/
theorem identify_log (S : BodyStore) (v : VirtualInstruction) (config : Config) (k : Classifier)
    (hk : Classifier.ofConfig S.source config .standard = .ok k) :
    let c : Candidate := ⟨v, k.scope⟩
    let enabled := Registry.standard.rules.filter fun r => r.admitted config.allowUncertain
    let log := (k.identify v).events
    k.identify v = (Classifier.mk k.scope true ⟨enabled⟩).identify v ∧
    (log.filterMap Event.evaluated?).Nodup ∧
    (∀ op, (k.identify v).result = .ok op → ∃ i r last, Rule.IsTried true c enabled i r ∧
      (r.holds c).result = .ok true ∧ r.label = op ∧ Records log (enabled.take (i + 1)) [last] ∧
      last.level = (if r.confidence = .uncertain then .warn else .debug) ∧
      last.message = "identified " ++ op.mnemonic ++
        (if r.confidence = .uncertain then " with an uncertain rule (" else " (") ++
        toString v.body.length ++ " body instructions)") ∧
    (∀ w, (k.identify v).result = .error (.unknownOperation w) → w = v ∧
      (∀ r ∈ enabled, (r.holds c).result = .ok false) ∧ ∃ last, Records log enabled [last] ∧
      last.level = .debug ∧ last.message = "no rule matched " ++ v.render) ∧
    (∀ e, (k.identify v).result = .error e → (∀ w, e ≠ .unknownOperation w) →
      S.Misses v.body e ∧ ∃ i r, Rule.IsTried true c enabled i r ∧ (r.holds c).result = .error e ∧
        Records log (enabled.take (i + 1)) []) ∧
    ∀ m, .decoding m ∈ log → ∃ i ∈ v.body, i.callee? = some m := by
  obtain ⟨reach, -, rfl⟩ := Classifier.ofConfig_eq_ok_iff.1 hk
  intro c enabled log
  have hmem : ∀ r ∈ enabled, r ∈ Registry.standard.rules := fun r hr => List.mem_of_mem_filter hr
  have hsteps : ∀ r ∈ enabled, (r.holds c).Steps c.body :=
    fun r hr => Registry.steps_of_mem_standard (hmem r hr) c
  have htests : ∀ r ∈ enabled, ∀ w, (r.holds c).result ≠ .error (.unknownOperation w) :=
    fun r hr => Registry.result_holds_ne_unknown S v reach r (hmem r hr)
  have hsame := Classifier.identify_eq_admitted
    ⟨⟨S.source, reach⟩, config.allowUncertain, .standard⟩ v
  have hlog : log = (firstRule true c enabled).events := congrArg Traced.events hsame
  rw [hlog]
  refine ⟨hsame, ?_, fun op hop => ?_, fun w hw => ?_, fun e he hknown => ?_, fun m hm => ?_⟩
  · refine nodup_evaluated hsteps (List.Nodup.sublist (List.filter_sublist.map Rule.label) ?_)
    rw [Registry.map_label_standard]
    exact Operation.nodup_all
  · rw [hsame] at hop
    obtain ⟨r, hr, rfl⟩ := Traced.map_eq_ok.1 hop
    obtain ⟨i, ht, htrue, hrecords⟩ := records_of_ok hsteps hr
    refine ⟨i, r, _, ht, htrue, rfl, hrecords, ?_, ?_⟩
    · cases r.confidence <;> rfl
    · cases r.confidence <;> rfl
  · rw [hsame] at hw
    obtain ⟨rfl, hfalse, hrecords⟩ := records_of_unknown htests hsteps (Traced.map_eq_error.1 hw)
    exact ⟨rfl, hfalse, _, hrecords, rfl, rfl⟩
  · rw [hsame] at he
    obtain ⟨i, r, ht, herror, hrecords⟩ :=
      records_of_error htests hsteps (Traced.map_eq_error.1 he) hknown
    exact ⟨Registry.misses_of_holds_eq_error (hmem r ht.mem) herror, i, r, ht, herror, hrecords⟩
  · exact exists_callee_of_decoding_mem hsteps hm

/-- An answer of an uncertain rule is a warning at the end of the log, and where a helper is missing
there is nothing but steps. -/
theorem identify_log_bothComparisons :
    let found := (Classifier.mk (.widest comparisonHelpers.source) true .standard).identify
      bothComparisons
    let failed := (Classifier.mk (.widest BodyStore.empty.source) true .standard).identify
      (returnHandler "Leave")
    (∃ steps last, found.events = steps ++ [last] ∧ (∀ e ∈ steps, e.level = .trace) ∧
      last.level = .warn ∧
      last.message = "identified cgt with an uncertain rule (10 body instructions)") ∧
    failed.result = .error (.bodyUnavailable ⟨0x06000001⟩ "no decoded body for Leave") ∧
    ∀ e ∈ failed.events, e.level = .trace := by
  intro found failed
  have hfound : found.result = .ok .cgt := by decide +kernel
  have hfailed : failed.result =
      .error (.bodyUnavailable ⟨0x06000001⟩ "no decoded body for Leave") := by decide +kernel
  obtain ⟨-, -, hop, -⟩ := identify_log comparisonHelpers bothComparisons .standard _ rfl
  obtain ⟨-, -, -, -, herror, -⟩ := identify_log .empty (returnHandler "Leave") .standard _ rfl
  refine ⟨?_, hfailed, fun e he => ?_⟩
  · obtain ⟨i, r, last, -, -, -, hrecords, -⟩ := hop .cgt hfound
    obtain ⟨steps, hlog, htrace⟩ := hrecords.traced
    have hlast : found.events.getLast?.map (fun e => (e.level, e.message)) =
        some (.warn, "identified cgt with an uncertain rule (10 body instructions)") := by
      decide +kernel
    rw [show found.events = steps ++ [last] from hlog, List.getLast?_concat] at hlast
    obtain ⟨hlevel, hmessage⟩ := Prod.mk.inj (Option.some.inj hlast)
    exact ⟨steps, last, hlog, htrace, hlevel, hmessage⟩
  · obtain ⟨-, i, r, -, -, hrecords⟩ := herror _ hfailed (by nofun)
    obtain ⟨steps, hlog, htrace⟩ := hrecords.traced
    rw [List.append_nil] at hlog
    exact htrace e (hlog ▸ he)

end CilRecovery
