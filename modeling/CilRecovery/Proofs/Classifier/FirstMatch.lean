import CilRecovery.Proofs.Classifier.Locality

/-!
# The first match

Whatever the rules of a table are, the search tries those that are enabled, in order, and ends at
the first that is not false.  That rule is the answer if it is true, and if it fails so does the
search; if all are false the instruction comes back as unknown.  The search is followed with the
position it has come to, since a table may hold a rule twice.

    the search with positions is the search                              (map_snd_firstRuleAt)
    all rules are passed over, or one that is not false is tried
                                                              (all_passedOver_or_exists_isTried)
    the search ends at that rule                                        (firstRuleAt_of_isTried)
    two tables one after the other                                    (result_firstRule_append)
    all of this for a classifier                                      (identifyRule_first_match)
-/

namespace CilRecovery

/-- The search of `firstRule` in a table that begins at position `start`, with the position of the
rule that it ends at. -/
def firstRuleAt (allowUncertain : Bool) (c : Candidate) (start : Nat) :
    List Rule → Traced (Nat × Rule)
  | [] => do
    .report (.unmatched c.instruction)
    .fail (.unknownOperation c.instruction)
  | r :: rest =>
    if r.admitted allowUncertain then do
      .report (.evaluating r.label)
      if ← r.holds c then
        .report (.identified r.label r.confidence c.body.length)
        return (start, r)
      else firstRuleAt allowUncertain c (start + 1) rest
    else firstRuleAt allowUncertain c (start + 1) rest

/-- The search of a classifier, with the position in its table. -/
def Classifier.identifyRuleAt (k : Classifier) (v : VirtualInstruction) : Traced (Nat × Rule) :=
  firstRuleAt k.allowUncertain ⟨v, k.scope⟩ 0 k.registry.rules

/-! ## Rules of a table -/

/-- The rule is certain, or uncertain rules are wanted. -/
def Rule.Enabled (allowUncertain : Bool) (r : Rule) : Prop :=
  r.confidence = .certain ∨ allowUncertain = true

/-- The rule is false, if it is enabled at all. -/
def Rule.PassedOver (allowUncertain : Bool) (c : Candidate) (r : Rule) : Prop :=
  r.Enabled allowUncertain → (r.holds c).result = .ok false

/-- The rule stands at the position and is enabled, and all rules before it are passed over. -/
structure Rule.IsTried (allowUncertain : Bool) (c : Candidate) (rules : List Rule) (i : Nat)
    (r : Rule) : Prop where
  at_index : rules[i]? = some r
  enabled : r.Enabled allowUncertain
  before : ∀ r' ∈ rules.take i, r'.PassedOver allowUncertain c

section
variable {low : Bool} {c : Candidate} {r : Rule} {rest rules : List Rule} {start i : Nat}

theorem Rule.admitted_iff : r.admitted low = true ↔ r.Enabled low := by
  unfold admitted Enabled
  rw [Bool.or_eq_true, beq_iff_eq, or_comm]

theorem map_snd_firstRuleAt (start : Nat) (rules : List Rule) :
    Prod.snd <$> firstRuleAt low c start rules = firstRule low c rules := by
  induction rules generalizing start with
  | nil =>
    unfold firstRuleAt firstRule
    rw [map_bind]
    rfl
  | cons r rest ih =>
    unfold firstRuleAt firstRule
    cases r.admitted low with
    | false => exact ih (start + 1)
    | true =>
      simp only [if_true, map_bind]
      refine bind_congr fun _ => bind_congr fun b => ?_
      cases b with
      | false => exact ih (start + 1)
      | true => rfl

theorem result_firstRule (start : Nat) :
    (firstRule low c rules).result = Prod.snd <$> (firstRuleAt low c start rules).result := by
  rw [← map_snd_firstRuleAt start rules]
  rfl

/-! ## One rule -/

theorem firstRuleAt_of_passedOver (h : r.PassedOver low c) :
    (firstRuleAt low c start (r :: rest)).result = (firstRuleAt low c (start + 1) rest).result := by
  conv => lhs; unfold firstRuleAt
  cases ha : r.admitted low with
  | false => rfl
  | true =>
    rw [if_pos rfl, Traced.bind_of_ok (Traced.result_report _),
      Traced.bind_of_ok (h (Rule.admitted_iff.1 ha))]
    rfl

/-- The search ends at an enabled rule that is not false. -/
theorem firstRuleAt_of_enabled (he : r.Enabled low) (h : (r.holds c).result ≠ .ok false) :
    (firstRuleAt low c start (r :: rest)).result = (fun _ => (start, r)) <$> (r.holds c).result := by
  unfold firstRuleAt
  rw [if_pos (Rule.admitted_iff.2 he), Traced.bind_of_ok (Traced.result_report _)]
  cases hr : (r.holds c).result with
  | error e => exact Traced.bind_of_error hr _
  | ok b =>
    cases b with
    | false => exact absurd hr h
    | true =>
      rw [Traced.bind_of_ok hr]
      rfl

/-! ## Many rules -/

/-- Rules that are passed over may be left out. -/
theorem firstRuleAt_append {first : List Rule} (h : ∀ r ∈ first, r.PassedOver low c) :
    (firstRuleAt low c start (first ++ rest)).result =
      (firstRuleAt low c (start + first.length) rest).result := by
  induction first generalizing start with
  | nil => rfl
  | cons r first ih =>
    rw [List.cons_append, firstRuleAt_of_passedOver (h r List.mem_cons_self),
      ih fun r hr => h r (List.mem_cons_of_mem _ hr), List.length_cons, Nat.add_assoc,
      Nat.add_comm 1]

theorem firstRuleAt_of_all_passedOver (h : ∀ r ∈ rules, r.PassedOver low c) :
    (firstRuleAt low c start rules).result = .error (.unknownOperation c.instruction) := by
  rw [← List.append_nil rules, firstRuleAt_append h]
  rfl

theorem Rule.IsTried.mem (ht : r.IsTried low c rules i) : r ∈ rules :=
  List.mem_of_getElem? ht.at_index

/-- The table is cut into the rules before the one that is tried, this rule, and those after. -/
theorem Rule.IsTried.eq_append (ht : r.IsTried low c rules i) :
    rules = rules.take i ++ r :: rules.drop (i + 1) := by
  obtain ⟨hi, hr⟩ := List.getElem?_eq_some_iff.1 ht.at_index
  rw [← hr, ← List.drop_eq_getElem_cons hi, List.take_append_drop]

/-- Rules after the one that is tried play no part. -/
theorem Rule.IsTried.append (ht : r.IsTried low c rules i) (later : List Rule) :
    r.IsTried low c (rules ++ later) i := by
  have hi : i < rules.length := (List.getElem?_eq_some_iff.1 ht.at_index).1
  refine ⟨?_, ht.enabled, ?_⟩
  · rw [List.getElem?_append_left hi]
    exact ht.at_index
  · rw [List.take_append_of_le_length (Nat.le_of_lt hi)]
    exact ht.before

/-- One rule that is passed over, in front of the table, moves all positions by one. -/
theorem Rule.IsTried.cons {first : Rule} (hfirst : first.PassedOver low c)
    (ht : r.IsTried low c rules i) : r.IsTried low c (first :: rules) (i + 1) := by
  refine ⟨ht.at_index, ht.enabled, ?_⟩
  rw [List.take_succ_cons]
  exact List.forall_mem_cons.2 ⟨hfirst, ht.before⟩

/-- Either all rules are passed over, or one is tried that is not false. -/
theorem all_passedOver_or_exists_isTried (low : Bool) (c : Candidate) (rules : List Rule) :
    (∀ r ∈ rules, r.PassedOver low c) ∨
      ∃ i r, Rule.IsTried low c rules i r ∧ (r.holds c).result ≠ .ok false := by
  induction rules with
  | nil => exact .inl fun _ hr => absurd hr List.not_mem_nil
  | cons r rest ih =>
    by_cases hr : r.PassedOver low c
    · rcases ih with hall | ⟨i, s, hs, hne⟩
      · exact .inl (List.forall_mem_cons.2 ⟨hr, hall⟩)
      · exact .inr ⟨i + 1, s, hs.cons hr, hne⟩
    · -- a rule that is not passed over is enabled and not false, so it is tried first
      obtain ⟨he, hne⟩ := Classical.not_imp.1 hr
      exact .inr ⟨0, r, ⟨rfl, he, fun _ hr => absurd hr List.not_mem_nil⟩, hne⟩

/-- The search ends at the rule that is tried and is not false. -/
theorem firstRuleAt_of_isTried (ht : r.IsTried low c rules i) (h : (r.holds c).result ≠ .ok false) :
    (firstRuleAt low c start rules).result = (fun _ => (start + i, r)) <$> (r.holds c).result := by
  have hi : i < rules.length := (List.getElem?_eq_some_iff.1 ht.at_index).1
  have hlen : (rules.take i).length = i := List.length_take_of_le (Nat.le_of_lt hi)
  -- the rules before this one are left out, and the search of the others begins with it
  rw [ht.eq_append, firstRuleAt_append ht.before, firstRuleAt_of_enabled ht.enabled h, hlen]

theorem firstRule_of_isTried (ht : r.IsTried low c rules i) (h : (r.holds c).result ≠ .ok false) :
    (firstRule low c rules).result = ((fun _ => r) <$> r.holds c).result := by
  rw [result_firstRule 0, firstRuleAt_of_isTried ht h, Traced.result_map]
  cases (r.holds c).result <;> rfl

theorem firstRule_of_all_passedOver (h : ∀ r ∈ rules, r.PassedOver low c) :
    (firstRule low c rules).result = .error (.unknownOperation c.instruction) := by
  rw [result_firstRule 0, firstRuleAt_of_all_passedOver h]
  rfl

/-! ## What the search ends in -/

theorem firstRuleAt_eq_ok_iff : (firstRuleAt low c 0 rules).result = .ok (i, r) ↔
    r.IsTried low c rules i ∧ (r.holds c).result = .ok true := by
  constructor
  · intro hok
    rcases all_passedOver_or_exists_isTried low c rules with hall | ⟨j, s, hs, hne⟩
    · rw [firstRuleAt_of_all_passedOver hall] at hok
      cases hok
    · rw [firstRuleAt_of_isTried hs hne, Nat.zero_add] at hok
      cases hb : (s.holds c).result with
      | error e =>
        rw [hb] at hok
        cases hok
      | ok b =>
        rw [hb] at hok
        cases hok
        cases b with
        | false => exact absurd hb hne
        | true => exact ⟨hs, hb⟩
  · rintro ⟨ht, h⟩
    rw [firstRuleAt_of_isTried ht (by rw [h]; nofun), h, Nat.zero_add]
    rfl

theorem firstRule_eq_ok_iff : (firstRule low c rules).result = .ok r ↔
    ∃ i, r.IsTried low c rules i ∧ (r.holds c).result = .ok true := by
  rw [result_firstRule 0]
  constructor
  · intro hok
    cases hat : (firstRuleAt low c 0 rules).result with
    | error e =>
      rw [hat] at hok
      cases hok
    | ok found =>
      obtain ⟨i, s⟩ := found
      rw [hat] at hok
      obtain rfl : s = r := Except.ok.inj hok
      exact ⟨i, firstRuleAt_eq_ok_iff.1 hat⟩
  · rintro ⟨i, hi⟩
    rw [firstRuleAt_eq_ok_iff.2 hi]
    rfl

variable (htests : ∀ r ∈ rules, ∀ w, (r.holds c).result ≠ .error (.unknownOperation w))
include htests

/-- The search fails with an error other than its own where the rule that it comes to does. -/
theorem firstRule_eq_error_iff {e : Error} :
    ((firstRule low c rules).result = .error e ∧ ∀ w, e ≠ .unknownOperation w) ↔
      ∃ i r, Rule.IsTried low c rules i r ∧ (r.holds c).result = .error e := by
  constructor
  · rintro ⟨herr, hne⟩
    rcases all_passedOver_or_exists_isTried low c rules with hall | ⟨i, r, ht, hr⟩
    · rw [firstRule_of_all_passedOver hall] at herr
      exact absurd (Except.error.inj herr).symm (hne _)
    · rw [firstRule_of_isTried ht hr, Traced.map_eq_error] at herr
      exact ⟨i, r, ht, herr⟩
  · rintro ⟨i, r, ht, hr⟩
    refine ⟨?_, fun w hw => htests r ht.mem w (hw ▸ hr)⟩
    rw [firstRule_of_isTried ht (by rw [hr]; nofun)]
    exact Traced.map_eq_error.2 hr

theorem firstRule_eq_unknown_iff {w : VirtualInstruction} :
    (firstRule low c rules).result = .error (.unknownOperation w) ↔
      w = c.instruction ∧ ∀ r ∈ rules, r.PassedOver low c := by
  constructor
  · intro herr
    rcases all_passedOver_or_exists_isTried low c rules with hall | ⟨i, r, ht, hr⟩
    · rw [firstRule_of_all_passedOver hall] at herr
      cases herr
      exact ⟨rfl, hall⟩
    · rw [firstRule_of_isTried ht hr, Traced.map_eq_error] at herr
      exact absurd herr (htests r ht.mem w)
  · rintro ⟨rfl, hall⟩
    exact firstRule_of_all_passedOver hall

/-- A second table is searched where the first does not know the instruction. -/
theorem result_firstRule_append (later : List Rule) :
    ((firstRule low c rules).result = .error (.unknownOperation c.instruction) →
      (firstRule low c (rules ++ later)).result = (firstRule low c later).result) ∧
    ((firstRule low c rules).result ≠ .error (.unknownOperation c.instruction) →
      (firstRule low c (rules ++ later)).result = (firstRule low c rules).result) := by
  constructor
  · intro hunknown
    have hall := ((firstRule_eq_unknown_iff htests).1 hunknown).2
    rw [result_firstRule 0, firstRuleAt_append hall, ← result_firstRule]
  · intro hknown
    rcases all_passedOver_or_exists_isTried low c rules with hall | ⟨i, r, ht, hr⟩
    · exact absurd (firstRule_of_all_passedOver hall) hknown
    · rw [firstRule_of_isTried (ht.append later) hr, firstRule_of_isTried ht hr]

end

/-! ## Classifiers -/

/-- The classifier with these rules in place of its own. -/
def Classifier.withRules (k : Classifier) (rules : List Rule) : Classifier :=
  { k with registry := ⟨rules⟩ }

/-- **First match.**  Whatever the rules, as long as no test says itself that an instruction is
unknown: the rule at a position is the answer if it is tried and true; an error is that of a rule if
this rule is tried and fails with it; the instruction comes back if all rules are passed over.  So
of two tables one after the other the second is asked where the first does not know the instruction.
An instruction that is unknown is the one failure that is an answer when recovery is tried. -/
theorem identifyRule_first_match (source : BodySource) (config : Config) (registry : Registry)
    (v : VirtualInstruction) (k : Classifier)
    (hk : Classifier.ofConfig source config registry = .ok k)
    (htests : ∀ r ∈ registry.rules, ∀ w,
      (r.holds ⟨v, k.scope⟩).result ≠ .error (.unknownOperation w)) :
    Prod.snd <$> k.identifyRuleAt v = k.identifyRule v ∧
    (∀ i r, (k.identifyRuleAt v).result = .ok (i, r) ↔
      r.IsTried config.allowUncertain ⟨v, k.scope⟩ registry.rules i ∧
        (r.holds ⟨v, k.scope⟩).result = .ok true) ∧
    (∀ r, (k.identifyRule v).result = .ok r ↔
      ∃ i, r.IsTried config.allowUncertain ⟨v, k.scope⟩ registry.rules i ∧
        (r.holds ⟨v, k.scope⟩).result = .ok true) ∧
    (∀ e, ((k.identifyRule v).result = .error e ∧ ∀ w, e ≠ .unknownOperation w) ↔
      ∃ i r, Rule.IsTried config.allowUncertain ⟨v, k.scope⟩ registry.rules i r ∧
        (r.holds ⟨v, k.scope⟩).result = .error e) ∧
    (∀ w, (k.identifyRule v).result = .error (.unknownOperation w) ↔
      w = v ∧ ∀ r ∈ registry.rules, r.PassedOver config.allowUncertain ⟨v, k.scope⟩) ∧
    (∀ first second, registry.rules = first ++ second →
      (((k.withRules first).identifyRule v).result = .error (.unknownOperation v) →
        (k.identifyRule v).result = ((k.withRules second).identifyRule v).result) ∧
      (((k.withRules first).identifyRule v).result ≠ .error (.unknownOperation v) →
        (k.identifyRule v).result = ((k.withRules first).identifyRule v).result)) ∧
    ((k.tryIdentify v).result = .ok none ↔
      ∃ w, (k.identify v).result = .error (.unknownOperation w)) ∧
    (∀ op, (k.tryIdentify v).result = .ok (some op) ↔ (k.identify v).result = .ok op) ∧
    (∀ e, (k.tryIdentify v).result = .error e ↔
      (k.identify v).result = .error e ∧ ∀ w, e ≠ .unknownOperation w) := by
  obtain ⟨reach, -, rfl⟩ := Classifier.ofConfig_eq_ok_iff.1 hk
  refine ⟨map_snd_firstRuleAt 0 registry.rules, fun i r => firstRuleAt_eq_ok_iff,
    fun r => firstRule_eq_ok_iff, fun e => firstRule_eq_error_iff htests,
    fun w => firstRule_eq_unknown_iff htests, ?_,
    Classifier.tryIdentify_eq_none, fun op => Classifier.tryIdentify_eq_some,
    fun e => Classifier.tryIdentify_eq_error⟩
  intro first second hrules
  have hfirst : ∀ r ∈ first, ∀ w,
      (r.holds ⟨v, ⟨source, reach⟩⟩).result ≠ .error (.unknownOperation w) :=
    fun r hr => htests r (hrules ▸ List.mem_append_left second hr)
  unfold Classifier.identifyRule Classifier.withRules
  rw [hrules]
  exact result_firstRule_append hfirst second

/-- A table with an uncertain rule in front of the one for a return, and at its end a rule that asks
for an instruction outside of its match. -/
def Registry.guardedReturn : Registry :=
  .ofSignatures
    [.certain .throw (.contains (.exact [.throw])), .uncertain .ldnull (.const true),
     .certain .ret (.contains (.exact [.ret])),
     .certain .call (.captured .first (.exact [.ret]) [(1, .isNamed "Leave")])]

/-- With certain rules only, the third rule is the answer, and the last is not tried. -/
theorem identifyRule_first_match_guardedReturn :
    let k := Classifier.mk (.widest BodyStore.empty.source) false .guardedReturn
    let v := returnHandler "Leave"
    (∀ r ∈ Registry.guardedReturn.rules, ∀ w,
      (r.holds ⟨v, k.scope⟩).result ≠ .error (.unknownOperation w)) ∧
    (∃ r, r.label = .ret ∧ (k.identifyRuleAt v).result = .ok (2, r)) ∧
    ((k.withRules (Registry.guardedReturn.rules.drop 3)).identifyRule v).result =
      .error (.malformed (.captureOutside 1 1)) := by
  intro k v
  have htests : ∀ r ∈ Registry.guardedReturn.rules, ∀ w,
      (r.holds ⟨v, k.scope⟩).result ≠ .error (.unknownOperation w) := by
    intro r hr w
    simp only [Registry.guardedReturn, Registry.ofSignatures, List.map_cons, List.map_nil,
      List.mem_cons, List.not_mem_nil, or_false] at hr
    rcases hr with rfl | rfl | rfl | rfl
    · nofun
    · nofun
    · nofun
    · nofun
  refine ⟨htests, ?_, ?_⟩
  · refine ⟨(Signature.certain .ret (.contains (.exact [.ret]))).rule, rfl, ?_⟩
    refine ((identifyRule_first_match _ .strict _ v k rfl htests).2.1 2 _).2
      ⟨⟨rfl, .inl rfl, List.forall_mem_cons.2 ⟨?_, List.forall_mem_singleton.2 ?_⟩⟩, rfl⟩
    · exact fun _ => rfl
    · rintro (hcertain | hlow)
      · cases hcertain
      · cases hlow
  · rfl

end CilRecovery
