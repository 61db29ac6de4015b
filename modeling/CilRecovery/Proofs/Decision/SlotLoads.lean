import CilRecovery.Proofs.Decision.WholeBody
import CilRecovery.Proofs.Registry.Disambiguation

/-!
# Loads from a slot

A load from one of the first four slots of a store is looked for at the head of a handler, so what
follows its template plays no part in the rule itself.  It plays none in the classification either,
as long as it has none of the opcodes that the searches before these rules ask for.

    the rules of slot loads do not look behind their template                  (eval_head_append)
    the classification of such a handler                                     (identify_slotLoad)
-/

namespace CilRecovery

/-! ## The family -/

/-- The load of the constant that is the index of a slot. -/
def Opcode.ofSlot : Fin 4 → Opcode
  | 0 => .ldc_i4_0
  | 1 => .ldc_i4_1
  | 2 => .ldc_i4_2
  | 3 => .ldc_i4_3

/-- The load from a slot of a store. -/
def Operation.slotLoad : Storage → Fin 4 → Operation
  | .arguments, 0 => .ldarg_0
  | .arguments, 1 => .ldarg_1
  | .arguments, 2 => .ldarg_2
  | .arguments, 3 => .ldarg_3
  | .locals, 0 => .ldloc_0
  | .locals, 1 => .ldloc_1
  | .locals, 2 => .ldloc_2
  | .locals, 3 => .ldloc_3

/-- The handler of a load from a slot. -/
def Shape.slotLoadOf (n : Fin 4) : Template := slotLoad.fill literalHole (.ofSlot n)

def Signature.slotLoad (store : Storage) (n : Fin 4) : Signature :=
  certain (.slotLoad store n) (.captured .head (Shape.slotLoadOf n) [(2, .refersTo store)])

/-! ## What a slot load leaves -/

namespace Outline

/-- The opcodes that the searches for windows before the slot loads ask for. -/
def searchedBefore : List Opcode := [.and, .brtrue_s, .brfalse_s, .ldloc_1]

/-- The outline of the handlers that begin with a load from the slot and call no helper. -/
def slotLoad (n : Fin 4) : Outline :=
  ((ofHead (Shape.slotLoadOf n).opcodes).inter (lacking searchedBefore)).inter noHelper

theorem not_mem_searchedBefore : ∀ n, ∀ o ∈ (Shape.slotLoadOf n).opcodes, o ∉ searchedBefore := by
  decide

/-- What is left begins with the two loads from this slot. -/
theorem take_signatures_slotLoad : ∀ n, (slotLoad n).signatures.take 2 =
    [Storage.arguments, .locals].map fun store => .slotLoad store n := by
  decide +kernel

end Outline

theorem Signature.filter_slotLoads :
    (standard.filter fun s => Operation.slotLoads.contains s.label) =
      [Storage.arguments, .locals].flatMap fun store =>
        (List.finRange 4).map fun n => .slotLoad store n := by
  decide +kernel

/-! ## The rules -/

/-- The instruction with a longer handler. -/
def VirtualInstruction.followedBy (v : VirtualInstruction) (tail : Body) : VirtualInstruction :=
  { v with body := v.body ++ tail }

theorem Template.isAt_head_append {t : Template} {os : List Opcode} (h : t.length ≤ os.length)
    (os' : List Opcode) : t.isAt (os ++ os') .head = t.isAt os .head := by
  have htake : (os ++ os').take t.slots.length = os.take t.slots.length :=
    List.take_append_of_le_length h
  have hlong : t.slots.length ≤ (os ++ os').length :=
    h.trans (List.sublist_append_left os os').length_le
  have hlead : leadsSlots t.slots (os ++ os') = leadsSlots t.slots os := by
    rw [Bool.eq_iff_iff, leadsSlots_iff, leadsSlots_iff, htake]
    exact and_congr_left fun _ => iff_of_true hlong h
  unfold isAt
  rw [hlead]

theorem Template.isAt_head_of_accepts {t : Template} {os : List Opcode} (hne : t.isEmpty = false)
    (h : t.accepts os = true) : t.isAt os .head = true := by
  unfold isAt
  rw [hne, leadsSlots_of_accepts h]
  rfl

theorem Match.get_head_append {body : Body} {length : Nat} (h : length ≤ body.length) (tail : Body)
    (index : Nat) : (head (body ++ tail) length).get index = (head body length).get index := by
  have hlen : min length (body ++ tail).length = length :=
    Nat.min_eq_left (h.trans (List.sublist_append_left body tail).length_le)
  unfold get instructions head
  rw [hlen, Nat.min_eq_left h, List.drop_zero, List.drop_zero, List.take_append_of_le_length h]

section
variable {v : VirtualInstruction} {sc : Scope}

/-- A test of the head of a handler does not look behind its template. -/
theorem Test.eval_head_append {t : Template} (h : t.length ≤ v.body.length) (tail : Body)
    (checks : List (Nat × Check)) : (captured .head t checks).eval ⟨v.followedBy tail, sc⟩ =
      (captured .head t checks).eval ⟨v, sc⟩ := by
  have hisAt : t.isAt (v.body ++ tail).opcodes .head = t.isAt v.body.opcodes .head := by
    unfold Body.opcodes
    rw [List.map_append]
    exact Template.isAt_head_append (h.trans_eq (List.length_map _).symm) _
  have hchecks : Check.evalAll ⟨v.followedBy tail, sc⟩ (.head (v.body ++ tail) t.length) checks =
      Check.evalAll ⟨v, sc⟩ (.head v.body t.length) checks := by
    refine Check.evalAll_congr ?_ ?_ (Match.get_head_append h tail) checks
    · rfl
    · rfl
  unfold eval Capture.find
  show (pure (if t.isAt (v.body ++ tail).opcodes .head then some _ else none) >>= _) =
    (pure (if t.isAt v.body.opcodes .head then some _ else none) >>= _ : Traced Bool)
  rw [hisAt, pure_bind, pure_bind]
  cases t.isAt v.body.opcodes .head with
  | false => rfl
  | true => exact hchecks

end

/-- A rule of the standard registry for a slot load looks at the head of the handler only. -/
theorem Rule.exists_slotLoad {r : Rule} (hr : r ∈ Registry.standard.rules)
    (hlabel : r.label ∈ Operation.slotLoads) : ∃ store n, r = (Signature.slotLoad store n).rule := by
  obtain ⟨s, hs, rfl⟩ := List.mem_map.1 hr
  have hmem : s ∈ Signature.standard.filter fun s => Operation.slotLoads.contains s.label :=
    List.mem_filter.2 ⟨hs, List.contains_iff_mem.2 hlabel⟩
  rw [Signature.filter_slotLoads] at hmem
  obtain ⟨store, -, hmem⟩ := List.mem_flatMap.1 hmem
  obtain ⟨n, -, rfl⟩ := List.mem_map.1 hmem
  exact ⟨store, n, rfl⟩

/-! ## The answer -/

theorem Signature.answers_slotLoad {c : Candidate} {low : Bool} {n : Fin 4} {field : Instruction}
    (hhead : (Shape.slotLoadOf n).isAt c.opcodes .head = true) (hfield : c.body[2]? = some field)
    (store : Storage) : (slotLoad store n).answers low c =
      field.refersTo c.instruction.storage store := by
  have hfind : (Capture.find c (Shape.slotLoadOf n) .head).result =
      .ok (some (.head c.body (Shape.slotLoadOf n).length)) := by
    unfold Capture.find
    rw [if_pos hhead]
    rfl
  have hlt : 2 < min (Shape.slotLoadOf n).length c.body.length :=
    Nat.lt_min.2 ⟨(by decide : 2 < 8), (List.getElem?_eq_some_iff.1 hfield).1⟩
  have hfield' : c.body[0 + 2]? = some field := by rwa [Nat.zero_add]
  have hget : (Match.head c.body (Shape.slotLoadOf n).length).get 2 = .ok field :=
    Match.get_eq_ok_iff.2 ⟨hlt, hfield'⟩
  unfold slotLoad
  rw [answers_certain, Test.isTrue_captured _ hfind, List.all_cons, List.all_nil,
    Check.isTrueAt_of_get hget, Bool.and_true]
  rfl

section
variable {S : BodyStore} {v : VirtualInstruction} {reach : Reach} {low : Bool} {n : Fin 4}

theorem identify_of_slotLoad_head (hne : v.storage.arguments ≠ v.storage.locals)
    (hnone : ∀ i ∈ v.body, i.callee? = none)
    (hhead : (Shape.slotLoadOf n).isAt v.body.opcodes .head = true)
    (hlack : ∀ o ∈ v.body.opcodes, o ∉ Outline.searchedBefore) {field : Instruction}
    (hfield : v.body[2]? = some field) {store : Storage}
    (hstore : field.refersTo v.storage store = true) :
    ((Classifier.mk ⟨S.source, reach⟩ low .standard).identify v).result =
      .ok (.slotLoad store n) := by
  have hfit : (Outline.slotLoad n).Fits ⟨v, ⟨S.source, reach⟩⟩ :=
    ((Outline.fits_ofHead (c := ⟨v, _⟩) (Template.prefix_of_isAt_head hhead)).inter
      (Outline.fits_lacking (c := ⟨v, _⟩) hlack)).inter (fits_noHelper hnone)
  -- what else is left comes after the two loads from the slot, of which one answers
  have hfirst : ([Storage.arguments, .locals].map fun store => Signature.slotLoad store n).find?
      (Signature.answers low ⟨v, ⟨S.source, reach⟩⟩) = some (.slotLoad store n) := by
    have hanswers : ∀ store, (Signature.slotLoad store n).answers low ⟨v, ⟨S.source, reach⟩⟩ =
        field.refersTo v.storage store :=
      Signature.answers_slotLoad (c := ⟨v, ⟨S.source, reach⟩⟩) hhead hfield
    refine find?_eq_some_of_unique (List.mem_map.2 ⟨store, by cases store <;> decide, rfl⟩)
      ((hanswers store).trans hstore) fun s hs hs' => ?_
    obtain ⟨store', -, rfl⟩ := List.mem_map.1 hs
    rw [hanswers store'] at hs'
    rw [StorageFields.field_injective hne (Instruction.field_eq_of_refersTo hs' hstore)]
  rw [hfit.identify (decodes_of_no_callee hnone),
    ← List.take_append_drop 2 (Outline.signatures _), Outline.take_signatures_slotLoad,
    List.find?_append, hfirst]
  rfl

end

/-- **Slot loads ignore what follows.**  A handler that begins with the load from a slot and names no
method of the binary is that load, told by its store, whatever follows, as long as this has none of
the opcodes that are searched for before.  The rules of slot loads do not need even that: they say
the same of a handler as of all its extensions. -/
theorem identify_slotLoad (v : VirtualInstruction) (tail : Body) :
    (∀ (S : BodyStore) (config : Config) (k : Classifier),
      Classifier.ofConfig S.source config .standard = .ok k →
      v.storage.arguments ≠ v.storage.locals → (∀ i ∈ v.body ++ tail, i.callee? = none) →
      (∀ i ∈ tail, i.opcode ∉ Outline.searchedBefore) →
      ∀ n field store, (Shape.slotLoadOf n).accepts v.body.opcodes = true →
        v.body[2]? = some field → field.refersTo v.storage store = true →
        (k.identify (v.followedBy tail)).result = .ok (.slotLoad store n)) ∧
    (∀ r ∈ Registry.standard.rules, r.label ∈ Operation.slotLoads → 8 ≤ v.body.length →
      ∀ sc, r.holds ⟨v.followedBy tail, sc⟩ = r.holds ⟨v, sc⟩) := by
  refine ⟨fun S config k hk hne hnone hlack n field store ht hfield hstore => ?_,
    fun r hr hlabel hlen sc => ?_⟩
  · obtain ⟨reach, -, rfl⟩ := Classifier.ofConfig_eq_ok_iff.1 hk
    have happend : (v.followedBy tail).body.opcodes = v.body.opcodes ++ tail.opcodes :=
      List.map_append
    have hhead : (Shape.slotLoadOf n).isAt (v.followedBy tail).body.opcodes .head = true := by
      rw [happend, Template.isAt_head_append (Template.length_eq_of_accepts ht).ge]
      exact Template.isAt_head_of_accepts rfl ht
    have hown : ∀ o ∈ v.body.opcodes, o ∉ Outline.searchedBefore := by
      rw [← Template.opcodes_of_accepts ht]
      exact Outline.not_mem_searchedBefore n
    refine identify_of_slotLoad_head (v := v.followedBy tail) hne hnone hhead ?_ ?_ hstore
    · intro o ho
      rw [happend] at ho
      rcases List.mem_append.1 ho with ho | ho
      · exact hown o ho
      · obtain ⟨i, hi, rfl⟩ := List.mem_map.1 ho
        exact hlack i hi
    · exact List.getElem?_append_left (List.getElem?_eq_some_iff.1 hfield).1 ▸ hfield
  · obtain ⟨store, n, rfl⟩ := Rule.exists_slotLoad hr hlabel
    exact Test.eval_head_append (t := Shape.slotLoadOf n) hlen tail _

/-- The handler of the load of the second local. -/
def secondLocal : VirtualInstruction :=
  ⟨[.ofOpcode .ldarg_0, .ofOpcode .ldarg_0, ⟨.ldfld, .field ⟨⟨0x04000002⟩, "locals"⟩⟩,
    .ofOpcode .ldc_i4_1, .ofOpcode .ldelem, .ofOpcode .callvirt, .ofOpcode .call, .ofOpcode .ret],
   ⟨⟨0x04000001⟩, ⟨0x04000002⟩⟩, .none⟩

/-- It is told as such even with the window of another operation behind it. -/
theorem identify_slotLoad_secondLocal :
    let v := secondLocal.followedBy (Shape.or.opcodes.map .ofOpcode)
    Shape.or.occursIn v.body.opcodes = true ∧
    ((Classifier.mk ⟨BodyStore.empty.source, .callees⟩ true .standard).identify v).result =
      .ok .ldloc_1 ∧
    ∀ sc, (Signature.slotLoad .locals 1).rule.holds ⟨v, sc⟩ =
      (Signature.slotLoad .locals 1).rule.holds ⟨secondLocal, sc⟩ := by
  intro v
  refine ⟨by decide +kernel, ?_, fun sc => ?_⟩
  · exact (identify_slotLoad secondLocal (Shape.or.opcodes.map .ofOpcode)).1 .empty .standard _ rfl
      (by decide) (by decide +kernel) (by decide +kernel) 1 _ .locals (by decide +kernel) rfl
      (by decide +kernel)
  · have hmem : Signature.slotLoad .locals 1 ∈ Signature.standard := by decide +kernel
    exact (identify_slotLoad secondLocal (Shape.or.opcodes.map .ofOpcode)).2 _
      (List.mem_map_of_mem hmem) (by decide) (by decide) sc

end CilRecovery
