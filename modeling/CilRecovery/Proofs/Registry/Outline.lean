import CilRecovery.Proofs.Registry.Evidence
import CilRecovery.Proofs.Template.Offsets
import CilRecovery.Registry.Standard
import Mathlib.Data.List.Forall2

/-!
# Outlines

An *outline* says which templates a candidate may show and where: as its whole handler, at an end of
the handler, as a window in it, or in a helper.  A candidate *fits* the outline if it shows no others.
What an outline does not allow is evidence that no fitting candidate shows, so of the standard
signatures only those are left whose evidence it allows; which ones these are is computed.

    o.Fits c → e.Holds c → o.allows e                                            (allows_of_holds)
    o.Fits c → s.test holds of c → s ∈ o.signatures, for standard s            (Fits.mem_signatures)

Outlines come from single facts about a candidate, and what fits two of them fits both at once
(Fits.inter).  A template is itself an outline: a hole in it stands for one opcode that is not known.

    p.Describes c.opcodes → (ofTemplate p).Fits c                                 (fits_ofTemplate)
-/

namespace CilRecovery

/-- The opcodes that load a constant and have no operand. -/
def Opcode.literals : List Opcode :=
  [.ldc_i4_m1, .ldc_i4_0, .ldc_i4_1, .ldc_i4_2, .ldc_i4_3, .ldc_i4_4, .ldc_i4_5, .ldc_i4_6,
   .ldc_i4_7, .ldc_i4_8]

/-- The templates that are searched for in helpers. -/
def Shape.sought : List Template :=
  [and, or, xor, shl, shrHelper, divHelper, remHelper, addHelper, subHelper, lessThanHelper,
   greaterThanHelper]

/-- Where which templates may be found. -/
structure Outline where
  /-- Templates that may be the whole handler. -/
  whole : Template → Bool
  anchored : Template → Anchor → Bool
  window : Template → Bool
  /-- Templates that may occur in a helper. -/
  helper : Template → Bool

/-! ## Descriptions by a template -/

namespace Slot

/-- The slot is the opcode, or a hole in its place. -/
def Describes (s : Slot) (o : Opcode) : Prop := s.isExact = true → s = .exact o

/-- Whether an opcode that the first slot describes may be accepted by the second. -/
def meets : Slot → Slot → Bool
  | .exact o, s => s.accepts o
  | .hole _, _ => true

theorem Describes.meets {s s' : Slot} {o : Opcode} (h : s.Describes o) (ha : s'.accepts o = true) :
    s.meets s' = true := by
  cases s with
  | exact o' =>
    obtain rfl : o' = o := Slot.exact.inj (h rfl)
    exact ha
  | hole n => rfl

theorem describes_exact (o : Opcode) : (Slot.exact o).Describes o := fun _ => rfl

theorem describes_of_fill {s : Slot} {n : String} {x o : Opcode} (h : s.fill n x = .exact o) :
    s.Describes o := by
  intro hs
  cases s with
  | exact o' => exact h
  | hole n' => cases hs

end Slot

namespace Template

/-- Whether opcodes that the slots describe may begin with a window of the template. -/
def mayLead (t : Template) (known : List Slot) : Bool :=
  decide (t.length ≤ known.length) && (known.zip t.slots).all fun p => p.1.meets p.2

/-- The opcodes are those of the template, with some opcode in each hole. -/
def Describes (p : Template) (os : List Opcode) : Prop := List.Forall₂ Slot.Describes p.slots os

theorem describes_of_accepts {p : Template} {os : List Opcode} (h : p.accepts os = true) :
    p.Describes os := by
  unfold Describes
  rw [accepts_iff.1 h, List.forall₂_map_left_iff, List.forall₂_same]
  exact fun o _ => Slot.describes_exact o

theorem describes_of_fill {p : Template} {n : String} {x : Opcode} {os : List Opcode}
    (h : (p.fill n x).accepts os = true) : p.Describes os := by
  have hslots : p.slots.map (Slot.fill n x) = os.map .exact := accepts_iff.1 h
  have hall : List.Forall₂ (fun s o => s.fill n x = .exact o) p.slots os := by
    rw [← List.forall₂_map_left_iff (f := Slot.fill n x) (R := fun s o => s = .exact o), hslots,
      List.forall₂_map_left_iff, List.forall₂_same]
    exact fun o _ => rfl
  exact hall.imp fun s o => Slot.describes_of_fill

theorem mayLead_of_leadsSlots {t : Template} {known : List Slot} {os : List Opcode}
    (hk : List.Forall₂ Slot.Describes known os) (h : leadsSlots t.slots os = true) :
    t.mayLead known = true := by
  obtain ⟨ss⟩ := t
  unfold mayLead length
  induction hk generalizing ss with
  | nil =>
    cases ss with
    | nil => rfl
    | cons s ss => cases h
  | @cons k o known os hko _ ih =>
    cases ss with
    | nil => simp
    | cons s ss =>
      simp only [leadsSlots, Bool.and_eq_true] at h
      have hrest := ih ss h.2
      simp only [Bool.and_eq_true, decide_eq_true_eq] at hrest
      simp [hko.meets h.1, hrest.1, hrest.2]

theorem Describes.mayLead {p t : Template} {os : List Opcode} (hp : p.Describes os) {i : Nat}
    (hi : i + t.length ≤ os.length) (ha : t.accepts ((os.drop i).take t.length) = true) :
    t.mayLead (p.slots.drop i) = true := by
  refine mayLead_of_leadsSlots (List.forall₂_drop i hp) (leadsSlots_iff.2 ⟨?_, ha⟩)
  rw [List.length_drop]
  unfold length at hi
  omega

/-! ## Windows as parts of the opcodes -/

theorem leadsSlots_of_accepts {t : Template} {os : List Opcode} (h : t.accepts os = true) :
    leadsSlots t.slots os = true := by
  have hlen : os.length = t.slots.length := length_eq_of_accepts h
  rw [leadsSlots_iff, ← hlen, List.take_length]
  exact ⟨Nat.le_refl _, h⟩

/-- The opcodes begin with the window that stands at their head. -/
theorem prefix_of_isAt_head {t : Template} {os : List Opcode} (h : t.isAt os .head = true) :
    t.opcodes <+: os := by
  simp only [isAt, Bool.and_eq_true, leadsSlots_iff] at h
  rw [opcodes_of_accepts h.2.2]
  exact List.take_prefix _ os

theorem suffix_of_isAt_tail {t : Template} {os : List Opcode} (h : t.isAt os .tail = true) :
    t.opcodes <:+ os := by
  simp only [isAt, Bool.and_eq_true] at h
  rw [opcodes_of_accepts h.2]
  exact List.drop_suffix _ os

/-- A window of the template is a part of the opcodes. -/
theorem infix_of_occursIn {t : Template} {os : List Opcode} (h : t.occursIn os = true) :
    t.opcodes <:+: os := by
  obtain ⟨-, window, hpart, haccepts⟩ := occursIn_iff_exists_infix.1 h
  rw [opcodes_of_accepts haccepts]
  exact hpart

/-- Whether the template has none of the opcodes. -/
def avoids (t : Template) (lacking : List Opcode) : Bool :=
  t.opcodes.all fun o => !lacking.contains o

theorem avoids_of_subset {t : Template} {os lacking : List Opcode} (hos : ∀ o ∈ os, o ∉ lacking)
    (h : t.opcodes ⊆ os) : t.avoids lacking = true := by
  refine List.all_eq_true.2 fun o ho => ?_
  rw [Bool.not_eq_true', ← Bool.not_eq_true, List.contains_iff_mem]
  exact hos o (h ho)

end Template

namespace Outline

/-- The candidate shows no template but where the outline has it. -/
structure Fits (o : Outline) (c : Candidate) : Prop where
  whole : ∀ t, t.accepts c.opcodes = true → o.whole t = true
  anchored : ∀ t anchor, t.isAt c.opcodes anchor = true → o.anchored t anchor = true
  window : ∀ t, t.occursIn c.opcodes = true → o.window t = true
  helper : ∀ t b, c.scope.IsHelper c.body b → t.occursIn b.opcodes = true → o.helper t = true

/-- Whether the evidence may be shown, as far as templates go. -/
def allows (o : Outline) : Evidence → Bool
  | .shape t => o.whole t
  | .anchored t anchor => o.anchored t anchor
  | .window t => o.window t
  | .reached t => o.window t || o.helper t
  | .selected t _ => o.helper t
  | .declared _ | .operand _ _ _ _ => true

/-- The standard signatures that are left. -/
def signatures (o : Outline) : List Signature :=
  Signature.standard.filter fun s => s.test.evidence.all o.allows

variable {o : Outline} {c : Candidate}

theorem Fits.allows_of_holds (hfit : o.Fits c) {e : Evidence} (he : e.Holds c) :
    o.allows e = true := by
  cases e with
  | shape t => exact hfit.whole t he
  | anchored t anchor => exact hfit.anchored t anchor he
  | window t => exact hfit.window t he
  | reached t =>
    rcases he with he | ⟨b, hb, he⟩
    · simp [allows, hfit.window t he]
    · simp [allows, hfit.helper t b hb he]
  | selected t flags =>
    obtain ⟨b, hb, ho⟩ := Scope.helper_of_selects he
    exact hfit.helper t b hb ho
  | declared kind => rfl
  | operand capture t index check => rfl

/-- The signatures that hold are among those that are left. -/
theorem Fits.mem_signatures (hfit : o.Fits c) {s : Signature} (hs : s ∈ Signature.standard)
    (h : (s.test.eval c).result = .ok true) : s ∈ o.signatures := by
  refine List.mem_filter.2 ⟨hs, List.all_eq_true.2 fun e he => ?_⟩
  exact hfit.allows_of_holds (Test.holds_of_mem_evidence h e he)

/-- The outline of what both outlines have. -/
def inter (o o' : Outline) : Outline where
  whole t := o.whole t && o'.whole t
  anchored t anchor := o.anchored t anchor && o'.anchored t anchor
  window t := o.window t && o'.window t
  helper t := o.helper t && o'.helper t

theorem Fits.inter {o' : Outline} (h : o.Fits c) (h' : o'.Fits c) : (o.inter o').Fits c where
  whole t ht := Bool.and_eq_true_iff.2 ⟨h.whole t ht, h'.whole t ht⟩
  anchored t anchor ht := Bool.and_eq_true_iff.2 ⟨h.anchored t anchor ht, h'.anchored t anchor ht⟩
  window t ht := Bool.and_eq_true_iff.2 ⟨h.window t ht, h'.window t ht⟩
  helper t b hb ht := Bool.and_eq_true_iff.2 ⟨h.helper t b hb ht, h'.helper t b hb ht⟩

/-! ## Outlines of single facts -/

/-- The outline of everything. -/
def any : Outline := ⟨fun _ => true, fun _ _ => true, fun _ => true, fun _ => true⟩

/-- The outline of the candidates whose helpers hold only templates that are `allowed`. -/
def helpers (allowed : Template → Bool) : Outline := { any with helper := allowed }

theorem fits_helpers {allowed : Template → Bool} (h : ∀ t b, c.scope.IsHelper c.body b →
    t.occursIn b.opcodes = true → allowed t = true) : (helpers allowed).Fits c :=
  ⟨fun _ _ => rfl, fun _ _ _ => rfl, fun _ _ => rfl, h⟩

/-- The outline of the candidates without helpers. -/
def noHelper : Outline := helpers fun _ => false

/-- The outline of the handlers that are none of the templates. -/
def unlike (ts : List Template) : Outline := { any with whole := fun t => !ts.contains t }

theorem fits_unlike {ts : List Template} (h : ∀ t ∈ ts, t.accepts c.opcodes = false) :
    (unlike ts).Fits c := by
  refine ⟨fun t ht => ?_, fun _ _ _ => rfl, fun _ _ => rfl, fun _ _ _ _ => rfl⟩
  show (!ts.contains t) = true
  rw [Bool.not_eq_true', ← Bool.not_eq_true, List.contains_iff_mem]
  intro hmem
  rw [h t hmem] at ht
  cases ht

/-- The outline of the handlers that have none of the opcodes. -/
def lacking (os : List Opcode) : Outline :=
  { any with
    whole := fun t => t.avoids os
    anchored := fun t _ => t.avoids os
    window := fun t => t.avoids os }

theorem fits_lacking {os : List Opcode} (h : ∀ o ∈ c.opcodes, o ∉ os) : (lacking os).Fits c := by
  refine ⟨fun t ht => ?_, fun t anchor ht => ?_, fun t ht => ?_, fun _ _ _ _ => rfl⟩
  · exact Template.avoids_of_subset h (Template.opcodes_of_accepts ht ▸ List.Subset.refl _)
  · cases anchor with
    | head => exact Template.avoids_of_subset h (Template.prefix_of_isAt_head ht).subset
    | tail => exact Template.avoids_of_subset h (Template.suffix_of_isAt_tail ht).subset
  · exact Template.avoids_of_subset h (Template.infix_of_occursIn ht).subset

/-- The outline of the handlers that begin with the opcodes. -/
def ofHead (head : List Opcode) : Outline :=
  { any with
    whole := fun t => head.isPrefixOf t.opcodes
    anchored := fun
      | t, .head => t.opcodes.isPrefixOf head || head.isPrefixOf t.opcodes
      | _, .tail => true }

theorem fits_ofHead {head : List Opcode} (h : head <+: c.opcodes) : (ofHead head).Fits c := by
  refine ⟨fun t ht => ?_, fun t anchor ht => ?_, fun _ _ => rfl, fun _ _ _ _ => rfl⟩
  · rw [← Template.opcodes_of_accepts ht] at h
    exact List.isPrefixOf_iff_prefix.2 h
  · cases anchor with
    | head =>
      have hpre := List.prefix_or_prefix_of_prefix (Template.prefix_of_isAt_head ht) h
      simpa [ofHead] using hpre
    | tail => rfl

/-- The outline of the handlers that do not begin with the opcodes. -/
def withoutHead (head : List Opcode) : Outline :=
  { any with
    anchored := fun
      | t, .head => !head.isPrefixOf t.opcodes
      | _, .tail => true }

theorem fits_withoutHead {head : List Opcode} (h : ¬ head <+: c.opcodes) :
    (withoutHead head).Fits c := by
  refine ⟨fun _ _ => rfl, fun t anchor ht => ?_, fun _ _ => rfl, fun _ _ _ _ => rfl⟩
  cases anchor with
  | head =>
    show (!head.isPrefixOf t.opcodes) = true
    rw [Bool.not_eq_true', ← Bool.not_eq_true, List.isPrefixOf_iff_prefix]
    exact fun hhead => h (hhead.trans (Template.prefix_of_isAt_head ht))
  | tail => rfl

/-! ## Templates as outlines -/

/-- The outline of the handlers that the template describes. -/
def ofTemplate (p : Template) : Outline :=
  { any with
    whole := fun t => t.length == p.length && t.mayLead p.slots
    anchored := fun
      | t, .head => t.mayLead p.slots
      | t, .tail => t.mayLead (p.slots.drop (p.length - t.length))
    window := fun t => (List.range p.length).any fun i => t.mayLead (p.slots.drop i) }

section
variable {p : Template} (hp : p.Describes c.opcodes)

include hp

theorem whole_ofTemplate {t : Template} (ht : t.accepts c.opcodes = true) :
    (ofTemplate p).whole t = true := by
  have hlen : p.length = c.opcodes.length := hp.length_eq
  have htlen : c.opcodes.length = t.length := Template.length_eq_of_accepts ht
  have hlead := Template.mayLead_of_leadsSlots hp (Template.leadsSlots_of_accepts ht)
  simpa [ofTemplate, hlen, htlen] using hlead

theorem anchored_ofTemplate {t : Template} {anchor : Anchor}
    (ht : t.isAt c.opcodes anchor = true) : (ofTemplate p).anchored t anchor = true := by
  have hlen : p.length = c.opcodes.length := hp.length_eq
  cases anchor with
  | head =>
    simp only [Template.isAt, Bool.and_eq_true] at ht
    exact Template.mayLead_of_leadsSlots hp ht.2
  | tail =>
    simp only [Template.isAt, Bool.and_eq_true, decide_eq_true_eq] at ht
    obtain ⟨⟨-, hle⟩, ha⟩ := ht
    have htake : (c.opcodes.drop (c.opcodes.length - t.length)).take t.length =
        c.opcodes.drop (c.opcodes.length - t.length) := by
      apply List.take_of_length_le
      rw [List.length_drop]
      omega
    show t.mayLead (p.slots.drop (p.length - t.length)) = true
    rw [hlen]
    refine hp.mayLead (by omega) ?_
    rw [htake]
    exact ha

theorem window_ofTemplate {t : Template} (ht : t.occursIn c.opcodes = true) :
    (ofTemplate p).window t = true := by
  have hlen : p.length = c.opcodes.length := hp.length_eq
  obtain ⟨i, hi⟩ := Template.occursIn_iff.1 ht
  obtain ⟨hne, hle, ha⟩ := Template.mem_offsets.1 hi
  have hpos : 0 < t.length := by
    simpa [Template.isEmpty, Template.length, List.length_pos_iff] using hne
  refine List.any_eq_true.2 ⟨i, List.mem_range.2 ?_, hp.mayLead hle ha⟩
  omega

theorem fits_ofTemplate : (ofTemplate p).Fits c :=
  ⟨fun _ => whole_ofTemplate hp, fun _ _ => anchored_ofTemplate hp, fun _ => window_ofTemplate hp,
    fun _ _ _ _ => rfl⟩

end

end Outline

end CilRecovery
