import CilRecovery.Registry.Standard
import Mathlib.Data.List.Nodup

/-!
# What a registry recognises

A registry recognises an operation if one of its rules for the operation holds.  The standard
registry has one rule for each operation, so there it is the test of that rule which decides:

    s ∈ standard → (s.label is recognised ↔ s.test.eval c = ok true)          (recognises_of_mem)
-/

namespace CilRecovery

/-- Some rule of the registry for the operation holds. -/
def Registry.Recognises (registry : Registry) (c : Candidate) (op : Operation) : Prop :=
  ∃ r ∈ registry.rules, r.label = op ∧ (r.holds c).result = .ok true

theorem Signature.eq_of_label_eq {s t : Signature} (hs : s ∈ standard) (ht : t ∈ standard)
    (h : s.label = t.label) : s = t := by
  have hnodup : (standard.map Signature.label).Nodup := by
    rw [map_label_standard]
    exact Operation.nodup_all
  exact List.inj_on_of_nodup_map hnodup hs ht h

namespace Registry

theorem recognises_standard_iff {c : Candidate} {op : Operation} :
    standard.Recognises c op ↔
      ∃ s ∈ Signature.standard, s.label = op ∧ (s.test.eval c).result = .ok true := by
  unfold Recognises standard ofSignatures
  constructor
  · rintro ⟨r, hr, hl, hh⟩
    obtain ⟨s, hs, rfl⟩ := List.mem_map.1 hr
    exact ⟨s, hs, hl, hh⟩
  · rintro ⟨s, hs, hl, hh⟩
    exact ⟨s.rule, List.mem_map_of_mem hs, hl, hh⟩

theorem recognises_of_mem {c : Candidate} {s : Signature} (hs : s ∈ Signature.standard) :
    standard.Recognises c s.label ↔ (s.test.eval c).result = .ok true := by
  rw [recognises_standard_iff]
  constructor
  · rintro ⟨t, ht, hl, hh⟩
    rw [← Signature.eq_of_label_eq ht hs hl]
    exact hh
  · intro h
    exact ⟨s, hs, rfl, h⟩

end Registry

end CilRecovery
