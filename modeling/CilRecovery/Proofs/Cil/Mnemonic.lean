import CilRecovery.Cil.Opcode
import Mathlib.Data.List.Nodup

/-!
# Mnemonics

A mnemonic is made of letters, digits and dots, and no two opcodes share one, so a text is read as an
opcode if, and only if, it is the mnemonic of that opcode.

    o.mnemonic = o'.mnemonic → o = o'                                     (mnemonic_injective)
    ofMnemonic? s = some o ↔ s = o.mnemonic                          (ofMnemonic?_eq_some_iff)
    only letters, digits and dots occur in mnemonics                         (notMem_mnemonic)
-/

namespace CilRecovery.Opcode

variable {o : Opcode}

/-! ## Spelling -/

theorem mnemonic_ne_empty (o : Opcode) : o.mnemonic ≠ "" := by
  have hall : ∀ o ∈ all, o.mnemonic ≠ "" := by decide +kernel
  exact hall o (mem_all o)

theorem all_isAlphanum_or_dot :
    ∀ o ∈ all, (o.mnemonic.toList.all fun c => c.isAlphanum || c == '.') = true := by
  decide +kernel

theorem notMem_mnemonic (o : Opcode) {c : Char} (hc : c.isAlphanum = false) (hdot : c ≠ '.') :
    c ∉ o.mnemonic.toList := by
  intro hmem
  have hspelled := List.all_eq_true.mp (all_isAlphanum_or_dot o (mem_all o)) c hmem
  simp [hc, hdot] at hspelled

/-! ## Distinctness -/

theorem size_mnemonic_lt (o : Opcode) : o.mnemonic.utf8ByteSize < 16 := by
  have hall : ∀ o ∈ all, o.mnemonic.utf8ByteSize < 16 := by decide +kernel
  exact hall o (mem_all o)

/-- Only mnemonics of the same size have to be compared. -/
theorem nodup_mnemonics_of_size :
    ∀ n < 16, ((all.filter fun o => o.mnemonic.utf8ByteSize == n).map mnemonic).Nodup := by
  decide +kernel

theorem mnemonic_injective : Function.Injective mnemonic := by
  intro o o' h
  have hnodup := nodup_mnemonics_of_size _ (size_mnemonic_lt o)
  have hsize : o'.mnemonic.utf8ByteSize = o.mnemonic.utf8ByteSize := by rw [h]
  apply List.inj_on_of_nodup_map hnodup
  · exact List.mem_filter.mpr ⟨mem_all o, beq_self_eq_true _⟩
  · exact List.mem_filter.mpr ⟨mem_all o', beq_iff_eq.mpr hsize⟩
  · exact h

/-! ## Reading -/

theorem ofMnemonic?_mnemonic (o : Opcode) : ofMnemonic? o.mnemonic = some o := by
  have hsome : (ofMnemonic? o.mnemonic).isSome = true :=
    List.find?_isSome.mpr ⟨o, mem_all o, beq_self_eq_true _⟩
  obtain ⟨o', ho'⟩ := Option.isSome_iff_exists.mp hsome
  rw [ho', mnemonic_injective (mnemonic_of_ofMnemonic? ho')]

theorem ofMnemonic?_eq_some_iff {s : String} : ofMnemonic? s = some o ↔ s = o.mnemonic := by
  constructor
  · exact fun h => (mnemonic_of_ofMnemonic? h).symm
  · rintro rfl
    exact ofMnemonic?_mnemonic o

end CilRecovery.Opcode
