import CilRecovery.Cil.Token
import CilRecovery.Proofs.Text.Hex
import Mathlib.Data.Nat.Bitwise
import Mathlib.Data.Prod.Lex

/-!
# Tokens as numbers

A token is the number of its table times 2^24, plus its row.  Splitting a token, putting one together,
the order of tokens and their text are all read off that number.

    t.table * 2^24 + t.row = t.value, with t.row < 2^24                  (toNat_table, toNat_row)
    (ofParts table row).value = table * 2^24 + row mod 2^24                     (toNat_ofParts)
    a < b ↔ a.render < b.render                                          (lt_iff_render_lt)
    all of this for any tokens                                           (token_by_parts)
-/

namespace CilRecovery

namespace Token

variable {a b t : Token}

/-! ## Parts -/

theorem toNat_table (t : Token) : t.table.toNat = t.value.toNat / 2 ^ 24 := by
  unfold table
  have hshift : (24 : UInt32).toNat % 32 = 24 := rfl
  have hlt : t.value.toNat < 2 ^ 32 := t.value.toNat_lt
  rw [UInt32.toNat_toUInt8, UInt32.toNat_shiftRight, hshift, Nat.shiftRight_eq_div_pow]
  omega

theorem toNat_row (t : Token) : t.row.toNat = t.value.toNat % 2 ^ 24 := by
  have hmask : (0xffffff : UInt32).toNat = 2 ^ 24 - 1 := rfl
  unfold row
  rw [UInt32.toNat_and, hmask, Nat.and_two_pow_sub_one_eq_mod]

/-- The table stands above the row, and the row keeps to its bits. -/
theorem toNat_ofParts (table : UInt8) (row : UInt32) :
    (ofParts table row).value.toNat = 2 ^ 24 * table.toNat + row.toNat % 2 ^ 24 := by
  have hshift : (24 : UInt32).toNat % 32 = 24 := rfl
  have hmask : (0xffffff : UInt32).toNat = 2 ^ 24 - 1 := rfl
  have hlt : table.toNat < 2 ^ 8 := table.toNat_lt
  have hrow : row.toNat % 2 ^ 24 < 2 ^ 24 := Nat.mod_lt _ (by decide)
  have htable : 2 ^ 24 * table.toNat % 2 ^ 32 = 2 ^ 24 * table.toNat := Nat.mod_eq_of_lt (by omega)
  unfold ofParts
  rw [UInt32.toNat_or, UInt32.toNat_and, UInt32.toNat_shiftLeft, UInt8.toNat_toUInt32, hshift, hmask,
    Nat.and_two_pow_sub_one_eq_mod, Nat.shiftLeft_eq, Nat.mul_comm, htable,
    Nat.two_pow_add_eq_or_of_lt hrow]

theorem table_ofParts (table : UInt8) (row : UInt32) : (ofParts table row).table = table := by
  have hrow : row.toNat % 2 ^ 24 < 2 ^ 24 := Nat.mod_lt _ (by decide)
  rw [← UInt8.toNat_inj, toNat_table, toNat_ofParts]
  omega

theorem toNat_row_ofParts (table : UInt8) (row : UInt32) :
    (ofParts table row).row.toNat = row.toNat % 2 ^ 24 := by
  rw [toNat_row, toNat_ofParts]
  omega

theorem ext_toNat (h : a.value.toNat = b.value.toNat) : a = b :=
  congrArg mk (UInt32.toNat_inj.mp h)

theorem ofParts_table_row (t : Token) : ofParts t.table t.row = t := by
  apply ext_toNat
  rw [toNat_ofParts, toNat_table, toNat_row]
  omega

theorem isMethodDef_iff : t.isMethodDef = true ↔ ∃ row, t = ofParts methodDefTable row := by
  unfold isMethodDef
  rw [beq_iff_eq]
  constructor
  · intro h
    exact ⟨t.row, by rw [← h, ofParts_table_row]⟩
  · rintro ⟨row, rfl⟩
    exact table_ofParts methodDefTable row

/-! ## Order -/

theorem lt_iff_toNat_lt : a < b ↔ a.value.toNat < b.value.toNat := UInt32.lt_iff_toNat_lt

/-- Tokens are compared by their tables, and within one table by their rows. -/
theorem lt_iff_toLex_lt : a < b ↔ toLex (a.table, a.row) < toLex (b.table, b.row) := by
  rw [lt_iff_toNat_lt, Prod.Lex.toLex_lt_toLex, UInt8.lt_iff_toNat_lt, ← UInt8.toNat_inj,
    UInt32.lt_iff_toNat_lt, toNat_table, toNat_table, toNat_row, toNat_row]
  omega

theorem le_iff_toLex_le : a ≤ b ↔ toLex (a.table, a.row) ≤ toLex (b.table, b.row) := by
  have hle : a ≤ b ↔ a.value.toNat ≤ b.value.toNat := UInt32.le_iff_toNat_le
  rw [hle, Prod.Lex.toLex_le_toLex, UInt8.lt_iff_toNat_lt, ← UInt8.toNat_inj,
    UInt32.le_iff_toNat_le, toNat_table, toNat_table, toNat_row, toNat_row]
  omega

/-! ## Text -/

theorem toList_render (t : Token) :
    t.render.toList = '0' :: 'x' :: Text.Hex.fixed 8 t.value.toNat := by
  simp [render]

theorem value_lt (t : Token) : t.value.toNat < 16 ^ 8 := t.value.toNat_lt

/-- The texts of tokens are in the order of the tokens. -/
theorem lt_iff_render_lt : a < b ↔ a.render < b.render := by
  rw [String.lt_iff, toList_render, toList_render, List.cons_lt_cons_self, List.cons_lt_cons_self,
    Text.Hex.fixed_lt_fixed_iff a.value_lt b.value_lt, lt_iff_toNat_lt]

end Token

/-- **Tokens by their parts.**  A token is put together from its own parts, whatever row is asked for
keeps out of the table, and the methods of the binary are the rows of table 6.  Tokens are ordered by
table and row.  The text of a token is `0x` and eight hexadecimal digits that stand for its value, and
texts are ordered as tokens are. -/
theorem token_by_parts :
    (∀ t : Token, Token.ofParts t.table t.row = t) ∧
    (∀ table row, (Token.ofParts table row).table = table ∧
      (Token.ofParts table row).row.toNat = row.toNat % 2 ^ 24) ∧
    (∀ t : Token, t.isMethodDef = true ↔ ∃ row, t = Token.ofParts 6 row) ∧
    (∀ a b : Token, (a < b ↔ toLex (a.table, a.row) < toLex (b.table, b.row)) ∧
      (a ≤ b ↔ toLex (a.table, a.row) ≤ toLex (b.table, b.row))) ∧
    (∀ t : Token, ∃ cs, t.render.toList = '0' :: 'x' :: cs ∧ cs.length = 8 ∧
      (∀ c ∈ cs, c ∈ Text.Hex.digits) ∧ Text.Hex.value cs = t.value.toNat) ∧
    ∀ a b : Token, a < b ↔ a.render < b.render := by
  refine ⟨Token.ofParts_table_row, fun table row => ⟨Token.table_ofParts table row,
    Token.toNat_row_ofParts table row⟩, fun t => Token.isMethodDef_iff,
    fun a b => ⟨Token.lt_iff_toLex_lt, Token.le_iff_toLex_le⟩, fun t => ?_,
    fun a b => Token.lt_iff_render_lt⟩
  refine ⟨_, t.toList_render, Text.Hex.length_fixed _ _,
    fun c => Text.Hex.mem_digits_of_mem_fixed, ?_⟩
  rw [Text.Hex.value_fixed, Nat.mod_eq_of_lt t.value_lt]

/-- A row with bits where a table would stand, and the order of two texts that differ in a digit and a
letter. -/
theorem token_by_parts_memberRef :
    let field := Token.ofParts Token.fieldTable 9
    let member := Token.ofParts Token.memberRefTable 0xff000003
    member.table = Token.memberRefTable ∧ member.row.toNat = 3 ∧ member.render = "0x0a000003" ∧
    (∀ row, field ≠ Token.ofParts 6 row) ∧ field.render < member.render := by
  intro field member
  obtain ⟨-, hparts, hmethod, -, -, hrender⟩ := token_by_parts
  obtain ⟨htable, hrow⟩ := hparts Token.memberRefTable 0xff000003
  have hfield : field.isMethodDef = false := by decide
  refine ⟨htable, hrow, by decide, fun row heq => ?_, (hrender field member).mp (by decide)⟩
  rw [(hmethod field).mpr ⟨row, heq⟩] at hfield
  cases hfield

end CilRecovery
