import CilRecovery.Text.Hex
import Mathlib.Data.Nat.Digits.Defs

/-!
# Digits as numbers

A sequence of hexadecimal digits stands for a number, the highest digit first.  Writing a number with
a fixed count of digits loses no more than the digits that find no place, and as the digits
themselves are ordered as characters, so are the numbers as texts.

    value (fixed w n) = n mod 16 ^ w                                             (value_fixed)
    fixed w m < fixed w n ↔ m < n, if both have room                        (fixed_lt_fixed_iff)
-/

namespace CilRecovery.Text.Hex

/-- The digits, each at the place of its value. -/
def digits : List Char :=
  ['0', '1', '2', '3', '4', '5', '6', '7', '8', '9', 'a', 'b', 'c', 'd', 'e', 'f']

/-- The number that the digits stand for, highest first. -/
def value (cs : List Char) : Nat := Nat.ofDigits 16 (cs.reverse.map fun c => digits.idxOf c)

variable {w m n : Nat} {c : Char} {cs : List Char}

/-! ## One digit -/

theorem digit_mem_digits : ∀ d < 16, digit d ∈ digits := by decide

theorem idxOf_digit : ∀ d < 16, digits.idxOf (digit d) = d := by decide

theorem digit_lt_digit_iff : ∀ d < 16, ∀ e < 16, digit d < digit e ↔ d < e := by decide

/-! ## Reading back -/

theorem mem_digits_of_mem_fixed (h : c ∈ fixed w n) : c ∈ digits := by
  induction w generalizing n with
  | zero => cases h
  | succ w ih =>
    rcases List.mem_append.mp h with h | h
    · exact ih h
    · rw [List.mem_singleton.mp h]
      exact digit_mem_digits _ (Nat.mod_lt n (by decide))

theorem value_append_singleton : value (cs ++ [c]) = digits.idxOf c + 16 * value cs := by
  unfold value
  rw [List.reverse_append, List.reverse_singleton, List.singleton_append, List.map_cons,
    Nat.ofDigits_cons]

theorem value_fixed (w n : Nat) : value (fixed w n) = n % 16 ^ w := by
  induction w generalizing n with
  | zero => rw [pow_zero, Nat.mod_one]; rfl
  | succ w ih =>
    have hdigit := idxOf_digit (n % 16) (Nat.mod_lt n (by decide))
    rw [fixed, value_append_singleton, hdigit, ih, pow_succ', Nat.mod_mul]

theorem fixed_injOn (hm : m < 16 ^ w) (hn : n < 16 ^ w) (h : fixed w m = fixed w n) : m = n := by
  have hvalue := congrArg value h
  rwa [value_fixed, value_fixed, Nat.mod_eq_of_lt hm, Nat.mod_eq_of_lt hn] at hvalue

/-! ## Order -/

/-- Texts of one length are compared at their ends if they agree before. -/
theorem append_singleton_lt_iff {cs ds : List Char} {c d : Char} (h : cs.length = ds.length) :
    cs ++ [c] < ds ++ [d] ↔ cs < ds ∨ cs = ds ∧ c < d := by
  induction cs generalizing ds with
  | nil =>
    obtain rfl : ds = [] := List.length_eq_zero_iff.mp h.symm
    simp [List.cons_lt_cons_iff]
  | cons a cs ih =>
    cases ds with
    | nil => cases h
    | cons b ds =>
      rw [List.cons_append, List.cons_append, List.cons_lt_cons_iff, List.cons_lt_cons_iff,
        ih (Nat.succ.inj h), List.cons.injEq]
      tauto

/-- With the same count of digits, the lesser number is the lesser text. -/
theorem fixed_lt_fixed_iff (hm : m < 16 ^ w) (hn : n < 16 ^ w) : fixed w m < fixed w n ↔ m < n := by
  induction w generalizing m n with
  | zero =>
    rw [pow_zero, Nat.lt_one_iff] at hm hn
    subst hm hn
    simp [fixed]
  | succ w ih =>
    have hm' : m / 16 < 16 ^ w := Nat.div_lt_of_lt_mul (by rwa [pow_succ'] at hm)
    have hn' : n / 16 < 16 ^ w := Nat.div_lt_of_lt_mul (by rwa [pow_succ'] at hn)
    have hsame : fixed w (m / 16) = fixed w (n / 16) ↔ m / 16 = n / 16 :=
      ⟨fixed_injOn hm' hn', congrArg (fixed w)⟩
    have hlast := digit_lt_digit_iff (m % 16) (Nat.mod_lt m (by decide)) (n % 16)
      (Nat.mod_lt n (by decide))
    rw [fixed, fixed, append_singleton_lt_iff (by rw [length_fixed, length_fixed]), ih hm' hn',
      hsame, hlast]
    omega

end CilRecovery.Text.Hex
