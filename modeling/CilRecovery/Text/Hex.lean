/-!
# Lower-case hexadecimal digits

Two spellings of a number: `fixed w n` always has `w` digits (`length_fixed`), the lowest ones of
`n` with the highest first; `shortest n` has just as many digits as `n` needs.
-/

namespace CilRecovery.Text.Hex

/-- The digit that stands for `d`, for `d < 16`. -/
def digit (d : Nat) : Char := if d < 10 then Char.ofNat (48 + d) else Char.ofNat (87 + d)

/-- The lowest `w` digits of `n`, highest first; leading zeros are kept. -/
def fixed : Nat → Nat → List Char
  | 0, _ => []
  | w + 1, n => fixed w (n / 16) ++ [digit (n % 16)]

/-- How many digits `n` needs; zero needs one. -/
def width (n : Nat) : Nat := n.log2 / 4 + 1

/-- `n` without leading zeros. -/
def shortest (n : Nat) : List Char := fixed (width n) n

@[simp] theorem length_fixed (w n : Nat) : (fixed w n).length = w := by
  induction w generalizing n with
  | zero => rfl
  | succ w ih => simp [fixed, ih]

example : shortest 0xa0 = ['a', '0'] ∧ shortest 0 = ['0'] ∧ fixed 4 0xa0 = ['0', '0', 'a', '0'] := by
  decide

end CilRecovery.Text.Hex
