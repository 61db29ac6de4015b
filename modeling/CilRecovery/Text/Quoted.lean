import CilRecovery.Text.Extending
import CilRecovery.Text.Hex
import CilRecovery.Text.Unprintable

/-!
# Quoted text

Text between double quotes, in a form that can be printed on one line.  A backslash comes before a
quote and before a backslash; four control characters have short names; any other character that
cannot be seen, or that would fuse with its neighbour, is given by its number.

    quote s = "\"" ++ escapes of the characters of s ++ "\""
-/

namespace CilRecovery.Text.Quoted

/-- The number of a character between `\u` and braces, in lower-case hexadecimal digits. -/
def numbered (c : Char) : List Char :=
  ['\\', 'u', '\x7b'] ++ Hex.shortest c.toNat ++ ['\x7d']

/-- How one character is written between the quotes. -/
def escape (c : Char) : List Char :=
  if c = '"' then ['\\', '"']
  else if c = '\\' then ['\\', '\\']
  else if c = '\t' then ['\\', 't']
  else if c = '\n' then ['\\', 'n']
  else if c = '\r' then ['\\', 'r']
  else if c = '\x00' then ['\\', '0']
  else if Extending.holds c || Unprintable.holds c then numbered c
  else [c]

def quote (s : String) : String := String.ofList ('"' :: s.toList.flatMap escape ++ ['"'])

end CilRecovery.Text.Quoted
