/-!
# Identifiers from dotted names

The parts of a dotted name are capitalised and run together: `ldc.i4.s` becomes `LdcI4S`.
-/

namespace CilRecovery.Text

/-- Drops the dots and capitalises what follows one; `up` says whether the next letter is first. -/
def camelChars : Bool → List Char → List Char
  | _, [] => []
  | up, c :: cs =>
    if c = '.' then camelChars true cs else (if up then c.toUpper else c) :: camelChars false cs

/-- The identifier form of a dotted name. -/
def camel (s : String) : String := String.ofList (camelChars true s.toList)

end CilRecovery.Text
