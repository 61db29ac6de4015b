/-!
# Fragments of a text

    contains s f ↔ f is a contiguous part of s        (contains_iff)
-/

namespace CilRecovery.Text

/-- Whether `f` starts at some position of the characters, their end included. -/
def containsChars (f : List Char) : List Char → Bool
  | [] => f.isEmpty
  | c :: cs => f.isPrefixOf (c :: cs) || containsChars f cs

/-- Whether `fragment` occurs in `s`; the empty text occurs everywhere. -/
def contains (s fragment : String) : Bool := containsChars fragment.toList s.toList

theorem containsChars_iff {f cs : List Char} : containsChars f cs = true ↔ f <:+: cs := by
  induction cs with
  | nil => simp [containsChars, List.isEmpty_iff]
  | cons c cs ih => simp [containsChars, ih, List.infix_cons_iff]

/-- A fragment is a contiguous part. -/
theorem contains_iff {s fragment : String} :
    contains s fragment = true ↔ fragment.toList <:+: s.toList :=
  containsChars_iff

end CilRecovery.Text
