import CilRecovery.Text.Fragment
import Mathlib.Data.List.Infix

/-!
# Texts with separators

Parts are joined into one text with a separator between each two of them.  The text falls into the
same parts again if the separator is found, behind each part, not before the end of the part.

    parts sep (sep.intercalate ps) = ps, for ps ≠ []                     (parts_intercalate)
    a part without `, ` in it ends where `, ` is found                      (endsAt_commaSpace)
    a ++ (sep ++ u) = b ++ (sep ++ v) → a = b ∧ u = v,
      if the first character of sep is neither in a nor in b             (append_separator_inj)
-/

namespace CilRecovery.Text

/-- The parts of a text between the places where a separator stands. -/
def parts (sep s : String) : List String := (s.split sep).toList.map (·.copy)

/-- Behind the part, the separator is first found where the part ends. -/
def EndsAt (sep part : String) : Prop :=
  ∀ u v : List Char, part.toList ++ sep.toList = u ++ sep.toList ++ v → v = []

variable {sep part : String}

/-! ## The search for a separator -/

section
open String.Slice.Pattern.Model

variable {s : String.Slice} {pos stop q : s.Pos} {before behind : String}

/-- The separator behind a part is not found before. -/
theorem EndsAt.not_matchesAt (h : EndsAt sep part)
    (hpos : pos.Splits before (part ++ (sep ++ behind)))
    (hstop : stop.Splits (before ++ part) (sep ++ behind)) (hle : pos ≤ q) (hlt : q < stop) :
    ¬ MatchesAt sep q := by
  rw [ForwardStringSearcher.matchesAt_iff_splits]
  rintro ⟨left, right, hq⟩
  obtain ⟨skipped, hleft, -⟩ := (hpos.le_iff_exists_eq_append hq).mp hle
  obtain ⟨remaining, hne, hpart, hright⟩ := (hq.lt_iff_exists_eq_append hstop).mp hlt
  have hsplit : part.toList = skipped.toList ++ remaining.toList := by
    rw [hleft, String.append_assoc] at hpart
    simpa using congrArg String.toList hpart
  have hfound : sep.toList ++ right.toList = remaining.toList ++ sep.toList ++ behind.toList := by
    simpa using congrArg String.toList hright
  -- what is found there lies within the rest of the part and the separator behind it
  obtain ⟨v, hv⟩ : sep.toList <+: remaining.toList ++ sep.toList :=
    List.prefix_of_prefix_length_le ⟨_, hfound⟩ ⟨_, rfl⟩ (by simp)
  have hnil : v = [] := by
    apply h skipped.toList v
    rw [hsplit, List.append_assoc, ← hv, List.append_assoc]
  have hlength := congrArg List.length hv
  rw [hnil] at hlength
  apply hne
  simpa using hlength

/-- No separator is found in the last part. -/
theorem EndsAt.not_matchesAt_last (h : EndsAt sep part) (hsep : sep ≠ "")
    (hpos : pos.Splits before part) (hle : pos ≤ q) : ¬ MatchesAt sep q := by
  rw [ForwardStringSearcher.matchesAt_iff_splits]
  rintro ⟨left, right, hq⟩
  obtain ⟨skipped, -, hpart⟩ := (hpos.le_iff_exists_eq_append hq).mp hle
  have hnil : right.toList ++ sep.toList = [] := by
    apply h skipped.toList
    rw [hpart]
    simp
  apply hsep
  simpa using (List.append_eq_nil_iff.mp hnil).2

theorem copy_subslice (hpos : pos.Splits before (part ++ behind))
    (hstop : stop.Splits (before ++ part) behind) (hle : pos ≤ stop) :
    (s.subslice pos stop hle).copy = part := by
  obtain ⟨_, hcopy⟩ := String.Slice.copy_slice_eq_iff_splits.mpr ⟨before, behind, hpos, hstop⟩
  simpa using hcopy

/-- The search goes from the front of a part to the front of the next one. -/
theorem modelSplit_of_splits [StrictPatternModel sep] (hsep : sep ≠ "") {rest : List String}
    (hends : ∀ p ∈ part :: rest, EndsAt sep p)
    (hpos : pos.Splits before (sep.intercalate (part :: rest))) :
    (String.Slice.Pattern.Model.split sep pos pos (Std.le_refl _)).map (·.copy) = part :: rest := by
  have hpart : EndsAt sep part := hends part List.mem_cons_self
  induction rest generalizing part pos before with
  | nil =>
    rw [String.intercalate_singleton] at hpos
    have hend : s.endPos.Splits (before ++ part) "" := by
      rw [← hpos.eq_append]
      exact s.splits_endPos
    have hfree : ∀ q, pos ≤ q → q < s.endPos → ¬ MatchesAt sep q :=
      fun q hle _ => hpart.not_matchesAt_last hsep hpos hle
    rw [split_eq_of_not_matchesAt s.endPos pos.le_endPos hfree, split_endPos, List.map_singleton,
      copy_subslice (by simpa using hpos) hend]
  | cons next rest ih =>
    rw [String.intercalate_cons_cons, String.append_assoc] at hpos
    have hstop := hpos.splits_rotateRight
    have hnext := hstop.splits_rotateRight
    have hle : pos ≤ hpos.rotateRight := (hpos.le_iff_exists_eq_append hstop).mpr ⟨part, rfl, rfl⟩
    have hmatch : IsLongestMatchAt sep hpos.rotateRight hstop.rotateRight :=
      ForwardStringSearcher.isLongestMatchAt_iff_splits.mpr ⟨_, _, hstop, hnext⟩
    have hfree : ∀ q, pos ≤ q → q < hpos.rotateRight → ¬ MatchesAt sep q :=
      fun q hle hlt => hpart.not_matchesAt hpos hstop hle hlt
    have hrest : ∀ p ∈ next :: rest, EndsAt sep p := fun p hp => hends p (List.mem_cons_of_mem _ hp)
    rw [split_eq_of_not_matchesAt hpos.rotateRight hle hfree, split_eq_of_isLongestMatchAt hmatch,
      List.map_cons, copy_subslice hpos hstop, ih hrest hnext (hrest next List.mem_cons_self)]

end

/-! ## Joining and falling apart -/

theorem parts_intercalate {ps : List String} (hsep : sep ≠ "") (hne : ps ≠ [])
    (hends : ∀ p ∈ ps, EndsAt sep p) : parts sep (sep.intercalate ps) = ps := by
  have _ := String.Slice.Pattern.Model.ForwardStringSearcher.strictPatternModel hsep
  have _ := String.Slice.Pattern.Model.ForwardStringSearcher.lawfulToForwardSearcherModel hsep
  obtain ⟨part, rest, rfl⟩ := List.exists_cons_of_ne_nil hne
  have hstart := (sep.intercalate (part :: rest)).toSlice.splits_startPos
  rw [String.copy_toSlice] at hstart
  unfold parts
  rw [String.split_eq_split_toSlice, String.Slice.toList_split_eq_splitToSubslice,
    String.Slice.Pattern.toList_splitToSubslice_eq_modelSplit, List.map_map]
  exact modelSplit_of_splits hsep hends hstart

/-- Within a part and the `, ` behind it there is one `, `, if there is none in the part. -/
theorem endsAt_commaSpace (h : contains part ", " = false) : EndsAt ", " part := by
  intro u v heq
  have hnone : ¬ [',', ' '] <:+: part.toList := by
    rw [← Bool.not_eq_true, contains_iff] at h
    exact h
  have hends : (part.toList ++ [',']) ++ [' '] = u ++ [',', ' '] ++ v := by
    rw [List.append_assoc]
    exact heq
  -- otherwise what is behind `u` and its separator ends in a comma and a space of its own
  rcases v.eq_nil_or_concat' with hnil | ⟨v', c, rfl⟩
  · exact hnil
  · rw [← List.append_assoc] at hends
    obtain ⟨hcomma, -⟩ := List.append_inj' hends rfl
    exfalso
    rcases v'.eq_nil_or_concat' with rfl | ⟨v'', d, rfl⟩
    · have hlast : (part.toList ++ [',']) = (u ++ [',']) ++ [' '] := by simpa using hcomma
      obtain ⟨-, hchar⟩ := List.append_inj' hlast rfl
      simp at hchar
    · rw [← List.append_assoc] at hcomma
      obtain ⟨hpart, -⟩ := List.append_inj' hcomma rfl
      exact hnone ⟨u, v'', hpart.symm⟩

theorem contains_eq_false_of_notMem {s fragment : String} {c : Char} (hc : c ∈ fragment.toList)
    (hs : c ∉ s.toList) : contains s fragment = false := by
  rw [← Bool.not_eq_true, contains_iff]
  exact fun h => hs (h.subset hc)

/-! ## The first separator -/

theorem append_separator_inj {a b u v : String} {c : Char} (hsep : sep.toList.head? = some c)
    (ha : c ∉ a.toList) (hb : c ∉ b.toList) (h : a ++ (sep ++ u) = b ++ (sep ++ v)) :
    a = b ∧ u = v := by
  obtain ⟨cs, hcs⟩ := List.head?_eq_some_iff.mp hsep
  have hlists : a.toList ++ c :: (cs ++ u.toList) = b.toList ++ c :: (cs ++ v.toList) := by
    simpa [hcs] using congrArg String.toList h
  have hread : ∀ (s : List Char) r, c ∉ s → (s ++ c :: r).takeWhile (· != c) = s := by
    intro s r hs
    have hall : ∀ d ∈ s, (d != c) = true := fun d hd => bne_iff_ne.mpr fun heq => hs (heq ▸ hd)
    rw [List.takeWhile_append_of_pos hall, List.takeWhile_cons_of_neg (by simp), List.append_nil]
  have hab : a = b := by
    rw [← String.toList_inj, ← hread _ (cs ++ u.toList) ha, hlists, hread _ _ hb]
  subst hab
  exact ⟨rfl, (String.append_right_inj sep).mp ((String.append_right_inj a).mp h)⟩

theorem space_notMem_toString (n : Nat) : ' ' ∉ (toString n).toList := by
  intro hmem
  have hdigits : ' ' ∈ Nat.toDigits 10 n := by simpa using hmem
  have hdigit : (' ' : Char).isDigit = true :=
    Nat.isDigit_of_mem_toDigits (by decide) (by decide) hdigits
  cases hdigit

end CilRecovery.Text
