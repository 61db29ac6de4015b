import CilRecovery.Proofs.Search.Sites
import CilRecovery.Proofs.Template.Offsets
import CilRecovery.Registry.Test

/-!
# Where matches lie

A match that does not end behind its body is a part of it: the body is what comes before, the
instructions of the match, and what comes behind, and exactly the positions inside of the window can
be captured.  All matches are of this kind, wherever they come from.  What a search gives is moreover
accepted by the template, and if it has a call site, it lies in the body of the method called there.

    a match that ends in its body lies in it                                     (liesIn_of_le)
    what a search finds is a window, in the body or in the callee at the call site
                                                                             (locates_of_find)
    all of this for every way to get a match                            (matches_lie_in_bodies)
-/

namespace CilRecovery

namespace Match

variable {w : Match} {body : Body} {t : Template}

/-- The match is a part of the body, and captures are made inside of it only. -/
structure LiesIn (w : Match) (body : Body) : Prop where
  body_eq : w.body = body
  le_length : w.offset + w.length ≤ body.length
  split : ∃ before behind, body = before ++ w.instructions ++ behind ∧
    before.length = w.offset ∧ w.instructions.length = w.length
  get_eq_ok_iff : ∀ index i, w.get index = .ok i ↔
    index < w.length ∧ body[w.offset + index]? = some i
  get_eq_error_iff : ∀ index e, w.get index = .error e ↔
    w.length ≤ index ∧ e = .malformed (.captureOutside index w.length)

/-- A window that does not end behind the body is a part of it. -/
theorem liesIn_of_le (hle : w.offset + w.length ≤ w.body.length) : w.LiesIn w.body := by
  have hlen : w.instructions.length = w.length := by
    unfold instructions
    rw [List.length_take, List.length_drop]
    omega
  refine ⟨rfl, hle, ⟨w.body.take w.offset, w.body.drop (w.offset + w.length), ?_, ?_, hlen⟩,
    fun index i => get_eq_ok_iff, fun index e => ?_⟩
  · unfold instructions
    rw [← List.drop_drop, List.append_assoc, List.take_append_drop, List.take_append_drop]
  · rw [List.length_take]
    omega
  · rw [get_eq_error_iff, hlen]

/-! ## Windows of a body itself -/

theorem liesIn_whole (body : Body) : (whole body).LiesIn body :=
  liesIn_of_le (Nat.zero_add body.length).le

theorem liesIn_head (body : Body) (n : Nat) : (head body n).LiesIn body := by
  refine liesIn_of_le ?_
  show 0 + min n body.length ≤ body.length
  omega

/-- The first window of a template is a part of the body that the template accepts. -/
theorem liesIn_of_first? (h : t.first? body = some w) :
    w.LiesIn body ∧ t.accepts (Body.opcodes w.instructions) = true ∧ w.callSite = none := by
  obtain ⟨i, hi, -, rfl⟩ := Template.first?_eq_some_iff.mp h
  obtain ⟨-, hle, haccepts⟩ := Template.mem_offsets.mp hi
  rw [Body.length_opcodes] at hle
  rw [← Body.opcodes_window] at haccepts
  exact ⟨liesIn_of_le hle, haccepts, rfl⟩

/-- A call site does not change what a match denotes. -/
theorem LiesIn.via (h : w.LiesIn body) (index : Nat) : (w.via index).LiesIn body := by
  obtain rfl := h.body_eq
  exact liesIn_of_le h.le_length

end Match

/-! ## Windows that are searched for -/

namespace Scope

variable {sc : Scope} {t : Template} {body : Body} {w : Match}

/-- The match is a window that the template accepts.  It lies in another body than the one searched
if it has a call site, and then in that of the method called there. -/
structure Locates (sc : Scope) (t : Template) (body : Body) (w : Match) : Prop where
  liesIn : w.LiesIn w.body
  accepts : t.accepts (Body.opcodes w.instructions) = true
  isIndirect_iff : w.isIndirect = true ↔ w.body ≠ body
  callee : ∀ index, w.callSite = some index → ∃ i m, body[index]? = some i ∧
    i.callee? = some m ∧ m.isDefinition = true ∧ sc.source m = .ok w.body

theorem locates_of_liesIn (hlies : w.LiesIn body)
    (haccepts : t.accepts (Body.opcodes w.instructions) = true) (hsite : w.callSite = none) :
    sc.Locates t body w := by
  obtain rfl := hlies.body_eq
  refine ⟨hlies, haccepts, ?_, ?_⟩
  · unfold Match.isIndirect
    rw [hsite]
    simp
  · intro index hindex
    rw [hsite] at hindex
    cases hindex

/-- **What a search finds.** -/
theorem locates_of_find (h : (sc.find t body).result = .ok (some w)) : sc.Locates t body w := by
  rcases find_eq_some_iff.mp h with hfirst | ⟨hnone, -, index, m, b, w', hm, hb, hw', rfl, -⟩
  · obtain ⟨hlies, haccepts, hsite⟩ := Match.liesIn_of_first? hfirst
    exact locates_of_liesIn hlies haccepts hsite
  · obtain ⟨hlies, haccepts, -⟩ := Match.liesIn_of_first? hw'
    obtain rfl := hlies.body_eq
    -- a callee with the searched body would have no window either
    have hother : w'.body ≠ body := by
      intro heq
      rw [heq, hnone] at hw'
      cases hw'
    obtain ⟨i, hi, hcallee⟩ := Body.calleeAt_eq_some_iff.mp hm
    refine ⟨hlies.via index, haccepts, iff_of_true rfl hother, ?_⟩
    rintro _ ⟨⟩
    exact ⟨i, m, hi, hcallee, (Instruction.callee?_eq_some.mp hcallee).2, hb⟩

end Scope

/-- The captures of a candidate are windows of its handler or, for a search, of a helper of it. -/
theorem Capture.locates_of_find {c : Candidate} {capture : Capture} {t : Template} {w : Match}
    (h : (capture.find c t).result = .ok (some w)) :
    c.scope.Locates t c.body w ∧ (capture ≠ .reached → w.LiesIn c.body) := by
  cases capture with
  | reached => exact ⟨Scope.locates_of_find h, fun hne => absurd rfl hne⟩
  | first =>
    obtain ⟨hlies, haccepts, hsite⟩ := Match.liesIn_of_first? (Except.ok.inj h)
    exact ⟨Scope.locates_of_liesIn hlies haccepts hsite, fun _ => hlies⟩
  | entire =>
    simp only [find, Traced.result_pure, Except.ok.injEq, Option.ite_none_right_eq_some,
      Option.some.injEq] at h
    obtain ⟨haccepts, rfl⟩ := h
    have hlies := Match.liesIn_whole c.body
    refine ⟨Scope.locates_of_liesIn hlies ?_ rfl, fun _ => hlies⟩
    show t.accepts (Body.opcodes ((c.body.drop 0).take c.body.length)) = true
    rw [List.drop_zero, List.take_length]
    exact haccepts
  | head =>
    simp only [find, Traced.result_pure, Except.ok.injEq, Option.ite_none_right_eq_some,
      Option.some.injEq] at h
    obtain ⟨hat, rfl⟩ := h
    have hlies := Match.liesIn_head c.body t.length
    refine ⟨Scope.locates_of_liesIn hlies ?_ rfl, fun _ => hlies⟩
    obtain ⟨-, hle, haccepts⟩ := Template.mem_offsets.mp (Template.isAt_head_iff.mp hat)
    have hmin : min t.length c.body.length = t.length := by
      rw [Candidate.opcodes, Body.length_opcodes] at hle
      omega
    show t.accepts (Body.opcodes ((c.body.drop 0).take (min t.length c.body.length))) = true
    rw [hmin, Body.opcodes_window]
    exact haccepts

/-- **Where matches lie.**  The whole of a body, its head of any length, and the first window of a
template in it are parts of the body, and so are the captures of a candidate that follow no call.
What a search finds is a part of the body searched or, if it has a call site, of the body of the
method of the binary that is called there.  All that is found for a template is accepted by it. -/
theorem matches_lie_in_bodies (sc : Scope) (t : Template) (body : Body) :
    (Match.whole body).LiesIn body ∧
    (∀ n, (Match.head body n).LiesIn body) ∧
    (∀ w, t.first? body = some w →
      w.LiesIn body ∧ t.accepts (Body.opcodes w.instructions) = true ∧ w.callSite = none) ∧
    (∀ w, (sc.find t body).result = .ok (some w) → sc.Locates t body w) ∧
    ∀ (c : Candidate) (capture : Capture) w, (capture.find c t).result = .ok (some w) →
      c.scope.Locates t c.body w ∧ (capture ≠ .reached → w.LiesIn c.body) :=
  ⟨Match.liesIn_whole body, Match.liesIn_head body, fun _ => Match.liesIn_of_first?,
    fun _ => Scope.locates_of_find, fun _ _ _ => Capture.locates_of_find⟩

/-- A handler that leaves its work to a helper. -/
def forwarding : VirtualInstruction :=
  ⟨[⟨.call, .method ⟨⟨0x06000001⟩, "Vm::Xor", "System.Void"⟩⟩, .ofOpcode .ret],
   ⟨⟨0x04000001⟩, ⟨0x04000002⟩⟩, .none⟩

/-- The window lies in the helper, one instruction behind its beginning; it has two instructions, so a
third is not captured.  The head of the handler is no longer than the handler. -/
theorem matches_lie_in_bodies_forwarding :
    let t := Template.exact [.xor, .ret]
    let helper : Body := [.ofOpcode .nop, .ofOpcode .xor, .ofOpcode .ret]
    let sc := Scope.widest (BodyStore.ofList [(⟨0x06000001⟩, helper)]).source
    let w : Match := ⟨helper, 1, 2, some 0⟩
    (sc.find t forwarding.body).result = .ok (some w) ∧ w.LiesIn helper ∧
    helper ≠ forwarding.body ∧ w.get 1 = .ok (.ofOpcode .ret) ∧
    w.get 2 = .error (.malformed (.captureOutside 2 2)) ∧
    (Match.mk helper 1 2 none).LiesIn helper ∧
    (Match.mk forwarding.body 0 1 none).LiesIn forwarding.body ∧
    (Match.head forwarding.body 9).LiesIn forwarding.body := by
  intro t helper sc w
  have hfind : (sc.find t forwarding.body).result = .ok (some w) := rfl
  obtain ⟨-, hhead, -, hsearch, -⟩ := matches_lie_in_bodies sc t forwarding.body
  obtain ⟨-, -, hfirst, -, -⟩ := matches_lie_in_bodies sc t helper
  obtain ⟨-, -, -, -, hcapture⟩ := matches_lie_in_bodies sc (.exact [.call]) forwarding.body
  have hw := hsearch w hfind
  exact ⟨hfind, hw.liesIn, hw.isIndirect_iff.mp rfl,
    (hw.liesIn.get_eq_ok_iff 1 _).mpr ⟨by decide, rfl⟩,
    (hw.liesIn.get_eq_error_iff 2 _).mpr ⟨by decide, rfl⟩, (hfirst _ rfl).1,
    (hcapture ⟨forwarding, sc⟩ .head _ rfl).2 (by decide), hhead 9⟩

end CilRecovery
