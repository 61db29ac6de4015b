import CilRecovery.Body.Store
import Mathlib.Data.Finset.Card
import Mathlib.Data.Finset.Dedup

/-!
# Stores and their history

A store takes requests one after the other: bodies are put into it, and it is asked what it holds.
What it answers is settled by its *history*, the requests before, and of these by the insertions
alone.  Under each token it holds the body inserted last; the order of insertions under different
tokens, and the questions in between, leave no trace.

    (ofList entries).get? t = the last body under t in the entries             (get?_ofList)
    (ofList entries).after requests = ofList (entries ++ insertions requests)      (after_ofList)
    the answer to a request is told by the insertions before it              (getElem?_answers)
    all of this for a store that begins empty                               (answers_by_history)
-/

namespace CilRecovery

namespace BodyStore

/-! ## Requests -/

/-- What a store can be asked. -/
inductive Request where
  | insert (t : Token) (b : Body)
  | contains (t : Token)
  | size
  | isEmpty
  | decode (m : MethodRef)
deriving DecidableEq

inductive Answer where
  /-- Something was inserted; there is nothing to say. -/
  | done
  | truth (b : Bool)
  | number (n : Nat)
  | decoded (result : Except Error Body)

/-- What the store answers, and the store after that. -/
def step (s : BodyStore) : Request → Answer × BodyStore
  | .insert t b => (.done, s.insert t b)
  | .contains t => (.truth (s.contains t), s)
  | .size => (.number s.size, s)
  | .isEmpty => (.truth s.isEmpty, s)
  | .decode m => (.decoded (s.source m), s)

/-- The store after the requests. -/
def after (s : BodyStore) (requests : List Request) : BodyStore :=
  requests.foldl (fun s r => (s.step r).2) s

/-- The answers to the requests, in order. -/
def answers (s : BodyStore) : List Request → List Answer
  | [] => []
  | r :: rest => (s.step r).1 :: answers (s.step r).2 rest

/-! ## What a history tells -/

/-- The entry that the request puts into the store, if any. -/
def Request.entry? : Request → Option (Token × Body)
  | .insert t b => some (t, b)
  | _ => none

/-- The entries that the requests put into a store, in order. -/
def insertions (requests : List Request) : List (Token × Body) := requests.filterMap Request.entry?

/-- The bodies inserted under a token, in order. -/
def under (t : Token) (entries : List (Token × Body)) : List Body :=
  (entries.filter fun e => e.1 == t).map Prod.snd

/-- The body inserted last under the token of a method. -/
def expectedBody (entries : List (Token × Body)) (m : MethodRef) : Except Error Body :=
  match (under m.token entries).getLast? with
  | some b => .ok b
  | none => .error (.bodyUnavailable m.token ("no decoded body for " ++ m.fullName))

/-- What the insertions before a request call for. -/
def expected (entries : List (Token × Body)) : Request → Answer
  | .insert _ _ => .done
  | .contains t => .truth (decide (t ∈ entries.map Prod.fst))
  | .size => .number (entries.map Prod.fst).toFinset.card
  | .isEmpty => .truth entries.isEmpty
  | .decode m => .decoded (expectedBody entries m)

variable {s : BodyStore} {t : Token} {b : Body} {entries entries' : List (Token × Body)}

theorem insertions_append (requests more : List Request) :
    insertions (requests ++ more) = insertions requests ++ insertions more :=
  List.filterMap_append

theorem under_append : under t (entries ++ entries') = under t entries ++ under t entries' := by
  unfold under
  rw [List.filter_append, List.map_append]

theorem under_eq_nil_iff : under t entries = [] ↔ t ∉ entries.map Prod.fst := by
  unfold under
  rw [List.map_eq_nil_iff, List.filter_eq_nil_iff, List.mem_map]
  simp only [beq_iff_eq, not_exists, not_and]

theorem isEmpty_iff_card :
    entries.isEmpty = true ↔ (entries.map Prod.fst).toFinset.card = 0 := by
  rw [List.isEmpty_iff, Finset.card_eq_zero, List.toFinset_eq_empty_iff, List.map_eq_nil_iff]

/-! ## The store of some insertions -/

theorem ofList_append_singleton (e : Token × Body) :
    ofList (entries ++ [e]) = (ofList entries).insert e.1 e.2 := by
  unfold ofList
  rw [List.foldl_append]
  rfl

/-- Under each token stands what was inserted last. -/
theorem get?_ofList : (ofList entries).get? t = (under t entries).getLast? := by
  induction entries using List.reverseRecOn with
  | nil => rfl
  | append_singleton entries e ih =>
    rw [ofList_append_singleton, get?_insert, under_append]
    by_cases h : t = e.1
    · have hunder : under t [e] = [e.2] := by simp [under, h]
      rw [if_pos h, hunder, List.getLast?_concat]
    · have hunder : under t [e] = [] := under_eq_nil_iff.mpr (by simpa using h)
      rw [if_neg h, hunder, List.append_nil, ih]

theorem contains_iff_mem : s.contains t = true ↔ t ∈ s.entries.map Prod.fst := by
  unfold contains get?
  rw [Option.isSome_iff_ne_none, ne_eq, List.lookup_eq_none_iff, List.mem_map]
  simp only [not_forall, bne_iff_ne, ne_eq, not_not, exists_prop]
  simp only [eq_comm]

theorem contains_ofList_iff :
    (ofList entries).contains t = true ↔ t ∈ entries.map Prod.fst := by
  unfold contains
  rw [get?_ofList, Option.isSome_iff_ne_none, ne_eq, List.getLast?_eq_none_iff, under_eq_nil_iff,
    not_not]

theorem size_ofList : (ofList entries).size = (entries.map Prod.fst).toFinset.card := by
  have hkeys : ((ofList entries).entries.map Prod.fst).toFinset =
      (entries.map Prod.fst).toFinset := by
    ext t
    rw [List.mem_toFinset, List.mem_toFinset, ← contains_iff_mem, contains_ofList_iff]
  rw [← hkeys, List.toFinset_card_of_nodup (ofList entries).nodup, List.length_map]
  rfl

theorem isEmpty_ofList : (ofList entries).isEmpty = entries.isEmpty := by
  have hsize : (ofList entries).entries.length = (entries.map Prod.fst).toFinset.card := size_ofList
  unfold isEmpty
  rw [Bool.eq_iff_iff, List.isEmpty_iff, ← List.length_eq_zero_iff, hsize, isEmpty_iff_card]

/-! ## Runs -/

/-- What a store answers is told by what was inserted. -/
theorem answer_ofList (r : Request) : ((ofList entries).step r).1 = expected entries r := by
  cases r with
  | insert t b => rfl
  | contains t =>
    refine congrArg Answer.truth ?_
    rw [Bool.eq_iff_iff, contains_ofList_iff, decide_eq_true_iff]
  | size => exact congrArg Answer.number size_ofList
  | isEmpty => exact congrArg Answer.truth isEmpty_ofList
  | decode m =>
    refine congrArg Answer.decoded ?_
    unfold source expectedBody
    cases h : (under m.token entries).getLast? with
    | some b => rw [get?_ofList, h]
    | none => rw [get?_ofList, h]

theorem step_of_query {q : Request} (h : q.entry? = none) : (s.step q).2 = s := by
  cases q with
  | insert t b => cases h
  | contains t => rfl
  | size => rfl
  | isEmpty => rfl
  | decode m => rfl

theorem step_ofList (r : Request) :
    ((ofList entries).step r).2 = ofList (entries ++ insertions [r]) := by
  cases h : r.entry? with
  | none =>
    have hnone : insertions [r] = [] := List.filterMap_cons_none h
    rw [step_of_query h, hnone, List.append_nil]
  | some e =>
    cases r with
    | insert t b => exact (ofList_append_singleton (t, b)).symm
    | contains t => cases h
    | size => cases h
    | isEmpty => cases h
    | decode m => cases h

theorem after_ofList (requests : List Request) :
    (ofList entries).after requests = ofList (entries ++ insertions requests) := by
  induction requests generalizing entries with
  | nil => exact congrArg ofList (List.append_nil _).symm
  | cons r rest ih =>
    have hcons : insertions (r :: rest) = insertions [r] ++ insertions rest :=
      insertions_append [r] rest
    rw [hcons, ← List.append_assoc, ← ih, ← step_ofList]
    rfl

/-- **Each answer of a run.**  It is told by the insertions before it. -/
theorem getElem?_answers (requests : List Request) (i : Nat) :
    ((ofList entries).answers requests)[i]? =
      requests[i]?.map (expected (entries ++ insertions (requests.take i))) := by
  induction requests generalizing entries i with
  | nil => rfl
  | cons r rest ih =>
    cases i with
    | zero =>
      have hbefore : entries ++ insertions ((r :: rest).take 0) = entries := List.append_nil _
      rw [hbefore]
      exact congrArg some (answer_ofList r)
    | succ i =>
      have hcons : insertions (r :: rest.take i) = insertions [r] ++ insertions (rest.take i) :=
        insertions_append [r] (rest.take i)
      rw [List.getElem?_cons_succ, List.take_succ_cons, hcons, ← List.append_assoc, ← ih,
        ← step_ofList]
      rfl

/-! ## Other orders -/

/-- Whether under each token the same bodies are inserted in the same order.  The insertions under
different tokens may come in any order. -/
def SameUnderEach (entries entries' : List (Token × Body)) : Prop :=
  ∀ t, under t entries = under t entries'

theorem SameUnderEach.append (h : SameUnderEach entries entries') (more : List (Token × Body)) :
    SameUnderEach (entries ++ more) (entries' ++ more) := by
  intro t
  rw [under_append, under_append, h t]

/-- Two insertions one after the other change places, if they are under different tokens. -/
theorem sameUnderEach_swap {e e' : Token × Body} (hne : e.1 ≠ e'.1) :
    SameUnderEach (entries ++ e :: e' :: entries') (entries ++ e' :: e :: entries') := by
  intro t
  have hsplit (e e' : Token × Body) : under t (e :: e' :: entries') =
      under t [e] ++ (under t [e'] ++ under t entries') := by
    rw [← under_append, ← under_append]
    rfl
  rw [under_append, under_append, hsplit e e', hsplit e' e]
  by_cases h : t = e.1
  · have hunder : under t [e'] = [] := under_eq_nil_iff.mpr (by simpa [h] using hne)
    rw [hunder, List.nil_append, List.nil_append]
  · have hunder : under t [e] = [] := under_eq_nil_iff.mpr (by simpa using h)
    rw [hunder, List.nil_append, List.nil_append]

theorem SameUnderEach.mem_iff (h : SameUnderEach entries entries') :
    t ∈ entries.map Prod.fst ↔ t ∈ entries'.map Prod.fst := by
  rw [← not_iff_not, ← under_eq_nil_iff, ← under_eq_nil_iff, h t]

theorem SameUnderEach.expected_eq (h : SameUnderEach entries entries') (r : Request) :
    expected entries r = expected entries' r := by
  have htokens : (entries.map Prod.fst).toFinset = (entries'.map Prod.fst).toFinset := by
    ext t
    rw [List.mem_toFinset, List.mem_toFinset, h.mem_iff]
  cases r with
  | insert t b => rfl
  | contains t => exact congrArg Answer.truth (decide_eq_decide.mpr h.mem_iff)
  | size => exact congrArg (fun tokens : Finset Token => Answer.number tokens.card) htokens
  | isEmpty =>
    refine congrArg Answer.truth ?_
    rw [Bool.eq_iff_iff, isEmpty_iff_card, isEmpty_iff_card, htokens]
  | decode m =>
    refine congrArg Answer.decoded ?_
    unfold expectedBody
    rw [h m.token]

theorem SameUnderEach.answers_eq (h : SameUnderEach entries entries') (requests : List Request) :
    (ofList entries).answers requests = (ofList entries').answers requests := by
  refine List.ext_getElem? fun i => ?_
  rw [getElem?_answers, getElem?_answers]
  exact congrArg (requests[i]?.map ·) (funext (h.append _).expected_eq)

end BodyStore

open BodyStore

/-- **The last insertion counts.**  Over any run of a store that begins empty, every answer is the one
that the insertions before call for.  A store contains a token if, and only if, it can decode each
method with that token.  A question changes no later answer, and neither does the order of
insertions under different tokens. -/
theorem answers_by_history (history : List Request) :
    let s := empty.after history
    (∀ i : Nat, (empty.answers history)[i]? =
      history[i]?.map (expected (insertions (history.take i)))) ∧
    (∀ m : MethodRef, (s.step (.contains m.token)).1 = .truth true ↔
      ∃ b, (s.step (.decode m)).1 = .decoded (.ok b)) ∧
    (∀ q later, q.entry? = none → (s.step q).2.answers later = s.answers later) ∧
    ∀ history', SameUnderEach (insertions history) (insertions history') →
      ∀ later, s.answers later = (empty.after history').answers later := by
  intro s
  have hstore (requests : List Request) : empty.after requests = ofList (insertions requests) :=
    @after_ofList [] requests
  refine ⟨@getElem?_answers [] history, fun m => ?_, fun q later hq => ?_, ?_⟩
  · show Answer.truth (s.get? m.token).isSome = .truth true ↔
      ∃ b, Answer.decoded (s.source m) = .decoded (.ok b)
    simp only [Answer.truth.injEq, Answer.decoded.injEq, source_eq_ok, Option.isSome_iff_exists]
  · rw [step_of_query hq]
  · intro history' hsame later
    show (empty.after history).answers later = _
    rw [hstore, hstore, hsame.answers_eq]

/-- Two bodies under one token with another token in between, and the same bodies token by token. -/
theorem answers_by_history_twoTokens :
    let short : Body := [.ofOpcode .ret]
    let long : Body := [.ofOpcode .nop, .ofOpcode .ret]
    let method : MethodRef := ⟨⟨0x06000001⟩, "Vm::Load", "System.Void"⟩
    let other : Token := ⟨0x06000002⟩
    let history : List Request :=
      [.decode method, .insert method.token short, .insert other short, .size,
       .insert method.token long, .decode method]
    let reordered : List Request :=
      [.insert method.token short, .insert method.token long, .insert other short]
    (empty.answers history)[0]? =
      some (.decoded (.error (.bodyUnavailable method.token "no decoded body for Vm::Load"))) ∧
    (empty.answers history)[3]? = some (.number 2) ∧
    (empty.answers history)[5]? = some (.decoded (.ok long)) ∧
    (∀ later, ((empty.after history).step (.contains other)).2.answers later =
      (empty.after history).answers later) ∧
    SameUnderEach (insertions history) (insertions reordered) ∧
    ∀ later, (empty.after history).answers later = (empty.after reordered).answers later := by
  intro short long method other history reordered
  have hsame : SameUnderEach (insertions history) (insertions reordered) :=
    @sameUnderEach_swap [(method.token, short)] [] (other, short) (method.token, long) (by decide)
  obtain ⟨hanswers, -, hquestion, horder⟩ := answers_by_history history
  exact ⟨hanswers 0, hanswers 3, hanswers 5, fun later => hquestion (.contains other) later rfl,
    hsame, horder reordered hsame⟩

end CilRecovery
