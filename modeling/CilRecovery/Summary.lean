import CilRecovery.Operation

/-!
# Summary of a batch

The outcome of every instruction of a batch, in order, and what can be counted of them.

    identified + unknown = length
    (op, n) ∈ counts ↔ n ≠ 0 outcomes are op         (mem_counts)
-/

namespace CilRecovery

/-- The operation found for each instruction of a batch, or none. -/
structure Summary where
  outcomes : List (Option Operation)
deriving DecidableEq

namespace Summary

def length (s : Summary) : Nat := s.outcomes.length

def isEmpty (s : Summary) : Bool := s.outcomes.isEmpty

/-- How many instructions were found to be `op`. -/
def count (s : Summary) (op : Operation) : Nat := s.outcomes.count (some op)

/-- The operations found, in the order of `Operation.all`, each with its count. -/
def counts (s : Summary) : List (Operation × Nat) :=
  (Operation.all.map fun op => (op, s.count op)).filter fun e => e.2 != 0

/-- How many instructions have an operation. -/
def identified (s : Summary) : Nat := s.counts.foldr (fun e total => e.2 + total) 0

def unknown (s : Summary) : Nat := s.length - s.identified

/-- The positions of the instructions without an operation, from a given start. -/
def unknownIndicesFrom (start : Nat) : List (Option Operation) → List Nat
  | [] => []
  | none :: rest => start :: unknownIndicesFrom (start + 1) rest
  | some _ :: rest => unknownIndicesFrom (start + 1) rest

/-- The positions of the instructions without an operation. -/
def unknownIndices (s : Summary) : List Nat := unknownIndicesFrom 0 s.outcomes

def render (s : Summary) : String :=
  toString s.length ++ " instructions, " ++ toString s.identified ++ " identified, " ++
    toString s.unknown ++ " unknown"

theorem mem_counts {s : Summary} {op : Operation} {n : Nat} :
    (op, n) ∈ s.counts ↔ n = s.count op ∧ n ≠ 0 := by
  simp only [counts, List.mem_filter, List.mem_map, Prod.mk.injEq, bne_iff_ne]
  constructor
  · rintro ⟨⟨o, -, rfl, rfl⟩, hn⟩
    exact ⟨rfl, hn⟩
  · rintro ⟨rfl, hn⟩
    exact ⟨⟨op, op.mem_all, rfl, rfl⟩, hn⟩

end Summary

end CilRecovery
