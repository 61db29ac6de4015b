import CilRecovery.Search.Scope

/-!
# Configuration of a classifier

How far calls are followed and whether uncertain rules take part.  A depth is only a wish: `reach`
grants it up to `maxHops`.

    c.reach succeeds ↔ c.depth ≤ maxHops          (reach_isOk_iff)
-/

namespace CilRecovery

/-- What a classifier is asked to do. -/
structure Config where
  depth : Nat
  allowUncertain : Bool
deriving DecidableEq

namespace Config

/-- Calls are followed as far as is allowed, and uncertain rules take part. -/
def standard : Config := ⟨maxHops, true⟩

def strict : Config := ⟨maxHops, false⟩

def reach (c : Config) : Except Error Reach := Reach.ofHops c.depth

theorem reach_isOk_iff (c : Config) : (∃ r, c.reach = .ok r) ↔ c.depth ≤ maxHops := by
  obtain ⟨depth, low⟩ := c
  match depth with
  | 0 => simp [reach, Reach.ofHops, maxHops]
  | 1 => simp [reach, Reach.ofHops, maxHops]
  | n + 2 => simp [reach, Reach.ofHops, maxHops]

end Config

end CilRecovery
