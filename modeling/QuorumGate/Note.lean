import QuorumGate.Text.Basic

/-!
# Log lines
-/

namespace QuorumGate

inductive Level where
  | info
  | warning
  | error
  deriving DecidableEq, Repr

/-- The part of the gate that speaks. -/
inductive Channel where
  | policies
  | ledger
  | execution
  | sweeper
  | transport
  | registry
  | deployment
  | surface
  deriving DecidableEq, Repr

structure Note where
  level : Level
  channel : Channel
  text : Text
  deriving DecidableEq, Repr

end QuorumGate
