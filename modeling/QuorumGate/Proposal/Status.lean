/-!
# Stages of a proposal

The closed sets of words that occur in a proposal, and the moves between stages: a pending
proposal is approved by its signatures, an approved one executed, and either can expire.
-/

namespace QuorumGate

inductive Network where
  | mainnet
  | testnet
  | futurenet
  deriving DecidableEq, Repr

namespace Network

def word : Network → String
  | mainnet => "mainnet"
  | testnet => "testnet"
  | futurenet => "futurenet"

def ofWord? : String → Option Network
  | "mainnet" => some mainnet
  | "testnet" => some testnet
  | "futurenet" => some futurenet
  | _ => none

@[simp] theorem ofWord?_word (n : Network) : ofWord? n.word = some n := by cases n <;> rfl

end Network

inductive Status where
  | pending
  | approved
  | executed
  | expired
  deriving DecidableEq, Repr

namespace Status

def word : Status → String
  | pending => "pending"
  | approved => "approved"
  | executed => "executed"
  | expired => "expired"

def ofWord? : String → Option Status
  | "pending" => some pending
  | "approved" => some approved
  | "executed" => some executed
  | "expired" => some expired
  | _ => none

@[simp] theorem ofWord?_word (s : Status) : ofWord? s.word = some s := by cases s <;> rfl

/-- A terminal stage is never left. -/
def isTerminal : Status → Bool
  | executed | expired => true
  | pending | approved => false

/-- The stages that can follow directly. -/
def successors : Status → List Status
  | pending => [approved, expired]
  | approved => [executed, expired]
  | executed | expired => []

/-- To stay is always allowed. -/
def canBecome (s t : Status) : Bool := s == t || s.successors.contains t

theorem canBecome_iff_of_isTerminal {s t : Status} (h : s.isTerminal = true) :
    s.canBecome t = true ↔ s = t := by
  revert h; cases s <;> cases t <;> simp [isTerminal, canBecome, successors]

end Status

/-- How the deployment of an executed proposal went. -/
inductive Outcome where
  | inFlight
  | succeeded
  | failed
  | indeterminate
  deriving DecidableEq, Repr

namespace Outcome

def word : Outcome → String
  | inFlight => "in_flight"
  | succeeded => "succeeded"
  | failed => "failed"
  | indeterminate => "indeterminate"

def ofWord? : String → Option Outcome
  | "in_flight" => some inFlight
  | "succeeded" => some succeeded
  | "failed" => some failed
  | "indeterminate" => some indeterminate
  | _ => none

@[simp] theorem ofWord?_word (o : Outcome) : ofWord? o.word = some o := by cases o <;> rfl

def isFailure : Outcome → Bool
  | failed | indeterminate => true
  | inFlight | succeeded => false

end Outcome

end QuorumGate
