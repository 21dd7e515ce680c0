import QuorumGate.Rejection

/-!
# Evaluation of a proposal

The stage of a proposal follows from its policy, its signatures and the time, so that it can be
told at any moment without a timer.
-/

namespace QuorumGate

namespace Proposal

/-- The last moment of the window still belongs to it. -/
def isExpired (p : Proposal) (now : Instant) : Except TimeFault Bool :=
  match p.expiresAt with
  | none => .ok false
  | some t => now.isAfter t

/-- What an open proposal is by its signatures alone. -/
def quorumStatus (policy : Policy) (p : Proposal) : Status :=
  if policy.threshold ≤ p.signatures.length then .approved else .pending

def evaluate (policy : Policy) (p : Proposal) (now : Instant) : Except TimeFault Status :=
  if p.status.isTerminal then .ok p.status
  else
    (p.isExpired now).map fun expired => if expired then .expired else p.quorumStatus policy

/-- The proposal as it is at a given time. -/
def viewAt (policy : Policy) (p : Proposal) (now : Instant) : Except TimeFault Proposal :=
  (p.evaluate policy now).map p.withStatus

def remaining (policy : Policy) (p : Proposal) : Int :=
  max (policy.threshold - p.signatures.length) 0

/-- The signers whose signature is missing, in the order of the policy. -/
def pendingSigners (policy : Policy) (p : Proposal) : List Text :=
  policy.signers.filter fun s => !p.hasSigned s

end Proposal

/-- Refuses a move that the stages do not allow. -/
def Status.checkMove (current target : Status) (proposal : Text) : Except Rejection Unit :=
  if current.canBecome target then .ok () else .error (.noSuchMove proposal current target)

end QuorumGate
