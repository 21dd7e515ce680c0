import QuorumGate.Transport.Wire

/-!
# Sending again

A request that was interrupted, or answered with a status that asks for patience, is sent again
after a pause. Each pause is twice as long as the one before.
-/

namespace QuorumGate

/-- How often a request is sent again, the first pause, and the statuses that ask for patience. -/
structure Patience where
  retries : Int
  backoff : Number
  statuses : List Int

namespace Transport

def unavailableStatuses : List Int := [502, 503, 504]

def failurePrefix : String := "upstream communication failure"

/-- The answer that stands for a missing one. -/
def communicationFailure (reason : String) : Int × Json.Members :=
  (503, [("detail", .text s!"{failurePrefix}: {reason}")])

/-- Waits before the sending after the one numbered `k`, counted from zero. -/
def backOff (p : Patience) (k : Nat) : Transport Unit :=
  match p.backoff.scale? k with
  | some seconds => pause seconds
  | none => .fail .factorTooLarge

/-- Sends with the given number of sendings left; `k` have been made. -/
def sendWithin (p : Patience) (o : Outgoing) : Nat → Nat → Transport (Int × Json.Members)
  | 0, _ => pure (communicationFailure "exhausted retries")
  | left + 1, k => do
    let attempts := k + left + 1
    match ← Program.ask (Wire.send o) .done with
    | .response r =>
      if left ≠ 0 ∧ p.statuses.contains r.status then
        note .warning .transport
          ("retrying " ++ o.method ++ " " ++ o.url ++
            s!" after status {r.status} (attempt {k + 1}/{attempts})")
        backOff p k
        sendWithin p o left (k + 1)
      else .ofExcept (r.payload.map (r.status, ·))
    | .interrupted i =>
      if left = 0 then
        note .error .transport
          (o.method ++ " " ++ o.url ++ s!" failed after {attempts} attempts: {i.label}")
        return communicationFailure i.label
      else
        note .warning .transport
          ("retrying " ++ o.method ++ " " ++ o.url ++
            s!" after {i.label} (attempt {k + 1}/{attempts})")
        backOff p k
        sendWithin p o left (k + 1)
    | .broken label message => .fail (.foreign label message)
    | .silence => .fail .silence

/-- Sends a request, its method in upper case, with patience. -/
def send (p : Patience) (o : Outgoing) : Transport (Int × Json.Members) :=
  sendWithin p { o with method := o.method.upper } (p.retries + 1).toNat 0

end Transport

end QuorumGate
