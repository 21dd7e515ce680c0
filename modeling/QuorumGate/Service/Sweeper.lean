import QuorumGate.Service.Ledger

/-!
# The sweeper

Writes down the expiry of idle proposals. It only keeps listings accurate: every other operation
evaluates expiry on its own.
-/

namespace QuorumGate.Sweeper

/-- Expires one overdue proposal, and tells whether it is expired now. A busy record is left to the
next sweep. -/
def close (attempts : Nat) (p : Proposal) : Service Bool := do
  match ← (Ledger.expire attempts p "").attempt with
  | .ok q => return q.status = .expired
  | .error e =>
    if e.isBusy then
      Service.note .warning .sweeper ("skipping expiry of " ++ p.id ++ ", record is busy")
      return false
    else .fail e

/-- Expires the overdue ones among the proposals, and counts them. -/
def closeAll (attempts : Nat) (now : Instant) : Nat → List Proposal → Service Nat
  | closed, [] => pure closed
  | closed, p :: rest => do
    let expired ← Service.timed (p.isExpired now)
    let done ← if expired then close attempts p else pure false
    closeAll attempts now (if done then closed + 1 else closed) rest

def sweep (attempts : Nat) : Service Nat := do
  let now ← Service.now
  let stillOpen ← Service.store (.listProposals (some [.pending, .approved])) ""
  let closed ← closeAll attempts now 0 stillOpen
  if closed ≠ 0 then Service.note .info .sweeper s!"expiry sweep closed {closed} proposals"
  return closed

/-- A sweep that is skipped while the store is unavailable. -/
def round (attempts : Nat) : Service Unit := do
  match ← (sweep attempts).attempt with
  | .ok _ => return ()
  | .error (.unavailable detail ..) =>
    Service.note .error .sweeper ("expiry sweep skipped: " ++ detail)
  | .error e => .fail e

/-- The first rounds of the sweeper, with a pause after each. -/
def rounds (attempts : Nat) (interval : Number) : Nat → Service Unit
  | 0 => pure ()
  | n + 1 => do
    round attempts
    .ask (Effect.pause interval) .done
    rounds attempts interval n

end QuorumGate.Sweeper
