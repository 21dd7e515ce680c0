import QuorumGate.Draft
import QuorumGate.Service.Effect

/-!
# The book of policies

Policies are checked, written once and never changed.
-/

namespace QuorumGate

namespace PolicyDraft

/-- The draft with the blanks around its names removed. -/
def stripped (d : PolicyDraft) : PolicyDraft :=
  { d with
    name := d.name.strip
    signers := d.signers.map Text.strip
    createdBy := d.createdBy.strip }

/-- The texts that occur more than once, each once, sorted. -/
def repeated (xs : List Text) : List Text :=
  ((xs.filter fun x => 1 < xs.count x).eraseDups).mergeSort Text.le

/-- The first rule that a draft breaks. -/
def objection? (d : PolicyDraft) : Option Rejection :=
  if d.name.isEmpty then some .policyWithoutName
  else if d.createdBy.isEmpty then some .policyWithoutCreator
  else if d.signers.isEmpty then some .policyWithoutSigners
  else if d.signers.any (·.isEmpty) then some .blankSigner
  else if !(repeated d.signers).isEmpty then some (.repeatedSigners (repeated d.signers))
  else if d.threshold < 1 ∨ d.signers.length < d.threshold then
    some (.thresholdOutOfRange d.signers.length d.threshold)
  else
    match d.expirySeconds with
    | none => none
    | some n =>
      if n ≤ 0 then some (.expiryNotPositive n)
      else if maxExpirySeconds < n then some (.expiryTooLong n)
      else none

def check (d : PolicyDraft) : Except Rejection Unit :=
  match d.objection? with
  | some r => .error r
  | none => .ok ()

def toPolicy (d : PolicyDraft) (id : Text) (now : Instant) : Policy :=
  ⟨id, d.name, d.signers, d.threshold, d.expirySeconds, d.createdBy, now⟩

end PolicyDraft

namespace Policies

/-- An insertion that conflicts with its own first attempt has succeeded. -/
def recoverInsert (p : Policy) (correlation : Text) : Service Policy := do
  let stored ← Service.store (.getPolicy p.id) correlation
  match stored with
  | some q =>
    if q.same p then
      Service.note .info .policies ("policy " ++ p.id ++ " was stored by an earlier attempt")
      return q
    else Service.reject (.policyIdTaken p.id)
  | none => Service.reject (.policyIdTaken p.id)

def expiryText : Option Int → String
  | some n => n.repr
  | none => Json.spelling.nothing

def create (draft : PolicyDraft) (correlation : Text) : Service Policy := do
  let d := draft.stripped
  Service.guard d.check
  let id ← Service.fresh .policy
  let now ← Service.now
  let p := d.toPolicy id now
  let inserted ← Service.storeUnlessConflict (.insertPolicy p) correlation
  let stored ← match inserted with
    | some q => pure q
    | none => recoverInsert p correlation
  Service.note .info .policies
    ("created policy " ++ stored.id ++ s!" ({stored.threshold}-of-{stored.signers.length}, " ++
      s!"expiry={expiryText stored.expirySeconds})")
  return stored

def get (id correlation : Text) : Service Policy := do
  match ← Service.store (.getPolicy id) correlation with
  | some p => return p
  | none => Service.reject (.noPolicy id)

def list (limit : Int) (correlation : Text) : Service (List Policy) :=
  Service.store (.listPolicies limit) correlation

end Policies

end QuorumGate
