import QuorumGate.Time.Text
import QuorumGate.Validation.Scalar

/-!
# Policies

A policy names the signers whose approval counts, and how many of them it takes.
-/

namespace QuorumGate

/-- Ten years. -/
def maxExpirySeconds : Int := 10 * 365 * 24 * 60 * 60

structure Policy where
  id : Text
  name : Text
  signers : List Text
  threshold : Int
  expirySeconds : Option Int
  createdBy : Text
  createdAt : Instant
  deriving DecidableEq, Repr

namespace Policy

/-- Equal up to the offset in which the time of creation is written. -/
def same (p q : Policy) : Bool :=
  { p with createdAt := q.createdAt } == q && p.createdAt.same q.createdAt

@[simp] theorem same_self (p : Policy) : p.same p = true := by simp [same]

def members (p : Policy) : Json.Members :=
  [("id", .text p.id), ("name", .text p.name), ("signers", .listOf .text p.signers),
   ("threshold", .whole p.threshold), ("expiry_seconds", .ofOption .whole p.expirySeconds),
   ("created_by", .text p.createdBy), ("created_at", .text p.createdAt.iso)]

def toJson (p : Policy) : Json := .object p.members

open Reading in
def ofJson : Json → Reading Policy :=
  object fun ms =>
    Policy.mk <$> required "id" text ms <*> required "name" text ms
      <*> required "signers" (list text) ms <*> required "threshold" int ms
      <*> optional "expiry_seconds" int ms <*> required "created_by" text ms
      <*> required "created_at" instant ms

end Policy

end QuorumGate
