import QuorumGate.Text.Basic

/-!
# Correlation ids

Every request carries an id that appears in its log lines and travels with the requests it causes.
-/

namespace QuorumGate.Correlation

/-- The id as it stands in a log line. -/
def shown (id : Text) : Text := if id.isEmpty then "-" else id

/-- The headers that hand an id on. -/
def propagated (id : Text) : List (Text × Text) :=
  if id.isEmpty then [] else [("X-Correlation-Id", id)]

end QuorumGate.Correlation
