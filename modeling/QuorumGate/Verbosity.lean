import QuorumGate.Text.Case

/-!
# Verbosity

The least grave lines that are still logged.
-/

namespace QuorumGate

inductive Verbosity where
  | critical
  | error
  | warning
  | info
  | debug
  | notset
  deriving DecidableEq, Repr

namespace Verbosity

def name : Verbosity → String
  | critical => "CRITICAL"
  | error => "ERROR"
  | warning => "WARNING"
  | info => "INFO"
  | debug => "DEBUG"
  | notset => "NOTSET"

/-- Two of them have a second name. -/
def ofName? : String → Option Verbosity
  | "CRITICAL" | "FATAL" => some critical
  | "ERROR" => some error
  | "WARNING" | "WARN" => some warning
  | "INFO" => some info
  | "DEBUG" => some debug
  | "NOTSET" => some notset
  | _ => none

@[simp] theorem ofName?_name (t : Verbosity) : ofName? t.name = some t := by cases t <;> rfl

/-- The verbosity that a text in any letter case names; for an unknown one the text in upper
case. -/
def ofText (t : Text) : Except Text Verbosity :=
  match t.upper.string?.bind ofName? with
  | some v => .ok v
  | none => .error t.upper

end Verbosity

end QuorumGate
