import QuorumGate.Validation.Scalar

/-!
# Settings

What can be set from the environment, with its defaults.
-/

namespace QuorumGate

/-- Where records are kept. -/
inductive Backend where
  | memory
  | registry
  deriving DecidableEq, Repr

def Backend.word : Backend → String
  | memory => "memory"
  | registry => "registry"

def Backend.ofWord? : String → Option Backend
  | "memory" => some memory
  | "registry" => some registry
  | _ => none

structure Settings where
  appName : Text
  contractVersion : Text
  backend : Backend
  registryUrl : Text
  deploymentUrl : Text
  remoteTimeout : Number
  remoteRetries : Int
  remoteBackoff : Number
  deploymentTimeout : Number
  attempts : Int
  defaultLimit : Int
  largestLimit : Int
  sweepInterval : Number
  logLevel : Text
  deriving Repr

namespace Settings

def defaults : Settings where
  appName := "Deploy Guard Multisig API"
  contractVersion := "v1"
  backend := .memory
  registryUrl := "http://localhost:3001"
  deploymentUrl := "http://localhost:3001"
  remoteTimeout := .real 3.0
  remoteRetries := 2
  remoteBackoff := .real 0.2
  deploymentTimeout := .real 120.0
  attempts := 8
  defaultLimit := 20
  largestLimit := 100
  sweepInterval := .real 0.0
  logLevel := "INFO"

def toJson (s : Settings) : Json :=
  .object [("app_name", .text s.appName), ("contract_version", .text s.contractVersion),
    ("record_store_backend", .text s.backend.word), ("registry_base_url", .text s.registryUrl),
    ("deployment_base_url", .text s.deploymentUrl),
    ("upstream_timeout_seconds", .number s.remoteTimeout),
    ("upstream_max_retries", .whole s.remoteRetries),
    ("upstream_retry_backoff_seconds", .number s.remoteBackoff),
    ("deployment_timeout_seconds", .number s.deploymentTimeout),
    ("cas_max_attempts", .whole s.attempts),
    ("proposal_list_default_limit", .whole s.defaultLimit),
    ("proposal_list_max_limit", .whole s.largestLimit),
    ("expiry_sweep_interval_seconds", .number s.sweepInterval), ("log_level", .text s.logLevel)]

section Reading

open QuorumGate.Reading

def backendWord : Json → Reading Backend
  | .text t => orRefuse .notALiteral (t.string?.bind Backend.ofWord?)
  | _ => refuse .notALiteral

def count (v : Json) : Reading Int := check (atLeast 1) (int v)

def seconds (p : Float → Option IssueKind) (v : Json) : Reading Number :=
  .real <$> check p (float v)

def ofMembers (ms : Json.Members) : Reading Settings :=
  let text' (k : String) (default : Text) := defaulted k (pure default) text ms
  let seconds' (k : String) (default : Number) (p : Float → Option IssueKind) :=
    defaulted k (pure default) (seconds p) ms
  let count' (k : String) (default : Int) := defaulted k (pure default) count ms
  Settings.mk <$> text' "app_name" defaults.appName
    <*> text' "contract_version" defaults.contractVersion
    <*> defaulted "record_store_backend" (pure defaults.backend) backendWord ms
    <*> text' "registry_base_url" defaults.registryUrl
    <*> text' "deployment_base_url" defaults.deploymentUrl
    <*> seconds' "upstream_timeout_seconds" defaults.remoteTimeout (fun _ => none)
    <*> defaulted "upstream_max_retries" (pure defaults.remoteRetries) int ms
    <*> seconds' "upstream_retry_backoff_seconds" defaults.remoteBackoff (fun _ => none)
    <*> seconds' "deployment_timeout_seconds" defaults.deploymentTimeout aboveZero
    <*> count' "cas_max_attempts" defaults.attempts
    <*> count' "proposal_list_default_limit" defaults.defaultLimit
    <*> count' "proposal_list_max_limit" defaults.largestLimit
    <*> seconds' "expiry_sweep_interval_seconds" defaults.sweepInterval notNegative
    <*> text' "log_level" defaults.logLevel

/-- The settings of an environment. Names count in any letter case, and of two variables with one
name the later. -/
def ofEnvironment (env : List (Text × Text)) : Checked Settings :=
  (ofMembers (env.foldl (fun ms v => Json.put v.1.lower (.text v.2) ms) [])).result

end Reading

/-- Sets one field without any check; a value of another type changes nothing. -/
def overriding (s : Settings) (name : String) (v : Json) : Settings :=
  match name, v with
  | "app_name", .text v => { s with appName := v }
  | "contract_version", .text v => { s with contractVersion := v }
  | "record_store_backend", .text v =>
    { s with backend := if v = "registry" then .registry else .memory }
  | "registry_base_url", .text v => { s with registryUrl := v }
  | "deployment_base_url", .text v => { s with deploymentUrl := v }
  | "upstream_timeout_seconds", .number v => { s with remoteTimeout := v }
  | "upstream_max_retries", .number (.whole v) => { s with remoteRetries := v }
  | "upstream_retry_backoff_seconds", .number v => { s with remoteBackoff := v }
  | "deployment_timeout_seconds", .number v => { s with deploymentTimeout := v }
  | "cas_max_attempts", .number (.whole v) => { s with attempts := v }
  | "proposal_list_default_limit", .number (.whole v) => { s with defaultLimit := v }
  | "proposal_list_max_limit", .number (.whole v) => { s with largestLimit := v }
  | "expiry_sweep_interval_seconds", .number v => { s with sweepInterval := v }
  | "log_level", .text v => { s with logLevel := v }
  | _, _ => s

end Settings

end QuorumGate
