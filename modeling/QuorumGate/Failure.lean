import QuorumGate.Json.Parser
import QuorumGate.Rejection
import QuorumGate.Text.Charset.Basic
import QuorumGate.Validation.Issue

/-!
# Failures

All the ways in which an operation can end without a result: a rejection by a rule of the gate, or
something that went wrong around it.
-/

namespace QuorumGate

/-- What a store says it holds where another version was expected. -/
inductive Found where
  | nothing
  | version (n : Int)
  | flag (b : Bool)
  deriving DecidableEq, Repr

def Found.text : Found → Text
  | nothing => Json.spelling.nothing
  | version n => n.repr
  | flag b => Json.display (.bool b)

inductive Failure where
  | rejected (r : Rejection)
  | unavailable (detail : Text) (status : Int) (issues : List Issue)
  | conflict (record : Text) (expected : Int) (found : Found)
  | invalid (model : String) (issues : List Issue)
  | unknownWord (word : Text) (set : String)
  | time (fault : TimeFault)
  | notIterable (type : String)
  | factorTooLarge
  | foreign (label message : Text)
  | tooDeep (innermost : Json.Nesting)
  | undecodable (fault : Text.CharsetFault)
  | unwritable
  | silence
  deriving DecidableEq, Repr

namespace TimeFault

def label : TimeFault → String
  | incomparable => "TypeError"
  | dateOutOfRange | durationOutOfRange _ | durationOverflow | infiniteDuration => "OverflowError"
  | undefinedDuration => "ValueError"

end TimeFault

namespace Text.CharsetFault

def label : CharsetFault → String
  | noMark _ | unforgiving | undefined => "UnicodeError"
  | strictOnly => "AssertionError"
  | textToText | mixedPieces _ => "TypeError"

def message : CharsetFault → String
  | mixedPieces true => "'<' not supported between instances of 'int' and 'NoneType'"
  | mixedPieces false => "'<' not supported between instances of 'NoneType' and 'int'"
  | noMark bits => s!"UTF-{bits} stream does not start with BOM"
  | strictOnly => ""
  | textToText => "descriptor 'translate' for 'str' objects doesn't apply to a 'bytes' object"
  | unforgiving => "Unsupported error handling replace"
  | undefined => "undefined encoding"

end Text.CharsetFault

namespace RejectionKind

def label : RejectionKind → String
  | invalidPolicy => "InvalidPolicyError"
  | invalidProposal => "InvalidProposalError"
  | notFound => "NotFoundError"
  | unauthorizedSigner => "UnauthorizedSignerError"
  | duplicateSignature => "DuplicateSignatureError"
  | invalidSignature => "InvalidSignatureError"
  | proposalTerminal => "ProposalTerminalError"
  | notApproved => "NotApprovedError"
  | proposalExpired => "ProposalExpiredError"
  | alreadyExecuted => "AlreadyExecutedError"
  | executionFailed => "ExecutionFailedError"
  | concurrentModification => "ConcurrentModificationError"

end RejectionKind

def Json.Nesting.word : Json.Nesting → String
  | list => "array"
  | object => "object"

namespace Failure

/-- The name of what ends a call that takes too long, whoever ends it. -/
def timeoutLabel : Text := "TimeoutError"

/-- The name under which a failure is recorded when it ends a deployment. -/
def label : Failure → Text
  | rejected r => r.kind.label
  | unavailable .. => "RegistryUnavailableError"
  | conflict .. => "VersionConflict"
  | invalid .. => "ValidationError"
  | unknownWord .. => "ValueError"
  | time fault => fault.label
  | notIterable _ => "TypeError"
  | factorTooLarge => "OverflowError"
  | foreign label _ => label
  | tooDeep _ => "RecursionError"
  | undecodable fault => fault.label
  | unwritable => "ValueError"
  | silence => timeoutLabel

def message : Failure → Text
  | rejected r => r.message
  | unavailable detail _ _ => detail
  | conflict record expected found =>
    "version conflict on " ++ record ++ s!": expected {expected}, found " ++ found.text
  | invalid model issues => Issue.summary model issues
  | unknownWord word set => s!"{word.quoted} is not a valid {set}"
  | time fault => fault.message
  | notIterable type => s!"'{type}' object is not iterable"
  | factorTooLarge => "int too large to convert to float"
  | foreign _ message => message
  | tooDeep innermost =>
    "maximum recursion depth exceeded while decoding a JSON " ++ innermost.word ++
      " from a unicode string"
  | undecodable fault => fault.message
  | unwritable => "a value cannot be written as JSON"
  | silence => ""

/-- Whether the gate itself refused, or lost a race between writers. -/
def isOrdinary : Failure → Bool
  | rejected _ | conflict .. => true
  | _ => false

/-- Whether too many rivals got in between. -/
def isBusy : Failure → Bool
  | rejected r => r.kind = .concurrentModification
  | _ => false

end Failure

end QuorumGate
