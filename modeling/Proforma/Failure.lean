import Proforma.Number.Shortest
import Proforma.Text.Ascii

/-!
# Failures

Why a call ends without a scenario. Each failure names its cause; the words for it are in one
function per type. A refusal is a failure found before anything is sent.
-/

namespace Proforma

open Number

/-- Endpoint groups that a service may lack. -/
inductive EndpointGroup where
  | constructionLoan
  | sensitivity
  | exports
  deriving DecidableEq

/-- The name of a group in messages. -/
def EndpointGroup.name : EndpointGroup → String
  | .constructionLoan => "construction-loan"
  | .sensitivity => "sensitivity"
  | .exports => "export"

/-- What is wrong with the arguments of a call. -/
inductive Refusal where
  | projectNotNumeric (text : String)
  | projectNotFinite (value : Double)
  | notPersisted (id : Int64)
  | noBands
  | nothingToChange
  | headerName (name : String)
  | headerValue (name : String)
  /-- A cause known only in words. -/
  | described (words : String)
  deriving DecidableEq

/-- The words for what is wrong. -/
def Refusal.message : Refusal → String
  | .projectNotNumeric text => "project id '" ++ text ++ "' is not numeric"
  | .projectNotFinite value => "project id " ++ value.text ++ " is not a finite number"
  | .notPersisted id => "scenario " ++ toString id.toInt ++ " is not a persisted scenario"
  | .noBands => "at least one sensitivity band is required"
  | .nothingToChange => "scenario update has no fields to change"
  | .headerName name => "invalid header name '" ++ name ++ "': invalid HTTP header name"
  | .headerValue name =>
    "invalid value for header '" ++ name ++ "': failed to parse header value"
  | .described words => words

/-- Which of the two sides ended a call early. Time is in microseconds. -/
inductive AbortCause where
  | caller
  | timeout (limit : Nat)
  deriving DecidableEq

/-- The limit is told in whole milliseconds. -/
def AbortCause.message : AbortCause → String
  | .caller => "cancelled by caller"
  | .timeout limit => "timed out after " ++ toString (limit / 1000) ++ "ms"

/-- Why a call failed. -/
inductive Failure where
  | invalid (cause : Refusal)
  | http (status : Nat) (message : String)
  | aborted (cause : AbortCause)
  | network (message : String)
  | unsupported (group : EndpointGroup)
  /-- The exchange failed otherwise than by want of an answer. -/
  | transport
  /-- A file could not be written. -/
  | file
  /-- An answer is not JSON. -/
  | json
  deriving DecidableEq

namespace Failure

/-- The words for a failure. The last three have no details of their own. -/
def message : Failure → String
  | .invalid cause => "Validation error: " ++ cause.message
  | .http status message => "HTTP " ++ toString status ++ ": " ++ message
  | .aborted cause => "Request aborted: " ++ cause.message
  | .network message => "Network error: " ++ message
  | .unsupported group => "Endpoint not enabled: " ++ group.name
  | .transport => "Transport error"
  | .file => "IO error"
  | .json => "JSON error"

/-- Whether words of the service speak of a rejected authorization. Only the case of ASCII letters
has to be ignored: no letter outside ASCII has a small form that occurs in one of these words. -/
def saysUnauthorized (words : String) : Bool :=
  ["401", "403", "restricted", "owner"].any (Text.containsIgnoringCase · words)

/-- Whether the failure looks like a rejected authorization. -/
def isAuthorization : Failure → Bool
  | .http status message => status == 401 || status == 403 || saysUnauthorized message
  | .network message => saysUnauthorized message
  | _ => false

/-- Whether one of the two sides ended the call early. -/
def isAbort : Failure → Bool
  | .aborted _ => true
  | _ => false

/-- Whether the deadline ended the call. -/
def isTimeout : Failure → Bool
  | .aborted (.timeout _) => true
  | _ => false

/-- Whether the service reports a fault of its own. -/
def isServerError : Failure → Bool
  | .http status _ => 500 ≤ status
  | _ => false

end Failure

end Proforma
