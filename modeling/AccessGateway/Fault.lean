import AccessGateway.Query.Parameter
import AccessGateway.Time.Duration

/-!
# `AccessGateway.Fault`: why a request fails

The failures of the gateway with their wording and the HTTP status each is answered with.
Failures of credentials are coarse on purpose: an unknown user, a wrong password and a bad
token are one `incorrectCredential`, so that an answer does not tell which names exist. A
failure with a reason carries it in words, as whatever caused it put it.

`Outcome` is the result of everything that may fail. A statement that two runs fail alike is an
equation of outcomes, wording included.
-/

set_option autoImplicit false

namespace AccessGateway

/-- A failure of the gateway. A query keeps its own failures, which say which parameter was at
fault. -/
inductive Fault where
  | notSupported (resource : String)
  | notFound (kind name : String)
  | incorrectCredential
  | rateLimitExceeded
  | accountNotActive
  | forbidden (reason : String)
  | backend (reason : String)
  | invalidQuery (fault : QueryFault)
  | settings (reason : String)
  | files (reason : String)
  | json (reason : String)
  | yaml (reason : String)
  | internal (reason : String)
  deriving DecidableEq, Repr

namespace Fault

/-- The wording of a failure, which the body of an answer carries after the status of the
failure. -/
def message : Fault → String
  | notSupported resource => "resource is not supported: " ++ resource
  | notFound kind name => kind ++ " \"" ++ name ++ "\" not found"
  | incorrectCredential => "incorrect password"
  | rateLimitExceeded => "auth rate limit exceeded"
  | accountNotActive => "account is not active"
  | forbidden reason => "forbidden: " ++ reason
  | backend reason => "upstream failure: " ++ reason
  | invalidQuery fault => "invalid query: " ++ fault.message
  | settings reason => "configuration error: " ++ reason
  | files reason => "IO error: " ++ reason
  | json reason => "JSON error: " ++ reason
  | yaml reason => "YAML error: " ++ reason
  | internal reason => "internal error: " ++ reason

/-- The HTTP status that a failure is answered with. None of them is a success, so the status tells
a failure from an answer. -/
def status : Fault → Nat
  | invalidQuery _ => 400
  | incorrectCredential | accountNotActive => 401
  | forbidden _ => 403
  | notSupported _ | notFound .. => 404
  | rateLimitExceeded => 429
  | backend _ => 503
  | settings _ | files _ | json _ | yaml _ | internal _ => 500

/-- Whether the same request may succeed later, without anything else being changed: the store may
come back, and the window of a limit passes. -/
def isRetryable : Fault → Bool
  | backend _ | rateLimitExceeded => true
  | _ => false

/-- Object caches that did not sync within a time. The wording names the time as a log shows it, not
as the settings wrote it. -/
def syncTimedOut (timeout : Time.Duration) : Fault :=
  backend ("timed out after " ++ timeout.display ++ " waiting for object caches to sync")

end Fault

/-- What may fail, with the failure it fails with. -/
abbrev Outcome (α : Type) := Except Fault α

end AccessGateway
