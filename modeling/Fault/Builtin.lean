import Fault.Definition.Setting

/-!
# Common fields

Nine fields that most services need, with keys that are always there. Keys that are made later
have identities from `Builtin.count` on.
-/

namespace Fault.Builtin

/-- The status code to answer with. -/
def httpStatus : Key where
  identity := 0
  name := "http_status"
  type := .integer ⟨false, .bits 16⟩

/-- The severity at which an error is reported. -/
def logLevel : Key where
  identity := 1
  name := "log_level"
  type := .severity

/-- The identity of a request. -/
def traceId : Key where
  identity := 2
  name := "trace_id"
  type := .text

/-- The part of a system that an error belongs to. -/
def domain : Key where
  identity := 3
  name := "domain"
  type := .text

/-- A text that may be shown to a user. -/
def userHint : Key where
  identity := 4
  name := "user_hint"
  type := .text

/-- Whether the message may be shown outside. -/
def isPublic : Key where
  identity := 5
  name := "public"
  type := .boolean

/-- Whether a retry may succeed. -/
def retryable : Key where
  identity := 6
  name := "retryable"
  type := .boolean

/-- How long to wait before a retry. -/
def retryAfter : Key where
  identity := 7
  name := "retry_after"
  type := .duration

/-- Data without a field of its own. -/
def details : Key where
  identity := 8
  name := "details"
  type := .details

/-- All common keys. -/
def keys : List Key :=
  [httpStatus, logLevel, traceId, domain, userHint, isPublic, retryable, retryAfter, details]

/-- The number of common keys. -/
def count : Nat :=
  Key.common.length

/-- Whether a common field is a mark: it is set to true, and absent counts as false. -/
def isMark (key : Key) : Bool :=
  key == isPublic || key == retryable

end Fault.Builtin

/-- The key for details is told by its identity alone. -/
theorem Fault.Key.eq_details
    {key : Key}
    (same : key.identity = Builtin.details.identity) :
    key = Builtin.details :=
  (eq_of_identity_eq same.symm (by decide)).symm
