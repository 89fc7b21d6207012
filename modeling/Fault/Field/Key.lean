import Fault.Value.Decode

/-!
# Field keys

A key names a field and fixes the type of its values. Keys are told apart by identity, never by
name: two keys of one name and type cannot see each other's values. The first identities belong to
the common keys, so whatever has one of them is the common key itself.
-/

namespace Fault

/-- The names and types of the common keys, in the order of their identities. -/
def Key.common : List (String × ValueType) :=
  [("http_status", .integer ⟨false, .bits 16⟩),
    ("log_level", .severity),
    ("trace_id", .text),
    ("domain", .text),
    ("user_hint", .text),
    ("public", .boolean),
    ("retryable", .boolean),
    ("retry_after", .duration),
    ("details", .details)]

/-- The key of a field. -/
structure Key where
  identity : Nat
  name : String
  type : ValueType
  /-- No other key has the identity of a common one. -/
  isCommon : ∀ entry, Key.common[identity]? = some entry → entry = (name, type) := by
    intro entry isEntry
    cases isEntry
    rfl
  deriving DecidableEq, Repr

namespace Key

/-- The key that a program makes after a number of others. -/
def made
    (number : Nat)
    (name : String)
    (type : ValueType) :
    Key where
  identity := common.length + number
  name := name
  type := type
  isCommon := by simp

/-- A key with the identity of a common one is the common one. -/
theorem eq_of_identity_eq
    {first second : Key}
    (same : first.identity = second.identity)
    (isCommon : first.identity < common.length) :
    first = second := by
  have isEntry : common[first.identity]? = some common[first.identity] :=
    List.getElem?_eq_getElem isCommon
  have parts : (first.name, first.type) = (second.name, second.type) :=
    (first.isCommon _ isEntry).symm.trans (second.isCommon _ (same ▸ isEntry))
  cases first
  cases second
  cases same
  cases parts
  rfl

/-- A value as one of this key, when it has the type of the key. -/
def accept?
    (key : Key)
    (value : Value) :
    Option Value :=
  if value.type = key.type then some value else none

/-- The value of this key when nothing was stored. -/
def zero (key : Key) : Value :=
  key.type.zero

/-- Read a value of this key from JSON. -/
def decode
    (key : Key)
    (json : Json) :
    Except Misfit Value :=
  key.type.decode json

end Key

end Fault
