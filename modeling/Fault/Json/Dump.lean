import Fault.Dump
import Fault.Json.Printer

/-!
# Dumps of JSON values

The dump of a JSON value names the kind of every value. A number or a string stays on one line in
both written forms.
-/

namespace Fault.Json

mutual

/-- The dump of a value. -/
def dump : Json → Dump
  | .null => .text "Null"
  | .boolean value => .text (if value then "Bool(true)" else "Bool(false)")
  | .number value => .text ("Number(" ++ String.ofList (numberText value) ++ ")")
  | .text value => .text ("String(" ++ Text.quote value ++ ")")
  | .array items => .labelled "Array " (.list (dumpItems items))
  | .object members => .labelled "Object " (.mapping (dumpMembers members))

/-- The dumps of the items of an array. -/
def dumpItems : List Json → List Dump
  | [] => []
  | item :: items => dump item :: dumpItems items

/-- The dumps of the members of an object, with quoted names. -/
def dumpMembers : List (String × Json) → List (String × Dump)
  | [] => []
  | (name, value) :: members => (Text.quote name, dump value) :: dumpMembers members

end

end Fault.Json
