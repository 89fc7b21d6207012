import Fault.Field.Key

/-!
# Fields

The fields of a definition are values by key, in the order in which they were stored last. A key
occurs once: storing under it again replaces its value and moves it to the end. Names may occur
several times, and where fields are flattened to names the value stored last wins.
-/

namespace Fault

/-- A stored value and its key. -/
structure Field where
  key : Key
  value : Value

namespace Field

/-- The name of a field. -/
def name (field : Field) : String :=
  field.key.name

/-- The text of a field: its name and the dump of its value. -/
def text (field : Field) : String :=
  field.name ++ ": " ++ field.value.dump.compactText

end Field

/-- The fields of a definition, the one stored last at the end. -/
structure Fields where
  entries : List Field
  /-- A key occurs once. -/
  distinct : (entries.map fun field => field.key.identity).Nodup

namespace Fields

/-- No fields. -/
def empty : Fields :=
  ⟨[], List.nodup_nil⟩

/-- The number of fields. -/
def size (fields : Fields) : Nat :=
  fields.entries.length

/-- Whether there are no fields. -/
def isEmpty (fields : Fields) : Bool :=
  fields.entries.isEmpty

/-- A field behind the fields of all other keys leaves every key once. -/
private theorem distinct_append
    (fields : Fields)
    (added : Field) :
    ((fields.entries.filter (fun field => field.key.identity != added.key.identity) ++
      [added]).map fun field => field.key.identity).Nodup := by
  rw [List.map_append, List.nodup_append]
  refine ⟨(List.filter_sublist.map _).nodup fields.distinct, by simp, ?_⟩
  intro identity member other otherMember
  obtain ⟨field, fieldMember, rfl⟩ := List.mem_map.mp member
  have differs : field.key.identity ≠ added.key.identity := by
    simpa using (List.mem_filter.mp fieldMember).2
  simpa [List.mem_singleton.mp otherMember] using differs

/-- Store a value under a key. -/
def store
    (fields : Fields)
    (key : Key)
    (value : Value) :
    Fields where
  entries :=
    fields.entries.filter (fun field => field.key.identity != key.identity) ++ [⟨key, value⟩]
  distinct :=
    distinct_append fields ⟨key, value⟩

/-- The value stored under an identity, whatever its type. -/
def find?
    (fields : Fields)
    (identity : Nat) :
    Option Value :=
  (fields.entries.find? fun field => field.key.identity == identity).map Field.value

/-- Whether something is stored under a key. -/
def contains
    (fields : Fields)
    (key : Key) :
    Bool :=
  (fields.find? key.identity).isSome

/-- The value of a key's type that is stored under the key. -/
def get?
    (fields : Fields)
    (key : Key) :
    Option Value :=
  (fields.find? key.identity).bind key.accept?

/-- The keys of a name, the one stored last at the end. -/
def keysNamed
    (fields : Fields)
    (name : String) :
    List Key :=
  (fields.entries.filter fun field => field.name == name).map Field.key

/-- The fields by name; fields of one name stay in the order in which they were stored. -/
def sorted (fields : Fields) : List Field :=
  fields.entries.mergeSort fun first second => first.name ≤ second.name

/-- Put the JSON forms of fields into members, one after the other, or fail at the first field
without one. -/
def toMembersFrom (members : Members) : List Field → Except Json.Failure Members
  | [] => .ok members
  | field :: rest => do
      let form ← field.value.toJson
      toMembersFrom (members.insert field.name form) rest

/-- The fields as members by name; of fields of one name the one stored last stays. -/
def toMembers (fields : Fields) : Except Json.Failure Members :=
  toMembersFrom [] fields.entries

/-- The dump of fields: values by name, in the order in which they were stored. -/
def dump (fields : Fields) : Dump :=
  .mapping (fields.entries.map fun field => (Text.quote field.name, field.value.dump))

end Fields

end Fault
