import Fault.Graph.Chain

/-!
# Resolvers

A resolver is a fixed list of definitions that answers which of them has a kind, has a field value,
or made an error. A fallback answers the lookups by kind and by field that find nothing, unless
they are strict.
-/

namespace Fault

/-- A list of definitions to look in. -/
structure Resolver where
  definitions : List Definition
  fallback : Option Definition

namespace Resolver

/-- The first definition of a kind. -/
def ofKind?
    (resolver : Resolver)
    (label : String) :
    Option Definition :=
  resolver.definitions.find? fun definition => definition.kind.label == label

/-- The first definition of a kind, or the fallback. -/
def ofKindOrFallback?
    (resolver : Resolver)
    (label : String) :
    Option Definition :=
  (resolver.ofKind? label).or resolver.fallback

/-- The first definition whose value for a key equals a value. -/
def ofField?
    (resolver : Resolver)
    (key : Key)
    (wanted : Value) :
    Option Definition :=
  resolver.definitions.find? fun definition =>
    (definition.fields.get? key).any fun value => value.equals wanted

/-- The first definition whose value for a key equals a value, or the fallback. -/
def ofFieldOrFallback?
    (resolver : Resolver)
    (key : Key)
    (wanted : Value) :
    Option Definition :=
  (resolver.ofField? key wanted).or resolver.fallback

/-- The definition that made the first occurrence of a chain: the very same, or else the first one
that shares its root. -/
def origin?
    (resolver : Resolver)
    (graph : Graph)
    (start : ErrorId) :
    Option Definition :=
  (graph.firstOccurrence? start).bind fun occurrence =>
    (resolver.definitions.find? occurrence.definition.isSame).or
      (resolver.definitions.find? occurrence.definition.sameRoot)

/-- The dump of a resolver: kinds only. -/
def dump (resolver : Resolver) : Dump :=
  .record "Resolver"
    [("kinds", .list (resolver.definitions.map fun definition => definition.kind.dump)),
      ("fallback", .optional (resolver.fallback.map fun definition => definition.kind.dump))]

end Resolver

end Fault
