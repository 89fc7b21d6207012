import Fault.Graph.Basic

/-!
# Access to payloads

A recovered panic holds its payload until it is taken. As long as it is there, a program can look at
it, or read its data when it has the type that is asked for, and neither takes it.
-/

namespace Fault.Graph

/-- The payload that a recovered panic still holds. -/
def heldPayload?
    (graph : Graph)
    (panic : ErrorId) :
    Option Payload :=
  (graph.recovered? panic).bind Recovered.payload

/-- What a function makes of the payload that a recovered panic holds, or of there being none. -/
def withPayload
    {α : Type}
    (graph : Graph)
    (panic : ErrorId)
    (look : Option Payload → α) :
    α :=
  look (graph.heldPayload? panic)

/-- The data of the payload that a recovered panic holds, as far as a reader of one type of data
finds it. -/
def payloadAs
    {α : Type}
    (graph : Graph)
    (panic : ErrorId)
    (read? : Payload → Option α) :
    Option α :=
  graph.withPayload panic fun held => held.bind read?

end Fault.Graph
