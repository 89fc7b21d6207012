import Fault.Builtin
import Fault.Defaults
import Fault.Definition.Basic
import Fault.Definition.Context
import Fault.Definition.Setting
import Fault.Dump
import Fault.Duration
import Fault.ErrorId
import Fault.Field.Fields
import Fault.Field.Key
import Fault.Graph.Basic
import Fault.Graph.Chain
import Fault.Graph.Foreign
import Fault.Graph.Forest
import Fault.Graph.Links
import Fault.Json.Basic
import Fault.Json.Dump
import Fault.Json.Failure
import Fault.Json.Numeral
import Fault.Json.Parser
import Fault.Json.Printer
import Fault.Kind
import Fault.Log.Flat
import Fault.Log.Value
import Fault.Number.Floating
import Fault.Number.Numeral
import Fault.Number.Reading
import Fault.Number.Shortest
import Fault.Occurrence
import Fault.Panic.Access
import Fault.Panic.Payload
import Fault.Proofs.BuiltGraphs
import Fault.Proofs.CallTraces
import Fault.Proofs.ChainSearch
import Fault.Proofs.ClaimSteps
import Fault.Proofs.Cycles
import Fault.Proofs.DecodedCauses
import Fault.Proofs.DecodedFields
import Fault.Proofs.Derivations
import Fault.Proofs.DraftGrowth
import Fault.Proofs.DraftReading
import Fault.Proofs.Embedding
import Fault.Proofs.Families
import Fault.Proofs.FieldReading
import Fault.Proofs.FieldStore
import Fault.Proofs.FieldTable
import Fault.Proofs.FlatTokens
import Fault.Proofs.FormFailures
import Fault.Proofs.HiddenCauses
import Fault.Proofs.HiddenValues
import Fault.Proofs.LikeOutputs
import Fault.Proofs.Likeness
import Fault.Proofs.LinkPath
import Fault.Proofs.LogForms
import Fault.Proofs.LogLookups
import Fault.Proofs.MemberOrder
import Fault.Proofs.OrderedForms
import Fault.Proofs.Origins
import Fault.Proofs.ParsedForms
import Fault.Proofs.PayloadCalls
import Fault.Proofs.QuotedReading
import Fault.Proofs.Reach
import Fault.Proofs.ReadableForms
import Fault.Proofs.Recipes
import Fault.Proofs.RecoveredPanics
import Fault.Proofs.RecoveredReferences
import Fault.Proofs.Reentry
import Fault.Proofs.References
import Fault.Proofs.Relays
import Fault.Proofs.Segments
import Fault.Proofs.SharedTrees
import Fault.Proofs.ShownStacks
import Fault.Proofs.ShownText
import Fault.Proofs.TakenPayloads
import Fault.Proofs.TextCircle
import Fault.Proofs.TextLayout
import Fault.Proofs.TextSteps
import Fault.Proofs.TreePaths
import Fault.Proofs.TreeScan
import Fault.Proofs.WireFields
import Fault.Proofs.WireForm
import Fault.Proofs.WireRoundTrip
import Fault.Redacted
import Fault.Render.Detailed
import Fault.Render.Dump
import Fault.Render.Json
import Fault.Render.Log
import Fault.Render.Text
import Fault.Renderer
import Fault.Resolver.Basic
import Fault.Resolver.Decode
import Fault.Severity
import Fault.Stack
import Fault.Store
import Fault.Text.Blank
import Fault.Text.Block
import Fault.Text.Extending
import Fault.Text.Integer
import Fault.Text.Quoted
import Fault.Text.Unprintable
import Fault.Value.Basic
import Fault.Value.Decode
import Fault.Value.Plain
