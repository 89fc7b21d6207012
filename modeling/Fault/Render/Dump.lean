import Fault.Render.Text

/-!
# Dumps of links and cause trees

Links and cause trees are shown by the messages of the errors in them. A flag is shown when it is
set, and a list of causes when there are any.
-/

namespace Fault.Graph

/-- The dump of a link. -/
def linkDump
    (graph : Graph)
    (link : Link) :
    Dump :=
  .record "Link"
    [("error", .quoted (graph.message link.target)),
      ("type_name", .optional (link.typeName.map Dump.quoted))]

/-- The dump of the links of an error. -/
def linksDump
    (graph : Graph)
    (identity : ErrorId) :
    Dump :=
  .list ((graph.links identity).map graph.linkDump)

/-- The dump of a cause, given the dumps of its own causes. -/
def nodeDump
    (graph : Graph)
    (branch : Branch)
    (causes : List Dump) :
    Dump :=
  .record "Node" <|
    [("message", .quoted (graph.message branch.link.target))] ++
    branch.link.typeName.toList.map (fun name => ("type", .quoted name)) ++
    (if branch.reentered then [("cyclic", .boolean true)] else []) ++
    (if branch.below.isTruncated then [("truncated", .boolean true)] else []) ++
    (if causes.isEmpty then [] else [("causes", .list causes)])

/-- The dumps of the causes of a list. -/
def nodeDumps
    (graph : Graph) :
    Forest → List Dump
  | .nil => []
  | .cut _ rest => graph.nodeDumps rest
  | .node link reentered below rest =>
      graph.nodeDump ⟨link, reentered, below⟩ (graph.nodeDumps below) :: graph.nodeDumps rest

/-- The dump of a cause tree. -/
def forestDump
    (graph : Graph)
    (forest : Forest) :
    Dump :=
  .list (graph.nodeDumps forest)

/-- The dump of one cause of a tree. -/
def branchDump
    (graph : Graph)
    (branch : Branch) :
    Dump :=
  graph.nodeDump branch (graph.nodeDumps branch.below)

end Fault.Graph
