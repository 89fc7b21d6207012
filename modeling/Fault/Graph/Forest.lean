import Fault.Graph.Links

/-!
# Cause trees

The graph behind an error unfolds into a finite tree of causes. A cause that is shared between two
branches stands in both. A link back to an error on the path to it is cut: the cut is kept in the
list of causes that lost the link, and the errors that cuts lead back to are marked wherever they
stand in the tree.
-/

namespace Fault

/-- A list of causes in link order, each with its own causes below it. -/
inductive Forest where
  | nil
  /-- A link that was cut because it leads back to an error of its own path. -/
  | cut (target : ErrorId) (rest : Forest)
  /-- A cause, whether a cut leads back to it, its causes, and the causes after it. -/
  | node (link : Link) (reentered : Bool) (below rest : Forest)
  deriving Repr

namespace Forest

/-- The number of causes, cuts aside. -/
def length : Forest → Nat
  | .nil => 0
  | .cut _ rest => rest.length
  | .node _ _ _ rest => rest.length + 1

/-- Whether there are no causes, cuts aside. -/
def isEmpty (forest : Forest) : Bool :=
  forest.length == 0

/-- Whether a link of this list was cut. -/
def isTruncated : Forest → Bool
  | .nil => false
  | .cut _ _ => true
  | .node _ _ _ rest => rest.isTruncated

/-- Whether a link was cut anywhere in the tree. -/
def hasCycle : Forest → Bool
  | .nil => false
  | .cut _ _ => true
  | .node _ _ below rest => below.hasCycle || rest.hasCycle

/-- The errors that cuts lead back to. -/
def cutTargets : Forest → List ErrorId
  | .nil => []
  | .cut target rest => target :: rest.cutTargets
  | .node _ _ below rest => below.cutTargets ++ rest.cutTargets

/-- Mark every cause that is one of the given errors. -/
def mark (targets : List ErrorId) : Forest → Forest
  | .nil => .nil
  | .cut target rest => .cut target (rest.mark targets)
  | .node link _ below rest =>
      .node link (targets.contains link.target) (below.mark targets) (rest.mark targets)

/-- The causes of the tree with their depth, a cause before its own causes. -/
def walk (depth : Nat) : Forest → List (Nat × Link)
  | .nil => []
  | .cut _ rest => rest.walk depth
  | .node link _ below rest => (depth, link) :: below.walk (depth + 1) ++ rest.walk depth

/-- The number of causes of the whole tree. -/
def size (forest : Forest) : Nat :=
  (forest.walk 0).length

/-- The greatest depth of a cause, zero for an empty tree. -/
def deepest (forest : Forest) : Nat :=
  (forest.walk 0).foldl (fun depth visit => max depth visit.1) 0

end Forest

/-- One cause of a tree, with its causes below it. -/
structure Branch where
  link : Link
  reentered : Bool
  below : Forest

namespace Forest

/-- The causes of the list, in order. -/
def branches : Forest → List Branch
  | .nil => []
  | .cut _ rest => rest.branches
  | .node link reentered below rest => ⟨link, reentered, below⟩ :: rest.branches

/-- A cause by its place in the list. -/
def get?
    (forest : Forest)
    (index : Nat) :
    Option Branch :=
  forest.branches[index]?

/-- The list at the end of a path of places: from each cause to its causes. -/
def follow? (forest : Forest) : List Nat → Option Forest
  | [] => some forest
  | index :: path => (forest.get? index).bind fun branch => branch.below.follow? path

end Forest

namespace Graph

/-- Unfold links below a path of errors. -/
def unfold
    (graph : Graph)
    (path : List ErrorId)
    (links : List Link) :
    Forest :=
  match links with
  | [] => .nil
  | link :: rest =>
      if _ : graph.isIdentified link.target then
        if _ : path.contains link.target then
          .cut link.target (graph.unfold path rest)
        else
          .node link false
            (graph.unfold (link.target :: path) (graph.links link.target))
            (graph.unfold path rest)
      else
        .node link false .nil (graph.unfold path rest)
termination_by (graph.unseen path, links.length)
decreasing_by
  · exact Prod.Lex.right _ (by simp)
  · exact Prod.Lex.left _ _ (unseen_cons_lt (by assumption) (by simp_all))
  · exact Prod.Lex.right _ (by simp)
  · exact Prod.Lex.right _ (by simp)

/-- The path that starts at an error: a marker does not stand on it. -/
def startPath
    (graph : Graph)
    (root : ErrorId) :
    List ErrorId :=
  if graph.isIdentified root then [root] else []

/-- The cause tree of an error; the error itself is no part of it. -/
def causeTree
    (graph : Graph)
    (root : ErrorId) :
    Forest :=
  let forest := graph.unfold (graph.startPath root) (graph.links root)
  forest.mark forest.cutTargets

end Graph

end Fault
