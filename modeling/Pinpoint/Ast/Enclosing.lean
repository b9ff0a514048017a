import Pinpoint.Ast.Node

/-!
# Enclosing nodes

The node that a byte range belongs to is the shortest one around it. Of equally short nodes the
deeper one is taken, and of nodes that agree in both the last one of the walk.
-/

namespace Pinpoint.Ast

/-- Whether a byte range lies inside the range of a node. -/
def Node.encloses (node : Node) (start length : Int) : Bool :=
  decide (node.start ≤ start) && decide (start + length ≤ node.start + node.length)

/-- Whether a node is taken in place of one that comes earlier in the walk. -/
def Node.replaces (node earlier : Node) : Bool :=
  decide (node.length < earlier.length) ||
    (decide (node.length = earlier.length) && decide (earlier.depth ≤ node.depth))

/-- The node that is left after each one of the list had the chance to replace those before. -/
def tightest? (nodes : List Node) : Option Node :=
  nodes.foldl
    (fun
      | none, node => some node
      | some best, node => if node.replaces best then some node else some best)
    none

/-- The node that a byte range belongs to. A negative range belongs to none. -/
def enclosing? (ast : Json) (start length : Int) : Option Node :=
  if ast.isPresent && decide (0 ≤ start) && decide (0 ≤ length) then
    tightest? ((nodes ast).filter (·.encloses start length))
  else none

end Pinpoint.Ast
