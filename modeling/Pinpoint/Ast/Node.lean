import Pinpoint.Json.Display
import Pinpoint.Text.Fields

/-!
# Syntax-tree nodes

The compiler writes a syntax tree as JSON. A node is an object with a type name in `nodeType` and
a byte range `start:length` in `src`; further fields of `src` are ignored. Nodes may stand
anywhere below other values, so the tree is walked through every list and object, each node
before the nodes inside it. The depth of a node is the number of nodes around it.
-/

namespace Pinpoint.Ast

/-- The node categories that matter for suppression. -/
inductive NodeKind where
  | declaration
  | arrayType
  | other
  deriving BEq, DecidableEq, Repr

/-- The type name of a statement that declares variables. -/
def declarationStatement : String := "VariableDeclarationStatement"

/-- The type name of an array type. -/
def arrayTypeName : String := "ArrayTypeName"

/-- The category of a node type. -/
def NodeKind.ofType (nodeType : String) : NodeKind :=
  if nodeType = "VariableDeclaration" ∨ nodeType = declarationStatement then .declaration
  else if nodeType = arrayTypeName then .arrayType
  else .other

/-- The name of a category. -/
def NodeKind.name : NodeKind → String
  | .declaration => "declaration"
  | .arrayType => "array_type"
  | .other => "other"

/-- A node of a syntax tree. -/
structure Node where
  kind : NodeKind
  nodeType : String
  /-- The offset of the first byte. -/
  start : Int
  /-- The number of bytes. -/
  length : Int
  /-- The number of nodes around this one. -/
  depth : Nat
  /-- The members of the object that the node was read from. -/
  members : List (String × Json)

/-- The byte range, start and length, that a `src` member gives. -/
def byteRange? : Json → Option (Int × Int)
  | .text value =>
    match Text.fields ':' value.toList with
    | start :: length :: _ => do
      return (← Text.readInt? start, ← Text.readInt? length)
    | _ => none
  | _ => none

/-- The node that an object stands for, if it has a byte range and a type. -/
def node? (depth : Nat) (members : List (String × Json)) : Option Node := do
  let (start, length) ← byteRange? ((Json.find? "src" members).getD .null)
  let nodeType := (← Json.find? "nodeType" members).display
  return { kind := .ofType nodeType, nodeType, start, length, depth, members }

mutual

/-- The nodes of a value, each before the nodes inside it. `depth` is the number of nodes around
the value. -/
def nodesIn (depth : Nat) : Json → List Node
  | .list items => nodesInItems depth items
  | .object members =>
    match node? depth members with
    | some node => node :: nodesInMembers (depth + 1) members
    | none => nodesInMembers depth members
  | .null | .bool _ | .number _ | .text _ => []

/-- The nodes of the items of a list, in order. -/
def nodesInItems (depth : Nat) : List Json → List Node
  | [] => []
  | item :: rest => nodesIn depth item ++ nodesInItems depth rest

/-- The nodes of the members of an object, in order. -/
def nodesInMembers (depth : Nat) : List (String × Json) → List Node
  | [] => []
  | (_, value) :: rest => nodesIn depth value ++ nodesInMembers depth rest

end

/-- The nodes of a syntax tree. -/
def nodes (ast : Json) : List Node :=
  nodesIn 0 ast

end Pinpoint.Ast
