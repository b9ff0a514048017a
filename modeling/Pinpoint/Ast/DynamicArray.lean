import Pinpoint.Ast.Enclosing

/-!
# Declarations of dynamically sized arrays

A declaration declares a dynamically sized array when its type is an array type without a length.
A declaration statement does when one of its declarations does. The code that a compiler
generates for such declarations is often reported although it is sound, which is why a range is
asked whether it belongs to one.
-/

namespace Pinpoint.Ast

/-- Whether the member of a name is missing or null. -/
def lacks (name : String) (members : List (String × Json)) : Bool :=
  ((Json.find? name members).getD .null).isNull

/-- Whether the declaration with these members has an array type without a length. Types are told
apart by looking up their names, so a list or an object in their place is a fault. -/
def declaresDynamicArray (members : List (String × Json)) : Except ShapeError Bool :=
  match Json.find? "typeName" members with
  | some (.object typeMembers) =>
    match (Json.find? "nodeType" typeMembers).getD .null with
    | .text nodeType => .ok (nodeType == arrayTypeName && lacks "length" typeMembers)
    | .list _ | .object _ => .error .notName
    | .null | .bool _ | .number _ => .ok false
  | _ => .ok false

/-- Whether one of the declarations of a statement has an array type without a length. Only
objects are declarations, and none is looked at after the first that has. -/
def anyDeclaresDynamicArray : List Json → Except ShapeError Bool
  | [] => .ok false
  | .object members :: rest =>
    match declaresDynamicArray members with
    | .error error => .error error
    | .ok true => .ok true
    | .ok false => anyDeclaresDynamicArray rest
  | _ :: rest => anyDeclaresDynamicArray rest

/-- Whether a node is a declaration of variables. -/
def Node.isVariableDeclaration (node : Node) : Bool :=
  node.kind == .declaration

/-- Whether a node has, or is, an array type without a length. -/
def Node.isDynamicArray (node : Node) : Except ShapeError Bool :=
  match node.kind with
  | .declaration =>
    if node.nodeType = declarationStatement then do
      let declarations ←
        ((Json.find? "declarations" node.members).getD .null).itemsIfPresent
      anyDeclaresDynamicArray declarations
    else declaresDynamicArray node.members
  | .arrayType => .ok (lacks "length" node.members)
  | .other => .ok false

/-- Whether a byte range belongs to a declaration of a dynamically sized array. -/
def isDynamicArrayDeclaration (ast : Json) (start length : Int) : Except ShapeError Bool :=
  match enclosing? ast start length with
  | none => .ok false
  | some node => if node.isVariableDeclaration then node.isDynamicArray else .ok false

end Pinpoint.Ast
