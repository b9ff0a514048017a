import Pinpoint.Ast.DynamicArray
import Pinpoint.Proofs.Results

/-!
# The node of a byte range

Of the nodes around a byte range the shortest one is taken, of equally short ones the deepest, and
of those that agree in both the last one of the walk. This module says so without the search that
finds the node, and says in the same way when that node declares a dynamically sized array.
-/

namespace Pinpoint.Ast

/-- Whether a node fits more tightly than another one: it is shorter, or as short and deeper. -/
def Node.Tighter (first second : Node) : Prop :=
  first.length < second.length ∨ first.length = second.length ∧ second.depth < first.depth

/-- Which of some nodes in the order of the walk is taken: none before it is tighter, and it is
tighter than each one after it. -/
inductive Chosen : List Node → Node → Prop where
  | here {node : Node} {rest : List Node} :
      (∀ later ∈ rest, node.Tighter later) → Chosen (node :: rest) node
  | there {first node : Node} {rest : List Node} :
      ¬first.Tighter node → Chosen rest node → Chosen (first :: rest) node

theorem Node.replaces_iff {node earlier : Node} :
    node.replaces earlier = true ↔ ¬earlier.Tighter node := by
  simp only [Node.replaces, Node.Tighter, Bool.or_eq_true, Bool.and_eq_true, decide_eq_true_eq]
  omega

theorem Node.not_tighter_trans {first second third : Node} (before : ¬first.Tighter second)
    (after : ¬second.Tighter third) : ¬first.Tighter third := by
  simp only [Node.Tighter] at *
  omega

theorem Node.not_tighter_of_tighter {first second third : Node} (tighter : first.Tighter second)
    (before : ¬first.Tighter third) : ¬second.Tighter third := by
  simp only [Node.Tighter] at *
  omega

theorem Chosen.mem {nodes : List Node} {node : Node} (chosen : Chosen nodes node) :
    node ∈ nodes := by
  induction chosen with
  | here => exact List.mem_cons_self
  | there _ _ ih => exact List.mem_cons_of_mem _ ih

/-! ## The search -/

/-- A node that is replaced by the next one leaves no trace. -/
theorem tightest?_cons_cons (first second : Node) (rest : List Node) :
    tightest? (first :: second :: rest) =
      if second.replaces first then tightest? (second :: rest) else tightest? (first :: rest) := by
  simp only [tightest?, List.foldl_cons]
  split <;> rfl

theorem chosen_cons_cons_of_tighter {first second node : Node} {rest : List Node}
    (tighter : first.Tighter second) :
    Chosen (first :: second :: rest) node ↔ Chosen (first :: rest) node := by
  constructor
  · intro chosen
    cases chosen with
    | here all => exact .here fun later member => all later (List.mem_cons_of_mem _ member)
    | there kept chosen =>
        cases chosen with
        | here => exact absurd tighter kept
        | there _ chosen => exact .there kept chosen
  · intro chosen
    cases chosen with
    | here all => exact .here (List.forall_mem_cons.mpr ⟨tighter, all⟩)
    | there kept chosen =>
        exact .there kept (.there (Node.not_tighter_of_tighter tighter kept) chosen)

theorem chosen_cons_cons_of_not_tighter {first second node : Node} {rest : List Node}
    (loose : ¬first.Tighter second) :
    Chosen (first :: second :: rest) node ↔ Chosen (second :: rest) node := by
  constructor
  · intro chosen
    cases chosen with
    | here all => exact absurd (all second List.mem_cons_self) loose
    | there _ chosen => exact chosen
  · intro chosen
    refine .there ?_ chosen
    cases chosen with
    | here => exact loose
    | there kept => exact Node.not_tighter_trans loose kept

/-- The search finds the node that is to be taken. -/
theorem tightest?_cons_eq_some_iff {first node : Node} {rest : List Node} :
    tightest? (first :: rest) = some node ↔ Chosen (first :: rest) node := by
  -- Two nodes at the front become one, whichever of them is kept.
  induction rest generalizing first with
  | nil =>
      constructor
      · intro found
        cases found
        exact .here (by simp)
      · intro chosen
        cases chosen with
        | here => rfl
        | there _ impossible => cases impossible
  | cons second rest ih =>
      rw [tightest?_cons_cons]
      split
      next replaced =>
        rw [ih, chosen_cons_cons_of_not_tighter (Node.replaces_iff.mp replaced)]
      next kept =>
        have tighter : first.Tighter second :=
          Classical.not_not.mp (mt Node.replaces_iff.mpr kept)
        rw [ih, chosen_cons_cons_of_tighter tighter]

theorem tightest?_eq_some_iff {nodes : List Node} {node : Node} :
    tightest? nodes = some node ↔ Chosen nodes node := by
  cases nodes with
  | nil =>
      constructor
      · intro impossible
        cases impossible
      · intro impossible
        cases impossible
  | cons first rest => exact tightest?_cons_eq_some_iff

theorem nodes_eq_nil_of_not_isPresent {ast : Json} (absent : ast.isPresent = false) :
    nodes ast = [] := by
  cases ast with
  | null | bool | number | text => rfl
  | list items =>
      cases items with
      | nil => rfl
      | cons => cases absent
  | object members =>
      cases members with
      | nil => rfl
      | cons => cases absent

/-- The nodes around a byte range, in the order of the walk. -/
def nodesAround (ast : Json) (start length : Int) : List Node :=
  (nodes ast).filter (·.encloses start length)

/-- The node of a range that is not negative is the one to be taken of those around it. -/
theorem enclosing?_eq_some_iff {ast : Json} {start length : Int} (startNonneg : 0 ≤ start)
    (lengthNonneg : 0 ≤ length) {node : Node} :
    enclosing? ast start length = some node ↔ Chosen (nodesAround ast start length) node := by
  rw [enclosing?, nodesAround]
  cases present : ast.isPresent with
  | false =>
      rw [nodes_eq_nil_of_not_isPresent present]
      constructor
      · intro impossible
        cases impossible
      · intro impossible
        cases impossible
  | true => simp [startNonneg, lengthNonneg, tightest?_eq_some_iff]

/-! ## Where nodes are read -/

mutual

/-- Every node of a walk was read from some object. -/
theorem exists_node?_of_mem_nodesIn : (depth : Nat) → (value : Json) → {node : Node} →
    node ∈ nodesIn depth value → ∃ around members, node? around members = some node
  | depth, .list items, _, member => by
      rw [nodesIn] at member
      exact exists_node?_of_mem_nodesInItems depth items member
  | depth, .object members, _, member => by
      rw [nodesIn] at member
      split at member
      next first found =>
        rcases List.mem_cons.mp member with rfl | later
        · exact ⟨depth, members, found⟩
        · exact exists_node?_of_mem_nodesInMembers (depth + 1) members later
      next => exact exists_node?_of_mem_nodesInMembers depth members member
  | depth, .null, _, member | depth, .bool _, _, member | depth, .number _, _, member
  | depth, .text _, _, member => by
      rw [nodesIn] at member
      cases member

theorem exists_node?_of_mem_nodesInItems : (depth : Nat) → (items : List Json) → {node : Node} →
    node ∈ nodesInItems depth items → ∃ around members, node? around members = some node
  | _, [], _, member => by
      rw [nodesInItems] at member
      cases member
  | depth, item :: rest, _, member => by
      rw [nodesInItems] at member
      rcases List.mem_append.mp member with inside | later
      · exact exists_node?_of_mem_nodesIn depth item inside
      · exact exists_node?_of_mem_nodesInItems depth rest later

theorem exists_node?_of_mem_nodesInMembers : (depth : Nat) → (members : List (String × Json)) →
    {node : Node} → node ∈ nodesInMembers depth members →
    ∃ around members, node? around members = some node
  | _, [], _, member => by
      rw [nodesInMembers] at member
      cases member
  | depth, (_, value) :: rest, _, member => by
      rw [nodesInMembers] at member
      rcases List.mem_append.mp member with inside | later
      · exact exists_node?_of_mem_nodesIn depth value inside
      · exact exists_node?_of_mem_nodesInMembers depth rest later

end

theorem kind_of_node? {depth : Nat} {members : List (String × Json)} {node : Node}
    (found : node? depth members = some node) : node.kind = .ofType node.nodeType := by
  simp only [node?, Option.bind_eq_bind, Option.bind_eq_some_iff] at found
  rcases found with ⟨range, -, nodeType, -, found⟩
  cases found
  rfl

theorem kind_of_mem_nodes {ast : Json} {node : Node} (member : node ∈ nodes ast) :
    node.kind = .ofType node.nodeType := by
  rcases exists_node?_of_mem_nodesIn 0 ast member with ⟨depth, members, found⟩
  exact kind_of_node? found

/-! ## Declarations of dynamically sized arrays -/

/-- Whether the members of a declaration give it an array type whose length is missing or null. -/
def HasDynamicArrayType (members : List (String × Json)) : Prop :=
  ∃ typeMembers, Json.find? "typeName" members = some (.object typeMembers) ∧
    Json.find? "nodeType" typeMembers = some (.text "ArrayTypeName") ∧
    (Json.find? "length" typeMembers = none ∨ Json.find? "length" typeMembers = some .null)

/-- Whether a node declares a dynamically sized array: it is a declaration of that type, or a
declaration statement that lists an object of that type. -/
def Node.DeclaresDynamicArray (node : Node) : Prop :=
  (node.nodeType = "VariableDeclaration" ∧ HasDynamicArrayType node.members) ∨
  (node.nodeType = "VariableDeclarationStatement" ∧
    ∃ declarations members, Json.find? "declarations" node.members = some (.list declarations) ∧
      .object members ∈ declarations ∧ HasDynamicArrayType members)

theorem lacks_iff {name : String} {members : List (String × Json)} :
    lacks name members = true ↔
      Json.find? name members = none ∨ Json.find? name members = some .null := by
  rw [lacks]
  cases found : Json.find? name members with
  | none => simp [Json.isNull]
  | some value => cases value <;> simp [Json.isNull]

theorem declaresDynamicArray_eq_ok {members : List (String × Json)} {answer : Bool}
    (returned : declaresDynamicArray members = .ok answer) :
    answer = true ↔ HasDynamicArrayType members := by
  rw [HasDynamicArrayType]
  rw [declaresDynamicArray] at returned
  split at returned
  next typeMembers typeName =>
    simp only [typeName, Option.some.injEq, Json.object.injEq, exists_eq_left']
    cases nodeType : Json.find? "nodeType" typeMembers with
    | none =>
        rw [nodeType] at returned
        cases returned
        simp
    | some value =>
        rw [nodeType, Option.getD_some] at returned
        cases value with
        | text name =>
            cases returned
            simp [arrayTypeName, lacks_iff]
        | null | bool | number =>
            cases returned
            simp
        | list | object => cases returned
  next notObject =>
    cases returned
    simp only [Bool.false_eq_true, false_iff]
    rintro ⟨typeMembers, typeName, -⟩
    exact notObject typeMembers typeName

theorem anyDeclaresDynamicArray_eq_ok {declarations : List Json} {answer : Bool}
    (returned : anyDeclaresDynamicArray declarations = .ok answer) :
    answer = true ↔ ∃ members, .object members ∈ declarations ∧ HasDynamicArrayType members := by
  fun_induction anyDeclaresDynamicArray declarations generalizing answer with
  | case1 =>
      cases returned
      simp
  | case2 => cases returned
  | case3 members rest found =>
      cases returned
      simp only [true_iff]
      exact ⟨members, List.mem_cons_self, (declaresDynamicArray_eq_ok found).mp rfl⟩
  | case4 members rest found ih =>
      have other : ¬HasDynamicArrayType members :=
        mt (declaresDynamicArray_eq_ok found).mpr Bool.false_ne_true
      rw [ih returned]
      constructor
      · rintro ⟨found, member, declares⟩
        exact ⟨found, List.mem_cons_of_mem _ member, declares⟩
      · rintro ⟨found, member, declares⟩
        rcases List.mem_cons.mp member with equal | later
        · cases equal
          exact absurd declares other
        · exact ⟨found, later, declares⟩
  | case5 rest first notObject ih =>
      rw [ih returned]
      constructor
      · rintro ⟨found, member, declares⟩
        exact ⟨found, List.mem_cons_of_mem _ member, declares⟩
      · rintro ⟨found, member, declares⟩
        rcases List.mem_cons.mp member with equal | later
        · exact absurd equal.symm (notObject found)
        · exact ⟨found, later, declares⟩

/-- Of what a value is made of, only the items of a list can be objects. -/
theorem object_mem_itemsIfPresent {value : Json} {items : List Json}
    (returned : value.itemsIfPresent = .ok items) {members : List (String × Json)} :
    .object members ∈ items ↔ ∃ listed, value = .list listed ∧ .object members ∈ listed := by
  rw [Json.itemsIfPresent] at returned
  cases value with
  | list listed =>
      cases listed with
      | nil =>
          cases returned
          simp
      | cons =>
          cases returned
          simp
  | null =>
      cases returned
      simp
  | bool given =>
      cases given with
      | false =>
          cases returned
          simp
      | true => cases returned
  | number =>
      split at returned
      next => cases returned
      next =>
        cases returned
        simp
  | text | object =>
      split at returned
      next =>
        cases returned
        simp
      next =>
        cases returned
        simp

theorem Node.isVariableDeclaration_iff {node : Node} (kind : node.kind = .ofType node.nodeType) :
    node.isVariableDeclaration = true ↔
      node.nodeType = "VariableDeclaration" ∨ node.nodeType = "VariableDeclarationStatement" := by
  rw [isVariableDeclaration, kind, NodeKind.ofType, declarationStatement]
  split
  next types => simp [types, show (NodeKind.declaration == NodeKind.declaration) = true from rfl]
  next others =>
    simp only [others, iff_false]
    split <;> exact Bool.false_ne_true

/-- Whether a declaration declares a dynamically sized array is answered as it should be. -/
theorem Node.isDynamicArray_eq_ok {node : Node} (kind : node.kind = .ofType node.nodeType)
    (types : node.nodeType = "VariableDeclaration" ∨
      node.nodeType = "VariableDeclarationStatement") {answer : Bool}
    (returned : node.isDynamicArray = .ok answer) :
    answer = true ↔ node.DeclaresDynamicArray := by
  have declared : node.kind = .declaration := by
    rw [kind, NodeKind.ofType]
    exact if_pos types
  simp only [isDynamicArray, declared] at returned
  rw [DeclaresDynamicArray]
  split at returned
  next statement =>
    rcases bind_eq_ok.mp returned with ⟨declarations, listed, returned⟩
    have other : declarationStatement ≠ "VariableDeclaration" := by decide
    have listedObject {found : List (String × Json)} :
        .object found ∈ declarations ↔ ∃ listed,
          Json.find? "declarations" node.members = some (.list listed) ∧
            .object found ∈ listed := by
      rw [object_mem_itemsIfPresent listed]
      cases Json.find? "declarations" node.members <;> simp
    simp only [anyDeclaresDynamicArray_eq_ok returned, statement, other, false_and, false_or,
      listedObject]
    constructor
    · rintro ⟨members, ⟨listed, found, member⟩, declares⟩
      exact ⟨rfl, listed, members, found, member, declares⟩
    · rintro ⟨-, listed, members, found, member, declares⟩
      exact ⟨members, ⟨listed, found, member⟩, declares⟩
  next single =>
    have plain : node.nodeType = "VariableDeclaration" := types.resolve_right single
    rw [declaresDynamicArray_eq_ok returned]
    simp [plain]

theorem Node.DeclaresDynamicArray.types {node : Node} (declares : node.DeclaresDynamicArray) :
    node.nodeType = "VariableDeclaration" ∨ node.nodeType = "VariableDeclarationStatement" := by
  rcases declares with ⟨plain, -⟩ | ⟨statement, -⟩
  · exact .inl plain
  · exact .inr statement

/-- The answer for a byte range is whether the node that is taken for it declares a dynamically
sized array. -/
theorem isDynamicArrayDeclaration_eq_ok {ast : Json} {start length : Int} {answer : Bool}
    (startNonneg : 0 ≤ start) (lengthNonneg : 0 ≤ length)
    (returned : isDynamicArrayDeclaration ast start length = .ok answer) :
    answer = true ↔
      ∃ node, Chosen (nodesAround ast start length) node ∧ node.DeclaresDynamicArray := by
  simp only [← enclosing?_eq_some_iff startNonneg lengthNonneg]
  rw [isDynamicArrayDeclaration] at returned
  cases found : enclosing? ast start length with
  | none =>
      rw [found] at returned
      cases returned
      simp
  | some node =>
      have chosen := (enclosing?_eq_some_iff startNonneg lengthNonneg).mp found
      have kind := kind_of_mem_nodes (List.mem_filter.mp chosen.mem).1
      simp only [found] at returned
      simp only [Option.some.injEq, exists_eq_left']
      split at returned
      next declaration =>
        exact node.isDynamicArray_eq_ok kind (Node.isVariableDeclaration_iff kind |>.mp declaration)
          returned
      next other =>
        cases returned
        simp only [Bool.false_eq_true, false_iff]
        intro declares
        exact other ((Node.isVariableDeclaration_iff kind).mpr declares.types)

end Pinpoint.Ast
