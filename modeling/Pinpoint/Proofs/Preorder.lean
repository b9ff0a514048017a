import Mathlib.Data.List.Basic
import Mathlib.Tactic.Choose
import Pinpoint.Ast.Node
import Pinpoint.Proofs.Attribution

/-!
# The walk of a syntax tree

The nodes of a tree can be listed with a stack: a value is taken off it, gives its node if it is
one, and what it contains is put on the stack from the last to the first. Each value carries the
number of nodes around it. This module shows that the walk ends for every value, and that it lists
what the recursion over the value does.

Nodes that look alike are told apart by their paths. The walk follows all paths that lead to a
node, in the order of their numbers, so it lists each node once and before the nodes inside it.
-/

namespace Pinpoint

namespace Json

/-- The values right inside a value, in order: the items of a list, or the values of an object. -/
def contents : Json → List Json
  | .list items => items
  | .object members => members.map (·.2)
  | .null | .bool _ | .number _ | .text _ => []

theorem sizeOf_lt_of_mem_contents {value inner : Json} (inside : inner ∈ value.contents) :
    sizeOf inner < sizeOf value := by
  cases value with
  | null | bool | number | text => cases inside
  | list items =>
      have smaller : sizeOf inner < sizeOf items := List.sizeOf_lt_of_mem inside
      rw [list.sizeOf_spec]
      omega
  | object members =>
      rcases List.mem_map.mp inside with ⟨⟨name, inner⟩, listed, rfl⟩
      have smaller := List.sizeOf_lt_of_mem listed
      rw [Prod.mk.sizeOf_spec] at smaller
      rw [object.sizeOf_spec]
      simp only
      omega

/-- What holds of a value as soon as it holds of the values inside it holds of every value. -/
@[elab_as_elim]
theorem contents_induction {motive : Json → Prop}
    (inside : ∀ value : Json, (∀ inner ∈ value.contents, motive inner) → motive value)
    (value : Json) : motive value :=
  inside value fun inner _ => contents_induction inside inner
termination_by sizeOf value
decreasing_by exact sizeOf_lt_of_mem_contents ‹_›

/-- Whether other values may stand inside a value. -/
def isContainer : Json → Bool
  | .list _ | .object _ => true
  | .null | .bool _ | .number _ | .text _ => false

/-- The value at a path, whose numbers tell which of the values inside is entered next. -/
def at? : Json → List Nat → Option Json
  | value, [] => some value
  | value, index :: path => value.contents[index]?.bind fun inner => inner.at? path

end Json

namespace Ast

/-! ## The recursion -/

/-- Whether a value stands for a node: it is an object with a byte range and a type. -/
def isNode : Json → Bool
  | .object members =>
    (byteRange? ((Json.find? "src" members).getD .null)).isSome &&
      (Json.find? "nodeType" members).isSome
  | .null | .bool _ | .number _ | .text _ | .list _ => false

/-- The node that a value stands for. -/
def nodeOf? (depth : Nat) : Json → Option Node
  | .object members => node? depth members
  | .null | .bool _ | .number _ | .text _ | .list _ => none

/-- A node of a type and a byte range. -/
def nodeWith (depth : Nat) (members : List (String × Json)) (range : Int × Int)
    (nodeType : Json) : Node :=
  { kind := .ofType nodeType.display, nodeType := nodeType.display
    start := range.1, length := range.2, depth, members }

theorem node?_of_some {depth : Nat} {members : List (String × Json)} {range : Int × Int}
    {nodeType : Json} (ranged : byteRange? ((Json.find? "src" members).getD .null) = some range)
    (typed : Json.find? "nodeType" members = some nodeType) :
    node? depth members = some (nodeWith depth members range nodeType) := by
  rw [node?, ranged, typed]
  rfl

theorem node?_of_none {depth : Nat} {members : List (String × Json)}
    (absent : byteRange? ((Json.find? "src" members).getD .null) = none ∨
      Json.find? "nodeType" members = none) : node? depth members = none := by
  rw [node?]
  rcases absent with unranged | untyped
  · rw [unranged]
    rfl
  · rw [untyped]
    cases byteRange? ((Json.find? "src" members).getD .null) <;> rfl

theorem isSome_nodeOf? (depth : Nat) (value : Json) :
    (nodeOf? depth value).isSome = isNode value := by
  cases value with
  | null | bool | number | text | list => rfl
  | object members =>
      rw [nodeOf?, isNode]
      cases ranged : byteRange? ((Json.find? "src" members).getD .null) with
      | none => rw [node?_of_none (.inl ranged)]; rfl
      | some range =>
          cases typed : Json.find? "nodeType" members with
          | none => rw [node?_of_none (.inr typed)]; rfl
          | some nodeType => rw [node?_of_some ranged typed]; rfl

theorem nodesInItems_eq (depth : Nat) (items : List Json) :
    nodesInItems depth items = items.flatMap (nodesIn depth) := by
  induction items with
  | nil => rfl
  | cons item rest ih => rw [nodesInItems, ih, List.flatMap_cons]

theorem nodesInMembers_eq (depth : Nat) (members : List (String × Json)) :
    nodesInMembers depth members = (members.map (·.2)).flatMap (nodesIn depth) := by
  induction members with
  | nil => rfl
  | cons member rest ih => rw [nodesInMembers, ih, List.map_cons, List.flatMap_cons]

/-- A value gives its own node and then what the values inside it give, which is one node deeper
if there is one. -/
theorem nodesIn_eq (depth : Nat) (value : Json) :
    nodesIn depth value = (nodeOf? depth value).toList ++
      value.contents.flatMap (nodesIn (depth + (isNode value).toNat)) := by
  rw [← isSome_nodeOf? depth]
  cases value with
  | null | bool | number | text => rfl
  | list items => rw [nodesIn, nodesInItems_eq]; rfl
  | object members =>
      rw [nodesIn, nodeOf?]
      cases node? depth members with
      | none => simp only [nodesInMembers_eq]; rfl
      | some node => simp only [nodesInMembers_eq]; rfl

/-- Only lists and objects contribute to a walk. -/
theorem flatMap_filter_isContainer (depth : Nat) (values : List Json) :
    (values.filter Json.isContainer).flatMap (nodesIn depth) = values.flatMap (nodesIn depth) := by
  induction values with
  | nil => rfl
  | cons value rest ih =>
      cases value with
      | null | bool | number | text => exact ih
      | list | object => exact congrArg (nodesIn depth _ ++ ·) ih

theorem nodesIn_of_some {depth : Nat} {members : List (String × Json)} {node : Node}
    (found : node? depth members = some node) :
    nodesIn depth (.object members) =
      node :: ((members.map (·.2)).filter Json.isContainer).flatMap (nodesIn (depth + 1)) := by
  rw [nodesIn, found, flatMap_filter_isContainer, ← nodesInMembers_eq]

theorem nodesIn_of_none {depth : Nat} {members : List (String × Json)}
    (absent : node? depth members = none) :
    nodesIn depth (.object members) =
      ((members.map (·.2)).filter Json.isContainer).flatMap (nodesIn depth) := by
  rw [nodesIn, absent, flatMap_filter_isContainer, ← nodesInMembers_eq]

/-- What the nodes of a value are by recursion: a list gives those of its items, and an object
itself, if it is a node, and then those of its lists and objects, one deeper if it is. -/
structure ListsNodes (give : Nat → Json → List Node) : Prop where
  list : ∀ depth items, give depth (.list items) = items.flatMap (give depth)
  node : ∀ depth members range nodeType,
    byteRange? ((Json.find? "src" members).getD .null) = some range →
    Json.find? "nodeType" members = some nodeType →
    give depth (.object members) = nodeWith depth members range nodeType ::
      ((members.map (·.2)).filter Json.isContainer).flatMap (give (depth + 1))
  plain : ∀ depth members,
    byteRange? ((Json.find? "src" members).getD .null) = none ∨
      Json.find? "nodeType" members = none →
    give depth (.object members) =
      ((members.map (·.2)).filter Json.isContainer).flatMap (give depth)
  other : ∀ depth value, value.isContainer = false → give depth value = []

theorem listsNodes_nodesIn : ListsNodes nodesIn where
  list := by
    intro depth items
    rw [nodesIn, nodesInItems_eq]
  node := fun _ _ _ _ ranged typed => nodesIn_of_some (node?_of_some ranged typed)
  plain := fun _ _ absent => nodesIn_of_none (node?_of_none absent)
  other := by
    intro depth value plain
    cases value with
    | null | bool | number | text => rfl
    | list | object => cases plain

/-- The recursion has one solution. -/
theorem ListsNodes.eq {give : Nat → Json → List Node} (lists : ListsNodes give) :
    give = nodesIn := by
  have same (value : Json) : ∀ depth, give depth value = nodesIn depth value := by
    induction value using Json.contents_induction with
    | inside value ih =>
      intro depth
      cases value with
      | null | bool | number | text => exact lists.other depth _ rfl
      | list items =>
          rw [lists.list, listsNodes_nodesIn.list]
          exact List.flatMap_congr fun item listed => ih item listed depth
      | object members =>
          have inner (around : Nat) :
              ((members.map (·.2)).filter Json.isContainer).flatMap (give around) =
                ((members.map (·.2)).filter Json.isContainer).flatMap (nodesIn around) :=
            List.flatMap_congr fun value listed => ih value (List.mem_filter.mp listed).1 around
          cases ranged : byteRange? ((Json.find? "src" members).getD .null) with
          | none =>
              rw [lists.plain _ _ (.inl ranged), listsNodes_nodesIn.plain _ _ (.inl ranged), inner]
          | some range =>
              cases typed : Json.find? "nodeType" members with
              | none =>
                  rw [lists.plain _ _ (.inr typed), listsNodes_nodesIn.plain _ _ (.inr typed),
                    inner]
              | some nodeType =>
                  rw [lists.node _ _ _ _ ranged typed,
                    listsNodes_nodesIn.node _ _ _ _ ranged typed, inner]
  funext depth value
  exact same value depth

/-! ## The stack -/

/-- Values with the number of nodes around each. The top is at the end. -/
abbrev Stack := List (Json × Nat)

/-- What a value gives when it is taken off the stack: its node, if it is one, and what is put on
the stack for it. -/
def visit (depth : Nat) : Json → List Node × Stack
  | .list items => ([], items.reverse.map (·, depth))
  | .object members =>
    let inner := ((members.map (·.2)).filter Json.isContainer).reverse
    match node? depth members with
    | some node => ([node], inner.map (·, depth + 1))
    | none => ([], inner.map (·, depth))
  | .null | .bool _ | .number _ | .text _ => ([], [])

theorem visit_of_some {depth : Nat} {members : List (String × Json)} {node : Node}
    (found : node? depth members = some node) :
    visit depth (.object members) =
      ([node], ((members.map (·.2)).filter Json.isContainer).reverse.map (·, depth + 1)) := by
  rw [visit, found]

theorem visit_of_none {depth : Nat} {members : List (String × Json)}
    (absent : node? depth members = none) :
    visit depth (.object members) =
      ([], ((members.map (·.2)).filter Json.isContainer).reverse.map (·, depth)) := by
  rw [visit, absent]

/-- Takes the top off a stack: the nodes that it gives, and the stack that is left. -/
def turn? (stack : Stack) : Option (List Node × Stack) :=
  stack.getLast?.map fun top =>
    ((visit top.2 top.1).1, stack.dropLast ++ (visit top.2 top.1).2)

/-- Whether the walk of a stack ends and gives some nodes. -/
inductive Walks : Stack → List Node → Prop where
  | done {stack : Stack} : turn? stack = none → Walks stack []
  | next {stack rest : Stack} {found later : List Node} :
      turn? stack = some (found, rest) → Walks rest later → Walks stack (found ++ later)

/-- A value on top of the stack is taken off first. -/
theorem Walks.visit {below pushed : Stack} {found later : List Node} {value : Json} {depth : Nat}
    (walks : Walks (below ++ pushed) later) (visited : visit depth value = (found, pushed)) :
    Walks (below ++ [(value, depth)]) (found ++ later) := by
  refine .next ?_ walks
  rw [turn?, List.getLast?_concat, List.dropLast_concat, Option.map_some, visited]

/-- Every turn is determined by the stack, so a walk gives one list only. -/
theorem Walks.unique {stack : Stack} {first second : List Node} (walks : Walks stack first)
    (other : Walks stack second) : first = second := by
  induction walks generalizing second with
  | done stopped =>
      cases other with
      | done => rfl
      | next turned _ =>
          rw [stopped] at turned
          cases turned
  | next turned _ ih =>
      cases other with
      | done stopped =>
          rw [turned] at stopped
          cases stopped
      | next otherTurned later =>
          rw [turned] at otherTurned
          cases otherTurned
          rw [ih later]

/-- Values that are walked when they are on top of a stack are walked in order when they lie on it
from the last to the first. -/
theorem walks_reverse {values : List Json} {depth : Nat}
    (each : ∀ value ∈ values, ∀ {below : Stack} {later : List Node}, Walks below later →
      Walks (below ++ [(value, depth)]) (nodesIn depth value ++ later))
    {below : Stack} {later : List Node} (walks : Walks below later) :
    Walks (below ++ values.reverse.map (·, depth)) (values.flatMap (nodesIn depth) ++ later) := by
  induction values with
  | nil =>
      rw [List.reverse_nil, List.map_nil, List.append_nil]
      exact walks
  | cons value rest ih =>
      rcases List.forall_mem_cons.mp each with ⟨top, others⟩
      rw [List.reverse_cons, List.map_append, ← List.append_assoc, List.flatMap_cons,
        List.append_assoc (nodesIn depth value)]
      exact top (ih others)

/-- A value on top of a stack is walked with all that it contains before anything below it. -/
theorem walks_append_singleton (value : Json) (depth : Nat) {below : Stack} {later : List Node}
    (walks : Walks below later) :
    Walks (below ++ [(value, depth)]) (nodesIn depth value ++ later) := by
  -- What lies below is arbitrary, since the values inside are walked with their later siblings
  -- below them.
  induction value using Json.contents_induction generalizing depth below later with
  | inside value ih =>
    cases value with
    | null | bool | number | text =>
        rw [← List.append_nil below] at walks
        exact walks.visit rfl
    | list items =>
        have inner := @walks_reverse items depth
          (fun item listed _ _ => ih item listed depth) _ _ walks
        have visited : visit depth (.list items) = ([], items.reverse.map (·, depth)) := rfl
        rw [listsNodes_nodesIn.list]
        exact inner.visit visited
    | object members =>
        have inner (around : Nat) := @walks_reverse
          ((members.map (·.2)).filter Json.isContainer) around
          (fun value listed _ _ => ih value (List.mem_of_mem_filter listed) around) _ _ walks
        cases found : node? depth members with
        | some node =>
            rw [nodesIn_of_some found]
            exact (inner (depth + 1)).visit (visit_of_some found)
        | none =>
            rw [nodesIn_of_none found]
            exact (inner depth).visit (visit_of_none found)

/-- The walk of a tree ends with the nodes that the recursion gives. -/
theorem walks_singleton_iff {ast : Json} {depth : Nat} {found : List Node} :
    Walks [(ast, depth)] found ↔ found = nodesIn depth ast := by
  have walked := walks_append_singleton ast depth (@Walks.done [] rfl)
  rw [List.append_nil] at walked
  constructor
  · exact fun walks => walks.unique walked
  · rintro rfl
    exact walked

/-! ## Paths -/

/-- The number of nodes that a path goes through before it ends. -/
def nodesAbove (ast : Json) (path : List Nat) : Nat :=
  (List.range path.length).countP fun length => (ast.at? (path.take length)).any isNode

/-- The node at a path. -/
def nodeAt? (ast : Json) (path : List Nat) : Option Node :=
  (ast.at? path).bind (nodeOf? (nodesAbove ast path))

theorem at?_cons {value inner : Json} {index : Nat} (listed : value.contents[index]? = some inner)
    (path : List Nat) : value.at? (index :: path) = inner.at? path := by
  rw [Json.at?, listed, Option.bind_some]

theorem nodesAbove_cons {value inner : Json} {index : Nat}
    (listed : value.contents[index]? = some inner) (path : List Nat) :
    nodesAbove value (index :: path) = (isNode value).toNat + nodesAbove inner path := by
  have below : (fun length => (value.at? ((index :: path).take length)).any isNode) ∘ Nat.succ =
      fun length => (inner.at? (path.take length)).any isNode := by
    funext length
    rw [Function.comp_apply, List.take_succ_cons, at?_cons listed]
  rw [nodesAbove, List.length_cons, List.range_succ_eq_map, List.countP_cons, List.countP_map,
    below, ← nodesAbove, Nat.add_comm]
  congr 1
  rw [List.take_zero, Json.at?, Option.any_some]
  cases isNode value <;> rfl

/-- Whether a path leads to a node. -/
def LeadsToNode (ast : Json) (path : List Nat) : Prop :=
  (ast.at? path).any isNode = true

/-- Whether some paths are those to the nodes of a value, in the order of their numbers and of the
walk. The nodes around the value are counted too. -/
structure Follows (value : Json) (paths : List (List Nat)) : Prop where
  mem_iff : ∀ path, path ∈ paths ↔ LeadsToNode value path
  ordered : paths.Pairwise (· < ·)
  nodes_eq : ∀ depth, paths.map (fun path =>
      (value.at? path).bind (nodeOf? (depth + nodesAbove value path))) =
    (nodesIn depth value).map some

section Through

variable {value : Json} {paths : Json → List (List Nat)}

/-- The path to a value itself, if it is a node. -/
def pathHere (value : Json) : List (List Nat) :=
  if isNode value then [[]] else []

/-- The paths into the values inside a value. -/
def pathsInside (value : Json) (paths : Json → List (List Nat)) : List (List Nat) :=
  value.contents.zipIdx.flatMap fun pair => (paths pair.1).map (pair.2 :: ·)

theorem mem_pathHere {path : List Nat} :
    path ∈ pathHere value ↔ path = [] ∧ isNode value = true := by
  cases holds : isNode value <;> simp [pathHere, holds]

theorem mem_pathsInside {path : List Nat} :
    path ∈ pathsInside value paths ↔
      ∃ inner index rest, value.contents[index]? = some inner ∧ rest ∈ paths inner ∧
        path = index :: rest := by
  simp only [pathsInside, List.mem_flatMap, List.mem_map, List.mem_zipIdx_iff_getElem?,
    Prod.exists]
  constructor
  · rintro ⟨inner, index, listed, rest, member, rfl⟩
    exact ⟨inner, index, rest, listed, member, rfl⟩
  · rintro ⟨inner, index, rest, listed, member, rfl⟩
    exact ⟨inner, index, listed, rest, member, rfl⟩

variable (follows : ∀ inner ∈ value.contents, Follows inner (paths inner))

include follows

theorem mem_pathsThrough_iff (path : List Nat) :
    path ∈ pathHere value ++ pathsInside value paths ↔ LeadsToNode value path := by
  rw [List.mem_append, mem_pathHere, mem_pathsInside, LeadsToNode]
  cases path with
  | nil => simp [Json.at?]
  | cons index rest =>
      simp only [List.cons_ne_nil, false_and, false_or, List.cons.injEq]
      cases listed : value.contents[index]? with
      | none =>
          rw [Json.at?, listed]
          simp only [Option.bind_none, Option.any_none, Bool.false_eq_true, iff_false]
          rintro ⟨inner, _, _, found, -, rfl, -⟩
          rw [listed] at found
          cases found
      | some inner =>
          rw [at?_cons listed, ← LeadsToNode,
            ← (follows inner (List.mem_of_getElem? listed)).mem_iff]
          constructor
          · rintro ⟨_, _, _, found, member, rfl, rfl⟩
            rw [listed] at found
            cases found
            exact member
          · exact fun member => ⟨inner, index, rest, listed, member, rfl, rfl⟩

theorem pathsThrough_pairwise :
    (pathHere value ++ pathsInside value paths).Pairwise (· < ·) := by
  refine List.pairwise_append.mpr ⟨?_, List.pairwise_flatMap.mpr ⟨?_, ?_⟩, ?_⟩
  · cases holds : isNode value <;> simp [pathHere, holds]
  · rintro ⟨inner, index⟩ listed
    have contained := List.mem_of_getElem? (List.mem_zipIdx_iff_getElem?.mp listed)
    refine List.pairwise_map.mpr ((follows inner contained).ordered.imp ?_)
    exact fun before => List.cons_lt_cons_iff.mpr (.inr ⟨rfl, before⟩)
  · refine (Batch.zipIdx_pairwise value.contents).imp ?_
    rintro ⟨first, firstIndex⟩ ⟨second, secondIndex⟩ before _ firstMem _ secondMem
    rcases List.mem_map.mp firstMem with ⟨firstPath, -, rfl⟩
    rcases List.mem_map.mp secondMem with ⟨secondPath, -, rfl⟩
    exact List.cons_lt_cons_iff.mpr (.inl before)
  · intro path member other otherMem
    rcases mem_pathsInside.mp otherMem with ⟨_, index, rest, -, -, rfl⟩
    rw [(mem_pathHere.mp member).1]
    exact List.nil_lt_cons _ _

omit follows in
theorem map_pathHere (depth : Nat) :
    (pathHere value).map (fun path =>
        (value.at? path).bind (nodeOf? (depth + nodesAbove value path))) =
      (nodeOf? depth value).toList.map some := by
  rw [pathHere, ← isSome_nodeOf? depth]
  cases found : nodeOf? depth value with
  | none => rfl
  | some node => simp [Json.at?, nodesAbove, found]

theorem map_pathsInside (depth : Nat) :
    (pathsInside value paths).map (fun path =>
        (value.at? path).bind (nodeOf? (depth + nodesAbove value path))) =
      (value.contents.flatMap (nodesIn (depth + (isNode value).toNat))).map some := by
  have each : ∀ pair ∈ value.contents.zipIdx,
      ((paths pair.1).map (pair.2 :: ·)).map (fun path =>
        (value.at? path).bind (nodeOf? (depth + nodesAbove value path))) =
          (nodesIn (depth + (isNode value).toNat) pair.1).map some := by
    rintro ⟨inner, index⟩ member
    have listed := List.mem_zipIdx_iff_getElem?.mp member
    rw [← (follows inner (List.mem_of_getElem? listed)).nodes_eq, List.map_map]
    apply List.map_congr_left
    intro path _
    rw [Function.comp_apply, at?_cons listed, nodesAbove_cons listed, Nat.add_assoc]
  rw [pathsInside, List.map_flatMap, List.map_flatMap, List.flatMap_congr each, List.flatMap_def,
    List.flatMap_def, Batch.map_zipIdx value.contents 0 fun inner =>
      (nodesIn (depth + (isNode value).toNat) inner).map some]

/-- The walk of a value follows the path to the value and then those into what is inside. -/
theorem follows_pathsThrough : Follows value (pathHere value ++ pathsInside value paths) where
  mem_iff := mem_pathsThrough_iff follows
  ordered := pathsThrough_pairwise follows
  nodes_eq := by
    intro depth
    rw [nodesIn_eq, List.map_append, List.map_append, map_pathHere, map_pathsInside follows]

end Through

theorem exists_follows (value : Json) : ∃ paths, Follows value paths := by
  induction value using Json.contents_induction with
  | inside value ih =>
    choose! paths follows using ih
    exact ⟨_, follows_pathsThrough follows⟩

/-! ## The walk -/

/-- Which paths a walk follows: all that lead to a node, in the order of their numbers, so that no
path comes twice and none comes after a path that it leads to. -/
structure IsPreorder (ast : Json) (paths : List (List Nat)) : Prop where
  mem_iff : ∀ path, path ∈ paths ↔ LeadsToNode ast path
  ordered : paths.Pairwise (· < ·)
  nodup : paths.Nodup
  outer_first : paths.Pairwise fun earlier later => ¬later <+: earlier

theorem not_lt_of_isPrefix {first second : List Nat} (leads : first <+: second) :
    ¬second < first := by
  induction first generalizing second with
  | nil => exact List.not_lt_nil _
  | cons index rest ih =>
      rcases leads with ⟨more, rfl⟩
      rw [List.cons_append, List.cons_lt_cons_iff, not_or]
      exact ⟨Nat.lt_irrefl index, fun given => ih (List.prefix_append rest more) given.2⟩

theorem Follows.isPreorder {ast : Json} {paths : List (List Nat)} (follows : Follows ast paths) :
    IsPreorder ast paths where
  mem_iff := follows.mem_iff
  ordered := follows.ordered
  nodup := by
    refine follows.ordered.imp ?_
    rintro earlier _ before rfl
    exact List.lt_irrefl earlier before
  outer_first := follows.ordered.imp fun before leads => not_lt_of_isPrefix leads before

/-- The walk with a stack ends for every tree, with the nodes that are given by recursion, and only
one recursion gives them. They are the nodes at the paths that lead to one, in order, and the depth
of each is the number of nodes that its path goes through. -/
theorem nodes_preorder (ast : Json) :
    (∀ found, Walks [(ast, 0)] found ↔ found = nodes ast) ∧
    (∀ give, ListsNodes give ↔ give = nodesIn) ∧
    ∃ paths, IsPreorder ast paths ∧ paths.map (nodeAt? ast) = (nodes ast).map some := by
  refine ⟨fun _ => walks_singleton_iff, ?_, ?_⟩
  · intro give
    constructor
    · exact fun lists => lists.eq
    · rintro rfl
      exact listsNodes_nodesIn
  · rcases exists_follows ast with ⟨paths, follows⟩
    have found := follows.nodes_eq 0
    simp only [Nat.zero_add] at found
    exact ⟨paths, follows.isPreorder, found⟩

end Ast

end Pinpoint
