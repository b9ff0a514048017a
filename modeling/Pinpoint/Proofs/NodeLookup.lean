import Pinpoint.Proofs.EnclosingNode

/-!
# Looking up the node of a byte range

The lookup keeps one node while it walks the tree. Here its answer is compared with all nodes of
the walk at once: no node around the range is shorter, none as short is deeper, and none that
agrees in both comes later. There is no answer exactly when there is no node to choose from, so a
range that has a node leaves one, at most as long, to every range inside it.
-/

namespace Pinpoint.Ast

/-- Whether the byte range of a node contains another one. -/
def Node.IsAround (node : Node) (start length : Int) : Prop :=
  node.start ≤ start ∧ start + length ≤ node.start + node.length

instance (node : Node) (start length : Int) : Decidable (node.IsAround start length) :=
  inferInstanceAs (Decidable (_ ∧ _))

/-- What the node of a byte range has to be among the nodes of a walk. -/
structure IsTightest (nodes : List Node) (start length : Int) (node : Node) : Prop where
  around : node.IsAround start length
  length_le : ∀ other ∈ nodes, other.IsAround start length → node.length ≤ other.length
  depth_le : ∀ other ∈ nodes, other.IsAround start length → other.length = node.length →
    other.depth ≤ node.depth
  /-- Of the nodes that are as short and as deep it is the last one. -/
  last : ∃ before after, nodes = before ++ node :: after ∧
    ∀ later ∈ after, later.IsAround start length → later.length = node.length →
      later.depth ≠ node.depth

variable {ast : Json} {start length : Int} {walk : List Node} {node : Node}

theorem Node.encloses_iff : node.encloses start length = true ↔ node.IsAround start length := by
  rw [encloses, Bool.and_eq_true, decide_eq_true_eq, decide_eq_true_eq, IsAround]

/-! ## The chosen node among all others -/

/-- A node is taken when it stands up to the nodes on both sides of it. -/
theorem chosen_iff : Chosen walk node ↔
    ∃ before after, walk = before ++ node :: after ∧
      (∀ earlier ∈ before, ¬earlier.Tighter node) ∧ ∀ later ∈ after, node.Tighter later := by
  constructor
  · intro chosen
    induction chosen with
    | @here node rest all => exact ⟨[], rest, rfl, by simp, all⟩
    | @there first node rest kept _ ih =>
        rcases ih with ⟨before, after, rfl, earlier, later⟩
        exact ⟨first :: before, after, rfl, List.forall_mem_cons.mpr ⟨kept, earlier⟩, later⟩
  · rintro ⟨before, after, rfl, earlier, later⟩
    induction before with
    | nil => exact .here later
    | cons first before ih =>
        rw [List.forall_mem_cons] at earlier
        exact .there earlier.1 (ih earlier.2)

theorem Node.not_tighter_iff {first second : Node} : ¬first.Tighter second ↔
    second.length ≤ first.length ∧
      (first.length = second.length → first.depth ≤ second.depth) := by
  rw [Tighter]
  omega

variable {candidate : Node} {side : List Node}

theorem mem_nodes_filter (member : candidate ∈ side) (around : candidate.IsAround start length) :
    candidate ∈ side.filter fun node => node.encloses start length :=
  List.mem_filter.mpr ⟨member, Node.encloses_iff.mpr around⟩

theorem isAround_of_mem_filter
    (member : candidate ∈ side.filter fun node => node.encloses start length) :
    candidate ∈ side ∧ candidate.IsAround start length := by
  rcases List.mem_filter.mp member with ⟨listed, around⟩
  exact ⟨listed, Node.encloses_iff.mp around⟩

/-- The node that is taken among those around a range is the tightest of the walk. -/
theorem isTightest_of_chosen
    (chosen : Chosen (walk.filter fun node => node.encloses start length) node) :
    IsTightest walk start length node := by
  rcases chosen_iff.mp chosen with ⟨before, after, cut, earlier, later⟩
  rcases List.filter_eq_append_iff.mp cut with ⟨front, rest, rfl, rfl, restCut⟩
  rcases List.filter_eq_cons_iff.mp restCut with ⟨loose, back, rfl, apart, around, rfl⟩
  have compared (other : Node) (member : other ∈ front ++ (loose ++ node :: back))
      (around : other.IsAround start length) : ¬other.Tighter node := by
    rw [List.mem_append, List.mem_append, List.mem_cons] at member
    rcases member with inFront | inLoose | rfl | inBack
    · exact earlier other (mem_nodes_filter inFront around)
    · exact absurd (Node.encloses_iff.mpr around) (apart other inLoose)
    · rw [Node.not_tighter_iff]
      omega
    · have tighter := later other (mem_nodes_filter inBack around)
      rw [Node.Tighter] at tighter
      rw [Node.not_tighter_iff]
      omega
  refine ⟨Node.encloses_iff.mp around, ?_, ?_, front ++ loose, back, by simp, ?_⟩
  · intro other member around
    exact (Node.not_tighter_iff.mp (compared other member around)).1
  · intro other member around same
    exact (Node.not_tighter_iff.mp (compared other member around)).2 same
  · intro other member around same
    have tighter := later other (mem_nodes_filter member around)
    rw [Node.Tighter] at tighter
    omega

theorem IsTightest.mem (tightest : IsTightest walk start length node) : node ∈ walk := by
  rcases tightest.last with ⟨before, after, rfl, -⟩
  exact List.mem_append_right _ List.mem_cons_self

theorem IsTightest.chosen (tightest : IsTightest walk start length node) :
    Chosen (walk.filter fun node => node.encloses start length) node := by
  have least := tightest.length_le
  have deepest := tightest.depth_le
  rcases tightest.last with ⟨before, after, rfl, later⟩
  refine chosen_iff.mpr ⟨before.filter fun node => node.encloses start length,
    after.filter fun node => node.encloses start length, ?_, ?_, ?_⟩
  · rw [List.filter_append, List.filter_cons, if_pos (Node.encloses_iff.mpr tightest.around)]
  · intro other member
    rcases isAround_of_mem_filter member with ⟨member, around⟩
    have listed : other ∈ before ++ node :: after := List.mem_append_left _ member
    exact Node.not_tighter_iff.mpr ⟨least other listed around, deepest other listed around⟩
  · intro other member
    rcases isAround_of_mem_filter member with ⟨member, around⟩
    have listed : other ∈ before ++ node :: after :=
      List.mem_append_right _ (List.mem_cons_of_mem _ member)
    have shorter := least other listed around
    have deeper := deepest other listed around
    have different := later other member around
    rw [Node.Tighter]
    omega

/-! ## The answers of the lookup -/

/-- A search among some nodes finds one. -/
theorem exists_tightest? (first : Node) (rest : List Node) :
    ∃ node, tightest? (first :: rest) = some node := by
  induction rest generalizing first with
  | nil => exact ⟨first, rfl⟩
  | cons second rest ih =>
      rw [tightest?_cons_cons]
      split
      next => exact ih second
      next => exact ih first

theorem enclosing?_of_negative (negative : start < 0 ∨ length < 0) :
    enclosing? ast start length = none := by
  rw [enclosing?, if_neg]
  simp only [Bool.and_eq_true, decide_eq_true_eq]
  omega

/-- The lookup answers with the tightest node of the walk. -/
theorem enclosing?_eq_some_iff_isTightest : enclosing? ast start length = some node ↔
    0 ≤ start ∧ 0 ≤ length ∧ IsTightest (nodes ast) start length node := by
  constructor
  · intro found
    have nonneg : ¬(start < 0 ∨ length < 0) := by
      intro negative
      rw [enclosing?_of_negative negative] at found
      cases found
    rw [not_or, Int.not_lt, Int.not_lt] at nonneg
    exact ⟨nonneg.1, nonneg.2,
      isTightest_of_chosen ((enclosing?_eq_some_iff nonneg.1 nonneg.2).mp found)⟩
  · rintro ⟨startNonneg, lengthNonneg, tightest⟩
    exact (enclosing?_eq_some_iff startNonneg lengthNonneg).mpr tightest.chosen

/-- A range that is not negative has a node if some node is around it. -/
theorem exists_enclosing? (startNonneg : 0 ≤ start) (lengthNonneg : 0 ≤ length)
    (listed : node ∈ nodes ast) (around : node.IsAround start length) :
    ∃ found, enclosing? ast start length = some found := by
  have member : node ∈ nodesAround ast start length := mem_nodes_filter listed around
  simp only [enclosing?_eq_some_iff startNonneg lengthNonneg, ← tightest?_eq_some_iff]
  cases candidates : nodesAround ast start length with
  | nil =>
      rw [candidates] at member
      cases member
  | cons first rest => exact exists_tightest? first rest

theorem enclosing?_eq_none_iff : enclosing? ast start length = none ↔
    ast.isPresent = false ∨ start < 0 ∨ length < 0 ∨
      ∀ node ∈ nodes ast, ¬node.IsAround start length := by
  constructor
  · intro missing
    by_cases negative : start < 0 ∨ length < 0
    · exact .inr (negative.imp id .inl)
    · rw [not_or, Int.not_lt, Int.not_lt] at negative
      refine .inr (.inr (.inr ?_))
      intro node listed around
      rcases exists_enclosing? negative.1 negative.2 listed around with ⟨found, answered⟩
      rw [missing] at answered
      cases answered
  · intro given
    rw [Option.eq_none_iff_forall_ne_some]
    intro node found
    rcases enclosing?_eq_some_iff_isTightest.mp found with ⟨startNonneg, lengthNonneg, tightest⟩
    rcases given with absent | negative | negative | none
    · have listed := tightest.mem
      rw [nodes_eq_nil_of_not_isPresent absent] at listed
      cases listed
    · omega
    · omega
    · exact none node tightest.mem tightest.around

/-- A node around a range is around every range inside it. -/
theorem Node.IsAround.inside (around : node.IsAround start length) {innerStart innerLength : Int}
    (startInside : start ≤ innerStart)
    (stopInside : innerStart + innerLength ≤ start + length) :
    node.IsAround innerStart innerLength :=
  ⟨Int.le_trans around.1 startInside, Int.le_trans stopInside around.2⟩

/-- The lookup has no answer exactly when there is no node to choose from, and otherwise answers
with the tightest node of the walk. Its length is not negative, and a range inside the looked-up
one has a node that is at most as long. -/
theorem enclosing?_exact (ast : Json) (start length : Int) :
    (enclosing? ast start length = none ↔
      ast.isPresent = false ∨ start < 0 ∨ length < 0 ∨
        ∀ node ∈ nodes ast, ¬node.IsAround start length) ∧
    (∀ node, enclosing? ast start length = some node ↔
      0 ≤ start ∧ 0 ≤ length ∧ IsTightest (nodes ast) start length node) ∧
    ∀ node, enclosing? ast start length = some node →
      0 ≤ node.length ∧
      ∀ innerStart innerLength, start ≤ innerStart → 0 ≤ innerLength →
        innerStart + innerLength ≤ start + length →
        ∃ inner, enclosing? ast innerStart innerLength = some inner ∧
          inner.length ≤ node.length := by
  refine ⟨enclosing?_eq_none_iff, fun _ => enclosing?_eq_some_iff_isTightest, ?_⟩
  intro node found
  rcases enclosing?_eq_some_iff_isTightest.mp found with ⟨startNonneg, lengthNonneg, tightest⟩
  rcases tightest.around with ⟨startAround, stopAround⟩
  refine ⟨by omega, ?_⟩
  intro innerStart innerLength startInside innerNonneg stopInside
  have around := tightest.around.inside startInside stopInside
  rcases exists_enclosing? (Int.le_trans startNonneg startInside) innerNonneg tightest.mem around
    with ⟨inner, answered⟩
  have least := (enclosing?_eq_some_iff_isTightest.mp answered).2.2.length_le
  exact ⟨inner, answered, least node tightest.mem around⟩

/-- A block with two statements at the same bytes, each with a node inside it that is as long, and
before them a statement of negative length. -/
def overlappingTree : Json :=
  .object
    [("nodeType", .text "Block"), ("src", .text "0:20:0"),
      ("statements", .list
        [.object [("nodeType", .text "Return"), ("src", .text "9:-4:0")],
          .object
            [("nodeType", .text "Call"), ("src", .text "4:6:0"),
              ("expression", .object [("nodeType", .text "Name"), ("src", .text "4:6:0")])],
          .object
            [("nodeType", .text "Emit"), ("src", .text "4:6:0"),
              ("event", .object [("nodeType", .text "Event"), ("src", .text "4:6:0")])]])]

/-- The last of the nodes inside the statements is taken, and a range that reaches over the
statements belongs to the block. -/
theorem enclosing?_exact_overlappingTree :
    ∃ event block,
      enclosing? overlappingTree 5 2 = some event ∧ event.nodeType = "Event" ∧ event.depth = 2 ∧
      IsTightest (nodes overlappingTree) 5 2 event ∧
      enclosing? overlappingTree 3 4 = some block ∧ block.nodeType = "Block" ∧
      (∃ inner, enclosing? overlappingTree 5 0 = some inner ∧ inner.length ≤ event.length) ∧
      enclosing? overlappingTree 19 2 = none := by
  have event : ∃ event, enclosing? overlappingTree 5 2 = some event ∧
      event.nodeType = "Event" ∧ event.depth = 2 := ⟨_, rfl, rfl, rfl⟩
  have block : ∃ block, enclosing? overlappingTree 3 4 = some block ∧
      block.nodeType = "Block" := ⟨_, rfl, rfl⟩
  rcases event with ⟨event, eventFound, eventType, eventDepth⟩
  rcases block with ⟨block, blockFound, blockType⟩
  rcases enclosing?_exact overlappingTree 5 2 with ⟨-, tightest, inside⟩
  rcases (inside event eventFound).2 5 0 (by decide) (by decide) (by decide) with
    ⟨inner, innerFound, shorter⟩
  exact ⟨event, block, eventFound, eventType, eventDepth,
    ((tightest event).mp eventFound).2.2, blockFound, blockType, ⟨inner, innerFound, shorter⟩,
    (enclosing?_exact overlappingTree 19 2).1.mpr (.inr (.inr (.inr (by decide))))⟩

end Pinpoint.Ast
