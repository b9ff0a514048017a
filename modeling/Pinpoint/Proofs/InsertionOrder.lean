import Mathlib.Data.List.Permutation
import Pinpoint.Proofs.Gathering

/-!
# Reports and the order of insertion

Diagnostics of one place are ordered by their fields so that a report does not depend on the order
in which they were found. The order leaves out one field: two diagnostics that differ in whether
they are fatal, and in nothing else, keep the order in which they came. So a report depends on its
diagnostics as a set exactly when no two of them differ in that alone. Its groups, their counts and
what their messages say depend on the set in any case.
-/

namespace Pinpoint

namespace Diagnostic

/-- The diagnostic that differs from this one in its fatality alone. -/
def twin (diagnostic : Diagnostic String) : Diagnostic String :=
  { diagnostic with fatal := !diagnostic.fatal }

/-- A diagnostic without its fatality. -/
def unmarked (diagnostic : Diagnostic String) : Diagnostic String :=
  { diagnostic with fatal := false }

@[simp] theorem twin_twin (diagnostic : Diagnostic String) : diagnostic.twin.twin = diagnostic := by
  rw [twin, twin, Bool.not_not]

theorem twin_ne (diagnostic : Diagnostic String) : diagnostic ≠ diagnostic.twin := by
  intro same
  have fatal := congrArg Diagnostic.fatal same
  simp [twin] at fatal

theorem order_twin (diagnostic : Diagnostic String) : order diagnostic diagnostic.twin = .eq := by
  have same : order diagnostic diagnostic = .eq := Std.ReflCmp.compare_self
  exact same

/-- The order tells diagnostics apart exactly when none of them is the twin of another one. -/
theorem separated_iff {diagnostics : List (Diagnostic String)} :
    Separated diagnostics ↔ ∀ diagnostic ∈ diagnostics, diagnostic.twin ∉ diagnostics := by
  constructor
  · intro separated diagnostic member twinMember
    exact twin_ne diagnostic (separated _ member _ twinMember (order_twin diagnostic))
  · intro alone first firstMem second secondMem same
    by_cases fatal : first.fatal = second.fatal
    · exact eq_of_order_eq same fatal
    · have twinSame : order first.twin second = .eq := same
      have twinFatal : (!first.fatal) = second.fatal := by
        rw [Bool.not_eq_eq_eq_not]
        exact Bool.eq_not.mpr fatal
      have isTwin := eq_of_order_eq twinSame twinFatal
      exact absurd (isTwin ▸ secondMem) (alone first firstMem)

/-- Sorted diagnostics that are rearranged are the same apart from their fatality. -/
theorem map_unmarked_eq {first second : List (Diagnostic String)} (perm : first.Perm second)
    (firstOrdered : first.Pairwise fun left right => (order left right).isLE = true)
    (secondOrdered : second.Pairwise fun left right => (order left right).isLE = true) :
    first.map unmarked = second.map unmarked := by
  have firstSorted : (first.map unmarked).Pairwise
      fun left right => (order left right).isLE = true := List.pairwise_map.mpr firstOrdered
  have secondSorted : (second.map unmarked).Pairwise
      fun left right => (order left right).isLE = true := List.pairwise_map.mpr secondOrdered
  apply List.Perm.eq_of_pairwise _ firstSorted secondSorted (perm.map unmarked)
  intro left right leftMem rightMem leftFirst rightFirst
  rcases List.mem_map.mp leftMem with ⟨_, -, rfl⟩
  rcases List.mem_map.mp rightMem with ⟨_, -, rfl⟩
  exact eq_of_order_eq (Std.OrientedCmp.isLE_antisymm leftFirst rightFirst) rfl

end Diagnostic

/-! ## The groups of a set of diagnostics -/

/-- Whether a group is another one with its messages rearranged, and if so only among those that
differ in fatality alone. -/
structure FileReport.Rearranges (group other : FileReport) : Prop where
  filePath_eq : group.filePath = other.filePath
  errorCount_eq : group.errorCount = other.errorCount
  warningCount_eq : group.warningCount = other.warningCount
  fixableErrorCount_eq : group.fixableErrorCount = other.fixableErrorCount
  fixableWarningCount_eq : group.fixableWarningCount = other.fixableWarningCount
  messages_perm : group.messages.Perm other.messages
  unmarked_eq : group.messages.map Diagnostic.unmarked = other.messages.map Diagnostic.unmarked

variable {first second : List (Diagnostic String)}

theorem mem_ofDiagnostics {diagnostics : List (Diagnostic String)} {name : String}
    {group : FileReport} :
    (name, group) ∈ GroupedReport.ofDiagnostics diagnostics ↔
      (∃ diagnostic ∈ diagnostics, baseName diagnostic.filePath = name) ∧
        group = groupNamed name diagnostics := by
  rw [ofDiagnostics_eq_map, List.mem_map]
  constructor
  · intro given
    rcases given with ⟨_, listed, equal⟩
    cases equal
    exact ⟨mem_names_ofDiagnostics.mp (Text.mem_sortedNames.mp listed), rfl⟩
  · intro given
    rcases given with ⟨present, rfl⟩
    exact ⟨name, Text.mem_sortedNames.mpr (mem_names_ofDiagnostics.mpr present), rfl⟩

theorem filePath_groupNamed_eq (name : String) (diagnostics : List (Diagnostic String)) :
    (groupNamed name diagnostics).filePath =
      (pathsNamed name diagnostics).head?.getD "" := by
  rw [groupNamed, FileReport.merge]
  cases pathsNamed name diagnostics with
  | nil => rfl
  | cons path paths => rfl

theorem groupNamed_rearranges (same : ∀ diagnostic, diagnostic ∈ first ↔ diagnostic ∈ second)
    (name : String) : (groupNamed name first).Rearranges (groupNamed name second) := by
  have perm : (groupNamed name first).messages.Perm (groupNamed name second).messages := by
    apply (List.perm_ext_iff_of_nodup (nodup_messages_groupNamed _ _)
      (nodup_messages_groupNamed _ _)).mpr
    intro diagnostic
    rw [mem_messages_groupNamed, mem_messages_groupNamed, same]
  have firstFixable := fixableCounts_groupNamed name first
  have secondFixable := fixableCounts_groupNamed name second
  exact {
    filePath_eq := by
      rw [filePath_groupNamed_eq, filePath_groupNamed_eq, pathsNamed_congr same]
    errorCount_eq := by rw [errorCount_groupNamed, errorCount_groupNamed, perm.countP_eq]
    warningCount_eq := by rw [warningCount_groupNamed, warningCount_groupNamed, perm.countP_eq]
    fixableErrorCount_eq := by rw [firstFixable.1, secondFixable.1]
    fixableWarningCount_eq := by rw [firstFixable.2, secondFixable.2]
    messages_perm := perm
    unmarked_eq := by
      apply Diagnostic.map_unmarked_eq perm
      · rw [messages_groupNamed]
        exact Diagnostic.sort_pairwise _
      · rw [messages_groupNamed]
        exact Diagnostic.sort_pairwise _ }

/-! ## Twins keep the order in which they came -/

/-- Of two elements of a list without repetitions only one comes before the other. -/
theorem not_sublist_swap {α : Type} {left right : α} {values : List α} (distinct : values.Nodup)
    (before : [left, right].Sublist values) : ¬[right, left].Sublist values := by
  induction values with
  | nil => cases before
  | cons value rest ih =>
      rcases List.nodup_cons.mp distinct with ⟨fresh, restDistinct⟩
      intro after
      cases before with
      | cons _ before =>
          cases after with
          | cons _ after => exact ih restDistinct before after
          | cons_cons _ after => exact fresh (before.subset (by simp))
      | cons_cons _ before =>
          cases after with
          | cons _ after => exact fresh (after.subset (by simp))
          | cons_cons _ after => exact fresh (before.subset List.mem_cons_self)

theorem messages_ofPath_sublist {name path : String} {diagnostics : List (Diagnostic String)}
    (listed : path ∈ pathsNamed name diagnostics) :
    (FileReport.ofPath path diagnostics).messages.Sublist (messagesNamed name diagnostics) := by
  rw [messagesNamed, List.flatMap_def]
  exact List.sublist_flatten_of_mem (List.mem_map_of_mem listed)

theorem sublist_sort {left right : Diagnostic String} {diagnostics : List (Diagnostic String)}
    (ordered : (Diagnostic.order left right).isLE = true)
    (before : [left, right].Sublist diagnostics) :
    [left, right].Sublist (Diagnostic.sort diagnostics) :=
  List.pair_sublist_mergeSort (fun _ _ _ => Std.TransCmp.isLE_trans) Diagnostic.order_total
    ordered before

/-- Of a diagnostic and its twin the one that comes first in the list comes first in the group. -/
theorem sublist_messages_groupNamed (diagnostic : Diagnostic String)
    (rest : List (Diagnostic String)) :
    [diagnostic, diagnostic.twin].Sublist
      (groupNamed (baseName diagnostic.filePath)
        (diagnostic :: diagnostic.twin :: rest)).messages := by
  have ordered : (Diagnostic.order diagnostic diagnostic.twin).isLE = true := by
    rw [Diagnostic.order_twin]
    rfl
  have different : (diagnostic.twin == diagnostic) = false :=
    beq_eq_false_iff_ne.mpr (Diagnostic.twin_ne diagnostic).symm
  have distinct : [diagnostic, diagnostic.twin].Sublist
      ((diagnostic :: diagnostic.twin :: rest).filter
        (·.filePath == diagnostic.filePath)).eraseDups := by
    have kept : (diagnostic :: diagnostic.twin :: rest).filter
        (·.filePath == diagnostic.filePath) =
          diagnostic :: diagnostic.twin :: rest.filter (·.filePath == diagnostic.filePath) := by
      simp [Diagnostic.twin]
    rw [kept, List.eraseDups_cons, List.filter_cons_of_pos (by rw [different]; rfl),
      List.eraseDups_cons]
    exact (List.Sublist.cons_cons _ (List.nil_sublist _)).cons_cons _
  have listed : diagnostic.filePath ∈ pathsNamed (baseName diagnostic.filePath)
      (diagnostic :: diagnostic.twin :: rest) :=
    mem_pathsNamed.mpr ⟨⟨diagnostic, List.mem_cons_self, rfl⟩, rfl⟩
  rw [messages_groupNamed]
  apply sublist_sort ordered
  exact (sublist_sort ordered distinct).trans (messages_ofPath_sublist listed)

/-- A diagnostic and its twin make another report in the other order. -/
theorem ofDiagnostics_cons_twin_ne (diagnostic : Diagnostic String)
    (rest : List (Diagnostic String)) :
    GroupedReport.ofDiagnostics (diagnostic :: diagnostic.twin :: rest) ≠
      GroupedReport.ofDiagnostics (diagnostic.twin :: diagnostic :: rest) := by
  intro same
  have listed : (baseName diagnostic.filePath, groupNamed (baseName diagnostic.filePath)
      (diagnostic :: diagnostic.twin :: rest)) ∈
        GroupedReport.ofDiagnostics (diagnostic :: diagnostic.twin :: rest) :=
    mem_ofDiagnostics.mpr ⟨⟨diagnostic, List.mem_cons_self, rfl⟩, rfl⟩
  rw [same] at listed
  have sameGroup := (mem_ofDiagnostics.mp listed).2
  have before := sublist_messages_groupNamed diagnostic rest
  have after := sublist_messages_groupNamed diagnostic.twin rest
  rw [Diagnostic.twin_twin] at after
  apply not_sublist_swap (nodup_messages_groupNamed _ _) before
  rw [sameGroup]
  exact after

/-! ## The report of a set of diagnostics -/

/-- A report depends on its diagnostics as a set exactly when no two of them differ in fatality
alone. In any case two reports of one set have the same groups, rearranged among such diagnostics
only. -/
theorem ofDiagnostics_set_iff (diagnostics : List (Diagnostic String)) :
    ((∀ others, (∀ diagnostic, diagnostic ∈ others ↔ diagnostic ∈ diagnostics) →
        GroupedReport.ofDiagnostics others = GroupedReport.ofDiagnostics diagnostics) ↔
      ∀ diagnostic ∈ diagnostics, diagnostic.twin ∉ diagnostics) ∧
    ∀ others, (∀ diagnostic, diagnostic ∈ others ↔ diagnostic ∈ diagnostics) →
      (GroupedReport.ofDiagnostics others).map Prod.fst =
        (GroupedReport.ofDiagnostics diagnostics).map Prod.fst ∧
      ∀ name group other, (name, group) ∈ GroupedReport.ofDiagnostics diagnostics →
        (name, other) ∈ GroupedReport.ofDiagnostics others → other.Rearranges group := by
  refine ⟨⟨?_, ?_⟩, ?_⟩
  · intro determined diagnostic member twinMember
    have first := determined (diagnostic :: diagnostic.twin :: diagnostics) (by grind)
    have second := determined (diagnostic.twin :: diagnostic :: diagnostics) (by grind)
    exact ofDiagnostics_cons_twin_ne diagnostic diagnostics (first.trans second.symm)
  · intro alone others same
    refine (GroupedReport.ofDiagnostics_congr (Diagnostic.separated_iff.mpr alone) ?_).symm
    exact fun diagnostic => (same diagnostic).symm
  · intro others same
    constructor
    · rw [ofDiagnostics_eq_map, ofDiagnostics_eq_map, sortedNames_ofDiagnostics_congr same]
      simp only [List.map_map, Function.comp_def]
    · intro name group other groupMem otherMem
      rw [(mem_ofDiagnostics.mp groupMem).2, (mem_ofDiagnostics.mp otherMem).2]
      exact groupNamed_rearranges same name

/-- A finding that is reported plainly and as fatal. -/
def plainFinding : Diagnostic String :=
  ⟨"SWC-101", 3, 0, 3, 4, .high, "m", false, "x.sol"⟩

/-- What is found twice is reported as if it were found once, and the two reports of a finding that
is also fatal have groups that say the same but for the fatality. -/
theorem ofDiagnostics_set_iff_twins :
    GroupedReport.ofDiagnostics [plainFinding, plainFinding] =
      GroupedReport.ofDiagnostics [plainFinding] ∧
    ∃ group other,
      ("x.sol", group) ∈ GroupedReport.ofDiagnostics [plainFinding, plainFinding.twin] ∧
      ("x.sol", other) ∈ GroupedReport.ofDiagnostics [plainFinding.twin, plainFinding] ∧
      other.Rearranges group := by
  have group : ("x.sol", groupNamed "x.sol" [plainFinding, plainFinding.twin]) ∈
      GroupedReport.ofDiagnostics [plainFinding, plainFinding.twin] :=
    mem_ofDiagnostics.mpr ⟨⟨plainFinding, by decide, by decide⟩, rfl⟩
  have other : ("x.sol", groupNamed "x.sol" [plainFinding.twin, plainFinding]) ∈
      GroupedReport.ofDiagnostics [plainFinding.twin, plainFinding] :=
    mem_ofDiagnostics.mpr ⟨⟨plainFinding, by decide, by decide⟩, rfl⟩
  refine ⟨?_, _, _, group, other, ?_⟩
  · apply (ofDiagnostics_set_iff [plainFinding]).1.mpr (by decide)
    simp
  · exact ((ofDiagnostics_set_iff [plainFinding, plainFinding.twin]).2
      [plainFinding.twin, plainFinding] (by grind)).2 _ _ _ group other

/-- The same two diagnostics make two reports: in each the one that was found first comes first. -/
theorem ofDiagnostics_differ_twins :
    (∀ diagnostic, diagnostic ∈ [plainFinding, plainFinding.twin] ↔
      diagnostic ∈ [plainFinding.twin, plainFinding]) ∧
    (GroupedReport.ofDiagnostics [plainFinding, plainFinding.twin]).map (·.2.messages) =
      [[plainFinding, plainFinding.twin]] ∧
    (GroupedReport.ofDiagnostics [plainFinding.twin, plainFinding]).map (·.2.messages) =
      [[plainFinding.twin, plainFinding]] ∧
    GroupedReport.ofDiagnostics [plainFinding, plainFinding.twin] ≠
      GroupedReport.ofDiagnostics [plainFinding.twin, plainFinding] := by
  refine ⟨by grind, by cbv, by cbv, ?_⟩
  exact ofDiagnostics_cons_twin_ne plainFinding []

end Pinpoint
