import Pinpoint.Proofs.DiagnosticOrder
import Pinpoint.Proofs.SortedNames
import Pinpoint.Report.Grouping

/-!
# What a report gathers

A report is made in two steps, by path and then by file name, each with its own sorting and
counting. Here the two steps together are compared with what a group should hold: the distinct
diagnostics of its file name, each once and in order, with their counts, under the least of their
paths.
-/

namespace Pinpoint

variable {diagnostics : List (Diagnostic String)}

/-! ## One path -/

namespace FileReport

theorem mem_messages_ofPath {path : String} {diagnostic : Diagnostic String} :
    diagnostic ∈ (ofPath path diagnostics).messages ↔
      diagnostic ∈ diagnostics ∧ diagnostic.filePath = path := by
  simp only [ofPath, Diagnostic.mem_sort, List.mem_eraseDups, List.mem_filter, beq_iff_eq]

theorem nodup_messages_ofPath (path : String) (diagnostics : List (Diagnostic String)) :
    (ofPath path diagnostics).messages.Nodup :=
  (Diagnostic.sort_perm _).nodup_iff.mpr (nodup_eraseDups _)

@[simp] theorem sumCounts_cons (count : Int) (counts : List Int) :
    sumCounts (count :: counts) = count + sumCounts counts :=
  rfl

end FileReport

/-! ## One file name -/

/-- The paths of some diagnostics that have a file name, in order. -/
def pathsNamed (name : String) (diagnostics : List (Diagnostic String)) : List String :=
  (Text.sortedNames (diagnostics.map (·.filePath))).filter fun path => baseName path == name

theorem mem_pathsNamed {name path : String} :
    path ∈ pathsNamed name diagnostics ↔
      (∃ diagnostic ∈ diagnostics, diagnostic.filePath = path) ∧ baseName path = name := by
  rw [pathsNamed, List.mem_filter, Text.mem_sortedNames, List.mem_map, beq_iff_eq]

theorem pathsNamed_pairwise (name : String) (diagnostics : List (Diagnostic String)) :
    (pathsNamed name diagnostics).Pairwise (· < ·) :=
  (Text.sortedNames_pairwise _).filter _

/-- The reports that are merged into a group are those of the paths with its name. -/
theorem filter_ofDiagnostics (name : String) :
    (FileReport.ofDiagnostics diagnostics).filter
        (fun report => baseName report.filePath == name) =
      (pathsNamed name diagnostics).map fun path => FileReport.ofPath path diagnostics := by
  rw [FileReport.ofDiagnostics, List.filter_map]
  rfl

/-- The messages of the paths with a file name, one path after the other. -/
def messagesNamed (name : String) (diagnostics : List (Diagnostic String)) :
    List (Diagnostic String) :=
  (pathsNamed name diagnostics).flatMap fun path => (FileReport.ofPath path diagnostics).messages

theorem mem_messagesNamed {name : String} {diagnostic : Diagnostic String} :
    diagnostic ∈ messagesNamed name diagnostics ↔
      diagnostic ∈ diagnostics ∧ baseName diagnostic.filePath = name := by
  simp only [messagesNamed, List.mem_flatMap, mem_pathsNamed, FileReport.mem_messages_ofPath]
  constructor
  · intro given
    rcases given with ⟨path, ⟨-, named⟩, member, rfl⟩
    exact ⟨member, named⟩
  · intro given
    rcases given with ⟨member, named⟩
    exact ⟨diagnostic.filePath, ⟨⟨diagnostic, member, rfl⟩, named⟩, member, rfl⟩

/-- No message belongs to two paths, so none is listed twice. -/
theorem nodup_messagesNamed (name : String) (diagnostics : List (Diagnostic String)) :
    (messagesNamed name diagnostics).Nodup := by
  apply List.pairwise_flatMap.mpr
  constructor
  · intro path _
    exact FileReport.nodup_messages_ofPath path diagnostics
  · apply (pathsNamed_pairwise name diagnostics).imp
    intro path otherPath before diagnostic member other otherMember equal
    have located := (FileReport.mem_messages_ofPath.mp member).2
    have otherLocated := (FileReport.mem_messages_ofPath.mp otherMember).2
    rw [← equal, located] at otherLocated
    exact String.ne_of_lt before otherLocated

/-- The counts of the paths add up to the count over all their messages. -/
theorem sum_countP_messages (counts : Diagnostic String → Bool) (paths : List String)
    (diagnostics : List (Diagnostic String)) :
    FileReport.sumCounts (paths.map fun path =>
        ((FileReport.ofPath path diagnostics).messages.countP counts : Int)) =
      ((paths.flatMap fun path => (FileReport.ofPath path diagnostics).messages).countP counts :
        Int) := by
  induction paths with
  | nil => rfl
  | cons path paths ih =>
      rw [List.map_cons, FileReport.sumCounts_cons, ih, List.flatMap_cons, List.countP_append,
        Int.natCast_add]

/-! ## Groups -/

/-- The group of a file name. -/
def groupNamed (name : String) (diagnostics : List (Diagnostic String)) : FileReport :=
  .merge ((pathsNamed name diagnostics).map fun path => FileReport.ofPath path diagnostics)

theorem ofDiagnostics_eq_map (diagnostics : List (Diagnostic String)) :
    GroupedReport.ofDiagnostics diagnostics =
      (Text.sortedNames ((FileReport.ofDiagnostics diagnostics).map fun report =>
        baseName report.filePath)).map fun name => (name, groupNamed name diagnostics) := by
  simp only [GroupedReport.ofDiagnostics, GroupedReport.ofReports, filter_ofDiagnostics,
    groupNamed]

/-- The file names of the reports of paths are those of the diagnostics. -/
theorem mem_names_ofDiagnostics {name : String} :
    name ∈ (FileReport.ofDiagnostics diagnostics).map (fun report => baseName report.filePath) ↔
      ∃ diagnostic ∈ diagnostics, baseName diagnostic.filePath = name := by
  simp only [FileReport.ofDiagnostics, List.map_map, List.mem_map, Text.mem_sortedNames,
    Function.comp_apply]
  constructor
  · intro given
    rcases given with ⟨path, ⟨diagnostic, member, rfl⟩, named⟩
    exact ⟨diagnostic, member, named⟩
  · intro given
    rcases given with ⟨diagnostic, member, named⟩
    exact ⟨diagnostic.filePath, ⟨diagnostic, member, rfl⟩, named⟩

theorem messages_groupNamed (name : String) (diagnostics : List (Diagnostic String)) :
    (groupNamed name diagnostics).messages = Diagnostic.sort (messagesNamed name diagnostics) := by
  rw [groupNamed, FileReport.merge, List.flatMap_map]
  rfl

theorem mem_messages_groupNamed {name : String} {diagnostic : Diagnostic String} :
    diagnostic ∈ (groupNamed name diagnostics).messages ↔
      diagnostic ∈ diagnostics ∧ baseName diagnostic.filePath = name := by
  rw [messages_groupNamed, Diagnostic.mem_sort, mem_messagesNamed]

theorem nodup_messages_groupNamed (name : String) (diagnostics : List (Diagnostic String)) :
    (groupNamed name diagnostics).messages.Nodup := by
  rw [messages_groupNamed]
  exact (Diagnostic.sort_perm _).nodup_iff.mpr (nodup_messagesNamed name diagnostics)

theorem countP_messages_groupNamed (counts : Diagnostic String → Bool) (name : String)
    (diagnostics : List (Diagnostic String)) :
    FileReport.sumCounts ((pathsNamed name diagnostics).map fun path =>
        ((FileReport.ofPath path diagnostics).messages.countP counts : Int)) =
      ((groupNamed name diagnostics).messages.countP counts : Int) := by
  rw [sum_countP_messages, messages_groupNamed, (Diagnostic.sort_perm _).countP_eq, messagesNamed]

theorem errorCount_groupNamed (name : String) (diagnostics : List (Diagnostic String)) :
    (groupNamed name diagnostics).errorCount =
      ((groupNamed name diagnostics).messages.countP Diagnostic.isError : Int) := by
  rw [← countP_messages_groupNamed]
  simp only [groupNamed, FileReport.merge, List.map_map]
  rfl

theorem warningCount_groupNamed (name : String) (diagnostics : List (Diagnostic String)) :
    (groupNamed name diagnostics).warningCount =
      ((groupNamed name diagnostics).messages.countP Diagnostic.isWarning : Int) := by
  rw [← countP_messages_groupNamed]
  simp only [groupNamed, FileReport.merge, List.map_map]
  rfl

theorem fixableCounts_groupNamed (name : String) (diagnostics : List (Diagnostic String)) :
    (groupNamed name diagnostics).fixableErrorCount = 0 ∧
      (groupNamed name diagnostics).fixableWarningCount = 0 := by
  have zeros (paths : List String) : FileReport.sumCounts (paths.map fun _ => 0) = 0 := by
    induction paths with
    | nil => rfl
    | cons path paths ih => rw [List.map_cons, FileReport.sumCounts_cons, ih, Int.add_zero]
  simp only [groupNamed, FileReport.merge, List.map_map]
  exact ⟨zeros _, zeros _⟩

/-- A group has the first of its paths in the order of the paths. -/
theorem filePath_groupNamed {name : String} {diagnostic : Diagnostic String}
    (member : diagnostic ∈ diagnostics) (named : baseName diagnostic.filePath = name) :
    (groupNamed name diagnostics).filePath ∈ pathsNamed name diagnostics ∧
      ∀ path ∈ pathsNamed name diagnostics, (groupNamed name diagnostics).filePath ≤ path := by
  have present : diagnostic.filePath ∈ pathsNamed name diagnostics :=
    mem_pathsNamed.mpr ⟨⟨diagnostic, member, rfl⟩, named⟩
  have ascending := pathsNamed_pairwise name diagnostics
  rw [groupNamed, FileReport.merge]
  cases listed : pathsNamed name diagnostics with
  | nil =>
      rw [listed] at present
      cases present
  | cons first rest =>
      rw [listed] at ascending
      refine ⟨List.mem_cons_self, ?_⟩
      intro path pathMem
      rcases List.mem_cons.mp pathMem with rfl | later
      · exact String.le_refl _
      · exact String.not_lt.mp (String.lt_asymm (List.rel_of_pairwise_cons ascending later))

/-- A report lists each of its diagnostics in one of its groups, and nothing else. -/
theorem mem_messages_ofDiagnostics {diagnostic : Diagnostic String} :
    (∃ group ∈ GroupedReport.ofDiagnostics diagnostics, diagnostic ∈ group.2.messages) ↔
      diagnostic ∈ diagnostics := by
  rw [ofDiagnostics_eq_map]
  constructor
  · intro given
    rcases given with ⟨group, groupMem, member⟩
    rcases List.mem_map.mp groupMem with ⟨name, -, rfl⟩
    exact (mem_messages_groupNamed.mp member).1
  · intro member
    have named : baseName diagnostic.filePath ∈
        Text.sortedNames ((FileReport.ofDiagnostics diagnostics).map fun report =>
          baseName report.filePath) :=
      Text.mem_sortedNames.mpr (mem_names_ofDiagnostics.mpr ⟨diagnostic, member, rfl⟩)
    exact ⟨_, List.mem_map_of_mem named, mem_messages_groupNamed.mpr ⟨member, rfl⟩⟩

/-- What the group of a file name has to hold. -/
structure FileReport.Gathers (group : FileReport) (name : String)
    (diagnostics : List (Diagnostic String)) : Prop where
  /-- The messages are the distinct diagnostics of the file name. -/
  mem_messages : ∀ diagnostic, diagnostic ∈ group.messages ↔
    diagnostic ∈ diagnostics ∧ baseName diagnostic.filePath = name
  nodup_messages : group.messages.Nodup
  messages_ordered : group.messages.Pairwise fun first second =>
    (Diagnostic.order first second).isLE = true
  errorCount_eq : group.errorCount = group.messages.countP fun message =>
    decide (message.fatal = true ∨ message.severity = .high)
  warningCount_eq : group.warningCount = group.messages.countP fun message =>
    decide (message.fatal = false ∧ (message.severity = .medium ∨ message.severity = .low))
  /-- What is not counted is informational. -/
  uncounted_eq : group.messages.length - group.errorCount - group.warningCount =
    group.messages.countP fun message =>
      decide (message.fatal = false ∧ message.severity = .info)
  fixableErrorCount_eq : group.fixableErrorCount = 0
  fixableWarningCount_eq : group.fixableWarningCount = 0
  /-- The path is the least one of the file name. -/
  filePath_mem : ∃ diagnostic ∈ diagnostics,
    diagnostic.filePath = group.filePath ∧ baseName diagnostic.filePath = name
  filePath_le : ∀ diagnostic ∈ diagnostics,
    baseName diagnostic.filePath = name → group.filePath ≤ diagnostic.filePath

namespace Diagnostic

theorem isError_eq_decide :
    isError = fun message => decide (message.fatal = true ∨ message.severity = .high) := by
  funext message
  rw [Bool.eq_iff_iff]
  simp [isError]

theorem isWarning_eq_decide :
    isWarning = fun message =>
      decide (message.fatal = false ∧ (message.severity = .medium ∨ message.severity = .low)) := by
  funext message
  rw [Bool.eq_iff_iff]
  simp [isWarning]

/-- Every message is an error, a warning, or informational without being fatal. -/
theorem length_eq_counts (messages : List (Diagnostic String)) :
    messages.length = messages.countP isError + messages.countP isWarning +
      messages.countP fun message => decide (message.fatal = false ∧ message.severity = .info) := by
  induction messages with
  | nil => rfl
  | cons message messages ih =>
      have once : (if message.isError then 1 else 0) + (if message.isWarning then 1 else 0) +
          (if decide (message.fatal = false ∧ message.severity = .info) then 1 else 0) = 1 := by
        cases fatal : message.fatal <;> cases severity : message.severity <;>
          simp [isError, isWarning, fatal, severity]
      rw [List.length_cons, List.countP_cons, List.countP_cons, List.countP_cons, ih]
      omega

end Diagnostic

theorem groupNamed_gathers {name : String}
    (present : ∃ diagnostic ∈ diagnostics, baseName diagnostic.filePath = name) :
    (groupNamed name diagnostics).Gathers name diagnostics := by
  rcases present with ⟨diagnostic, member, named⟩
  obtain ⟨pathMem, pathLe⟩ := filePath_groupNamed member named
  have errors := errorCount_groupNamed name diagnostics
  have warnings := warningCount_groupNamed name diagnostics
  exact {
    mem_messages := fun _ => mem_messages_groupNamed
    nodup_messages := nodup_messages_groupNamed name diagnostics
    messages_ordered := by
      rw [messages_groupNamed]
      exact Diagnostic.sort_pairwise _
    errorCount_eq := by rw [errors, Diagnostic.isError_eq_decide]
    warningCount_eq := by rw [warnings, Diagnostic.isWarning_eq_decide]
    uncounted_eq := by
      have total := Diagnostic.length_eq_counts (groupNamed name diagnostics).messages
      rw [errors, warnings]
      omega
    fixableErrorCount_eq := (fixableCounts_groupNamed name diagnostics).1
    fixableWarningCount_eq := (fixableCounts_groupNamed name diagnostics).2
    filePath_mem := by
      obtain ⟨⟨first, firstMem, located⟩, firstNamed⟩ := mem_pathsNamed.mp pathMem
      exact ⟨first, firstMem, located, located ▸ firstNamed⟩
    filePath_le := by
      intro other otherMem otherNamed
      exact pathLe _ (mem_pathsNamed.mpr ⟨⟨other, otherMem, rfl⟩, otherNamed⟩) }

/-- The report of some diagnostics has one group for each of their file names, in the order of the
names, and each group holds exactly the diagnostics of its name. -/
theorem ofDiagnostics_exact (diagnostics : List (Diagnostic String)) :
    ((GroupedReport.ofDiagnostics diagnostics).map Prod.fst).Pairwise (· < ·) ∧
    (∀ name, name ∈ (GroupedReport.ofDiagnostics diagnostics).map Prod.fst ↔
      ∃ diagnostic ∈ diagnostics, baseName diagnostic.filePath = name) ∧
    ∀ group ∈ GroupedReport.ofDiagnostics diagnostics, group.2.Gathers group.1 diagnostics := by
  have names : (GroupedReport.ofDiagnostics diagnostics).map Prod.fst =
      Text.sortedNames ((FileReport.ofDiagnostics diagnostics).map fun report =>
        baseName report.filePath) := by
    rw [ofDiagnostics_eq_map, List.map_map]
    exact List.map_id _
  have memNames (name : String) :
      name ∈ (GroupedReport.ofDiagnostics diagnostics).map Prod.fst ↔
        ∃ diagnostic ∈ diagnostics, baseName diagnostic.filePath = name := by
    rw [names, Text.mem_sortedNames, mem_names_ofDiagnostics]
  refine ⟨names ▸ Text.sortedNames_pairwise _, memNames, ?_⟩
  intro group groupMem
  have present := (memNames group.1).mp (List.mem_map_of_mem groupMem)
  rw [ofDiagnostics_eq_map] at groupMem
  obtain ⟨name, -, rfl⟩ := List.mem_map.mp groupMem
  exact groupNamed_gathers present

/-- A diagnostic that comes twice and one of another path with the same file name. -/
theorem ofDiagnostics_exact_shared_name :
    ∃ group,
      ("x.sol", group) ∈ GroupedReport.ofDiagnostics
        [⟨"SWC-101", 3, 0, 3, 4, .high, "m", false, "b/x.sol"⟩,
          ⟨"SWC-101", 3, 0, 3, 4, .high, "m", false, "b/x.sol"⟩,
          ⟨"SWC-103", 1, 0, 1, 4, .low, "m", true, "a/x.sol"⟩] ∧
      group.Gathers "x.sol"
        [⟨"SWC-101", 3, 0, 3, 4, .high, "m", false, "b/x.sol"⟩,
          ⟨"SWC-101", 3, 0, 3, 4, .high, "m", false, "b/x.sol"⟩,
          ⟨"SWC-103", 1, 0, 1, 4, .low, "m", true, "a/x.sol"⟩] := by
  obtain ⟨-, names, gathers⟩ := ofDiagnostics_exact
    [⟨"SWC-101", 3, 0, 3, 4, .high, "m", false, "b/x.sol"⟩,
      ⟨"SWC-101", 3, 0, 3, 4, .high, "m", false, "b/x.sol"⟩,
      ⟨"SWC-103", 1, 0, 1, 4, .low, "m", true, "a/x.sol"⟩]
  have present := (names "x.sol").mpr ⟨_, List.mem_cons_self, by decide⟩
  obtain ⟨⟨name, group⟩, groupMem, rfl⟩ := List.mem_map.mp present
  exact ⟨group, groupMem, gathers _ groupMem⟩

end Pinpoint
