import Pinpoint.Proofs.Gathering

/-!
# Grouping in parts

Diagnostics may be counted part by part, batch by batch or contract by contract, and the reports of
the parts grouped afterwards. The counts of a report are tallies of its messages, and merging
reports keeps them so. Hence a group that is put together from the reports of parts has the counts
and messages that it would have had at once, as long as no diagnostic is in two of the parts. Only
its path depends on the order of the reports.
-/

namespace Pinpoint

/-! ## Tallies -/

namespace FileReport

/-- Whether the counts of a report are those of its messages. -/
structure Tallies (report : FileReport) : Prop where
  errorCount_eq : report.errorCount = report.messages.countP Diagnostic.isError
  warningCount_eq : report.warningCount = report.messages.countP Diagnostic.isWarning
  fixableErrorCount_eq : report.fixableErrorCount = 0
  fixableWarningCount_eq : report.fixableWarningCount = 0

/-- A report without its path. -/
def pathless (report : FileReport) : FileReport :=
  { report with filePath := "" }

theorem tallies_ofPath (path : String) (diagnostics : List (Diagnostic String)) :
    (ofPath path diagnostics).Tallies :=
  ⟨rfl, rfl, rfl, rfl⟩

variable {reports : List FileReport}

theorem sumCounts_countP {count : FileReport → Int} {counts : Diagnostic String → Bool}
    (tallied : ∀ report ∈ reports, count report = report.messages.countP counts) :
    sumCounts (reports.map count) = (reports.flatMap (·.messages)).countP counts := by
  induction reports with
  | nil => rfl
  | cons report reports ih =>
      rw [List.forall_mem_cons] at tallied
      rw [List.map_cons, sumCounts_cons, tallied.1, ih tallied.2, List.flatMap_cons,
        List.countP_append, Int.natCast_add]

theorem sumCounts_zero {count : FileReport → Int}
    (none : ∀ report ∈ reports, count report = 0) : sumCounts (reports.map count) = 0 := by
  induction reports with
  | nil => rfl
  | cons report reports ih =>
      rw [List.forall_mem_cons] at none
      rw [List.map_cons, sumCounts_cons, none.1, ih none.2, Int.add_zero]

/-- Counts that are tallies stay so when reports are merged. -/
theorem tallies_merge (tallied : ∀ report ∈ reports, report.Tallies) : (merge reports).Tallies where
  errorCount_eq := by
    rw [merge, (Diagnostic.sort_perm _).countP_eq]
    exact sumCounts_countP fun report member => (tallied report member).errorCount_eq
  warningCount_eq := by
    rw [merge, (Diagnostic.sort_perm _).countP_eq]
    exact sumCounts_countP fun report member => (tallied report member).warningCount_eq
  fixableErrorCount_eq :=
    sumCounts_zero fun report member => (tallied report member).fixableErrorCount_eq
  fixableWarningCount_eq :=
    sumCounts_zero fun report member => (tallied report member).fixableWarningCount_eq

/-- Tallied reports of the same messages differ in their path at most. -/
theorem Tallies.pathless_eq {report other : FileReport} (tallies : report.Tallies)
    (otherTallies : other.Tallies) (messages : report.messages = other.messages) :
    report.pathless = other.pathless := by
  rw [pathless, pathless, tallies.errorCount_eq, otherTallies.errorCount_eq,
    tallies.warningCount_eq, otherTallies.warningCount_eq, tallies.fixableErrorCount_eq,
    otherTallies.fixableErrorCount_eq, tallies.fixableWarningCount_eq,
    otherTallies.fixableWarningCount_eq, messages]

end FileReport

theorem tallies_groupNamed (name : String) (diagnostics : List (Diagnostic String)) :
    (groupNamed name diagnostics).Tallies := by
  apply FileReport.tallies_merge
  intro report member
  rcases List.mem_map.mp member with ⟨path, -, rfl⟩
  exact FileReport.tallies_ofPath path diagnostics

/-! ## Parts -/

/-- Whether parts are what is left when diagnostics are cut up, with equal ones in one part. -/
structure IsCut (parts : List (List (Diagnostic String)))
    (diagnostics : List (Diagnostic String)) : Prop where
  mem_iff : ∀ diagnostic, diagnostic ∈ diagnostics ↔ ∃ part ∈ parts, diagnostic ∈ part
  disjoint : parts.Pairwise fun part other => ∀ diagnostic ∈ part, diagnostic ∉ other

/-- The reports of all parts, part by part. -/
def reportsOfParts (parts : List (List (Diagnostic String))) : List FileReport :=
  parts.flatMap FileReport.ofDiagnostics

section Parts

variable {parts : List (List (Diagnostic String))} {diagnostics : List (Diagnostic String)}
variable {reports : List FileReport}

/-- The messages of the parts that have a file name, one part after the other. -/
theorem flatMap_messages_reportsOfParts (name : String)
    (parts : List (List (Diagnostic String))) :
    ((reportsOfParts parts).filter fun report => baseName report.filePath == name).flatMap
        (·.messages) = parts.flatMap (messagesNamed name) := by
  rw [reportsOfParts, List.filter_flatMap, List.flatMap_assoc]
  congr 1
  funext part
  rw [filter_ofDiagnostics, List.flatMap_map]
  rfl

theorem IsCut.mem_flatMap_messagesNamed (cut : IsCut parts diagnostics) {name : String}
    {diagnostic : Diagnostic String} :
    diagnostic ∈ parts.flatMap (messagesNamed name) ↔
      diagnostic ∈ messagesNamed name diagnostics := by
  simp only [List.mem_flatMap, mem_messagesNamed, cut.mem_iff]
  constructor
  · rintro ⟨part, listed, member, named⟩
    exact ⟨⟨part, listed, member⟩, named⟩
  · rintro ⟨⟨part, listed, member⟩, named⟩
    exact ⟨part, listed, member, named⟩

/-- The parts hold the messages of a file name that all diagnostics have, each once. -/
theorem IsCut.messages_perm (cut : IsCut parts diagnostics) (name : String) :
    (parts.flatMap (messagesNamed name)).Perm (messagesNamed name diagnostics) := by
  have distinct : (parts.flatMap (messagesNamed name)).Nodup := by
    apply List.pairwise_flatMap.mpr
    constructor
    · intro part _
      exact nodup_messagesNamed name part
    · apply cut.disjoint.imp
      intro part other apart diagnostic member otherDiagnostic otherMember equal
      subst equal
      exact apart diagnostic (mem_messagesNamed.mp member).1 (mem_messagesNamed.mp otherMember).1
  exact (List.perm_ext_iff_of_nodup distinct (nodup_messagesNamed name diagnostics)).mpr
    fun _ => cut.mem_flatMap_messagesNamed

theorem tallies_of_arranged (arranged : reports.Perm (reportsOfParts parts)) (report : FileReport)
    (member : report ∈ reports) : report.Tallies := by
  rcases List.mem_flatMap.mp (arranged.mem_iff.mp member) with ⟨part, -, listed⟩
  rcases List.mem_map.mp listed with ⟨path, -, rfl⟩
  exact FileReport.tallies_ofPath path part

/-- A group of the reports of parts is that of all diagnostics, apart from its path. -/
theorem IsCut.pathless_merge (cut : IsCut parts diagnostics)
    (separated : Diagnostic.Separated diagnostics)
    (arranged : reports.Perm (reportsOfParts parts)) (name : String) :
    (FileReport.merge (reports.filter fun report => baseName report.filePath == name)).pathless =
      (groupNamed name diagnostics).pathless := by
  have together : ((reports.filter fun report => baseName report.filePath == name).flatMap
      (·.messages)).Perm (messagesNamed name diagnostics) := by
    have rearranged :=
      (arranged.filter fun report => baseName report.filePath == name).flatMap_right (·.messages)
    rw [flatMap_messages_reportsOfParts] at rearranged
    exact rearranged.trans (cut.messages_perm name)
  apply FileReport.Tallies.pathless_eq _ (tallies_groupNamed name diagnostics)
  · rw [messages_groupNamed]
    exact (Diagnostic.sort_congr
      (fun first firstMem second secondMem => separated first (mem_messagesNamed.mp firstMem).1
        second (mem_messagesNamed.mp secondMem).1) together.symm).symm
  · apply FileReport.tallies_merge
    intro report member
    exact tallies_of_arranged arranged report (List.mem_filter.mp member).1

/-- The parts have the file names that all diagnostics have. -/
theorem IsCut.sortedNames_eq (cut : IsCut parts diagnostics)
    (arranged : reports.Perm (reportsOfParts parts)) :
    Text.sortedNames (reports.map fun report => baseName report.filePath) =
      Text.sortedNames ((FileReport.ofDiagnostics diagnostics).map fun report =>
        baseName report.filePath) := by
  apply Text.sortedNames_congr
  intro name
  rw [(arranged.map _).mem_iff, reportsOfParts, List.map_flatMap, List.mem_flatMap]
  simp only [mem_names_ofDiagnostics, cut.mem_iff]
  constructor
  · rintro ⟨part, listed, diagnostic, member, named⟩
    exact ⟨diagnostic, ⟨part, listed, member⟩, named⟩
  · rintro ⟨diagnostic, ⟨part, listed, member⟩, named⟩
    exact ⟨part, listed, diagnostic, member, named⟩

end Parts

/-- A group has the path of the first report with its file name. -/
theorem filePath_of_mem_ofReports {reports : List FileReport} {group : String × FileReport}
    (member : group ∈ GroupedReport.ofReports reports) :
    (reports.find? fun report => baseName report.filePath == group.1).map (·.filePath) =
      some group.2.filePath := by
  rcases List.mem_map.mp member with ⟨name, listed, rfl⟩
  rw [Text.mem_sortedNames, List.mem_map] at listed
  rcases listed with ⟨report, reportMem, rfl⟩
  rw [FileReport.merge, List.head?_filter]
  cases found : reports.find? fun other => baseName other.filePath == baseName report.filePath with
  | none =>
      have refused := List.find?_eq_none.mp found report reportMem
      simp at refused
  | some first => rfl

/-- Diagnostics of which none is fatal may be cut into parts: however the parts and their reports
are arranged, grouping the reports gives the groups of all diagnostics with the same names, counts
and messages. Only the paths of the groups may differ, and each is the first one that was seen. -/
theorem ofReports_parts (parts : List (List (Diagnostic String)))
    (diagnostics : List (Diagnostic String)) (reports : List FileReport)
    (cut : IsCut parts diagnostics)
    (plain : ∀ diagnostic ∈ diagnostics, diagnostic.fatal = false)
    (arranged : reports.Perm (reportsOfParts parts)) :
    (GroupedReport.ofReports reports).map (fun group => (group.1, group.2.pathless)) =
      (GroupedReport.ofDiagnostics diagnostics).map (fun group => (group.1, group.2.pathless)) ∧
    ∀ group ∈ GroupedReport.ofReports reports,
      (reports.find? fun report => baseName report.filePath == group.1).map (·.filePath) =
        some group.2.filePath := by
  have separated : Diagnostic.Separated diagnostics := Diagnostic.separated_of_fatal_eq plain
  refine ⟨?_, fun group member => filePath_of_mem_ofReports member⟩
  rw [ofDiagnostics_eq_map, GroupedReport.ofReports, cut.sortedNames_eq arranged, List.map_map,
    List.map_map]
  apply List.map_congr_left
  intro name _
  exact congrArg (Prod.mk name) (cut.pathless_merge separated arranged name)

/-- A finding at the start of a line. -/
def findingAt (path : String) (line : Int) : Diagnostic String :=
  ⟨"SWC-101", line, 0, line, 4, .high, "Overflow", false, path⟩

/-- Findings in files of one name in two directories, cut into two parts. -/
def cutFindings : List (List (Diagnostic String)) :=
  [[findingAt "a/x.sol" 7, findingAt "y.sol" 2, findingAt "a/x.sol" 7],
    [findingAt "a/x.sol" 3, findingAt "b/x.sol" 5]]

theorem ofReports_parts_cutFindings :
    (GroupedReport.ofReports (reportsOfParts cutFindings).reverse).map
        (fun group => (group.1, group.2.pathless)) =
      (GroupedReport.ofDiagnostics cutFindings.flatten).map
        (fun group => (group.1, group.2.pathless)) ∧
    ∀ group ∈ GroupedReport.ofReports (reportsOfParts cutFindings).reverse,
      ((reportsOfParts cutFindings).reverse.find? fun report =>
        baseName report.filePath == group.1).map (·.filePath) = some group.2.filePath := by
  have cut : IsCut cutFindings cutFindings.flatten := ⟨by simp, by decide⟩
  exact ofReports_parts cutFindings cutFindings.flatten (reportsOfParts cutFindings).reverse cut
    (by decide) (List.reverse_perm _)

end Pinpoint
