import Mathlib.Data.List.Forall2
import Pinpoint.Proofs.InsertionOrder
import Pinpoint.Proofs.Numerals
import Pinpoint.Report.Style

/-!
# The lines of a report and their messages

A report is written with one line per message, and who reads the lines takes the place of each
message from the start of its line. The line is put together from free texts, so a line feed in one
of them cuts it into several. It starts with the path of the group, and a group may hold messages of
several paths. So the lines stand for the messages exactly when no text that is shown has a line
feed and every message is of the path of its group.
-/

namespace Pinpoint

namespace Text

/-! ## Lines of joined texts -/

/-- A text is cut at a separator before and after it on their own. -/
theorem fields_append_separator (separator : Char) (first rest : List Char) :
    fields separator (first ++ separator :: rest) =
      fields separator first ++ fields separator rest := by
  induction first with
  | nil => simp [fields]
  | cons character first ih =>
      rw [List.cons_append, fields, fields, ih]
      split
      next => rfl
      next =>
        cases cut : fields separator first with
        | nil => exact absurd cut (fields_ne_nil _ _)
        | cons => rfl

/-- Joined texts are cut where each of them is. -/
theorem fields_joinFields_flatMap {separator : Char} {texts : List (List Char)}
    (some : texts ≠ []) :
    fields separator (joinFields separator texts) = texts.flatMap (fields separator) := by
  induction texts with
  | nil => exact absurd rfl some
  | cons first others ih =>
      cases others with
      | nil => rw [joinFields, List.flatMap_singleton]
      | cons =>
          rw [joinFields_cons _ _ (List.cons_ne_nil _ _), fields_append_separator,
            ih (List.cons_ne_nil _ _)]
          rfl

theorem length_fields_eq_one_iff {separator : Char} {text : List Char} :
    (fields separator text).length = 1 ↔ separator ∉ text := by
  constructor
  · intro single
    rcases List.length_eq_one_iff.mp single with ⟨field, cut⟩
    have whole := joinFields_fields separator text
    rw [cut, joinFields] at whole
    rw [← whole]
    exact not_mem_of_mem_fields (cut ▸ List.mem_singleton_self field)
  · intro whole
    rw [fields_of_not_mem whole, List.length_singleton]

theorem length_le_length_flatMap_fields (separator : Char) (texts : List (List Char)) :
    texts.length ≤ (texts.flatMap (fields separator)).length := by
  induction texts with
  | nil => exact Nat.le_refl 0
  | cons first others ih =>
      have cut := List.length_pos_iff.mpr (fields_ne_nil separator first)
      rw [List.length_cons, List.flatMap_cons, List.length_append]
      omega

/-- Texts have as many fields as there are texts only if none of them is cut. -/
theorem not_mem_of_length_flatMap_fields {separator : Char} {texts : List (List Char)}
    (same : (texts.flatMap (fields separator)).length = texts.length) :
    ∀ text ∈ texts, separator ∉ text := by
  induction texts with
  | nil => simp
  | cons first others ih =>
      have cut := List.length_pos_iff.mpr (fields_ne_nil separator first)
      have others_le := length_le_length_flatMap_fields separator others
      rw [List.length_cons, List.flatMap_cons, List.length_append] at same
      rw [List.forall_mem_cons]
      exact ⟨length_fields_eq_one_iff.mp (by omega), ih (by omega)⟩

end Text

namespace Report

/-! ## The line of a message -/

/-- A place as a line states it, `path:line:column:` and a space. -/
def linePlace (path : String) (message : Diagnostic String) : List Char :=
  path.toList ++ ':' :: Text.writeInt message.line ++ ':' :: Text.writeInt message.column ++
    [':', ' ']

/-- What a line says after its position. -/
def remark (message : Diagnostic String) : List Char :=
  message.severity.name.toList ++ ' ' :: message.message.toList ++
    ' ' :: '[' :: message.ruleId.toList ++ [']']

theorem messageLine_eq_append (path : String) (message : Diagnostic String) :
    messageLine path message = linePlace path message ++ remark message := by
  simp [messageLine, linePlace, remark]

theorem path_prefix_linePlace (path : String) (message : Diagnostic String) :
    path.toList <+: linePlace path message := by
  rw [linePlace, List.append_assoc, List.append_assoc]
  exact List.prefix_append _ _

theorem linePlace_prefix_messageLine (path : String) (message : Diagnostic String) :
    linePlace path message <+: messageLine path message := by
  rw [messageLine_eq_append]
  exact List.prefix_append _ _

/-- Whether a line of another path goes on to state the place of its message: the path of the
message continues the other one with a colon, and the message happens to repeat the rest. -/
structure Repeats (path : String) (message : Diagnostic String) : Prop where
  goes_on : path.toList ++ [':'] <+: message.filePath.toList
  repeated : linePlace message.filePath message <+: messageLine path message

/-- Whether the line of a message is one line that states the place of the message. -/
structure OwnsLine (path : String) (message : Diagnostic String) : Prop where
  path_single : '\n' ∉ path.toList
  message_single : '\n' ∉ message.message.toList
  rule_single : '\n' ∉ message.ruleId.toList
  named : message.filePath = path ∨ Repeats path message

theorem lineFeed_not_mem_messageLine_iff {path : String} {message : Diagnostic String} :
    '\n' ∉ messageLine path message ↔
      '\n' ∉ path.toList ∧ '\n' ∉ message.message.toList ∧ '\n' ∉ message.ruleId.toList := by
  have number (value : Int) : '\n' ∉ Text.writeInt value :=
    Text.not_mem_writeInt (by decide) (by decide)
  have severity : '\n' ∉ message.severity.name.toList := by
    cases message.severity <;> decide
  simp [messageLine, number, severity]

/-- What a path starts with is the path itself, unless it comes before the path in the order. -/
theorem eq_of_prefix_of_le {path other : String} (begins : other.toList <+: path.toList)
    (le : path ≤ other) : other = path := by
  refine String.le_antisymm ?_ le
  rw [← String.not_lt]
  intro before
  exact absurd begins.le (List.not_le.mpr before)

/-- A line states the place of its message if it has the path of the message. Otherwise the path of
the group is the first one of its name, so it is what the other path starts with. -/
theorem linePlace_prefix_iff {path : String} {message : Diagnostic String}
    (le : path ≤ message.filePath) :
    linePlace message.filePath message <+: messageLine path message ↔
      message.filePath = path ∨ Repeats path message := by
  constructor
  · intro stated
    have ownBegins := (path_prefix_linePlace message.filePath message).trans stated
    have begins := (path_prefix_linePlace path message).trans
      (linePlace_prefix_messageLine path message)
    -- Both paths start the line, so one of them starts with the other one.
    rcases List.prefix_or_prefix_of_prefix ownBegins begins with own | other
    · exact .inl (eq_of_prefix_of_le own le)
    · rcases other with ⟨rest, continued⟩
      cases rest with
      | nil =>
          rw [List.append_nil] at continued
          exact .inl (String.toList_injective continued).symm
      | cons character rest =>
          refine .inr ⟨?_, stated⟩
          rw [messageLine_eq_append, linePlace, linePlace, ← continued] at stated
          simp only [List.append_assoc, List.prefix_append_right_inj, List.cons_append,
            List.cons_prefix_cons] at stated
          rw [← continued, stated.1]
          exact ⟨rest, by simp⟩
  · rintro (same | repeats)
    · rw [same]
      exact linePlace_prefix_messageLine path message
    · exact repeats.repeated

/-- The line `x.sol:1:0: High /x.sol:1:0: []` is that of a path which it goes on to state. -/
example : Repeats "x.sol" ⟨"", 1, 0, 1, 0, .high, "/x.sol:1:0:", false, "x.sol:1:0: High /x.sol"⟩ :=
  ⟨by decide, by decide⟩

/-! ## The lines of a report -/

/-- Each message of a report with the path that its line starts with. -/
def placedMessages (report : GroupedReport) : List (String × Diagnostic String) :=
  report.flatMap fun group => group.2.messages.map fun message => (group.2.filePath, message)

theorem mem_placedMessages {report : GroupedReport} {place : String × Diagnostic String} :
    place ∈ placedMessages report ↔
      ∃ group ∈ report, ∃ message ∈ group.2.messages, (group.2.filePath, message) = place := by
  rw [placedMessages, List.mem_flatMap]
  simp only [List.mem_map]

theorem messageLines_eq_map (report : GroupedReport) :
    messageLines report =
      (placedMessages report).map fun place => messageLine place.1 place.2 := by
  simp only [messageLines, placedMessages, List.map_flatMap, List.map_map, Function.comp_def]

/-- Whether a text, cut at its line feeds, has exactly one line for each message of a report, in the
order of the groups and messages, and each of them starts with the place of its message. -/
def NamesEach (report : GroupedReport) (text : List Char) : Prop :=
  List.Forall₂ (fun message line => linePlace message.filePath message <+: line) (messages report)
    (Text.fields '\n' text)

section Lines

variable {report : GroupedReport}

theorem messages_eq_map_placedMessages (report : GroupedReport) :
    messages report = (placedMessages report).map Prod.snd := by
  simp only [messages, placedMessages, List.map_flatMap, List.map_map, Function.comp_def,
    List.map_id']

theorem messageLines_ne_nil (reported : messages report ≠ []) : messageLines report ≠ [] := by
  rw [messages_eq_map_placedMessages, Ne, List.map_eq_nil_iff] at reported
  rwa [messageLines_eq_map, Ne, List.map_eq_nil_iff]

/-- Each message gives the lines of its texts, and they follow each other in order. -/
theorem fields_lines (reported : messages report ≠ []) :
    Text.fields '\n' (lines report) = (placedMessages report).flatMap fun placed =>
      Text.fields '\n' (messageLine placed.1 placed.2) := by
  rw [lines, Text.fields_joinFields_flatMap (messageLines_ne_nil reported), messageLines_eq_map,
    List.flatMap_map]

/-- If there are as many lines as messages, then no message has more than one of them, so the lines
are those of the messages. -/
theorem namesEach_lines_iff (reported : messages report ≠ []) :
    NamesEach report (lines report) ↔ ∀ placed ∈ placedMessages report,
      '\n' ∉ messageLine placed.1 placed.2 ∧
        linePlace placed.2.filePath placed.2 <+: messageLine placed.1 placed.2 := by
  have whole (single : ∀ line ∈ messageLines report, '\n' ∉ line) :
      NamesEach report (lines report) ↔ ∀ placed ∈ placedMessages report,
        linePlace placed.2.filePath placed.2 <+: messageLine placed.1 placed.2 := by
    rw [NamesEach, lines, Text.fields_joinFields (messageLines_ne_nil reported) single,
      messages_eq_map_placedMessages, messageLines_eq_map, List.forall₂_map_left_iff,
      List.forall₂_map_right_iff, List.forall₂_same]
  have single_iff : (∀ line ∈ messageLines report, '\n' ∉ line) ↔
      ∀ placed ∈ placedMessages report, '\n' ∉ messageLine placed.1 placed.2 := by
    rw [messageLines_eq_map, List.forall_mem_map]
  constructor
  · intro named
    -- The lines are counted before they are compared: a message with two of them moves all lines
    -- after it by one.
    have counted := List.Forall₂.length_eq named
    have single : ∀ line ∈ messageLines report, '\n' ∉ line := by
      apply Text.not_mem_of_length_flatMap_fields
      rw [← Text.fields_joinFields_flatMap (messageLines_ne_nil reported), ← lines, ← counted,
        messages_eq_map_placedMessages, messageLines_eq_map, List.length_map, List.length_map]
    intro placed member
    exact ⟨single_iff.mp single placed member, (whole single).mp named placed member⟩
  · intro owned
    apply (whole (single_iff.mpr fun placed member => (owned placed member).1)).mpr
    exact fun placed member => (owned placed member).2

theorem render_compact_eq_ok_iff {text : List Char} :
    Style.render .compact report = .ok text ↔
      (∀ number ∈ lineNumbers report, Text.isWritable number = true) ∧ text = lines report := by
  rw [Style.render]
  exact checkNumbers_bind_eq_ok_iff

end Lines

/-! ## Reports of diagnostics -/

section Diagnostics

variable {diagnostics : List (Diagnostic String)}

theorem mem_messages_iff {message : Diagnostic String} :
    message ∈ messages (GroupedReport.ofDiagnostics diagnostics) ↔ message ∈ diagnostics := by
  rw [messages, List.mem_flatMap, mem_messages_ofDiagnostics]

/-- The numbers of the lines are those of the starts of the diagnostics. -/
theorem forall_lineNumbers_iff {property : Int → Prop} :
    (∀ number ∈ lineNumbers (GroupedReport.ofDiagnostics diagnostics), property number) ↔
      ∀ diagnostic ∈ diagnostics, property diagnostic.line ∧ property diagnostic.column := by
  simp only [lineNumbers, List.forall_mem_flatMap, List.forall_mem_cons, List.not_mem_nil,
    false_implies, implies_true, and_true, mem_messages_iff]

/-- The path of a group does not come after that of any of its messages. -/
theorem filePath_le_of_mem {group : String × FileReport} {message : Diagnostic String}
    (groupMem : group ∈ GroupedReport.ofDiagnostics diagnostics)
    (messageMem : message ∈ group.2.messages) : group.2.filePath ≤ message.filePath := by
  rcases group with ⟨name, group⟩
  rcases mem_ofDiagnostics.mp groupMem with ⟨present, rfl⟩
  have gathers := groupNamed_gathers present
  rcases (gathers.mem_messages message).mp messageMem with ⟨member, named⟩
  exact gathers.filePath_le message member named

theorem messages_ne_nil (nonempty : diagnostics ≠ []) :
    messages (GroupedReport.ofDiagnostics diagnostics) ≠ [] := by
  rcases List.exists_mem_of_ne_nil _ nonempty with ⟨diagnostic, member⟩
  exact List.ne_nil_of_mem (mem_messages_iff.mpr member)

theorem namesEach_ofDiagnostics_iff (nonempty : diagnostics ≠ []) :
    NamesEach (GroupedReport.ofDiagnostics diagnostics)
        (lines (GroupedReport.ofDiagnostics diagnostics)) ↔
      ∀ group ∈ GroupedReport.ofDiagnostics diagnostics, ∀ message ∈ group.2.messages,
        OwnsLine group.2.filePath message := by
  rw [namesEach_lines_iff (messages_ne_nil nonempty)]
  constructor
  · intro owned group groupMem message messageMem
    have placedMem := mem_placedMessages.mpr ⟨group, groupMem, message, messageMem, rfl⟩
    rcases owned _ placedMem with ⟨single, stated⟩
    rcases lineFeed_not_mem_messageLine_iff.mp single with ⟨path, texts, rule⟩
    exact ⟨path, texts, rule,
      (linePlace_prefix_iff (filePath_le_of_mem groupMem messageMem)).mp stated⟩
  · intro owned placed placedMem
    rcases mem_placedMessages.mp placedMem with ⟨group, groupMem, message, messageMem, rfl⟩
    have owns := owned group groupMem message messageMem
    exact ⟨lineFeed_not_mem_messageLine_iff.mpr
        ⟨owns.path_single, owns.message_single, owns.rule_single⟩,
      (linePlace_prefix_iff (filePath_le_of_mem groupMem messageMem)).mpr owns.named⟩

theorem render_compact_of_lt_ten (small : ∀ diagnostic ∈ diagnostics,
    diagnostic.line.natAbs < 10 ∧ diagnostic.column.natAbs < 10) :
    Style.render .compact (GroupedReport.ofDiagnostics diagnostics) =
      .ok (lines (GroupedReport.ofDiagnostics diagnostics)) := by
  refine render_compact_eq_ok_iff.mpr ⟨?_, rfl⟩
  rw [forall_lineNumbers_iff]
  exact fun diagnostic member =>
    (small diagnostic member).imp Text.isWritable_of_lt_ten Text.isWritable_of_lt_ten

/-- A diagnostic is listed in the group of its file name. -/
theorem mem_group_of_mem {diagnostic : Diagnostic String} (member : diagnostic ∈ diagnostics) :
    (baseName diagnostic.filePath, groupNamed (baseName diagnostic.filePath) diagnostics) ∈
        GroupedReport.ofDiagnostics diagnostics ∧
      diagnostic ∈ (groupNamed (baseName diagnostic.filePath) diagnostics).messages :=
  ⟨mem_ofDiagnostics.mpr ⟨⟨diagnostic, member, rfl⟩, rfl⟩,
    mem_messages_groupNamed.mpr ⟨member, rfl⟩⟩

/-- Whether the path and the texts of a diagnostic have no line feed. -/
def IsSingle (diagnostic : Diagnostic String) : Prop :=
  '\n' ∉ diagnostic.filePath.toList ∧ '\n' ∉ diagnostic.message.toList ∧
    '\n' ∉ diagnostic.ruleId.toList

instance (diagnostic : Diagnostic String) : Decidable (IsSingle diagnostic) :=
  inferInstanceAs (Decidable (_ ∧ _ ∧ _))

/-- Whether diagnostics of one file name are all of one path. -/
def HasNoNamesakes (diagnostics : List (Diagnostic String)) : Prop :=
  ∀ first ∈ diagnostics, ∀ second ∈ diagnostics,
    baseName first.filePath = baseName second.filePath → first.filePath = second.filePath

instance (diagnostics : List (Diagnostic String)) : Decidable (HasNoNamesakes diagnostics) :=
  inferInstanceAs (Decidable (∀ first ∈ diagnostics, ∀ second ∈ diagnostics, _))

/-- Without colons in paths, no message repeats what follows the path of its group. -/
theorem ownsLine_forall_iff
    (plain : ∀ diagnostic ∈ diagnostics, ':' ∉ diagnostic.filePath.toList) :
    (∀ group ∈ GroupedReport.ofDiagnostics diagnostics, ∀ message ∈ group.2.messages,
        OwnsLine group.2.filePath message) ↔
      (∀ diagnostic ∈ diagnostics, IsSingle diagnostic) ∧ HasNoNamesakes diagnostics := by
  constructor
  · intro owned
    have own : ∀ diagnostic ∈ diagnostics, diagnostic.filePath =
        (groupNamed (baseName diagnostic.filePath) diagnostics).filePath := by
      intro diagnostic member
      rcases mem_group_of_mem member with ⟨groupMem, messageMem⟩
      rcases (owned _ groupMem _ messageMem).named with same | repeats
      · exact same
      · exact absurd (repeats.goes_on.subset (by simp)) (plain diagnostic member)
    constructor
    · intro diagnostic member
      rcases mem_group_of_mem member with ⟨groupMem, messageMem⟩
      have owns := owned _ groupMem _ messageMem
      refine ⟨?_, owns.message_single, owns.rule_single⟩
      rw [own diagnostic member]
      exact owns.path_single
    · intro first firstMem second secondMem sameName
      rw [own first firstMem, own second secondMem, sameName]
  · rintro ⟨single, alone⟩ ⟨name, group⟩ groupMem message messageMem
    rcases mem_ofDiagnostics.mp groupMem with ⟨present, rfl⟩
    have gathers := groupNamed_gathers present
    rcases (gathers.mem_messages message).mp messageMem with ⟨member, named⟩
    rcases gathers.filePath_mem with ⟨first, firstMem, path, firstNamed⟩
    have same : message.filePath = (groupNamed name diagnostics).filePath := by
      rw [← path]
      exact alone message member first firstMem (named.trans firstNamed.symm)
    rcases single message member with ⟨pathSingle, messageSingle, ruleSingle⟩
    exact ⟨same ▸ pathSingle, messageSingle, ruleSingle, .inl same⟩

/-- What the compact text of some diagnostics says about them. -/
structure CompactText (diagnostics : List (Diagnostic String)) (text : List Char) : Prop where
  /-- The text has the lines of its messages in their order, and nothing else. -/
  fields_eq : Text.fields '\n' text =
    (placedMessages (GroupedReport.ofDiagnostics diagnostics)).flatMap fun placed =>
      Text.fields '\n' (messageLine placed.1 placed.2)
  namesEach_iff : NamesEach (GroupedReport.ofDiagnostics diagnostics) text ↔
    ∀ group ∈ GroupedReport.ofDiagnostics diagnostics, ∀ message ∈ group.2.messages,
      OwnsLine group.2.filePath message
  namesEach_iff_of_plain : (∀ diagnostic ∈ diagnostics, ':' ∉ diagnostic.filePath.toList) →
    (NamesEach (GroupedReport.ofDiagnostics diagnostics) text ↔
      (∀ diagnostic ∈ diagnostics, IsSingle diagnostic) ∧ HasNoNamesakes diagnostics)

/-- Diagnostics have a compact text exactly when the numbers of their starts can be written. The
text names each of them on a line of its own exactly when none of its texts has a line feed and
each message has the path of its group, up to paths that a message happens to repeat. -/
theorem compact_names_each_iff (nonempty : diagnostics ≠ []) :
    ((∃ text, Style.render .compact (GroupedReport.ofDiagnostics diagnostics) = .ok text) ↔
      ∀ diagnostic ∈ diagnostics,
        Text.isWritable diagnostic.line = true ∧ Text.isWritable diagnostic.column = true) ∧
    ∀ text, Style.render .compact (GroupedReport.ofDiagnostics diagnostics) = .ok text →
      CompactText diagnostics text := by
  constructor
  · simp only [render_compact_eq_ok_iff, forall_lineNumbers_iff, exists_and_left, exists_eq,
      and_true]
  · intro text rendered
    rcases render_compact_eq_ok_iff.mp rendered with ⟨-, rfl⟩
    have named := namesEach_ofDiagnostics_iff nonempty
    exact {
      fields_eq := fields_lines (messages_ne_nil nonempty)
      namesEach_iff := named
      namesEach_iff_of_plain := fun plain => named.trans (ownsLine_forall_iff plain) }

end Diagnostics

/-- A finding at the start of a line of a file. -/
def statedFinding (path : String) (line : Int) (message : String) : Diagnostic String :=
  ⟨"SWC-101", line, 0, line, 1, .high, message, false, path⟩

/-- Findings in files of different names are named by their lines. -/
theorem compact_names_each_iff_apart :
    ∃ text,
      Style.render .compact (GroupedReport.ofDiagnostics
        [statedFinding "a/x.sol" 1 "m", statedFinding "b/y.sol" 2 "m"]) = .ok text ∧
      NamesEach (GroupedReport.ofDiagnostics
        [statedFinding "a/x.sol" 1 "m", statedFinding "b/y.sol" 2 "m"]) text := by
  have small : ∀ diagnostic ∈ [statedFinding "a/x.sol" 1 "m", statedFinding "b/y.sol" 2 "m"],
      diagnostic.line.natAbs < 10 ∧ diagnostic.column.natAbs < 10 := by decide
  have written := @compact_names_each_iff
    [statedFinding "a/x.sol" 1 "m", statedFinding "b/y.sol" 2 "m"] (by decide)
  rcases written.1.mpr fun diagnostic member =>
    (small diagnostic member).imp Text.isWritable_of_lt_ten Text.isWritable_of_lt_ten with
    ⟨text, rendered⟩
  refine ⟨text, rendered, ?_⟩
  exact ((written.2 text rendered).namesEach_iff_of_plain (by decide)).mpr (by decide)

/-- The second line names a place in the file of the first one, and a line feed in a message leaves
two lines for it. -/
theorem compact_misnames_namesake :
    (Style.render .compact (GroupedReport.ofDiagnostics
        [statedFinding "a/x.sol" 1 "m", statedFinding "b/x.sol" 2 "m"]) =
          .ok "a/x.sol:1:0: High m [SWC-101]\na/x.sol:2:0: High m [SWC-101]".toList ∧
      ¬NamesEach (GroupedReport.ofDiagnostics
          [statedFinding "a/x.sol" 1 "m", statedFinding "b/x.sol" 2 "m"])
        "a/x.sol:1:0: High m [SWC-101]\na/x.sol:2:0: High m [SWC-101]".toList) ∧
    Style.render .compact (GroupedReport.ofDiagnostics [statedFinding "a/x.sol" 1 "m\nn"]) =
        .ok "a/x.sol:1:0: High m\nn [SWC-101]".toList ∧
      ¬NamesEach (GroupedReport.ofDiagnostics [statedFinding "a/x.sol" 1 "m\nn"])
        "a/x.sol:1:0: High m\nn [SWC-101]".toList := by
  have namesakes : lines (GroupedReport.ofDiagnostics
      [statedFinding "a/x.sol" 1 "m", statedFinding "b/x.sol" 2 "m"]) =
        "a/x.sol:1:0: High m [SWC-101]\na/x.sol:2:0: High m [SWC-101]".toList := by cbv
  have broken : lines (GroupedReport.ofDiagnostics [statedFinding "a/x.sol" 1 "m\nn"]) =
      "a/x.sol:1:0: High m\nn [SWC-101]".toList := by cbv
  rw [← namesakes, ← broken]
  refine ⟨⟨render_compact_of_lt_ten (by decide), ?_⟩, render_compact_of_lt_ten (by decide), ?_⟩
  · rw [namesEach_ofDiagnostics_iff (by decide), ownsLine_forall_iff (by decide)]
    decide
  · rw [namesEach_ofDiagnostics_iff (by decide), ownsLine_forall_iff (by decide)]
    decide

end Report

end Pinpoint
