/-!
# Severities

How grave a finding is. Words other than the three that call for action are informational.
-/

namespace Pinpoint

/-- The gravity of a finding. -/
inductive Severity where
  | high
  | medium
  | low
  | info
  deriving BEq, ReflBEq, LawfulBEq, DecidableEq, Repr

namespace Severity

/-- The word for a severity. -/
def name : Severity → String
  | .high => "High"
  | .medium => "Medium"
  | .low => "Low"
  | .info => "Info"

/-- The severity of a word, in exactly this spelling. -/
def ofName? : String → Option Severity
  | "High" => some .high
  | "Medium" => some .medium
  | "Low" => some .low
  | "Info" => some .info
  | _ => none

/-- The severity of a word; informational if the word is not one of the others. -/
def ofReported (word : String) : Severity :=
  (ofName? word).getD .info

end Severity

end Pinpoint
