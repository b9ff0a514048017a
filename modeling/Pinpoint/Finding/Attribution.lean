import Pinpoint.Fault
import Pinpoint.Finding.Batch

/-!
# Attribution of findings to sources

Each location of a batch belongs to one source of the batch: to the one at the file index of its
source-map text, or to the first one if the text is missing or malformed or its index is out of
range, so that none is dropped. A batch without sources has one nameless source. Within a source
the locations keep the order of the batch.
-/

namespace Pinpoint

/-- The locations of a batch that belong to one source, each with its issue. -/
structure SourceShare where
  source : Json
  /-- The format of the batch. -/
  format : String
  /-- The source list of the batch. -/
  sourceList : List Json
  items : List (Issue × Location)

/-- The number of the source that a location belongs to, among `sourceCount` sources. -/
def Location.slot (location : Location) (sourceCount : Nat) : Except ShapeError Nat :=
  if location.sourceMap.isPresent then do
    match Entry.parse (← location.sourceMap.asText) with
    | .error _ => return 0
    | .ok entry =>
      if 0 ≤ entry.fileIndex ∧ entry.fileIndex < sourceCount then return entry.fileIndex.toNat
      else return 0
  else return 0

namespace Batch

/-- The sources that the locations of a batch are shared among. -/
def sources (batch : Batch) : List Json :=
  if batch.sourceList.isEmpty then [.text ""] else batch.sourceList

/-- Every location of a batch with its issue, in order. -/
def occurrences (batch : Batch) : List (Issue × Location) :=
  batch.issues.flatMap fun issue => issue.locations.map fun location => (issue, location)

/-- Every location of a batch with its issue and the number of the source it belongs to. -/
def attributed (batch : Batch) : Except ShapeError (List (Nat × Issue × Location)) :=
  batch.occurrences.mapM fun occurrence => do
    return (← occurrence.2.slot batch.sources.length, occurrence)

/-- The shares of a batch, one for each of its sources. -/
def shares (batch : Batch) : Except ShapeError (List SourceShare) := do
  let attributed ← batch.attributed
  return batch.sources.zipIdx.map fun (source, slot) =>
    { source
      format := batch.format
      sourceList := batch.sourceList
      items := (attributed.filter fun occurrence => occurrence.1 == slot).map (·.2) }

end Batch

end Pinpoint
