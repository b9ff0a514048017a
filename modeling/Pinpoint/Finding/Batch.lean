import Pinpoint.Json.Display

/-!
# Reported findings

An analysis service delivers its findings in batches. A batch has a format, which says how its
locations are to be read, a list of sources, and issues, each with any number of locations. The
text fields of an issue are shown whatever JSON value they hold; the source names of a batch and
the source-map text of a location are kept as they came, since what they may be depends on their
use.
-/

namespace Pinpoint

/-- A place that an issue names: source-map text, a bytecode offset, or both. -/
structure Location where
  /-- The text `start:length:fileIndex`, or whatever stands in its place. -/
  sourceMap : Json
  /-- The bytecode offset, if the location gives one. -/
  address : Option Int
  deriving DecidableEq

/-- One finding of an analysis. -/
structure Issue where
  /-- The first part of the description. -/
  head : String
  /-- The details of the description. -/
  tail : String
  locations : List Location
  severity : String
  /-- The weakness that the finding is an instance of. -/
  ruleId : String
  ruleTitle : String
  deriving DecidableEq

/-- The findings of one analysis. -/
structure Batch where
  /-- How the locations are to be read. -/
  format : String
  /-- What was analyzed. -/
  sourceType : String
  /-- The names that the file indexes of the locations count. -/
  sourceList : List Json
  issues : List Issue
  deriving DecidableEq

/-- The displayed form of a member; a missing one has the empty text. -/
def Json.displayMember (value : Json) (name : String) : Except ShapeError String := do
  return (← value.memberOr name (.text "")).display

/-- Reads a location. -/
def Location.ofJson (payload : Json) : Except ShapeError Location := do
  let address ← payload.member "address"
  let sourceMap ← payload.member "sourceMap"
  if address.isNull then return { sourceMap, address := none }
  else return { sourceMap, address := some (← address.toInt) }

/-- The source-map text of a location; empty if there is none. -/
def Location.sourceMapText (location : Location) : Except ShapeError String :=
  location.sourceMap.textIfPresent

/-- Reads an issue. -/
def Issue.ofJson (payload : Json) : Except ShapeError Issue := do
  let description := (← payload.member "description").orElse (.object [])
  let head ← description.displayMember "head"
  let tail ← description.displayMember "tail"
  let locations ← (← payload.member "locations").itemsIfPresent
  return {
    head, tail
    locations := ← locations.mapM Location.ofJson
    severity := ← payload.displayMember "severity"
    ruleId := ← payload.displayMember "swcID"
    ruleTitle := ← payload.displayMember "swcTitle" }

/-- Reads a batch. -/
def Batch.ofJson (payload : Json) : Except ShapeError Batch := do
  let format ← payload.displayMember "sourceFormat"
  let sourceType ← payload.displayMember "sourceType"
  let sourceList ← (← payload.member "sourceList").itemsIfPresent
  let issues ← (← payload.member "issues").itemsIfPresent
  return { format, sourceType, sourceList, issues := ← issues.mapM Issue.ofJson }

end Pinpoint
