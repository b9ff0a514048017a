import Pinpoint.Text.CellWidth
import Pinpoint.Text.Fields

/-!
# Terminal cells

Text is measured, cut and padded in terminal cells. A cut never splits a cluster: a character that
takes cells, with the characters after it that take none, those that joiners attach to it, and
selectors. A cut that falls inside a wide cluster leaves a space in its place.
-/

namespace Pinpoint.Text

/-- Attaches the character after it to what stands before it. -/
def joiner : Char := '\u200D'

/-- Asks for the picture of the character before it. -/
def pictureSelector : Char := '\uFE0F'

/-- The cells that a selector adds after `last`, if it has not been selected yet. -/
def selectorCells (last : Option Char) : Nat :=
  (last.map selectorGain).getD 0

/-- The number of cells that a text takes after other text, in which `last` is the last character
that takes any, unless it has been selected. A joined character takes none. -/
def cellsAfter (last : Option Char) : List Char → Nat
  | [] => 0
  | '\u200D' :: _ :: rest => cellsAfter last rest
  | character :: rest =>
    if character = pictureSelector then selectorCells last + cellsAfter none rest
    else if cellWidth character = 0 then cellsAfter last rest
    else cellWidth character + cellsAfter (some character) rest

/-- The number of cells that a text takes. -/
def cells (text : List Char) : Nat :=
  cellsAfter none text

/-- Characters that are not split, and the cells that they take. -/
structure Cluster where
  text : List Char
  width : Nat
  deriving BEq, DecidableEq, Repr

namespace Cluster

/-- The cluster of one character. -/
def single (character : Char) : Cluster :=
  { text := [character], width := cellWidth character }

/-- The cluster with more characters, which add some cells. -/
def extend (cluster : Cluster) (characters : List Char) (added : Nat) : Cluster :=
  { text := cluster.text ++ characters, width := cluster.width + added }

end Cluster

/-- The clusters of a text after the cluster at hand. `last` is as in `cellsAfter`. -/
def clustersAfter (cluster : Cluster) (last : Option Char) : List Char → List Cluster
  | [] => [cluster]
  | '\u200D' :: joined :: rest => clustersAfter (cluster.extend [joiner, joined] 0) last rest
  | character :: rest =>
    if character = pictureSelector then
      clustersAfter (cluster.extend [character] (selectorCells last)) none rest
    else if cellWidth character = 0 then clustersAfter (cluster.extend [character] 0) last rest
    else cluster :: clustersAfter (.single character) (some character) rest

/-- The clusters of a text. What takes no cell at its start is a cluster of its own. -/
def clusters : List Char → List Cluster
  | [] => []
  | first :: rest =>
    clustersAfter (.single first) (if cellWidth first = 0 then none else some first) rest

/-- As many of the clusters as fit a budget of cells. A space stands for the part of the next one
that would still fit. -/
def takeClusters (budget : Nat) : List Cluster → List Char
  | [] => []
  | cluster :: rest =>
    if budget = 0 then []
    else if cluster.width ≤ budget then
      cluster.text ++ takeClusters (budget - cluster.width) rest
    else [' ']

/-- The text cut to `width` cells if it takes more. -/
def cut (width : Nat) (text : List Char) : List Char :=
  if cells text ≤ width then text else takeClusters width (clusters text)

/-- A row of spaces. -/
def spaces (count : Nat) : List Char :=
  List.replicate count ' '

/-- The text padded on the right with spaces up to `width` cells. -/
def padRight (width : Nat) (text : List Char) : List Char :=
  text ++ spaces (width - cells text)

/-- The text padded on the left with spaces up to `width` cells. -/
def padLeft (width : Nat) (text : List Char) : List Char :=
  spaces (width - cells text) ++ text

/-- The text, cut with an ellipsis for the last of `width` cells if it takes more. -/
def ellipsize (width : Nat) (text : List Char) : List Char :=
  if cells text ≤ width then text else cut (width - 1) text ++ ['…']

/-- The distance between tab stops, in cells. -/
def tabStop : Nat := 8

/-- The text before a tab with a space for the tab, and more spaces up to the next tab stop. -/
def fillToStop (text : List Char) : List Char :=
  let spaced := text ++ [' ']
  spaced ++ spaces ((tabStop - cells spaced % tabStop) % tabStop)

/-- Replaces the tabs of a line. What stands after a tab starts at a tab stop, so each part of the
line is filled by itself. -/
def expandTabs (line : List Char) : List Char :=
  let parts := fields '\t' line
  parts.dropLast.flatMap fillToStop ++ parts.getLastD []

end Pinpoint.Text
