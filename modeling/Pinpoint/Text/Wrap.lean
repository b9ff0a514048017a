import Pinpoint.Text.Blank
import Pinpoint.Text.Cells

/-!
# Wrapping

A line is wrapped to a width in cells. It is cut into words, each with the blanks after it and
the first one also with the blanks before it. A word goes on the current line if it fits there
without its trailing blanks, and otherwise starts a new line; a word wider than a whole line is
chopped into pieces of the width, each on a line of its own. The first line is never empty, and
lines that hold too many characters lose blanks at their ends.
-/

namespace Pinpoint.Text

/-- The words of a line. A line of blanks only has none. -/
def words (line : List Char) : List (List Char) :=
  let lead := line.takeWhile isBlank
  match start : line.dropWhile isBlank with
  | [] => []
  | first :: rest =>
    let body := rest.takeWhile fun character => !isBlank character
    let afterBody := rest.dropWhile fun character => !isBlank character
    have : (afterBody.dropWhile isBlank).length < line.length := by
      have dropped := (List.dropWhile_sublist isBlank (l := line)).length_le
      have outer := (List.dropWhile_sublist isBlank (l := afterBody)).length_le
      have inner :=
        (List.dropWhile_sublist (fun character => !isBlank character) (l := rest)).length_le
      rw [start] at dropped
      simp only [List.length_cons] at dropped
      simp only [afterBody] at outer ⊢
      omega
    (lead ++ first :: body ++ afterBody.takeWhile isBlank) ::
      words (afterBody.dropWhile isBlank)
  termination_by line.length

/-- The pieces of a text after the piece at hand, of which `used` cells are taken. Each piece holds
as many clusters as fit the width, and none if already the next one is wider. -/
def chopAfter (width used : Nat) (piece : List Char) : List Cluster → List (List Char)
  | [] => [piece]
  | cluster :: rest =>
    if used + cluster.width ≤ width then
      chopAfter width (used + cluster.width) (piece ++ cluster.text) rest
    else piece :: chopAfter width cluster.width cluster.text rest

/-- The pieces of a text, each as wide as fits the width. -/
def chop (width : Nat) (text : List Char) : List (List Char) :=
  chopAfter width 0 [] (clusters text)

/-- The lines that words fill. `current` is the line at hand, of which `used` cells count as
taken. -/
def fill (width : Nat) (current : List Char) (used : Nat) : List (List Char) → List (List Char)
  | [] => [current]
  | word :: rest =>
    let needed := cells (word.reverse.dropWhile isBlank).reverse
    if used + needed ≤ width then fill width (current ++ word) (used + cells word) rest
    else if needed ≤ width then current :: fill width word (cells word) rest
    else
      let pieces := chop width word
      let last := pieces.getLastD []
      current :: pieces.dropLast ++ fill width last (cells last) rest

/-- The line without blanks at its end, as far as it has more than `limit` characters. -/
def trimBeyond (limit : Nat) (line : List Char) : List Char :=
  let blanks := (line.reverse.takeWhile isBlank).length
  line.take (line.length - min blanks (line.length - limit))

/-- The lines that a line is wrapped to. -/
def wrap (width : Nat) (line : List Char) : List (List Char) :=
  let lines := match words line with
    | [] => [line]
    | words => (fill width [] 0 words).dropWhile List.isEmpty
  lines.map (trimBeyond width)

end Pinpoint.Text
