/-!
# Sorted names

Names are listed in the order of their code points, each once.
-/

namespace Pinpoint.Text

/-- The names of a list in order, each once. -/
def sortedNames (names : List String) : List String :=
  names.eraseDups.mergeSort fun first second => decide (first ≤ second)

end Pinpoint.Text
