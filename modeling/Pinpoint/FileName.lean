/-!
# File names

The file name of a path is what stands after its last separator. Paths come from different
systems, so a slash and a backslash both separate.
-/

namespace Pinpoint

/-- Whether a character separates the parts of a path. -/
def isPathSeparator (character : Char) : Bool :=
  character == '/' || character == '\\'

/-- The part of a path after its last separator. -/
def baseName (path : String) : String :=
  String.ofList (path.toList.reverse.takeWhile fun character =>
    !isPathSeparator character).reverse

end Pinpoint
