/-! Absolute file paths, as texts whose segments are divided by slashes. -/

namespace Polyglot.Path

/-- The segments of a path, empty ones and dots among them. -/
def segments (path : String) : List String := (path.toList.splitOn '/').map String.ofList

/-- Whether a path starts at the root. -/
def isAbsolute (path : String) : Bool := path.toList.head? == some '/'

/-- Goes on from a path; an absolute path starts anew. -/
def join (base path : String) : String :=
  if isAbsolute path then path
  else if base.isEmpty || base.toList.getLast? == some '/' then base ++ path
  else base ++ "/" ++ path

/-- The segments that say something: empty ones and single dots do not. -/
def components (path : String) : List String :=
  (segments path).filter fun s => !s.isEmpty && s != "."

/-- The path of some components below the root. -/
def ofComponents (cs : List String) : String := "/" ++ "/".intercalate cs

end Polyglot.Path
