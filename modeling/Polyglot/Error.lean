/-! What can go wrong between a document and its provider. -/

namespace Polyglot

/-- A failure; `cause` is the text of the system's own error. -/
inductive Error where
  | createTempDir (path cause : String)
  | writeVirtualDocument (path cause : String)
  | invalidPath (path : String)
  | invalidUri (uri : String)
  | openDocument (uri message : String)
  | deleteFile (uri message : String)
  | provider (message : String)
  | unexpectedResponse (expected found : String)
  | config (message : String)
  | io (cause : String)
deriving DecidableEq, Repr

namespace Error

/-- The text of the error. -/
def message : Error → String
  | .createTempDir path cause => "Failed to create virtual document directory " ++ path ++ ": " ++ cause
  | .writeVirtualDocument path cause => "Failed to write virtual document " ++ path ++ ": " ++ cause
  | .invalidPath path => "Cannot express path as a file URI: " ++ path
  | .invalidUri uri => "Invalid virtual document URI: " ++ uri
  | .openDocument uri message => "Host failed to open " ++ uri ++ ": " ++ message
  | .deleteFile uri message => "Host failed to delete " ++ uri ++ ": " ++ message
  | .provider message => "Provider execution failed: " ++ message
  | .unexpectedResponse expected found =>
    "Provider returned a " ++ found ++ " result for a " ++ expected ++ " request"
  | .config message => "Invalid configuration: " ++ message
  | .io cause => "IO error: " ++ cause

end Error

end Polyglot
