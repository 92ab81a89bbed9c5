import Polyglot.Error
import Polyglot.Provider.Response

/-! What delivery needs from outside: a host that runs providers, and storage for files. Both are
given as operations of a monad, so that they can be a real editor and disk or plain values. -/

namespace Polyglot

/-- How a provider ends. -/
inductive ProviderOutcome where
  | response (response : ProviderResponse)
  | failed (error : Error)
  | crashed

/-- The editor. A provider may ask back for the content that the URI of a virtual document
names. -/
structure Host (m : Type → Type) where
  openDocument : (uri : String) → m (Except Error Unit)
  execute : (provide : String → Option String) → ProviderRequest → m ProviderOutcome
  deleteFile : (uri : String) → m (Except Error Unit)

/-- Why a file was not removed. -/
inductive RemoveError where
  | missing
  | failed (cause : String)

/-- Storage for files. Failures carry the text of the system's own error. -/
structure Storage (m : Type → Type) where
  /-- The directory for temporary files. -/
  tempDir : String
  /-- Makes a directory and all those above it. -/
  createDirs : (path : String) → m (Except String Unit)
  /-- Makes a new directory inside another, its name starting as given. -/
  createFresh : (parent front : String) → m (Except String String)
  write : (path content : String) → m (Except String Unit)
  removeFile : (path : String) → m (Except RemoveError Unit)
  /-- Removes a directory and all in it. -/
  removeTree : (path : String) → m Unit

/-- A virtual document that is ready for a provider; `releases` if it has to be deleted
afterwards. -/
structure Handle where
  uri : String
  releases : Bool
deriving DecidableEq, Repr

/-- Gives a virtual document up. A host that fails to delete it is not heard. -/
def Handle.dispose {m : Type → Type} [Monad m] (h : Handle) (host : Host m) : m Unit := do
  if h.releases then
    let _ ← host.deleteFile h.uri

end Polyglot
