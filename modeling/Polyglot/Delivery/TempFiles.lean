import Polyglot.Config
import Polyglot.Delivery.Host
import Polyglot.Text.Quoted
import Polyglot.Url.Basic
import Polyglot.VirtualDocument

/-! Delivery as files: virtual documents are written below a directory of their own, which is made
when it is first needed, in one directory per extension. -/

namespace Polyglot

/-- A one-line account for logs. -/
def Handle.summary (h : Handle) : String :=
  "VirtualDocumentHandle \x7b uri: " ++ Text.Quoted.quote h.uri ++ ", releases: " ++
    (if h.releases then "true" else "false") ++ " \x7d"

/-- Where files are written. -/
structure TempFiles where
  /-- Where the directory is made; in the system's directory if absent. -/
  parent : Option String := none
  naming : TempFileNaming := .shared
  /-- The directory, once it is made. -/
  root : Option String := none
  /-- The number of the next file that has one. -/
  nextRequest : UInt64 := 0
deriving DecidableEq, Repr

namespace TempFiles

/-- A one-line account for logs. -/
def summary (t : TempFiles) : String :=
  let parent := match t.parent with
    | some parent => "Some(" ++ Text.Quoted.quotePath parent ++ ")"
    | none => "None"
  let naming := match t.naming with
    | .shared => "Shared"
    | .perRequest => "PerRequest"
  "TempFileBackend \x7b parent: " ++ parent ++ ", naming: " ++ naming ++ ", .. \x7d"

/-- The start of the name of the directory. -/
def rootFront : String := "quarto-vdoc-"

/-- The name of a file before its number and its extension. -/
def fileStem : String := "intellisense"

variable {m : Type → Type} [Monad m]

/-- Makes the directory, unless it is there. -/
def ensureRoot (storage : Storage m) (t : TempFiles) : m (Except Error String × TempFiles) :=
  match t.root with
  | some root => pure (.ok root, t)
  | none => do
    let place := t.parent.getD storage.tempDir
    let prepared ← match t.parent with
      | some parent => storage.createDirs parent
      | none => pure (.ok ())
    match prepared with
    | .error cause => return (.error (.createTempDir place cause), t)
    | .ok () =>
      match ← storage.createFresh place rootFront with
      | .error cause => return (.error (.createTempDir place cause), t)
      | .ok root => return (.ok root, { t with root := some root })

/-- The name of the next file with an extension. -/
def fileName (t : TempFiles) (extension : String) : String :=
  match t.naming with
  | .shared => fileStem ++ "." ++ extension
  | .perRequest => fileStem ++ "-" ++ toString t.nextRequest.toNat ++ "." ++ extension

/-- Counts a file that has a number. -/
def count (t : TempFiles) : TempFiles :=
  match t.naming with
  | .shared => t
  | .perRequest => { t with nextRequest := t.nextRequest + 1 }

/-- Makes the directory of an extension; gives the path of the next file in it. -/
def filePath (storage : Storage m) (t : TempFiles) (extension : String) :
    m (Except Error String × TempFiles) := do
  match ← t.ensureRoot storage with
  | (.error e, t) => return (.error e, t)
  | (.ok root, t) =>
    let dir := Path.join root extension
    match ← storage.createDirs dir with
    | .error cause => return (.error (.createTempDir dir cause), t)
    | .ok () => return (.ok (Path.join dir (t.fileName extension)), t.count)

/-- Writes a virtual document to a file and has the host open it. A file that is not opened is
removed. -/
def acquire (storage : Storage m) (host : Host m) (t : TempFiles) (v : VirtualDocument) :
    m (Except Error Handle × TempFiles) := do
  match ← t.filePath storage v.language.extension with
  | (.error e, t) => return (.error e, t)
  | (.ok path, t) =>
    match ← storage.write path (v.language.fixed v.content) with
    | .error cause => return (.error (.writeVirtualDocument path cause), t)
    | .ok () =>
      match Url.ofFilePath? path with
      | none => return (.error (.invalidPath path), t)
      | some uri =>
        match ← host.openDocument uri with
        | .error e => do
          let _ ← storage.removeFile path
          return (.error e, t)
        | .ok () => return (.ok ⟨uri, true⟩, t)

/-- Removes the directory and all in it. -/
def shutdown (storage : Storage m) (t : TempFiles) : m TempFiles :=
  match t.root with
  | some root => do
    storage.removeTree root
    return { t with root := none }
  | none => pure t

end TempFiles

end Polyglot
