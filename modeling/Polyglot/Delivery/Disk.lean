import Polyglot.Delivery.Host
import Polyglot.Path

/-! A disk as a value: directories and files by the components of their paths. Operations fail where a
file system refuses them: below a file, in a directory that is missing, for a name that is too
long. -/

namespace Polyglot

/-- What a path names. -/
inductive DiskEntry where
  | directory
  | file (content : String)
deriving DecidableEq, Repr

/-- Why an operation fails. -/
inductive DiskError where
  | missing
  | occupied
  | notDirectory
  | isDirectory
  | nameTooLong
  | invalidName
deriving DecidableEq, Repr

namespace DiskError

/-- The text of the error. -/
def message : DiskError → String
  | .missing => "No such file or directory"
  | .occupied => "File exists"
  | .notDirectory => "Not a directory"
  | .isDirectory => "Is a directory"
  | .nameTooLong => "File name too long"
  | .invalidName => "file name contained an unexpected NUL byte"

end DiskError

/-- The entries of a disk below its root, and how many directories were made under fresh names. -/
structure Disk where
  entries : List (List String × DiskEntry) := []
  stamp : Nat := 0
deriving DecidableEq, Repr

namespace Disk

/-- What stands at a place; the root is a directory. -/
def entry? (d : Disk) (place : List String) : Option DiskEntry :=
  if place.isEmpty then some .directory else d.entries.lookup place

/-- The content of the file at a place. -/
def file? (d : Disk) (place : List String) : Option String :=
  match d.entry? place with
  | some (.file content) => some content
  | _ => none

/-- Removes what stands at a place. -/
def erase (d : Disk) (place : List String) : Disk :=
  { d with entries := d.entries.filter fun e => e.1 != place }

/-- Puts an entry at a place, in place of what stands there. -/
def put (d : Disk) (place : List String) (entry : DiskEntry) : Disk :=
  { d with entries := (place, entry) :: (d.erase place).entries }

/-- The longest name, in bytes. -/
def maxName : Nat := 255

/-- Whether a name is too long for an entry. -/
def tooLong (name : String) : Bool := maxName < name.utf8ByteSize

/-- Goes from a directory along some segments, all of which have to name directories. -/
def walk (d : Disk) (place : List String) : List String → Except DiskError (List String)
  | [] => .ok place
  | s :: ss =>
    if s.isEmpty || s == "." then d.walk place ss
    else if s == ".." then d.walk place.dropLast ss
    else if tooLong s then .error .nameTooLong
    else
      match d.entry? (place ++ [s]) with
      | some .directory => d.walk (place ++ [s]) ss
      | some (.file _) => .error .notDirectory
      | none => .error .missing

/-- Whether some segments name a directory. -/
def isDirectory (d : Disk) (segments : List String) : Bool := (d.walk [] segments).isOk

/-- Whether a segment names an entry of the directory before it. -/
def isName (s : String) : Bool := !s.isEmpty && s != "." && s != ".."

/-- The place of an entry: its directory has to be there, and its name has to fit. -/
def locate (d : Disk) (segments : List String) : Except DiskError (List String) :=
  match segments.getLast? with
  | some name =>
    if isName name then do
      let dir ← d.walk [] segments.dropLast
      if tooLong name then .error .nameTooLong else .ok (dir ++ [name])
    else do
      let _ ← d.walk [] segments
      .error .isDirectory
  | none => .error .isDirectory

/-- Drops empty segments at the end. -/
def dropSlashes (segments : List String) : List String :=
  (segments.reverse.dropWhile String.isEmpty).reverse

/-- Makes one directory. -/
def makeDirectory (d : Disk) (segments : List String) : Except DiskError Disk :=
  match d.locate (dropSlashes segments) with
  | .ok place =>
    match d.entry? place with
    | some _ => .error .occupied
    | none => .ok (d.put place .directory)
  | .error .isDirectory => .error .occupied
  | .error e => .error e

/-- Makes one directory, unless it is there. -/
def ensureDirectory (d : Disk) (segments : List String) : Except DiskError Unit × Disk :=
  match d.makeDirectory segments with
  | .ok d => (.ok (), d)
  | .error e => (if d.isDirectory segments then .ok () else .error e, d)

/-- Makes a directory and those above it; `outer` are the components of its parent, innermost
first. -/
def makeAll (d : Disk) (segments : List String) : (outer : List String) → Except DiskError Unit × Disk
  | [] => d.ensureDirectory segments
  | s :: outer =>
    match d.makeDirectory segments with
    | .error .missing =>
      match d.makeAll (s :: outer).reverse outer with
      | (.ok (), d) => d.ensureDirectory segments
      | (.error e, d) => (.error e, d)
    | _ => d.ensureDirectory segments

/-- Whether a path can be given to the system at all. -/
def isValid (path : String) : Bool := !path.toList.contains '\x00'

/-- Makes a directory and those above it. -/
def createDirs (d : Disk) (path : String) : Except DiskError Unit × Disk :=
  if isValid path then d.makeAll (Path.segments path) (Path.components path).dropLast.reverse
  else (.error .invalidName, d)

/-- Makes a new directory inside another; its path is absolute. -/
def createFresh (d : Disk) (parent front : String) : Except DiskError String × Disk :=
  let path := Path.join (Path.join "/" parent) (front ++ toString d.stamp)
  if isValid path then
    match d.makeDirectory (Path.segments path) with
    | .ok d => (.ok path, { d with stamp := d.stamp + 1 })
    | .error e => (.error e, d)
  else (.error .invalidName, d)

/-- Writes a file, in place of one that is there. -/
def write (d : Disk) (path content : String) : Except DiskError Disk :=
  if isValid path then do
    let place ← d.locate (Path.segments path)
    match d.entry? place with
    | some .directory => .error .isDirectory
    | _ => .ok (d.put place (.file content))
  else .error .invalidName

/-- Reads a file. -/
def read? (d : Disk) (path : String) : Option String :=
  match d.locate (Path.segments path) with
  | .ok place => d.file? place
  | .error _ => none

/-- Removes a file. -/
def removeFile (d : Disk) (path : String) : Except DiskError Disk :=
  if isValid path then do
    let place ← d.locate (Path.segments path)
    match d.entry? place with
    | some (.file _) => .ok (d.erase place)
    | some .directory => .error .isDirectory
    | none => .error .missing
  else .error .invalidName

/-- Removes a directory and all in it. -/
def removeTree (d : Disk) (path : String) : Disk :=
  match d.walk [] (Path.segments path) with
  | .ok place => { d with entries := d.entries.filter fun e => !place.isPrefixOf e.1 }
  | .error _ => d

end Disk

/-- A disk, and whatever else a host keeps. -/
structure World (η : Type) where
  disk : Disk
  host : η

namespace World

variable {η : Type}

/-- Runs an operation of the disk. -/
def onDisk {α : Type} (f : Disk → α × Disk) : StateM (World η) α := fun w =>
  let (a, disk) := f w.disk
  (a, { w with disk })

/-- Runs an operation of the disk that leaves it alone when it fails. -/
def tryOnDisk {ε : Type} (report : DiskError → ε) (f : Disk → Except DiskError Disk) :
    StateM (World η) (Except ε Unit) := fun w =>
  match f w.disk with
  | .ok disk => (.ok (), { w with disk })
  | .error e => (.error (report e), w)

/-- Why a file was not removed, as storage tells it. -/
def removeError : DiskError → RemoveError
  | .missing => .missing
  | e => .failed e.message

/-- The disk of a world as storage. -/
def storage (tempDir : String) : Storage (StateM (World η)) where
  tempDir := tempDir
  createDirs path := onDisk fun d =>
    let (r, d) := d.createDirs path
    (r.mapError DiskError.message, d)
  createFresh parent front := onDisk fun d =>
    let (r, d) := d.createFresh parent front
    (r.mapError DiskError.message, d)
  write path content := tryOnDisk DiskError.message fun d => d.write path content
  removeFile path := tryOnDisk removeError fun d => d.removeFile path
  removeTree path := onDisk fun d => ((), d.removeTree path)

end World

end Polyglot
