import Polyglot.Text.Lines

/-! Documents and the store of those that are open. -/

namespace Polyglot

/-- A document, with its version if its editor counts versions. -/
structure Document where
  uri : String
  content : String
  version : Option Int32
deriving DecidableEq

namespace Document

/-- The lines of the document. -/
def lines (d : Document) : List String := Text.splitLines d.content

/-- How many lines the document has: one at least. -/
def lineCount (d : Document) : Nat := d.lines.length

/-- A line, counted from zero. -/
def line? (d : Document) (i : Nat) : Option String := d.lines[i]?

end Document

/-- The open documents, filed by their URI. -/
structure DocumentStore where
  documents : List (String × Document) := []

namespace DocumentStore

/-- The document of a URI. -/
def get? (s : DocumentStore) (uri : String) : Option Document := s.documents.lookup uri

def contains (s : DocumentStore) (uri : String) : Bool := (s.get? uri).isSome

def size (s : DocumentStore) : Nat := s.documents.length

def isEmpty (s : DocumentStore) : Bool := s.size == 0

/-- Removes the document of a URI. -/
def close (s : DocumentStore) (uri : String) : DocumentStore where
  documents := s.documents.filter fun e => e.1 != uri

/-- Files a document under its URI, in place of one that is there. -/
def put (s : DocumentStore) (d : Document) : DocumentStore where
  documents := (d.uri, d) :: (s.close d.uri).documents

/-- Opens a document. -/
def opened (s : DocumentStore) (uri content : String) (version : Int32) : DocumentStore :=
  s.put ⟨uri, content, some version⟩

/-- Replaces the content of an open document; a URI that is not open is left alone. -/
def change (s : DocumentStore) (uri content : String) (version : Int32) : DocumentStore :=
  match s.get? uri with
  | some d => s.put { d with content, version := some version }
  | none => s

end DocumentStore

end Polyglot
