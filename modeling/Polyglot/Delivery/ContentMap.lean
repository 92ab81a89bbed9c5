import Polyglot.Text.Percent
import Polyglot.VirtualDocument

/-! Delivery as content: virtual documents are kept under the URI of their document and named by URIs
from which that one can be read back. -/

namespace Polyglot

/-- The scheme of the URIs of virtual documents. -/
def vdocScheme : String := "quarto-vdoc"

/-- What stands before the language in the URI of a virtual document. -/
def vdocHead : String := vdocScheme ++ "://"

/-- The URI of a virtual document: its language, the coded URI of its document, its extension. -/
def virtualDocumentUri (uri : String) (v : VirtualDocument) : String :=
  vdocHead ++ v.language.name ++ "/" ++ Text.Percent.encode uri ++ "." ++ v.language.extension

/-- What follows the front of a text, if it starts so. -/
def afterFront? (front : List Char) (cs : List Char) : Option (List Char) :=
  if front.isPrefixOf cs then some (cs.drop front.length) else none

/-- What follows the first occurrence of a character. -/
def afterFirst? (c : Char) (cs : List Char) : Option (List Char) :=
  match cs.dropWhile (· != c) with
  | [] => none
  | _ :: r => some r

/-- What comes before the last occurrence of a character. -/
def beforeLast? (c : Char) (cs : List Char) : Option (List Char) :=
  (afterFirst? c cs.reverse).map List.reverse

/-- The URI of the document that a virtual document was made from. -/
def hostUri? (vdocUri : String) : Option String :=
  (afterFront? vdocHead.toList vdocUri.toList).bind fun r =>
    (afterFirst? '/' r).bind fun r => (beforeLast? '.' r).bind Text.Percent.decode?

/-- The latest content delivered for each document. -/
structure ContentMap where
  contents : List (String × String) := []

namespace ContentMap

/-- The content kept for a document. -/
def get? (m : ContentMap) (uri : String) : Option String := m.contents.lookup uri

/-- Drops the content of a document. -/
def forget (m : ContentMap) (uri : String) : ContentMap where
  contents := m.contents.filter fun e => e.1 != uri

/-- Keeps content for a document, in place of what was kept. -/
def put (m : ContentMap) (uri content : String) : ContentMap where
  contents := (uri, content) :: (m.forget uri).contents

/-- Keeps a virtual document; gives its URI. -/
def acquire (m : ContentMap) (uri : String) (v : VirtualDocument) : String × ContentMap :=
  (virtualDocumentUri uri v, m.put uri v.content)

/-- The content that the URI of a virtual document names. -/
def provide? (m : ContentMap) (vdocUri : String) : Option String := (hostUri? vdocUri).bind m.get?

end ContentMap

end Polyglot
