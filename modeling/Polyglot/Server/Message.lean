import Polyglot.Json.Reader
import Polyglot.Json.Writer
import Polyglot.Server.Session

/-! The messages of a session as they travel: a header with the length of the body in bytes, an empty
line, and a JSON object. -/

namespace Polyglot

/-- What travels between a server and its client. A reply bears the mark of its request. -/
inductive Message where
  | request (mark : Json) (method : String) (params : Option Json)
  | notice (method : String) (params : Option Json)
  | reply (mark : Json) (result : Except Json Json)

namespace Message

/-- Whether a value can be the mark of a request. -/
def isMark : Json → Bool
  | .int _ | .string _ | .null => true
  | _ => false

/-- Reads a message. -/
def ofJson? (j : Json) : Option Message :=
  match j.field? "method", j.field? "id" with
  | some (.string method), some mark =>
    if isMark mark then some (.request mark method (j.field? "params")) else none
  | some (.string method), none => some (.notice method (j.field? "params"))
  | none, some mark =>
    match j.field? "error", j.field? "result" with
    | some error, _ => some (.reply mark (.error error))
    | none, some result => some (.reply mark (.ok result))
    | none, none => none
  | _, _ => none

/-- The fields of a message. -/
def fields : Message → List (String × Json)
  | .request mark method params =>
    [("id", mark), ("method", .string method)] ++ optionalField "params" id params
  | .notice method params => [("method", .string method)] ++ optionalField "params" id params
  | .reply mark (.ok result) => [("id", mark), ("result", result)]
  | .reply mark (.error error) => [("id", mark), ("error", error)]

def toJson (m : Message) : Json := .object (("jsonrpc", .string "2.0") :: m.fields)

/-- The reply to a request. -/
def ofReply (mark : Json) : Reply → Message
  | .ok result => .reply mark (.ok result)
  | .error e => .reply mark (.error (.object [("code", .int e.code), ("message", .string e.message)]))

/-- The text of an error in a reply. -/
def errorText (error : Json) : String :=
  match error.field? "message" with
  | some (.string message) => message
  | _ => error.render

/-- The header that names the length of a body. -/
def lengthHeader : String := "Content-Length: "

/-- A message as it travels. -/
def frame (m : Message) : String :=
  let body := m.toJson.render
  lengthHeader ++ toString body.utf8ByteSize ++ "\r\n\r\n" ++ body

/-- The length that a line of the header names. -/
def length? (line : String) : Option Nat :=
  let front := lengthHeader.toList
  if front.isPrefixOf line.toList then
    let digits := (line.toList.drop front.length).takeWhile Char.isDigit
    if digits.isEmpty then none else some (Json.decimal digits)
  else none

end Message

end Polyglot
