import Polyglot.CommandLine.Arguments
import Polyglot.Server.Message

/-! The server as a program: a session over standard input and output, with files on the disk. Only
this module has effects. -/

namespace Polyglot

/-- An effect whose failure is a value. -/
def attempt {α : Type} (action : IO α) : IO (Except String α) := do
  match ← action.toBaseIO with
  | .ok a => return .ok a
  | .error e => return .error (toString e)

/-- The characters of fresh names. -/
def nameChars : List Char :=
  "ABCDEFGHIJKLMNOPQRSTUVWXYZabcdefghijklmnopqrstuvwxyz0123456789".toList

/-- A name that is hardly in use. -/
def freshName (front : String) : IO String := do
  let cs ← (List.range 6).mapM fun _ => do
    return nameChars.getD (← IO.rand 0 (nameChars.length - 1)) 'A'
  return front ++ String.ofList cs

/-- The disk. -/
def diskStorage (tempDir : String) : Storage IO where
  tempDir
  createDirs path := attempt (IO.FS.createDirAll path)
  createFresh parent front := attempt do
    let here := (← IO.currentDir).toString
    let path := Path.join (Path.join here parent) (← freshName front)
    IO.FS.createDir path
    return path
  write path content := attempt (IO.FS.writeFile path content)
  removeFile path := do
    match ← (IO.FS.removeFile path).toBaseIO with
    | .ok () => return .ok ()
    | .error (.noFileOrDirectory ..) => return .error .missing
    | .error e => return .error (.failed (toString e))
  removeTree path := discard (attempt (IO.FS.removeDirAll path))

/-- A line to the client. Messages that come while a reply is awaited wait until it is there. -/
structure Connection where
  input : IO.FS.Stream
  output : IO.FS.Stream
  waiting : IO.Ref (List Message)
  /-- The mark of the next request. -/
  next : IO.Ref Nat

namespace Connection

def send (c : Connection) (m : Message) : IO Unit := do
  c.output.putStr m.frame
  c.output.flush

/-- Reads as many bytes as are asked for, or all that are left. -/
partial def readBytes (c : Connection) (count : Nat) (got : ByteArray) : IO ByteArray := do
  if count ≤ got.size then return got
  let more ← c.input.read (count - got.size).toUSize
  if more.isEmpty then return got
  c.readBytes count (got ++ more)

/-- Reads a header; the length it names, or zero, and nothing at the end of the input. -/
partial def readHeader (c : Connection) (length : Nat) : IO (Option Nat) := do
  let line ← c.input.getLine
  if line.isEmpty then return none
  if line == "\r\n" || line == "\n" then return some length
  c.readHeader ((Message.length? line).getD length)

/-- Reads messages until one can be understood. -/
partial def read (c : Connection) : IO (Option Message) := do
  let some length ← c.readHeader 0 | return none
  let body ← c.readBytes length .empty
  match (String.fromUTF8? body).bind Json.parse? |>.bind Message.ofJson? with
  | some m => return some m
  | none => c.read

/-- The next message, one that has waited first. -/
def take (c : Connection) : IO (Option Message) := do
  match ← c.waiting.get with
  | m :: rest =>
    c.waiting.set rest
    return some m
  | [] => c.read

/-- Waits for a reply. Content is provided meanwhile. -/
partial def await (c : Connection) (provide : String → Option String) (mark : Json) :
    IO (Except String Json) := do
  match ← c.read with
  | none => return .error "connection closed"
  | some m =>
    match m with
    | .reply answered result =>
      if answered.render == mark.render then return result.mapError Message.errorText
    | .request asked method params =>
      if method == contentMethod then
        let answer := (Session.params decodeContentUri params).map fun uri => .ofString? (provide uri)
        c.send (.ofReply asked answer)
      else c.waiting.modify (· ++ [m])
    | .notice .. => c.waiting.modify (· ++ [m])
    c.await provide mark

/-- The client at the other end. -/
def client (c : Connection) : Client IO where
  request provide method params := do
    let mark := Json.ofNat (← c.next.modifyGet fun n => (n, n + 1))
    c.send (.request mark method (some params))
    c.await provide mark
  notify method params := c.send (.notice method (some params))

/-- Handles messages until the client says that it is done, or is gone. -/
partial def serve (c : Connection) (storage : Storage IO) (s : Session) : IO Session := do
  match ← c.take with
  | none | some (.notice "exit" _) => return s
  | some (.request mark method params) =>
    let (reply, s) ← s.handleRequest storage c.client method params
    c.send (.ofReply mark reply)
    c.serve storage s
  | some (.notice method params) => c.serve storage (← s.handleNotice c.client method params)
  | some (.reply ..) => c.serve storage s

end Connection

/-- Runs a session over standard input and output. -/
def runServer : IO Unit := do
  let c : Connection :=
    ⟨← IO.getStdin, ← IO.getStdout, ← IO.mkRef [], ← IO.mkRef 0⟩
  let storage := diskStorage ((← IO.getEnv "TMPDIR").getD "/tmp")
  let s ← c.serve storage {}
  discard (s.finish storage)

end Polyglot

def main (arguments : List String) : IO UInt32 := do
  let invocation := Polyglot.Invocation.read arguments
  IO.print invocation.output
  match invocation with
  | .serve _ => if invocation.exitCode == 0 then Polyglot.runServer
  | .usageError => IO.eprintln "error: unexpected arguments; for more information, try '--help'"
  | _ => pure ()
  return invocation.exitCode
