import Polyglot.CommandLine.LogFilter
import Polyglot.Server.Capabilities

/-! The command line of the server. -/

namespace Polyglot

/-- What the command line asks for. -/
structure Options where
  /-- Talk over standard input and output, as the server always does. -/
  stdio : Bool := false
  /-- The filter for log messages. -/
  log : Option String := none
deriving DecidableEq, Repr

/-- What becomes of a command line. -/
inductive Invocation where
  | serve (options : Options)
  | help
  | version
  | usageError
deriving DecidableEq, Repr

namespace Invocation

/-- Whether an argument can be the value of an option: it is not taken for an option itself. -/
def isValue (s : String) : Bool :=
  match s.toList with
  | ['-'] => true
  | '-' :: _ => false
  | _ => true

/-- Sets the log filter, which may be given once. -/
def setLog (o : Options) (filter : String) : Option Options :=
  if o.log.isSome then none else some { o with log := some filter }

/-- The value in an argument that joins an option to its value by an equals sign. -/
def joined? (option argument : String) : Option String :=
  let front := option.toList ++ ['=']
  if front.isPrefixOf argument.toList then
    some (String.ofList (argument.toList.drop front.length))
  else none

/-- What a group of short options asks for; the first decides. -/
def short : List Char → Invocation
  | 'h' :: _ => .help
  | 'V' :: _ => .version
  | _ => .usageError

/-- Reads the arguments after those that gave some options. -/
def readWith (o : Options) : List String → Invocation
  | [] => .serve o
  | "--" :: rest => if rest.isEmpty then .serve o else .usageError
  | "--help" :: _ => .help
  | "--version" :: _ => .version
  | "--stdio" :: rest => if o.stdio then .usageError else readWith { o with stdio := true } rest
  | ["--log"] => .usageError
  | "--log" :: value :: rest =>
    if isValue value then
      match setLog o value with
      | some o => readWith o rest
      | none => .usageError
    else .usageError
  | argument :: rest =>
    match joined? "--log" argument with
    | some value =>
      match setLog o value with
      | some o => readWith o rest
      | none => .usageError
    | none =>
      match argument.toList with
      | '-' :: '-' :: _ => .usageError
      | '-' :: flags => short flags
      | _ => .usageError

/-- Reads a command line. -/
def read (arguments : List String) : Invocation := readWith {} arguments

/-- How the server is used. -/
def helpText : String :=
  "Quarto language server\n\nUsage: quarto-lsp [OPTIONS]\n\nOptions:\n" ++
  "      --stdio      Communicate over stdio " ++
  "(the only transport; accepted for client compatibility)\n" ++
  "      --log <LOG>  Log filter, e.g. \x60quarto_vdoc=debug\x60. Overrides RUST_LOG\n" ++
  "  -h, --help       Print help\n  -V, --version    Print version\n"

/-- The name and the version of the server. -/
def versionText : String := serverName ++ " " ++ serverVersion ++ "\n"

/-- What is printed before the server is run, if it is. -/
def output : Invocation → String
  | .help => helpText
  | .version => versionText
  | _ => ""

/-- The exit code, if the server itself ends well. A filter that cannot be read keeps the server from
starting. -/
def exitCode : Invocation → UInt32
  | .serve o => if o.log.all LogFilter.isValid then 0 else 1
  | .help | .version => 0
  | .usageError => 2

end Invocation

end Polyglot
