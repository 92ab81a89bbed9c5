import Polyglot.Delivery.ContentMap
import Polyglot.Delivery.TempFiles

/-! Routing requests into embedded languages. A request inside a block of a known language is
answered by the provider of that language, run on the virtual document at the same position; whatever
fails on the way there gives an empty answer. -/

namespace Polyglot

/-- What becomes of a request. -/
inductive Routed (α : Type) where
  /-- No embedded language is responsible. -/
  | fallback
  | handled (answer : α)
deriving DecidableEq, Repr

namespace Routed

def map {α β : Type} (f : α → β) : Routed α → Routed β
  | .fallback => .fallback
  | .handled a => .handled (f a)

end Routed

/-- What a request comes to before anything is delivered. -/
inductive Gate where
  | fallback
  /-- The language does not answer requests like this one. -/
  | refused
  | passed (v : VirtualDocument)

/-- Routes requests by the languages of a configuration. -/
structure Router where
  enabled : Bool
  registry : Registry
  engine : ParseEngine
  contents : ContentMap := {}
  files : TempFiles

namespace Router

/-- A router for a configuration, with nothing parsed and nothing delivered. -/
def ofConfig (c : Config) : Router where
  enabled := c.enabled
  registry := c.registry
  engine := c.engine
  files := { parent := c.tempDir, naming := c.tempFileNaming }

/-- The virtual document at a position. -/
def virtualDocument (r : Router) (d : Document) (pos : Position) : Option VirtualDocument × Router :=
  let (v, engine) := synthesize r.engine r.registry d pos
  (v, { r with engine })

/-- Whether a completion is triggered by a character that the language does not declare. -/
def foreignTrigger (l : Language) (kind : RequestKind) (trigger : Option String) : Bool :=
  kind == .completion && trigger.any fun t => !l.isTrigger t

/-- Decides what becomes of a request. -/
def gate (r : Router) (d : Document) (kind : RequestKind) (pos : Position) (trigger : Option String) :
    Gate × Router :=
  if r.enabled then
    match r.virtualDocument d pos with
    | (none, r) => (.fallback, r)
    | (some v, r) =>
      if foreignTrigger v.language kind trigger || !v.language.supports kind then (.refused, r)
      else (.passed v, r)
  else (.fallback, r)

variable {m : Type → Type} [Monad m]

/-- Makes a virtual document ready as its language wants it. -/
def acquire (storage : Storage m) (host : Host m) (r : Router) (uri : String) (v : VirtualDocument) :
    m (Except Error Handle × Router) :=
  match v.language.delivery with
  | .contentProvider =>
    let (vdocUri, contents) := r.contents.acquire uri v
    pure (.ok ⟨vdocUri, false⟩, { r with contents })
  | .tempFile => do
    let (handle, files) ← r.files.acquire storage host v
    return (handle, { r with files })

/-- The answer that a provider's outcome gives: only one of the right kind counts. -/
def settle (kind : RequestKind) : ProviderOutcome → ProviderResponse
  | .response response => if response.kind = kind then response else .empty kind
  | .failed _ => .empty kind
  | .crashed => .empty kind

/-- Delivers a virtual document, runs the provider on it and gives it up again. -/
def deliver (storage : Storage m) (host : Host m) (r : Router) (uri : String) (v : VirtualDocument)
    (kind : RequestKind) (pos : Position) (trigger : Option String) :
    m (ProviderResponse × Router) := do
  match ← r.acquire storage host uri v with
  | (.error _, r) => return (.empty kind, r)
  | (.ok handle, r) =>
    let outcome ← host.execute r.contents.provide? ⟨kind, handle.uri, pos, trigger⟩
    handle.dispose host
    return (settle kind outcome, r)

/-- Routes a request. -/
def route (storage : Storage m) (host : Host m) (r : Router) (d : Document) (kind : RequestKind)
    (pos : Position) (trigger : Option String) : m (Routed ProviderResponse × Router) := do
  match r.gate d kind pos trigger with
  | (.fallback, r) => return (.fallback, r)
  | (.refused, r) => return (.handled (.empty kind), r)
  | (.passed v, r) =>
    let (response, r) ← r.deliver storage host d.uri v kind pos trigger
    return (.handled response, r)

/-- Forgets what is kept for a document. -/
def closeDocument (r : Router) (uri : String) : Router :=
  { r with
    contents := r.contents.forget uri
    engine := if r.engine.key?.any fun k => k.uri == uri then r.engine.invalidate else r.engine }

/-- The content that the URI of a virtual document names. -/
def provideContent (r : Router) (vdocUri : String) : Option String := r.contents.provide? vdocUri

/-- Removes what was written. -/
def shutdown (storage : Storage m) (r : Router) : m Router := do
  return { r with files := ← r.files.shutdown storage }

end Router

end Polyglot
