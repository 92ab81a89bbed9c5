import Polyglot.Delivery.Disk
import Polyglot.Proofs.Delivery.ContentUri
import Polyglot.Proofs.Document
import Polyglot.Proofs.Language.Registry
import Polyglot.Proofs.Projection
import Polyglot.Proofs.Routing

/-! What a provider is given if it asks for the content behind the URI that it is run on. Content is
kept under the URI of its document, which is read back from that of the virtual document: for an
addressable language the provider gets what was delivered to it, for any other whatever was there
before. -/

namespace Polyglot

namespace ContentMap

theorem get?_put (m : ContentMap) (uri content key : String) :
    (m.put uri content).get? key = if key = uri then some content else m.get? key := by
  rw [put, get?, lookup_cons_eq_ite]
  split
  · rfl
  · rw [forget, lookup_filter_ne, if_neg (by assumption)]
    rfl

/-- Content is provided under the URIs from which that of its document is read back. -/
theorem provide?_put (m : ContentMap) (uri content vdocUri : String) :
    (m.put uri content).provide? vdocUri =
      if hostUri? vdocUri = some uri then some content else m.provide? vdocUri := by
  unfold provide?
  cases hostUri? vdocUri with
  | none => rfl
  | some key =>
    rw [Option.bind_some, Option.bind_some, get?_put]
    simp only [Option.some.injEq]

end ContentMap

namespace Router

/-! ### Runs -/

/-- What happens to a router: a request for a document, or the end of one. -/
inductive Event where
  | requested (d : Document) (kind : RequestKind) (pos : Position) (trigger : Option String)
  | closed (uri : String)

section
variable {m : Type → Type} [Monad m]

/-- Lets one event happen, whatever a request is answered. -/
def take (storage : Storage m) (host : Host m) (r : Router) : Event → m Router
  | .requested d kind pos trigger => do
    let (_, r) ← r.route storage host d kind pos trigger
    return r
  | .closed uri => pure (r.closeDocument uri)

/-- Lets events happen one after the other. -/
def takeAll (storage : Storage m) (host : Host m) (r : Router) : List Event → m Router
  | [] => pure r
  | event :: rest => do
    let r ← r.take storage host event
    r.takeAll storage host rest

end

variable {σ : Type} {storage : Storage (StateM σ)} {host : Host (StateM σ)}

theorem registry_gate (r : Router) (d : Document) (kind : RequestKind) (pos : Position)
    (trigger : Option String) : (r.gate d kind pos trigger).2.registry = r.registry := by
  rw [gate_snd]
  split <;> rfl

theorem registry_acquire (r : Router) (uri : String) (v : VirtualDocument) :
    Ensures (r.acquire storage host uri v) fun out => out.2.registry = r.registry := by
  unfold acquire
  split
  · exact ensures_pure rfl
  · exact ensures_after fun _ => ensures_pure rfl

theorem registry_take (r : Router) (event : Event) :
    Ensures (r.take storage host event) fun r' => r'.registry = r.registry := by
  cases event with
  | requested d kind pos trigger =>
    have hroute : Ensures (r.route storage host d kind pos trigger) fun out =>
        out.2.registry = r.registry := by
      refine ensures_route (fun r' => r'.registry = r.registry) (registry_gate ..) ?_
      intro r' uri v hr w
      exact (registry_acquire r' uri v w).trans hr
    exact ensures_bind _ hroute fun _ h => ensures_pure h
  | closed uri => exact ensures_pure rfl

/-- The languages of a router are those that it started with. -/
theorem registry_takeAll (r : Router) (events : List Event) :
    Ensures (r.takeAll storage host events) fun r' => r'.registry = r.registry := by
  induction events generalizing r with
  | nil => exact ensures_pure rfl
  | cons event rest ih =>
    refine ensures_bind _ (registry_take r event) ?_
    intro r' hr w
    exact (ih r' w).trans hr

/-! ### Provided content -/

theorem mem_registry_of_synthesize {engine : ParseEngine} {registry : Registry} {d : Document}
    {pos : Position} {v : VirtualDocument} (h : (synthesize engine registry d pos).1 = some v) :
    v.language ∈ registry.toList := by
  obtain ⟨_, _, hget⟩ := Option.bind_eq_some_iff.mp (resolveAt?_of_synthesize h)
  exact Registry.mem_of_get? hget

section
variable {r r' : Router} {d : Document} {kind : RequestKind} {pos : Position}
  {trigger : Option String} {v : VirtualDocument}

/-- Delivery as content runs the provider once, with the content at hand. -/
theorem route_of_content (w : σ) (h : r.gate d kind pos trigger = (.passed v, r'))
    (hl : v.language.delivery = .contentProvider) :
    let kept : Router := { r' with contents := r'.contents.put d.uri v.content }
    let ran := (host.execute kept.provideContent
      ⟨kind, virtualDocumentUri d.uri v, pos, trigger⟩).run w
    (r.route storage host d kind pos trigger).run w =
      ((.handled (settle kind ran.1), kept), ran.2) := by
  intro kept ran
  rw [route_eq_ending, ending_of_content h hl]
  rfl

/-- After any run, a request that is delivered as content runs the provider once. What the provider
is given for its URI is the content made for the request exactly where the language, one of those
configured, is addressable; otherwise the content is out of reach, and it is given what it would have
been given before. -/
theorem provideContent_delivered {config : Config} {past : List Event} {w₀ w : σ}
    (hrun : ((ofConfig config).takeAll storage host past).run w₀ = (r, w)) (henabled : r.enabled = true)
    (hv : (synthesize r.engine r.registry d pos).1 = some v)
    (hl : ¬ v.language.Refuses kind trigger) (hdelivery : v.language.delivery = .contentProvider) :
    let request : ProviderRequest := ⟨kind, virtualDocumentUri d.uri v, pos, trigger⟩
    v.language ∈ config.registry.toList ∧
    (hostUri? request.uri = some d.uri ↔ v.language.Addressable) ∧
    ∃ kept : Router,
      ((r.route storage host d kind pos trigger).run w =
        let ran := (host.execute kept.provideContent request).run w
        ((.handled (settle kind ran.1), kept), ran.2)) ∧
      kept.provideContent request.uri =
        if v.language.Addressable then some v.content else r.provideContent request.uri := by
  intro request
  have hregistry : r.registry = config.registry := by
    have h : (((ofConfig config).takeAll storage host past).run w₀).1.registry = config.registry :=
      registry_takeAll (ofConfig config) past w₀
    rwa [hrun] at h
  have hread := hostUri?_virtualDocumentUri_iff d.uri v
  refine ⟨?_, hread, _, route_of_content w (gate_of_not_refuses henabled hv hl) hdelivery, ?_⟩
  · rw [← hregistry]
    exact mem_registry_of_synthesize hv
  · change ((r.parsed d).contents.put d.uri v.content).provide? request.uri = _
    rw [ContentMap.provide?_put]
    simp only [request, hread]
    rfl

end

end Router

namespace Asking

/-- A host that notes what its provider is given for the URI that it is run on. -/
def host : Host (StateM (World (List (Option String)))) where
  openDocument _ := pure (.ok ())
  execute provide request := fun w => (.crashed, { w with host := w.host ++ [provide request.uri] })
  deleteFile _ := pure (.ok ())

def storage : Storage (StateM (World (List (Option String)))) := World.storage "/tmp"

def world : World (List (Option String)) := ⟨{}, []⟩

def document (version : Int32) (text : String) : Document :=
  ⟨"file:///a.qmd", "```{css}\n" ++ text ++ "\n```\n", some version⟩

/-- A request for an earlier version, and the end of another document. -/
def past : List Router.Event :=
  [.requested (document 1 "x") .hover ⟨1, 0⟩ none, .closed "file:///b.qmd"]

def stylesheet : VirtualDocument :=
  ⟨{ Language.plain "css" "css" [] [".", ":", "-", "#"] .all with delivery := .contentProvider },
    "\ny\n\n"⟩

theorem provideContent_delivered_again :
    let ready := ((Router.ofConfig {}).takeAll storage host past).run world
    let request : ProviderRequest :=
      ⟨.hover, virtualDocumentUri "file:///a.qmd" stylesheet, ⟨1, 0⟩, none⟩
    ready.2.host = [some "\nx\n\n"] ∧ ∃ kept : Router,
      ((ready.1.route storage host (document 2 "y") .hover ⟨1, 0⟩ none).run ready.2 =
        let ran := (host.execute kept.provideContent request).run ready.2
        ((.handled (Router.settle .hover ran.1), kept), ran.2)) ∧
      kept.provideContent request.uri = some "\ny\n\n" := by
  intro ready request
  have hv : (synthesize ready.1.engine ready.1.registry (document 2 "y") ⟨1, 0⟩).1 =
      some stylesheet := by decide +kernel
  have hrefuses : ¬ stylesheet.language.Refuses .hover none := by
    rw [← Router.foreignTrigger_or_not_supports_iff]
    decide
  obtain ⟨_, _, kept, hroute, hkept⟩ := Router.provideContent_delivered
    (Prod.eta ready).symm (show ready.1.enabled = true by decide +kernel) hv hrefuses rfl
  exact ⟨by decide +kernel, kept, hroute, hkept.trans (if_pos (by decide))⟩

/-- Options that give a language an extension with a full stop. -/
def options : Json := .object [("languages", .array [
  .object [("name", .string "css"), ("extension", .string "module.css")]])]

def config : Config := { languages := [⟨"css", some "module.css", none, none, none⟩] }

/-- The options are accepted, and the first provider that is run finds no content. -/
theorem provideContent_of_dotted_extension :
    Config.ofJson options = .ok config ∧
      ((Router.ofConfig config).virtualDocument (document 1 "x") ⟨1, 0⟩).1.map
        (fun v => (v.language.delivery, v.content)) = some (.contentProvider, "\nx\n\n") ∧
      (((Router.ofConfig config).route storage host (document 1 "x") .hover ⟨1, 0⟩ none).run
        world).2.host = [none] := by
  refine ⟨rfl, ?_, ?_⟩ <;> decide +kernel

end Asking

end Polyglot
