import Polyglot.Proofs.Delivery.Provision
import Polyglot.Proofs.Server.Client

/-! What requests leave behind. Whatever the client answers and however a request ends, what is written
for it is removed when it is not opened, and given up after the provider was run. A file that is given
up is deleted for its URI, so the directory of all files holds no file once requests are answered, but
for those whose URI is not read back as their path. -/

namespace Polyglot

open Polyglot.Path (IsSegment)

namespace TempFiles

/-! ### One file -/

/-- Between requests: the files in the directory of all files are those that may be left, by their
extensions. -/
structure Swept (base : String) (Left : String → Prop) (t : TempFiles) (d : Disk) : Prop where
  isTree : d.IsTree
  settled : t.Settled base d
  left : ∀ root, t.root = some root → ∀ place content, Path.place root <+: place →
    d.file? place = some content →
      ∃ extension, Left extension ∧ Path.place root ++ [extension] <+: place

section
variable {base extension : String} {Left : String → Prop} {t t' : TempFiles} {d d' : Disk}

theorem swept_of_prepared (h : t.Swept base Left d) (hprepared : Prepared base extension t t' d d') :
    t'.Swept base Left d' where
  isTree := hprepared.grows.isTree h.isTree
  settled := hprepared.settled
  left := by
    intro root hroot place content hplace hfile
    rw [hprepared.grows.file?] at hfile
    obtain hold | hnone := hprepared.fresh root hroot
    · exact h.left root hold place content hplace hfile
    · rw [Disk.file?, Disk.entry?_eq_none_of_prefix h.isTree hnone hplace] at hfile
      cases hfile

theorem swept_of_loses (h : t.Swept base Left d) (hloses : d.Loses d') : t.Swept base Left d' where
  isTree := hloses.isTree h.isTree
  settled := h.settled.of_keepsDirectories hloses.keepsDirectories
  left root hroot place content hplace hfile :=
    h.left root hroot place content hplace (hloses.file? hfile)

/-- A file that is written and removed again leaves no file behind. -/
theorem swept_of_erased (h : t.Swept base Left d) {path content : String}
    (hwrite : d.write path content = .ok d') : t.Swept base Left (d'.erase (Path.place path)) := by
  refine ⟨Disk.isTree_erase_write hwrite h.isTree,
    h.settled.of_keepsDirectories (Disk.keepsDirectories_erase_write hwrite), ?_⟩
  intro root hroot place content hplace hfile
  rw [Disk.file?_erase _ (Disk.write_eq_ok hwrite).1.ne_nil] at hfile
  split at hfile
  · cases hfile
  · rename_i hother
    rw [Disk.file?_congr (Disk.entry?_write_of_ne hwrite hother)] at hfile
    exact h.left root hroot place content hplace hfile

/-- A file that is written may stay if those with its extension may. -/
theorem swept_of_written (h : t.Swept base Left d) (hleft : Left extension) {root path content : String}
    (hroot : t.root = some root) (hpath : Path.place root ++ [extension] <+: Path.place path)
    (hwrite : d.write path content = .ok d') : t.Swept base Left d' := by
  refine ⟨(Disk.write_eq_ok hwrite).2.2.2 h.isTree,
    h.settled.of_keepsDirectories (Disk.keepsDirectories_write hwrite), ?_⟩
  intro root' hroot' place content hplace hfile
  obtain rfl := Option.some.inj (hroot.symm.trans hroot')
  by_cases hother : place = Path.place path
  · exact ⟨extension, hleft, hother ▸ hpath⟩
  · rw [Disk.file?_congr (Disk.entry?_write_of_ne hwrite hother)] at hfile
    exact h.left root hroot place content hplace hfile

end

section
variable {η : Type} {host : Host (StateM (World η))} {tempDir base : String} {Left : String → Prop}
  {t t' : TempFiles} {w w' : World η} {v : VirtualDocument}

/-- A file that is acquired is all that has to be removed, if it may not stay. -/
theorem swept_acquire (hopens : ∀ uri w, ((host.openDocument uri).run w).2.disk = w.disk)
    (h : t.Swept base Left w.disk) (hbase : t.parent.getD tempDir = base)
    (hv : IsSegment v.language.extension) {out : Except Error Handle}
    (hrun : (t.acquire (World.storage tempDir) host v).run w = ((out, t'), w')) :
    t'.parent = t.parent ∧
      ((∃ e, out = .error e ∧ t'.Swept base Left w'.disk) ∨
        ∃ path uri, out = .ok ⟨uri, true⟩ ∧ PlacedAs base v.language.extension path ∧
          Url.ofFilePath? path = some uri ∧ w'.disk.Holds path (v.language.fixed v.content) ∧
          t'.Swept base Left (w'.disk.erase (Path.place path)) ∧
          (Left v.language.extension → t'.Swept base Left w'.disk)) := by
  obtain ⟨d, hprepared, hout⟩ := run_acquire hopens h.settled hbase hrun
  have hready := swept_of_prepared h hprepared
  refine ⟨hprepared.parent, ?_⟩
  obtain ⟨e, rfl, rfl, _⟩ | ⟨root, path, written, hroot, hpath, _, hwrite, hout⟩ := hout
  · exact .inl ⟨e, rfl, hready⟩
  · have herased := swept_of_erased hready hwrite
    obtain ⟨e, rfl, hdisk⟩ | ⟨uri, huri, rfl, rfl⟩ := hout
    · exact .inl ⟨e, rfl, hdisk ▸ herased⟩
    · have hplaced := placedAs_pathIn (hprepared.settled root hroot) hv t
      have hbelow : Path.place root ++ [v.language.extension] <+: Path.place path := by
        rw [hpath, place_pathIn _ hv (t.isSegment_fileName hv)]
        exact (List.prefix_append_right_inj _).mpr ⟨[_], rfl⟩
      rw [← hpath] at hplaced
      exact .inr ⟨path, uri, rfl, hplaced, huri, (Disk.write_eq_ok hwrite).1, herased,
        fun hleft => swept_of_written hready hleft hroot hbelow hwrite⟩

end

end TempFiles

theorem Client.disk_openDocument {η : Type} {client : Client (StateM (World η))}
    {supportsDelete : Bool} (h : client.Tends supportsDelete) (uri : String) (w : World η) :
    ((client.openDocument uri).run w).2.disk = w.disk :=
  h.request (fun _ => none) openMethod (.object [("uri", .string uri)]) w (by decide)

theorem Client.disk_execute {η : Type} {client : Client (StateM (World η))} {supportsDelete : Bool}
    (h : client.Tends supportsDelete) (provide : String → Option String) (request : ProviderRequest)
    (w : World η) : ((client.execute provide request).run w).2.disk = w.disk := by
  have hdisk := h.request provide executeMethod request.toJson w (by decide)
  rw [← hdisk, Client.execute, run_bind]
  split <;> rfl

namespace Router

/-! ### One request -/

theorem synthesize_of_passed {r r' : Router} {d : Document} {kind : RequestKind} {pos : Position}
    {trigger : Option String} {v : VirtualDocument}
    (h : r.gate d kind pos trigger = (.passed v, r')) :
    (synthesize r.engine r.registry d pos).1 = some v := by
  have hgate := gate_fst r d kind pos trigger
  rw [h] at hgate
  split at hgate
  · split at hgate
    · cases hgate
    · rename_i v' hv'
      split at hgate
      · cases hgate
      · cases hgate
        exact hv'
  · cases hgate

/-- The directory in which that of all files is made. -/
def base (config : Config) (tempDir : String) : String := config.tempDir.getD tempDir

/-- Extensions of files that may be left: their URIs are not read back. -/
def Unread (config : Config) (tempDir extension : String) : Prop :=
  (∃ language ∈ config.registry.toList, language.delivery = .tempFile ∧
    language.extension = extension) ∧ ¬ Url.ReadBack (base config tempDir) extension

/-- Between requests: the languages are those configured, and no file is left but those whose URIs are
not read back. -/
structure Swept (tempDir : String) (config : Config) (r : Router) (d : Disk) : Prop where
  registry : r.registry = config.registry
  parent : r.files.parent = config.tempDir
  files : r.files.Swept (base config tempDir) (Unread config tempDir) d

section
variable {η : Type} {client : Client (StateM (World η))} {supportsDelete : Bool} {tempDir : String}
  {config : Config} {r r' : Router} {w : World η}

/-- However a delivery ends, no file is left whose URI is read back. -/
theorem swept_deliver (hclient : client.Tends supportsDelete) (h : Swept tempDir config r w.disk)
    (uri : String) {v : VirtualDocument} (hmem : v.language ∈ config.registry.toList)
    (hv : v.language.delivery = .tempFile → IsSegment v.language.extension) (kind : RequestKind)
    (pos : Position) (trigger : Option String) :
    let host := client.host (World.storage tempDir) supportsDelete
    let out := (r.deliver (World.storage tempDir) host uri v kind pos trigger).run w
    Swept tempDir config out.1.2 out.2.disk := by
  intro host out
  cases hdelivery : v.language.delivery with
  | contentProvider =>
    rw [show out = _ from deliver_of_ok (acquire_of_content hdelivery)]
    refine ⟨h.registry, h.parent, ?_⟩
    have hdisk := client.disk_execute hclient (r.contents.put uri v.content).provide?
      ⟨kind, virtualDocumentUri uri v, pos, trigger⟩ w
    exact hdisk ▸ h.files
  | tempFile =>
    rcases hacquire : (r.files.acquire (World.storage tempDir) host v).run w with ⟨⟨result, t'⟩, w'⟩
    obtain ⟨hparent, hresult⟩ := TempFiles.swept_acquire (client.disk_openDocument hclient) h.files
      (by rw [h.parent]; rfl) (hv hdelivery) hacquire
    have hrouter : ∀ d, t'.Swept (base config tempDir) (Unread config tempDir) d →
        Swept tempDir config { r with files := t' } d :=
      fun d hd => ⟨h.registry, hparent.trans h.parent, hd⟩
    obtain ⟨e, rfl, hswept⟩ | ⟨path, fileUri, rfl, hplaced, huri, hholds, herased, hkept⟩ := hresult
    · rw [show out = _ from deliver_of_error (acquire_of_file hdelivery hacquire)]
      exact hrouter _ hswept
    · rw [show out = _ from deliver_of_ok (acquire_of_file hdelivery hacquire)]
      have hdisk := client.disk_execute hclient r.contents.provide? ⟨kind, fileUri, pos, trigger⟩ w'
      rw [← hdisk] at hholds herased hkept
      obtain ⟨hloses, hread, _⟩ := client.disk_dispose hclient hplaced huri hholds tempDir
      refine hrouter _ ?_
      by_cases hback : Url.ReadBack (base config tempDir) v.language.extension
      · exact hread hback ▸ herased
      · exact TempFiles.swept_of_loses (hkept ⟨⟨_, hmem, hdelivery, rfl⟩, hback⟩) hloses

theorem swept_route (hclient : client.Tends supportsDelete)
    (hconfig : ∀ language ∈ config.registry.toList, language.delivery = .tempFile →
      IsSegment language.extension)
    (h : Swept tempDir config r w.disk) (d : Document) (kind : RequestKind) (pos : Position)
    (trigger : Option String) :
    let host := client.host (World.storage tempDir) supportsDelete
    let out := (r.route (World.storage tempDir) host d kind pos trigger).run w
    Swept tempDir config out.1.2 out.2.disk := by
  intro host
  have hgate : Swept tempDir config (r.gate d kind pos trigger).2 w.disk := by
    rw [gate_snd]
    split
    · exact ⟨h.registry, h.parent, h.files⟩
    · exact h
  rcases hpassed : r.gate d kind pos trigger with ⟨_ | _ | v, r'⟩
  · rw [hpassed] at hgate
    rw [route, hpassed]
    exact hgate
  · rw [hpassed] at hgate
    rw [route, hpassed]
    exact hgate
  · rw [hpassed] at hgate
    have hv := mem_registry_of_synthesize (synthesize_of_passed hpassed)
    rw [h.registry] at hv
    rw [route, hpassed]
    exact swept_deliver hclient hgate d.uri hv (hconfig _ hv) kind pos trigger

theorem swept_takeAll (hclient : client.Tends supportsDelete)
    (hconfig : ∀ language ∈ config.registry.toList, language.delivery = .tempFile →
      IsSegment language.extension)
    (h : Swept tempDir config r w.disk) (events : List Event) :
    let host := client.host (World.storage tempDir) supportsDelete
    let out := (r.takeAll (World.storage tempDir) host events).run w
    Swept tempDir config out.1 out.2.disk := by
  intro host
  induction events generalizing r w with
  | nil => exact h
  | cons event events ih =>
    rw [takeAll, run_bind]
    apply ih
    cases event with
    | requested d kind pos trigger => exact swept_route hclient hconfig h d kind pos trigger
    | closed uri => exact ⟨h.registry, h.parent, h.files⟩

end

/-! ### Runs -/

/-- Whatever the client answers and however requests end, the only files in the directory of all files
once they are answered are those of extensions whose URIs are not read back: the URI of the directory
around leads somewhere else, or the extension ends as a drive does. The path that is read from the URI
of a file that is acquired is that of the file exactly for the other extensions; those are deleted when
they are given up, and where only this side deletes, no others. -/
theorem left_files_not_read_back {η : Type} {client : Client (StateM (World η))}
    {supportsDelete : Bool} (hclient : client.Tends supportsDelete) {config : Config}
    (tempDir : String)
    (hconfig : ∀ language ∈ config.registry.toList, language.delivery = .tempFile →
      IsSegment language.extension)
    {w : World η} (htree : w.disk.IsTree) (events : List Event) :
    let base := config.tempDir.getD tempDir
    let storage := World.storage tempDir
    let host := client.host storage supportsDelete
    let out := ((ofConfig config).takeAll storage host events).run w
    (∀ root, out.1.files.root = some root → ∀ place content, Path.place root <+: place →
      out.2.disk.file? place = some content →
      ∃ language ∈ config.registry.toList, language.delivery = .tempFile ∧
        ¬ Url.ReadBack base language.extension ∧ Path.place root ++ [language.extension] <+: place) ∧
    ∀ v : VirtualDocument, IsSegment v.language.extension →
      let content := v.language.fixed v.content
      let acquired := (out.1.files.acquire storage host v).run out.2
      ∀ handle, acquired.1.1 = .ok handle → ∃ written url path,
        Url.ofFilePath? written = some handle.uri ∧ Url.parse? handle.uri = some url ∧
        url.filePath? = some path ∧ acquired.2.disk.read? written = some content ∧
        (Path.place path = Path.place written ∧ acquired.2.disk.read? path = some content ↔
          Url.ReadBack base v.language.extension) ∧
        (Url.Legible base → ".." ∉ Path.components base →
          Path.components path = Path.components written) ∧
        let disposed := (handle.dispose host).run acquired.2
        (Url.ReadBack base v.language.extension →
          disposed.2.disk.file? (Path.place written) = none) ∧
        (supportsDelete = false → ¬ Url.ReadBack base v.language.extension →
          disposed.2.disk.file? (Path.place written) = some content) := by
  intro base storage host out
  have hstart : Swept tempDir config (ofConfig config) w.disk :=
    ⟨rfl, rfl, htree, by rintro _ ⟨⟩, by rintro _ ⟨⟩⟩
  have h : Swept tempDir config out.1 out.2.disk := swept_takeAll hclient hconfig hstart events
  refine ⟨?_, ?_⟩
  · intro root hroot place content hplace hfile
    obtain ⟨_, ⟨⟨language, hmem, hdelivery, rfl⟩, hback⟩, hbelow⟩ :=
      h.files.left root hroot place content hplace hfile
    exact ⟨language, hmem, hdelivery, hback, hbelow⟩
  · intro v hv content acquired handle hhandle
    obtain ⟨_, ⟨e, he, _⟩ | ⟨written, uri, hout, hplaced, huri, hholds, _⟩⟩ :=
      TempFiles.swept_acquire (client.disk_openDocument hclient) h.files
        (by rw [h.parent]; rfl) hv (show acquired = _ from rfl)
    · cases he.symm.trans hhandle
    · obtain rfl : handle = ⟨uri, true⟩ := Except.ok.inj (hhandle.symm.trans hout)
      obtain ⟨url, path, hurl, hpath, hread, hcomponents⟩ :=
        TempFiles.exists_filePath? hplaced huri hholds
      obtain ⟨_, hgone, hstays⟩ := client.disk_dispose hclient hplaced huri hholds tempDir
      refine ⟨written, url, path, huri, hurl, hpath, hholds.read?, hread, ?_, ?_, hstays⟩
      · intro hlegible hbase
        rw [hcomponents hlegible, hplaced.place_eq hbase]
      · intro hback
        rw [show ((Handle.dispose ⟨uri, true⟩ host).run acquired.2).2.disk = _ from hgone hback,
          Disk.file?_erase _ hholds.ne_nil, if_pos rfl]

end Router

namespace Deleting

/-- A client that opens every file, fails to run a provider and deletes the file that an edit names. -/
def client : Client (StateM (World Unit)) where
  request _ method params :=
    if method = applyEditMethod then
      match params with
      | .object [(_, .object [(_, .array [.object [_, (_, .string uri), _]])])] => fun w =>
        match (Url.parse? uri).bind Url.namedPath? with
        | none => (.ok (.object [("applied", .bool false)]), w)
        | some path =>
          (.ok (.object [("applied", .bool true)]), { w with disk := w.disk.without path })
      | _ => pure (.error "unknown edit")
    else if method = openMethod then pure (.ok .null)
    else pure (.error "no provider")
  notify _ _ := pure ()

theorem tends_client : client.Tends true where
  request provide method params w h := by
    simp only [client, if_neg h]
    split <;> rfl
  delete := by
    intro _ url w
    simp only [Client.requestDelete, client, deleteEdit, ↓reduceIte, StateT.run]
    split
    · exact .inl ⟨rfl, rfl⟩
    · rename_i path hpath
      refine .inr ⟨rfl, ?_⟩
      intro path' hpath'
      obtain rfl := Option.some.inj (hpath.symm.trans hpath')
      rfl

/-- An extension that takes codes in a URL. -/
def config : Config := { languages := [⟨"r", some "\u00e9 %2F#", none, none, none⟩] }

def document : Document := ⟨"file:///a.qmd", "```{r}\nx\n```\n", some 1⟩

def world : World Unit := ⟨Disk.put {} ["tmp"] .directory, ()⟩

theorem left_files_not_read_back_coded :
    let storage := World.storage "/tmp"
    let out := ((Router.ofConfig config).takeAll storage (client.host storage true)
      [.requested document .hover ⟨1, 0⟩ none]).run world
    out.2.disk.entries = [(["tmp", "quarto-vdoc-0", "\u00e9 %2F#"], .directory),
      (["tmp", "quarto-vdoc-0"], .directory), (["tmp"], .directory)] ∧
    ∀ root, out.1.files.root = some root → ∀ place content, Path.place root <+: place →
      out.2.disk.file? place ≠ some content := by
  have hconfig : ∀ language ∈ config.registry.toList, language.delivery = .tempFile →
      IsSegment language.extension := by decide +kernel
  have hextensions : ∀ language ∈ config.registry.toList,
      Url.endsInDrive language.extension = false := by decide +kernel
  have htree : world.disk.IsTree := Disk.isTree_put_empty "tmp"
  have h := Router.left_files_not_read_back tends_client "/tmp" hconfig htree
    [.requested document .hover ⟨1, 0⟩ none]
  refine ⟨by decide +kernel, ?_⟩
  intro root hroot place content hplace hfile
  obtain ⟨language, hmem, _, hback, _⟩ := h.1 root hroot place content hplace hfile
  exact hback ⟨Url.legible_tmp, hextensions language hmem⟩

end Deleting

namespace Leaving

/-- Options that give a language an extension that ends as a drive does. -/
def options : Json := .object [("languages", .array [
  .object [("name", .string "r"), ("extension", .string "r:")]])]

def config : Config := { languages := [⟨"r", some "r:", none, none, none⟩] }

/-- A client that opens every file and fails to run a provider. -/
def client : Client (StateM (World Unit)) where
  request _ method _ := pure (if method = openMethod then .ok .null else .error "no provider")
  notify _ _ := pure ()

/-- The options are accepted, each extension is one segment and the directory around is read back, but
the file that was written for a request is still there when the request is answered. -/
theorem file_left_by_request :
    Config.ofJson options = .ok config ∧ client.Tends false ∧ Url.Legible "/tmp" ∧
    (∀ language ∈ config.registry.toList, language.delivery = .tempFile →
      IsSegment language.extension) ∧
    let storage := World.storage "/tmp"
    let out := ((Router.ofConfig config).takeAll storage (client.host storage false)
      [.requested Deleting.document .hover ⟨1, 0⟩ none]).run Deleting.world
    out.1.files.root = some "/tmp/quarto-vdoc-0" ∧
      out.2.disk.file? ["tmp", "quarto-vdoc-0", "r:", "intellisense.r:"] = some "\nx\n\n" := by
  have hclient : client.Tends false := ⟨fun _ _ _ _ _ => rfl, by rintro ⟨⟩⟩
  refine ⟨rfl, hclient, Url.legible_tmp, ?_, ?_⟩ <;> decide +kernel

end Leaving

end Polyglot
