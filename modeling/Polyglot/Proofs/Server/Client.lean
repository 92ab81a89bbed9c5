import Polyglot.Proofs.Delivery.Named
import Polyglot.Server.Client

/-! The client as a host. A file is deleted for its URI, by the client or, where the client declines, on
this side. The client goes by the path that the URI names; on this side a path that ends as a drive does
is taken for that of a directory. So a file that was placed is deleted for certain where its URI is read
back, and where only this side deletes, nowhere else. -/

namespace Polyglot.Client

variable {η : Type}

/-- The answer to an edit, read. -/
def applied (reply : Except String Json) : Except String Bool :=
  reply.bind fun j => (decodeApplied j).mapError DecodeError.message

/-- Asks for a file to be deleted. -/
def requestDelete (client : Client (StateM (World η))) (url : Url) :
    StateM (World η) (Except String Json) :=
  client.request (fun _ => none) applyEditMethod (.object [("edit", deleteEdit url)])

/-- A client that leaves the disk alone, but for the files that it says it deleted. It declines to
delete a file, or deletes the one that the URL names. -/
structure Tends (client : Client (StateM (World η))) (supportsDelete : Bool) : Prop where
  request : ∀ provide method params w, method ≠ applyEditMethod →
    ((client.request provide method params).run w).2.disk = w.disk
  delete : supportsDelete = true → ∀ (url : Url) w,
    let out := (client.requestDelete url).run w
    (applied out.1 = .ok false ∧ out.2.disk = w.disk) ∨
      (applied out.1 = .ok true ∧ ∀ path, (Url.parse? url.text).bind Url.namedPath? = some path →
        out.2.disk = w.disk.without path)

/-! ### Deleting -/

theorem disk_deleteLocally {url : Url} {path : String} (hpath : url.filePath? = some path)
    (tempDir : String) (w : World η) :
    ((deleteLocally (World.storage tempDir) url).run w).2.disk = w.disk.without path := by
  rw [deleteLocally, hpath]
  dsimp only
  rw [run_bind, Disk.without]
  cases hremove : w.disk.removeFile path with
  | ok d =>
    rw [World.run_removeFile_ok hremove]
    rfl
  | error e =>
    rw [World.run_removeFile_error hremove]
    cases e <;> rfl

theorem deleteFile_of_supports {storage : Storage (StateM (World η))}
    (client : Client (StateM (World η))) {uri : String} {url : Url} (h : Url.parse? uri = some url) :
    client.deleteFile storage true uri = (do
      match applied (← client.requestDelete url) with
      | .ok true => return .ok ()
      | .ok false => deleteLocally storage url
      | .error message => return .error (.deleteFile uri message)) := by
  rw [deleteFile, h]
  rfl

section
variable {client : Client (StateM (World η))} {supportsDelete : Bool}

/-- What is deleted for a URI: the file that this side reads from it, or the file that it names. -/
theorem disk_deleteFile (h : client.Tends supportsDelete) {uri : String} {url : Url}
    {names : List String} (hreads : Url.Reads uri url names) (tempDir : String) (w : World η) :
    let disk := ((client.deleteFile (World.storage tempDir) supportsDelete uri).run w).2.disk
    disk = w.disk.without (Url.closeDrive (Url.slashed names)) ∨
      (supportsDelete = true ∧ disk = w.disk.without (Url.slashed names)) := by
  cases supportsDelete with
  | false =>
    rw [deleteFile, hreads.parsed]
    exact .inl (disk_deleteLocally hreads.filePath? tempDir w)
  | true =>
    rw [deleteFile_of_supports client hreads.parsed, run_bind]
    obtain ⟨hreply, hdisk⟩ | ⟨hreply, hdisk⟩ := h.delete rfl url w
    · rw [hreply]
      rw [← hdisk]
      exact .inl (disk_deleteLocally hreads.filePath? tempDir _)
    · rw [hreply]
      refine .inr ⟨rfl, hdisk _ ?_⟩
      rw [hreads.again, Option.bind_some, hreads.named]

variable {base extension path uri content : String} {w : World η}

/-- A placed file that is given up is deleted where URIs are read back; where only this side deletes, it
stays anywhere else. In any case nothing but files is lost. -/
theorem disk_dispose (h : client.Tends supportsDelete)
    (hplaced : TempFiles.PlacedAs base extension path) (huri : Url.ofFilePath? path = some uri)
    (hholds : w.disk.Holds path content) (tempDir : String) :
    let host := client.host (World.storage tempDir) supportsDelete
    let disk := ((Handle.dispose ⟨uri, true⟩ host).run w).2.disk
    w.disk.Loses disk ∧
    (Url.ReadBack base extension → disk = w.disk.erase (Path.place path)) ∧
    (supportsDelete = false → ¬ Url.ReadBack base extension →
      disk.file? (Path.place path) = some content) := by
  intro host disk
  obtain ⟨n, name, hextension, hname, hends, hcomponents⟩ := hplaced
  obtain ⟨url, names, hreads, hnames, hlast⟩ :=
    TempFiles.exists_reads hextension hname hcomponents huri
  have hdisk : disk = w.disk.without (Url.closeDrive (Url.slashed names)) ∨
      (supportsDelete = true ∧ disk = w.disk.without (Url.slashed names)) :=
    disk_deleteFile h hreads tempDir w
  refine ⟨?_, ?_, ?_⟩
  · obtain hdisk | ⟨_, hdisk⟩ := hdisk
    · exact hdisk ▸ w.disk.loses_without _
    · exact hdisk ▸ w.disk.loses_without _
  · rintro ⟨hlegible, hdrive⟩
    obtain rfl := hnames.mpr hlegible
    rw [Url.closeDrive_of_not_endsInDrive (hlast.trans (hends.trans hdrive))] at hdisk
    have hsame : disk = w.disk.without (Url.slashed (Path.place path)) := hdisk.elim id (·.2)
    rw [hsame, (hholds.slashed hreads.tidy).without, Url.place_of_tidy hreads.tidy
      (Url.components_slashed_of_tidy hreads.tidy)]
  · rintro rfl hnot
    have hfile : w.disk.file? (Path.place path) = some content :=
      (Disk.file?_eq_some_iff ..).mpr hholds.entry?
    obtain hdisk | ⟨⟨⟩, _⟩ := hdisk
    rw [hdisk]
    cases hdrive : Url.endsInDrive (Url.slashed names) with
    | true => rwa [Url.closeDrive_of_endsInDrive hdrive, Disk.without_slash]
    | false =>
      have hother : Path.place path ≠ names := fun heq =>
        hnot ⟨hnames.mp heq.symm, hends ▸ hlast ▸ hdrive⟩
      rw [Url.closeDrive_of_not_endsInDrive hdrive]
      obtain hsame | ⟨_, hheld, herased⟩ := w.disk.without_cases (Url.slashed names)
      · rwa [hsame]
      · rw [herased, Disk.file?_erase _ hheld.ne_nil, Url.place_of_tidy hreads.tidy
          (Url.components_slashed_of_tidy hreads.tidy), if_neg hother, hfile]

end

end Polyglot.Client
