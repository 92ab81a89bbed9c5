import Polyglot.Proofs.Delivery.Placing

/-! Files lent out. A ledger keeps those that were acquired and not given up yet, with what was written
to them, and the URIs of all that ever were; files are acquired, given up in any order and removed
together. -/

namespace Polyglot

open Polyglot.Path (components)

variable {η : Type}

/-! ### Hosts and the files they are given -/

namespace TempFiles

/-- A path leads through a directory of its own inside another, and that of an extension. -/
def PlacedIn (base path : String) : Prop :=
  ∃ (n : Nat) (extension name : String), Path.IsSegment extension ∧ Path.IsSegment name ∧
    components path = components base ++ [rootFront ++ toString n, extension, name]

section
variable {base root extension name : String}

theorem placedIn_pathIn {d : Disk} (h : RootIn base root d) (hextension : Path.IsSegment extension)
    (hname : Path.IsSegment name) : PlacedIn base (pathIn root extension name) := by
  obtain ⟨n, hroot⟩ := h.components
  refine ⟨n, extension, name, hextension, hname, ?_⟩
  rw [components_pathIn _ hextension hname, hroot, List.append_assoc, List.singleton_append]

end

end TempFiles

/-- A host that leaves the disk alone, but for the files inside a directory that it is asked to
delete. -/
structure Host.Tends (host : Host (StateM (World η))) (base : String) : Prop where
  openDocument : ∀ uri w, ((host.openDocument uri).run w).2.disk = w.disk
  deleteFile : ∀ path uri, TempFiles.PlacedIn base path → Url.ofFilePath? path = some uri →
    ∀ w d, w.disk.removeFile path = .ok d → ((host.deleteFile uri).run w).2.disk = d

/-- A file that is given up is removed, and nothing else is. -/
theorem Handle.disk_dispose {host : Host (StateM (World η))} {base path uri content : String}
    (hhost : host.Tends base) (hpath : TempFiles.PlacedIn base path)
    (huri : Url.ofFilePath? path = some uri) {w : World η} (hholds : w.disk.Holds path content) :
    ((Handle.dispose ⟨uri, true⟩ host).run w).2.disk = w.disk.erase (Path.place path) :=
  hhost.deleteFile path uri hpath huri w _ hholds.removeFile

/-! ### Ledgers -/

/-- A file that is lent out, and what was written to it. -/
structure Lease where
  handle : Handle
  content : String

/-- Files, those of them that are lent out, and the URIs of all that ever were. -/
structure Ledger where
  files : TempFiles
  held : List Lease := []
  issued : List String := []

namespace Ledger

/-- What happens to files; one is given up by its place among those lent out. -/
inductive Event where
  | acquired (v : VirtualDocument)
  | disposed (i : Nat)
  | shutDown

/-- Enters what came of acquiring a file. -/
def enter (l : Ledger) (v : VirtualDocument) : Except Error Handle × TempFiles → Ledger
  | (.ok handle, files) =>
    { files
      held := l.held ++ [⟨handle, v.language.fixed v.content⟩]
      issued := l.issued ++ [handle.uri] }
  | (.error _, files) => { l with files }

section
variable {m : Type → Type} [Monad m]

/-- Lets one event happen. -/
def take (storage : Storage m) (host : Host m) (l : Ledger) : Event → m Ledger
  | .acquired v => do return l.enter v (← l.files.acquire storage host v)
  | .disposed i =>
    match l.held[i]? with
    | some lease => do
      lease.handle.dispose host
      return { l with held := l.held.eraseIdx i }
    | none => pure l
  | .shutDown => do return { l with files := ← l.files.shutdown storage }

/-- Lets events happen one after the other. -/
def takeAll (storage : Storage m) (host : Host m) (l : Ledger) : List Event → m Ledger
  | [] => pure l
  | event :: rest => do
    let l ← l.take storage host event
    l.takeAll storage host rest

end

section
variable {σ : Type} {storage : Storage (StateM σ)} {host : Host (StateM σ)} {l : Ledger} {w : σ}

theorem run_take_acquired {v : VirtualDocument} {out : Except Error Handle} {files : TempFiles} {w' : σ}
    (h : (l.files.acquire storage host v).run w = ((out, files), w')) :
    (l.take storage host (.acquired v)).run w = (l.enter v (out, files), w') := by
  rw [take, run_bind, h]
  rfl

theorem run_take_disposed {i : Nat} {lease : Lease} (h : l.held[i]? = some lease) :
    (l.take storage host (.disposed i)).run w =
      ({ l with held := l.held.eraseIdx i }, ((lease.handle.dispose host).run w).2) := by
  rw [take, h]
  rfl

theorem run_take_not_held {i : Nat} (h : l.held[i]? = none) :
    (l.take storage host (.disposed i)).run w = (l, w) := by
  rw [take, h]
  rfl

/-- What holds after a run, if every event preserves it. -/
theorem run_takeAll (P : Nat → Ledger → σ → Prop) {events : List Event} (hstart : P 0 l w)
    (hstep : ∀ n l w, ∀ event ∈ events, n < events.length → P n l w →
      P (n + 1) ((l.take storage host event).run w).1 ((l.take storage host event).run w).2) :
    P events.length ((l.takeAll storage host events).run w).1
      ((l.takeAll storage host events).run w).2 := by
  -- the induction is on the events still to come, for any number of them that have happened
  suffices hrun : ∀ rest n l w, (∀ event ∈ rest, event ∈ events) → n + rest.length = events.length →
      P n l w → P events.length ((l.takeAll storage host rest).run w).1
        ((l.takeAll storage host rest).run w).2 from
    hrun events 0 l w (fun _ => id) (Nat.zero_add _) hstart
  intro rest
  induction rest with
  | nil =>
    intro n l w _ hlength hP
    rw [← hlength]
    exact hP
  | cons event rest ih =>
    intro n l w hmem hlength hP
    rw [List.forall_mem_cons] at hmem
    rw [List.length_cons] at hlength
    rw [takeAll, run_bind]
    exact ih (n + 1) _ _ hmem.2 (by omega) (hstep n l w event hmem.1 (by omega) hP)

end

end Ledger

end Polyglot
