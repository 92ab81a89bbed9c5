import Polyglot.Proofs.Delivery.TempFiles

/-! Hosts with a record of what they are asked. Any host can be given one, whatever its world; storage
keeps out of it. A record only adds to what happens, so it tells about the host that has none. -/

namespace Polyglot

/-- What a host is asked to do. -/
inductive HostCall where
  | opened (uri : String)
  | executed (request : ProviderRequest)
  | deleted (uri : String)
deriving DecidableEq, Repr

variable {σ : Type}

/-- Acts beside a record of calls. -/
def unnoted {α : Type} (x : StateM σ α) : StateM (σ × List HostCall) α := fun s =>
  ((x.run s.1).1, ((x.run s.1).2, s.2))

/-- Acts and adds a call to the record. -/
def noted {α : Type} (call : HostCall) (x : StateM σ α) : StateM (σ × List HostCall) α := fun s =>
  ((x.run s.1).1, ((x.run s.1).2, s.2 ++ [call]))

/-- The host with a record of its calls. -/
def Host.recorded (host : Host (StateM σ)) : Host (StateM (σ × List HostCall)) where
  openDocument uri := noted (.opened uri) (host.openDocument uri)
  execute provide request := noted (.executed request) (host.execute provide request)
  deleteFile uri := noted (.deleted uri) (host.deleteFile uri)

/-- The storage beside a record of calls. -/
def Storage.unrecorded (storage : Storage (StateM σ)) : Storage (StateM (σ × List HostCall)) where
  tempDir := storage.tempDir
  createDirs path := unnoted (storage.createDirs path)
  createFresh parent front := unnoted (storage.createFresh parent front)
  write path content := unnoted (storage.write path content)
  removeFile path := unnoted (storage.removeFile path)
  removeTree path := unnoted (storage.removeTree path)

@[simp] theorem run_unnoted {α : Type} (x : StateM σ α) (w : σ) (calls : List HostCall) :
    (unnoted x).run (w, calls) = ((x.run w).1, ((x.run w).2, calls)) := rfl

@[simp] theorem run_noted {α : Type} (call : HostCall) (x : StateM σ α) (w : σ)
    (calls : List HostCall) :
    (noted call x).run (w, calls) = ((x.run w).1, ((x.run w).2, calls ++ [call])) := rfl

theorem unnoted_bind {α β : Type} (x : StateM σ α) (f : α → StateM σ β) :
    unnoted (x >>= f) = unnoted x >>= fun a => unnoted (f a) := rfl

/-- A run with a record is a run without one, but for the record. -/
def Erases {α : Type} (x : StateM (σ × List HostCall) α) (y : StateM σ α) : Prop :=
  ∀ w calls, (x.run (w, calls)).1 = (y.run w).1 ∧ (x.run (w, calls)).2.1 = (y.run w).2

theorem erases_pure {α : Type} (a : α) :
    Erases (pure a : StateM (σ × List HostCall) α) (pure a) := fun _ _ => ⟨rfl, rfl⟩

theorem erases_unnoted {α : Type} (x : StateM σ α) : Erases (unnoted x) x := fun _ _ => ⟨rfl, rfl⟩

theorem erases_noted {α : Type} (call : HostCall) (x : StateM σ α) : Erases (noted call x) x :=
  fun _ _ => ⟨rfl, rfl⟩

theorem erases_bind {α β : Type} {x : StateM (σ × List HostCall) α} {y : StateM σ α}
    {f : α → StateM (σ × List HostCall) β} {g : α → StateM σ β} (hx : Erases x y)
    (hf : ∀ a, Erases (f a) (g a)) : Erases (x >>= f) (y >>= g) := by
  intro w calls
  obtain ⟨hvalue, hworld⟩ := hx w calls
  have h := hf (y.run w).1 (y.run w).2 (x.run (w, calls)).2.2
  rw [run_bind, run_bind, hvalue]
  rwa [← hworld] at h ⊢

/-! ### Files are placed without a call -/

namespace TempFiles

theorem makeRoot_unrecorded (storage : Storage (StateM σ)) (t : TempFiles) (parent : String) :
    t.makeRoot storage.unrecorded parent = unnoted (t.makeRoot storage parent) := by
  unfold makeRoot
  rw [unnoted_bind]
  refine bind_congr ?_
  rintro (_ | _) <;> rfl

theorem ensureRoot_unrecorded (storage : Storage (StateM σ)) (t : TempFiles) :
    t.ensureRoot storage.unrecorded = unnoted (t.ensureRoot storage) := by
  cases hroot : t.root with
  | some root =>
    rw [ensureRoot_of_root _ hroot, ensureRoot_of_root _ hroot]
    rfl
  | none =>
    cases hparent : t.parent with
    | none =>
      rw [ensureRoot_of_no_parent _ hroot hparent, ensureRoot_of_no_parent _ hroot hparent]
      exact makeRoot_unrecorded storage t storage.tempDir
    | some parent =>
      rw [ensureRoot_of_parent _ hroot hparent, ensureRoot_of_parent _ hroot hparent, unnoted_bind]
      refine bind_congr ?_
      rintro (_ | _)
      · rfl
      · exact makeRoot_unrecorded storage t parent

theorem filePath_unrecorded (storage : Storage (StateM σ)) (t : TempFiles) (extension : String) :
    t.filePath storage.unrecorded extension = unnoted (t.filePath storage extension) := by
  unfold filePath
  rw [ensureRoot_unrecorded, unnoted_bind]
  refine bind_congr ?_
  rintro ⟨_ | root, t⟩
  · rfl
  · dsimp only
    rw [unnoted_bind]
    refine bind_congr ?_
    rintro (_ | _) <;> rfl

theorem place_unrecorded (storage : Storage (StateM σ)) (t : TempFiles) (v : VirtualDocument) :
    t.place storage.unrecorded v = unnoted (t.place storage v) := by
  unfold place
  rw [filePath_unrecorded, unnoted_bind]
  refine bind_congr ?_
  rintro ⟨_ | path, t⟩
  · rfl
  · dsimp only
    rw [unnoted_bind]
    refine bind_congr ?_
    rintro (_ | _) <;> rfl

theorem acquire_erases (storage : Storage (StateM σ)) (host : Host (StateM σ)) (t : TempFiles)
    (v : VirtualDocument) :
    Erases (t.acquire storage.unrecorded host.recorded v) (t.acquire storage host v) := by
  rw [acquire_eq, acquire_eq, place_unrecorded]
  refine erases_bind (erases_unnoted _) ?_
  rintro ⟨_ | path, t⟩
  · exact erases_pure _
  · unfold present
    dsimp only
    cases Url.ofFilePath? path with
    | none => exact erases_pure _
    | some uri =>
      refine erases_bind (erases_noted _ _) ?_
      rintro (_ | _)
      · exact erases_bind (erases_unnoted _) fun _ => erases_pure _
      · exact erases_pure _

end TempFiles

theorem Handle.dispose_erases (h : Handle) (host : Host (StateM σ)) :
    Erases (h.dispose host.recorded) (h.dispose host) := by
  unfold dispose
  split
  · exact erases_bind (erases_noted _ _) fun _ => erases_pure _
  · exact erases_pure _

end Polyglot
