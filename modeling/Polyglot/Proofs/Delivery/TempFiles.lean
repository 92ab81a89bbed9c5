import Polyglot.Delivery.TempFiles

/-! Delivery as files in two steps: a file is placed, which takes storage alone, and then the host is
asked to open it. Each way an acquisition can end is a run of its own. Directories that are made under
absolute paths give every file a URI. -/

namespace Polyglot

/-- An action that is followed by another runs before it. -/
theorem run_bind {σ α β : Type} (x : StateM σ α) (f : α → StateM σ β) (w : σ) :
    (x >>= f).run w = (f (x.run w).1).run (x.run w).2 := rfl

namespace TempFiles

section
variable {m : Type → Type} [Monad m]

/-- Makes a new directory inside another and keeps it. -/
def makeRoot (storage : Storage m) (t : TempFiles) (parent : String) :
    m (Except Error String × TempFiles) := do
  match ← storage.createFresh parent rootFront with
  | .error cause => return (.error (.createTempDir parent cause), t)
  | .ok root => return (.ok root, { t with root := some root })

theorem ensureRoot_of_root (storage : Storage m) {t : TempFiles} {root : String}
    (h : t.root = some root) : t.ensureRoot storage = pure (.ok root, t) := by
  simp only [ensureRoot, h]

theorem ensureRoot_of_no_parent [LawfulMonad m] (storage : Storage m) {t : TempFiles}
    (h : t.root = none) (hp : t.parent = none) :
    t.ensureRoot storage = t.makeRoot storage storage.tempDir := by
  simp only [ensureRoot, h, hp, pure_bind]
  rw [makeRoot, hp]
  rfl

theorem ensureRoot_of_parent (storage : Storage m) {t : TempFiles} {parent : String}
    (h : t.root = none) (hp : t.parent = some parent) :
    t.ensureRoot storage = (do
      match ← storage.createDirs parent with
      | .error cause => return (.error (.createTempDir parent cause), t)
      | .ok () => t.makeRoot storage parent) := by
  simp only [ensureRoot, h, hp, makeRoot]
  rfl

/-- Makes the directory of a virtual document and writes its file there; gives the path. -/
def place (storage : Storage m) (t : TempFiles) (v : VirtualDocument) :
    m (Except Error String × TempFiles) := do
  match ← t.filePath storage v.language.extension with
  | (.error e, t) => return (.error e, t)
  | (.ok path, t) =>
    match ← storage.write path (v.language.fixed v.content) with
    | .error cause => return (.error (.writeVirtualDocument path cause), t)
    | .ok () => return (.ok path, t)

/-- Has the host open a file that was placed, and removes it if that fails. -/
def present (storage : Storage m) (host : Host m) :
    Except Error String × TempFiles → m (Except Error Handle × TempFiles)
  | (.error e, t) => return (.error e, t)
  | (.ok path, t) =>
    match Url.ofFilePath? path with
    | none => return (.error (.invalidPath path), t)
    | some uri => do
      match ← host.openDocument uri with
      | .error e => do
        let _ ← storage.removeFile path
        return (.error e, t)
      | .ok () => return (.ok ⟨uri, true⟩, t)

theorem acquire_eq [LawfulMonad m] (storage : Storage m) (host : Host m) (t : TempFiles)
    (v : VirtualDocument) :
    t.acquire storage host v = t.place storage v >>= present storage host := by
  rw [acquire, place, bind_assoc]
  refine bind_congr ?_
  rintro ⟨_ | path, t⟩
  · rw [pure_bind]
    rfl
  · rw [bind_assoc]
    refine bind_congr ?_
    rintro (_ | _)
    · rw [pure_bind]
      rfl
    · rw [pure_bind]
      rfl

end

/-! ### How an acquisition ends -/

section
variable {σ : Type} {storage : Storage (StateM σ)} {host : Host (StateM σ)} {t t' : TempFiles}
  {v : VirtualDocument} {w w' : σ}

theorem acquire_of_error {e : Error} (h : (t.place storage v).run w = ((.error e, t'), w')) :
    (t.acquire storage host v).run w = ((.error e, t'), w') := by
  rw [acquire_eq, run_bind, h]
  rfl

theorem acquire_of_no_uri {path : String} (h : (t.place storage v).run w = ((.ok path, t'), w'))
    (hu : Url.ofFilePath? path = none) :
    (t.acquire storage host v).run w = ((.error (.invalidPath path), t'), w') := by
  rw [acquire_eq, run_bind, h]
  simp only [present, hu]
  rfl

theorem acquire_of_not_opened {path uri : String} {e : Error} {w'' : σ}
    (h : (t.place storage v).run w = ((.ok path, t'), w')) (hu : Url.ofFilePath? path = some uri)
    (ho : (host.openDocument uri).run w' = (.error e, w'')) :
    (t.acquire storage host v).run w = ((.error e, t'), ((storage.removeFile path).run w'').2) := by
  rw [acquire_eq, run_bind, h]
  simp only [present, hu]
  rw [run_bind, ho]
  rfl

theorem acquire_of_opened {path uri : String} {w'' : σ}
    (h : (t.place storage v).run w = ((.ok path, t'), w')) (hu : Url.ofFilePath? path = some uri)
    (ho : (host.openDocument uri).run w' = (.ok (), w'')) :
    (t.acquire storage host v).run w = ((.ok ⟨uri, true⟩, t'), w'') := by
  rw [acquire_eq, run_bind, h]
  simp only [present, hu]
  rw [run_bind, ho]
  rfl

end

end TempFiles

/-! ### Absolute paths -/

theorem isAbsolute_append {base : String} (h : Path.isAbsolute base = true) (rest : String) :
    Path.isAbsolute (base ++ rest) = true := by
  simp only [Path.isAbsolute, beq_iff_eq, String.toList_append] at h ⊢
  obtain ⟨cs, hcs⟩ := List.head?_eq_some_iff.mp h
  simp [hcs]

theorem isAbsolute_join {base : String} (h : Path.isAbsolute base = true) (path : String) :
    Path.isAbsolute (Path.join base path) = true := by
  unfold Path.join
  split
  · assumption
  · split
    · exact isAbsolute_append h path
    · exact isAbsolute_append (isAbsolute_append h "/") path

theorem exists_uri_of_isAbsolute {path : String} (h : Path.isAbsolute path = true) :
    ∃ uri, Url.ofFilePath? path = some uri := by
  simp [Url.ofFilePath?, h]

/-- Whatever the world, an action gives a result of some kind. -/
def Ensures {σ α : Type} (x : StateM σ α) (P : α → Prop) : Prop := ∀ w, P (x.run w).1

theorem ensures_pure {σ α : Type} {P : α → Prop} {a : α} (h : P a) :
    Ensures (pure a : StateM σ α) P := fun _ => h

theorem ensures_bind {σ α β : Type} {x : StateM σ α} {f : α → StateM σ β} (Q : α → Prop)
    {P : β → Prop} (hx : Ensures x Q) (hf : ∀ a, Q a → Ensures (f a) P) : Ensures (x >>= f) P :=
  fun w => hf _ (hx w) _

/-- Whatever comes of the first of two actions, the second gives a result of some kind. -/
theorem ensures_after {σ α β : Type} {x : StateM σ α} {f : α → StateM σ β} {P : β → Prop}
    (hf : ∀ a, Ensures (f a) P) : Ensures (x >>= f) P := fun _ => hf _ _

/-- Directories are made under absolute paths. -/
def Storage.Rooted {σ : Type} (storage : Storage (StateM σ)) : Prop :=
  ∀ parent front, Ensures (storage.createFresh parent front) fun made =>
    ∀ root, made = .ok root → Path.isAbsolute root = true

namespace TempFiles

/-- The directory, if it is made, has an absolute path. -/
def Rooted (t : TempFiles) : Prop := ∀ root, t.root = some root → Path.isAbsolute root = true

/-- A path that is absolute if there is one, and files that are rooted. -/
def RootedPath (out : Except Error String × TempFiles) : Prop :=
  out.2.Rooted ∧ ∀ path, out.1 = .ok path → Path.isAbsolute path = true

theorem rootedPath_error {t : TempFiles} (h : t.Rooted) (e : Error) : RootedPath (.error e, t) :=
  ⟨h, by rintro _ ⟨⟩⟩

theorem rootedPath_ok {t : TempFiles} (h : t.Rooted) {path : String}
    (hpath : Path.isAbsolute path = true) : RootedPath (.ok path, t) :=
  ⟨h, by rintro _ ⟨⟩; exact hpath⟩

theorem rooted_count {t : TempFiles} (h : t.Rooted) : t.count.Rooted := by
  unfold count
  split <;> exact h

section
variable {σ : Type} {storage : Storage (StateM σ)} {t : TempFiles}

theorem makeRoot_rooted (hs : storage.Rooted) (ht : t.Rooted) (parent : String) :
    Ensures (t.makeRoot storage parent) RootedPath := by
  refine ensures_bind _ (hs parent rootFront) ?_
  rintro (cause | root) hroot
  · exact ensures_pure (rootedPath_error ht _)
  · have habs := hroot root rfl
    exact ensures_pure (rootedPath_ok (by rintro _ ⟨⟩; exact habs) habs)

theorem ensureRoot_rooted (hs : storage.Rooted) (ht : t.Rooted) :
    Ensures (t.ensureRoot storage) RootedPath := by
  cases hroot : t.root with
  | some root =>
    rw [ensureRoot_of_root storage hroot]
    exact ensures_pure (rootedPath_ok ht (ht root hroot))
  | none =>
    cases hparent : t.parent with
    | none =>
      rw [ensureRoot_of_no_parent storage hroot hparent]
      exact makeRoot_rooted hs ht storage.tempDir
    | some parent =>
      rw [ensureRoot_of_parent storage hroot hparent]
      refine ensures_after ?_
      rintro (cause | _)
      · exact ensures_pure (rootedPath_error ht _)
      · exact makeRoot_rooted hs ht parent

theorem filePath_rooted (hs : storage.Rooted) (ht : t.Rooted) (extension : String) :
    Ensures (t.filePath storage extension) RootedPath := by
  refine ensures_bind _ (ensureRoot_rooted hs ht) ?_
  rintro ⟨e | root, t⟩ ⟨ht, hroot⟩
  · exact ensures_pure (rootedPath_error ht e)
  · refine ensures_after ?_
    rintro (cause | _)
    · exact ensures_pure (rootedPath_error ht _)
    · exact ensures_pure (rootedPath_ok (rooted_count ht)
        (isAbsolute_join (isAbsolute_join (hroot root rfl) extension) _))

/-- A file that was placed has an absolute path. -/
theorem place_rooted (hs : storage.Rooted) (ht : t.Rooted) (v : VirtualDocument) :
    Ensures (t.place storage v) RootedPath := by
  refine ensures_bind _ (filePath_rooted hs ht v.language.extension) ?_
  rintro ⟨e | path, t⟩ ⟨ht, hpath⟩
  · exact ensures_pure (rootedPath_error ht e)
  · refine ensures_after ?_
    rintro (cause | _)
    · exact ensures_pure (rootedPath_error ht _)
    · exact ensures_pure ⟨ht, hpath⟩

theorem present_rooted (host : Host (StateM σ)) {out : Except Error String × TempFiles}
    (h : out.2.Rooted) : Ensures (present storage host out) fun out => out.2.Rooted := by
  obtain ⟨e | path, t⟩ := out
  · exact ensures_pure h
  · cases huri : Url.ofFilePath? path with
    | none =>
      simp only [present, huri]
      exact ensures_pure h
    | some uri =>
      simp only [present, huri]
      refine ensures_after ?_
      rintro (e | _)
      · exact ensures_after fun _ => ensures_pure h
      · exact ensures_pure h

theorem acquire_rooted (hs : storage.Rooted) (ht : t.Rooted) (host : Host (StateM σ))
    (v : VirtualDocument) : Ensures (t.acquire storage host v) fun out => out.2.Rooted := by
  rw [acquire_eq]
  exact ensures_bind _ (place_rooted hs ht v) fun _ h => present_rooted host h.1

end

end TempFiles

end Polyglot
