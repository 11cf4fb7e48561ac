import SchemaGrammar.FileTree

/-!
# File systems

What a program does with files is written once, for any `FileSystem`: a record of the operations
that it needs, in any monad. The file trees are such a system (`FileTree.system`), where the
operations change the tree that is the state, and so is the real one, where they are performed.

An operation that is refused says why, and the program goes on. So what an operation has changed
before a later one is refused stays.
-/

namespace SchemaGrammar

/-- The operations of a file system in the monad `m`. Names are followed from a value of `base`,
which a path is asked for first. -/
structure FileSystem (base : Type) (m : Type → Type) where
  /-- Where a path begins. -/
  start (path : String) : m base
  /-- What a path names, if it exists. -/
  find? (path : String) : m (Option FileNode)
  /-- Whether names lead to a directory. -/
  isDirectory (here : base) (names : List String) : m Bool
  /-- Makes a directory where nothing is. -/
  makeDirectory (here : base) (names : List String) : m (Except OsError Unit)
  /-- Writes a file, replacing what it held. -/
  writeFile (path : String) (content : ByteArray) : m (Except OsError Unit)

namespace FileSystem

variable {base : Type} {m : Type → Type} [Monad m] (fs : FileSystem base m)

/-- The outcome of making a directory, if one that exists already is no error. -/
def accept (here : base) (names : List String) : Except OsError Unit → m (Except OsError Unit)
  | .ok () => pure (.ok ())
  | .error e => do return if ← fs.isDirectory here names then .ok () else .error e

/-- Makes a directory, first the directories that lead to it. The names are given in reverse. A
directory that exists already is no error. -/
def makeDirectories (here : base) : List String → m (Except OsError Unit)
  | [] => pure (.ok ())
  | name :: above => do
    let names := (name :: above).reverse
    match ← fs.makeDirectory here names with
    | .error .notFound =>
      match ← makeDirectories here above with
      | .error e => pure (.error e)
      | .ok () => fs.accept here names (← fs.makeDirectory here names)
    | outcome => fs.accept here names outcome

end FileSystem

namespace FileTree

/-- The outcome of an operation, and the tree that it leaves. -/
def settle (t : FileTree) : Except OsError FileTree → Except OsError Unit × FileTree
  | .ok changed => (.ok (), changed)
  | .error e => (.error e, t)

/-- The file system whose state is a file tree. -/
def system : FileSystem Place (StateM FileTree) where
  start path := return (← get).start path
  find? path := return (← get).find? path
  isDirectory here names := return (← get).isDirectory here names
  makeDirectory here names := modifyGet fun t => t.settle (t.makeDirectory here names)
  writeFile path content := modifyGet fun t => t.settle (t.writeFile path content)

/-- What comes first leaves the tree on which the rest is run. -/
theorem run_bind {α β : Type} (x : StateM FileTree α) (f : α → StateM FileTree β) (t : FileTree) :
    (x >>= f).run t = (f (x.run t).1).run (x.run t).2 := rfl

/-- The tree after directories were made, and the outcome. -/
def makeDirectories (t : FileTree) (here : Place) (reversed : List String) :
    FileTree × Except OsError Unit :=
  ((system.makeDirectories here reversed).run t).swap

/-- The tree after a directory was made unless it exists already, and the outcome. -/
def ensureDirectory (t : FileTree) (here : Place) (names : List String) :
    FileTree × Except OsError Unit :=
  match t.makeDirectory here names with
  | .ok changed => (changed, .ok ())
  | .error e => (t, if t.isDirectory here names then .ok () else .error e)

/-- Making a directory and accepting one that exists ensures that it is there. -/
theorem run_accept (t : FileTree) (here : Place) (names : List String) :
    ((system.accept here names (t.settle (t.makeDirectory here names)).1).run
      (t.settle (t.makeDirectory here names)).2).swap = t.ensureDirectory here names := by
  rw [ensureDirectory]
  cases t.makeDirectory here names <;> rfl

/-- A directory is made at once, or after those that lead to it. -/
theorem makeDirectories_cons (t : FileTree) (here : Place) (name : String) (above : List String) :
    t.makeDirectories here (name :: above) =
      match t.makeDirectory here (name :: above).reverse with
      | .error .notFound =>
        match t.makeDirectories here above with
        | (t, .error e) => (t, .error e)
        | (t, .ok ()) => t.ensureDirectory here (name :: above).reverse
      | _ => t.ensureDirectory here (name :: above).reverse := by
  have hmake : ∀ (t : FileTree) (names : List String), (system.makeDirectory here names).run t =
      t.settle (t.makeDirectory here names) := fun _ _ => rfl
  have haccept := t.run_accept here (name :: above).reverse
  rw [makeDirectories, FileSystem.makeDirectories, run_bind, hmake]
  cases hfirst : t.makeDirectory here (name :: above).reverse with
  | ok changed =>
    rw [hfirst] at haccept
    exact haccept
  | error e =>
    rw [hfirst] at haccept
    cases e with
    | notFound =>
      show ((system.makeDirectories here above >>= _).run t).swap = _
      rw [run_bind, makeDirectories]
      rcases (system.makeDirectories here above).run t with ⟨outcome, t₁⟩
      cases outcome with
      | error e => rfl
      | ok =>
        show ((system.makeDirectory here _ >>= _).run t₁).swap = _
        rw [run_bind, hmake]
        exact t₁.run_accept here _
    | alreadyExists | notDirectory | isDirectory | other => exact haccept

end FileTree

end SchemaGrammar
