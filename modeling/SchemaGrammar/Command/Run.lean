import SchemaGrammar.Command.Arguments
import SchemaGrammar.Command.Event
import SchemaGrammar.FileSystem
import SchemaGrammar.Grammar.Fragment
import SchemaGrammar.Grammar.Layout

/-!
# Running a conversion

A conversion reads one file and writes another. Loading and compiling look only at what stands at
the input path, so they are functions of that; only saving changes files, and nothing is saved
unless both succeeded. What touches files is written for any file system, and run on a file tree
(`FileTree.save`, `Invocation.run`), where `FileTree.save_eq` and `Invocation.run_eq` say what comes
of it.
-/

namespace SchemaGrammar

/-- Why a grammar could not be saved. -/
inductive SaveError where
  /-- The directories that lead to the file could not be made. -/
  | create (parent : String) (cause : OsError)
  | write (path : String) (cause : OsError)
deriving DecidableEq

/-- Why a conversion failed. -/
inductive RunError where
  | load (error : LoadError)
  | compile (error : CompileError)
  | save (error : SaveError)
deriving DecidableEq

/-- The text of a save error with its cause. -/
def SaveError.message : SaveError → String
  | .create parent cause => "failed to create " ++ parent ++ ": " ++ cause.message
  | .write path cause => "failed to write " ++ path ++ ": " ++ cause.message

/-- The text of an error with all that lies behind it. -/
def RunError.message : RunError → String
  | .load error => error.fullMessage
  | .compile error => ": ".intercalate ("error processing schema" :: error.chain)
  | .save error => error.message

/-! ## Loading -/

/-- The text of what stands at a path. -/
def FileNode.readText (path : String) : FileNode → Except LoadError String
  | .directory => .error (.unreadable path .isDirectory)
  | .file content =>
    match String.fromUTF8? content with
    | some text => .ok text
    | none => .error (.unreadable path .notText)

/-- The format of the file at a path, given what stands there: first something has to, then its name
has to tell the format. -/
def formatAt (path : String) : Option FileNode → Except LoadError (SourceFormat × FileNode)
  | none => .error (.inputNotFound path)
  | some node => (SourceFormat.ofPath path).map (·, node)

/-- The document at a path, given what stands there. -/
def loadNode (path : String) (found : Option FileNode) : Except LoadError Document := do
  let (format, node) ← formatAt path found
  format.parse (← node.readText path)

/-- What loading reports: the file, once its format is known. -/
def loadEvents (path : String) (found : Option FileNode) : List Event :=
  match formatAt path found with
  | .ok (format, _) => [.loading path format]
  | .error _ => []

/-- The document in the file at a path. -/
def FileTree.load (t : FileTree) (path : String) : Except LoadError Document :=
  loadNode path (t.find? path)

/-! ## Converting -/

/-- The events of a conversion before saving, and its grammar. -/
structure Conversion where
  events : List Event
  result : Except RunError String

/-- Loads and compiles, given what stands at the input path. -/
def Invocation.convert (i : Invocation) (found : Option FileNode) : Conversion :=
  let loaded := loadEvents i.input found
  match loadNode i.input found with
  | .error e => ⟨loaded, .error (.load e)⟩
  | .ok document =>
    let lowering := lowerRoot document
    let events := loaded ++ lowering.steps.map .lowering
    match lowering.result with
    | .error e => ⟨events, .error (.compile e)⟩
    | .ok schema =>
      ⟨events, .ok (if i.pretty then layout schema.grammar else schema.grammar)⟩

/-! ## Saving -/

namespace FileSystem

variable {base : Type} {m : Type → Type} [Monad m] (fs : FileSystem base m)

/-- Makes the directories that lead to a path. -/
def makeParents (path : String) : m (Except SaveError Unit) :=
  match Path.parent? path with
  | none => pure (.ok ())
  | some parent => do
    let here ← fs.start parent
    let made ← fs.makeDirectories here (Path.components parent).reverse
    return made.mapError (.create parent)

/-- Writes a file, making the directories that lead to it. -/
def save (path : String) (content : ByteArray) : m (Except SaveError Unit) := do
  match ← fs.makeParents path with
  | .error e => pure (.error e)
  | .ok () => return (← fs.writeFile path content).mapError (.write path)

end FileSystem

/-- The tree after the directories that lead to a path were made, and the outcome. -/
def FileTree.makeParents (t : FileTree) (path : String) : FileTree × Except SaveError Unit :=
  ((FileTree.system.makeParents path).run t).swap

/-- The tree after a file was saved, and the outcome. -/
def FileTree.save (t : FileTree) (path : String) (content : ByteArray) :
    FileTree × Except SaveError Unit :=
  ((FileTree.system.save path content).run t).swap

/-- The directories that lead to a path are those that lead to its parent, and the parent. -/
theorem FileTree.makeParents_eq (t : FileTree) (path : String) :
    t.makeParents path =
      match Path.parent? path with
      | none => (t, .ok ())
      | some parent =>
        match t.makeDirectories (t.start parent) (Path.components parent).reverse with
        | (t, .ok ()) => (t, .ok ())
        | (t, .error e) => (t, .error (.create parent e)) := by
  rw [makeParents, FileSystem.makeParents]
  cases Path.parent? path with
  | none => rfl
  | some parent =>
    have hstart : (system.start parent).run t = (t.start parent, t) := rfl
    dsimp only
    rw [makeDirectories, run_bind, hstart, run_bind]
    rcases (system.makeDirectories (t.start parent) _).run t with ⟨outcome, t₁⟩
    cases outcome <;> rfl

/-- A file is written after the directories that lead to it were made. -/
theorem FileTree.save_eq (t : FileTree) (path : String) (content : ByteArray) :
    t.save path content =
      match t.makeParents path with
      | (t, .error e) => (t, .error e)
      | (t, .ok ()) =>
        match t.writeFile path content with
        | .ok t => (t, .ok ())
        | .error e => (t, .error (.write path e)) := by
  rw [save, FileSystem.save, run_bind, makeParents]
  rcases (system.makeParents path).run t with ⟨outcome, t₁⟩
  cases outcome with
  | error e => rfl
  | ok =>
    have hwrite : (system.writeFile path content).run t₁ =
        t₁.settle (t₁.writeFile path content) := rfl
    dsimp only [Prod.swap]
    rw [run_bind, hwrite]
    cases t₁.writeFile path content <;> rfl

/-! ## Running -/

/-- What a run answers: what it reported and printed, and whether it succeeded. -/
structure RunAnswer where
  events : List Event
  printed : String
  result : Except RunError Unit

/-- The line that a successful run prints. -/
def Invocation.successLine (i : Invocation) : String :=
  "Successfully converted " ++ i.input ++ " to GBNF format at " ++ i.output ++ "\n"

/-- Runs a conversion on a file system. -/
def Invocation.perform {base : Type} {m : Type → Type} [Monad m] (fs : FileSystem base m)
    (i : Invocation) : m RunAnswer := do
  let conversion := i.convert (← fs.find? i.input)
  match conversion.result with
  | .error e => pure ⟨conversion.events, "", .error e⟩
  | .ok grammar =>
    match ← fs.save i.output grammar.toUTF8 with
    | .error e => pure ⟨conversion.events, "", .error (.save e)⟩
    | .ok () =>
      pure ⟨conversion.events ++ [.converted i.input i.output], i.successLine, .ok ()⟩

/-- What a run leaves behind: its answer and the file tree. -/
structure Outcome extends RunAnswer where
  tree : FileTree

/-- Runs a conversion on a file tree. -/
def Invocation.run (i : Invocation) (t : FileTree) : Outcome :=
  let (answer, tree) := (i.perform FileTree.system).run t
  ⟨answer, tree⟩

/-- A run saves what it converts, unless that fails. -/
theorem Invocation.run_eq (i : Invocation) (t : FileTree) :
    i.run t =
      match (i.convert (t.find? i.input)).result with
      | .error e => ⟨⟨(i.convert (t.find? i.input)).events, "", .error e⟩, t⟩
      | .ok grammar =>
        match t.save i.output grammar.toUTF8 with
        | (t', .error e) => ⟨⟨(i.convert (t.find? i.input)).events, "", .error (.save e)⟩, t'⟩
        | (t', .ok ()) =>
          ⟨⟨(i.convert (t.find? i.input)).events ++ [.converted i.input i.output], i.successLine,
            .ok ()⟩, t'⟩ := by
  have hfind : (FileTree.system.find? i.input).run t = (t.find? i.input, t) := rfl
  rw [run, perform, FileTree.run_bind, hfind]
  dsimp only
  cases (i.convert (t.find? i.input)).result with
  | error e => rfl
  | ok grammar =>
    dsimp only
    rw [FileTree.run_bind, FileTree.save]
    rcases (FileTree.system.save i.output grammar.toUTF8).run t with ⟨outcome, t₁⟩
    cases outcome <;> rfl

end SchemaGrammar
