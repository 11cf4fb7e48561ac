import SchemaGrammar.Command.LogFilter
import SchemaGrammar.Command.Run

/-!
# The program

What the program does with a command line: it prints help or its version, refuses the command line,
or runs a conversion and logs the events that the filter admits. `executeOn` says so for any file
system; `execute` is the same on a file tree.
-/

namespace SchemaGrammar

/-- The line that names the version. -/
def versionText : String := "schema-gbnf 0.1.0\n"

/-- The help text. -/
def helpText : String :=
  "Convert a JSON Schema (JSON or YAML) into a GBNF grammar\n\n" ++
  "Usage: schema-gbnf [OPTIONS] <INPUT> <OUTPUT>\n\n" ++
  "Arguments:\n" ++
  "  <INPUT>   input schema file (.json, .yaml or .yml)\n" ++
  "  <OUTPUT>  output GBNF file; parent directories are created\n\n" ++
  "Options:\n" ++
  "      --pretty   format output with indentation\n" ++
  "  -v, --verbose  debug logging (overridden by RUST_LOG)\n" ++
  "  -h, --help     Print help\n" ++
  "  -V, --version  Print version\n"

/-- What a command line that asks for no conversion makes the program print. -/
def UsageError.printed : UsageError → String
  | .displayHelp => helpText
  | .displayVersion => versionText
  | _ => ""

/-- The line that reports a failed run. -/
def RunError.report (e : RunError) : String := "Error: " ++ e.message ++ "\n"

/-- The log lines of a run. -/
def LogFilter.lines (f : LogFilter) (events : List Event) : List String :=
  (events.filter f.admits).map Event.line

/-- What the program answers. -/
structure ProgramAnswer where
  exitCode : Nat
  printed : String
  log : List String
  /-- The error report, empty if nothing failed. -/
  report : String

/-- Executes a command line on a file system. The environment may ask for a log filter. -/
def executeOn {base : Type} {m : Type → Type} [Monad m] (fs : FileSystem base m)
    (arguments : List String) (environment : Option String) : m ProgramAnswer :=
  match Invocation.ofArguments arguments with
  | .error e => pure ⟨e.exitCode, e.printed, [], ""⟩
  | .ok i => do
    let answer ← i.perform fs
    let log := (LogFilter.choose environment i.verbose).lines answer.events
    match answer.result with
    | .ok () => pure ⟨0, answer.printed, log, ""⟩
    | .error e => pure ⟨1, answer.printed, log, e.report⟩

/-- What the program leaves behind: its answer and the file tree. -/
structure Execution extends ProgramAnswer where
  tree : FileTree

/-- Executes a command line on a file tree. -/
def execute (arguments : List String) (environment : Option String) (t : FileTree) : Execution :=
  let (answer, tree) := (executeOn FileTree.system arguments environment).run t
  ⟨answer, tree⟩

/-- A command line is refused, or its conversion is run and reported. -/
theorem execute_eq (arguments : List String) (environment : Option String) (t : FileTree) :
    execute arguments environment t =
      match Invocation.ofArguments arguments with
      | .error e => ⟨⟨e.exitCode, e.printed, [], ""⟩, t⟩
      | .ok i =>
        match (i.run t).result with
        | .ok () => ⟨⟨0, (i.run t).printed,
            (LogFilter.choose environment i.verbose).lines (i.run t).events, ""⟩, (i.run t).tree⟩
        | .error e => ⟨⟨1, (i.run t).printed,
            (LogFilter.choose environment i.verbose).lines (i.run t).events, e.report⟩,
            (i.run t).tree⟩ := by
  rw [execute, executeOn]
  cases Invocation.ofArguments arguments with
  | error e => rfl
  | ok i =>
    dsimp only [Invocation.run]
    rw [FileTree.run_bind]
    rcases (i.perform FileTree.system).run t with ⟨answer, tree⟩
    obtain ⟨events, printed, result⟩ := answer
    cases result <;> rfl

end SchemaGrammar
