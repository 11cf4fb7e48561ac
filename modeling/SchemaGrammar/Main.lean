import SchemaGrammar.Command.Program

/-!
# The command line program

The program on the real file system. Here are only the single operations, each with the error that
the system reports for it; what is done with them, in which order and with which outcome, is decided
by `executeOn`. The answer is printed at the end.
-/

namespace SchemaGrammar.Main

/-- The error that the system reported. -/
def osError : IO.Error → OsError
  | .noFileOrDirectory _ _ _ => .notFound
  | .alreadyExists _ _ _ => .alreadyExists
  | .inappropriateType _ 20 _ => .notDirectory
  | .inappropriateType _ 21 _ => .isDirectory
  | e => .other (toString e)

/-- Performs an operation, with the error as its outcome if it is refused. -/
def attempt (action : IO Unit) : IO (Except OsError Unit) := do
  try
    action
    return .ok ()
  catch e => return .error (osError e)

/-- A path as the file system knows it. -/
def entry (path : String) : IO.FS.DirEntry := { root := path, fileName := "" }

/-- What stands at a path. -/
def find? (path : String) : IO (Option FileNode) := do
  if path.isEmpty || !(← (entry path).root.pathExists) then return none
  if ← (entry path).root.isDir then return some .directory
  return some (.file (← IO.FS.readBinFile path))

/-- The real file system. A path begins at the root or, with no text, at the working directory. -/
def system : FileSystem String IO where
  start path := pure (if Path.isAbsolute path then "/" else "")
  find? := find?
  isDirectory here names := (entry (here ++ "/".intercalate names)).root.isDir
  makeDirectory here names := attempt (IO.FS.createDir (here ++ "/".intercalate names))
  writeFile path content := attempt (IO.FS.writeBinFile path content)

end SchemaGrammar.Main

/-- Executes the command line and prints the answer. -/
def main (arguments : List String) : IO UInt32 := do
  let environment ← IO.getEnv "RUST_LOG"
  let answer ← SchemaGrammar.executeOn SchemaGrammar.Main.system arguments environment
  answer.log.forM IO.eprintln
  IO.eprint answer.report
  IO.print answer.printed
  return answer.exitCode.toUInt32
