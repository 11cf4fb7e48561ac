/-!
# Arguments

The command line has two positional arguments, the files to read and to write, and four flags.
Arguments are taken from left to right and the first problem ends the reading. That a positional
argument is empty is noticed late: when the next flag or positional argument has been recognised,
or at the end.
-/

namespace SchemaGrammar

/-- What a command line asks for. -/
structure Invocation where
  input : String
  output : String
  /-- Whether the grammar is laid out over lines. -/
  pretty : Bool
  /-- Whether steps are logged. -/
  verbose : Bool
deriving DecidableEq

/-- Why a command line asks for no conversion. -/
inductive UsageError where
  | displayHelp
  | displayVersion
  /-- An unknown flag, or a positional argument too many. -/
  | unknownArgument
  /-- A flag that was given before. -/
  | argumentConflict
  /-- A value attached to a flag. -/
  | tooManyValues
  /-- An empty positional argument. -/
  | invalidValue
  | missingRequiredArgument
deriving DecidableEq

/-- The exit code: asking for help or for the version is no failure. -/
def UsageError.exitCode : UsageError → Nat
  | .displayHelp => 0
  | .displayVersion => 0
  | _ => 2

namespace Arguments

/-- The flags. -/
inductive Flag where
  | pretty
  | verbose
  | help
  | version

/-- The flag with the given long name. -/
def Flag.ofLong? : String → Option Flag
  | "pretty" => some .pretty
  | "verbose" => some .verbose
  | "help" => some .help
  | "version" => some .version
  | _ => none

/-- The flag with the given letter. -/
def Flag.ofLetter? : Char → Option Flag
  | 'v' => some .verbose
  | 'h' => some .help
  | 'V' => some .version
  | _ => none

/-- What was read so far. -/
structure Partial where
  positionals : List String
  pretty : Bool
  verbose : Bool

/-- Refuses an empty positional argument. -/
def Partial.check (p : Partial) : Except UsageError Partial :=
  if p.positionals.getLast? = some "" then .error .invalidValue else .ok p

/-- Takes a flag. -/
def Partial.takeFlag (p : Partial) (flag : Flag) : Except UsageError Partial := do
  let p ← p.check
  match flag with
  | .help => .error .displayHelp
  | .version => .error .displayVersion
  | .pretty => if p.pretty then .error .argumentConflict else .ok { p with pretty := true }
  | .verbose => if p.verbose then .error .argumentConflict else .ok { p with verbose := true }

/-- Takes a flag that may not be known. -/
def Partial.takeKnown (p : Partial) : Option Flag → Except UsageError Partial
  | some flag => p.takeFlag flag
  | none => .error .unknownArgument

/-- Takes a positional argument. -/
def Partial.takePositional (p : Partial) (argument : String) : Except UsageError Partial :=
  if 2 ≤ p.positionals.length then .error .unknownArgument
  else p.check.map fun p => { p with positionals := p.positionals ++ [argument] }

/-- Takes a flag by its long name, to which no value may be attached. -/
def Partial.takeLong (p : Partial) (name : List Char) : Except UsageError Partial :=
  match Flag.ofLong? (String.ofList (name.takeWhile (· != '='))) with
  | none => .error .unknownArgument
  | some flag => if name.contains '=' then .error .tooManyValues else p.takeFlag flag

/-- Takes one argument. -/
def Partial.take (p : Partial) (argument : String) : Except UsageError Partial :=
  match argument.toList with
  | '-' :: '-' :: name => p.takeLong name
  | '-' :: letter :: letters =>
    (letter :: letters).foldlM (fun p letter => p.takeKnown (Flag.ofLetter? letter)) p
  | _ => p.takePositional argument

/-- Takes arguments up to two hyphens that stand alone, and all after them as positional ones. -/
def Partial.takeAll (p : Partial) : List String → Except UsageError Partial
  | [] => .ok p
  | "--" :: arguments => arguments.foldlM Partial.takePositional p
  | argument :: arguments => do (← p.take argument).takeAll arguments

/-- The invocation, if nothing is missing. -/
def Partial.finish (p : Partial) : Except UsageError Invocation := do
  let p ← p.check
  match p.positionals with
  | [input, output] => .ok ⟨input, output, p.pretty, p.verbose⟩
  | _ => .error .missingRequiredArgument

end Arguments

/-- What a command line asks for, or why it asks for nothing. -/
def Invocation.ofArguments (arguments : List String) : Except UsageError Invocation := do
  (← (⟨[], false, false⟩ : Arguments.Partial).takeAll arguments).finish

end SchemaGrammar
