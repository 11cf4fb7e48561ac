import SchemaGrammar.Json.Reader
import SchemaGrammar.Path
import SchemaGrammar.Text.Quoted
import SchemaGrammar.Yaml.Reader

/-!
# Sources

A schema is written as JSON or as YAML text, and the name of the file that holds it says which.
-/

namespace SchemaGrammar

/-- The format of a schema text. -/
inductive SourceFormat where
  | json
  | yaml
deriving DecidableEq

/-- Why a file that exists could not be read as text. -/
inductive ReadFault where
  | isDirectory
  | notText
deriving DecidableEq

/-- Why a schema could not be loaded. -/
inductive LoadError where
  | inputNotFound (path : String)
  /-- The file name's suffix, with its point, names no known format; it may be empty. -/
  | unsupportedFormat (suffix : String)
  | unreadable (path : String) (fault : ReadFault)
  /-- The text is not of its format. -/
  | malformed (format : SourceFormat)
deriving DecidableEq

namespace SourceFormat

/-- The name of the format in messages. -/
def name : SourceFormat → String
  | .json => "JSON"
  | .yaml => "YAML"

/-- The format that a path's suffix names, in letters of either case. -/
def ofPath (path : String) : Except LoadError SourceFormat :=
  match Path.extension? path with
  | none => .error (.unsupportedFormat "")
  | some suffix =>
    match suffix.toLower with
    | "json" => .ok .json
    | "yaml" => .ok .yaml
    | "yml" => .ok .yaml
    | _ => .error (.unsupportedFormat ("." ++ suffix))

/-- The document that a text of the format denotes. -/
def parse (format : SourceFormat) (text : String) : Except LoadError Document :=
  let document :=
    match format with
    | .json => Json.read text
    | .yaml => Yaml.read text
  match document with
  | some d => .ok d.value
  | none => .error (.malformed format)

/-- A document that is read has distinct names, whatever the format of its text. -/
theorem parse_distinct {format : SourceFormat} {text : String} {d : Document}
    (h : format.parse text = .ok d) : d.Distinct := by
  simp only [parse] at h
  split at h
  · next found _ =>
    cases h
    exact found.distinct
  · cases h

end SourceFormat

/-- What a read fault is called. -/
def ReadFault.message : ReadFault → String
  | .isDirectory => "Is a directory (os error 21)"
  | .notText => "stream did not contain valid UTF-8"

namespace LoadError

/-- The text of the error, without what lies behind it. -/
def message : LoadError → String
  | .inputNotFound path => "input file not found: " ++ path
  | .unsupportedFormat suffix => "unsupported file format: " ++ Text.quote suffix
  | .unreadable path _ => "failed to read " ++ path
  | .malformed format => "error parsing " ++ format.name ++ " input"

/-- The text of the error and of the read fault behind it. -/
def fullMessage : LoadError → String
  | .unreadable path fault => message (.unreadable path fault) ++ ": " ++ fault.message
  | other => other.message

end LoadError

end SchemaGrammar
