import SchemaGrammar.Schema.Lowering
import SchemaGrammar.Source

/-!
# Events and log lines

What a conversion reports while it runs. An event belongs to a part of the program, has a level and
carries named values beside its message; as a log line it shows all of these.
-/

namespace SchemaGrammar

/-- How important an event is, the most important first. -/
inductive Level where
  | error
  | warn
  | info
  | debug
  | trace
deriving DecidableEq

namespace Level

/-- The rank of a level, the most important lowest. -/
def rank : Level → Nat
  | .error => 1
  | .warn => 2
  | .info => 3
  | .debug => 4
  | .trace => 5

/-- The name of a level on a log line. -/
def name : Level → String
  | .error => "ERROR"
  | .warn => "WARN"
  | .info => "INFO"
  | .debug => "DEBUG"
  | .trace => "TRACE"

end Level

/-- What a conversion reports. -/
inductive Event where
  /-- A file is about to be read. -/
  | loading (path : String) (format : SourceFormat)
  | lowering (step : Step)
  /-- The grammar was saved. -/
  | converted (input output : String)
deriving DecidableEq

/-- A value that an event carries: a text that is shown between quotes, or one shown as it is. -/
inductive FieldValue where
  | quoted (text : String)
  | plain (text : String)

/-- The text of a value, without quotes. -/
def FieldValue.text : FieldValue → String
  | .quoted text => text
  | .plain text => text

/-- The value as a log line shows it. -/
def FieldValue.shown : FieldValue → String
  | .quoted text => Text.quote text
  | .plain text => text

/-- The format as an event shows it. -/
def SourceFormat.label : SourceFormat → String
  | .json => "Json"
  | .yaml => "Yaml"

namespace Event

/-- The level of an event. -/
def level : Event → Level
  | .loading _ _ => .debug
  | .lowering _ => .debug
  | .converted _ _ => .info

/-- The part of the program that an event belongs to. -/
def target : Event → String
  | .loading _ _ => "schema_gbnf::load"
  | .lowering _ => "schema_gbnf::lower"
  | .converted _ _ => "schema_gbnf::cli"

/-- What an event says. -/
def message : Event → String
  | .loading _ _ => "loading schema"
  | .lowering (.lowered _) => "lowered schema node"
  | .lowering (.unresolved _ _) => "leaving $ref unresolved"
  | .converted _ _ => "conversion complete"

/-- The named values that an event carries. -/
def fields : Event → List (String × FieldValue)
  | .loading path format => [("path", .plain path), ("format", .plain format.label)]
  | .lowering (.lowered kind) => [("kind", .quoted kind.name)]
  | .lowering (.unresolved property target) =>
    [("property", .quoted property), ("target", .plain target)]
  | .converted input output => [("input", .plain input), ("output", .plain output)]

/-- The names of all that an event carries, its message included. -/
def fieldNames (e : Event) : List String := "message" :: Entries.names e.fields

/-- The event as a log line. -/
def line (e : Event) : String :=
  let shown := e.fields.map fun (name, value) => " " ++ name ++ "=" ++ value.shown
  e.level.name ++ " " ++ e.target ++ ": " ++ e.message ++ String.join shown

end Event

end SchemaGrammar
