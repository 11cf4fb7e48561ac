import SchemaGrammar.Entries

/-!
# Schemas

The typed form of a schema document: which values a node admits, with the little that a grammar
fragment can express about them. Every structural problem of a document is found before a value of
this type exists, so whatever is built from a schema cannot fail.
-/

namespace SchemaGrammar

/-- The named string formats that have a token of their own. -/
inductive Format where
  | dateTime
  | date
  | email
  | uri
deriving DecidableEq

/-- What is known of a string's content. -/
inductive StringConstraint where
  | unconstrained
  /-- One of the given literals. -/
  | enum (literals : List String)
  /-- A regular expression, kept as written. -/
  | pattern (expression : String)
  | format (format : Format)
deriving DecidableEq

/-- The repetitions that a grammar can express; bounds that it cannot are dropped. -/
inductive Cardinality where
  | zeroOrMore
  | oneOrMore
  | bare
deriving DecidableEq

mutual
/-- A schema node. The properties of an object stand in declaration order. -/
inductive Schema where
  | null
  | boolean
  | integer
  | number
  | string (constraint : StringConstraint)
  | array (items : Schema) (cardinality : Cardinality)
  | object (properties : List (String × Property)) (additional : Additional)

/-- A declared member of an object. -/
inductive Property where
  /-- A reference to another definition, which is never followed. -/
  | ref (target : String)
  | typed (schema : Schema) (required : Bool)

/-- What an object admits besides its declared members. -/
inductive Additional where
  | closed
  | any
  | schema (schema : Schema)
end

/-- The seven kinds of schema node. -/
inductive Kind where
  | null
  | boolean
  | integer
  | number
  | string
  | array
  | object
deriving DecidableEq

/-- The name of a kind, as a document spells it. -/
def Kind.name : Kind → String
  | .null => "null"
  | .boolean => "boolean"
  | .integer => "integer"
  | .number => "number"
  | .string => "string"
  | .array => "array"
  | .object => "object"

/-- The kind of the given name. -/
def Kind.ofName? : String → Option Kind
  | "null" => some .null
  | "boolean" => some .boolean
  | "integer" => some .integer
  | "number" => some .number
  | "string" => some .string
  | "array" => some .array
  | "object" => some .object
  | _ => none

/-- The name of a format, as a document spells it. -/
def Format.name : Format → String
  | .dateTime => "date-time"
  | .date => "date"
  | .email => "email"
  | .uri => "uri"

/-- The format of the given name. -/
def Format.ofName? : String → Option Format
  | "date-time" => some .dateTime
  | "date" => some .date
  | "email" => some .email
  | "uri" => some .uri
  | _ => none

namespace Schema

/-- The kind of a node. -/
def kind : Schema → Kind
  | .null => .null
  | .boolean => .boolean
  | .integer => .integer
  | .number => .number
  | .string _ => .string
  | .array _ _ => .array
  | .object _ _ => .object

/-- The object with the given properties, a repeated name keeping its first place and its last
property. -/
def ofProperties (properties : List (String × Property)) (additional : Additional) : Schema :=
  .object (Entries.ofList properties) additional

/-- The object without properties. It admits nothing besides them, whatever was declared. -/
def emptyObject : Schema := .object [] .closed

end Schema

end SchemaGrammar
