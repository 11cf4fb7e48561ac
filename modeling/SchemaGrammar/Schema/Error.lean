/-!
# Compile errors

Why a document is not a schema. A fault below a property is wrapped once for each property on the
way to it, so an error carries the route to its cause.
-/

namespace SchemaGrammar

/-- Why a document is not a schema. -/
inductive CompileError where
  /-- The root is not an object, or is not of type `object`. -/
  | invalidSchema (detail : String)
  | missingType
  | unsupportedType (name : String)
  | missingItems
  /-- A value that should be a schema node, or a map of them, is something else. -/
  | invalidDefinition (subject : String)
  /-- The definition of the named property failed. -/
  | inProperty (name : String) (cause : CompileError)
deriving DecidableEq

namespace CompileError

/-- The text of the outermost error. -/
def message : CompileError → String
  | .invalidSchema detail => "invalid schema: " ++ detail
  | .missingType => "missing type in definition"
  | .unsupportedType name => "unsupported type: " ++ name
  | .missingItems => "array definition missing items"
  | .invalidDefinition subject => "invalid definition for " ++ subject
  | .inProperty name _ => "error processing property '" ++ name ++ "'"

/-- The innermost error. -/
def rootCause : CompileError → CompileError
  | .inProperty _ cause => cause.rootCause
  | other => other

/-- The property names on the way to the innermost error, outermost first. -/
def propertyPath : CompileError → List String
  | .inProperty name cause => name :: cause.propertyPath
  | _ => []

/-- The texts of the error and its causes, outermost first. -/
def chain : CompileError → List String
  | .inProperty name cause => message (.inProperty name cause) :: cause.chain
  | other => [other.message]

end CompileError

end SchemaGrammar
