import SchemaGrammar.Document.Text
import SchemaGrammar.Schema.Lowering

/-!
# From documents to schemas

The type of a node decides which of its other keywords are consulted, and in which order; the first
value of a wrong shape that is met ends the lowering. A keyword is looked up by its first
occurrence. `lowerItems`, `lowerProperties` and `lowerAdditional` walk the members of a node up to
the keyword they are named for and lower its value there, which keeps the whole descent structural
on the document.
-/

namespace SchemaGrammar

/-- The format that a value names: one of the four names, or an object whose only member has such a
name and the value null. -/
def formatOf? : Document → Option Format
  | .string name => Format.ofName? name
  | .object [(name, .null)] => Format.ofName? name
  | _ => none

/-- The literals of an `enum` value: the texts of its elements, or its own when it is no list. -/
def enumLiterals : Document → List String
  | .list items => items.map Document.literalText
  | other => [other.literalText]

/-- What a string node says about its content. Of `enum`, `pattern` and `format` the first that is
present decides; an unknown format says nothing. -/
def stringConstraint (node : List (String × Document)) : StringConstraint :=
  match node.lookup "enum" with
  | some values => .enum (enumLiterals values)
  | none =>
    match node.lookup "pattern" with
    | some expression => .pattern expression.literalText
    | none =>
      match (node.lookup "format").bind formatOf? with
      | some format => .format format
      | none => .unconstrained

/-- How often the items of an array node repeat. Only the lower bounds zero and one without an
upper bound can be expressed; a truth value counts as one of them, and an upper bound counts only
if it is truthy. -/
def cardinalityOf (node : List (String × Document)) : Cardinality :=
  if ((node.lookup "maxItems").map Document.truthy).getD false then .bare
  else
    match node.lookup "minItems" with
    | none => .zeroOrMore
    | some (.bool b) => if b then .oneOrMore else .zeroOrMore
    | some (.number n) => if n.isZero then .zeroOrMore else if n.isOne then .oneOrMore else .bare
    | some _ => .bare

/-- The names listed under `required`: the strings of a list, and none if there is no list. -/
def requiredNames (node : List (String × Document)) : List String :=
  match node.lookup "required" with
  | some (.list items) => items.filterMap Document.asString?
  | _ => []

/-- The kind that a node's `type` names. -/
def kindOf (node : List (String × Document)) : Except CompileError Kind :=
  match node.lookup "type" with
  | none => .error .missingType
  | some (.string name) =>
    match Kind.ofName? name with
    | some kind => .ok kind
    | none => .error (.unsupportedType name)
  | some other => .error (.unsupportedType other.text)

/-- The object node with the given properties and the given lowering of what else it admits. An
object that declares no properties admits nothing else, and what it says about that is not
consulted. -/
def objectWith (properties : Lowering (Option (List (String × Property))))
    (additional : Lowering Additional) : Lowering Schema :=
  properties.bind fun declared =>
    match declared with
    | none => .pure .emptyObject
    | some properties => additional.bind fun rest => .pure (.object properties rest)

/-- The property with the given definition, whose lowering as a node is given too. A reference is
kept as it is, whatever else stands beside it. -/
def propertyWith (name : String) (required : Bool) (lowered : Lowering Schema) :
    Document → Lowering Property
  | .object node =>
    match node.lookup "$ref" with
    | some target =>
      (Lowering.step (.unresolved name target.literalText)).bind fun _ =>
        .pure (.ref target.literalText)
    | none => lowered.bind fun schema => .pure (.typed schema required)
  | _ => .fail (.invalidDefinition name)

/-- What a value of `additionalProperties` admits, given its lowering as a node. -/
def additionalWith (lowered : Lowering Schema) (value : Document) : Lowering Additional :=
  if value.truthy then
    match value with
    | .bool _ => .pure .any
    | .object _ => lowered.bind fun schema => .pure (.schema schema)
    | other => .fail (.invalidDefinition ("additionalProperties " ++ other.text))
  else .pure .closed

mutual
/-- Lowers a node to the schema that its type and keywords describe. -/
def lowerNode : Document → Lowering Schema
  | .object node =>
    match kindOf node with
    | .error e => .fail e
    | .ok .object =>
      (objectWith (lowerProperties (requiredNames node) node) (lowerAdditional node)).completed
    | .ok .array =>
      ((lowerItems node).bind fun items => .pure (.array items (cardinalityOf node))).completed
    | .ok .string => (Lowering.pure (.string (stringConstraint node))).completed
    | .ok .integer => (Lowering.pure .integer).completed
    | .ok .number => (Lowering.pure .number).completed
    | .ok .boolean => (Lowering.pure .boolean).completed
    | .ok .null => (Lowering.pure .null).completed
  | other => .fail (.invalidDefinition ("schema node " ++ other.text))
termination_by structural node => node

/-- Lowers the node under `items`, which an array has to have. -/
def lowerItems : List (String × Document) → Lowering Schema
  | [] => .fail .missingItems
  | (key, value) :: rest => if key = "items" then lowerNode value else lowerItems rest
termination_by structural node => node

/-- Lowers the definitions under `properties`; none if there is no such keyword or its value does
not count as declared. -/
def lowerProperties (required : List String) :
    List (String × Document) → Lowering (Option (List (String × Property)))
  | [] => .pure none
  | (key, value) :: rest =>
    if key = "properties" then
      if value.truthy then
        match value with
        | .object definitions =>
          (lowerDefinitions required definitions).bind fun properties => .pure (some properties)
        | other => .fail (.invalidDefinition ("properties " ++ other.text))
      else .pure none
    else lowerProperties required rest
termination_by structural node => node

/-- Lowers property definitions in order, naming the property in which an error arises. -/
def lowerDefinitions (required : List String) :
    List (String × Document) → Lowering (List (String × Property))
  | [] => .pure []
  | (name, definition) :: rest =>
    ((propertyWith name (required.contains name) (lowerNode definition) definition).inProperty
      name).bind fun property =>
        (lowerDefinitions required rest).bind fun properties =>
          .pure ((name, property) :: properties)
termination_by structural definitions => definitions

/-- Lowers the value under `additionalProperties`. -/
def lowerAdditional : List (String × Document) → Lowering Additional
  | [] => .pure .closed
  | (key, value) :: rest =>
    if key = "additionalProperties" then additionalWith (lowerNode value) value
    else lowerAdditional rest
termination_by structural node => node
end

/-- Lowers a whole document, whose root has to be an object of type `object`. -/
def lowerRoot : Document → Lowering Schema
  | .object node =>
    match node.lookup "type" with
    | some (.string "object") =>
      objectWith (lowerProperties (requiredNames node) node) (lowerAdditional node)
    | _ => .fail (.invalidSchema "root schema must be an object type")
  | _ => .fail (.invalidSchema "schema must be a mapping")

end SchemaGrammar
