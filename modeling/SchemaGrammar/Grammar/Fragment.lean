import SchemaGrammar.Schema.OfDocument

/-!
# Grammar fragments

The text of a schema: a token for a primitive, brackets with a quantifier around the items of an
array, and braces around the members of an object. Names, literals and patterns stand in the text
as they are, without escapes.
-/

namespace SchemaGrammar

/-- What follows the fragment of a property that is not required. -/
def optionalMark : List Char := [' ', '|', ' ', 'ε']

/-- What stands between two members of an object. -/
def memberSeparator : List Char := [',', ' ']

/-- A name or literal between quotes. -/
def inQuotes (s : String) : List Char := '"' :: s.toList ++ ['"']

/-- The token of a named format. -/
def Format.token : Format → List Char
  | .dateTime => "<datetime>".toList
  | .date => "<date>".toList
  | .email => "<email>".toList
  | .uri => "<uri>".toList

/-- The literals of an enumeration with bars between them. -/
def alternatives : List String → List Char
  | [] => []
  | [literal] => inQuotes literal
  | literal :: literals => inQuotes literal ++ [' ', '|', ' '] ++ alternatives literals

/-- The fragment of a string node. -/
def StringConstraint.fragment : StringConstraint → List Char
  | .unconstrained => "<string>".toList
  | .enum literals => '[' :: alternatives literals ++ [']']
  | .pattern expression => "<pattern ".toList ++ expression.toList ++ ['>']
  | .format named => named.token

/-- The quantifier after the items of an array. -/
def Cardinality.quantifier : Cardinality → List Char
  | .zeroOrMore => ['*']
  | .oneOrMore => ['+']
  | .bare => []

/-- The token of a reference. It does not show the target. -/
def refToken : List Char := "<ref>".toList

/-- The name that stands for any undeclared member. -/
def wildcardName : String := "*"

mutual
/-- The fragment of a schema. An object without properties is a pair of braces, whatever else it
admits. -/
def Schema.fragment : Schema → List Char
  | .null => "null".toList
  | .boolean => "<boolean>".toList
  | .integer => "<integer>".toList
  | .number => "<number>".toList
  | .string constraint => constraint.fragment
  | .array items cardinality => '[' :: items.fragment ++ cardinality.quantifier ++ [']']
  | .object [] _ => ['\x7b', '\x7d']
  | .object ((name, property) :: properties) additional =>
    ['\x7b', ' '] ++ property.member name ++ furtherMembers properties ++ additional.member ++
      [' ', '\x7d']

/-- A property as a member of its object. -/
def Property.member (name : String) : Property → List Char
  | .ref _ => refToken
  | .typed schema required =>
    inQuotes name ++ [' ', ':', ' '] ++ schema.fragment ++ if required then [] else optionalMark

/-- The members after the first, each with its separator. -/
def furtherMembers : List (String × Property) → List Char
  | [] => []
  | (name, property) :: properties =>
    memberSeparator ++ property.member name ++ furtherMembers properties

/-- The member for what an object admits besides its properties, with its separator. -/
def Additional.member : Additional → List Char
  | .closed => []
  | .any => memberSeparator ++ inQuotes wildcardName ++ [' ', ':', ' '] ++ "<any>".toList
  | .schema schema => memberSeparator ++ inQuotes wildcardName ++ [' ', ':', ' '] ++ schema.fragment
end

/-- The grammar text of a schema. -/
def Schema.grammar (schema : Schema) : String := String.ofList schema.fragment

/-- The grammar text of a document, or why it has none. -/
def compile (document : Document) : Except CompileError String :=
  (lowerRoot document).result.map Schema.grammar

end SchemaGrammar
