import SchemaGrammar.Proofs.Keywords
import SchemaGrammar.Proofs.Structure

/-!
# Compiling in one pass

`OnePass.compile` goes from a document straight to text. It builds no schema: each keyword is read
where it is needed, the text of a node is put together from the texts of its parts, and the first
value of a wrong shape ends the descent. It is the reading of the format that the grammar text is
specified by. What a literal is, which values count as absent, how a lower bound is compared and
when a name is required it says for itself; with the lowering it has in common the documents, the
errors and the compact text by which these quote a value (`Document.text`).

The main result is that compiling in two passes, which lowers the whole document and only then
writes the schema, comes to the same text or to the same error. First each part that holds no node
is shown to say what the lowering says (`isFalsy_eq`, `stringText_eq`, `quantifierText_eq`,
`isRequired_eq`). Then the two descents are fused node by node: `fused` is the induction, and each
form of node has its own step (`array_eq`, `declared_eq`, `wildcard_eq`, `object_eq`), which assumes
the statement for the parts.
-/

namespace SchemaGrammar

namespace OnePass

/-! ## The text of a node -/

/-- A name or literal between quotes. -/
def quoted (s : String) : String := "\"" ++ s ++ "\""

/-- A value as a literal: a string is emitted raw, anything else as its compact text. -/
def literal : Document → String
  | .string s => s
  | value => value.text

/-- Whether a number equals a natural number, as numbers are compared: a fraction is multiplied
out. -/
def equals (k : Nat) : Number → Bool
  | .natural n => n.val == k
  | .negative _ => false
  | .float x => x.toRatio.1 == k * x.toRatio.2 && (!x.negative || k == 0)

/-- Whether a keyword with this value counts as absent. -/
def isFalsy : Document → Bool
  | .null => true
  | .bool b => !b
  | .number n => equals 0 n
  | .string s => s == ""
  | .list items => items.isEmpty
  | .object members => members.isEmpty

/-- The token of a named format; any other name says nothing about a string. -/
def formatToken : String → String
  | "date-time" => "<datetime>"
  | "date" => "<date>"
  | "email" => "<email>"
  | "uri" => "<uri>"
  | _ => "<string>"

/-- The token for a value of `format`: a name, or an object whose only member has a name and the
value null. -/
def formatText : Document → String
  | .string name => formatToken name
  | .object [(name, .null)] => formatToken name
  | _ => "<string>"

/-- The text of a string node: of `enum`, `pattern` and `format` the first that is there decides. -/
def stringText (members : List (String × Document)) : String :=
  match members.lookup "enum" with
  | some (.list items) =>
    "[" ++ " | ".intercalate (items.map fun item => quoted (literal item)) ++ "]"
  | some value => "[" ++ quoted (literal value) ++ "]"
  | none =>
    match members.lookup "pattern" with
    | some expression => "<pattern " ++ literal expression ++ ">"
    | none =>
      match members.lookup "format" with
      | some value => formatText value
      | none => "<string>"

/-- Whether `minItems` is the given number. It is zero by default, and a truth value counts as zero
or one. -/
def isLowerBound (k : Nat) : Option Document → Bool
  | none => k == 0
  | some (.bool b) => k == b.toNat
  | some (.number n) => equals k n
  | some _ => false

/-- What follows the items of an array: a star or a plus by the lower bound, and nothing where there
is an upper one. -/
def quantifierText (members : List (String × Document)) : String :=
  if (members.lookup "maxItems").all isFalsy then
    if isLowerBound 0 (members.lookup "minItems") then "*"
    else if isLowerBound 1 (members.lookup "minItems") then "+"
    else ""
  else ""

/-- Whether a value is the given name as a string. -/
def isName (name : String) : Document → Bool
  | .string s => s == name
  | _ => false

/-- Whether `required` is a list that holds the name; entries that are no strings are ignored. -/
def isRequired (members : List (String × Document)) (name : String) : Bool :=
  match members.lookup "required" with
  | some (.list items) => items.any (isName name)
  | _ => false

mutual
/-- The text of a node, by its `type`. -/
def node : Document → Except CompileError String
  | .object members =>
    match members.lookup "type" with
    | none => .error .missingType
    | some (.string "object") => object members
    | some (.string "array") => array members
    | some (.string "string") => .ok (stringText members)
    | some (.string "integer") => .ok "<integer>"
    | some (.string "number") => .ok "<number>"
    | some (.string "boolean") => .ok "<boolean>"
    | some (.string "null") => .ok "null"
    | some (.string name) => .error (.unsupportedType name)
    | some type => .error (.unsupportedType type.text)
  | value => .error (.invalidDefinition ("schema node " ++ value.text))
termination_by value => (sizeOf value, 2)

/-- The text of an array node: that of its items in brackets. -/
def array (members : List (String × Document)) : Except CompileError String :=
  match _h : members.lookup "items" with
  | none => .error .missingItems
  | some items => do
    let text ← node items
    return "[" ++ text ++ quantifierText members ++ "]"
termination_by (sizeOf (Document.object members), 1)
decreasing_by exact Prod.Lex.left _ _ (sizeOf_lt_of_lookup _h)

/-- The text of an object node: its members in braces, or a pair of braces if it declares no
properties. -/
def object (members : List (String × Document)) : Except CompileError String :=
  match _h : members.lookup "properties" with
  | none => .ok "\x7b\x7d"
  | some (.object []) => .ok "\x7b\x7d"
  | some (.object definitions) => do
    let texts ← declared (isRequired members) definitions
    let others ← wildcard members
    return "\x7b " ++ ", ".intercalate (texts ++ others) ++ " \x7d"
  | some value =>
    if isFalsy value then .ok "\x7b\x7d"
    else .error (.invalidDefinition ("properties " ++ value.text))
termination_by (sizeOf (Document.object members), 1)
decreasing_by
  · have hlt := sizeOf_lt_of_lookup _h
    rw [Document.object.sizeOf_spec definitions] at hlt
    exact Prod.Lex.left _ _ (by omega)
  · exact Prod.Lex.right _ (by omega)

/-- The members of declared properties in order, naming the property in which an error arises. -/
def declared (required : String → Bool) :
    List (String × Document) → Except CompileError (List String)
  | [] => .ok []
  | (name, definition) :: rest => do
    let text ← (property name (required name) definition).mapError (.inProperty name)
    let texts ← declared required rest
    return text :: texts
termination_by definitions => (sizeOf definitions, 0)

/-- The member of a property: a reference is a token, anything else is the name and the text of the
definition, with a mark if the property may be left out. -/
def property (name : String) (required : Bool) : Document → Except CompileError String
  | .object members =>
    if (members.lookup "$ref").isSome then .ok "<ref>"
    else do
      let text ← node (.object members)
      return quoted name ++ " : " ++ text ++ if required then "" else " | ε"
  | _ => .error (.invalidDefinition name)
termination_by definition => (sizeOf definition, 3)

/-- The member for what else an object admits, if `additionalProperties` says that it does. -/
def wildcard (members : List (String × Document)) : Except CompileError (List String) :=
  match _h : members.lookup "additionalProperties" with
  | none => .ok []
  | some value =>
    if isFalsy value then .ok []
    else
      match value with
      | .bool _ => .ok ["\"*\" : <any>"]
      | .object inner => do
        let text ← node (.object inner)
        return ["\"*\" : " ++ text]
      | other => .error (.invalidDefinition ("additionalProperties " ++ other.text))
termination_by (sizeOf (Document.object members), 0)
decreasing_by exact Prod.Lex.left _ _ (sizeOf_lt_of_lookup _h)
end

/-- The text of a whole document, whose root has to be an object of type `object`. -/
def compile : Document → Except CompileError String
  | .object members =>
    match members.lookup "type" with
    | some (.string "object") => object members
    | _ => .error (.invalidSchema "root schema must be an object type")
  | _ => .error (.invalidSchema "schema must be a mapping")

end OnePass

/-! ## The texts of schemas -/

/-- The grammar of a string is that of its constraint. -/
theorem Schema.grammar_string (constraint : StringConstraint) :
    (string constraint).grammar = String.ofList constraint.fragment := rfl

/-- The grammar of an array is that of its items with a quantifier, in brackets. -/
theorem Schema.grammar_array (items : Schema) (cardinality : Cardinality) :
    (array items cardinality).grammar =
      "[" ++ items.grammar ++ String.ofList cardinality.quantifier ++ "]" := by
  rw [← String.toList_inj]
  simp [grammar, fragment_array]

/-- A named property as a member of its object. -/
def memberText (entry : String × Property) : String := String.ofList (entry.2.member entry.1)

/-- The member for what else an object admits, if there is one. -/
def Additional.memberTexts : Additional → List String
  | .closed => []
  | .any => ["\"*\" : <any>"]
  | .schema value => ["\"*\" : " ++ value.grammar]

/-- A typed property is written as its name, its grammar and its mark. -/
theorem memberText_typed (name : String) (schema : Schema) (required : Bool) :
    memberText (name, .typed schema required) =
      OnePass.quoted name ++ " : " ++ schema.grammar ++ if required then "" else " | ε" := by
  rw [← String.toList_inj]
  cases required <;>
    simp [memberText, Property.member, OnePass.quoted, inQuotes, optionalMark, Schema.grammar]

/-- The members after the first, each with its separator, as texts. -/
theorem intercalate_memberText (text : String) (properties : List (String × Property))
    (additional : Additional) :
    (", ".intercalate (text :: (properties.map memberText ++ additional.memberTexts))).toList =
      text.toList ++ furtherMembers properties ++ additional.member := by
  induction properties generalizing text with
  | nil =>
    cases additional <;>
      simp [Additional.memberTexts, Additional.member, furtherMembers, Schema.grammar,
        memberSeparator, inQuotes, wildcardName]
  | cons property properties ih =>
    rw [List.map_cons, List.cons_append, String.intercalate_cons_cons]
    simp [ih, furtherMembers, memberText, memberSeparator]

/-- The text of an object that has properties: its members with separators between them. -/
theorem Schema.grammar_object {properties : List (String × Property)} (h : properties ≠ [])
    (additional : Additional) :
    (object properties additional).grammar = "\x7b " ++
      ", ".intercalate (properties.map memberText ++ additional.memberTexts) ++ " \x7d" := by
  cases properties with
  | nil => exact absurd rfl h
  | cons property properties =>
    obtain ⟨name, property⟩ := property
    rw [← String.toList_inj]
    simp only [List.map_cons, List.cons_append, String.toList_append, intercalate_memberText]
    simp [grammar, fragment_object_cons, memberText]

namespace OnePass

/-! ## Parts that hold no node -/

/-- Literals are the texts that the lowering keeps. -/
theorem literal_eq (value : Document) : literal value = value.literalText := by
  cases value <;> rfl

/-- Numbers that equal zero are the zeros. -/
theorem equals_zero (n : Number) : equals 0 n = n.isZero := by
  cases n with
  | natural n => rfl
  | negative n => rfl
  | float x =>
    rw [Bool.eq_iff_iff, Number.isZero, x.isZero_iff]
    simp [equals]

/-- Numbers that equal one are the natural number and the float. -/
theorem equals_one (n : Number) : equals 1 n = n.isOne := by
  cases n with
  | natural n => rfl
  | negative n => rfl
  | float x =>
    rw [Bool.eq_iff_iff, Number.isOne, x.isOne_iff]
    simp [equals]

/-- The values that count as absent are those that are not truthy. -/
theorem isFalsy_eq (value : Document) : isFalsy value = !value.truthy := by
  cases value with
  | number n => rw [isFalsy, equals_zero, Document.truthy, Bool.not_not]
  | string s => simp [isFalsy, Document.truthy, bne]
  | null | bool | list | object => simp [isFalsy, Document.truthy]

/-- A keyword counts as absent if it is not declared. -/
theorem all_isFalsy_eq (members : List (String × Document)) (key : String) :
    (members.lookup key).all isFalsy = !declares members key := by
  unfold declares
  cases members.lookup key with
  | none => rfl
  | some value => exact isFalsy_eq value

/-- A name that is none of the four says nothing. -/
theorem formatToken_eq (name : String) :
    formatToken name = (Schema.string
      (match Format.ofName? name with
        | some format => .format format
        | none => .unconstrained)).grammar := by
  unfold formatToken
  split
  · rfl
  · rfl
  · rfl
  · rfl
  · next hdateTime hdate hemail huri =>
    have hnone : Format.ofName? name = none := by
      unfold Format.ofName?
      split <;> simp_all
    rw [hnone]
    rfl

/-- The format text is the grammar of the format that the value names, or of any string. -/
theorem formatText_eq (value : Document) :
    formatText value = (Schema.string
      (match formatOf? value with
        | some format => .format format
        | none => .unconstrained)).grammar := by
  unfold formatText
  split
  · exact formatToken_eq _
  · exact formatToken_eq _
  · next hstring hobject =>
    have hnone : formatOf? value = none := by
      unfold formatOf?
      split
      · next name => exact absurd rfl (hstring name)
      · next name => exact absurd rfl (hobject name)
      · rfl
    rw [hnone]
    rfl

/-- The alternatives of an enumeration are its quoted literals with bars between them. -/
theorem alternatives_eq (literals : List String) :
    alternatives literals = (" | ".intercalate (literals.map quoted)).toList := by
  induction literals with
  | nil => rfl
  | cons literal literals ih =>
    cases literals with
    | nil => simp [alternatives, quoted, inQuotes]
    | cons next literals =>
      rw [alternatives, ih]
      · simp [quoted, inQuotes]
      · simp

/-- The grammar of an enumeration is its literals, quoted and separated by bars. -/
theorem grammar_enum (literals : List String) :
    (Schema.string (.enum literals)).grammar =
      "[" ++ " | ".intercalate (literals.map quoted) ++ "]" := by
  rw [← String.toList_inj, Schema.grammar_string, StringConstraint.fragment_enum, alternatives_eq]
  simp

/-- The grammar of a pattern is the expression as it stands. -/
theorem grammar_pattern (expression : String) :
    (Schema.string (.pattern expression)).grammar = "<pattern " ++ expression ++ ">" := by
  rw [← String.toList_inj, Schema.grammar_string, StringConstraint.fragment_pattern]
  simp

/-- String nodes are written by what the lowering finds them to say. -/
theorem stringText_eq (members : List (String × Document)) :
    stringText members = (Schema.string (stringConstraint members)).grammar := by
  unfold stringText stringConstraint
  cases members.lookup "enum" with
  | some values =>
    cases values with
    | list items => simp only [enumLiterals, grammar_enum, List.map_map, literal_eq]; rfl
    | null | bool | number | string | object =>
      simp only [enumLiterals, grammar_enum, literal_eq]; rfl
  | none =>
    cases members.lookup "pattern" with
    | some expression => simp only [grammar_pattern, literal_eq]
    | none =>
      cases members.lookup "format" with
      | some value => exact formatText_eq value
      | none => rfl

/-- Arrays are quantified by the cardinality that the lowering finds. -/
theorem quantifierText_eq (members : List (String × Document)) :
    quantifierText members = String.ofList (cardinalityOf members).quantifier := by
  unfold quantifierText cardinalityOf
  rw [maxItems_eq_declares, all_isFalsy_eq]
  cases declares members "maxItems" with
  | true => rfl
  | false =>
    cases members.lookup "minItems" with
    | none => rfl
    | some value =>
      cases value with
      | bool b => cases b <;> rfl
      | number n =>
        simp only [isLowerBound, equals_zero, equals_one]
        cases n.isZero with
        | true => rfl
        | false => cases n.isOne <;> rfl
      | null | string | list | object => rfl

/-- The strings of a list, searched for one of them. -/
theorem any_isName (items : List Document) (name : String) :
    items.any (isName name) = (items.filterMap Document.asString?).contains name := by
  induction items with
  | nil => rfl
  | cons item items ih =>
    rw [List.any_cons, ih]
    cases item with
    | string s =>
      show ((s == name) || _) = List.contains (s :: items.filterMap _) name
      rw [List.contains_cons, Bool.beq_comm]
    | null | bool | number | list | object => rfl

/-- The names that count as required are those that the lowering collects. -/
theorem isRequired_eq (members : List (String × Document)) (name : String) :
    isRequired members name = (requiredNames members).contains name := by
  unfold isRequired requiredNames
  cases members.lookup "required" with
  | none => rfl
  | some value =>
    cases value with
    | list items => exact any_isName items name
    | null | bool | number | string | object => rfl

/-! ## Fusion -/

/-- The text of a node in one pass is that of its schema. -/
def Fused (value : Document) : Prop := node value = (lowerNode value).result.map Schema.grammar

/-- The step for an array, from the items. -/
theorem array_eq {members : List (String × Document)}
    (h : ∀ items, members.lookup "items" = some items → Fused items) :
    array members = ((lowerItems members).bind fun items =>
      .pure (.array items (cardinalityOf members))).result.map Schema.grammar := by
  rw [array, lowerItems_eq, Lowering.result_bind_pure]
  split
  · next hnone =>
    rw [hnone]
    rfl
  · next items hitems =>
    rw [hitems, Option.elim_some, h items hitems]
    cases (lowerNode items).result with
    | error e => rfl
    | ok schema =>
      show Except.ok _ = Except.ok _
      rw [Schema.grammar_array, quantifierText_eq]

/-- The step for a property, from its definition. -/
theorem property_eq {definition : Document} (h : Fused definition) (name : String)
    (required : Bool) :
    property name required definition =
      (propertyWith name required (lowerNode definition) definition).result.map
        fun property => memberText (name, property) := by
  cases definition with
  | object members =>
    rw [property]
    cases href : members.lookup "$ref" with
    | some target =>
      simp only [propertyWith, href, Option.isSome_some, if_true]
      rfl
    | none =>
      rw [result_propertyWith href, h, Option.isSome_none, if_neg Bool.false_ne_true]
      cases (lowerNode (.object members)).result with
      | error e => rfl
      | ok schema =>
        show Except.ok _ = Except.ok (memberText (name, .typed schema required))
        rw [memberText_typed]
  | null | bool | number | string | list =>
    rw [property]
    · rfl
    · intro members hobject
      cases hobject

/-- Declared properties are written in order. The induction is on the definitions; the first error
ends both descents. -/
theorem declared_eq {members definitions : List (String × Document)}
    (h : ∀ name definition, (name, definition) ∈ definitions → Fused definition) :
    declared (isRequired members) definitions =
      (lowerDefinitions (requiredNames members) definitions).result.map (List.map memberText) := by
  induction definitions with
  | nil =>
    rw [declared]
    rfl
  | cons first rest ih =>
    obtain ⟨name, definition⟩ := first
    have hrest := ih fun n d hmem => h n d (List.mem_cons_of_mem _ hmem)
    rw [declared, property_eq (h name definition List.mem_cons_self), hrest, isRequired_eq,
      result_lowerDefinitions_cons]
    cases (propertyWith name ((requiredNames members).contains name) (lowerNode definition)
      definition).result with
    | error e => rfl
    | ok property => cases (lowerDefinitions (requiredNames members) rest).result <;> rfl

/-- The step for what else an object admits, from the value of `additionalProperties`. -/
theorem wildcard_eq {members : List (String × Document)}
    (h : ∀ value, members.lookup "additionalProperties" = some value → Fused value) :
    wildcard members = (lowerAdditional members).result.map Additional.memberTexts := by
  rw [wildcard]
  split
  · next hnone =>
    rw [lowerAdditional_eq, hnone]
    rfl
  · next value hvalue =>
    rw [lowerAdditional_of_lookup hvalue, isFalsy_eq]
    unfold additionalWith
    cases value.truthy with
    | false => rfl
    | true =>
      cases value with
      | object inner =>
        show (node (.object inner) >>= fun text => pure ["\"*\" : " ++ text]) =
          ((lowerNode (.object inner)).bind fun schema =>
            .pure (Additional.schema schema)).result.map Additional.memberTexts
        rw [h _ hvalue, Lowering.result_bind_pure]
        cases (lowerNode (.object inner)).result <;> rfl
      | null | bool | number | string | list => rfl

/-- The step for an object, from its definitions and from what else it admits. -/
theorem object_eq {members : List (String × Document)}
    (hdefinitions : ∀ definitions, members.lookup "properties" = some (.object definitions) →
      ∀ name definition, (name, definition) ∈ definitions → Fused definition)
    (hadditional : ∀ value, members.lookup "additionalProperties" = some value → Fused value) :
    object members = (lowerObject members).result.map Schema.grammar := by
  have hempty : declares members "properties" = false →
      Except.ok "\x7b\x7d" = (lowerObject members).result.map Schema.grammar := by
    intro h
    rw [lowerObject_of_not_declares h]
    rfl
  rw [object]
  split
  · next h => exact hempty (by simp [declares, h])
  · next h => exact hempty (by simp [declares, h, Document.truthy])
  · next definitions hne h =>
    rw [declared_eq (hdefinitions definitions h), wildcard_eq hadditional,
      result_lowerObject_of_definitions h hne]
    cases hps : (lowerDefinitions (requiredNames members) definitions).result with
    | error e => rfl
    | ok properties =>
      cases (lowerAdditional members).result with
      | error e => rfl
      | ok additional =>
        have hproperties : properties ≠ [] := by
          rintro rfl
          have hnames := names_of_lowerDefinitions hps
          exact hne (List.map_eq_nil_iff.1 hnames.symm)
        show Except.ok _ = Except.ok _
        rw [Schema.grammar_object hproperties]
  · next value _ hobject h =>
    rw [isFalsy_eq]
    cases ht : value.truthy with
    | true =>
      rw [lowerObject_of_other h ht hobject]
      rfl
    | false => exact hempty (by simp [declares, h, ht])

/-- A node is fused when its parts are, by what its `type` is. -/
theorem fused_object {members : List (String × Document)}
    (hitems : ∀ items, members.lookup "items" = some items → Fused items)
    (hdefinitions : ∀ definitions, members.lookup "properties" = some (.object definitions) →
      ∀ name definition, (name, definition) ∈ definitions → Fused definition)
    (hadditional : ∀ value, members.lookup "additionalProperties" = some value → Fused value) :
    Fused (.object members) := by
  rw [Fused, node]
  split
  · next h => simp [lowerNode, kindOf, h, Lowering.fail, Except.map]
  · next h =>
    rw [object_eq hdefinitions hadditional, lowerNode_of_object h, Lowering.result_completed]
  · next h => rw [array_eq hitems, lowerNode_of_array h, Lowering.result_completed]
  · next h =>
    rw [stringText_eq, lowerNode_of_string h]
    rfl
  · next h =>
    rw [lowerNode, kindOf_of_type .integer h]
    rfl
  · next h =>
    rw [lowerNode, kindOf_of_type .number h]
    rfl
  · next h =>
    rw [lowerNode, kindOf_of_type .boolean h]
    rfl
  · next h =>
    rw [lowerNode, kindOf_of_type .null h]
    rfl
  · next name hobject harray hstring hinteger hnumber hboolean hnull h =>
    have hname : Kind.ofName? name = none := by
      refine ofName?_eq_none fun kind hkind => ?_
      subst hkind
      cases kind <;> simp_all [Kind.name]
    simp [lowerNode, kindOf, h, hname, Lowering.fail, Except.map]
  · next type _ _ _ _ _ _ _ hstring h =>
    cases type with
    | string name => exact absurd rfl (hstring name)
    | null | bool | number | list | object =>
      simp [lowerNode, kindOf, h, Lowering.fail, Except.map]

/-- The text of a value in one pass is that of its schema. -/
theorem fused (value : Document) : Fused value := by
  induction value using Document.node_induction with
  | node members ih =>
    exact fused_object (fun items h => ih items (.keyword h))
      (fun definitions h name definition hmem => ih definition (.definition h hmem))
      fun value h => ih value (.keyword h)
  | other value hother =>
    rw [Fused, node, lowerNode]
    · rfl
    · exact hother
    · exact hother

end OnePass

/-- **Two passes come to the same as one.** Lowering a whole document to a schema and then writing
the schema gives the text that one descent through the document writes, and where that descent stops
at a value of a wrong shape, the same error, named by the same properties. -/
theorem compile_eq_onePass (document : Document) :
    compile document = OnePass.compile document := by
  cases document with
  | object members =>
    rw [compile, OnePass.compile]
    split
    · next h =>
      rw [lowerRoot_of_object h,
        OnePass.object_eq fun _ _ _ definition _ => OnePass.fused definition]
      exact fun value _ => OnePass.fused value
    · next h =>
      rw [result_lowerRoot_of_ne h]
      rfl
  | null | bool | number | string | list => rfl

end SchemaGrammar
