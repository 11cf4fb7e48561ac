import SchemaGrammar.Grammar.Fragment

/-!
# Induction on schemas, and the equations of their text

Schemas, properties and what objects admit are declared together, with lists of properties between
them. `Schema.induction` is the induction that proofs about schemas use: an object may assume the
statement for the schema of each typed property and for the schema of what else it admits. The
text of a schema unfolds by the `fragment_` equations.

A text shows neither the names and targets of references nor what an object without properties
admits. `Schema.redact` replaces these, and `fragment_redact` says that the text stays.
-/

namespace SchemaGrammar

/-- The schema of a typed property is smaller than the list that holds the property. -/
theorem sizeOf_lt_of_mem_typed {properties : List (String × Property)} {name : String}
    {schema : Schema} {required : Bool} (h : (name, Property.typed schema required) ∈ properties) :
    sizeOf schema < sizeOf properties := by
  have hmem := List.sizeOf_lt_of_mem h
  simp only [Prod.mk.sizeOf_spec, Property.typed.sizeOf_spec] at hmem
  omega

/-- Induction on schemas, through the lists of properties. -/
theorem Schema.induction {motive : Schema → Prop} (null : motive .null) (boolean : motive .boolean)
    (integer : motive .integer) (number : motive .number)
    (string : ∀ constraint, motive (.string constraint))
    (array : ∀ items cardinality, motive items → motive (.array items cardinality))
    (object : ∀ properties additional,
      (∀ name schema required, (name, Property.typed schema required) ∈ properties →
        motive schema) →
      (∀ schema, additional = .schema schema → motive schema) →
      motive (.object properties additional))
    (schema : Schema) : motive schema := by
  induction hn : sizeOf schema using Nat.strongRecOn generalizing schema with
  | ind n ih =>
    subst hn
    cases schema with
    | null => exact null
    | boolean => exact boolean
    | integer => exact integer
    | number => exact number
    | string constraint => exact string constraint
    | array items cardinality =>
      refine array items cardinality (ih _ ?_ items rfl)
      rw [Schema.array.sizeOf_spec]
      omega
    | object properties additional =>
      refine object properties additional (fun name schema required h => ih _ ?_ schema rfl)
        fun schema h => ih _ ?_ schema rfl
      · have := sizeOf_lt_of_mem_typed h
        rw [Schema.object.sizeOf_spec]
        omega
      · rw [Schema.object.sizeOf_spec, h, Additional.schema.sizeOf_spec]
        omega

/-! ## The text of a schema, by its form -/

/-- The fragment of an enumeration is its alternatives in brackets. -/
theorem StringConstraint.fragment_enum (literals : List String) :
    (enum literals).fragment = '[' :: alternatives literals ++ [']'] := rfl

/-- The fragment of a pattern is the expression in angle brackets. -/
theorem StringConstraint.fragment_pattern (expression : String) :
    (pattern expression).fragment = '<' :: ("pattern ".toList ++ expression.toList) ++ ['>'] := rfl

namespace Schema

/-- The fragment of a string is that of its constraint. -/
theorem fragment_string (constraint : StringConstraint) :
    (string constraint).fragment = constraint.fragment := rfl

/-- The fragment of an array is that of its items with a quantifier, in brackets. -/
theorem fragment_array (items : Schema) (cardinality : Cardinality) :
    (array items cardinality).fragment =
      '[' :: items.fragment ++ cardinality.quantifier ++ [']'] := rfl

/-- The fragment of an object without properties is a pair of braces, whatever it admits. -/
theorem fragment_object_nil (additional : Additional) :
    (object [] additional).fragment = ['\x7b', '\x7d'] := rfl

/-- The fragment of an object with properties is its members in braces. -/
theorem fragment_object_cons (name : String) (property : Property)
    (properties : List (String × Property)) (additional : Additional) :
    (object ((name, property) :: properties) additional).fragment =
      ['\x7b', ' '] ++ property.member name ++ furtherMembers properties ++ additional.member ++
        [' ', '\x7d'] := rfl

end Schema

/-! ## What the text does not show -/

mutual
/-- The schema with `reference` applied to the name and target of each reference, and `bare` to what
each object without properties admits. -/
def Schema.redact (reference : String → String → String × String)
    (bare : Additional → Additional) : Schema → Schema
  | .null => .null
  | .boolean => .boolean
  | .integer => .integer
  | .number => .number
  | .string constraint => .string constraint
  | .array items cardinality => .array (items.redact reference bare) cardinality
  | .object [] additional => .object [] (bare (additional.redact reference bare))
  | .object ((name, property) :: properties) additional =>
    .object (property.redact reference bare name :: redactProperties reference bare properties)
      (additional.redact reference bare)

/-- `Schema.redact` for a named property. -/
def Property.redact (reference : String → String → String × String)
    (bare : Additional → Additional) (name : String) : Property → String × Property
  | .ref target => ((reference name target).1, .ref (reference name target).2)
  | .typed schema required => (name, .typed (schema.redact reference bare) required)

/-- `Schema.redact` for what else an object admits. -/
def Additional.redact (reference : String → String → String × String)
    (bare : Additional → Additional) : Additional → Additional
  | .closed => .closed
  | .any => .any
  | .schema schema => .schema (schema.redact reference bare)

/-- `Schema.redact` for a list of properties. -/
def redactProperties (reference : String → String → String × String)
    (bare : Additional → Additional) : List (String × Property) → List (String × Property)
  | [] => []
  | (name, property) :: properties =>
    property.redact reference bare name :: redactProperties reference bare properties
end

section
variable {reference : String → String → String × String} {bare : Additional → Additional}

/-- A redacted property has the same member, if its schema has the same fragment. -/
theorem member_redact (name : String) (property : Property)
    (h : ∀ schema required, property = .typed schema required →
      (schema.redact reference bare).fragment = schema.fragment) :
    (property.redact reference bare name).2.member (property.redact reference bare name).1 =
      property.member name := by
  cases property with
  | ref target => rfl
  | typed schema required => simp only [Property.redact, Property.member, h schema required rfl]

/-- Redacted properties have the same members, if their schemas have the same fragments. -/
theorem furtherMembers_redact {properties : List (String × Property)}
    (h : ∀ name schema required, (name, Property.typed schema required) ∈ properties →
      (schema.redact reference bare).fragment = schema.fragment) :
    furtherMembers (redactProperties reference bare properties) = furtherMembers properties := by
  induction properties with
  | nil => rfl
  | cons first properties ih =>
    obtain ⟨name, property⟩ := first
    have hfirst := member_redact name property
      fun schema required he => h name schema required (by simp [he])
    have hrest := ih fun n schema required hmem =>
      h n schema required (List.mem_cons_of_mem _ hmem)
    simp only [redactProperties, furtherMembers, hfirst, hrest]

/-- Redacting a schema does not change its text. -/
theorem fragment_redact (schema : Schema) :
    (schema.redact reference bare).fragment = schema.fragment := by
  induction schema using Schema.induction with
  | null | boolean | integer | number | string => rfl
  | array items cardinality ih =>
    rw [Schema.redact, Schema.fragment_array, ih, Schema.fragment_array]
  | object properties additional ihp iha =>
    cases properties with
    | nil => rfl
    | cons first properties =>
      obtain ⟨name, property⟩ := first
      have hfirst := member_redact name property
        fun schema required he => ihp name schema required (by simp [he])
      have hrest := furtherMembers_redact fun n schema required hmem =>
        ihp n schema required (List.mem_cons_of_mem _ hmem)
      have hadditional : (additional.redact reference bare).member = additional.member := by
        cases additional with
        | closed | any => rfl
        | schema schema => simp only [Additional.redact, Additional.member, iha schema rfl]
      rw [Schema.redact, Schema.fragment_object_cons, Schema.fragment_object_cons, hfirst, hrest,
        hadditional]

end

end SchemaGrammar
