import Mathlib.Data.List.Nodup
import SchemaGrammar.Proofs.Keywords
import SchemaGrammar.Proofs.Structure
import SchemaGrammar.Source

/-!
# Schemas as documents

Lowering forgets much of a document, but its image is easy to describe. A schema is `Normal` when no
object in it repeats a property name and no object without properties admits anything besides them.
`Schema.raise` writes any schema as a document, and the main result says that the two fit together:
a normal schema is what its document is lowered to, exactly and with its order, and whatever a
document is lowered to is normal.

The first half needs `required` to be read back name by name, which is where distinct names are used
(`contains_requiredProperties`). The second needs the names of the document to be distinct, as they
are in every document that is read.
-/

namespace SchemaGrammar

/-! ## Normal schemas -/

mutual
/-- In every object of the schema the property names are distinct, and an object without properties
admits nothing besides them. -/
def Schema.Normal : Schema → Prop
  | .array items _ => items.Normal
  | .object properties additional =>
    (Entries.names properties).Nodup ∧ (properties = [] → additional = .closed) ∧
      NormalProperties properties ∧ additional.Normal
  | _ => True

/-- `Schema.Normal` for a property. -/
def Property.Normal : Property → Prop
  | .ref _ => True
  | .typed schema _ => schema.Normal

/-- `Schema.Normal` for what else an object admits. -/
def Additional.Normal : Additional → Prop
  | .schema schema => schema.Normal
  | _ => True

/-- `Schema.Normal` for a list of properties. -/
def NormalProperties : List (String × Property) → Prop
  | [] => True
  | (_, property) :: properties => property.Normal ∧ NormalProperties properties
end

/-- `NormalProperties` in the natural per-element form. -/
theorem normalProperties_iff {properties : List (String × Property)} :
    NormalProperties properties ↔
      ∀ name schema required, (name, Property.typed schema required) ∈ properties →
        schema.Normal := by
  induction properties with
  | nil => simp [NormalProperties]
  | cons first properties ih =>
    obtain ⟨name, property⟩ := first
    rw [NormalProperties, ih]
    cases property with
    | ref target => simp [Property.Normal]
    | typed schema required =>
      constructor
      · rintro ⟨hfirst, hrest⟩ n s r hmem
        rcases List.mem_cons.1 hmem with heq | hmem
        · cases heq
          exact hfirst
        · exact hrest n s r hmem
      · intro h
        exact ⟨h name schema required List.mem_cons_self,
          fun n s r hmem => h n s r (List.mem_cons_of_mem _ hmem)⟩

/-- An object is normal if its names are distinct, it admits nothing beside no properties, and the
schemas in it are normal. -/
theorem Schema.normal_object_iff {properties : List (String × Property)}
    {additional : Additional} :
    (object properties additional).Normal ↔
      (Entries.names properties).Nodup ∧ (properties = [] → additional = .closed) ∧
      (∀ name schema required, (name, Property.typed schema required) ∈ properties →
        schema.Normal) ∧
      ∀ schema, additional = .schema schema → schema.Normal := by
  rw [Normal, normalProperties_iff]
  cases additional with
  | closed | any => simp [Additional.Normal]
  | schema schema => simp [Additional.Normal]

/-! ## The document of a schema -/

/-- The keyword of a string's constraint. -/
def StringConstraint.raise : StringConstraint → List (String × Document)
  | .unconstrained => []
  | .enum literals => [("enum", .list (literals.map .string))]
  | .pattern expression => [("pattern", .string expression)]
  | .format named => [("format", .string named.name)]

/-- The bound of an array's items: a lower one, or an upper one where there is no quantifier. -/
def Cardinality.raise : Cardinality → List (String × Document)
  | .zeroOrMore => [("minItems", .number (.natural ⟨0, by decide⟩))]
  | .oneOrMore => [("minItems", .number (.natural ⟨1, by decide⟩))]
  | .bare => [("maxItems", .number (.natural ⟨1, by decide⟩))]

/-- The names of the typed properties that are required, in order. -/
def requiredProperties (properties : List (String × Property)) : List String :=
  properties.filterMap fun
    | (name, .typed _ true) => some name
    | _ => none

mutual
/-- A document that describes the schema. -/
def Schema.raise : Schema → Document
  | .null => .object [("type", .string "null")]
  | .boolean => .object [("type", .string "boolean")]
  | .integer => .object [("type", .string "integer")]
  | .number => .object [("type", .string "number")]
  | .string constraint => .object (("type", .string "string") :: constraint.raise)
  | .array items cardinality =>
    .object (("type", .string "array") :: ("items", items.raise) :: cardinality.raise)
  | .object properties additional =>
    .object [("type", .string "object"), ("properties", .object (raiseProperties properties)),
      ("required", .list ((requiredProperties properties).map .string)),
      ("additionalProperties", additional.raise)]

/-- The definition of a property. -/
def Property.raise : Property → Document
  | .ref target => .object [("$ref", .string target)]
  | .typed schema _ => schema.raise

/-- The value of `additionalProperties`. -/
def Additional.raise : Additional → Document
  | .closed => .bool false
  | .any => .bool true
  | .schema schema => schema.raise

/-- The definitions of properties, in order. -/
def raiseProperties : List (String × Property) → List (String × Document)
  | [] => []
  | (name, property) :: properties => (name, property.raise) :: raiseProperties properties
end

/-- `raiseProperties` in the natural per-element form. -/
theorem raiseProperties_eq_map (properties : List (String × Property)) :
    raiseProperties properties = properties.map fun entry => (entry.1, entry.2.raise) := by
  induction properties with
  | nil => rfl
  | cons first properties ih =>
    rw [raiseProperties, ih, List.map_cons]

/-- Raising properties keeps their names. -/
theorem names_raiseProperties (properties : List (String × Property)) :
    Entries.names (raiseProperties properties) = Entries.names properties := by
  rw [raiseProperties_eq_map, Entries.names, List.map_map]
  rfl

/-- The document of a schema is a node of its kind, and no reference. -/
theorem Schema.raise_eq (schema : Schema) :
    ∃ node, schema.raise = .object node ∧
      node.lookup "type" = some (.string schema.kind.name) ∧ node.lookup "$ref" = none := by
  cases schema with
  | null | boolean | integer | number => exact ⟨_, rfl, rfl, rfl⟩
  | string constraint => cases constraint <;> exact ⟨_, rfl, rfl, rfl⟩
  | array items cardinality => cases cardinality <;> exact ⟨_, rfl, rfl, rfl⟩
  | object properties additional => exact ⟨_, rfl, rfl, rfl⟩

/-! ## Lowering the document of a schema -/

/-- A typed property is among the required ones exactly if it is required, since no other property
has its name. -/
theorem contains_requiredProperties {properties : List (String × Property)}
    (hnames : (Entries.names properties).Nodup) {name : String} {schema : Schema} {required : Bool}
    (hmem : (name, Property.typed schema required) ∈ properties) :
    (requiredProperties properties).contains name = required := by
  rw [Bool.eq_iff_iff, List.contains_iff_mem, requiredProperties, List.mem_filterMap]
  constructor
  · rintro ⟨⟨other, property⟩, hother, heq⟩
    split at heq
    · next found hentry =>
      cases heq
      cases hentry
      have hsame := List.inj_on_of_nodup_map hnames hmem hother rfl
      cases hsame
      rfl
    · cases heq
  · rintro rfl
    exact ⟨_, hmem, rfl⟩

/-- The required names of a raised object are read back. -/
theorem requiredNames_raise {node : List (String × Document)} {names : List String}
    (h : node.lookup "required" = some (.list (names.map .string))) :
    requiredNames node = names := by
  rw [requiredNames, h]
  simp only [List.filterMap_map]
  exact List.filterMap_some

/-- Raised definitions are lowered to the properties they were raised from. -/
theorem result_lowerDefinitions_raise {required : List String}
    {properties : List (String × Property)}
    (hrequired : ∀ name schema r, (name, Property.typed schema r) ∈ properties →
      required.contains name = r)
    (h : ∀ name schema r, (name, Property.typed schema r) ∈ properties →
      (lowerNode schema.raise).result = .ok schema) :
    (lowerDefinitions required (raiseProperties properties)).result = .ok properties := by
  induction properties with
  | nil => rfl
  | cons first properties ih =>
    obtain ⟨name, property⟩ := first
    have hrest := ih (fun n s r hmem => hrequired n s r (List.mem_cons_of_mem _ hmem))
      fun n s r hmem => h n s r (List.mem_cons_of_mem _ hmem)
    have hfirst : (propertyWith name (required.contains name) (lowerNode property.raise)
        property.raise).result = .ok property := by
      cases property with
      | ref target => rfl
      | typed schema r =>
        obtain ⟨node, hnode, -, href⟩ := schema.raise_eq
        have hok := h name schema r List.mem_cons_self
        rw [hrequired name schema r List.mem_cons_self, Property.raise]
        rw [hnode] at hok ⊢
        rw [result_propertyWith href, hok]
        rfl
    rw [raiseProperties, result_lowerDefinitions_cons, hfirst, hrest]
    rfl

/-- A raised value of `additionalProperties` is lowered to what it was raised from. -/
theorem result_lowerAdditional_raise {node : List (String × Document)} {additional : Additional}
    (hnode : node.lookup "additionalProperties" = some additional.raise)
    (h : ∀ schema, additional = .schema schema → (lowerNode schema.raise).result = .ok schema) :
    (lowerAdditional node).result = .ok additional := by
  rw [lowerAdditional_of_lookup hnode]
  cases additional with
  | closed | any => rfl
  | schema schema =>
    obtain ⟨inner, hinner, htype, -⟩ := schema.raise_eq
    have hne : inner ≠ [] := by
      rintro rfl
      cases htype
    have hok := h schema rfl
    rw [Additional.raise]
    rw [hinner] at hok ⊢
    rw [result_additionalWith hne, hok]
    rfl

/-- A constraint is read back from the keywords that it is raised to. -/
theorem stringConstraint_raise (constraint : StringConstraint) :
    stringConstraint (("type", .string "string") :: constraint.raise) = constraint := by
  cases constraint with
  | unconstrained | pattern => rfl
  | enum literals =>
    show StringConstraint.enum ((literals.map Document.string).map Document.literalText) = _
    rw [List.map_map]
    exact congrArg _ (List.map_id literals)
  | format format => cases format <;> rfl

/-- **A normal schema is what its document is lowered to.** -/
theorem result_lowerNode_raise {schema : Schema} (h : schema.Normal) :
    (lowerNode schema.raise).result = .ok schema := by
  induction schema using Schema.induction with
  | null | boolean | integer | number => rfl
  | string constraint =>
    rw [Schema.raise, lowerNode_of_string rfl, stringConstraint_raise]
    rfl
  | array items cardinality ih =>
    rw [Schema.raise, lowerNode_of_array rfl, Lowering.result_completed,
      Lowering.result_bind_pure, lowerItems_eq]
    show (lowerNode items.raise).result.map _ = _
    rw [ih h]
    cases cardinality <;> rfl
  | object properties additional ihp iha =>
    obtain ⟨hnames, hclosed, hproperties, hadditional⟩ := Schema.normal_object_iff.1 h
    rw [Schema.raise, lowerNode_of_object rfl, Lowering.result_completed]
    by_cases hne : properties = []
    · subst hne
      rw [lowerObject_of_not_declares rfl, hclosed rfl]
      rfl
    · have hdefinitions : raiseProperties properties ≠ [] := by
        rw [raiseProperties_eq_map]
        exact mt List.map_eq_nil_iff.1 hne
      rw [result_lowerObject_of_definitions rfl hdefinitions, requiredNames_raise rfl,
        result_lowerDefinitions_raise
          (fun _ _ _ hmem => contains_requiredProperties hnames hmem)
          fun n s r hmem => ihp n s r hmem (hproperties n s r hmem),
        result_lowerAdditional_raise rfl fun s hs => iha s hs (hadditional s hs)]
      rfl

/-! ## The document of a schema has distinct names -/

/-- A list of strings has no names, and so none twice. -/
theorem Document.distinct_strings (texts : List String) :
    (Document.list (texts.map .string)).Distinct := by
  refine .list fun item hitem => ?_
  obtain ⟨text, -, rfl⟩ := List.mem_map.1 hitem
  exact .string text

/-- The keywords of a constraint are distinct. -/
theorem StringConstraint.raise_distinct (constraint : StringConstraint) :
    (Document.object (("type", .string "string") :: constraint.raise)).Distinct := by
  cases constraint with
  | unconstrained | pattern | format =>
    simp [raise, Document.distinct_object_iff, Entries.names, Document.Distinct.string]
  | enum literals =>
    simp [raise, Document.distinct_object_iff, Entries.names, Document.Distinct.string,
      Document.distinct_strings]

/-- A raised property has distinct names if its schema has. -/
theorem Property.raise_distinct {property : Property}
    (h : ∀ schema required, property = .typed schema required → schema.raise.Distinct) :
    property.raise.Distinct := by
  cases property with
  | ref target => exact .object (by simp [Entries.names]) (by simp [Document.Distinct.string])
  | typed schema required => exact h schema required rfl

/-- What additional properties are raised to has distinct names if their schema has. -/
theorem Additional.raise_distinct {additional : Additional}
    (h : ∀ schema, additional = .schema schema → schema.raise.Distinct) :
    additional.raise.Distinct := by
  cases additional with
  | closed => exact .bool false
  | any => exact .bool true
  | schema schema => exact h schema rfl

/-- The document of a normal schema repeats no name. -/
theorem Schema.raise_distinct {schema : Schema} (h : schema.Normal) : schema.raise.Distinct := by
  induction schema using Schema.induction with
  | null | boolean | integer | number =>
    exact .object (by simp [Entries.names]) (by simp [Document.Distinct.string])
  | string constraint => exact constraint.raise_distinct
  | array items cardinality ih =>
    have hitems := ih h
    cases cardinality <;>
      simp [raise, Cardinality.raise, Document.distinct_object_iff, Entries.names,
        Document.Distinct.string, Document.Distinct.number, hitems]
  | object properties additional ihp iha =>
    obtain ⟨hnames, -, hproperties, hadditional⟩ := normal_object_iff.1 h
    have hdefinitions : (Document.object (raiseProperties properties)).Distinct := by
      refine .object (by rwa [names_raiseProperties]) fun member hmember => ?_
      rw [raiseProperties_eq_map] at hmember
      obtain ⟨⟨name, property⟩, hmem, rfl⟩ := List.mem_map.1 hmember
      refine Property.raise_distinct fun schema required hproperty => ?_
      subst hproperty
      exact ihp name schema required hmem (hproperties name schema required hmem)
    have hrest := Additional.raise_distinct fun schema hs => iha schema hs (hadditional schema hs)
    refine .object (by simp [Entries.names]) ?_
    simp [Document.Distinct.string, Document.distinct_strings, hdefinitions, hrest]

/-! ## What lowering yields is normal -/

/-- A value found in a distinct node is distinct. -/
theorem Document.Distinct.of_lookup {node : List (String × Document)}
    (h : (Document.object node).Distinct) {key : String} {value : Document}
    (hv : node.lookup key = some value) : value.Distinct := by
  obtain ⟨before, after, rfl, -⟩ := List.lookup_eq_some_iff.1 hv
  exact (distinct_object_iff.1 h).2 (key, value) (by simp)

/-- The schema of an object node is normal if those of its parts are. -/
theorem normal_of_lowerObject {node : List (String × Document)} {schema : Schema}
    (hnode : (Document.object node).Distinct)
    (ih : ∀ value, PartOf node value → value.Distinct →
      ∀ schema, (lowerNode value).result = .ok schema → schema.Normal)
    (h : (lowerObject node).result = .ok schema) : schema.Normal := by
  rcases ok_of_lowerObject h with
    rfl | ⟨definitions, properties, additional, hp, hne, hproperties, hadditional, rfl⟩
  · exact Schema.normal_object_iff.2 ⟨List.nodup_nil, fun _ => rfl, nofun, nofun⟩
  · have hdefinitions := Document.distinct_object_iff.1 (hnode.of_lookup hp)
    have hnames := names_of_lowerDefinitions hproperties
    refine Schema.normal_object_iff.2 ⟨?_, fun hnil => ?_, fun n s r hmem => ?_, fun s hs => ?_⟩
    · rw [hnames]
      exact hdefinitions.1
    · subst hnil
      exact absurd (List.map_eq_nil_iff.1 hnames.symm) hne
    · obtain ⟨definition, hdefinition, hok, -⟩ := ok_of_mem_lowerDefinitions hproperties hmem
      exact ih definition (.definition hp hdefinition) (hdefinitions.2 _ hdefinition) s hok
    · subst hs
      obtain ⟨value, hvalue, hok⟩ := ok_of_lowerAdditional hadditional
      exact ih value (.keyword hvalue) (hnode.of_lookup hvalue) s hok

/-- **What a document is lowered to is normal.** -/
theorem normal_of_lowerNode {value : Document} (hvalue : value.Distinct) {schema : Schema}
    (h : (lowerNode value).result = .ok schema) : schema.Normal := by
  induction value using Document.node_induction generalizing schema with
  | node node ih =>
    obtain ⟨_, ⟨⟩, hobject | ⟨item, items, hitem, hok, rfl⟩ | hleaf⟩ := ok_of_lowerNode h
    · exact normal_of_lowerObject hvalue (fun v hpart hv s hs => ih v hpart hv hs) hobject
    · have hitems : items.Normal := ih item (.keyword hitem) (hvalue.of_lookup hitem) hok
      exact hitems
    · rcases hleaf with rfl | rfl | rfl | rfl | rfl <;> trivial
  | other value hother =>
    obtain ⟨node, hnode, -⟩ := ok_of_lowerNode h
    exact absurd hnode (hother node)

/-- **Lowering and raising fit together.** A normal schema has a document with distinct names that
is lowered to it, as a node and, if it is an object, as a whole document. Conversely whatever a
document with distinct names is lowered to is normal; and every document that is read has distinct
names. -/
theorem lowering_raise_round_trip :
    (∀ schema : Schema, schema.Normal →
      schema.raise.Distinct ∧ (lowerNode schema.raise).result = .ok schema ∧
      (schema.kind = .object → (lowerRoot schema.raise).result = .ok schema)) ∧
    (∀ value : Document, value.Distinct → ∀ schema,
      (lowerNode value).result = .ok schema ∨ (lowerRoot value).result = .ok schema →
        schema.Normal) ∧
    ∀ (format : SourceFormat) (text : String) (value : Document),
      format.parse text = .ok value → value.Distinct := by
  refine ⟨fun schema h => ⟨schema.raise_distinct h, result_lowerNode_raise h, fun hkind => ?_⟩,
    fun value hvalue schema h => ?_, fun _ _ _ => SourceFormat.parse_distinct⟩
  · have hok := result_lowerNode_raise h
    obtain ⟨node, hnode, htype, -⟩ := schema.raise_eq
    rw [hkind] at htype
    rw [hnode] at hok ⊢
    rw [result_lowerRoot_of_object htype, hok]
  · rcases h with h | h
    · exact normal_of_lowerNode hvalue h
    · exact normal_of_lowerNode hvalue (ok_of_lowerRoot h)

/-- A record with a property named like a keyword, one named like a reference and one without a
name. -/
def keywordRecord : Schema :=
  .object
    [("type", .typed (.string (.enum ["object", ""])) true),
     ("$ref", .typed (.array (.object [] .closed) .bare) false),
     ("", .ref "#/definitions/none")]
    (.schema (.string (.format .dateTime)))

/-- A schema whose properties are called as keywords are is recovered. -/
theorem keywordRecord_round_trip :
    keywordRecord.Normal ∧ (lowerRoot keywordRecord.raise).result = .ok keywordRecord := by
  have hnormal : keywordRecord.Normal := by
    simp [keywordRecord, Schema.Normal, NormalProperties, Property.Normal, Additional.Normal,
      Entries.names]
  exact ⟨hnormal, (lowering_raise_round_trip.1 keywordRecord hnormal).2.2 rfl⟩

end SchemaGrammar
