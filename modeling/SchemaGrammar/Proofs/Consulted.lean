import SchemaGrammar.Proofs.Position
import SchemaGrammar.Proofs.Structure

/-!
# Only what is consulted matters

`Agree` relates two documents that agree, position by position, on the keywords that the lowering
consults. It leaves free whatever is not consulted: other keywords, the order of the members of a
node, the order and the repetitions of `required`, everything beside a reference, everything beside
undeclared properties, and so on. The main result is that such documents have the same grammar text
or the same error.

The targets of references do not appear in a grammar text, so the two lowerings agree up to targets
only (`Schema.untargeted`), and the induction on `Agree` is about that.
-/

namespace SchemaGrammar

/-! ## Agreement -/

/-- A node requires a property: its `required` is a list that holds the name as a string. -/
def Requires (node : List (String × Document)) (name : String) : Prop :=
  ∃ items, node.lookup "required" = some (.list items) ∧ .string name ∈ items

/-- Two string nodes agree: on `enum` if one of them has it, else on `pattern`, else on `format`. -/
def SameConstraint (node node' : List (String × Document)) : Prop :=
  node.lookup "enum" = node'.lookup "enum" ∧
  (node.lookup "enum" = none → node.lookup "pattern" = node'.lookup "pattern" ∧
    (node.lookup "pattern" = none → node.lookup "format" = node'.lookup "format"))

/-- Two array nodes agree on whether there is an upper bound, and if not on the lower bound. -/
def SameBounds (node node' : List (String × Document)) : Prop :=
  declares node "maxItems" = declares node' "maxItems" ∧
  (declares node "maxItems" = false → node.lookup "minItems" = node'.lookup "minItems")

/-- Two nodes of a role have the given type, and neither is a reference where a property is
defined. -/
structure BothOpen (role : Role) (type : Option Document) (node node' : List (String × Document)) :
    Prop where
  left : node.lookup "type" = type
  right : node'.lookup "type" = type
  unreferenced : ∀ name, role = .property name →
    node.lookup "$ref" = none ∧ node'.lookup "$ref" = none

/-- `Agree role d d'`: the documents agree on everything that lowering them for the role
consults. -/
inductive Agree : Role → Document → Document → Prop
  /-- A value agrees with itself. A value of a wrong shape agrees with nothing else. -/
  | same (role : Role) (value : Document) : Agree role value value
  /-- References agree, whatever they refer to. -/
  | reference {name : String} {node node' : List (String × Document)}
      (h : (node.lookup "$ref").isSome) (h' : (node'.lookup "$ref").isSome) :
      Agree (.property name) (.object node) (.object node')
  /-- A root that is not of type `object` is not looked into. -/
  | root {node node' : List (String × Document)} (h : node.lookup "type" = node'.lookup "type")
      (hne : node.lookup "type" ≠ some (.string "object")) :
      Agree .root (.object node) (.object node')
  /-- Of a node of any other type, or without a known one, only the type is consulted. -/
  | leaf {role : Role} {type : Option Document} {node node' : List (String × Document)}
      (hopen : BothOpen role type node node')
      (hleaf : ∀ name ∈ ["object", "array", "string"], type ≠ some (.string name)) :
      Agree role (.object node) (.object node')
  | string {role : Role} {node node' : List (String × Document)}
      (hopen : BothOpen role (some (.string "string")) node node')
      (hconstraint : SameConstraint node node') : Agree role (.object node) (.object node')
  | array {role : Role} {node node' : List (String × Document)}
      (hopen : BothOpen role (some (.string "array")) node node') (hbounds : SameBounds node node')
      (hsome : (node.lookup "items").isSome = (node'.lookup "items").isSome)
      (hitems : ∀ value value', node.lookup "items" = some value →
        node'.lookup "items" = some value' → Agree .items value value') :
      Agree role (.object node) (.object node')
  /-- Of an object without declared properties nothing else is consulted. -/
  | undeclared {role : Role} {node node' : List (String × Document)}
      (hopen : BothOpen role (some (.string "object")) node node')
      (h : declares node "properties" = false) (h' : declares node' "properties" = false) :
      Agree role (.object node) (.object node')
  /-- Properties of a wrong shape agree only with themselves. -/
  | invalid {role : Role} {node node' : List (String × Document)} {value : Document}
      (hopen : BothOpen role (some (.string "object")) node node')
      (h : node.lookup "properties" = some value) (h' : node'.lookup "properties" = some value)
      (hvalue : ∀ definitions, value ≠ .object definitions) :
      Agree role (.object node) (.object node')
  | object {role : Role} {node node' definitions definitions' : List (String × Document)}
      (hopen : BothOpen role (some (.string "object")) node node')
      (h : node.lookup "properties" = some (.object definitions))
      (h' : node'.lookup "properties" = some (.object definitions')) (hne : definitions ≠ [])
      (hnames : Entries.names definitions = Entries.names definitions')
      (hdefinitions : ∀ (i : Nat) name value value', definitions[i]? = some (name, value) →
        definitions'[i]? = some (name, value') → Agree (.property name) value value')
      (hrequired : ∀ name ∈ Entries.names definitions, Requires node name ↔ Requires node' name)
      (hdeclares :
        declares node "additionalProperties" = declares node' "additionalProperties")
      (hadditional : ∀ value value', node.lookup "additionalProperties" = some value →
        node'.lookup "additionalProperties" = some value' → value.truthy = true →
        value'.truthy = true → Agree .additional value value') :
      Agree role (.object node) (.object node')

/-! ## Schemas up to the targets of references -/

/-- The schema without the targets of its references. -/
def Schema.untargeted (schema : Schema) : Schema := schema.redact (fun name _ => (name, "")) id

/-- A property of the given name without the targets of references. -/
def Property.untargeted (name : String) (property : Property) : String × Property :=
  property.redact (fun name _ => (name, "")) id name

/-- What else an object admits, without the targets of references. -/
def Additional.untargeted (additional : Additional) : Additional :=
  additional.redact (fun name _ => (name, "")) id

/-- Properties without the targets of references. -/
def untargetedProperties (properties : List (String × Property)) : List (String × Property) :=
  redactProperties (fun name _ => (name, "")) id properties

/-- An array loses the targets of its items. -/
theorem Schema.untargeted_array (items : Schema) (cardinality : Cardinality) :
    (array items cardinality).untargeted = .array items.untargeted cardinality := rfl

/-- An object loses the targets of its properties and of what it admits beside them. -/
theorem Schema.untargeted_object (properties : List (String × Property))
    (additional : Additional) : (object properties additional).untargeted =
      .object (untargetedProperties properties) additional.untargeted := by
  cases properties <;> rfl

/-- Properties lose their targets one by one. -/
theorem untargetedProperties_cons (name : String) (property : Property)
    (properties : List (String × Property)) :
    untargetedProperties ((name, property) :: properties) =
      property.untargeted name :: untargetedProperties properties := rfl

/-- A typed property loses the targets of its schema. -/
theorem Property.untargeted_typed (name : String) (schema : Schema) (required : Bool) :
    (typed schema required).untargeted name = (name, .typed schema.untargeted required) := rfl

/-- Additional properties of a schema lose its targets. -/
theorem Additional.untargeted_schema (schema : Schema) :
    (Additional.schema schema).untargeted = .schema schema.untargeted := rfl

/-- Targets do not appear in the text. -/
theorem grammar_untargeted (schema : Schema) : schema.untargeted.grammar = schema.grammar := by
  rw [Schema.grammar, Schema.untargeted, fragment_redact, Schema.grammar]

/-- `SameOutcome role d d'`: lowered for the role, the documents give the same error, or the same
up to the targets of references. A value that is not truthy is not lowered as
`additionalProperties`. -/
def SameOutcome : Role → Document → Document → Prop
  | .root, d, d' =>
    (lowerRoot d).result.map Schema.untargeted = (lowerRoot d').result.map Schema.untargeted
  | .property name, d, d' => ∀ required,
    (propertyWith name required (lowerNode d) d).result.map (Property.untargeted name) =
      (propertyWith name required (lowerNode d') d').result.map (Property.untargeted name)
  | .items, d, d' =>
    (lowerNode d).result.map Schema.untargeted = (lowerNode d').result.map Schema.untargeted
  | .additional, d, d' => d.truthy = true → d'.truthy = true →
    (additionalWith (lowerNode d) d).result.map Additional.untargeted =
      (additionalWith (lowerNode d') d').result.map Additional.untargeted

/-- A value has the same outcome as itself. -/
theorem SameOutcome.refl (role : Role) (value : Document) : SameOutcome role value value := by
  cases role with
  | root | items => exact rfl
  | property name => exact fun _ => rfl
  | additional => exact fun _ _ => rfl

/-- References come to the same. -/
theorem SameOutcome.of_reference {name : String} {node node' : List (String × Document)}
    (h : (node.lookup "$ref").isSome) (h' : (node'.lookup "$ref").isSome) :
    SameOutcome (.property name) (.object node) (.object node') := by
  obtain ⟨target, ht⟩ := Option.isSome_iff_exists.1 h
  obtain ⟨target', ht'⟩ := Option.isSome_iff_exists.1 h'
  intro required
  simp only [propertyWith, ht, ht']
  rfl

/-- Nodes that come to the same do so for any role, as far as neither is a reference. -/
theorem BothOpen.sameOutcome {role : Role} {type : Option Document}
    {node node' : List (String × Document)} (hopen : BothOpen role type node node')
    (h : SameOutcome .items (.object node) (.object node')) :
    SameOutcome role (.object node) (.object node') := by
  cases role with
  | root =>
    rw [SameOutcome]
    by_cases htype : type = some (.string "object")
    · rw [result_lowerRoot_of_object (hopen.left.trans htype),
        result_lowerRoot_of_object (hopen.right.trans htype)]
      exact h
    · rw [result_lowerRoot_of_ne (hopen.left ▸ htype), result_lowerRoot_of_ne (hopen.right ▸ htype)]
  | property name =>
    intro required
    obtain ⟨hl, hr⟩ := hopen.unreferenced name rfl
    rw [result_propertyWith hl, result_propertyWith hr]
    exact map_map_congr (fun schema => (name, .typed schema required))
      (fun schema => Property.untargeted_typed name schema required) h
  | items => exact h
  | additional =>
    intro ht ht'
    rw [result_additionalWith (by rintro rfl; cases ht),
      result_additionalWith (by rintro rfl; cases ht')]
    exact map_map_congr .schema Additional.untargeted_schema h

/-! ## Nodes by type -/

section
variable {node node' : List (String × Document)}

/-- Nodes of the same type that have no parts come to the same. -/
theorem sameOutcome_leaf (h : node.lookup "type" = node'.lookup "type")
    (hleaf : ∀ name ∈ ["object", "array", "string"], node.lookup "type" ≠ some (.string name)) :
    SameOutcome .items (.object node) (.object node') := by
  have hkind : kindOf node = kindOf node' := by
    unfold kindOf
    rw [h]
  rw [SameOutcome, lowerNode, lowerNode, ← hkind]
  cases hk : kindOf node with
  | error e => rfl
  | ok kind =>
    cases kind with
    | object => exact absurd (type_of_kindOf hk) (hleaf _ (by decide))
    | array => exact absurd (type_of_kindOf hk) (hleaf _ (by decide))
    | string => exact absurd (type_of_kindOf hk) (hleaf _ (by decide))
    | null | boolean | integer | number => rfl

/-- The constraint of a string is read from the first of `enum`, `pattern` and `format`. -/
theorem stringConstraint_congr (h : SameConstraint node node') :
    stringConstraint node = stringConstraint node' := by
  obtain ⟨henum, hrest⟩ := h
  unfold stringConstraint
  rw [← henum]
  cases he : node.lookup "enum" with
  | some values => rfl
  | none =>
    obtain ⟨hpattern, hformat⟩ := hrest he
    rw [← hpattern]
    cases hp : node.lookup "pattern" with
    | some expression => rfl
    | none => rw [hformat hp]

/-- The cardinality of an array is read from `maxItems` being declared, else from `minItems`. -/
theorem cardinalityOf_congr (h : SameBounds node node') :
    cardinalityOf node = cardinalityOf node' := by
  unfold cardinalityOf
  rw [maxItems_eq_declares, maxItems_eq_declares, ← h.1]
  cases hmax : declares node "maxItems" with
  | true => rfl
  | false => rw [h.2 hmax]

/-- Arrays whose items come to the same do so. -/
theorem sameOutcome_array (ht : node.lookup "type" = some (.string "array"))
    (ht' : node'.lookup "type" = some (.string "array")) (hbounds : SameBounds node node')
    (hsome : (node.lookup "items").isSome = (node'.lookup "items").isSome)
    (hitems : ∀ value value', node.lookup "items" = some value →
      node'.lookup "items" = some value' → SameOutcome .items value value') :
    SameOutcome .items (.object node) (.object node') := by
  rw [SameOutcome, lowerNode_of_array ht, lowerNode_of_array ht', Lowering.result_completed,
    Lowering.result_completed, Lowering.result_bind_pure, Lowering.result_bind_pure,
    lowerItems_eq, lowerItems_eq, cardinalityOf_congr hbounds]
  cases hv : node.lookup "items" with
  | none =>
    rw [hv, Option.isSome_none] at hsome
    have hv' : node'.lookup "items" = none := by
      rw [← Option.not_isSome_iff_eq_none, ← hsome]
      decide
    rw [hv']
  | some value =>
    rw [hv] at hsome
    obtain ⟨value', hv'⟩ := Option.isSome_iff_exists.1 hsome.symm
    rw [hv', Option.elim_some, Option.elim_some]
    exact map_map_congr (.array · (cardinalityOf node'))
      (fun items => Schema.untargeted_array items _) (hitems value value' hv hv')

end

/-! ## Object nodes -/

/-- A name is found among the required ones when the node requires it. -/
theorem contains_requiredNames {node : List (String × Document)} {name : String} :
    (requiredNames node).contains name = true ↔ Requires node name := by
  unfold requiredNames Requires
  split
  · next items h =>
    rw [List.contains_iff_mem, List.mem_filterMap]
    constructor
    · rintro ⟨item, hmem, hname⟩
      cases item with
      | string s =>
        cases hname
        exact ⟨items, h, hmem⟩
      | null | bool | number | list | object => cases hname
    · rintro ⟨items', h', hmem⟩
      rw [h] at h'
      cases h'
      exact ⟨_, hmem, rfl⟩
  · next hother =>
    constructor
    · intro hfalse
      cases hfalse
    · rintro ⟨items, h, -⟩
      exact absurd h (hother items)

/-- Definitions of the same names that come to the same one by one do so as a list. The induction
is on both lists at once. -/
theorem result_lowerDefinitions_congr {required required' : List String}
    {definitions definitions' : List (String × Document)}
    (hnames : Entries.names definitions = Entries.names definitions')
    (hrequired : ∀ name ∈ Entries.names definitions,
      required.contains name = required'.contains name)
    (h : ∀ (i : Nat) name value value', definitions[i]? = some (name, value) →
      definitions'[i]? = some (name, value') → SameOutcome (.property name) value value') :
    (lowerDefinitions required definitions).result.map untargetedProperties =
      (lowerDefinitions required' definitions').result.map untargetedProperties := by
  induction definitions generalizing definitions' with
  | nil =>
    cases definitions' with
    | nil => rfl
    | cons => cases hnames
  | cons first rest ih =>
    cases definitions' with
    | nil => cases hnames
    | cons first' rest' =>
      obtain ⟨name, value⟩ := first
      obtain ⟨name', value'⟩ := first'
      obtain ⟨rfl, hrestNames⟩ : name = name' ∧ Entries.names rest = Entries.names rest' :=
        List.cons.inj hnames
      have hfirst := h 0 name value value' rfl rfl (required.contains name)
      have hrest := ih hrestNames (fun n hn => hrequired n (List.mem_cons_of_mem _ hn))
        fun i n v v' hv hv' => h (i + 1) n v v' hv hv'
      rw [result_lowerDefinitions_cons, result_lowerDefinitions_cons,
        ← hrequired name List.mem_cons_self]
      rcases cases_of_map_eq hfirst with ⟨e, he, he'⟩ | ⟨property, property', hp, hp', heq⟩
      · rw [he, he']
        rfl
      · rw [hp, hp']
        rcases cases_of_map_eq hrest with ⟨e, he, he'⟩ | ⟨ps, ps', hps, hps', heqs⟩
        · rw [he, he']
          rfl
        · rw [hps, hps']
          simp only [Except.mapError, Except.bind, Except.map, untargetedProperties_cons, heq, heqs]

/-- What else an object admits comes to the same when it is declared in both nodes or in none. -/
theorem result_lowerAdditional_congr {node node' : List (String × Document)}
    (hdeclares : declares node "additionalProperties" = declares node' "additionalProperties")
    (h : ∀ value value', node.lookup "additionalProperties" = some value →
      node'.lookup "additionalProperties" = some value' → value.truthy = true →
      value'.truthy = true → SameOutcome .additional value value') :
    (lowerAdditional node).result.map Additional.untargeted =
      (lowerAdditional node').result.map Additional.untargeted := by
  cases hd : declares node "additionalProperties" with
  | false =>
    rw [lowerAdditional_of_not_declares hd, lowerAdditional_of_not_declares (hdeclares ▸ hd)]
  | true =>
    obtain ⟨value, hv, ht⟩ := (Option.any_eq_true _ _).1 hd
    obtain ⟨value', hv', ht'⟩ := (Option.any_eq_true _ _).1 (hdeclares ▸ hd)
    rw [lowerAdditional_of_lookup hv, lowerAdditional_of_lookup hv']
    exact h value value' hv hv' ht ht' ht ht'

/-- Nodes of type `object` come to the same as their object nodes do. -/
theorem sameOutcome_of_lowerObject {node node' : List (String × Document)}
    (ht : node.lookup "type" = some (.string "object"))
    (ht' : node'.lookup "type" = some (.string "object"))
    (h : (lowerObject node).result.map Schema.untargeted =
      (lowerObject node').result.map Schema.untargeted) :
    SameOutcome .items (.object node) (.object node') := by
  rw [SameOutcome, lowerNode_of_object ht, lowerNode_of_object ht', Lowering.result_completed,
    Lowering.result_completed]
  exact h

/-- The outcome of an object node from those of its definitions and of what else it admits. -/
theorem result_lowerObject_congr {node node' definitions definitions' : List (String × Document)}
    (h : node.lookup "properties" = some (.object definitions))
    (h' : node'.lookup "properties" = some (.object definitions')) (hne : definitions ≠ [])
    (hne' : definitions' ≠ [])
    (hdefinitions :
      (lowerDefinitions (requiredNames node) definitions).result.map untargetedProperties =
        (lowerDefinitions (requiredNames node') definitions').result.map untargetedProperties)
    (hadditional : (lowerAdditional node).result.map Additional.untargeted =
      (lowerAdditional node').result.map Additional.untargeted) :
    (lowerObject node).result.map Schema.untargeted =
      (lowerObject node').result.map Schema.untargeted := by
  rw [result_lowerObject_of_definitions h hne, result_lowerObject_of_definitions h' hne']
  rcases cases_of_map_eq hdefinitions with ⟨e, he, he'⟩ | ⟨ps, ps', hps, hps', heqs⟩
  · rw [he, he']
    rfl
  · rw [hps, hps']
    rcases cases_of_map_eq hadditional with ⟨e, he, he'⟩ | ⟨a, a', ha, ha', heq⟩
    · rw [he, he']
      rfl
    · rw [ha, ha']
      simp only [Except.bind, Except.map, Schema.untargeted_object, heqs, heq]

/-! ## Documents -/

/-- Documents that agree for a role come to the same for it. -/
theorem Agree.sameOutcome {role : Role} {d d' : Document} (h : Agree role d d') :
    SameOutcome role d d' := by
  induction h with
  | same role value => exact .refl role value
  | reference h h' => exact .of_reference h h'
  | root h hne =>
    rw [SameOutcome, result_lowerRoot_of_ne hne, result_lowerRoot_of_ne (h ▸ hne)]
  | leaf hopen hleaf =>
    refine hopen.sameOutcome (sameOutcome_leaf (hopen.left.trans hopen.right.symm) ?_)
    rw [hopen.left]
    exact hleaf
  | string hopen hconstraint =>
    refine hopen.sameOutcome ?_
    rw [SameOutcome, lowerNode_of_string hopen.left, lowerNode_of_string hopen.right,
      stringConstraint_congr hconstraint]
  | array hopen hbounds hsome _ ih =>
    exact hopen.sameOutcome (sameOutcome_array hopen.left hopen.right hbounds hsome ih)
  | undeclared hopen h h' =>
    refine hopen.sameOutcome (sameOutcome_of_lowerObject hopen.left hopen.right ?_)
    rw [lowerObject_of_not_declares h, lowerObject_of_not_declares h']
  | @invalid role node node' value hopen h h' hvalue =>
    refine hopen.sameOutcome (sameOutcome_of_lowerObject hopen.left hopen.right ?_)
    cases ht : value.truthy with
    | true => rw [lowerObject_of_other h ht hvalue, lowerObject_of_other h' ht hvalue]
    | false =>
      rw [lowerObject_of_not_declares (by simp [declares, h, ht]),
        lowerObject_of_not_declares (by simp [declares, h', ht])]
  | @object role node node' definitions definitions' hopen h h' hne hnames _ hrequired hdeclares _
      ihdefinitions ihadditional =>
    have hne' : definitions' ≠ [] := by
      rintro rfl
      exact hne (List.map_eq_nil_iff.1 hnames)
    have hcontains : ∀ name ∈ Entries.names definitions,
        (requiredNames node).contains name = (requiredNames node').contains name := by
      intro name hname
      rw [Bool.eq_iff_iff, contains_requiredNames, contains_requiredNames]
      exact hrequired name hname
    refine hopen.sameOutcome (sameOutcome_of_lowerObject hopen.left hopen.right ?_)
    exact result_lowerObject_congr h h' hne hne'
      (result_lowerDefinitions_congr hnames hcontains ihdefinitions)
      (result_lowerAdditional_congr hdeclares ihadditional)

/-- **Only what is consulted matters.** Documents that agree on what is consulted have the same
grammar text or the same error, and the schemas they are lowered to differ at most in the targets of
references. -/
theorem compile_eq_of_agree (d d' : Document) (h : Agree .root d d') :
    compile d = compile d' ∧
      (lowerRoot d).result.map Schema.untargeted = (lowerRoot d').result.map Schema.untargeted := by
  have hsame := h.sameOutcome
  refine ⟨?_, hsame⟩
  unfold compile
  rcases cases_of_map_eq hsame with ⟨e, he, he'⟩ | ⟨schema, schema', hs, hs', heq⟩
  · rw [he, he']
  · rw [hs, hs', Except.map, Except.map, ← grammar_untargeted schema, heq, grammar_untargeted]

/-- The definitions of a record, with the given members beside the consulted ones. -/
def recordDefinitions (unit next kind : List (String × Document)) : List (String × Document) :=
  [("size", .object [("type", .string "array"), ("maxItems", .bool true),
    ("items", .object (("type", .string "number") :: unit))]),
   ("next", .object next),
   ("kind", .object (("type", .string "string") :: ("pattern", .string "^k") :: kind))]

/-- A record with a closed set of members. -/
def closedRecord : Document :=
  .object [("type", .string "object"),
    ("properties", .object (recordDefinitions [("minimum", .null)] [("$ref", .string "#/a")] [])),
    ("required", .list [.string "kind"]), ("additionalProperties", .bool false)]

/-- The same record with other keywords and another order of its members. -/
def annotatedRecord : Document :=
  .object [("title", .string "record"),
    ("required", .list [.string "absent", .null, .string "kind", .string "kind"]),
    ("properties", .object (recordDefinitions [] [("type", .string "bogus"), ("$ref", .null)]
      [("format", .string "uri")])),
    ("type", .string "object")]

/-- Both records have the same text. -/
theorem closedRecord_compile :
    compile closedRecord =
      .ok "\x7b \"size\" : [<number>] | ε, <ref>, \"kind\" : <pattern ^k> \x7d" ∧
    compile closedRecord = compile annotatedRecord := by
  refine ⟨rfl, (compile_eq_of_agree closedRecord annotatedRecord ?_).1⟩
  refine .object ⟨rfl, rfl, nofun⟩ rfl rfl nofun rfl (fun i name value value' h h' => ?_) ?_ rfl
    nofun
  · match i with
    | 0 =>
      cases h
      cases h'
      refine .array ⟨rfl, rfl, fun _ _ => ⟨rfl, rfl⟩⟩ ⟨rfl, nofun⟩ rfl fun unit unit' hu hu' => ?_
      cases hu
      cases hu'
      exact .leaf ⟨rfl, rfl, nofun⟩ (by simp)
    | 1 =>
      cases h
      cases h'
      exact .reference rfl rfl
    | 2 =>
      cases h
      cases h'
      exact .string ⟨rfl, rfl, fun _ _ => ⟨rfl, rfl⟩⟩ ⟨rfl, fun _ => ⟨rfl, nofun⟩⟩
    | _ + 3 => cases h
  · intro name hname
    rw [← contains_requiredNames, ← contains_requiredNames]
    revert name
    decide

end SchemaGrammar
