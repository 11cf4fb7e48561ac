import SchemaGrammar.Schema.OfDocument

/-!
# What a lowering reads of a node

The descent of `lowerNode` is structural, so it walks the members of a node up to the keyword it
wants. Here that descent is read back as lookups: `lowerItems`, `lowerProperties` and
`lowerAdditional` each depend on one keyword only (`lowerItems_eq`, `lowerProperties_eq`,
`lowerAdditional_eq`), and the lowering of a node is one equation per `type`. Everything proved
about lowerings rests on these equations and does not open the descent again.

A keyword *is declared* (`declares`) when it is there with a truthy value; `properties`,
`additionalProperties` and `maxItems` count only then.
-/

namespace SchemaGrammar

/-! ## Outcomes of composed lowerings -/

section
variable {ε α β : Type} {x : Except ε α}

/-- A composition that succeeds has succeeded part by part. -/
theorem ok_of_bind {f : α → Except ε β} {b : β} (h : x.bind f = .ok b) :
    ∃ a, x = .ok a ∧ f a = .ok b := by
  cases x with
  | ok a => exact ⟨a, rfl, h⟩
  | error e => cases h

/-- A mapped result is the image of a result. -/
theorem ok_of_map {f : α → β} {b : β} (h : x.map f = .ok b) : ∃ a, x = .ok a ∧ f a = b := by
  cases x with
  | ok a => exact ⟨a, rfl, Except.ok.inj h⟩
  | error e => cases h

/-- Mapping a result does not change an error. -/
theorem error_of_map {f : α → β} {e : ε} (h : x.map f = .error e) : x = .error e := by
  cases x with
  | ok a => cases h
  | error e' => exact congrArg _ (Except.error.inj h)

/-- Mapping an error does not change a result. -/
theorem ok_of_mapError {ε' : Type} {f : ε → ε'} {a : α} (h : x.mapError f = .ok a) : x = .ok a := by
  cases x with
  | ok a' => exact congrArg _ (Except.ok.inj h)
  | error e => cases h

/-- Outcomes that agree after a function of the value are the same error, or values on which the
function agrees. -/
theorem cases_of_map_eq {x' : Except ε α} {f : α → β} (h : x.map f = x'.map f) :
    (∃ e, x = .error e ∧ x' = .error e) ∨ ∃ a a', x = .ok a ∧ x' = .ok a' ∧ f a = f a' := by
  cases x with
  | error e =>
    cases x' with
    | error e' =>
      cases h
      exact .inl ⟨e, rfl, rfl⟩
    | ok a' => cases h
  | ok a =>
    cases x' with
    | error e' => cases h
    | ok a' => exact .inr ⟨a, a', rfl, rfl, Except.ok.inj h⟩

/-- Outcomes that agree after `f` still do when both are wrapped by `g`, if `f'` acts on what is
wrapped as `f` does. -/
theorem map_map_congr {γ δ : Type} {x' : Except ε α} {f : α → β} {g : α → γ} {f' : γ → δ}
    (g' : β → δ) (hcomm : ∀ a, f' (g a) = g' (f a)) (h : x.map f = x'.map f) :
    (x.map g).map f' = (x'.map g).map f' := by
  rcases cases_of_map_eq h with ⟨e, he, he'⟩ | ⟨a, a', ha, ha', heq⟩
  · rw [he, he']
  · rw [ha, ha']
    simp only [Except.map, hcomm, heq]

end

namespace Lowering

variable {α β : Type}

@[simp] theorem result_inProperty (name : String) (x : Lowering α) :
    (x.inProperty name).result = x.result.mapError (.inProperty name) := rfl

/-- A composed lowering fails with the first error. -/
theorem result_bind (x : Lowering α) (f : α → Lowering β) :
    (x.bind f).result = x.result.bind fun a => (f a).result := by
  unfold bind
  cases x.result <;> rfl

/-- A value computed from the outcome adds no error. -/
@[simp] theorem result_bind_pure (x : Lowering α) (g : α → β) :
    (x.bind fun a => pure (g a)).result = x.result.map g := by
  rw [result_bind]
  cases x.result <;> rfl

/-- The step at the end of a node does not change its outcome. -/
@[simp] theorem result_completed (x : Lowering Schema) : x.completed.result = x.result := by
  unfold completed
  rw [result_bind]
  cases x.result <;> rfl

end Lowering

/-! ## Keywords -/

/-- Whether a node declares a keyword: it is there and its value is truthy. -/
def declares (node : List (String × Document)) (key : String) : Bool :=
  (node.lookup key).any Document.truthy

/-- The upper bound of an array counts when it is declared. -/
theorem maxItems_eq_declares (node : List (String × Document)) :
    ((node.lookup "maxItems").map Document.truthy).getD false = declares node "maxItems" := by
  unfold declares
  cases node.lookup "maxItems" <;> rfl

/-- A function that skips to the first entry of the given name is a function of that entry. -/
theorem Entries.eq_elim_lookup {α β : Type} {f : List (String × α) → β} {key : String}
    {absent : β} {found : α → β} (hnil : f [] = absent)
    (hcons : ∀ name value rest,
      f ((name, value) :: rest) = if name = key then found value else f rest)
    (entries : List (String × α)) : f entries = (entries.lookup key).elim absent found := by
  induction entries with
  | nil => exact hnil
  | cons entry rest ih =>
    obtain ⟨name, value⟩ := entry
    rw [hcons, lookup_cons, ih]
    by_cases h : name = key
    · rw [if_pos h, if_pos h.symm, Option.elim_some]
    · rw [if_neg h, if_neg fun h' => h h'.symm]

/-- `lowerItems` reads the keyword `items`. -/
theorem lowerItems_eq (node : List (String × Document)) :
    lowerItems node = (node.lookup "items").elim (.fail .missingItems) lowerNode :=
  Entries.eq_elim_lookup rfl (fun _ _ _ => rfl) node

/-- The lowering of a value of `properties`. -/
def lowerDeclared (required : List String) (value : Document) :
    Lowering (Option (List (String × Property))) :=
  if value.truthy then
    match value with
    | .object definitions =>
      (lowerDefinitions required definitions).bind fun properties => .pure (some properties)
    | other => .fail (.invalidDefinition ("properties " ++ other.text))
  else .pure none

/-- `lowerProperties` reads the keyword `properties`. -/
theorem lowerProperties_eq (required : List String) (node : List (String × Document)) :
    lowerProperties required node =
      (node.lookup "properties").elim (.pure none) (lowerDeclared required) := by
  refine Entries.eq_elim_lookup rfl (fun name value rest => ?_) node
  cases value <;> rfl

/-- `lowerAdditional` reads the keyword `additionalProperties`. -/
theorem lowerAdditional_eq (node : List (String × Document)) :
    lowerAdditional node = (node.lookup "additionalProperties").elim (.pure .closed)
      fun value => additionalWith (lowerNode value) value :=
  Entries.eq_elim_lookup rfl (fun _ _ _ => rfl) node

/-- A value of `additionalProperties` that is not truthy admits nothing. -/
theorem lowerAdditional_of_not_declares {node : List (String × Document)}
    (h : declares node "additionalProperties" = false) : lowerAdditional node = .pure .closed := by
  rw [lowerAdditional_eq]
  unfold declares at h
  cases hv : node.lookup "additionalProperties" with
  | none => rfl
  | some value =>
    rw [hv, Option.any_some] at h
    unfold additionalWith
    simp [h]

/-- A value of `additionalProperties` is lowered for what it is. -/
theorem lowerAdditional_of_lookup {node : List (String × Document)} {value : Document}
    (h : node.lookup "additionalProperties" = some value) :
    lowerAdditional node = additionalWith (lowerNode value) value := by
  rw [lowerAdditional_eq, h, Option.elim_some]

/-! ## Object nodes -/

/-- The lowering of a node of type `object`. -/
def lowerObject (node : List (String × Document)) : Lowering Schema :=
  objectWith (lowerProperties (requiredNames node) node) (lowerAdditional node)

/-- What `properties` can be: undeclared, an object that is not empty, or a truthy value of another
shape. -/
theorem properties_cases (node : List (String × Document)) :
    declares node "properties" = false ∨
    (∃ definition definitions,
      node.lookup "properties" = some (.object (definition :: definitions))) ∨
    ∃ value, node.lookup "properties" = some value ∧ value.truthy = true ∧
      ∀ definitions, value ≠ .object definitions := by
  cases h : declares node "properties" with
  | false => exact .inl rfl
  | true =>
    obtain ⟨value, hv, ht⟩ := (Option.any_eq_true _ _).1 h
    cases value with
    | object definitions =>
      cases definitions with
      | nil => cases ht
      | cons definition definitions => exact .inr (.inl ⟨definition, definitions, hv⟩)
    | null | bool | number | string | list => exact .inr (.inr ⟨_, hv, ht, nofun⟩)

/-- Without declared properties nothing else of an object node is read. -/
theorem lowerObject_of_not_declares {node : List (String × Document)}
    (h : declares node "properties" = false) : lowerObject node = .pure .emptyObject := by
  unfold declares at h
  rw [lowerObject, lowerProperties_eq]
  cases hv : node.lookup "properties" with
  | none => rfl
  | some value =>
    rw [hv, Option.any_some] at h
    unfold lowerDeclared
    simp [h, objectWith]

/-- Declared definitions are lowered in order, and what else is admitted after them. -/
theorem lowerObject_of_definitions {node definitions : List (String × Document)}
    (h : node.lookup "properties" = some (.object definitions)) (hne : definitions ≠ []) :
    lowerObject node = (lowerDefinitions (requiredNames node) definitions).bind fun properties =>
      (lowerAdditional node).bind fun rest => .pure (.object properties rest) := by
  have ht : (Document.object definitions).truthy = true := by
    cases definitions with
    | nil => exact absurd rfl hne
    | cons => rfl
  rw [lowerObject, lowerProperties_eq, h, Option.elim_some, lowerDeclared, if_pos ht, objectWith]
  cases hd : lowerDefinitions (requiredNames node) definitions with
  | mk steps result => cases result <;> simp [Lowering.bind, Lowering.pure]

/-- A truthy value of `properties` that is no object is an error, which quotes it. -/
theorem lowerObject_of_other {node : List (String × Document)} {value : Document}
    (h : node.lookup "properties" = some value) (ht : value.truthy = true)
    (hv : ∀ definitions, value ≠ .object definitions) :
    lowerObject node = .fail (.invalidDefinition ("properties " ++ value.text)) := by
  rw [lowerObject, lowerProperties_eq, h, Option.elim_some]
  unfold lowerDeclared
  rw [if_pos ht]
  cases value with
  | object definitions => exact absurd rfl (hv definitions)
  | null | bool | number | string | list => rfl

/-- The outcome of an object node with declared definitions. -/
theorem result_lowerObject_of_definitions {node definitions : List (String × Document)}
    (h : node.lookup "properties" = some (.object definitions)) (hne : definitions ≠ []) :
    (lowerObject node).result =
      (lowerDefinitions (requiredNames node) definitions).result.bind fun properties =>
        (lowerAdditional node).result.map (.object properties) := by
  rw [lowerObject_of_definitions h hne, Lowering.result_bind]
  simp only [Lowering.result_bind_pure]

/-- The outcome of a list of definitions comes from that of the first and that of the others. -/
theorem result_lowerDefinitions_cons (required : List String) (name : String)
    (definition : Document) (rest : List (String × Document)) :
    (lowerDefinitions required ((name, definition) :: rest)).result =
      ((propertyWith name (required.contains name) (lowerNode definition)
        definition).result.mapError (.inProperty name)).bind fun property =>
          (lowerDefinitions required rest).result.map ((name, property) :: ·) := by
  rw [lowerDefinitions, Lowering.result_bind, Lowering.result_inProperty]
  simp only [Lowering.result_bind_pure]

/-- Lowering definitions up to some point and from there on. -/
theorem result_lowerDefinitions_append (required : List String)
    (earlier later : List (String × Document)) :
    (lowerDefinitions required (earlier ++ later)).result =
      (lowerDefinitions required earlier).result.bind fun ps =>
        (lowerDefinitions required later).result.map (ps ++ ·) := by
  induction earlier with
  | nil =>
    rw [List.nil_append, lowerDefinitions]
    cases (lowerDefinitions required later).result <;> rfl
  | cons first earlier ih =>
    obtain ⟨name, definition⟩ := first
    rw [List.cons_append, result_lowerDefinitions_cons, result_lowerDefinitions_cons, ih]
    cases (propertyWith name (required.contains name) (lowerNode definition) definition).result with
    | error e => rfl
    | ok property =>
      cases (lowerDefinitions required earlier).result with
      | error e => rfl
      | ok ps => cases (lowerDefinitions required later).result <;> rfl

/-- Every definition gives one property, under its name. -/
theorem names_of_lowerDefinitions {required : List String} {definitions : List (String × Document)}
    {properties : List (String × Property)}
    (h : (lowerDefinitions required definitions).result = .ok properties) :
    Entries.names properties = Entries.names definitions := by
  induction definitions generalizing properties with
  | nil =>
    cases h
    rfl
  | cons first definitions ih =>
    obtain ⟨name, definition⟩ := first
    rw [result_lowerDefinitions_cons] at h
    obtain ⟨property, -, hmap⟩ := ok_of_bind h
    obtain ⟨rest, hrest, rfl⟩ := ok_of_map hmap
    exact congrArg (name :: ·) (ih hrest)

/-- An object that is no reference is lowered as a node. -/
theorem result_propertyWith {node : List (String × Document)} (h : node.lookup "$ref" = none)
    (name : String) (required : Bool) (lowered : Lowering Schema) :
    (propertyWith name required lowered (.object node)).result =
      lowered.result.map (.typed · required) := by
  rw [propertyWith, h]
  exact Lowering.result_bind_pure lowered _

/-- An object that is not empty is lowered as a node under `additionalProperties`. -/
theorem result_additionalWith {node : List (String × Document)} (h : node ≠ [])
    (lowered : Lowering Schema) :
    (additionalWith lowered (.object node)).result = lowered.result.map .schema := by
  cases node with
  | nil => exact absurd rfl h
  | cons member members => exact Lowering.result_bind_pure lowered _

/-! ## Nodes by type -/

/-- A node whose `type` names a kind is of that kind. -/
theorem kindOf_of_type (kind : Kind) {node : List (String × Document)}
    (h : node.lookup "type" = some (.string kind.name)) : kindOf node = .ok kind := by
  unfold kindOf
  rw [h]
  cases kind <;> rfl

/-- Only the name of a kind is read as that kind. -/
theorem ofName?_eq_some {name : String} {kind : Kind} (h : Kind.ofName? name = some kind) :
    name = kind.name := by
  unfold Kind.ofName? at h
  split at h
  all_goals cases h
  all_goals rfl

/-- A node of a kind names it as its `type`. -/
theorem type_of_kindOf {node : List (String × Document)} {kind : Kind}
    (h : kindOf node = .ok kind) : node.lookup "type" = some (.string kind.name) := by
  unfold kindOf at h
  split at h
  · cases h
  · next name hname =>
    split at h
    · next found hfound =>
      cases h
      rw [hname, ofName?_eq_some hfound]
    · cases h
  · cases h

/-- A name that is not the name of a kind is no kind. -/
theorem ofName?_eq_none {name : String} (h : ∀ kind : Kind, name ≠ kind.name) :
    Kind.ofName? name = none := by
  cases hkind : Kind.ofName? name with
  | none => rfl
  | some kind => exact absurd (ofName?_eq_some hkind) (h kind)

/-- A node of type `object` is lowered by its properties, and completed. -/
theorem lowerNode_of_object {node : List (String × Document)}
    (h : node.lookup "type" = some (.string "object")) :
    lowerNode (.object node) = (lowerObject node).completed := by
  rw [lowerNode, kindOf_of_type .object h]
  rfl

/-- A node of type `array` is lowered by its items and bounds, and completed. -/
theorem lowerNode_of_array {node : List (String × Document)}
    (h : node.lookup "type" = some (.string "array")) :
    lowerNode (.object node) = ((lowerItems node).bind fun items =>
      .pure (.array items (cardinalityOf node))).completed := by
  rw [lowerNode, kindOf_of_type .array h]

/-- A node of type `string` is lowered by its constraint, and completed. -/
theorem lowerNode_of_string {node : List (String × Document)}
    (h : node.lookup "type" = some (.string "string")) :
    lowerNode (.object node) = (Lowering.pure (.string (stringConstraint node))).completed := by
  rw [lowerNode, kindOf_of_type .string h]

/-- A root of type `object` is lowered as a node is, but not completed. -/
theorem lowerRoot_of_object {node : List (String × Document)}
    (h : node.lookup "type" = some (.string "object")) :
    lowerRoot (.object node) = lowerObject node := by
  rw [lowerRoot, h]
  rfl

/-- A root of type `object` has the outcome of the node. -/
theorem result_lowerRoot_of_object {node : List (String × Document)}
    (h : node.lookup "type" = some (.string "object")) :
    (lowerRoot (.object node)).result = (lowerNode (.object node)).result := by
  rw [lowerRoot_of_object h, lowerNode_of_object h, Lowering.result_completed]

/-- A root that is not of type `object` fails, whatever else it is. -/
theorem result_lowerRoot_of_ne {node : List (String × Document)}
    (h : node.lookup "type" ≠ some (.string "object")) :
    (lowerRoot (.object node)).result =
      .error (.invalidSchema "root schema must be an object type") := by
  rw [lowerRoot]
  split
  · next htype => exact absurd htype h
  · rfl

/-! ## Successful lowerings

What a lowering that succeeds has read, one lemma for each function of the descent. -/

/-- A root that is lowered is a node of type `object` that is lowered. -/
theorem ok_of_lowerRoot {value : Document} {schema : Schema}
    (h : (lowerRoot value).result = .ok schema) : (lowerNode value).result = .ok schema := by
  cases value with
  | object node =>
    by_cases htype : node.lookup "type" = some (.string "object")
    · rw [result_lowerRoot_of_object htype] at h
      exact h
    · rw [result_lowerRoot_of_ne htype] at h
      cases h
  | null | bool | number | string | list => cases h

/-- An object node that is lowered declares no properties, or its definitions and what else it
admits are lowered. -/
theorem ok_of_lowerObject {node : List (String × Document)} {schema : Schema}
    (h : (lowerObject node).result = .ok schema) :
    schema = .emptyObject ∨
    ∃ definitions properties additional,
      node.lookup "properties" = some (.object definitions) ∧ definitions ≠ [] ∧
      (lowerDefinitions (requiredNames node) definitions).result = .ok properties ∧
      (lowerAdditional node).result = .ok additional ∧ schema = .object properties additional := by
  rcases properties_cases node with hp | ⟨definition, definitions, hp⟩ | ⟨value, hp, ht, hv⟩
  · rw [lowerObject_of_not_declares hp] at h
    exact .inl (Except.ok.inj h).symm
  · rw [result_lowerObject_of_definitions hp (List.cons_ne_nil _ _)] at h
    obtain ⟨properties, hproperties, hmap⟩ := ok_of_bind h
    obtain ⟨additional, hadditional, rfl⟩ := ok_of_map hmap
    exact .inr ⟨_, properties, additional, hp, List.cons_ne_nil _ _, hproperties, hadditional, rfl⟩
  · rw [lowerObject_of_other hp ht hv] at h
    cases h

/-- A node that is lowered is an object, lowered as its type says. -/
theorem ok_of_lowerNode {value : Document} {schema : Schema}
    (h : (lowerNode value).result = .ok schema) :
    ∃ node, value = .object node ∧
      ((lowerObject node).result = .ok schema ∨
        (∃ item items, node.lookup "items" = some item ∧ (lowerNode item).result = .ok items ∧
          schema = .array items (cardinalityOf node)) ∨
        schema = .string (stringConstraint node) ∨
        schema = .null ∨ schema = .boolean ∨ schema = .integer ∨ schema = .number) := by
  cases value with
  | object node =>
    refine ⟨node, rfl, ?_⟩
    cases hkind : kindOf node with
    | error e =>
      rw [lowerNode, hkind] at h
      cases h
    | ok kind =>
      have htype := type_of_kindOf hkind
      cases kind with
      | object =>
        rw [lowerNode_of_object htype, Lowering.result_completed] at h
        exact .inl h
      | array =>
        rw [lowerNode_of_array htype, Lowering.result_completed, Lowering.result_bind_pure,
          lowerItems_eq] at h
        obtain ⟨items, hitems, rfl⟩ := ok_of_map h
        cases hitem : node.lookup "items" with
        | none =>
          rw [hitem] at hitems
          cases hitems
        | some item =>
          rw [hitem] at hitems
          exact .inr (.inl ⟨item, items, rfl, hitems, rfl⟩)
      | string =>
        rw [lowerNode_of_string htype] at h
        simp [(Except.ok.inj h).symm]
      | null | boolean | integer | number =>
        rw [lowerNode, hkind] at h
        simp [(Except.ok.inj h).symm]
  | null | bool | number | string | list => cases h

/-- A typed property is the schema of its definition as a node. -/
theorem ok_of_propertyWith {name : String} {required r : Bool} {lowered : Lowering Schema}
    {definition : Document} {schema : Schema}
    (h : (propertyWith name required lowered definition).result = .ok (.typed schema r)) :
    lowered.result = .ok schema ∧ r = required := by
  cases definition with
  | object node =>
    cases href : node.lookup "$ref" with
    | some target =>
      rw [propertyWith, href] at h
      cases h
    | none =>
      rw [result_propertyWith href] at h
      obtain ⟨found, hfound, heq⟩ := ok_of_map h
      cases heq
      exact ⟨hfound, rfl⟩
  | null | bool | number | string | list => cases h

/-- A typed property comes from a definition of its name that is lowered as a node. -/
theorem ok_of_mem_lowerDefinitions {required : List String}
    {definitions : List (String × Document)} {properties : List (String × Property)}
    (h : (lowerDefinitions required definitions).result = .ok properties) {name : String}
    {schema : Schema} {r : Bool} (hmem : (name, Property.typed schema r) ∈ properties) :
    ∃ definition, (name, definition) ∈ definitions ∧ (lowerNode definition).result = .ok schema ∧
      r = required.contains name := by
  induction definitions generalizing properties with
  | nil =>
    cases h
    cases hmem
  | cons first rest ih =>
    obtain ⟨n, definition⟩ := first
    rw [result_lowerDefinitions_cons] at h
    obtain ⟨property, hproperty, hmap⟩ := ok_of_bind h
    obtain ⟨others, hothers, rfl⟩ := ok_of_map hmap
    rcases List.mem_cons.1 hmem with heq | hmem
    · cases heq
      exact ⟨definition, List.mem_cons_self, ok_of_propertyWith (ok_of_mapError hproperty)⟩
    · obtain ⟨d, hd, hok⟩ := ih hothers hmem
      exact ⟨d, List.mem_cons_of_mem _ hd, hok⟩

/-- What else an object admits, if it is a schema, comes from `additionalProperties`. -/
theorem ok_of_lowerAdditional {node : List (String × Document)} {schema : Schema}
    (h : (lowerAdditional node).result = .ok (.schema schema)) :
    ∃ value, node.lookup "additionalProperties" = some value ∧
      (lowerNode value).result = .ok schema := by
  cases hv : node.lookup "additionalProperties" with
  | none =>
    rw [lowerAdditional_eq, hv] at h
    cases h
  | some value =>
    rw [lowerAdditional_of_lookup hv] at h
    refine ⟨value, rfl, ?_⟩
    unfold additionalWith at h
    split at h
    · split at h
      · cases h
      · rw [Lowering.result_bind_pure] at h
        obtain ⟨found, hfound, heq⟩ := ok_of_map h
        cases heq
        exact hfound
      · cases h
    · cases h

/-! ## Induction over nodes -/

/-- A value found in a node is smaller than the node. -/
theorem sizeOf_lt_of_lookup {node : List (String × Document)} {key : String} {value : Document}
    (h : node.lookup key = some value) : sizeOf value < sizeOf (Document.object node) := by
  have hle : sizeOf value < sizeOf node := by
    induction node with
    | nil => cases h
    | cons entry rest ih =>
      obtain ⟨name, v⟩ := entry
      rw [Entries.lookup_cons] at h
      split at h
      · injection h with h
        subst h
        simp only [List.cons.sizeOf_spec, Prod.mk.sizeOf_spec]
        omega
      · have := ih h
        simp only [List.cons.sizeOf_spec, Prod.mk.sizeOf_spec]
        omega
  rw [Document.object.sizeOf_spec]
  omega

/-- A property definition is smaller than the node that declares it. -/
theorem sizeOf_lt_of_definition {node definitions : List (String × Document)}
    (h : node.lookup "properties" = some (.object definitions)) {definition : String × Document}
    (hmem : definition ∈ definitions) : sizeOf definition.2 < sizeOf (Document.object node) := by
  have hlt := sizeOf_lt_of_lookup h
  have hlist := List.sizeOf_lt_of_mem hmem
  obtain ⟨name, value⟩ := definition
  simp only [Document.object.sizeOf_spec, Prod.mk.sizeOf_spec] at hlt hlist ⊢
  omega

/-- The values that a descent from a node can go on with: the values of its keywords and the
definitions that it declares. -/
inductive PartOf (node : List (String × Document)) : Document → Prop
  | keyword {key : String} {value : Document} (h : node.lookup key = some value) : PartOf node value
  | definition {definitions : List (String × Document)} {name : String} {value : Document}
      (h : node.lookup "properties" = some (.object definitions))
      (hmem : (name, value) ∈ definitions) : PartOf node value

/-- A part of a node is smaller than the node. -/
theorem PartOf.sizeOf_lt {node : List (String × Document)} {value : Document}
    (h : PartOf node value) : sizeOf value < sizeOf (Document.object node) := by
  cases h with
  | keyword h => exact sizeOf_lt_of_lookup h
  | definition h hmem => exact sizeOf_lt_of_definition h hmem

/-- **Induction over nodes.** What holds of a node whenever it holds of its parts, and of every
value that is no node, holds of all values. -/
@[elab_as_elim]
theorem Document.node_induction {motive : Document → Prop}
    (node : ∀ node, (∀ value, PartOf node value → motive value) → motive (.object node))
    (other : ∀ value : Document, (∀ node, value ≠ .object node) → motive value)
    (value : Document) : motive value := by
  induction hn : sizeOf value using Nat.strongRecOn generalizing value with
  | ind n ih =>
    subst hn
    cases value with
    | object members => exact node members fun part hpart => ih _ hpart.sizeOf_lt part rfl
    | null | bool | number | string | list => exact other _ nofun

end SchemaGrammar
