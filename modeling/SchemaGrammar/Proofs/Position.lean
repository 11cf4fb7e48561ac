import Mathlib.Data.List.Lex
import SchemaGrammar.Proofs.Keywords

/-!
# Positions of a document and the first defect

A document is lowered by visiting its *positions*: the root, and below a position whatever
`Position.below` lists, in that order. Each position has a shape of its own that can be wrong
(`Position.defect?`), independently of what is below it. The main result of this module says that
lowering succeeds exactly on the documents none of whose positions is defective, and that the error
of any other document is the defect of the first defective position, named by the properties on the
way to it. *First* is document order: a position comes before those below it, and these come in the
order of `Position.below`, so the routes to positions are compared lexicographically.

The argument has two parts. `Position.error?_eq` is the step: the error of a position is its own
defect or else the first error below it. `Position.error?_eq_some_iff` is the induction along
routes, which uses nothing about lowering but the step.
-/

namespace SchemaGrammar

/-! ## Positions -/

/-- What a value is for the node that holds it. -/
inductive Role where
  | root
  /-- The definition of the named property. -/
  | property (name : String)
  /-- The value of `items`. -/
  | items
  /-- The value of `additionalProperties`. -/
  | additional
deriving DecidableEq

/-- The property that a step to a position of this role enters, if any. -/
def Role.names : Role → List String
  | .property name => [name]
  | _ => []

/-- A value together with its role. -/
structure Position where
  role : Role
  value : Document

namespace Position

/-- The position of `additionalProperties`, if it is truthy. -/
def additionalBelow (node : List (String × Document)) : List Position :=
  match node.lookup "additionalProperties" with
  | some value => if value.truthy then [⟨.additional, value⟩] else []
  | none => []

/-- The positions below an object node: the property definitions in order, then
`additionalProperties`. There is none unless `properties` is an object that is not empty. -/
def objectBelow (node : List (String × Document)) : List Position :=
  match node.lookup "properties" with
  | some (.object (definition :: definitions)) =>
    (definition :: definitions).map (fun d => ⟨.property d.1, d.2⟩) ++ additionalBelow node
  | _ => []

/-- The position below an array node. -/
def arrayBelow (node : List (String × Document)) : List Position :=
  match node.lookup "items" with
  | some value => [⟨.items, value⟩]
  | none => []

/-- The positions below a schema node. -/
def nodeBelow (node : List (String × Document)) : List Position :=
  match node.lookup "type" with
  | some (.string name) =>
    if name = "object" then objectBelow node
    else if name = "array" then arrayBelow node
    else []
  | _ => []

/-- The positions directly below a position, in document order. A root is looked into only when it
is of type `object`, and a property definition only when it is no reference. -/
def below : Position → List Position
  | ⟨.root, .object node⟩ =>
    match node.lookup "type" with
    | some (.string name) => if name = "object" then objectBelow node else []
    | _ => []
  | ⟨.property _, .object node⟩ => if (node.lookup "$ref").isSome then [] else nodeBelow node
  | ⟨.items, .object node⟩ => nodeBelow node
  | ⟨.additional, .object node⟩ => nodeBelow node
  | _ => []

/-! ## Defects -/

/-- What is wrong with the `properties` of an object node: a truthy value that is no object. -/
def propertiesDefect? (node : List (String × Document)) : Option CompileError :=
  match node.lookup "properties" with
  | none => none
  | some (.object _) => none
  | some value =>
    if value.truthy then some (.invalidDefinition ("properties " ++ value.text)) else none

/-- What is wrong with a schema node by its own keywords. -/
def nodeDefect? (node : List (String × Document)) : Option CompileError :=
  match node.lookup "type" with
  | none => some .missingType
  | some (.string name) =>
    if name = "object" then propertiesDefect? node
    else if name = "array" then if (node.lookup "items").isSome then none else some .missingItems
    else if name ∈ ["string", "integer", "number", "boolean", "null"] then none
    else some (.unsupportedType name)
  | some other => some (.unsupportedType other.text)

/-- What is wrong with a position by its own shape. -/
def defect? : Position → Option CompileError
  | ⟨.root, .object node⟩ =>
    match node.lookup "type" with
    | some (.string name) =>
      if name = "object" then propertiesDefect? node
      else some (.invalidSchema "root schema must be an object type")
    | _ => some (.invalidSchema "root schema must be an object type")
  | ⟨.root, _⟩ => some (.invalidSchema "schema must be a mapping")
  | ⟨.property _, .object node⟩ => if (node.lookup "$ref").isSome then none else nodeDefect? node
  | ⟨.property name, _⟩ => some (.invalidDefinition name)
  | ⟨.items, .object node⟩ => nodeDefect? node
  | ⟨.items, value⟩ => some (.invalidDefinition ("schema node " ++ value.text))
  | ⟨.additional, value⟩ =>
    if value.truthy then
      match value with
      | .bool _ => none
      | .object node => nodeDefect? node
      | other => some (.invalidDefinition ("additionalProperties " ++ other.text))
    else none

/-- `Reaches p route names q`: the numbers of `route` lead down from `p` to `q`, past the
properties `names`. -/
inductive Reaches : Position → List Nat → List String → Position → Prop
  | here (p : Position) : Reaches p [] [] p
  | step {p q r : Position} {i : Nat} {route : List Nat} {names : List String}
      (hq : p.below[i]? = some q) (hr : Reaches q route names r) :
      Reaches p (i :: route) (q.role.names ++ names) r

end Position

/-- An error named by the properties on the way to it, outermost first. -/
def CompileError.along (names : List String) (cause : CompileError) : CompileError :=
  names.foldr .inProperty cause

/-- `FirstDefect p route names cause`: the first defective position from `p` on is the one that
`route` leads to. It has the defect `cause` and lies inside the properties `names`. -/
def Position.FirstDefect (p : Position) (route : List Nat) (names : List String)
    (cause : CompileError) : Prop :=
  ∃ q, Reaches p route names q ∧ q.defect? = some cause ∧
    ∀ route' names' q', Reaches p route' names' q' → route' < route → q'.defect? = none

/-! ## Errors of lowerings -/

namespace Lowering

variable {α β : Type}

/-- The error that a lowering ends with, if it fails. -/
def error? (x : Lowering α) : Option CompileError :=
  match x.result with
  | .ok _ => none
  | .error e => some e

/-- A lowering has an error exactly if that is its result. -/
theorem error?_eq_some_iff {x : Lowering α} {e : CompileError} :
    x.error? = some e ↔ x.result = .error e := by
  unfold error?
  cases x.result <;> simp

/-- A lowering has no error exactly if it has a result. -/
theorem error?_eq_none_iff {x : Lowering α} : x.error? = none ↔ ∃ a, x.result = .ok a := by
  unfold error?
  cases x.result <;> simp

@[simp] theorem error?_pure (a : α) : (pure a).error? = none := rfl

@[simp] theorem error?_fail (e : CompileError) : (fail e : Lowering α).error? = some e := rfl

/-- Where the error of what follows does not depend on the value so far, the first error counts. -/
theorem error?_bind (x : Lowering α) {f : α → Lowering β} {later : Option CompileError}
    (h : ∀ a, (f a).error? = later) : (x.bind f).error? = x.error?.or later := by
  unfold error?
  rw [result_bind]
  cases x.result with
  | error e => rfl
  | ok a => rw [← h a]; rfl

@[simp] theorem error?_bind_pure (x : Lowering α) (g : α → β) :
    (x.bind fun a => pure (g a)).error? = x.error? := by
  rw [error?_bind x fun a => error?_pure (g a), Option.or_none]

@[simp] theorem error?_completed (x : Lowering Schema) : x.completed.error? = x.error? := by
  unfold error?
  rw [result_completed]

@[simp] theorem error?_inProperty (name : String) (x : Lowering α) :
    (x.inProperty name).error? = x.error?.map (.inProperty name) := by
  unfold error?
  rw [result_inProperty]
  cases x.result <;> rfl

end Lowering

/-- A reference has no error, and any other definition that is an object has that of its node. -/
theorem error?_propertyWith (name : String) (required : Bool) (lowered : Lowering Schema)
    (node : List (String × Document)) :
    (propertyWith name required lowered (.object node)).error? =
      if (node.lookup "$ref").isSome then none else lowered.error? := by
  unfold propertyWith
  cases h : node.lookup "$ref" with
  | none => simp [h]
  | some target => simp [h, Lowering.step, Lowering.error?, Lowering.bind, Lowering.pure]

namespace Position

/-- The error that lowering a position for its role ends with. Whether a property is required plays
no part in it. -/
def error? : Position → Option CompileError
  | ⟨.root, value⟩ => (lowerRoot value).error?
  | ⟨.property name, value⟩ => (propertyWith name true (lowerNode value) value).error?
  | ⟨.items, value⟩ => (lowerNode value).error?
  | ⟨.additional, value⟩ => (additionalWith (lowerNode value) value).error?

/-- The first error of some positions, each named by the property that it defines. -/
def firstError? (positions : List Position) : Option CompileError :=
  positions.findSome? fun q => q.error?.map (CompileError.along q.role.names)

@[simp] theorem firstError?_nil : firstError? [] = none := rfl

@[simp] theorem firstError?_singleton (q : Position) :
    firstError? [q] = q.error?.map (CompileError.along q.role.names) := by
  simp [firstError?]

/-- The first error of two lists is that of the first list, if it has one. -/
theorem firstError?_append (ps qs : List Position) :
    firstError? (ps ++ qs) = (firstError? ps).or (firstError? qs) :=
  List.findSome?_append

/-- The error of a property definition does not depend on whether it is required. -/
theorem error?_property (name : String) (required : Bool) (value : Document) :
    (propertyWith name required (lowerNode value) value).error? =
      error? ⟨.property name, value⟩ := by
  show _ = (propertyWith name true (lowerNode value) value).error?
  cases value with
  | object node => rw [error?_propertyWith, error?_propertyWith]
  | null | bool | number | string | list => rfl

/-- Property definitions fail with the first error among them. -/
theorem error?_lowerDefinitions (required : List String) (definitions : List (String × Document)) :
    (lowerDefinitions required definitions).error? =
      firstError? (definitions.map fun d => ⟨.property d.1, d.2⟩) := by
  induction definitions with
  | nil => simp [lowerDefinitions, firstError?]
  | cons definition rest ih =>
    obtain ⟨name, value⟩ := definition
    have hrest : ∀ property : Property, ((lowerDefinitions required rest).bind fun properties =>
        .pure ((name, property) :: properties)).error? =
          firstError? (rest.map fun d => ⟨.property d.1, d.2⟩) := by
      intro property
      rw [Lowering.error?_bind_pure, ih]
    rw [lowerDefinitions, Lowering.error?_bind _ hrest, Lowering.error?_inProperty,
      error?_property, firstError?, firstError?, List.map_cons, List.findSome?_cons]
    cases error? ⟨.property name, value⟩ <;> rfl

/-- What an object admits besides its properties fails with the error of that position. -/
theorem error?_lowerAdditional (node : List (String × Document)) :
    (lowerAdditional node).error? = firstError? (additionalBelow node) := by
  unfold additionalBelow
  cases h : node.lookup "additionalProperties" with
  | none =>
    rw [lowerAdditional_of_not_declares (by simp [declares, h])]
    rfl
  | some value =>
    cases ht : value.truthy with
    | false =>
      rw [lowerAdditional_of_not_declares (by simp [declares, h, ht])]
      simp [firstError?, ht]
    | true =>
      rw [lowerAdditional_of_lookup h]
      simp only [ht, if_true, firstError?_singleton]
      show error? ⟨.additional, value⟩ = _
      cases error? ⟨.additional, value⟩ <;> rfl

/-- Undeclared properties are no defect, and then nothing is below. -/
theorem objectBelow_of_not_declares {node : List (String × Document)}
    (h : declares node "properties" = false) :
    propertiesDefect? node = none ∧ objectBelow node = [] := by
  unfold declares at h
  unfold propertiesDefect? objectBelow
  cases hv : node.lookup "properties" with
  | none => exact ⟨rfl, rfl⟩
  | some value =>
    rw [hv, Option.any_some] at h
    cases value with
    | object definitions =>
      cases definitions with
      | nil => exact ⟨rfl, rfl⟩
      | cons => cases h
    | null | bool | number | string | list => simp [h]

/-- Below an object node with definitions are these and what else it admits. -/
theorem objectBelow_of_definitions {node definitions : List (String × Document)}
    (h : node.lookup "properties" = some (.object definitions)) (hne : definitions ≠ []) :
    objectBelow node = definitions.map (fun d => ⟨.property d.1, d.2⟩) ++ additionalBelow node := by
  cases definitions with
  | nil => exact absurd rfl hne
  | cons definition definitions => simp only [objectBelow, h]

/-- An object node fails by its own `properties` or else with the first error below it. -/
theorem error?_lowerObject (node : List (String × Document)) :
    (lowerObject node).error? = (propertiesDefect? node).or (firstError? (objectBelow node)) := by
  rcases properties_cases node with h | ⟨definition, definitions, h⟩ | ⟨value, h, ht, hv⟩
  · obtain ⟨hd, hb⟩ := objectBelow_of_not_declares h
    rw [lowerObject_of_not_declares h, hd, hb]
    rfl
  · have hlater : ∀ properties : List (String × Property), ((lowerAdditional node).bind
        fun rest => .pure (Schema.object properties rest)).error? =
          firstError? (additionalBelow node) := by
      intro properties
      rw [Lowering.error?_bind_pure, error?_lowerAdditional]
    rw [lowerObject_of_definitions h (by simp), Lowering.error?_bind _ hlater,
      error?_lowerDefinitions, ← firstError?_append, objectBelow_of_definitions h (by simp)]
    simp only [propertiesDefect?, h, Option.none_or]
  · rw [lowerObject_of_other h ht hv]
    cases value with
    | object definitions => exact absurd rfl (hv definitions)
    | null | bool | number | string | list => simp [propertiesDefect?, h, ht]

/-- A node of a kind without parts does not fail. -/
theorem error?_lowerNode_of_leaf {node : List (String × Document)} {name : String}
    (h : node.lookup "type" = some (.string name))
    (hn : name ∈ ["string", "integer", "number", "boolean", "null"]) :
    (lowerNode (.object node)).error? = none := by
  simp only [List.mem_cons, List.not_mem_nil, or_false] at hn
  rcases hn with rfl | rfl | rfl | rfl | rfl
  · rw [lowerNode_of_string h]; rfl
  · rw [lowerNode, kindOf_of_type .integer h]; rfl
  · rw [lowerNode, kindOf_of_type .number h]; rfl
  · rw [lowerNode, kindOf_of_type .boolean h]; rfl
  · rw [lowerNode, kindOf_of_type .null h]; rfl

/-- A node of an unknown type fails with its name. -/
theorem error?_lowerNode_of_unknown {node : List (String × Document)} {name : String}
    (h : node.lookup "type" = some (.string name)) (hn : ∀ kind : Kind, name ≠ kind.name) :
    (lowerNode (.object node)).error? = some (.unsupportedType name) := by
  simp [lowerNode, kindOf, h, ofName?_eq_none hn]

/-- A schema node fails by its own keywords or else with the first error below it. -/
theorem error?_lowerNode (node : List (String × Document)) :
    (lowerNode (.object node)).error? = (nodeDefect? node).or (firstError? (nodeBelow node)) := by
  unfold nodeDefect? nodeBelow
  cases h : node.lookup "type" with
  | none => simp [lowerNode, kindOf, h]
  | some value =>
    cases value with
    | string name =>
      by_cases ho : name = "object"
      · subst ho
        simp [lowerNode_of_object h, error?_lowerObject]
      by_cases ha : name = "array"
      · subst ha
        rw [lowerNode_of_array h, Lowering.error?_completed, Lowering.error?_bind_pure,
          lowerItems_eq]
        cases hi : node.lookup "items" with
        | none => simp
        | some items =>
          simp only [Option.elim_some, String.reduceEq, ↓reduceIte, Option.isSome_some, arrayBelow,
            hi, firstError?_singleton, Option.none_or]
          show error? ⟨.items, items⟩ = _
          cases error? ⟨.items, items⟩ <;> rfl
      by_cases hn : name ∈ ["string", "integer", "number", "boolean", "null"]
      · simp only [if_neg ho, if_neg ha, if_pos hn, firstError?_nil, Option.or_none]
        exact error?_lowerNode_of_leaf h hn
      · simp only [if_neg ho, if_neg ha, if_neg hn, firstError?_nil, Option.or_none]
        refine error?_lowerNode_of_unknown h fun kind hk => ?_
        subst hk
        cases kind <;> simp [Kind.name] at ho ha hn
    | null | bool | number | object | list => simp [lowerNode, kindOf, h]

/-- The error of the root is its own defect or the first error below it. -/
theorem error?_root (value : Document) :
    (lowerRoot value).error? =
      (defect? ⟨.root, value⟩).or (firstError? (below ⟨.root, value⟩)) := by
  cases value with
  | object node =>
    simp only [defect?, below]
    cases h : node.lookup "type" with
    | none => simp [lowerRoot, h]
    | some type =>
      cases type with
      | string name =>
        by_cases ho : name = "object"
        · subst ho
          simp [lowerRoot_of_object h, error?_lowerObject]
        · simp [lowerRoot, h, ho]
      | null | bool | number | object | list => simp [lowerRoot, h]
  | null | bool | number | string | list => rfl

/-- The error of a property is its own defect or the first error below it. -/
theorem error?_definition (name : String) (value : Document) :
    (propertyWith name true (lowerNode value) value).error? =
      (defect? ⟨.property name, value⟩).or (firstError? (below ⟨.property name, value⟩)) := by
  cases value with
  | object node =>
    rw [error?_propertyWith, error?_lowerNode]
    simp only [defect?, below]
    split <;> rfl
  | null | bool | number | string | list => rfl

/-- The error of items is their own defect or the first error below them. -/
theorem error?_items (value : Document) :
    (lowerNode value).error? =
      (defect? ⟨.items, value⟩).or (firstError? (below ⟨.items, value⟩)) := by
  cases value with
  | object node => exact error?_lowerNode node
  | null | bool | number | string | list => simp [lowerNode, defect?]

/-- The error of additional properties is their own defect or the first error below them. -/
theorem error?_additional (value : Document) :
    (additionalWith (lowerNode value) value).error? =
      (defect? ⟨.additional, value⟩).or (firstError? (below ⟨.additional, value⟩)) := by
  unfold additionalWith
  cases value with
  | object node =>
    cases node with
    | nil => rfl
    | cons member members =>
      have ht : (Document.object (member :: members)).truthy = true := rfl
      simp only [defect?, ht, if_true, Lowering.error?_bind_pure]
      exact error?_lowerNode (member :: members)
  | null | bool | number | string | list =>
    simp only [defect?, below]
    split <;> rfl

/-- **The step.** The error of a position is its own defect or else the first error below it. -/
theorem error?_eq (p : Position) : p.error? = p.defect?.or (firstError? p.below) := by
  obtain ⟨role, value⟩ := p
  cases role with
  | root => exact error?_root value
  | property name => exact error?_definition name value
  | items => exact error?_items value
  | additional => exact error?_additional value

/-! ## Routes -/

/-- What is below an object node is part of it. -/
theorem partOf_of_mem_objectBelow {node : List (String × Document)} {q : Position}
    (h : q ∈ objectBelow node) : PartOf node q.value := by
  unfold objectBelow additionalBelow at h
  split at h
  · next definition definitions hp =>
    rcases List.mem_append.1 h with hd | ha
    · obtain ⟨d, hmem, rfl⟩ := List.mem_map.1 hd
      exact .definition hp hmem
    · split at ha
      · next value hv =>
        split at ha
        · rw [List.mem_singleton.1 ha]
          exact .keyword hv
        · cases ha
      · cases ha
  · cases h

/-- What is below a schema node is part of it. -/
theorem partOf_of_mem_nodeBelow {node : List (String × Document)} {q : Position}
    (h : q ∈ nodeBelow node) : PartOf node q.value := by
  unfold nodeBelow arrayBelow at h
  split at h
  · split at h
    · exact partOf_of_mem_objectBelow h
    · split at h
      · split at h
        · next value hv =>
          rw [List.mem_singleton.1 h]
          exact .keyword hv
        · cases h
      · cases h
  · cases h

/-- A position that has others below it is a node of which these are parts. -/
theorem partOf_of_mem_below {p q : Position} (h : q ∈ p.below) :
    ∃ node, p.value = .object node ∧ PartOf node q.value := by
  unfold below at h
  split at h
  · split at h
    · split at h
      · exact ⟨_, rfl, partOf_of_mem_objectBelow h⟩
      · cases h
    · cases h
  · split at h
    · cases h
    · exact ⟨_, rfl, partOf_of_mem_nodeBelow h⟩
  · exact ⟨_, rfl, partOf_of_mem_nodeBelow h⟩
  · exact ⟨_, rfl, partOf_of_mem_nodeBelow h⟩
  · cases h

/-- Induction on positions, from what is below. -/
theorem induction {motive : Position → Prop}
    (step : ∀ p : Position, (∀ q ∈ p.below, motive q) → motive p) (p : Position) : motive p := by
  obtain ⟨role, value⟩ := p
  induction value using Document.node_induction generalizing role with
  | node node ih =>
    refine step _ fun q hq => ?_
    obtain ⟨_, ⟨⟩, hpart⟩ := partOf_of_mem_below hq
    exact ih q.value hpart q.role
  | other value hother =>
    refine step _ fun q hq => ?_
    obtain ⟨node, hnode, -⟩ := partOf_of_mem_below hq
    exact absurd hnode (hother node)

/-- A route leads to one position, past one list of properties. -/
theorem Reaches.unique {p q q' : Position} {route : List Nat} {names names' : List String}
    (h : Reaches p route names q) (h' : Reaches p route names' q') : names = names' ∧ q = q' := by
  induction h generalizing names' with
  | here => cases h'; exact ⟨rfl, rfl⟩
  | step hq _ ih =>
    cases h' with
    | step hq' hr' =>
      rw [hq] at hq'
      cases hq'
      obtain ⟨rfl, rfl⟩ := ih hr'
      exact ⟨rfl, rfl⟩

/-- A position has no error exactly when nothing that it reaches is defective. -/
theorem error?_eq_none_iff (p : Position) :
    p.error? = none ↔ ∀ route names q, Reaches p route names q → q.defect? = none := by
  induction p using induction with
  | step p ih =>
    rw [error?_eq, Option.or_eq_none_iff, firstError?, List.findSome?_eq_none_iff]
    constructor
    · rintro ⟨hd, hb⟩ route names q hr
      cases hr with
      | here => exact hd
      | step hq hr =>
        have hmem := List.mem_of_getElem? hq
        exact (ih _ hmem).1 (Option.map_eq_none_iff.1 (hb _ hmem)) _ _ _ hr
    · intro h
      refine ⟨h _ _ _ (.here p), fun q hq => ?_⟩
      obtain ⟨i, hi⟩ := List.mem_iff_getElem?.1 hq
      rw [(ih q hq).2 fun _ _ r hr => h _ _ r (.step hi hr)]
      rfl

/-- The error of a position is its first defect, named by the properties on the way. -/
theorem exists_firstDefect_of_error? {p : Position} {e : CompileError} (h : p.error? = some e) :
    ∃ route names cause, p.FirstDefect route names cause ∧ e = CompileError.along names cause := by
  induction p using induction generalizing e with
  | step p ih =>
    rw [error?_eq, Option.or_eq_some_iff] at h
    rcases h with hd | ⟨hd, hb⟩
    · refine ⟨[], [], e, ⟨p, .here p, hd, fun route' _ _ _ hlt => ?_⟩, rfl⟩
      exact absurd hlt (List.not_lt_nil route')
    · obtain ⟨before, q, after, hbelow, hq, hbefore⟩ := List.findSome?_eq_some_iff.1 hb
      obtain ⟨e', he', rfl⟩ := Option.map_eq_some_iff.1 hq
      obtain ⟨route, names, cause, ⟨r, hr, hc, hfirst⟩, rfl⟩ := ih q (by simp [hbelow]) he'
      have hi : p.below[before.length]? = some q := by simp [hbelow]
      refine ⟨before.length :: route, q.role.names ++ names, cause, ⟨r, .step hi hr, hc, ?_⟩,
        by simp [CompileError.along]⟩
      intro route' names' r' hr' hlt
      cases hr' with
      | here => exact hd
      | @step _ q' _ i route₁ names₁ hq' hr₁ =>
        rcases List.cons_lt_cons_iff.1 hlt with hi' | ⟨rfl, hlt'⟩
        · -- an earlier sibling has no error, so nothing that it reaches is defective
          have hmem : q' ∈ before := by
            rw [hbelow, List.getElem?_append_left hi'] at hq'
            exact List.mem_of_getElem? hq'
          exact (error?_eq_none_iff q').1 (Option.map_eq_none_iff.1 (hbefore q' hmem)) _ _ _ hr₁
        · rw [hi] at hq'
          cases hq'
          exact hfirst _ _ _ hr₁ hlt'

/-- Only one position is the first defective one. -/
theorem FirstDefect.unique {p : Position} {route route' : List Nat} {names names' : List String}
    {cause cause' : CompileError} (h : p.FirstDefect route names cause)
    (h' : p.FirstDefect route' names' cause') :
    route = route' ∧ names = names' ∧ cause = cause' := by
  obtain ⟨q, hr, hc, hfirst⟩ := h
  obtain ⟨q', hr', hc', hfirst'⟩ := h'
  rcases lt_trichotomy route route' with hlt | rfl | hlt
  · rw [hfirst' _ _ _ hr hlt] at hc
    cases hc
  · obtain ⟨rfl, rfl⟩ := hr.unique hr'
    rw [hc] at hc'
    cases hc'
    exact ⟨rfl, rfl, rfl⟩
  · rw [hfirst _ _ _ hr' hlt] at hc'
    cases hc'

/-- The error of a position is `e` exactly when its first defect, named by the properties on the
way, is `e`. -/
theorem error?_eq_some_iff (p : Position) (e : CompileError) :
    p.error? = some e ↔
      ∃ route names cause, p.FirstDefect route names cause ∧
        e = CompileError.along names cause := by
  refine ⟨exists_firstDefect_of_error?, ?_⟩
  rintro ⟨route, names, cause, hfirst, rfl⟩
  cases he : p.error? with
  | none =>
    obtain ⟨q, hr, hc, -⟩ := hfirst
    rw [(error?_eq_none_iff p).1 he _ _ _ hr] at hc
    cases hc
  | some e' =>
    obtain ⟨route', names', cause', hfirst', rfl⟩ := exists_firstDefect_of_error? he
    obtain ⟨-, rfl, rfl⟩ := hfirst.unique hfirst'
    rfl

/-! ## Defects are innermost errors -/

/-- A defect of the properties of a node names no property on the way to it. -/
theorem propertyPath_propertiesDefect? {node : List (String × Document)} {cause : CompileError}
    (h : propertiesDefect? node = some cause) : cause.propertyPath = [] := by
  unfold propertiesDefect? at h
  split at h
  · cases h
  · cases h
  · split at h
    · cases h; rfl
    · cases h

/-- A defect of a node names no property on the way to it. -/
theorem propertyPath_nodeDefect? {node : List (String × Document)} {cause : CompileError}
    (h : nodeDefect? node = some cause) : cause.propertyPath = [] := by
  unfold nodeDefect? at h
  split at h
  · cases h; rfl
  · split at h
    · exact propertyPath_propertiesDefect? h
    · split at h
      · split at h <;> cases h
        rfl
      · split at h <;> cases h
        rfl
  · cases h; rfl

/-- A defect names no property. -/
theorem propertyPath_defect? {p : Position} {cause : CompileError} (h : p.defect? = some cause) :
    cause.propertyPath = [] := by
  unfold defect? at h
  split at h
  · split at h
    · split at h
      · exact propertyPath_propertiesDefect? h
      · cases h; rfl
    · cases h; rfl
  · cases h; rfl
  · split at h
    · cases h
    · exact propertyPath_nodeDefect? h
  · cases h; rfl
  · exact propertyPath_nodeDefect? h
  · cases h; rfl
  · split at h
    · split at h
      · cases h
      · exact propertyPath_nodeDefect? h
      · cases h; rfl
    · cases h

end Position

namespace CompileError

/-- An error with no property on the way to it is its own cause. -/
theorem rootCause_of_propertyPath {e : CompileError} (h : e.propertyPath = []) :
    e.rootCause = e := by
  cases e with
  | inProperty name cause => cases h
  | invalidSchema | missingType | unsupportedType | missingItems | invalidDefinition => rfl

/-- An error along names has them first on the way to it. -/
theorem propertyPath_along (names : List String) (cause : CompileError) :
    (along names cause).propertyPath = names ++ cause.propertyPath := by
  induction names with
  | nil => rfl
  | cons name names ih => exact congrArg (name :: ·) ih

/-- An error along names has the cause that it has without them. -/
theorem rootCause_along (names : List String) (cause : CompileError) :
    (along names cause).rootCause = cause.rootCause := by
  induction names with
  | nil => rfl
  | cons name names ih => exact ih

end CompileError

/-- **Lowering reports the first defect.** A document is lowered exactly when none of its positions
is defective. Otherwise the error is the defect of the first defective position in document order,
wrapped once for each property on the way to it, so the defect is its innermost cause and those
properties are its path. -/
theorem lowerRoot_reports_first_defect (d : Document) :
    ((∃ schema, (lowerRoot d).result = .ok schema) ↔
      ∀ route names q, Position.Reaches ⟨.root, d⟩ route names q → q.defect? = none) ∧
    (∀ e, (lowerRoot d).result = .error e ↔
      ∃ route names cause, Position.FirstDefect ⟨.root, d⟩ route names cause ∧
        e = CompileError.along names cause) ∧
    ∀ route names cause, Position.FirstDefect ⟨.root, d⟩ route names cause →
      (CompileError.along names cause).rootCause = cause ∧
      (CompileError.along names cause).propertyPath = names := by
  refine ⟨?_, fun e => ?_, fun route names cause hfirst => ?_⟩
  · rw [← Lowering.error?_eq_none_iff]
    exact Position.error?_eq_none_iff ⟨.root, d⟩
  · rw [← Lowering.error?_eq_some_iff]
    exact Position.error?_eq_some_iff ⟨.root, d⟩ e
  · obtain ⟨q, -, hc, -⟩ := hfirst
    have hpath := Position.propertyPath_defect? hc
    rw [CompileError.rootCause_along, CompileError.propertyPath_along, hpath, List.append_nil]
    exact ⟨CompileError.rootCause_of_propertyPath hpath, rfl⟩

-- the defect inside `a` comes before that of `b`, and the reference hides that of `r`
example : (lowerRoot (.object [("type", .string "object"), ("properties", .object
    [("r", .object [("$ref", .null), ("type", .string "array")]),
     ("a", .object [("type", .string "array"), ("items", .object [])]),
     ("b", .null)])])).result = .error (.inProperty "a" .missingType) := rfl

end SchemaGrammar
