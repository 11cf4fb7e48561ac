import SchemaGrammar.Proofs.Position

/-!
# The steps of a lowering

A lowering reports a step for each node once the node is lowered, and one for each reference that it
leaves alone. The main result is that these steps can be read off the schema: they are its
`Schema.trace`, the post-order traversal that visits the parts of a node in order and then the node
itself. The root of a document reports no step of its own.

A lowering that fails has taken the steps of what it had lowered by then. That is said with
positions: on the route to the first defective position lie, at each place where the route goes
down, the earlier siblings (`Position.passed`), and the steps are the traces of these, one after
another. Neither the defective position nor any position above it adds a step.

`Lowering.Traced` carries the first half: each function of the descent is traced if those it calls
are. For the second half `Position.steps_eq` is the step, which says what a failed position reports
in terms of the positions below it, and `Position.steps_of_firstDefect` is the induction along the
route.
-/

namespace SchemaGrammar

/-! ## Traces -/

mutual
/-- The steps that lead to a schema: those of its parts in order, then its own. -/
def Schema.trace : Schema → List Step
  | .null => [.lowered .null]
  | .boolean => [.lowered .boolean]
  | .integer => [.lowered .integer]
  | .number => [.lowered .number]
  | .string _ => [.lowered .string]
  | .array items _ => items.trace ++ [.lowered .array]
  | .object properties additional =>
    propertiesTrace properties ++ additional.trace ++ [.lowered .object]

/-- The steps that lead to a property of the given name: a reference has one of its own. -/
def Property.trace (name : String) : Property → List Step
  | .ref target => [.unresolved name target]
  | .typed schema _ => schema.trace

/-- The steps that lead to what an object admits besides its properties. -/
def Additional.trace : Additional → List Step
  | .closed => []
  | .any => []
  | .schema schema => schema.trace

/-- The steps that lead to properties, one after another. -/
def propertiesTrace : List (String × Property) → List Step
  | [] => []
  | (name, property) :: properties => property.trace name ++ propertiesTrace properties
end

/-- The steps that lead to a schema before its own. -/
def Schema.partsTrace : Schema → List Step
  | .array items _ => items.trace
  | .object properties additional => propertiesTrace properties ++ additional.trace
  | _ => []

/-- The last step of a trace is that of the schema itself. -/
theorem Schema.trace_eq (schema : Schema) :
    schema.trace = schema.partsTrace ++ [.lowered schema.kind] := by
  cases schema <;> rfl

/-- The trace of a schema before its last step is that of its parts. -/
theorem Schema.dropLast_trace (schema : Schema) : schema.trace.dropLast = schema.partsTrace := by
  rw [trace_eq, List.dropLast_concat]

/-! ## Steps of composed lowerings -/

namespace Lowering

variable {α β : Type}

/-- A lowering that succeeds has taken the steps that the function gives for its value. -/
def Traced (x : Lowering α) (trace : α → List Step) : Prop :=
  ∀ a, x.result = .ok a → x.steps = trace a

/-- The steps of what follows a result come after its own. -/
theorem steps_bind_of_ok {x : Lowering α} {a : α} (h : x.result = .ok a) (f : α → Lowering β) :
    (x.bind f).steps = x.steps ++ (f a).steps := by
  rw [bind, h]

/-- Nothing follows an error. -/
theorem steps_bind_of_error {x : Lowering α} {e : CompileError} (h : x.result = .error e)
    (f : α → Lowering β) : (x.bind f).steps = x.steps := by
  rw [bind, h]

/-- A value computed from the outcome adds no step. -/
@[simp] theorem steps_bind_pure (x : Lowering α) (g : α → β) :
    (x.bind fun a => pure (g a)).steps = x.steps := by
  cases h : x.result with
  | ok a => rw [steps_bind_of_ok h, pure, List.append_nil]
  | error e => rw [steps_bind_of_error h]

/-- Where the steps of what follows do not depend on the value so far, they come after the steps so
far, unless these end with an error. -/
theorem steps_bind (x : Lowering α) {f : α → Lowering β} {later : List Step}
    (h : ∀ a, (f a).steps = later) :
    (x.bind f).steps = x.steps ++ if x.error?.isSome then [] else later := by
  cases hx : x.result with
  | ok a =>
    have hnone : x.error? = none := error?_eq_none_iff.2 ⟨a, hx⟩
    rw [steps_bind_of_ok hx, h, hnone]
    rfl
  | error e => simp [steps_bind_of_error hx, error?_eq_some_iff.2 hx]

@[simp] theorem steps_inProperty (name : String) (x : Lowering α) :
    (x.inProperty name).steps = x.steps := rfl

/-- A node that is lowered adds its own step. -/
theorem steps_completed_of_ok {x : Lowering Schema} {schema : Schema} (h : x.result = .ok schema) :
    x.completed.steps = x.steps ++ [.lowered schema.kind] := by
  rw [completed, steps_bind_of_ok h]
  rfl

/-- A node that is not lowered adds no step. -/
theorem steps_completed_of_error {x : Lowering Schema} {e : CompileError}
    (h : x.result = .error e) : x.completed.steps = x.steps :=
  steps_bind_of_error h _

/-- A failure leaves nothing to be traced. -/
theorem traced_fail (e : CompileError) (trace : α → List Step) : (fail e).Traced trace := nofun

/-- A value computed from the outcome is traced if the outcome is. -/
theorem Traced.bind_pure {x : Lowering α} {g : α → β} {trace : α → List Step}
    {trace' : β → List Step} (h : x.Traced trace) (htrace : ∀ a, trace' (g a) = trace a) :
    (x.bind fun a => pure (g a)).Traced trace' := by
  intro b hb
  rw [result_bind_pure] at hb
  obtain ⟨a, ha, rfl⟩ := ok_of_map hb
  rw [steps_bind_pure, h a ha, htrace]

/-- A name around an error does not change the trace. -/
theorem Traced.inProperty {x : Lowering α} {trace : α → List Step} (h : x.Traced trace)
    (name : String) : (x.inProperty name).Traced trace := by
  intro a ha
  exact h a (ok_of_mapError ha)

/-- The parts of a schema lead to it, and the step at its end is its own. -/
theorem Traced.completed {x : Lowering Schema} (h : x.Traced Schema.partsTrace) :
    x.completed.Traced Schema.trace := by
  intro schema hs
  rw [result_completed] at hs
  rw [steps_completed_of_ok hs, h schema hs, Schema.trace_eq]

end Lowering

/-! ## Successful lowerings -/

/-- A property is traced if its definition is, where that is lowered as a node. -/
theorem traced_propertyWith {name : String} {required : Bool} {definition : Document}
    (h : (lowerNode definition).Traced Schema.trace) :
    (propertyWith name required (lowerNode definition) definition).Traced
      (Property.trace name) := by
  cases definition with
  | object node =>
    cases href : node.lookup "$ref" with
    | some target =>
      simp only [propertyWith, href]
      rintro _ ⟨⟩
      rfl
    | none =>
      simp only [propertyWith, href]
      exact h.bind_pure fun _ => rfl
  | null | bool | number | string | list => exact Lowering.traced_fail _ _

/-- Additional properties are traced if their schema is. -/
theorem traced_additionalWith {value : Document} (h : (lowerNode value).Traced Schema.trace) :
    (additionalWith (lowerNode value) value).Traced Additional.trace := by
  unfold additionalWith
  split
  · split
    · rintro _ ⟨⟩
      rfl
    · exact h.bind_pure fun _ => rfl
    · exact Lowering.traced_fail _ _
  · rintro _ ⟨⟩
    rfl

/-- Definitions are traced one after another. -/
theorem traced_lowerDefinitions {required : List String} {definitions : List (String × Document)}
    (h : ∀ d ∈ definitions, (lowerNode d.2).Traced Schema.trace) :
    (lowerDefinitions required definitions).Traced propertiesTrace := by
  induction definitions with
  | nil =>
    rintro _ ⟨⟩
    rfl
  | cons first rest ih =>
    obtain ⟨name, definition⟩ := first
    have hfirst : (propertyWith name (required.contains name) (lowerNode definition)
        definition).Traced (Property.trace name) :=
      traced_propertyWith (h (name, definition) List.mem_cons_self)
    have hrest := ih fun d hd => h d (List.mem_cons_of_mem _ hd)
    intro properties hok
    rw [result_lowerDefinitions_cons] at hok
    obtain ⟨property, hproperty, hmap⟩ := ok_of_bind hok
    obtain ⟨others, hothers, rfl⟩ := ok_of_map hmap
    rw [lowerDefinitions, Lowering.steps_bind_of_ok hproperty, Lowering.steps_bind_pure,
      (hfirst.inProperty name) property hproperty, hrest others hothers, propertiesTrace]

/-- What a node admits beside its properties is traced if its schema is. -/
theorem traced_lowerAdditional {node : List (String × Document)}
    (h : ∀ value, node.lookup "additionalProperties" = some value →
      (lowerNode value).Traced Schema.trace) : (lowerAdditional node).Traced Additional.trace := by
  cases hv : node.lookup "additionalProperties" with
  | none =>
    rw [lowerAdditional_eq, hv]
    rintro _ ⟨⟩
    rfl
  | some value =>
    rw [lowerAdditional_of_lookup hv]
    exact traced_additionalWith (h value hv)

/-- An object node is traced up to its own step if its parts are traced. -/
theorem traced_lowerObject {node : List (String × Document)}
    (ih : ∀ value, PartOf node value → (lowerNode value).Traced Schema.trace) :
    (lowerObject node).Traced Schema.partsTrace := by
  rcases properties_cases node with hp | ⟨definition, definitions, hp⟩ | ⟨value, hp, ht, hv⟩
  · rw [lowerObject_of_not_declares hp]
    rintro _ ⟨⟩
    rfl
  · have hdefinitions :
        (lowerDefinitions (requiredNames node) (definition :: definitions)).Traced
          propertiesTrace :=
      traced_lowerDefinitions fun d hd => ih d.2 (.definition hp hd)
    have hadditional := traced_lowerAdditional fun value hvalue => ih value (.keyword hvalue)
    rw [lowerObject_of_definitions hp (List.cons_ne_nil _ _)]
    intro schema hok
    rw [Lowering.result_bind] at hok
    obtain ⟨properties, hproperties, hrest⟩ := ok_of_bind hok
    rw [Lowering.steps_bind_of_ok hproperties, Lowering.steps_bind_pure]
    rw [Lowering.result_bind_pure] at hrest
    obtain ⟨additional, hadd, rfl⟩ := ok_of_map hrest
    rw [hdefinitions properties hproperties, hadditional additional hadd, Schema.partsTrace]
  · rw [lowerObject_of_other hp ht hv]
    exact Lowering.traced_fail _ _

/-- **A node that is lowered reports the trace of its schema.** -/
theorem traced_lowerNode (value : Document) : (lowerNode value).Traced Schema.trace := by
  induction value using Document.node_induction with
  | node node ih =>
    cases hkind : kindOf node with
    | error e =>
      rw [lowerNode, hkind]
      exact Lowering.traced_fail _ _
    | ok kind =>
      have htype := type_of_kindOf hkind
      cases kind with
      | object =>
        rw [lowerNode_of_object htype]
        exact (traced_lowerObject ih).completed
      | array =>
        rw [lowerNode_of_array htype, lowerItems_eq]
        refine Lowering.Traced.completed ?_
        cases hitem : node.lookup "items" with
        | none => exact Lowering.traced_fail _ _
        | some item => exact (ih item (.keyword hitem)).bind_pure fun _ => rfl
      | string | null | boolean | integer | number =>
        rw [lowerNode, hkind]
        rintro _ ⟨⟩
        rfl
  | other value hvalue =>
    rw [lowerNode]
    · exact Lowering.traced_fail _ _
    · exact hvalue

/-- **A document that is lowered reports the trace of its schema but for the last step.** -/
theorem traced_lowerRoot (value : Document) :
    (lowerRoot value).Traced fun schema => schema.trace.dropLast := by
  intro schema hok
  show _ = schema.trace.dropLast
  rw [Schema.dropLast_trace]
  cases value with
  | object node =>
    by_cases htype : node.lookup "type" = some (.string "object")
    · rw [lowerRoot_of_object htype] at hok ⊢
      exact traced_lowerObject (fun v _ => traced_lowerNode v) schema hok
    · rw [result_lowerRoot_of_ne htype] at hok
      cases hok
  | null | bool | number | string | list => cases hok

/-! ## Steps of a position -/

namespace Position

/-- The steps that lowering a position for its role takes. Whether a property is required plays no
part in them. -/
def steps : Position → List Step
  | ⟨.root, value⟩ => (lowerRoot value).steps
  | ⟨.property name, value⟩ => (propertyWith name true (lowerNode value) value).steps
  | ⟨.items, value⟩ => (lowerNode value).steps
  | ⟨.additional, value⟩ => (additionalWith (lowerNode value) value).steps

/-- The trace of what a position is lowered to for its role, and nothing if it is not lowered. -/
def trace : Position → List Step
  | ⟨.root, value⟩ => (lowerRoot value).result.toOption.elim [] fun schema => schema.trace.dropLast
  | ⟨.property name, value⟩ =>
    (propertyWith name true (lowerNode value) value).result.toOption.elim [] (Property.trace name)
  | ⟨.items, value⟩ => (lowerNode value).result.toOption.elim [] Schema.trace
  | ⟨.additional, value⟩ =>
    (additionalWith (lowerNode value) value).result.toOption.elim [] Additional.trace

/-- A position without an error has taken the steps of its trace. -/
theorem steps_eq_trace_of_error? {p : Position} (h : p.error? = none) : p.steps = p.trace := by
  obtain ⟨role, value⟩ := p
  cases role with
  | root =>
    obtain ⟨schema, hok⟩ := Lowering.error?_eq_none_iff.1 h
    rw [steps, trace, hok, traced_lowerRoot value schema hok]
    rfl
  | property name =>
    obtain ⟨property, hok⟩ := Lowering.error?_eq_none_iff.1 h
    rw [steps, trace, hok, traced_propertyWith (traced_lowerNode value) property hok]
    rfl
  | items =>
    obtain ⟨schema, hok⟩ := Lowering.error?_eq_none_iff.1 h
    rw [steps, trace, hok, traced_lowerNode value schema hok]
    rfl
  | additional =>
    obtain ⟨additional, hok⟩ := Lowering.error?_eq_none_iff.1 h
    rw [steps, trace, hok, traced_additionalWith (traced_lowerNode value) additional hok]
    rfl

/-- The steps of positions that are lowered one after another, up to the first error. -/
def stepsThrough : List Position → List Step
  | [] => []
  | q :: qs => q.steps ++ if q.error?.isSome then [] else stepsThrough qs

/-- A list of positions has an error if its first has one or the others have. -/
theorem isSome_firstError?_cons (p : Position) (ps : List Position) :
    (firstError? (p :: ps)).isSome = (p.error?.isSome || (firstError? ps).isSome) := by
  rw [firstError?, List.findSome?_cons]
  cases p.error? <;> rfl

/-- The steps through a second list are taken only if the first has no error. -/
theorem stepsThrough_append (ps qs : List Position) :
    stepsThrough (ps ++ qs) =
      stepsThrough ps ++ if (firstError? ps).isSome then [] else stepsThrough qs := by
  induction ps with
  | nil => rfl
  | cons p ps ih =>
    rw [List.cons_append, stepsThrough, stepsThrough, ih, isSome_firstError?_cons]
    cases p.error? <;> simp

/-- Positions without an error take all their steps. -/
theorem stepsThrough_of_error?_eq_none {ps : List Position} (h : ∀ p ∈ ps, p.error? = none) :
    stepsThrough ps = ps.flatMap trace ∧ firstError? ps = none := by
  induction ps with
  | nil => exact ⟨rfl, rfl⟩
  | cons p ps ih =>
    have hp := h p List.mem_cons_self
    obtain ⟨hsteps, herror⟩ := ih fun q hq => h q (List.mem_cons_of_mem _ hq)
    constructor
    · rw [stepsThrough, hp, hsteps, steps_eq_trace_of_error? hp, List.flatMap_cons]
      rfl
    · rw [firstError?, List.findSome?_cons, hp]
      exact herror

/-- The steps of a property are those of its position, whether it is required or not. -/
theorem steps_property (name : String) (required : Bool) (value : Document) :
    (propertyWith name required (lowerNode value) value).steps = steps ⟨.property name, value⟩ := by
  cases value with
  | object node =>
    rw [steps]
    cases href : node.lookup "$ref" with
    | none => simp only [propertyWith, href, Lowering.steps_bind_pure]
    | some target => simp only [propertyWith, href]
  | null | bool | number | string | list => rfl

/-- Property definitions take their steps one after another, up to the first error. -/
theorem steps_lowerDefinitions (required : List String) (definitions : List (String × Document)) :
    (lowerDefinitions required definitions).steps =
      stepsThrough (definitions.map fun d => ⟨.property d.1, d.2⟩) := by
  induction definitions with
  | nil => rfl
  | cons definition rest ih =>
    obtain ⟨name, value⟩ := definition
    have hrest : ∀ property : Property, ((lowerDefinitions required rest).bind fun properties =>
        .pure ((name, property) :: properties)).steps =
          stepsThrough (rest.map fun d => ⟨.property d.1, d.2⟩) := by
      intro property
      rw [Lowering.steps_bind_pure, ih]
    rw [lowerDefinitions, Lowering.steps_bind _ hrest, Lowering.steps_inProperty,
      Lowering.error?_inProperty, error?_property, steps_property, List.map_cons, stepsThrough,
      Option.isSome_map]

/-- The steps of what a node admits beside its properties are those of its positions. -/
theorem steps_lowerAdditional (node : List (String × Document)) :
    (lowerAdditional node).steps = stepsThrough (additionalBelow node) := by
  unfold additionalBelow
  cases h : node.lookup "additionalProperties" with
  | none =>
    rw [lowerAdditional_of_not_declares (by simp [declares, h])]
    rfl
  | some value =>
    cases ht : value.truthy with
    | false =>
      rw [lowerAdditional_of_not_declares (by simp [declares, h, ht])]
      simp [stepsThrough, ht, Lowering.pure]
    | true =>
      rw [lowerAdditional_of_lookup h]
      simp [stepsThrough, ht, steps]

/-- An object node takes the steps of what is below it. -/
theorem steps_lowerObject (node : List (String × Document)) :
    (lowerObject node).steps = stepsThrough (objectBelow node) := by
  rcases properties_cases node with h | ⟨definition, definitions, h⟩ | ⟨value, h, ht, hv⟩
  · rw [lowerObject_of_not_declares h, (objectBelow_of_not_declares h).2]
    rfl
  · have hlater : ∀ properties : List (String × Property), ((lowerAdditional node).bind
        fun rest => .pure (Schema.object properties rest)).steps =
          stepsThrough (additionalBelow node) := by
      intro properties
      rw [Lowering.steps_bind_pure, steps_lowerAdditional]
    have hne : definition :: definitions ≠ [] := List.cons_ne_nil _ _
    rw [lowerObject_of_definitions h hne, Lowering.steps_bind _ hlater, steps_lowerDefinitions,
      error?_lowerDefinitions, objectBelow_of_definitions h hne, stepsThrough_append]
  · rw [lowerObject_of_other h ht hv]
    cases value with
    | object definitions => exact absurd rfl (hv definitions)
    | null | bool | number | string | list => simp [objectBelow, h, stepsThrough, Lowering.fail]

/-- Nothing is below a node that is of no kind. -/
theorem nodeBelow_of_kindOf_error {node : List (String × Document)} {e : CompileError}
    (h : kindOf node = .error e) : nodeBelow node = [] := by
  have hne : ∀ kind : Kind, node.lookup "type" ≠ some (.string kind.name) := by
    intro kind htype
    rw [kindOf_of_type kind htype] at h
    cases h
  unfold nodeBelow
  split
  · next name hname =>
    have hobject : name ≠ "object" := by
      rintro rfl
      exact hne .object hname
    have harray : name ≠ "array" := by
      rintro rfl
      exact hne .array hname
    rw [if_neg hobject, if_neg harray]
  · rfl

/-- A schema node that fails has taken the steps of what is below it and none of its own. -/
theorem steps_lowerNode_of_error {node : List (String × Document)} {e : CompileError}
    (h : (lowerNode (.object node)).result = .error e) :
    (lowerNode (.object node)).steps = stepsThrough (nodeBelow node) := by
  cases hkind : kindOf node with
  | error e' =>
    rw [lowerNode, hkind, nodeBelow_of_kindOf_error hkind]
    rfl
  | ok kind =>
    have htype := type_of_kindOf hkind
    cases kind with
    | object =>
      have hbelow : nodeBelow node = objectBelow node := by simp [nodeBelow, htype, Kind.name]
      rw [lowerNode_of_object htype] at h ⊢
      rw [Lowering.result_completed] at h
      rw [Lowering.steps_completed_of_error h, steps_lowerObject, hbelow]
    | array =>
      have hbelow : nodeBelow node = arrayBelow node := by simp [nodeBelow, htype, Kind.name]
      rw [lowerNode_of_array htype] at h ⊢
      rw [Lowering.result_completed] at h
      rw [Lowering.steps_completed_of_error h, Lowering.steps_bind_pure, lowerItems_eq, hbelow,
        arrayBelow]
      cases node.lookup "items" with
      | none => rfl
      | some items => simp [stepsThrough, steps]
    | string | null | boolean | integer | number =>
      rw [lowerNode, hkind] at h
      cases h

/-- **The step.** A position that fails has taken the steps of the positions below it, up to the
first of these that fails, and none of its own. -/
theorem steps_eq {p : Position} {e : CompileError} (h : p.error? = some e) :
    p.steps = stepsThrough p.below := by
  obtain ⟨role, value⟩ := p
  cases value with
  | object node =>
    cases role with
    | root =>
      by_cases htype : node.lookup "type" = some (.string "object")
      · have hbelow : below ⟨.root, .object node⟩ = objectBelow node := by simp [below, htype]
        rw [steps, lowerRoot_of_object htype, steps_lowerObject, hbelow]
      · have hbelow : below ⟨.root, .object node⟩ = [] := by
          rw [below]
          split
          · next name hname =>
            have hobject : name ≠ "object" := by
              rintro rfl
              exact htype hname
            rw [if_neg hobject]
          · rfl
        have hroot : (lowerRoot (.object node)).steps = [] := by
          rw [lowerRoot]
          split
          · next hobject => exact absurd hobject htype
          · rfl
        rw [steps, hroot, hbelow]
        rfl
    | property name =>
      rw [error?, error?_propertyWith] at h
      cases href : node.lookup "$ref" with
      | some target =>
        rw [href] at h
        cases h
      | none =>
        rw [href] at h
        have hsteps := steps_lowerNode_of_error (Lowering.error?_eq_some_iff.1 h)
        simp only [steps, propertyWith, href, Lowering.steps_bind_pure, hsteps, below,
          Option.isSome_none, Bool.false_eq_true, if_false]
    | items => exact steps_lowerNode_of_error (Lowering.error?_eq_some_iff.1 h)
    | additional =>
      cases node with
      | nil => cases h
      | cons member members =>
        have hnode : (lowerNode (.object (member :: members))).error? = some e := by
          rw [← Lowering.error?_bind_pure _ Additional.schema]
          exact h
        rw [below, ← steps_lowerNode_of_error (Lowering.error?_eq_some_iff.1 hnode)]
        exact Lowering.steps_bind_pure _ _
  | null | bool | number | string | list =>
    cases role with
    | root | property | items => rfl
    | additional =>
      simp only [steps, additionalWith, below, stepsThrough]
      split <;> rfl

/-! ## Runs cut short -/

/-- The positions that are passed on the way down a route: at each place where it goes down, the
earlier siblings. -/
def passed (p : Position) : List Nat → List Position
  | [] => []
  | i :: route => p.below.take i ++ p.below[i]?.elim [] (·.passed route)

/-- Nothing is below an object node whose `properties` are of a wrong shape. -/
theorem objectBelow_of_propertiesDefect? {node : List (String × Document)} {cause : CompileError}
    (h : propertiesDefect? node = some cause) : objectBelow node = [] := by
  unfold propertiesDefect? at h
  unfold objectBelow
  split at h
  · cases h
  · cases h
  · next value hother hvalue =>
    rw [hvalue]
    split
    · next hobject => exact absurd (Option.some.inj hobject) (hother _)
    · rfl

/-- Below a node with a defect of its own there are no positions. -/
theorem nodeBelow_of_nodeDefect? {node : List (String × Document)} {cause : CompileError}
    (h : nodeDefect? node = some cause) : nodeBelow node = [] := by
  unfold nodeDefect? at h
  unfold nodeBelow
  split at h
  · next htype => rw [htype]
  · next name htype =>
    simp only [htype]
    split at h
    · next hobject => rw [if_pos hobject, objectBelow_of_propertiesDefect? h]
    · next hobject =>
      rw [if_neg hobject]
      split at h
      · next harray =>
        rw [if_pos harray, arrayBelow]
        split at h
        · cases h
        · next hitems => rw [Option.not_isSome_iff_eq_none.1 hitems]
      · next harray => rw [if_neg harray]
  · next type hother htype =>
    rw [htype]
    split
    · next name hname => exact absurd (Option.some.inj hname) (hother name)
    · rfl

/-- Nothing is below a defective position. -/
theorem below_of_defect? {p : Position} {cause : CompileError} (h : p.defect? = some cause) :
    p.below = [] := by
  obtain ⟨role, value⟩ := p
  cases value with
  | object node =>
    cases role with
    | root =>
      rw [below]
      split
      · next name htype =>
        by_cases hobject : name = "object"
        · simp only [defect?, htype, if_pos hobject] at h
          rw [if_pos hobject, objectBelow_of_propertiesDefect? h]
        · rw [if_neg hobject]
      · rfl
    | property name =>
      rw [defect?] at h
      rw [below]
      split
      · rfl
      · next href =>
        rw [if_neg href] at h
        exact nodeBelow_of_nodeDefect? h
    | items => exact nodeBelow_of_nodeDefect? h
    | additional =>
      rw [defect?] at h
      split at h
      · exact nodeBelow_of_nodeDefect? h
      · cases h
  | null | bool | number | string | list => cases role <;> rfl

/-- What leads to the first defect: no earlier sibling has an error, and the route goes on to the
first defect from where it goes down. -/
theorem FirstDefect.cons {p : Position} {i : Nat} {route : List Nat} {names : List String}
    {cause : CompileError} (h : p.FirstDefect (i :: route) names cause) :
    ∃ q names', p.below[i]? = some q ∧ q.FirstDefect route names' cause ∧
      ∀ r ∈ p.below.take i, r.error? = none := by
  obtain ⟨d, hd, hdefect, hfirst⟩ := h
  cases hd with
  | @step _ q _ _ _ names hq hr =>
    refine ⟨q, names, hq, ⟨d, hr, hdefect, fun route' names' q' hr' hlt => ?_⟩, fun r hmem => ?_⟩
    · exact hfirst _ _ _ (.step hq hr') (List.cons_lt_cons_iff.2 (.inr ⟨rfl, hlt⟩))
    · obtain ⟨k, hk, hget⟩ := List.mem_take_iff_getElem.1 hmem
      have hki : k < i := by omega
      have hbelow : p.below[k]? = some r := List.getElem?_eq_some_iff.2 ⟨by omega, hget⟩
      refine (error?_eq_none_iff r).2 fun route' names' q' hr' => ?_
      exact hfirst _ _ _ (.step hbelow hr') (List.cons_lt_cons_iff.2 (.inl hki))

/-- **A run cut short.** The steps up to the first defect are the traces of the positions that are
passed on the way to it, all of which are lowered. The induction is along the route. -/
theorem steps_of_firstDefect {p : Position} {route : List Nat} {names : List String}
    {cause : CompileError} (h : p.FirstDefect route names cause) :
    (∀ q ∈ p.passed route, q.error? = none) ∧ p.steps = (p.passed route).flatMap trace := by
  induction route generalizing p names with
  | nil =>
    have herror := (error?_eq_some_iff p _).2 ⟨_, _, _, h, rfl⟩
    obtain ⟨q, hr, hdefect, -⟩ := h
    cases hr
    refine ⟨fun q hq => absurd hq List.not_mem_nil, ?_⟩
    rw [steps_eq herror, below_of_defect? hdefect]
    rfl
  | cons i route ih =>
    have herror := (error?_eq_some_iff p _).2 ⟨_, _, _, h, rfl⟩
    obtain ⟨q, names', hq, hfirst, hearlier⟩ := h.cons
    have hqerror := (error?_eq_some_iff q _).2 ⟨_, _, _, hfirst, rfl⟩
    obtain ⟨hpassed, hsteps⟩ := ih hfirst
    have hsplit : p.below = p.below.take i ++ q :: p.below.drop (i + 1) := by
      obtain ⟨hi, hget⟩ := List.getElem?_eq_some_iff.1 hq
      rw [← hget, ← List.drop_eq_getElem_cons hi, List.take_append_drop]
    obtain ⟨htraces, hnone⟩ := stepsThrough_of_error?_eq_none hearlier
    have hroute : p.passed (i :: route) = p.below.take i ++ q.passed route := by
      rw [passed, hq, Option.elim_some]
    rw [hroute]
    constructor
    · intro r hr
      rcases List.mem_append.1 hr with hr | hr
      · exact hearlier r hr
      · exact hpassed r hr
    · calc p.steps = stepsThrough (p.below.take i ++ q :: p.below.drop (i + 1)) := by
            rw [← hsplit, steps_eq herror]
        _ = (p.below.take i).flatMap trace ++ q.steps := by
            simp [stepsThrough_append, hnone, htraces, stepsThrough, hqerror]
        _ = (p.below.take i ++ q.passed route).flatMap trace := by
            rw [hsteps, List.flatMap_append]

end Position

/-- **The steps of a lowering are the post-order traversal of what was lowered.** A document that is
lowered has taken the steps of the trace of its schema but for the last, a node all of them. One
that is not lowered has taken the steps of the traces of what is passed on the way to its first
defect, each of which is lowered, and no other. -/
theorem steps_eq_trace (d : Document) :
    (∀ schema, (lowerRoot d).result = .ok schema →
      (lowerRoot d).steps = schema.trace.dropLast) ∧
    (∀ schema, (lowerNode d).result = .ok schema → (lowerNode d).steps = schema.trace) ∧
    (∀ e, (lowerRoot d).result = .error e →
      ∃ route names cause, Position.FirstDefect ⟨.root, d⟩ route names cause ∧
        (∀ q ∈ Position.passed ⟨.root, d⟩ route, q.error? = none) ∧
        (lowerRoot d).steps = (Position.passed ⟨.root, d⟩ route).flatMap Position.trace) ∧
    ∀ e, (lowerNode d).result = .error e →
      ∃ route names cause, Position.FirstDefect ⟨.items, d⟩ route names cause ∧
        (∀ q ∈ Position.passed ⟨.items, d⟩ route, q.error? = none) ∧
        (lowerNode d).steps = (Position.passed ⟨.items, d⟩ route).flatMap Position.trace := by
  refine ⟨traced_lowerRoot d, traced_lowerNode d, fun e he => ?_, fun e he => ?_⟩
  · have herror : Position.error? ⟨.root, d⟩ = some e := Lowering.error?_eq_some_iff.2 he
    obtain ⟨route, names, cause, hfirst, -⟩ := Position.exists_firstDefect_of_error? herror
    exact ⟨route, names, cause, hfirst, Position.steps_of_firstDefect hfirst⟩
  · have herror : Position.error? ⟨.items, d⟩ = some e := Lowering.error?_eq_some_iff.2 he
    obtain ⟨route, names, cause, hfirst, -⟩ := Position.exists_firstDefect_of_error? herror
    exact ⟨route, names, cause, hfirst, Position.steps_of_firstDefect hfirst⟩

/-- A record whose part `b` is given; `z` comes after it. -/
def recordAround (b : Document) : Document :=
  .object [("type", .string "object"), ("properties", .object
    [("r", .object [("$ref", .string "#/x")]),
     ("a", .object [("type", .string "array"), ("items", .object [("type", .string "integer")])]),
     ("b", .object [("type", .string "object"), ("properties", .object
       [("c", .object [("type", .string "null")]), ("d", b)])]),
     ("z", .object [("type", .string "number")])])]

/-- Up to a node without a type inside `b`, what comes before it is reported, also inside `b`, and
neither `b` nor `z`. With a type, everything is reported but the root. -/
theorem recordAround_steps :
    (lowerRoot (recordAround (.object []))).steps =
      [.unresolved "r" "#/x", .lowered .integer, .lowered .array, .lowered .null] ∧
    (∃ route names cause,
      Position.FirstDefect ⟨.root, recordAround (.object [])⟩ route names cause ∧
      (lowerRoot (recordAround (.object []))).steps =
        (Position.passed ⟨.root, recordAround (.object [])⟩ route).flatMap Position.trace) ∧
    ∃ schema, (lowerRoot (recordAround (.object [("type", .string "string")]))).result =
        .ok schema ∧
      schema.trace = [.unresolved "r" "#/x", .lowered .integer, .lowered .array, .lowered .null,
        .lowered .string, .lowered .object, .lowered .number, .lowered .object] ∧
      (lowerRoot (recordAround (.object [("type", .string "string")]))).steps =
        schema.trace.dropLast := by
  obtain ⟨-, -, hcut, -⟩ := steps_eq_trace (recordAround (.object []))
  obtain ⟨route, names, cause, hfirst, -, hsteps⟩ := hcut _ rfl
  obtain ⟨hwhole, -, -, -⟩ := steps_eq_trace (recordAround (.object [("type", .string "string")]))
  exact ⟨rfl, ⟨route, names, cause, hfirst, hsteps⟩, _, rfl, rfl, hwhole _ rfl⟩

end SchemaGrammar
