import SchemaGrammar.Proofs.Position
import SchemaGrammar.Proofs.Structure

/-!
# Compilation in context

A `Context` is a document with one hole. `Leads` says that the hole is at a position of the
document and which properties lie on the way to it: each node on the way is one that the lowering
looks into. The main result is that compiling is compositional: what surrounds such a hole
contributes a fixed text before and a fixed text after the text of whatever fills it, and an error
inside the hole is the error of the whole, named by the properties on the way.

The argument goes frame by frame. `Transparent` is what one frame does to the outcome of the node
in it; the three frames have it (`transparent_property`, `transparent_items`,
`transparent_additional`), and it composes (`Transparent.comp`).
-/

namespace SchemaGrammar

/-- A document with one hole. -/
inductive Context where
  | hole
  /-- The hole is in the value of a member of an object. -/
  | member (before : List (String × Document)) (key : String) (inner : Context)
      (after : List (String × Document))
  /-- The hole is in an item of a list. -/
  | item (before : List Document) (inner : Context) (after : List Document)

/-- The document with its hole filled. -/
def Context.fill : Context → Document → Document
  | .hole, value => value
  | .member before key inner after, value => .object (before ++ (key, inner.fill value) :: after)
  | .item before inner after, value => .list (before ++ inner.fill value :: after)

/-- The lowering looks into a node of the given role and type with these members: the type is the
one named, and a property definition holds no reference. -/
structure Opens (role : Role) (type : String) (members : List (String × Document)) : Prop where
  type : members.lookup "type" = some (.string type)
  unreferenced : ∀ name, role = .property name → members.lookup "$ref" = none

/-- `Leads role C names target`: in a document of the given role, the hole of `C` is a position of
role `target` inside the properties `names`. -/
inductive Leads : Role → Context → List String → Role → Prop
  | here (role : Role) : Leads role .hole [] role
  | property {role target : Role} {before after earlier later : List (String × Document)}
      {name : String} {inner : Context} {names : List String}
      (hnode : Opens role "object" (before ++ after))
      (hkey : "properties" ∉ Entries.names before)
      (hinner : Leads (.property name) inner names target) :
      Leads role (.member before "properties" (.member earlier name inner later) after)
        (name :: names) target
  | items {role target : Role} {before after : List (String × Document)} {inner : Context}
      {names : List String} (hroot : role ≠ .root) (hnode : Opens role "array" (before ++ after))
      (hkey : "items" ∉ Entries.names before) (hinner : Leads .items inner names target) :
      Leads role (.member before "items" inner after) names target
  | additional {role target : Role} {before after : List (String × Document)} {inner : Context}
      {names : List String} {definition : String × Document}
      {definitions : List (String × Document)} (hnode : Opens role "object" (before ++ after))
      (hdeclared :
        (before ++ after).lookup "properties" = some (.object (definition :: definitions)))
      (hkey : "additionalProperties" ∉ Entries.names before)
      (hinner : Leads .additional inner names target) :
      Leads role (.member before "additionalProperties" inner after) names target

/-- What a hole of the given role is filled with: an object that is not empty, and no reference
where a property is defined. -/
def Role.Fits (role : Role) (value : Document) : Prop :=
  ∃ members, value = .object members ∧ members ≠ [] ∧
    ∀ name, role = .property name → members.lookup "$ref" = none

/-! ## Members around a hole -/

namespace Entries

variable {α : Type} {before after : List (String × α)} {key : String}

/-- A name that first appears after some entries is looked up there. -/
theorem lookup_hole (h : key ∉ names before) (value : α) (after : List (String × α)) :
    (before ++ (key, value) :: after).lookup key = some value := by
  induction before with
  | nil => simp
  | cons entry before ih =>
    obtain ⟨name, old⟩ := entry
    rw [names, List.map_cons, List.mem_cons, not_or] at h
    rw [List.cons_append, lookup_cons, if_neg h.1]
    exact ih h.2

/-- Any other name is looked up in what surrounds the entry. -/
theorem lookup_around {other : String} (h : other ≠ key) (value : α) :
    (before ++ (key, value) :: after).lookup other = (before ++ after).lookup other := by
  induction before with
  | nil => rw [List.nil_append, lookup_cons, if_neg h, List.nil_append]
  | cons entry before ih =>
    obtain ⟨name, old⟩ := entry
    rw [List.cons_append, lookup_cons, List.cons_append, lookup_cons, ih]

end Entries

section
variable {role : Role} {type key : String} {before after : List (String × Document)}

/-- A node that opens is an object that is not empty, whatever the hole in it holds. -/
theorem Opens.fits (h : Opens role type (before ++ after)) (hkey : key ≠ "$ref")
    (value : Document) : role.Fits (.object (before ++ (key, value) :: after)) := by
  refine ⟨_, rfl, by simp, fun name hrole => ?_⟩
  rw [Entries.lookup_around hkey.symm, h.unreferenced name hrole]

end

/-- A filled context fits where the context stands. -/
theorem Leads.fits {role target : Role} {C : Context} {names : List String}
    (h : Leads role C names target) {value : Document} (hv : target.Fits value) :
    role.Fits (C.fill value) := by
  cases h with
  | here => exact hv
  | property hnode => exact hnode.fits (by decide) _
  | items _ hnode => exact hnode.fits (by decide) _
  | additional hnode => exact hnode.fits (by decide) _

/-! ## Frames -/

/-- `Transparent role names f`: of a node of the given role, `f` shows the outcome. A schema is put
between two fixed texts, and an error is named by `names`. -/
def Transparent (role : Role) (names : List String) (f : Document → Document) : Prop :=
  ∃ (around : Schema → Schema) (pre post : List Char),
    (∀ schema, (around schema).fragment = pre ++ schema.fragment ++ post) ∧
    ∀ value, role.Fits value → (lowerNode (f value)).result =
      ((lowerNode value).result.mapError (CompileError.along names)).map around

/-- A place that is the whole value is transparent. -/
theorem Transparent.id (role : Role) : Transparent role [] fun value => value := by
  refine ⟨fun schema => schema, [], [], fun schema => by simp, fun value _ => ?_⟩
  cases (lowerNode value).result <;> rfl

/-- Frames compose: the texts add up on both sides, and the outer names come first. -/
theorem Transparent.comp {role role' : Role} {names names' : List String}
    {f g : Document → Document} (hf : Transparent role names f) (hg : Transparent role' names' g)
    (hfits : ∀ value, role.Fits value → role'.Fits (f value)) :
    Transparent role (names' ++ names) fun value => g (f value) := by
  obtain ⟨around, pre, post, htext, hresult⟩ := hf
  obtain ⟨around', pre', post', htext', hresult'⟩ := hg
  refine ⟨fun schema => around' (around schema), pre' ++ pre, post ++ post', fun schema => ?_,
    fun value hv => ?_⟩
  · rw [htext', htext]
    simp only [List.append_assoc]
  · rw [hresult' _ (hfits value hv), hresult value hv]
    cases (lowerNode value).result with
    | ok schema => rfl
    | error e => simp [Except.map, Except.mapError, CompileError.along]

/-- A node in a transparent frame that is lowered is lowered on its own. -/
theorem Transparent.ok_inner {role : Role} {names : List String} {f : Document → Document}
    (hf : Transparent role names f) {value : Document} (hv : role.Fits value) {schema : Schema}
    (h : (lowerNode (f value)).result = .ok schema) :
    ∃ inner, (lowerNode value).result = .ok inner := by
  obtain ⟨around, pre, post, -, hresult⟩ := hf
  rw [hresult value hv] at h
  cases hr : (lowerNode value).result with
  | ok inner => exact ⟨inner, rfl⟩
  | error e =>
    rw [hr] at h
    cases h

/-- The members of two lists of properties stand one after the other. -/
theorem furtherMembers_append (ps qs : List (String × Property)) :
    furtherMembers (ps ++ qs) = furtherMembers ps ++ furtherMembers qs := by
  induction ps with
  | nil => rfl
  | cons p ps ih =>
    obtain ⟨name, property⟩ := p
    simp only [List.cons_append, furtherMembers, ih, List.append_assoc]

/-- A property stands once in the text of its object, between fixed texts. -/
theorem exists_fragment_member (ps qs : List (String × Property)) (name : String)
    (additional : Additional) :
    ∃ pre post, ∀ property : Property,
      (Schema.object (ps ++ (name, property) :: qs) additional).fragment =
        pre ++ property.member name ++ post := by
  cases ps with
  | nil =>
    refine ⟨['\x7b', ' '], furtherMembers qs ++ additional.member ++ [' ', '\x7d'],
      fun property => ?_⟩
    rw [List.nil_append, Schema.fragment_object_cons]
    simp only [List.append_assoc]
  | cons p ps =>
    obtain ⟨first, firstProperty⟩ := p
    refine ⟨['\x7b', ' '] ++ firstProperty.member first ++ furtherMembers ps ++ memberSeparator,
      furtherMembers qs ++ additional.member ++ [' ', '\x7d'], fun property => ?_⟩
    rw [List.cons_append, Schema.fragment_object_cons, furtherMembers_append, furtherMembers]
    simp only [List.append_assoc]

/-- The schema of a property stands once in the text of its object, between fixed texts. -/
theorem exists_fragment_property (ps qs : List (String × Property)) (name : String)
    (required : Bool) (additional : Additional) :
    ∃ pre post, ∀ schema : Schema,
      (Schema.object (ps ++ (name, .typed schema required) :: qs) additional).fragment =
        pre ++ schema.fragment ++ post := by
  obtain ⟨pre, post, h⟩ := exists_fragment_member ps qs name additional
  refine ⟨pre ++ (inQuotes name ++ [' ', ':', ' ']),
    (if required then [] else optionalMark) ++ post, fun schema => ?_⟩
  rw [h, Property.member]
  simp only [List.append_assoc]

/-- The schema of the wildcard stands once in the text of an object that has properties. -/
theorem exists_fragment_additional {properties : List (String × Property)} (h : properties ≠ []) :
    ∃ pre post, ∀ schema : Schema,
      (Schema.object properties (.schema schema)).fragment = pre ++ schema.fragment ++ post := by
  cases properties with
  | nil => exact absurd rfl h
  | cons p ps =>
    obtain ⟨name, property⟩ := p
    refine ⟨['\x7b', ' '] ++ property.member name ++ furtherMembers ps ++
      (memberSeparator ++ inQuotes wildcardName ++ [' ', ':', ' ']), [' ', '\x7d'],
      fun schema => ?_⟩
    rw [Schema.fragment_object_cons, Additional.member]
    simp only [List.append_assoc]

section
variable {role : Role} {before after : List (String × Document)}

/-- The frame of `items`. -/
theorem transparent_items (hnode : Opens role "array" (before ++ after))
    (hkey : "items" ∉ Entries.names before) :
    Transparent .items [] fun value => .object (before ++ ("items", value) :: after) := by
  refine ⟨fun items => .array items (cardinalityOf (before ++ after)), ['['],
    (cardinalityOf (before ++ after)).quantifier ++ [']'], fun items => ?_, fun value _ => ?_⟩
  · rw [Schema.fragment_array]
    simp only [List.cons_append, List.nil_append, List.append_assoc]
  · have htype : (before ++ ("items", value) :: after).lookup "type" = some (.string "array") := by
      rw [Entries.lookup_around (by decide), hnode.type]
    have hcard : cardinalityOf (before ++ ("items", value) :: after) =
        cardinalityOf (before ++ after) := by
      unfold cardinalityOf
      rw [Entries.lookup_around (by decide), Entries.lookup_around (by decide)]
    rw [lowerNode_of_array htype, Lowering.result_completed, Lowering.result_bind_pure,
      lowerItems_eq, Entries.lookup_hole hkey, hcard]
    cases h : (lowerNode value).result <;> simp [h, Except.map, Except.mapError, CompileError.along]

/-- What a node around a property definition comes to, whatever the definition is. -/
theorem result_propertyFrame {earlier later : List (String × Document)} {name : String}
    (hnode : Opens role "object" (before ++ after)) (hkey : "properties" ∉ Entries.names before)
    {value : Document} (hv : (Role.property name).Fits value) :
    (lowerNode (.object (before ++ ("properties",
      .object (earlier ++ (name, value) :: later)) :: after))).result =
        (lowerDefinitions (requiredNames (before ++ after)) earlier).result.bind fun ps =>
          ((lowerNode value).result.mapError (.inProperty name)).bind fun schema =>
            (lowerDefinitions (requiredNames (before ++ after)) later).result.bind fun qs =>
              (lowerAdditional (before ++ after)).result.map (.object (ps ++ (name, .typed schema
                ((requiredNames (before ++ after)).contains name)) :: qs)) := by
  generalize hfilled : before ++ ("properties",
    Document.object (earlier ++ (name, value) :: later)) :: after = filled
  have haround : ∀ key, key ≠ "properties" → filled.lookup key = (before ++ after).lookup key := by
    intro key hne
    rw [← hfilled, Entries.lookup_around hne]
  have hprops :
      filled.lookup "properties" = some (.object (earlier ++ (name, value) :: later)) := by
    rw [← hfilled, Entries.lookup_hole hkey]
  have htype : filled.lookup "type" = some (.string "object") := by
    rw [haround _ (by decide), hnode.type]
  have hreq : requiredNames filled = requiredNames (before ++ after) := by
    unfold requiredNames
    rw [haround _ (by decide)]
  have hadd : lowerAdditional filled = lowerAdditional (before ++ after) := by
    rw [lowerAdditional_eq, lowerAdditional_eq, haround _ (by decide)]
  obtain ⟨members, rfl, -, href⟩ := hv
  rw [lowerNode_of_object htype, Lowering.result_completed,
    result_lowerObject_of_definitions hprops (by simp), hreq, hadd,
    result_lowerDefinitions_append, result_lowerDefinitions_cons,
    result_propertyWith (href name rfl)]
  -- both sides stop at the same first error: `earlier`, the definition, `later`, the rest
  cases (lowerDefinitions (requiredNames (before ++ after)) earlier).result with
  | error e => rfl
  | ok ps =>
    cases (lowerNode (.object members)).result with
    | error e => rfl
    | ok schema => cases (lowerDefinitions (requiredNames (before ++ after)) later).result <;> rfl

/-- The frame of a property definition, in a node that is lowered for some filling. -/
theorem transparent_property {earlier later : List (String × Document)} {name : String}
    (hnode : Opens role "object" (before ++ after)) (hkey : "properties" ∉ Entries.names before)
    {value₀ : Document} (hv₀ : (Role.property name).Fits value₀) {schema₀ : Schema}
    (hok : (lowerNode (.object (before ++ ("properties",
      .object (earlier ++ (name, value₀) :: later)) :: after))).result = .ok schema₀) :
    Transparent (.property name) [name] fun value => .object (before ++ ("properties",
      .object (earlier ++ (name, value) :: later)) :: after) := by
  rw [result_propertyFrame hnode hkey hv₀] at hok
  obtain ⟨ps, hps, hdefinition⟩ := ok_of_bind hok
  obtain ⟨schema, -, hlater⟩ := ok_of_bind hdefinition
  obtain ⟨qs, hqs, hrest⟩ := ok_of_bind hlater
  obtain ⟨additional, hadd, -⟩ := ok_of_map hrest
  obtain ⟨pre, post, htext⟩ := exists_fragment_property ps qs name
    ((requiredNames (before ++ after)).contains name) additional
  refine ⟨_, pre, post, htext, fun value hv => ?_⟩
  rw [result_propertyFrame hnode hkey hv, hps, hqs, hadd]
  cases (lowerNode value).result <;> rfl

/-- The frame of `additionalProperties`, in a node that is lowered for some filling. -/
theorem transparent_additional {definition : String × Document}
    {definitions : List (String × Document)} (hnode : Opens role "object" (before ++ after))
    (hdeclared :
      (before ++ after).lookup "properties" = some (.object (definition :: definitions)))
    (hkey : "additionalProperties" ∉ Entries.names before) {value₀ : Document} {schema₀ : Schema}
    (hok : (lowerNode (.object
      (before ++ ("additionalProperties", value₀) :: after))).result = .ok schema₀) :
    Transparent .additional [] fun value =>
      .object (before ++ ("additionalProperties", value) :: after) := by
  have hresult : ∀ value, (lowerNode (.object
      (before ++ ("additionalProperties", value) :: after))).result =
        (lowerDefinitions (requiredNames (before ++ after)) (definition :: definitions)).result.bind
          fun ps => (additionalWith (lowerNode value) value).result.map (.object ps) := by
    intro value
    have htype : (before ++ ("additionalProperties", value) :: after).lookup "type" =
        some (.string "object") := by
      rw [Entries.lookup_around (by decide), hnode.type]
    have hprops : (before ++ ("additionalProperties", value) :: after).lookup "properties" =
        some (.object (definition :: definitions)) := by
      rw [Entries.lookup_around (by decide), hdeclared]
    have hreq : requiredNames (before ++ ("additionalProperties", value) :: after) =
        requiredNames (before ++ after) := by
      unfold requiredNames
      rw [Entries.lookup_around (by decide)]
    rw [lowerNode_of_object htype, Lowering.result_completed,
      result_lowerObject_of_definitions hprops (by simp), hreq,
      lowerAdditional_of_lookup (Entries.lookup_hole hkey value after)]
  rw [hresult] at hok
  obtain ⟨ps, hps, -⟩ := ok_of_bind hok
  have hne : ps ≠ [] := by
    rintro rfl
    exact absurd (names_of_lowerDefinitions hps) (by simp [Entries.names])
  obtain ⟨pre, post, htext⟩ := exists_fragment_additional hne
  refine ⟨_, pre, post, htext, fun value hv => ?_⟩
  obtain ⟨members, rfl, hmembers, -⟩ := hv
  rw [hresult, hps, result_additionalWith hmembers]
  cases (lowerNode (.object members)).result <;> rfl

end

/-! ## Contexts -/

/-- A context that leads to its hole is transparent as soon as one filling of it is lowered. -/
theorem Leads.transparent {role target : Role} {C : Context} {names : List String}
    (h : Leads role C names target) {value₀ : Document} (hv₀ : target.Fits value₀)
    {schema₀ : Schema} (hok : (lowerNode (C.fill value₀)).result = .ok schema₀) :
    Transparent target names C.fill := by
  induction h generalizing schema₀ with
  | here role => exact Transparent.id role
  | property hnode hkey hinner ih =>
    have hframe := transparent_property hnode hkey (hinner.fits hv₀) hok
    obtain ⟨inner, hok'⟩ := hframe.ok_inner (hinner.fits hv₀) hok
    exact (ih hv₀ hok').comp hframe fun _ => hinner.fits
  | items _ hnode hkey hinner ih =>
    have hframe := transparent_items hnode hkey
    obtain ⟨inner, hok'⟩ := hframe.ok_inner (hinner.fits hv₀) hok
    exact (ih hv₀ hok').comp hframe fun _ => hinner.fits
  | additional hnode hdeclared hkey hinner ih =>
    have hframe := transparent_additional hnode hdeclared hkey hok
    obtain ⟨inner, hok'⟩ := hframe.ok_inner (hinner.fits hv₀) hok
    exact (ih hv₀ hok').comp hframe fun _ => hinner.fits

/-- Below a root that leads to its hole the outcome is that of the node. -/
theorem Leads.result_lowerRoot {target : Role} {C : Context} {names : List String}
    (h : Leads .root C names target) (hne : C ≠ .hole) (value : Document) :
    (lowerRoot (C.fill value)).result = (lowerNode (C.fill value)).result := by
  cases h with
  | here => exact absurd rfl hne
  | property hnode | additional hnode =>
    refine result_lowerRoot_of_object ?_
    rw [Entries.lookup_around (by decide), hnode.type]
  | items hroot => exact absurd rfl hroot

/-- The positions below a node that opens are those of its type. -/
theorem below_of_opens {role : Role} {type : String} {node : List (String × Document)}
    (h : Opens role type node) (hroot : role = .root → type = "object") :
    Position.below ⟨role, .object node⟩ = Position.nodeBelow node := by
  cases role with
  | root => simp [Position.below, Position.nodeBelow, h.type, hroot rfl]
  | property name => simp [Position.below, h.unreferenced name rfl]
  | items | additional => rfl

/-- A node opens as well with the hole in it. -/
theorem Opens.filled {role : Role} {type : String} {before after : List (String × Document)}
    (h : Opens role type (before ++ after)) {key : String} (htype : key ≠ "type")
    (href : key ≠ "$ref") (value : Document) :
    Opens role type (before ++ (key, value) :: after) where
  type := by rw [Entries.lookup_around htype.symm, h.type]
  unreferenced name hrole := by rw [Entries.lookup_around href.symm, h.unreferenced name hrole]

/-- What fits is truthy. -/
theorem Role.Fits.truthy {role : Role} {value : Document} (h : role.Fits value) :
    value.truthy = true := by
  obtain ⟨members, rfl, hne, -⟩ := h
  cases members with
  | nil => exact absurd rfl hne
  | cons => rfl

/-- The hole of a context that leads to it is a position of the filled document. -/
theorem Leads.reaches {role target : Role} {C : Context} {names : List String}
    (h : Leads role C names target) {value : Document} (hv : target.Fits value) :
    ∃ route, Position.Reaches ⟨role, C.fill value⟩ route names ⟨target, value⟩ := by
  induction h with
  | here role => exact ⟨[], .here _⟩
  | @property role target before after earlier later name inner names hnode hkey hinner ih =>
    obtain ⟨route, hroute⟩ := ih hv
    refine ⟨earlier.length :: route, .step ?_ hroute⟩
    have hne : "properties" ≠ "type" ∧ "properties" ≠ "$ref" := by decide
    have hopen := hnode.filled hne.1 hne.2 (.object (earlier ++ (name, inner.fill value) :: later))
    have hprops : (before ++ ("properties",
        Document.object (earlier ++ (name, inner.fill value) :: later)) :: after).lookup
          "properties" = some (.object (earlier ++ (name, inner.fill value) :: later)) :=
      Entries.lookup_hole hkey _ after
    have hbelow := Position.objectBelow_of_definitions hprops (by simp)
    rw [Context.fill, Context.fill, below_of_opens hopen fun _ => rfl]
    simp [Position.nodeBelow, hopen.type, hbelow]
  | @items role target before after inner names hroot hnode hkey hinner ih =>
    obtain ⟨route, hroute⟩ := ih hv
    refine ⟨0 :: route, .step ?_ hroute⟩
    have hne : "items" ≠ "type" ∧ "items" ≠ "$ref" := by decide
    have hopen := hnode.filled hne.1 hne.2 (inner.fill value)
    have hitems := Entries.lookup_hole hkey (inner.fill value) after
    rw [Context.fill, below_of_opens hopen fun hr => absurd hr hroot]
    simp [Position.nodeBelow, Position.arrayBelow, hopen.type, hitems]
  | @additional role target before after inner names definition definitions hnode hdeclared hkey
      hinner ih =>
    obtain ⟨route, hroute⟩ := ih hv
    refine ⟨(definition :: definitions).length :: route, .step ?_ hroute⟩
    have hne : "additionalProperties" ≠ "type" ∧ "additionalProperties" ≠ "$ref" ∧
      "properties" ≠ "additionalProperties" := by decide
    have hopen := hnode.filled hne.1 hne.2.1 (inner.fill value)
    have hprops := (Entries.lookup_around hne.2.2 (inner.fill value)).trans hdeclared
    have hbelow := Position.objectBelow_of_definitions hprops (by simp)
    have hadd := Entries.lookup_hole hkey (inner.fill value) after
    rw [Context.fill, below_of_opens hopen fun _ => rfl]
    simp [Position.nodeBelow, Position.additionalBelow, hopen.type, hbelow, hadd,
      (hinner.fits hv).truthy]

/-- **Compilation is compositional.** Take a document with one hole strictly below its root, at a
position inside the properties `names`. If it compiles for some filling, then there are two texts
that surround the text of any filling, and any other filling fails with its own error, named by
`names`. The hole is a position of every such document. -/
theorem compile_fill (C : Context) (names : List String) (role : Role)
    (hC : Leads .root C names role) (hne : C ≠ .hole)
    (hok : ∃ value grammar, role.Fits value ∧ compile (C.fill value) = .ok grammar) :
    ∃ pre post : String, ∀ value, role.Fits value →
      (∀ schema, (lowerNode value).result = .ok schema →
        compile (C.fill value) = .ok (pre ++ schema.grammar ++ post)) ∧
      (∀ e, (lowerNode value).result = .error e →
        compile (C.fill value) = .error (CompileError.along names e)) ∧
      ∃ route, Position.Reaches ⟨.root, C.fill value⟩ route names ⟨role, value⟩ := by
  obtain ⟨value₀, grammar₀, hv₀, hcompile⟩ := hok
  obtain ⟨schema₀, hok₀, -⟩ := ok_of_map hcompile
  rw [hC.result_lowerRoot hne] at hok₀
  obtain ⟨around, pre, post, htext, hresult⟩ := hC.transparent hv₀ hok₀
  refine ⟨String.ofList pre, String.ofList post, fun value hv => ⟨?_, ?_, hC.reaches hv⟩⟩
  · intro schema hschema
    have hgrammar : (around schema).grammar =
        String.ofList pre ++ schema.grammar ++ String.ofList post := by
      rw [Schema.grammar, Schema.grammar, htext, String.ofList_append, String.ofList_append]
    rw [compile, hC.result_lowerRoot hne, hresult value hv, hschema, ← hgrammar]
    rfl
  · intro e he
    rw [compile, hC.result_lowerRoot hne, hresult value hv, he]
    rfl

/-- An object that requires a list of something, with the hole for what the list holds. -/
def listContext : Context :=
  .member [("type", .string "object")] "properties"
    (.member [("id", .object [("type", .string "integer")])] "tags"
      (.member [("type", .string "array")] "items" .hole [("minItems", .number (.natural 1))]) [])
    [("required", .list [.string "tags"])]

/-- The place in `listContext` is the items of the property `tags`. -/
theorem listContext_leads : Leads .root listContext ["tags"] .items :=
  .property ⟨rfl, nofun⟩ (by decide)
    (.items nofun ⟨rfl, fun _ _ => rfl⟩ (by decide) (.here .items))

/-- A list of integers compiles, so a list of anything of an unknown type fails inside `tags`. -/
theorem listContext_fill_tuple :
    compile (listContext.fill (.object [("type", .string "integer")])) =
      .ok "\x7b \"id\" : <integer> | ε, \"tags\" : [<integer>+] \x7d" ∧
    compile (listContext.fill (.object [("type", .string "tuple")])) =
      .error (.inProperty "tags" (.unsupportedType "tuple")) := by
  refine ⟨rfl, ?_⟩
  obtain ⟨pre, post, hfill⟩ := compile_fill listContext ["tags"] .items listContext_leads nofun
    ⟨.object [("type", .string "integer")], _, ⟨_, rfl, nofun, nofun⟩, rfl⟩
  exact (hfill (.object [("type", .string "tuple")]) ⟨_, rfl, nofun, nofun⟩).2.1 _ rfl

end SchemaGrammar
